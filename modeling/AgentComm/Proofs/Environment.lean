import AgentComm.Lifecycle.Environment
import AgentComm.Proofs.StatusPage

/-!
# What a supervisor is told to watch

The names in the list of services are the words between its commas and blanks, and a supervisor
with a configuration from the environment watches these, and starts and stops nothing else.
-/

namespace AgentComm.Supervision

open Lib

variable {P : Python} {fixed : PyFloat → PyStr} {alerting : Bool} {vars : PyStr → Option PyStr}
  {c : Settings}

/-- What stands between the names of a list. -/
def separates (c : ℕ) : Bool := isSpace c || c = 44

/-- The names are the words of the list. -/
theorem parseServiceList_iff {raw : PyStr} {ws : List PyStr} :
    parseServiceList raw = ws ↔ Words separates raw ws := by
  have hmap : splitWords (raw.map fun c => if c = 44 then 32 else c) = words separates raw := by
    refine wordsFrom_map (fun c => ?_) (fun c hc => ?_) raw []
    · unfold separates
      split_ifs with hc
      · simp [hc, isSpace]
      · simp [hc]
    · unfold separates at hc
      rw [if_neg]
      rintro rfl
      simp at hc
  have hne : [] ∉ words separates raw := (words_iff.1 rfl).ne_nil
  have hall : (words separates raw).filter (· ≠ []) = words separates raw := by
    refine List.filter_eq_self.2 fun w hw => ?_
    simp only [ne_eq, decide_eq_true_eq]
    rintro rfl
    exact hne hw
  rw [← words_iff, parseServiceList, hmap, hall]
  split_ifs with hraw
  · rw [hraw]
    rfl
  · rfl

theorem fromEnv_ok (h : Settings.fromEnv P vars = .ok c) : c.validate = .ok ()
    ∧ c.services = parseServiceList ((vars (lit "ROBOTSIX_SUPERVISION_SERVICES")).getD []) := by
  obtain ⟨c', hparse, h⟩ := bind_eq_ok h
  obtain ⟨u, hvalid, h⟩ := bind_eq_ok h
  cases h
  refine ⟨hvalid, ?_⟩
  obtain ⟨_, -, h⟩ := bind_eq_ok hparse
  obtain ⟨_, -, h⟩ := bind_eq_ok h
  obtain ⟨_, -, h⟩ := bind_eq_ok h
  obtain ⟨_, -, h⟩ := bind_eq_ok h
  obtain ⟨_, -, h⟩ := bind_eq_ok h
  obtain ⟨_, -, h⟩ := bind_eq_ok h
  obtain ⟨_, -, h⟩ := bind_eq_ok h
  cases h
  rfl

variable (fixed alerting) in
/-- A supervisor watches the services that its environment names, and touches no other. -/
theorem environment_supervised (h : Settings.fromEnv P vars = .ok c) (cycles : List (List Poll)) :
    c.validate = .ok ()
      ∧ (∀ ws, Words separates ((vars (lit "ROBOTSIX_SUPERVISION_SERVICES")).getD []) ws
        ↔ ws = c.services)
      ∧ (supervised P fixed c.toSupervisionConfig alerting c.services cycles).names.Nodup
      ∧ (∀ n, n ∈ (supervised P fixed c.toSupervisionConfig alerting c.services cycles).names
        ↔ n ∈ c.services)
      ∧ ∀ e ∈ supervisedEvents P fixed c.toSupervisionConfig alerting c.services cycles,
        e.service ∈ c.services := by
  obtain ⟨hvalid, hservices⟩ := fromEnv_ok h
  refine ⟨hvalid, fun ws => ?_, SupervisionAgent.nodup_names _, fun n => mem_supervised,
    fun e he => ?_⟩
  · rw [← parseServiceList_iff, ← hservices, eq_comm]
  · obtain ⟨a, ha, hname⟩ := List.mem_map.1
      ((supervision_splits P fixed c.toSupervisionConfig alerting).tag_mem _ _ he)
    rw [← hname]
    exact mem_loopPolls ha

/-- Two services, one of them named twice. -/
def namedVars : PyStr → Option PyStr := fun key => Pairs.get? key [
  (lit "ROBOTSIX_SUPERVISION_POLL_INTERVAL_SECONDS", lit "30"),
  (lit "ROBOTSIX_SUPERVISION_HEALTH_TIMEOUT_SECONDS", lit "10"),
  (lit "ROBOTSIX_SUPERVISION_BACKOFF_BASE_SECONDS", lit "5"),
  (lit "ROBOTSIX_SUPERVISION_BACKOFF_MAX_SECONDS", lit "300"),
  (lit "ROBOTSIX_SUPERVISION_ESCALATION_COOLDOWN_SECONDS", lit "600"),
  (lit "ROBOTSIX_SUPERVISION_SERVICES", lit " web, mail,,web")]

theorem environment_supervised_named : ∃ c : Settings,
    Settings.fromEnv (plainPython []) namedVars = .ok c
      ∧ c.services = [lit "web", lit "mail", lit "web"]
      ∧ lit "mail" ∈ (supervised (plainPython []) (fun _ => []) c.toSupervisionConfig true
        c.services [[downPoll 0, downPoll 1]]).names
      ∧ ∀ e ∈ supervisedEvents (plainPython []) (fun _ => []) c.toSupervisionConfig true
        c.services [[downPoll 0, downPoll 1]], e.service ∈ c.services := by
  have hall : (Settings.fromEnv (plainPython []) namedVars).toOption.map Settings.services
      = some [lit "web", lit "mail", lit "web"] := by decide +kernel
  rcases hc : Settings.fromEnv (plainPython []) namedVars with e | c <;> rw [hc] at hall
  · cases hall
  · have hservices : c.services = [lit "web", lit "mail", lit "web"] := Option.some.inj hall
    obtain ⟨-, -, -, hnames, hevents⟩ := environment_supervised (fun _ => []) true hc
      [[downPoll 0, downPoll 1]]
    refine ⟨c, rfl, hservices, (hnames _).2 ?_, hevents⟩
    rw [hservices]
    exact .tail _ (.head _)

end AgentComm.Supervision
