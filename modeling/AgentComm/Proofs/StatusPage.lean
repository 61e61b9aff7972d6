import AgentComm.Lifecycle.Status
import AgentComm.Proofs.BackoffLaw

/-!
# What the status page tells

What the supervisor keeps about a service can be read off the incidents it has recorded of it and
the calls it has made for it, over all its life. The page lists the services it was started with,
and tells of each what was recorded.
-/

namespace AgentComm.Supervision

open Lib

variable {P : Python} {fixed : PyFloat → PyStr} {cfg : SupervisionConfig} {alerting : Bool}
variable {n : PyStr} {p : Poll} {w : Watch} {es : List Event} {st : ServiceState}

/-! ### A service's state and its events -/

/-- The times of the incidents of a kind. -/
def timesOf (kind : IncidentKind) (is : List Incident) : List ℚ :=
  (is.filter (·.kind = kind)).map Incident.timestamp

@[simp] theorem timesOf_append (kind : IncidentKind) (is is' : List Incident) :
    timesOf kind (is ++ is') = timesOf kind is ++ timesOf kind is' := by
  simp [timesOf]

/-- The attempts of the restarts. -/
def attemptsIn (is : List Incident) : List ℕ := is.filterMap Incident.attempt

@[simp] theorem attemptsIn_append (is is' : List Incident) :
    attemptsIn (is ++ is') = attemptsIn is ++ attemptsIn is' := by
  simp [attemptsIn]

/-- The state of a service, as its events tell it: those that have been recorded, restarts that
are numbered from one and each made with one call of `start`, and the times of the last of them.
The last of an escalated service's incidents is its escalation. -/
structure Told (alerting : Bool) (es : List Event) (st : ServiceState) : Prop where
  incidents : st.incidents = incidentsIn es
  alerts : alertsIn es = if alerting then incidentsIn es else []
  attempts : attemptsIn (incidentsIn es) = List.range' 1 st.restartCount
  starts : es.countP Event.isStart = st.restartCount
  lastRestart : st.lastRestart = (timesOf .restarted (incidentsIn es)).getLast?
  escalationTime : st.escalationTime = (timesOf .escalated (incidentsIn es)).getLast?
  escalated : st.escalated = true →
    st.healthy = false ∧ (incidentsIn es).getLast?.map Incident.kind = some .escalated
  healthy : st.healthy = true ↔ st.consecutiveFailures = 0
  down : st.healthy = false → st.lastFailure = some st.lastHealthCheck

theorem told_fresh : Told alerting [] (.fresh n) where
  incidents := rfl
  alerts := by simp [alertsIn, incidentsIn]
  attempts := rfl
  starts := rfl
  lastRestart := rfl
  escalationTime := rfl
  escalated h := by simp [ServiceState.fresh] at h
  healthy := by simp [ServiceState.fresh]
  down h := by simp [ServiceState.fresh] at h

section Moves

variable (mv : Move)

@[simp] theorem timesOf_restarted_incidentsOf :
    timesOf .restarted (w.incidentsOf P fixed cfg n p mv)
      = if mv = .restarts then [p.now] else [] := restartTimes_incidentsOf mv

@[simp] theorem timesOf_escalated_incidentsOf :
    timesOf .escalated (w.incidentsOf P fixed cfg n p mv)
      = if mv = .escalates then [p.now] else [] := by
  have hnoted : timesOf .escalated (w.noted P n p) = [] := by
    unfold Watch.noted
    split_ifs <;> rfl
  cases mv <;> simp only [Watch.incidentsOf, timesOf_append, hnoted] <;> rfl

@[simp] theorem attemptsIn_incidentsOf : attemptsIn (w.incidentsOf P fixed cfg n p mv)
    = if mv = .restarts then [w.state.restartCount + 1] else [] := by
  have hnoted : attemptsIn (w.noted P n p) = [] := by
    unfold Watch.noted
    split_ifs <;> rfl
  cases mv <;> simp only [Watch.incidentsOf, attemptsIn_append, hnoted] <;> rfl

end Moves

/-- A poll keeps what the events tell. -/
theorem Told.step (h : Told alerting es w.state) :
    Told alerting (es ++ w.eventsOf P fixed cfg alerting n p (w.move cfg p))
      (w.afterMove P fixed cfg n p (w.move cfg p)).state := by
  have hguard := w.move_guard cfg p
  generalize w.move cfg p = mv at hguard ⊢
  have hrecorded : incidentsIn (es ++ w.eventsOf P fixed cfg alerting n p mv)
      = incidentsIn es ++ w.incidentsOf P fixed cfg n p mv := by
    rw [incidentsIn_append, incidentsIn_eventsOf]
  constructor
  case incidents => rw [afterMove_incidents, hrecorded, h.incidents]
  case alerts =>
    rw [alertsIn_append, alertsIn_eventsOf, hrecorded, h.alerts]
    split_ifs <;> rfl
  case attempts =>
    rw [hrecorded, attemptsIn_append, h.attempts, attemptsIn_incidentsOf]
    cases mv <;> simp [Watch.afterMove, Watch.failed, List.range'_concat, Nat.add_comm]
  case starts =>
    rw [List.countP_append, countP_isStart, h.starts]
    cases mv <;> simp [Watch.afterMove, Watch.failed]
  case lastRestart =>
    rw [hrecorded, timesOf_append, timesOf_restarted_incidentsOf]
    cases mv <;> simp [Watch.afterMove, Watch.failed, h.lastRestart]
  case escalationTime =>
    rw [hrecorded, timesOf_append, timesOf_escalated_incidentsOf]
    cases mv <;> simp [Watch.afterMove, Watch.failed, h.escalationTime]
  case escalated =>
    rw [hrecorded]
    cases mv
    case waits => simpa [Watch.afterMove, Watch.incidentsOf] using h.escalated
    case recovers => simp [Watch.afterMove]
    case idles =>
      have hlast := (h.escalated hguard.2.2).2
      simpa [Watch.afterMove, Watch.failed, Watch.incidentsOf] using fun _ => hlast
    case escalates =>
      simp [Watch.afterMove, Watch.failed, Watch.incidentsOf, Watch.escalation, escalatedIncident]
    case withholds => simp [Watch.afterMove, Watch.failed, hguard.2.2.1]
    case restarts => simp [Watch.afterMove, Watch.failed, hguard.2.2.1]
  case healthy => cases mv <;> simp [Watch.afterMove, Watch.failed, h.healthy]
  case down =>
    cases mv <;> simp [Watch.afterMove, Watch.failed]
    exact h.down

variable (P fixed cfg alerting n) in
/-- Over all its life the events of a service tell its state. -/
theorem told_run (ps : List Poll) :
    Told alerting ((watching P fixed cfg alerting n).output ⟨.fresh n, none, none⟩ ps)
      ((watching P fixed cfg alerting n).after ⟨.fresh n, none, none⟩ ps).state :=
  Mealy.invariant (M := watching P fixed cfg alerting n)
    (I := fun _ es w => Told alerting es w.state) (C := fun _ _ => True) told_fresh
    (fun _ h _ => h.step) ps fun _ _ _ _ => trivial

/-! ### The services on the page -/

namespace SupervisionAgent

variable {s : SupervisionAgent} {services : List PyStr} {m : PyStr}

/-- The services that have a state, in the order they came in. -/
def names (s : SupervisionAgent) : List PyStr := s.servicesState.entries.map Prod.fst

@[simp] theorem names_init : init.names = [] := rfl

section Names

variable {f : ServiceState → ServiceState} {hf : ∀ st, (f st).serviceName = st.serviceName}

@[simp] theorem names_modify :
    (s.modify n f hf).names = if n ∈ s.names then s.names else s.names ++ [n] := by
  split_ifs with h
  · exact Pairs.keys_set_of_mem _ h
  · exact Pairs.keys_set_of_not_mem _ h

@[simp] theorem names_setBackoff (b : PyFloat) : (s.setBackoff n b).names = s.names := rfl

@[simp] theorem names_popBackoff : (s.popBackoff n).names = s.names := rfl

@[simp] theorem names_setDeadline (d : PyFloat) : (s.setDeadline n d).names = s.names := rfl

@[simp] theorem names_popDeadline : (s.popDeadline n).names = s.names := rfl

end Names

/-- A poll of a service that has a state adds none. -/
theorem pollService_names (h : n ∈ s.names) :
    (pollService P fixed cfg alerting n p s).1.names = s.names := by
  have happend : ∀ (s' : SupervisionAgent) (i : Incident), s'.names = s.names →
      (append alerting p n i s').1.names = s.names := by
    intro s' i hs
    simp [append, hs, h]
  have hfailed : (pollFailed n p s).names = s.names := by simp [pollFailed, h]
  have hnoted : (pollNoted P alerting n p s).1.names = s.names := by
    unfold pollNoted
    split_ifs
    · exact happend _ _ hfailed
    · exact hfailed
  have hrestart : (attemptRestart P cfg alerting p n (pollNoted P alerting n p s).1).1.names
      = s.names := by
    simp only [attemptRestart]
    split_ifs
    · exact hnoted
    · exact happend _ _ (by simp [hnoted, h])
  rw [pollService_eq]
  split_ifs
  · simp [h]
  · simp [pollRecovered, h]
  · exact hfailed
  · unfold pollActed
    split_ifs
    · exact happend _ _ (by simp [hnoted, h])
    · exact hrestart

/-- `start` gives every service a state. -/
theorem mem_initServices : ∀ (services : List PyStr) (s : SupervisionAgent),
    m ∈ (initServices services s).names ↔ m ∈ s.names ∨ m ∈ services
  | [], s => by simp [initServices]
  | name :: services, s => by
    have ih := mem_initServices services
    unfold initServices at ih ⊢
    rw [List.foldl_cons, ih]
    split_ifs with hc
    · have hmem : name ∈ s.names := Dict.contains_iff.1 hc
      simp only [List.mem_cons]
      constructor
      · exact Or.imp_right .inr
      · rintro (h | rfl | h)
        · exact .inl h
        · exact .inl hmem
        · exact .inr h
    · have hmem : name ∉ s.names := fun h => hc (Dict.contains_iff.2 h)
      simp [hmem, or_assoc]

/-- Each service once. -/
theorem nodup_names (s : SupervisionAgent) : s.names.Nodup := s.servicesState.nodup

/-- Services that are all different are listed in the order they are configured in. -/
theorem initServices_names : ∀ (services : List PyStr) (s : SupervisionAgent),
    (s.names ++ services).Nodup → (initServices services s).names = s.names ++ services
  | [], s, _ => by simp [initServices]
  | name :: services, s, h => by
    have hnew : name ∉ s.names := fun hmem =>
      List.disjoint_of_nodup_append h hmem List.mem_cons_self
    have hc : ¬ s.servicesState.contains name = true := fun hc => hnew (Dict.contains_iff.1 hc)
    have hnames : (s.modify name id fun _ => rfl).names = s.names ++ [name] := by simp [hnew]
    have ih := initServices_names services (s.modify name id fun _ => rfl) (by
      rwa [hnames, List.append_assoc, List.singleton_append])
    unfold initServices at ih ⊢
    rw [List.foldl_cons, if_neg hc, ih, hnames, List.append_assoc, List.singleton_append]

theorem initServices_watch : ∀ (services : List PyStr) (s : SupervisionAgent),
    (initServices services s).watch n = s.watch n
  | [], _ => rfl
  | name :: services, s => by
    have hmodify : (s.modify name id fun _ => rfl).watch n = s.watch n := by
      by_cases hn : name = n
      · rw [hn, watch_modify]
        rfl
      · exact watch_modify_of_ne s id _ hn
    have ih := initServices_watch services
    unfold initServices at ih ⊢
    rw [List.foldl_cons, ih]
    split_ifs
    · rfl
    · exact hmodify

end SupervisionAgent

open SupervisionAgent

/-- The cycles poll the services they go through. -/
theorem mem_loopPolls {services : List PyStr} {cycles : List (List Poll)} {a : PyStr × Poll}
    (h : a ∈ loopPolls services cycles) : a.1 ∈ services := by
  obtain ⟨cycle, -, ha⟩ := List.mem_flatMap.1 h
  exact (List.of_mem_zip ha).1

theorem names_after : ∀ (ps : List (PyStr × Poll)) {s : SupervisionAgent},
    (∀ a ∈ ps, a.1 ∈ s.names) → ((supervision P fixed cfg alerting).after s ps).names = s.names
  | [], _, _ => rfl
  | (n, p) :: ps, s, h => by
    have hfirst : ((supervision P fixed cfg alerting).step s (n, p)).1.names = s.names :=
      pollService_names (h _ List.mem_cons_self)
    rw [Mealy.after_cons, names_after ps, hfirst]
    rw [hfirst]
    exact fun a ha => h a (List.mem_cons_of_mem _ ha)

variable (P fixed cfg alerting) in
/-- The supervisor of the services after the cycles. -/
def supervised (services : List PyStr) (cycles : List (List Poll)) : SupervisionAgent :=
  (supervision P fixed cfg alerting).after (initServices services .init)
    (loopPolls services cycles)

variable (P fixed cfg alerting) in
/-- What it has done. -/
def supervisedEvents (services : List PyStr) (cycles : List (List Poll)) : List Event :=
  (supervision P fixed cfg alerting).output (initServices services .init)
    (loopPolls services cycles)

variable (P fixed cfg alerting) in
/-- The services that have a state are those of the configuration, as `start` set them up. -/
theorem supervised_names (services : List PyStr) (cycles : List (List Poll)) :
    (supervised P fixed cfg alerting services cycles).names = (initServices services init).names :=
  names_after _ fun _ ha => (mem_initServices services init).2 (.inr (mem_loopPolls ha))

theorem mem_supervised {services : List PyStr} {cycles : List (List Poll)} :
    n ∈ (supervised P fixed cfg alerting services cycles).names ↔ n ∈ services := by
  rw [supervised_names, mem_initServices, names_init]
  simp

/-- The states the page tells of are those of the services, each once, in the order of the
configuration if that names none twice; and each is as its events tell it. -/
structure PageTells (alerting : Bool) (services : List PyStr) (es : List Event)
    (page : List (PyStr × ServiceState)) : Prop where
  once : (page.map Prod.fst).Nodup
  all : ∀ n, n ∈ page.map Prod.fst ↔ n ∈ services
  order : services.Nodup → page.map Prod.fst = services
  told : ∀ e ∈ page, Told alerting (own e.1 es) e.2

/-- Whenever the status page is asked for between two polls, it tells what was recorded. -/
theorem status_page_tells (services : List PyStr) (cycles : List (List Poll)) (running : Bool) :
    ∃ page, (supervised P fixed cfg alerting services cycles).doGET (lit "/status") running
        cycles.length
      = (200, [(lit "services", .obj (page.map fun e => (e.1, e.2.summary))),
        (lit "running", .bool running), (lit "poll_count", .int cycles.length)])
      ∧ PageTells alerting services (supervisedEvents P fixed cfg alerting services cycles)
        page := by
  have hnames := supervised_names P fixed cfg alerting services cycles
  refine ⟨(supervised P fixed cfg alerting services cycles).servicesState.entries, rfl,
    nodup_names _, fun n => mem_supervised, fun hnodup => ?_, fun e he => ?_⟩
  · exact hnames.trans (initServices_names services init (by simpa using hnodup))
  · have hsplit := supervision_splits P fixed cfg alerting
    have hwatch : (initServices services init).watch e.1 = ⟨.fresh e.1, none, none⟩ :=
      initServices_watch services init
    have hstate := congrArg Watch.state
      (hsplit.after e.1 (initServices services init) (loopPolls services cycles))
    have hown := hsplit.output e.1 (initServices services init) (loopPolls services cycles)
    have hentry : ((supervised P fixed cfg alerting services cycles).watch e.1).state = e.2 := by
      rw [← getState_eq, getState, Dict.mem_entries.1 he, Option.getD_some]
    have htold := told_run P fixed cfg alerting e.1 (Mealy.mine e.1 (loopPolls services cycles))
    rw [hwatch] at hstate hown
    rw [← hentry, own, supervisedEvents, hown]
    exact hstate ▸ htold

end AgentComm.Supervision
