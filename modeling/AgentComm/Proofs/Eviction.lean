import Mathlib.Tactic.Linarith
import Mathlib.Tactic.NormNum
import AgentComm.Broker.Handler
import AgentComm.Proofs.Entries

/-!
# Who a sweep evicts

A sweep takes out the registered agents that are overdue, past their TTL and past the grace of a
mailbox, and discovery calls none of them active unless the grace is negative.
-/

namespace AgentComm

open Lib

/-- The rational a float is, when it is finite. -/
def PyFloat.toRat? : PyFloat → Option ℚ
  | finite q => some q
  | negZero => some 0
  | inf _ => none
  | nan => none

/-- A registered agent with a TTL that expires, last heard of longer ago than the TTL and, for a
mailbox, the grace `g` allow. -/
def Entry.Overdue (g now : ℚ) (x : Entry) : Prop :=
  ∃ e lastHb ttl, x.endpoint = some e ∧ x.heartbeat = some lastHb ∧ x.ttl = some ttl
    ∧ 0 < ttl ∧ ttl + (if e.mailbox then g else 0) < now - lastHb

variable {cfg : ServerConfig} {g : ℚ}

theorem PyFloat.ge_add {x : PyFloat} (h : x.toRat? = some g) (q r : ℚ) :
    (x.add q).ge r = decide (r ≤ g + q) := by
  cases x <;> cases h
  · rfl
  · simp only [PyFloat.add, PyFloat.ge, zero_add]

theorem expired_iff (hg : cfg.mailboxGraceSeconds.toRat? = some g) (now lastHb : ℚ) (ttl : ℤ)
    (mailbox : Bool) : expired cfg now lastHb ttl mailbox = true
      ↔ 0 < ttl ∧ ttl + (if mailbox then g else 0) < now - lastHb := by
  have hgrace : (grace cfg mailbox).toRat? = some (if mailbox then g else 0) := by
    unfold grace
    split_ifs
    · exact hg
    · rfl
  simp only [expired, PyFloat.ge_add hgrace, Bool.and_eq_true, decide_eq_true_eq,
    Bool.not_eq_true', decide_eq_false_iff_not, not_le]
  rw [add_comm]

/-- What a sweep does to an entry: an overdue one goes, any other stays. -/
theorem entry_sweepOnce_cases (hg : cfg.mailboxGraceSeconds.toRat? = some g) (s : Stores)
    (now : ℚ) (a : PyStr) :
    ((s.entry a).Overdue g now ∧ (sweepOnce cfg now s).entry a = .blank)
      ∨ (¬ (s.entry a).Overdue g now ∧ (sweepOnce cfg now s).entry a = s.entry a) := by
  rw [entry_sweepOnce]
  generalize s.entry a = x
  rcases x with ⟨_ | e, caps, _ | lastHb, _ | ttl, queue⟩
  case some.some.some =>
    simp only [Entry.sweep]
    split_ifs with hx
    · obtain ⟨hpos, hlate⟩ := (expired_iff hg now lastHb ttl e.mailbox).1 hx
      exact .inl ⟨⟨e, lastHb, ttl, rfl, rfl, rfl, hpos, hlate⟩, rfl⟩
    · refine .inr ⟨?_, rfl⟩
      rintro ⟨_, _, _, ⟨⟩, ⟨⟩, ⟨⟩, hpos, hlate⟩
      exact hx ((expired_iff hg now lastHb ttl e.mailbox).2 ⟨hpos, hlate⟩)
  all_goals
    refine .inr ⟨?_, rfl⟩
    rintro ⟨_, _, _, ⟨⟩, ⟨⟩, ⟨⟩, -⟩

theorem AgentStatus.value_injective : Function.Injective AgentStatus.value := by
  intro a b h
  cases a <;> cases b <;> first | rfl | exact absurd h (by decide)

theorem buildAgentEntry_status (s : Stores) (now : ℚ) (a : PyStr) (caps : Fields) :
    (buildAgentEntry s now a caps).get (lit "status")
      = .str (agentStatus (s.entry a).heartbeat (s.entry a).ttl now).value := rfl

/-- An active agent is not overdue, unless the grace takes from its TTL. -/
theorem not_overdue_of_active {x : Entry} {now : ℚ} (h : 0 ≤ g)
    (hactive : agentStatus x.heartbeat x.ttl now = .active) : ¬ x.Overdue g now := by
  rintro ⟨e, lastHb, ttl, -, hh, ht, hpos, hlate⟩
  simp only [hh, ht, agentStatus, if_neg (not_le.2 hpos)] at hactive
  split_ifs at hactive with hage
  have hg : (0 : ℚ) ≤ if e.mailbox then g else 0 := by
    split_ifs
    · exact h
    · exact le_refl _
  linarith

/-- A sweep removes a registered agent from all five stores just when it is overdue, leaves the
entry of every agent that is not overdue as it is, and with no negative grace keeps every agent
that discovery calls active at that instant. -/
theorem sweep_evicts_overdue (hg : cfg.mailboxGraceSeconds.toRat? = some g) (s : Stores)
    (now : ℚ) :
    (∀ a, (s.entry a).endpoint.isSome →
      ((sweepOnce cfg now s).entry a = .blank ↔ (s.entry a).Overdue g now))
    ∧ (∀ a, ¬ (s.entry a).Overdue g now → (sweepOnce cfg now s).entry a = s.entry a)
    ∧ (0 ≤ g → ∀ a caps, (buildAgentEntry s now a caps).get (lit "status")
        = .str AgentStatus.active.value → (sweepOnce cfg now s).entry a = s.entry a) := by
  have hstays : ∀ a, ¬ (s.entry a).Overdue g now →
      (sweepOnce cfg now s).entry a = s.entry a := by
    intro a ha
    rcases entry_sweepOnce_cases hg s now a with ⟨hover, -⟩ | ⟨-, hsame⟩
    · exact absurd hover ha
    · exact hsame
  refine ⟨fun a hreg => ?_, hstays, fun h a caps hactive => hstays a ?_⟩
  · rcases entry_sweepOnce_cases hg s now a with ⟨hover, hgone⟩ | ⟨hover, hsame⟩
    · exact iff_of_true hgone hover
    · refine iff_of_false (fun hgone => ?_) hover
      rw [← hsame, hgone] at hreg
      cases hreg
  · rw [buildAgentEntry_status, Json.str.injEq] at hactive
    exact not_overdue_of_active h (AgentStatus.value_injective hactive)

/-- One mailbox with a TTL of a minute, last heard of at the start. -/
def oneMailbox : Stores := autoRegisterStores .defaults 0 (lit "a") .empty

/-- It is there until its TTL and the grace are over, and gone after that. -/
theorem sweep_evicts_overdue_mailbox :
    (sweepOnce .defaults 90 oneMailbox).entry (lit "a") = oneMailbox.entry (lit "a")
      ∧ (sweepOnce .defaults 91 oneMailbox).entry (lit "a") = .blank := by
  have hg : ServerConfig.defaults.mailboxGraceSeconds.toRat? = some 30 := rfl
  have hentry : oneMailbox.entry (lit "a")
      = ⟨some (Entry.mailboxEndpoint (lit "a")), some [], some 0, some 60, some []⟩ := rfl
  constructor
  · refine (sweep_evicts_overdue hg oneMailbox 90).2.1 _ ?_
    rintro ⟨_, _, _, he, hh, ht, -, hlate⟩
    rw [hentry] at he hh ht
    cases he
    cases hh
    cases ht
    norm_num [Entry.mailboxEndpoint] at hlate
  · refine ((sweep_evicts_overdue hg oneMailbox 91).1 _ (by rw [hentry]; rfl)).2 ?_
    rw [hentry]
    exact ⟨_, 0, 60, rfl, rfl, rfl, by norm_num, by norm_num [Entry.mailboxEndpoint]⟩

end AgentComm
