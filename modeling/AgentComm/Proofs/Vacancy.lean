import AgentComm.Proofs.Sections

/-!
# An id that stays off the broker

Only a thread that was about to register an id puts it on the registry, and only one that was about
to write to its mailbox makes one. A thread comes to registering an id from a request to do so or
from a poll that finds no mailbox, and to its mailbox from registering it or with a message to an
id it found registered. So an id that was removed while no such thread was about stays away, unless
a poll of it or a registration comes.
-/

namespace AgentComm

open Lib

variable {cfg : ServerConfig} {a : PyStr}

namespace Section

def lists (a : PyStr) : Section → Bool
  | putEndpoint e => e.agentId = a
  | _ => false

def fills (a : PyStr) : Section → Bool
  | ensureMailbox b | enqueue b _ => b = a
  | _ => false

variable {s : Stores} {sec : Section}

theorem endpoint_none (h : sec.lists a = false) (he : (s.entry a).endpoint = none) :
    (sec.onEntry a (s.entry a)).endpoint = none := by
  cases sec with
  | putEndpoint e =>
    rw [onEntry, if_neg (of_decide_eq_false h)]
    exact he
  | _ =>
    simp only [onEntry]
    try split_ifs
    all_goals first | rfl | exact he

theorem queue_none (hcur : sec.Current s) (h : sec.fills a = false)
    (hq : (s.entry a).queue = none) : (sec.onEntry a (s.entry a)).queue = none := by
  cases sec with
  | ensureMailbox b | enqueue b m =>
    rw [onEntry, if_neg (of_decide_eq_false h)]
    exact hq
  | drain b mbox =>
    rw [onEntry, if_neg]
    · exact hq
    · rintro rfl
      have hsome := s.mailboxes.queue_isSome b
      rw [hcur, show s.mailboxes.queue b = none from hq] at hsome
      cases hsome
  | _ =>
    simp only [onEntry]
    try split_ifs
    all_goals first | rfl | exact hq

end Section

namespace Thread

/-- It has yet to register `a`. -/
def registers (a : PyStr) : Thread → Bool
  | registerLookup r | registerEndpoint r _ => r.agentId = a
  | autoEndpoint b _ => b = a
  | _ => false

/-- It has yet to write to the mailbox of `a`. -/
def boxes (a : PyStr) : Thread → Bool
  | registerMailbox r _ => r.agentId = a
  | autoMailbox b _ | sendEnqueue b _ => b = a
  | _ => false

/-- It has yet to take `a` off the registry. -/
def unlists (a : PyStr) : Thread → Bool
  | deregisterEndpoint b => b = a
  | _ => false

/-- It has yet to drop the mailbox of `a`. -/
def unboxes (a : PyStr) : Thread → Bool
  | deregisterEndpoint b | deregisterCapabilities b | deregisterHeartbeat b
  | deregisterMailbox b => b = a
  | _ => false

variable {now : ℚ} {s : Stores} {t t' : Thread} {sec : Section}

theorem eq_of_unlists (h : t.unlists a) : t = .deregisterEndpoint a := by
  cases t with
  | deregisterEndpoint b => rw [of_decide_eq_true h]
  | _ => cases h

theorem unboxes_of_unlists (h : t.unlists a) : t.unboxes a := by
  rw [eq_of_unlists h]
  exact decide_eq_true rfl

/-- It is not about to do anything to the registration of `a` or to its mailbox. -/
def Calm (a : PyStr) (t : Thread) : Prop :=
  t.registers a = false ∧ t.boxes a = false ∧ t.unboxes a = false

theorem Calm.ended (answer : Answer) : (done answer).Calm a := ⟨rfl, rfl, rfl⟩

/-- A step leads nowhere near `a`, or goes on with a registration of `a`, or is that of a poll of
`a` that finds no mailbox or of a message that finds `a` registered, or goes on with a removal. -/
theorem step_stages (a : PyStr) (h : t.step cfg now s = some (sec, t')) :
    t'.Calm a ∨ (t.registers a ∧ t'.unboxes a = false)
      ∨ (∃ wait, t = .pollCheck a wait ∧ (s.entry a).queue = none ∧ t' = .autoEndpoint a wait)
      ∨ (∃ m, t = .sendLookup a m ∧ (s.entry a).endpoint.isSome ∧ t' = .sendEnqueue a m)
      ∨ (t.unboxes a ∧ t'.registers a = false ∧ t'.boxes a = false ∧ t'.unlists a = false) := by
  cases t with
  | registerLookup r =>
    cases h
    by_cases hr : r.agentId = a
    · exact .inr (.inl ⟨decide_eq_true hr, rfl⟩)
    · exact .inl ⟨decide_eq_false hr, rfl, rfl⟩
  | registerEndpoint r isNew =>
    cases h
    by_cases hr : r.agentId = a
    · refine .inr (.inl ⟨decide_eq_true hr, ?_⟩)
      split_ifs <;> rfl
    · left
      split_ifs
      · exact ⟨rfl, decide_eq_false hr, rfl⟩
      · exact ⟨rfl, rfl, rfl⟩
  | autoEndpoint b wait =>
    cases h
    by_cases hb : b = a
    · exact .inr (.inl ⟨decide_eq_true hb, rfl⟩)
    · exact .inl ⟨rfl, decide_eq_false hb, rfl⟩
  | pollCheck b wait =>
    cases h
    split_ifs with hq
    · exact .inl ⟨rfl, rfl, rfl⟩
    · by_cases hb : b = a
      · subst hb
        rw [← Deques.queue_isSome, Bool.not_eq_true, Option.isSome_eq_false_iff,
          Option.isNone_iff_eq_none] at hq
        exact .inr (.inr (.inl ⟨wait, rfl, hq, rfl⟩))
      · exact .inl ⟨decide_eq_false hb, rfl, rfl⟩
  | sendLookup b m =>
    cases h
    split
    · exact .inl (.ended _)
    · rename_i e he
      split_ifs
      · by_cases hb : b = a
        · subst hb
          refine .inr (.inr (.inr (.inl ⟨m, rfl, ?_, rfl⟩)))
          rw [Stores.entry, he]
          rfl
        · exact .inl ⟨rfl, decide_eq_false hb, rfl⟩
      · exact .inl ⟨rfl, rfl, rfl⟩
  | deregisterEndpoint b | deregisterCapabilities b | deregisterHeartbeat b =>
    cases h
    by_cases hb : b = a
    · exact .inr (.inr (.inr (.inr ⟨decide_eq_true hb, rfl, rfl, rfl⟩)))
    · exact .inl ⟨rfl, rfl, decide_eq_false hb⟩
  | sendRoute b =>
    cases h
    split <;> exact .inl (.ended _)
  | pollEnter | pollWait =>
    rcases Thread.step_looks rfl h with ⟨-, -, rfl⟩ | ⟨_, -, -, rfl⟩ | ⟨_, _, -, -, rfl⟩ <;>
      exact .inl ⟨rfl, rfl, rfl⟩
  | sweepRead time es =>
    left
    rcases es with _ | ⟨e, es⟩
    · cases h
      exact .ended _
    · cases h
      split
      · split_ifs <;> exact ⟨rfl, rfl, rfl⟩
      · exact ⟨rfl, rfl, rfl⟩
  | idle | done => cases h
  | _ =>
    cases h
    exact .inl ⟨rfl, rfl, rfl⟩

theorem registers_of_step (h : t.step cfg now s = some (sec, t')) (h' : t'.registers a) :
    t.registers a ∨ ∃ wait, t = .pollCheck a wait ∧ (s.entry a).queue = none := by
  rcases step_stages a h with hc | ⟨hr, -⟩ | ⟨wait, ht, hq, -⟩ | ⟨m, -, -, rfl⟩ | ⟨-, hr, -⟩
  · rw [hc.1] at h'
    cases h'
  · exact .inl hr
  · exact .inr ⟨wait, ht, hq⟩
  · cases h'
  · rw [hr] at h'
    cases h'

theorem boxes_of_step (h : t.step cfg now s = some (sec, t')) (h' : t'.boxes a) :
    t.registers a ∨ (s.entry a).endpoint.isSome := by
  rcases step_stages a h with hc | ⟨hr, -⟩ | ⟨wait, -, -, rfl⟩ | ⟨m, -, he, -⟩ | ⟨-, -, hb, -⟩
  · rw [hc.2.1] at h'
    cases h'
  · exact .inl hr
  · cases h'
  · exact .inr he
  · rw [hb] at h'
    cases h'

theorem unboxes_of_step (h : t.step cfg now s = some (sec, t')) (h' : t'.unboxes a) :
    t.unboxes a ∧ t'.unlists a = false := by
  rcases step_stages a h with hc | ⟨-, hu⟩ | ⟨wait, -, -, rfl⟩ | ⟨m, -, -, rfl⟩ | ⟨hu, -, -, hl⟩
  · rw [hc.2.2] at h'
    cases h'
  · rw [hu] at h'
    cases h'
  · cases h'
  · cases h'
  · exact ⟨hu, hl⟩

/-- The last section of a removal drops the mailbox. -/
theorem eq_of_unboxes_last (h : t.step cfg now s = some (sec, t')) (hu : t.unboxes a)
    (hu' : t'.unboxes a = false) : t = .deregisterMailbox a := by
  cases t with
  | deregisterMailbox b => rw [show b = a from of_decide_eq_true hu]
  | deregisterEndpoint b | deregisterCapabilities b | deregisterHeartbeat b =>
    cases h
    exact absurd hu (Bool.eq_false_iff.1 hu')
  | _ => cases hu

/-- Endpoints are put, and mailboxes made, by threads that had yet to do it. -/
theorem writes_of_step (a : PyStr) (h : t.step cfg now s = some (sec, t')) :
    (sec.lists a → t.registers a) ∧ (sec.fills a → t.boxes a) := by
  cases t with
  | registerEndpoint | autoEndpoint =>
    cases h
    exact ⟨id, fun hf => by cases hf⟩
  | registerMailbox | autoMailbox | sendEnqueue =>
    cases h
    refine ⟨fun hl => ?_, id⟩
    cases hl
  | pollEnter | pollWait =>
    refine ⟨fun hl => ?_, fun hf => ?_⟩
    · rcases Thread.step_looks rfl h with ⟨-, rfl, -⟩ | ⟨_, -, rfl, -⟩ | ⟨_, _, -, rfl, -⟩ <;>
        cases hl
    · rcases Thread.step_looks rfl h with ⟨-, rfl, -⟩ | ⟨_, -, rfl, -⟩ | ⟨_, _, -, rfl, -⟩ <;>
        cases hf
  | sweepRead time es =>
    refine ⟨fun hl => ?_, fun hf => ?_⟩
    · rcases es with _ | ⟨e, es⟩ <;> cases h <;> cases hl
    · rcases es with _ | ⟨e, es⟩ <;> cases h <;> cases hf
  | idle | done => cases h
  | _ =>
    cases h
    refine ⟨fun hl => ?_, fun hf => ?_⟩
    · cases hl
    · cases hf

end Thread

/-- `a` is not registered, and no thread is about to register it. -/
structure Unlisted (a : PyStr) (w : World) : Prop where
  endpoint : (w.stores.entry a).endpoint = none
  threads : ∀ j, (w.threads j).registers a = false

/-- `a` has no mailbox, and no thread is about to write to it. -/
structure Unboxed (a : PyStr) (w : World) : Prop where
  queue : (w.stores.entry a).queue = none
  threads : ∀ j, (w.threads j).boxes a = false

variable {w w' : World} {act : Action} {es : List Event}

theorem Unlisted.boot (clock : ℚ) : Unlisted a (World.boot clock) := ⟨rfl, fun _ => rfl⟩

theorem Unboxed.boot (clock : ℚ) : Unboxed a (World.boot clock) := ⟨rfl, fun _ => rfl⟩

/-- An id stays off the registry while no request to register it comes and no poll of it finds
its mailbox gone. -/
theorem Unlisted.step (h : Unlisted a w) (hs : (brokerLts cfg).step w act = some (w', es))
    (hspawn : ∀ i call, act = .spawn i call → call.start.registers a = false)
    (hpoll : ∀ i wait, act = .run i → w.threads i = .pollCheck a wait →
      (w.stores.entry a).queue ≠ none) : Unlisted a w' := by
  rcases World.step_cases hs with ⟨i, call, rfl, -, -, rfl⟩ | ⟨i, sec, t, rfl, hstep, rfl, -⟩
    | ⟨d, rfl, -, rfl, -⟩ | ⟨rfl, rfl, -⟩
  · refine ⟨h.endpoint, fun j => ?_⟩
    simp only [Function.update_apply]
    split_ifs
    · exact hspawn i call rfl
    · exact h.threads j
  · refine ⟨?_, World.all_advance (p := fun t => t.registers a = false) h.threads ?_⟩
    · rw [World.entry_advance hstep]
      refine Section.endpoint_none (Bool.eq_false_iff.2 fun hl => ?_) h.endpoint
      exact Bool.eq_false_iff.1 (h.threads i) ((Thread.writes_of_step a hstep).1 hl)
    · refine Bool.eq_false_iff.2 fun hr => ?_
      rcases Thread.registers_of_step hstep hr with hr | ⟨wait, ht, hq⟩
      · exact Bool.eq_false_iff.1 (h.threads i) hr
      · exact hpoll i wait rfl ht hq
  · exact ⟨h.endpoint, h.threads⟩
  · exact .boot _

/-- An id that is off the registry stays without a mailbox. -/
theorem Unboxed.step (h : Unboxed a w) (hl : Unlisted a w)
    (hs : (brokerLts cfg).step w act = some (w', es)) : Unboxed a w' := by
  rcases World.step_cases hs with ⟨i, call, rfl, -, -, rfl⟩ | ⟨i, sec, t, rfl, hstep, rfl, -⟩
    | ⟨d, rfl, -, rfl, -⟩ | ⟨rfl, rfl, -⟩
  · refine ⟨h.queue, fun j => ?_⟩
    simp only [Function.update_apply]
    split_ifs
    · cases call <;> rfl
    · exact h.threads j
  · refine ⟨?_, World.all_advance (p := fun t => t.boxes a = false) h.threads ?_⟩
    · rw [World.entry_advance hstep]
      refine Section.queue_none (Thread.step_current hstep) (Bool.eq_false_iff.2 fun hf => ?_)
        h.queue
      exact Bool.eq_false_iff.1 (h.threads i) ((Thread.writes_of_step a hstep).2 hf)
    · refine Bool.eq_false_iff.2 fun hb => ?_
      rcases Thread.boxes_of_step hstep hb with hr | he
      · exact Bool.eq_false_iff.1 (hl.threads i) hr
      · rw [hl.endpoint] at he
        cases he
  · exact ⟨h.queue, h.threads⟩
  · exact .boot _

theorem World.exists_step {i : ℕ} (hs : (brokerLts cfg).step w (.run i) = some (w', es)) :
    ∃ sec t, (w.threads i).step cfg w.clock w.stores = some (sec, t) := by
  rcases World.step_cases hs with ⟨_, _, hact, -⟩ | ⟨j, sec, t, hact, hstep, -⟩ | ⟨_, hact, -⟩
    | ⟨hact, -⟩ <;> cases hact
  exact ⟨sec, t, hstep⟩

theorem World.run_eq {i : ℕ} {sec : Section} {t : Thread}
    (hi : (w.threads i).step cfg w.clock w.stores = some (sec, t))
    (hs : (brokerLts cfg).step w (.run i) = some (w', es)) : w' = w.advance i sec t := by
  rw [World.step_run hi] at hs
  cases hs
  rfl

/-- The removal takes `a` off the registry. -/
theorem Unlisted.remove {i : ℕ} (hi : w.threads i = .deregisterEndpoint a)
    (hs : (brokerLts cfg).step w (.run i) = some (w', es))
    (hk : ∀ k, (w.threads k).registers a = false) : Unlisted a w' := by
  have hstep : (w.threads i).step cfg w.clock w.stores
      = some (.delEndpoint a, .deregisterCapabilities a) := by rw [hi]; rfl
  rw [World.run_eq hstep hs]
  refine ⟨?_, World.all_advance (p := fun t => t.registers a = false) hk rfl⟩
  rw [World.entry_advance hstep, Section.onEntry, if_pos rfl]

/-- The removal drops the mailbox of `a`. -/
theorem Unboxed.remove {i : ℕ} (hi : w.threads i = .deregisterMailbox a)
    (hs : (brokerLts cfg).step w (.run i) = some (w', es))
    (hk : ∀ k, (w.threads k).boxes a = false) : Unboxed a w' := by
  have hstep : (w.threads i).step cfg w.clock w.stores
      = some (.dropMailbox a, .done .deregistered) := by rw [hi]; rfl
  rw [World.run_eq hstep hs]
  refine ⟨?_, World.all_advance (p := fun t => t.boxes a = false) hk rfl⟩
  rw [World.entry_advance hstep, Section.onEntry, if_pos rfl]

end AgentComm
