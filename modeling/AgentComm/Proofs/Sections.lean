import AgentComm.Broker.Threads

/-!
# What one step of the running broker does

A section changes the entry of one agent, and `Section.onEntry` says how. A queue is drained
through the reference its agent has at that moment, never through one a waiting poll kept.
-/

namespace AgentComm

open Lib

namespace Section

/-- What a section does to the entry of `a`. -/
def onEntry (a : PyStr) (x : Entry) : Section → Entry
  | look => x
  | putEndpoint e => if e.agentId = a then { x with endpoint := some e } else x
  | delEndpoint b => if b = a then { x with endpoint := none } else x
  | ensureMailbox b => if b = a then { x with queue := some (x.queue.getD []) } else x
  | enqueue b m => if b = a then { x with queue := some (x.queue.getD [] ++ [m]) } else x
  | drain b _ => if b = a then { x with queue := some [] } else x
  | dropMailbox b => if b = a then { x with queue := none } else x
  | putCapabilities b caps => if b = a then { x with capabilities := some caps } else x
  | ensureCapabilities b =>
    if b = a then { x with capabilities := some (x.capabilities.getD []) } else x
  | delCapabilities b => if b = a then { x with capabilities := none } else x
  | registerHeartbeat b now ttl =>
    if b = a then { x with heartbeat := some now, ttl := ttl.or x.ttl } else x
  | autoHeartbeat b now default =>
    if b = a then { x with heartbeat := some now, ttl := some (x.ttl.getD default) } else x
  | pollHeartbeat b now =>
    if b = a ∧ x.ttl.isSome then { x with heartbeat := some now } else x
  | delHeartbeat b => if b = a then { x with heartbeat := none, ttl := none } else x

/-- A drain goes through the reference its agent's queue has. -/
def Current (s : Stores) : Section → Prop
  | drain a mbox => s.mailboxes.ref? a = some mbox
  | _ => True

theorem entry_apply {s : Stores} {sec : Section} (h : sec.Current s) (a : PyStr) :
    (sec.apply s).entry a = sec.onEntry a (s.entry a) := by
  cases sec with
  | look => rfl
  | drain b mbox => exact Stores.entry_drain h a
  | _ => simp only [apply, onEntry, Stores.entry_putEndpoint, Stores.entry_delEndpoint,
      Stores.entry_ensureMailbox, Stores.entry_enqueue, Stores.entry_dropMailbox,
      Stores.entry_putCapabilities, Stores.entry_ensureCapabilities, Stores.entry_delCapabilities,
      Stores.entry_registerHeartbeat, Stores.entry_autoHeartbeat, Stores.entry_pollHeartbeat,
      Stores.entry_delHeartbeat]

end Section

variable {cfg : ServerConfig}

/-- A turn of a poll's loop takes what is there, gives up on an empty queue, or waits. -/
theorem pollLoop_cases (s : Stores) (now : ℚ) (a : PyStr) (mbox : ℕ) (deadline : ℚ) :
    pollLoop s now a mbox deadline
        = (.drain a mbox, .done (.messages (s.mailboxes.heap mbox)))
      ∨ pollLoop s now a mbox deadline = (.look, .pollWait a mbox deadline) := by
  unfold pollLoop
  split_ifs with h1 h2
  · exact .inl rfl
  · rw [not_not] at h1
    exact .inl (by rw [h1])
  · exact .inr rfl

theorem pollLoop_late (s : Stores) {now deadline : ℚ} (b : PyStr) (mbox : ℕ)
    (h : deadline - now ≤ 0) : pollLoop s now b mbox deadline
      = (.drain b mbox, .done (.messages (s.mailboxes.heap mbox))) := by
  unfold pollLoop
  split_ifs with h1
  · rfl
  · rw [not_not] at h1
    rw [h1]

/-- The agent whose queue the poll looks at next. -/
def Thread.looks : Thread → Option PyStr
  | .pollEnter a _ | .pollWait a _ _ => some a
  | _ => none

/-- A poll finds no queue, takes what is there, or waits. -/
theorem Thread.step_looks {now : ℚ} {s : Stores} {t t' : Thread} {sec : Section} {a : PyStr}
    (ha : t.looks = some a) (h : t.step cfg now s = some (sec, t')) :
    (s.mailboxes.ref? a = none ∧ sec = .look ∧ t' = .done (.messages []))
      ∨ (∃ mbox, s.mailboxes.ref? a = some mbox ∧ sec = .drain a mbox
        ∧ t' = .done (.messages (s.mailboxes.heap mbox)))
      ∨ ∃ mbox deadline, s.mailboxes.ref? a = some mbox ∧ sec = .look
        ∧ t' = .pollWait a mbox deadline := by
  rcases hr : s.mailboxes.ref? a with _ | mbox
  · cases t with
    | pollEnter | pollWait =>
      cases ha
      simp only [Thread.step, hr] at h
      cases h
      exact .inl ⟨rfl, rfl, rfl⟩
    | _ => cases ha
  · have hturn : ∃ deadline, pollLoop s now a mbox deadline = (sec, t') := by
      cases t with
      | pollEnter | pollWait =>
        cases ha
        simp only [Thread.step, hr, Option.some.injEq] at h
        exact ⟨_, h⟩
      | _ => cases ha
    obtain ⟨deadline, hturn⟩ := hturn
    rcases pollLoop_cases s now a mbox deadline with hc | hc <;> rw [hc] at hturn <;> cases hturn
    · exact .inr (.inl ⟨mbox, rfl, rfl, rfl⟩)
    · exact .inr (.inr ⟨mbox, deadline, rfl, rfl, rfl⟩)

theorem Thread.step_current {now : ℚ} {s : Stores} {t t' : Thread} {sec : Section}
    (h : t.step cfg now s = some (sec, t')) : sec.Current s := by
  cases t with
  | pollEnter | pollWait =>
    rcases Thread.step_looks rfl h with ⟨-, rfl, -⟩ | ⟨mbox, hr, rfl, -⟩ | ⟨_, _, -, rfl, -⟩
    · trivial
    · exact hr
    · trivial
  | idle => cases h
  | done => cases h
  | sweepRead t es =>
    cases es <;> cases h <;> trivial
  | _ =>
    cases h
    trivial

namespace World

/-- One action: a thread starts, a thread goes through a section, time passes, or the process
starts over. -/
theorem step_cases {w w' : World} {act : Action} {es : List Event}
    (h : (brokerLts cfg).step w act = some (w', es)) :
    (∃ i call, act = .spawn i call ∧ w.threads i = .idle ∧ es = []
        ∧ w' = { w with threads := Function.update w.threads i call.start })
      ∨ (∃ i sec t, act = .run i ∧ (w.threads i).step cfg w.clock w.stores = some (sec, t)
        ∧ w' = w.advance i sec t ∧ es = sec.events i w.stores)
      ∨ (∃ d, act = .tick d ∧ 0 ≤ d ∧ w' = { w with clock := w.clock + d } ∧ es = [])
      ∨ (act = .restart ∧ w' = World.boot w.clock ∧ es = []) := by
  cases act with
  | spawn i call =>
    simp only [brokerLts, step] at h
    split_ifs at h with hi
    cases h
    refine .inl ⟨i, call, rfl, ?_, rfl, rfl⟩
    cases ht : w.threads i <;> rw [ht] at hi <;> first | rfl | cases hi
  | run i =>
    simp only [brokerLts, step] at h
    split at h
    · cases h
    · rename_i sec t hs
      cases h
      exact .inr (.inl ⟨i, sec, t, rfl, hs, rfl, rfl⟩)
  | tick d =>
    simp only [brokerLts, step] at h
    split_ifs at h with hd
    cases h
    exact .inr (.inr (.inl ⟨d, rfl, hd, rfl, rfl⟩))
  | restart =>
    cases h
    exact .inr (.inr (.inr ⟨rfl, rfl, rfl⟩))

@[simp] theorem entry_advance {w : World} {i : ℕ} {sec : Section} {t : Thread}
    (h : (w.threads i).step cfg w.clock w.stores = some (sec, t)) (a : PyStr) :
    (w.advance i sec t).stores.entry a = sec.onEntry a (w.stores.entry a) :=
  Section.entry_apply (Thread.step_current h) a

theorem step_run {w : World} {i : ℕ} {sec : Section} {t : Thread}
    (h : (w.threads i).step cfg w.clock w.stores = some (sec, t)) :
    (brokerLts cfg).step w (.run i) = some (w.advance i sec t, sec.events i w.stores) := by
  simp only [brokerLts, World.step, h]

theorem threads_advance (w : World) (i : ℕ) (sec : Section) (t : Thread) (j : ℕ) :
    (w.advance i sec t).threads j = if j = i then t else w.threads j := by
  simp [advance, Function.update_apply]

/-- What is true of every thread stays so if it is true of the one that has moved on. -/
theorem all_advance {p : Thread → Prop} {w : World} {i : ℕ} {sec : Section} {t : Thread}
    (h : ∀ j, p (w.threads j)) (ht : p t) (j : ℕ) : p ((w.advance i sec t).threads j) := by
  rw [threads_advance]
  split_ifs
  · exact ht
  · exact h j

end World

/-- The action leaves thread `j` where it stands. -/
def Action.spares (j : ℕ) : Action → Prop
  | spawn i _ | run i => i ≠ j
  | tick _ => True
  | restart => False

namespace World

theorem threads_of_step {w w' : World} {act : Action} {es : List Event} {j : ℕ}
    (h : (brokerLts cfg).step w act = some (w', es)) (hj : act.spares j) :
    w'.threads j = w.threads j := by
  rcases step_cases h with ⟨i, call, rfl, -, -, rfl⟩ | ⟨i, sec, t, rfl, -, rfl, -⟩
    | ⟨d, rfl, -, rfl, -⟩ | ⟨rfl, -, -⟩
  · exact Function.update_of_ne (Ne.symm hj) _ _
  · rw [threads_advance, if_neg (Ne.symm hj)]
  · rfl
  · exact hj.elim

theorem threads_of_exec {j : ℕ} {p : World → Action → Bool} :
    ∀ {as : List Action} {w w' : World} {tr : List Event},
    (brokerLts cfg).execIf p w as = some (w', tr) → (∀ act ∈ as, act.spares j) →
    w'.threads j = w.threads j
  | [], w, w', tr, h, _ => by
    cases h
    rfl
  | act :: as, w, w', tr, h, hj => by
    obtain ⟨u, es, tr', -, hs, hr, -⟩ := Lts.execIf_cons h
    rw [threads_of_exec hr fun b hb => hj b (List.mem_cons_of_mem _ hb),
      threads_of_step hs (hj act List.mem_cons_self)]

def Alone (i : ℕ) (w : World) : Prop := ∀ j, j ≠ i → w.threads j = .idle

theorem Alone.step {i : ℕ} {w w' : World} {act : Action} {es : List Event} (h : w.Alone i)
    (hs : (brokerLts cfg).step w act = some (w', es)) (hact : ∀ j, j ≠ i → act.spares j) :
    w'.Alone i :=
  fun j hj => (threads_of_step hs (hact j hj)).trans (h j hj)

end World

end AgentComm
