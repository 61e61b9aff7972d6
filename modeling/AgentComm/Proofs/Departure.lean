import AgentComm.Proofs.Vacancy
import AgentComm.Sdk.Shutdown

/-!
# What is left of an agent that stopped

The DELETE of a `stop` removes what it finds. If no registration of the id and no message to it is
half-way then, and no poll of it comes to the broker later, the id stays away. The receive-loop may
well send such a poll: it looks at the stop flag before it polls, and `stop` does not wait for it.
-/

namespace AgentComm

open Lib

namespace Shutdown

variable {cfg : ServerConfig} {a : PyStr}

/-- The DELETE of the last `stop`, if that is still the last word of the main thread: none if the
agent was not started or there was nothing to stop. -/
def Main.delete? : Main → Option (Option ℕ)
  | stopped d => some d
  | unregistering i | join i _ => some (some i)
  | _ => none

namespace State

variable (s : State)

/-- Request `i` was turned away, or its thread is past some sections. -/
def Through (p : Thread → Bool) (i : ℕ) : Prop :=
  s.wire i = .refused ∨ (s.wire i = .arrived ∧ p (s.world.threads i) = false)

/-- So is the DELETE of the last `stop`, if it sent one. -/
def Past (p : Thread → Bool) : Prop :=
  s.main.delete? = some none ∨ ∃ i, s.main.delete? = some (some i) ∧ s.Through p i

end State

/-- Nothing of `a` is at the broker. -/
def Vacant (a : PyStr) (w : World) : Prop := Unlisted a w ∧ Unboxed a w

/-- When the DELETE of a `stop` takes `a` off the registry no thread is about to register it, and
when it drops the mailbox none is about to write to it. From then on no poll of `a` finds no
mailbox and no POST of an earlier `start` arrives. A DELETE is turned away, or names another id, or
is not sent because a `start` raised, only when there is nothing of `a`. -/
def Orderly (a : PyStr) (s : State) : Action → Prop
  | .stop => s.main = .failed → s.recvThread = none → Vacant a s.world
  | .refuse i => s.main = .unregistering i → Vacant a s.world
  | .arrive i =>
    (∀ r, s.wire i = .sent (some (.register r)) → ¬ s.Past (Thread.unlists a))
      ∧ ∀ b, s.wire i = .sent (some (.deregister b)) → s.main = .unregistering i → b ≠ a →
        Vacant a s.world
  | .broker (.run j) =>
    (∀ wait, s.world.threads j = .pollCheck a wait → (s.world.stores.entry a).queue = none →
        ¬ s.Past (Thread.unlists a))
      ∧ (s.main = .unregistering j →
        (s.world.threads j = .deregisterEndpoint a → ∀ k, (s.world.threads k).registers a = false)
        ∧ (s.world.threads j = .deregisterMailbox a → ∀ k, (s.world.threads k).boxes a = false))
  | _ => True

/-- The last `stop` returned, the receive-loops have ended, and the broker is done with all the
agent's requests. -/
structure AtRest (s : State) : Prop where
  stopped : ∃ d, s.main = .stopped d
  loops : ∀ k l, s.loops k = some l → l = .ended
  requests : ∀ i, s.processed i

/-- The id is not registered and has no mailbox. -/
def Gone (a : PyStr) (w : World) : Prop :=
  (w.stores.entry a).endpoint = none ∧ (w.stores.entry a).queue = none

/-- What holds of an agent that is orderly. -/
structure Kept (a : PyStr) (s : State) : Prop where
  unlisted : s.Past (Thread.unlists a) → Unlisted a s.world
  unboxed : s.Past (Thread.unboxes a) → Unboxed a s.world
  pending : ∀ i, s.main = .unregistering i → s.wire i ≠ .unused
    ∧ ∀ call, s.wire i = .sent (some call) → ∃ b, call = .deregister b
  settled : ∀ i, s.main.delete? = some (some i) → s.main ≠ .unregistering i →
    s.Through (Thread.unboxes a) i
  running : s.main = .started → s.recvThread ≠ none

variable {P : Python} {agent : PullAgent} {s s' : State}

namespace State

theorem Through.mono {p q : Thread → Bool} (hpq : ∀ t, q t → p t) {i : ℕ} (h : s.Through p i) :
    s.Through q i := by
  rcases h with h | ⟨h, hp⟩
  · exact .inl h
  · refine .inr ⟨h, Bool.eq_false_iff.2 fun hq => ?_⟩
    rw [hpq _ hq] at hp
    cases hp

theorem Past.unlists (h : s.Past (Thread.unboxes a)) : s.Past (Thread.unlists a) := by
  rcases h with h | ⟨i, hi, h⟩
  · exact .inl h
  · exact .inr ⟨i, hi, h.mono fun _ => Thread.unboxes_of_unlists⟩

theorem not_past_of_sent {p : Thread → Bool} {i : ℕ} (hm : s.main.delete? = some (some i))
    (hw : (∃ call, s.wire i = .sent call) ∨ s.wire i = .lost) :
    ¬ s.Past p := by
  rintro (h | ⟨k, hk, h⟩)
  · rw [h] at hm
    cases hm
  · obtain rfl : i = k := by
      rw [hk] at hm
      cases hm
      rfl
    rcases hw with ⟨call, hw⟩ | hw <;> rcases h with h | ⟨h, -⟩ <;> rw [h] at hw <;> cases hw

end State

/-- Only the wire of its DELETE matters. -/
theorem State.Past.of_congr {p : Thread → Bool} (hp : s'.Past p) (hm : s'.main = s.main)
    (hworld : s'.world = s.world)
    (hw : ∀ i, s.main.delete? = some (some i) → s'.wire i = s.wire i) : s.Past p := by
  rcases hp with hp | ⟨i, hi, hp⟩
  · exact .inl (hm ▸ hp)
  · rw [hm] at hi
    rw [State.Through, hw i hi, hworld] at hp
    exact .inr ⟨i, hi, hp⟩

theorem Kept.init (a : PyStr) (clock : ℚ) : Kept a (.init clock) where
  unlisted _ := .boot _
  unboxed _ := .boot _
  pending _ h := by cases h
  settled _ h := by cases h
  running h := by cases h

theorem Kept.of_busy (h : s.main.delete? = none)
    (hrun : s.main = .started → s.recvThread ≠ none) : Kept a s := by
  have hpast : ∀ p, ¬ s.Past p := by
    rintro p (hp | ⟨i, hp, -⟩) <;> rw [h] at hp <;> cases hp
  refine ⟨fun hp => (hpast _ hp).elim, fun hp => (hpast _ hp).elim, fun i hi => ?_,
    fun i hi => ?_, hrun⟩
  · rw [hi] at h
    cases h
  · rw [h] at hi
    cases hi

theorem Kept.congr (h : Kept a s) (hm : s'.main = s.main) (hworld : s'.world = s.world)
    (hrecv : s'.recvThread = s.recvThread)
    (hw : ∀ i, s.main.delete? = some (some i) → s'.wire i = s.wire i) : Kept a s' := by
  refine ⟨fun hp => ?_, fun hp => ?_, fun i hi => ?_, fun i hi hne => ?_, fun hi => ?_⟩
  · rw [hworld]
    exact h.unlisted (hp.of_congr hm hworld hw)
  · rw [hworld]
    exact h.unboxed (hp.of_congr hm hworld hw)
  · rw [hm] at hi
    rw [hw i (by rw [hi]; rfl)]
    exact h.pending i hi
  · rw [hm] at hi hne
    rw [State.Through, hw i hi, hworld]
    exact h.settled i hi hne
  · rw [hrecv]
    exact h.running (hm ▸ hi)

theorem Kept.wire_ne_unused (h : Kept a s) {i : ℕ} (hi : s.main.delete? = some (some i)) :
    s.wire i ≠ .unused := by
  intro hu
  by_cases hm : s.main = .unregistering i
  · exact (h.pending i hm).1 hu
  · rcases h.settled i hi hm with hw | ⟨hw, -⟩ <;> rw [hw] at hu <;> cases hu

theorem Kept.unregistering_of_sent (h : Kept a s) {i : ℕ} {call : Option Call}
    (hi : s.main.delete? = some (some i)) (hw : s.wire i = .sent call) :
    s.main = .unregistering i := by
  by_contra hm
  rcases h.settled i hi hm with hw' | ⟨hw', -⟩ <;> rw [hw'] at hw <;> cases hw

section Broker

variable {act : AgentComm.Action} {w' : World} {es : List Event}

/-- The DELETE gets past the sections as the broker restarts or its thread goes on. -/
theorem State.Past.onWorld {p : Thread → Bool}
    (hs : (brokerLts cfg).step s.world act = some (w', es))
    (hspawn : ∀ i call, act = .spawn i call → s.main.delete? ≠ some (some i))
    (hp : { s with world := w' }.Past p) :
    s.Past p ∨ act = .restart
      ∨ ∃ i, act = .run i ∧ s.main.delete? = some (some i) ∧ ¬ s.Through p i
        ∧ p (s.world.threads i) ∧ p (w'.threads i) = false := by
  rcases hp with hp | ⟨i, hi, hw | ⟨hw, hp⟩⟩
  · exact .inl (.inl hp)
  · exact .inl (.inr ⟨i, hi, .inl hw⟩)
  · by_cases hpi : p (s.world.threads i)
    · right
      have hsame : w'.threads i ≠ s.world.threads i := by
        intro heq
        rw [← heq, show p (w'.threads i) = false from hp] at hpi
        cases hpi
      have hnot : ¬ s.Through p i := by
        rintro (hw' | ⟨-, hp'⟩)
        · rw [show s.wire i = .arrived from hw] at hw'
          cases hw'
        · rw [hpi] at hp'
          cases hp'
      rcases World.step_cases hs with ⟨j, call, rfl, -, -, rfl⟩ | ⟨j, sec, t, rfl, -, rfl, -⟩
        | ⟨d, rfl, -, rfl, -⟩ | ⟨rfl, -, -⟩
      · have hne : i ≠ j := fun h => hspawn j call rfl (h ▸ hi)
        exact absurd (Function.update_of_ne hne _ _) hsame
      · by_cases hij : i = j
        · subst hij
          exact .inr ⟨i, rfl, hi, hnot, hpi, hp⟩
        · exact absurd (by rw [World.threads_advance, if_neg hij]) hsame
      · exact absurd rfl hsame
      · exact .inl rfl
    · exact .inl (.inr ⟨i, hi, .inr ⟨hw, Bool.eq_false_iff.2 hpi⟩⟩)

theorem State.Through.onWorld {i : ℕ} (hs : (brokerLts cfg).step s.world act = some (w', es))
    (hspawn : ∀ i call, act = .spawn i call → s.main.delete? ≠ some (some i))
    (hi : s.main.delete? = some (some i)) (h : s.Through (Thread.unboxes a) i) :
    { s with world := w' }.Through (Thread.unboxes a) i := by
  rcases h with hw | ⟨hw, hu⟩
  · exact .inl hw
  · refine .inr ⟨hw, Bool.eq_false_iff.2 fun hu' => ?_⟩
    rcases World.step_cases hs with ⟨j, call, rfl, -, -, rfl⟩ | ⟨j, sec, t, rfl, hstep, rfl, -⟩
      | ⟨d, rfl, -, rfl, -⟩ | ⟨rfl, rfl, -⟩
    · have hne : i ≠ j := fun h => hspawn j call rfl (h ▸ hi)
      simp only [Function.update_of_ne hne] at hu'
      rw [hu] at hu'
      cases hu'
    · simp only [World.threads_advance] at hu'
      split_ifs at hu' with hij
      · subst hij
        rw [(Thread.unboxes_of_step hstep hu').1] at hu
        cases hu
      · rw [hu] at hu'
        cases hu'
    · rw [hu] at hu'
      cases hu'
    · cases hu'

/-- The broker's own steps, and requests other than the DELETE that come to it. -/
theorem Kept.onWorld (h : Kept a s) (hs : (brokerLts cfg).step s.world act = some (w', es))
    (hspawn : ∀ i call, act = .spawn i call → s.main.delete? ≠ some (some i)
      ∧ (s.Past (Thread.unlists a) → call.start.registers a = false))
    (ho : Orderly a s (.broker act)) : Kept a { s with world := w' } := by
  have hother : ∀ i call, act = .spawn i call → s.main.delete? ≠ some (some i) :=
    fun i call e => (hspawn i call e).1
  have hmain : ∀ {i}, s.main.delete? = some (some i) → ¬ s.Through (Thread.unboxes a) i →
      s.main = .unregistering i := by
    intro i hi hnot
    by_contra hm
    exact hnot (h.settled i hi hm)
  refine ⟨fun hp => ?_, fun hp => ?_, h.pending, fun i hi hm => ?_, h.running⟩
  · rcases hp.onWorld hs hother with hp | rfl | ⟨i, rfl, hi, hnot, hu, -⟩
    · refine (h.unlisted hp).step hs (fun i call e => (hspawn i call e).2 hp) ?_
      rintro i wait rfl ht hq
      exact ho.1 wait ht hq hp
    · cases hs
      exact .boot _
    · have ht := Thread.eq_of_unlists hu
      have hm := hmain hi fun hb => hnot (hb.mono fun _ => Thread.unboxes_of_unlists)
      exact .remove ht hs ((ho.2 hm).1 ht)
  · rcases hp.onWorld hs hother with hp | rfl | ⟨i, rfl, hi, hnot, hu, hu'⟩
    · exact (h.unboxed hp).step (h.unlisted hp.unlists) hs
    · cases hs
      exact .boot _
    · obtain ⟨sec, t, hstep⟩ := World.exists_step hs
      rw [World.run_eq hstep hs, World.threads_advance, if_pos rfl] at hu'
      have ht := Thread.eq_of_unboxes_last hstep hu hu'
      exact .remove ht hs ((ho.2 (hmain hi hnot)).2 ht)
  · exact (h.settled i hi hm).onWorld hs hother hi

end Broker

section Requests

variable {i : ℕ} {call : Option Call}

theorem State.issue_eq (h : s.issue i call = some s') :
    s.wire i = .unused ∧ s' = { s with wire := Function.update s.wire i (.sent call) } := by
  simp only [State.issue] at h
  split at h
  · cases h
    exact ⟨by assumption, rfl⟩
  · cases h

/-- A request of the agent other than its DELETE. -/
theorem Kept.issue (h : Kept a s) (hs : s.issue i call = some s') : Kept a s' := by
  obtain ⟨hu, rfl⟩ := State.issue_eq hs
  refine h.congr rfl rfl rfl fun k hk => Function.update_of_ne ?_ _ _
  rintro rfl
  exact h.wire_ne_unused hk hu

/-- The DELETE itself. -/
theorem Kept.of_unregistering (hm : s.main = .unregistering i) (hw : s.wire i = .sent call)
    (hc : ∀ c, call = some c → ∃ b, c = .deregister b) : Kept a s := by
  have hd : s.main.delete? = some (some i) := by rw [hm]; rfl
  have hpast : ∀ p, ¬ s.Past p := fun p => State.not_past_of_sent hd (.inl ⟨call, hw⟩)
  refine ⟨fun hp => (hpast _ hp).elim, fun hp => (hpast _ hp).elim, fun k hk => ?_,
    fun k hk hne => ?_, fun hst => ?_⟩
  · rw [hm] at hk
    cases hk
    rw [hw]
    refine ⟨fun heq => ?_, fun c heq => ?_⟩
    · cases heq
    · cases heq
      exact hc c rfl
  · rw [hd] at hk
    cases hk
    exact absurd hm hne
  · rw [hm] at hst
    cases hst

theorem unregisterCall_eq {c : Call} (h : unregisterCall P cfg agent = some c) :
    ∃ b, c = .deregister b := by
  simp only [unregisterCall] at h
  split at h
  · split_ifs at h
    cases h
    exact ⟨_, rfl⟩
  · cases h

/-- A request is turned away or lost. -/
theorem Kept.end_wire (h : Kept a s) {x : Wire} (hw : s.wire i = .sent call)
    (hx : x = .lost ∨ (x = .refused ∧ (s.main = .unregistering i → Vacant a s.world))) :
    Kept a { s with wire := Function.update s.wire i x } := by
  by_cases hi : s.main.delete? = some (some i)
  · have hm := h.unregistering_of_sent hi hw
    have hnot : ∀ k, s.main.delete? = some (some k) → s.main ≠ .unregistering k → False := by
      intro k hk hne
      rw [hi] at hk
      cases hk
      exact hne hm
    have hself : Function.update s.wire i x i = x := Function.update_self _ _ _
    have hpending : ∀ k, s.main = .unregistering k → Function.update s.wire i x k ≠ .unused
        ∧ ∀ c, Function.update s.wire i x k = .sent (some c) → ∃ b, c = .deregister b := by
      intro k hk
      rw [hm] at hk
      cases hk
      rw [hself]
      refine ⟨fun hu => ?_, fun c hc => ?_⟩
      · rcases hx with rfl | ⟨rfl, -⟩ <;> cases hu
      · rcases hx with rfl | ⟨rfl, -⟩ <;> cases hc
    rcases hx with rfl | ⟨rfl, hv⟩
    · have hpast : ∀ p, ¬ State.Past { s with wire := Function.update s.wire i .lost } p :=
        fun p => State.not_past_of_sent hi (.inr hself)
      exact ⟨fun hp => (hpast _ hp).elim, fun hp => (hpast _ hp).elim, hpending,
        fun k hk hne => (hnot k hk hne).elim, h.running⟩
    · exact ⟨fun _ => (hv hm).1, fun _ => (hv hm).2, hpending,
        fun k hk hne => (hnot k hk hne).elim, h.running⟩
  · refine h.congr rfl rfl rfl fun k hk => Function.update_of_ne ?_ _ _
    rintro rfl
    exact hi hk

/-- A request comes to the broker. -/
theorem Kept.arrive {c : Call} {w' : World} {es : List Event} (h : Kept a s)
    (hw : s.wire i = .sent (some c)) (ho : Orderly a s (.arrive i))
    (hs : (brokerLts cfg).step s.world (.spawn i c) = some (w', es)) :
    Kept a { s with wire := Function.update s.wire i .arrived, world := w' } := by
  by_cases hi : s.main.delete? = some (some i)
  · have hm := h.unregistering_of_sent hi hw
    obtain ⟨b, rfl⟩ := (h.pending i hm).2 c hw
    have hthread : w'.threads i = .deregisterEndpoint b := by
      rcases World.step_cases hs with ⟨j, call, hact, -, -, rfl⟩ | ⟨_, _, _, hact, -⟩
        | ⟨_, hact, -⟩ | ⟨hact, -⟩ <;> cases hact
      exact Function.update_self _ _ _
    have hpast : ∀ {p : Thread → Bool},
        State.Past { s with wire := Function.update s.wire i .arrived, world := w' } p →
        p (.deregisterEndpoint b) = false := by
      rintro p (hp | ⟨k, hk, hp⟩)
      · rw [hi] at hp
        cases hp
      · rw [hi] at hk
        cases hk
        rcases hp with hp | ⟨-, hp⟩
        · simp at hp
        · rw [← hthread]
          exact hp
    refine ⟨fun hp => ?_, fun hp => ?_, fun k hk => ?_, fun k hk hne => ?_, h.running⟩
    · have hv := ho.2 b hw hm (of_decide_eq_false (hpast hp))
      exact hv.1.step hs (fun _ _ e => by cases e; rfl) fun _ _ e => by cases e
    · have hv := ho.2 b hw hm (of_decide_eq_false (hpast hp))
      exact hv.2.step hv.1 hs
    · rw [hm] at hk
      cases hk
      simp
    · rw [hi] at hk
      cases hk
      exact absurd hm hne
  · have hother : ∀ k, s.main.delete? = some (some k) →
        Function.update s.wire i .arrived k = s.wire k :=
      fun k hk => Function.update_of_ne (fun heq : k = i => hi (heq ▸ hk)) _ _
    have h' : Kept a { s with wire := Function.update s.wire i .arrived } :=
      h.congr rfl rfl rfl hother
    refine h'.onWorld hs (fun j call e => ?_) trivial
    cases e
    refine ⟨hi, fun hp => ?_⟩
    cases c with
    | register r =>
      have hpast : s.Past (Thread.unlists a) := hp.of_congr rfl rfl hother
      exact absurd hpast (ho.1 r hw)
    | _ => rfl

end Requests

/-- The main thread goes on with the same DELETE, which is answered. -/
theorem Kept.of_deleting {i : ℕ} {m : Main} {r : Option ℕ} (h : Kept a s)
    (hd : s.main.delete? = some (some i)) (hd' : m.delete? = some (some i))
    (hm : ∀ k, m ≠ .unregistering k) (hthrough : s.Through (Thread.unboxes a) i) :
    Kept a { s with main := m, recvThread := r } := by
  have hpast : ∀ {p}, State.Past { s with main := m, recvThread := r } p → s.Past p := by
    rintro p (hp | ⟨k, hk, hp⟩)
    · cases hd'.symm.trans hp
    · obtain rfl : i = k := Option.some.inj (Option.some.inj (hd'.symm.trans hk))
      exact .inr ⟨i, hd, hp⟩
  refine ⟨fun hp => h.unlisted (hpast hp), fun hp => h.unboxed (hpast hp),
    fun k hk => absurd hk (hm k), fun k hk _ => ?_, fun hst => ?_⟩
  · obtain rfl : i = k := Option.some.inj (Option.some.inj (hd'.symm.trans hk))
    exact hthrough
  · obtain rfl : m = .started := hst
    cases hd'

theorem Kept.of_answered {i : ℕ} (h : Kept a s) (hi : s.main = .unregistering i)
    (ha : s.answered i) (since : ℚ) : Kept a { s with main := .join i since } := by
  refine h.of_deleting (by rw [hi]; rfl) rfl (fun k hk => by cases hk) ?_
  simp only [State.answered] at ha
  split at ha
  · exact .inl (by assumption)
  · rename_i ht
    exact .inr ⟨by assumption, by rw [ht]; rfl⟩
  · cases ha

theorem Kept.of_joined {i : ℕ} {since : ℚ} (h : Kept a s) (hm : s.main = .join i since) :
    Kept a { s with main := .stopped (some i), recvThread := none } := by
  have hd : s.main.delete? = some (some i) := by rw [hm]; rfl
  refine h.of_deleting hd rfl (fun k hk => by cases hk) ?_
  exact h.settled i hd fun hu => by rw [hm] at hu; cases hu

/-- A `stop` that finds no receive-loop. -/
theorem Kept.unchanged (h : Kept a s) (hout : s.main.outside) (hnone : s.recvThread = none)
    (ho : Orderly a s .stop) : Kept a { s with main := s.main.unchanged } := by
  rcases hm : s.main with d | i | _ | _ | _ | _ | i | ⟨i, t⟩ | _ <;> rw [hm] at hout
  · exact h.congr hm.symm rfl rfl fun _ _ => rfl
  all_goals try cases hout
  · exact absurd hnone (h.running hm)
  · have hv := ho hm hnone
    refine ⟨fun _ => hv.1, fun _ => hv.2, fun i hi => ?_, fun i hi => ?_, fun hst => ?_⟩
    · cases hi
    · cases hi
    · cases hst

/-! ### What a step does -/

variable (P cfg agent) in
/-- A step, by the code it stands for. -/
inductive Move (s : State) : Action → State → List Event → Prop
  | running {i caps k} (h : s.main.outside) (hr : s.recvThread = some k) :
      Move s (.start i caps) s []
  | start {i caps u} (h : s.main.outside) (hr : s.recvThread = none)
      (hu : s.issue i (registerCall cfg agent caps) = some u) :
      Move s (.start i caps) { u with main := .registering i } []
  | stop {k} (h : s.main.outside) (hr : s.recvThread = some k) :
      Move s .stop { s with recvStop := true, main := .unregister } []
  | unstarted (h : s.main.outside) (hr : s.recvThread = none) :
      Move s .stop { s with main := s.main.unchanged } []
  | registered {i} (h : s.main = .registering i) (ha : s.answered i)
      (hn : ¬ agent.maxHandlerWorkers ≤ 0) : Move s .answered { s with main := .clear } []
  | poolless {i} (h : s.main = .registering i) (ha : s.answered i)
      (hn : agent.maxHandlerWorkers ≤ 0) : Move s .answered { s with main := .failed } []
  | unregistered {i} (h : s.main = .unregistering i) (ha : s.answered i) :
      Move s .answered { s with main := .join i s.world.clock } []
  | raises (h : s.main.outside = false) : Move s .raises { s with main := .failed } []
  | clear (h : s.main = .clear) : Move s .clear { s with recvStop := false, main := .spawn } []
  | spawn {k} (h : s.main = .spawn) (hk : s.loops k = none) : Move s (.spawn k)
      { s.setLoop k .check with recvThread := some k, main := .started } []
  | unregister {i u} (h : s.main = .unregister)
      (hu : s.issue i (unregisterCall P cfg agent) = some u) :
      Move s (.unregister i) { u with main := .unregistering i } []
  | joined {i since} (h : s.main = .join i since)
      (hj : s.recvEnded ∨ since + joinTimeout ≤ s.world.clock) :
      Move s .joined { s with main := .stopped (some i), recvThread := none } []
  | check {k} (h : s.loops k = some .check) :
      Move s (.check k) (s.setLoop k (if s.recvStop then .ended else .receive)) []
  | poll {k i u} (h : s.loops k = some .receive) (hu : s.issue i (pollCall agent) = some u) :
      Move s (.poll k i) (u.setLoop k (.polling i)) []
  | polled {k i answer} (h : s.loops k = some (.polling i)) (ha : raised answer ∨ s.answered i) :
      Move s (.polled k answer) (s.setLoop k (.after P answer)) []
  | post {i recipient m u} (hu : s.issue i (some (.send recipient m)) = some u) :
      Move s (.post i recipient m) u []
  | arrive {i call w' es} (h : s.wire i = .sent (some call))
      (hs : (brokerLts cfg).step s.world (.spawn i call) = some (w', es)) : Move s (.arrive i)
      { s with wire := Function.update s.wire i .arrived, world := w' } es
  | refuse {i call} (h : s.wire i = .sent call) :
      Move s (.refuse i) { s with wire := Function.update s.wire i .refused } []
  | lose {i call} (h : s.wire i = .sent call) :
      Move s (.lose i) { s with wire := Function.update s.wire i .lost } []
  | broker {act w' es} (h : s.admits agent.agentId act)
      (hs : (brokerLts cfg).step s.world act = some (w', es)) :
      Move s (.broker act) { s with world := w' } es

theorem State.onWorld_eq {act : AgentComm.Action} {es : List Event}
    (h : s.onWorld cfg act = some (s', es)) :
    ∃ w', (brokerLts cfg).step s.world act = some (w', es) ∧ s' = { s with world := w' } := by
  obtain ⟨⟨w', es'⟩, hs, hr⟩ := Option.map_eq_some_iff.1 h
  cases hr
  exact ⟨w', hs, rfl⟩

theorem move_of_step {act : Action} {es : List Event}
    (hs : (shutdownLts P cfg agent).step s act = some (s', es)) :
    Move cfg P agent s act s' es := by
  cases act with
  | start i caps =>
    simp only [shutdownLts, State.step] at hs
    split_ifs at hs with hout
    split at hs
    · cases hs
      exact .running hout (by assumption)
    · obtain ⟨u, hu, hr⟩ := Option.map_eq_some_iff.1 hs
      cases hr
      exact .start hout (by assumption) hu
  | stop =>
    simp only [shutdownLts, State.step] at hs
    split_ifs at hs with hout
    split at hs <;> cases hs
    · exact .stop hout (by assumption)
    · exact .unstarted hout (by assumption)
  | answered =>
    simp only [shutdownLts, State.step] at hs
    split at hs
    · split_ifs at hs with ha hn <;> cases hs
      · exact .poolless (by assumption) ha hn
      · exact .registered (by assumption) ha hn
    · split_ifs at hs with ha
      cases hs
      exact .unregistered (by assumption) ha
    · cases hs
  | raises =>
    simp only [shutdownLts, State.step] at hs
    split at hs <;> cases hs <;> rename_i hm <;> exact .raises (by rw [hm]; rfl)
  | clear =>
    simp only [shutdownLts, State.step] at hs
    split at hs <;> cases hs
    exact .clear (by assumption)
  | spawn k =>
    simp only [shutdownLts, State.step] at hs
    split at hs <;> cases hs
    exact .spawn (by assumption) (by assumption)
  | unregister i =>
    simp only [shutdownLts, State.step] at hs
    split at hs
    · obtain ⟨u, hu, hr⟩ := Option.map_eq_some_iff.1 hs
      cases hr
      exact .unregister (by assumption) hu
    · cases hs
  | joined =>
    simp only [shutdownLts, State.step] at hs
    split at hs
    · split_ifs at hs with hj
      cases hs
      exact .joined (by assumption) hj
    · cases hs
  | check k =>
    simp only [shutdownLts, State.step] at hs
    split at hs <;> cases hs
    exact .check (by assumption)
  | poll k i =>
    simp only [shutdownLts, State.step] at hs
    split at hs
    · obtain ⟨u, hu, hr⟩ := Option.map_eq_some_iff.1 hs
      cases hr
      exact .poll (by assumption) hu
    · cases hs
  | polled k answer =>
    simp only [shutdownLts, State.step] at hs
    split at hs
    · split_ifs at hs with ha
      cases hs
      exact .polled (by assumption) ha
    · cases hs
  | post i recipient m =>
    obtain ⟨u, hu, hr⟩ := Option.map_eq_some_iff.1 hs
    cases hr
    exact .post hu
  | arrive i =>
    simp only [shutdownLts, State.step] at hs
    split at hs
    · obtain ⟨w', hw, rfl⟩ := State.onWorld_eq hs
      exact .arrive (by assumption) hw
    · cases hs
  | refuse i =>
    simp only [shutdownLts, State.step] at hs
    split at hs <;> cases hs
    exact .refuse (by assumption)
  | lose i =>
    simp only [shutdownLts, State.step] at hs
    split at hs <;> cases hs
    exact .lose (by assumption)
  | broker act =>
    simp only [shutdownLts, State.step] at hs
    split_ifs at hs with hadm
    obtain ⟨w', hw, rfl⟩ := State.onWorld_eq hs
    exact .broker hadm hw

/-! ### Orderly runs -/

/-- A step of an orderly run. -/
theorem Kept.step {act : Action} {es : List Event} (h : Kept agent.agentId s)
    (ho : Orderly agent.agentId s act) (hs : (shutdownLts P cfg agent).step s act = some (s', es)) :
    Kept agent.agentId s' := by
  cases move_of_step hs with
  | running => exact h
  | start | stop | registered | poolless | clear | raises =>
    exact .of_busy rfl fun hst => by cases hst
  | unstarted hout hr => exact h.unchanged hout hr ho
  | unregistered hm ha => exact h.of_answered hm ha _
  | spawn => exact .of_busy rfl fun _ hnone => by cases hnone
  | unregister hm hu =>
    obtain ⟨-, rfl⟩ := State.issue_eq hu
    exact .of_unregistering rfl (Function.update_self _ _ _) fun c => unregisterCall_eq
  | joined hm => exact h.of_joined hm
  | check | polled => exact h.congr rfl rfl rfl fun _ _ => rfl
  | poll hk hu => exact (h.issue hu).congr rfl rfl rfl fun _ _ => rfl
  | post hu => exact h.issue hu
  | arrive hw hs => exact h.arrive hw ho hs
  | refuse hw => exact h.end_wire hw (.inr ⟨rfl, ho⟩)
  | lose hw => exact h.end_wire hw (.inl rfl)
  | @broker act w' es hadm hstep =>
    refine h.onWorld hstep ?_ ho
    rintro i call rfl
    simp only [State.admits] at hadm
    split at hadm
    · rename_i hu
      refine ⟨fun hi => h.wire_ne_unused hi hu, fun _ => ?_⟩
      cases call with
      | register r =>
        rw [Bool.not_eq_true'] at hadm
        exact hadm
      | _ => rfl
    · cases hadm

theorem kept_run {clock : ℚ} {tr : List Event}
    (h : (shutdownLts P cfg agent).Run (Orderly agent.agentId) (.init clock) tr s) :
    Kept agent.agentId s :=
  h.invariant (I := fun _ s => Kept agent.agentId s) (.init _ _) fun hI ho hs => hI.step ho hs

/-- In an orderly run an agent at rest is gone. -/
theorem stopped_stays_gone {clock : ℚ} {tr : List Event}
    (h : (shutdownLts P cfg agent).Run (Orderly agent.agentId) (.init clock) tr s)
    (hrest : AtRest s) : Gone agent.agentId s.world := by
  have hkept := kept_run h
  obtain ⟨d, hd⟩ := hrest.stopped
  have hpast : s.Past (Thread.unboxes agent.agentId) := by
    rcases d with _ | i
    · exact .inl (by rw [hd]; rfl)
    · have hi : s.main.delete? = some (some i) := by rw [hd]; rfl
      exact .inr ⟨i, hi, hkept.settled i hi fun hu => by rw [hd] at hu; cases hu⟩
  exact ⟨(hkept.unlisted hpast.unlists).endpoint, (hkept.unboxed hpast).queue⟩

/-! ### Runs of a single agent -/

/-- The action leaves number `j` alone. -/
def Action.spares (j : ℕ) : Action → Prop
  | start i _ | unregister i | post i _ _ | arrive i | refuse i | lose i => i ≠ j
  | spawn k | check k | polled k _ => k ≠ j
  | poll k i => k ≠ j ∧ i ≠ j
  | broker act => act.spares j
  | stop | answered | raises | clear | joined => True

/-- The numbers of the action are below `n`. -/
def Action.below (n : ℕ) : Action → Bool
  | start i _ | unregister i | post i _ _ | arrive i | refuse i | lose i => i < n
  | spawn k | check k | polled k _ => k < n
  | poll k i => k < n && i < n
  | broker (.spawn i _) | broker (.run i) => i < n
  | broker .restart => false
  | broker (.tick _) | stop | answered | raises | clear | joined => true

theorem spares_of_below {n : ℕ} {as : List Action} (h : as.all (·.below n)) :
    ∀ act ∈ as, ∀ j, n ≤ j → act.spares j := by
  intro act hact j hj
  have hbelow : act.below n := List.all_eq_true.1 h act hact
  have hne : ∀ {i : ℕ}, decide (i < n) → i ≠ j := fun hi => by
    have := of_decide_eq_true hi
    omega
  cases act with
  | poll k i =>
    simp only [Action.below, Bool.and_eq_true] at hbelow
    exact ⟨hne hbelow.1, hne hbelow.2⟩
  | broker act =>
    cases act with
    | spawn | run => exact hne hbelow
    | tick => trivial
    | restart => cases hbelow
  | stop | answered | raises | clear | joined => trivial
  | _ => exact hne hbelow

/-- No loop, no request and no thread has number `j`. -/
def Free (j : ℕ) (s : State) : Prop :=
  s.loops j = none ∧ s.wire j = .unused ∧ s.world.threads j = .idle

theorem Free.issue {i j : ℕ} {call : Option Call} (h : Free j s) (hs : s.issue i call = some s')
    (hij : i ≠ j) : Free j s' := by
  obtain ⟨-, rfl⟩ := State.issue_eq hs
  exact ⟨h.1, (Function.update_of_ne hij.symm _ _).trans h.2.1, h.2.2⟩

theorem Free.setLoop {k j : ℕ} {l : Loop} (h : Free j s) (hkj : k ≠ j) : Free j (s.setLoop k l) :=
  ⟨(Function.update_of_ne hkj.symm _ _).trans h.1, h.2⟩

theorem Free.setWire {i j : ℕ} {x : Wire} (h : Free j s) (hij : i ≠ j) :
    Free j { s with wire := Function.update s.wire i x } :=
  ⟨h.1, (Function.update_of_ne hij.symm _ _).trans h.2.1, h.2.2⟩

theorem Free.onWorld {j : ℕ} {act : AgentComm.Action} {w' : World} {es : List Event}
    (h : Free j s) (hs : (brokerLts cfg).step s.world act = some (w', es)) (hact : act.spares j) :
    Free j { s with world := w' } :=
  ⟨h.1, h.2.1, (World.threads_of_step hs hact).trans h.2.2⟩

theorem Free.step {j : ℕ} {act : Action} {es : List Event} (h : Free j s)
    (hs : (shutdownLts P cfg agent).step s act = some (s', es)) (hact : act.spares j) :
    Free j s' := by
  cases move_of_step hs with
  | start hout hr hu =>
    have hfree := h.issue hu hact
    exact hfree
  | unregister hm hu =>
    have hfree := h.issue hu hact
    exact hfree
  | spawn | check | polled => exact h.setLoop hact
  | poll hk hu => exact (h.issue hu hact.2).setLoop hact.1
  | post hu => exact h.issue hu hact
  | arrive hw hs => exact (h.setWire hact).onWorld hs hact
  | refuse | lose => exact h.setWire hact
  | broker hadm hs => exact h.onWorld hs hact
  | _ => exact h

/-- `Orderly`, where only threads below `n` have started and no `start` raises. -/
def orderlyBelow (a : PyStr) (n : ℕ) (s : State) : Action → Bool
  | .stop =>
    match s.main with
    | .failed => false
    | _ => true
  | .refuse _ => false
  | .arrive i =>
    match s.wire i with
    | .sent (some (.register _)) => s.main.delete?.isNone
    | .sent (some (.deregister b)) => b = a
    | _ => true
  | .broker (.run j) =>
    match s.world.threads j with
    | .pollCheck _ _ => (s.world.stores.entry a).queue.isSome
    | .deregisterEndpoint _ => (List.range n).all fun k => !(s.world.threads k).registers a
    | .deregisterMailbox _ => (List.range n).all fun k => !(s.world.threads k).boxes a
    | _ => true
  | _ => true

theorem orderly_of_below {a : PyStr} {n : ℕ} {act : Action} (hfree : ∀ j, n ≤ j → Free j s)
    (h : orderlyBelow a n s act) : Orderly a s act := by
  have hall : ∀ {p : Thread → Bool}, p .idle = false →
      ((List.range n).all fun k => !p (s.world.threads k)) →
      ∀ k, p (s.world.threads k) = false := by
    intro p hidle hall k
    by_cases hk : k < n
    · simpa using List.all_eq_true.1 hall k (List.mem_range.2 hk)
    · rw [(hfree k (not_lt.1 hk)).2.2, hidle]
  cases act with
  | stop =>
    intro hm
    simp only [orderlyBelow, hm] at h
    cases h
  | refuse i => cases h
  | arrive i =>
    refine ⟨fun r hw => ?_, fun b hw _ hne => ?_⟩
    · simp only [orderlyBelow, hw, Option.isNone_iff_eq_none] at h
      rintro (hp | ⟨i, hp, -⟩) <;> rw [h] at hp <;> cases hp
    · simp only [orderlyBelow, hw] at h
      exact absurd (of_decide_eq_true h) hne
  | broker act =>
    cases act with
    | run j =>
      refine ⟨fun wait ht hq => ?_, fun _ => ⟨fun ht => ?_, fun ht => ?_⟩⟩
      · simp only [orderlyBelow, ht, hq] at h
        cases h
      · simp only [orderlyBelow, ht] at h
        exact hall rfl h
      · simp only [orderlyBelow, ht] at h
        exact hall rfl h
    | _ => trivial
  | _ => trivial

/-- Actions on numbers below `n` leave the others as they were. -/
theorem free_of_exec {n : ℕ} {p : State → Action → Bool} :
    ∀ {as : List Action} {s s' : State} {tr : List Event},
    (shutdownLts P cfg agent).execIf p s as = some (s', tr) →
    (∀ act ∈ as, ∀ j, n ≤ j → act.spares j) → (∀ j, n ≤ j → Free j s) → ∀ j, n ≤ j → Free j s'
  | [], s, s', tr, h, _, hfree => by
    cases h
    exact hfree
  | act :: as, s, s', tr, h, hspare, hfree => by
    obtain ⟨u, es, tr', -, hs, hr, -⟩ := Lts.execIf_cons h
    exact free_of_exec hr (fun b hb => hspare b (List.mem_cons_of_mem _ hb)) fun j hj =>
      (hfree j hj).step hs (hspare act List.mem_cons_self j hj)

/-- The agent is at rest if it is among the numbers below `n`. -/
def atRestBelow (n : ℕ) (s : State) : Bool :=
  (match s.main with
    | .stopped _ => true
    | _ => false)
    && (List.range n).all (fun k =>
      match s.loops k with
      | some .ended | none => true
      | _ => false)
    && (List.range n).all s.processed

theorem atRest_of_below {n : ℕ} (hfree : ∀ j, n ≤ j → Free j s) (h : atRestBelow n s) :
    AtRest s := by
  simp only [atRestBelow, Bool.and_eq_true] at h
  obtain ⟨⟨hm, hloops⟩, hrequests⟩ := h
  refine ⟨?_, fun k l hl => ?_, fun i => ?_⟩
  · split at hm
    · exact ⟨_, by assumption⟩
    · cases hm
  · by_cases hk : k < n
    · have hkl := List.all_eq_true.1 hloops k (List.mem_range.2 hk)
      rw [hl] at hkl
      cases l <;> first | rfl | cases hkl
    · rw [(hfree k (not_lt.1 hk)).1] at hl
      cases hl
  · by_cases hi : i < n
    · exact List.all_eq_true.1 hrequests i (List.mem_range.2 hi)
    · obtain ⟨-, hw, ht⟩ := hfree i (not_lt.1 hi)
      rw [State.processed, hw, ht]

def pullAgent : PullAgent := ⟨lit "a", 4⟩

/-- The answer to a poll that has nothing to give. -/
def nothingQueued : Json := .obj [(lit "messages", .arr [])]

def nothingPython : Python := plainPython [(jsonText nothingQueued, nothingQueued)]

def nothingAnswer : HttpAnswer := .answer 200 (asciiEncode (jsonText nothingQueued))

/-- Thread `i` of the broker goes through `n` sections. -/
def runs (i n : ℕ) : List Action := List.replicate n (.broker (.run i))

/-- The agent starts, with request 0 and receive-loop 0. -/
def starting : List Action :=
  [.start 0 [], .arrive 0] ++ runs 0 5 ++ [.answered, .clear, .spawn 0, .check 0]

/-- Its loop polls and waits for messages, and hears of the DELETE. -/
def quietStop : List Action :=
  starting ++ [.poll 0 1, .arrive 1] ++ runs 1 3 ++ [.stop, .unregister 2, .arrive 2] ++ runs 2 4
    ++ [.answered, .broker (.run 1), .polled 0 nothingAnswer, .check 0, .joined]

/-- Its loop has looked at the stop flag, but polls after the DELETE. -/
def latePoll : List Action :=
  starting ++ [.stop, .unregister 1, .arrive 1] ++ runs 1 4 ++ [.answered, .poll 0 2, .arrive 2]
    ++ runs 2 7 ++ [.broker (.tick 2), .joined, .broker (.tick 18), .broker (.run 2),
      .polled 0 nothingAnswer, .check 0]

theorem free_init (j : ℕ) : Free j (.init 0) := ⟨rfl, rfl, rfl⟩

theorem stopped_stays_gone_quiet : ∃ tr s,
    (shutdownLts nothingPython .defaults pullAgent).Run (Orderly (lit "a")) (.init 0) tr s
    ∧ AtRest s ∧ Gone (lit "a") s.world := by
  have hall : ((shutdownLts nothingPython .defaults pullAgent).execIf (orderlyBelow (lit "a") 3)
      (.init 0) quietStop).map (fun r => atRestBelow 3 r.1) = some true := by decide +kernel
  obtain ⟨⟨s, tr⟩, he, hend⟩ := Option.map_eq_some_iff.1 hall
  have hspare : ∀ act ∈ quietStop, ∀ j, 3 ≤ j → act.spares j := spares_of_below (by decide)
  have hrun : (shutdownLts nothingPython .defaults pullAgent).Run (Orderly (lit "a")) (.init 0) tr s
      := by
    refine Lts.run_of_execIf (I := fun s => ∀ j, 3 ≤ j → Free j s) (fun j _ => free_init j)
      (fun act hact u v es hI hcheck hs => ⟨orderly_of_below hI hcheck, fun j hj => ?_⟩) he
    exact (hI j hj).step hs (hspare act hact j hj)
  have hrest : AtRest s := atRest_of_below (free_of_exec he hspare fun j _ => free_init j) hend
  exact ⟨tr, s, hrun, hrest, stopped_stays_gone hrun hrest⟩

theorem late_poll_returns : ∃ tr s,
    (shutdownLts nothingPython .defaults pullAgent).Free (.init 0) tr s ∧ AtRest s
    ∧ ¬ Gone (lit "a") s.world ∧ (s.world.stores.entry (lit "a")).queue = some [] := by
  have hall : ((shutdownLts nothingPython .defaults pullAgent).exec (.init 0) latePoll).map
      (fun r => (atRestBelow 3 r.1, decide ((r.1.world.stores.entry (lit "a")).endpoint ≠ none
        ∧ (r.1.world.stores.entry (lit "a")).queue = some []))) = some (true, true) := by
    decide +kernel
  obtain ⟨⟨s, tr⟩, he, hend⟩ := Option.map_eq_some_iff.1 hall
  obtain ⟨hbelow, hlisted⟩ := Prod.mk.inj hend
  obtain ⟨hlisted, hqueue⟩ := of_decide_eq_true hlisted
  have hspare : ∀ act ∈ latePoll, ∀ j, 3 ≤ j → act.spares j := spares_of_below (by decide)
  exact ⟨tr, s, Lts.run_of_exec (fun _ _ _ => trivial) he,
    atRest_of_below (free_of_exec he hspare fun j _ => free_init j) hbelow,
    fun hgone => hlisted hgone.1, hqueue⟩

end Shutdown

end AgentComm
