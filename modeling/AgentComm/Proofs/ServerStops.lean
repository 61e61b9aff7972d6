import AgentComm.Proofs.Alone
import AgentComm.Proofs.ServerLoops

/-!
# A stop that returns

`stop` waits for `serve_forever` to say that it has ended. If no thread was ever started to serve,
nothing ever says so; if one was, the threads can always go on to their ends, however far they are,
and `stop` with them.
-/

namespace AgentComm

open Lib

namespace BrokerServer

variable {interval : PyFloat} {cfg : ServerConfig} {s s' : State} {act : Action} {c : ℚ}
  {es tr : List Notice} {i j k : ℕ}

/-- What `stop` relies on while it waits. -/
structure Stoppable (s : State) : Prop where
  /-- the fields name threads that were started -/
  known : IsAt (fun _ => True) s.thread s.serveLoops
  swept : IsAt (fun _ => True) s.sweepThread s.sweepLoops
  /-- a loop that is past its entry has taken the event back -/
  cleared : s.isShutDown = true → All (fun l => l ≠ .register ∧ l ≠ .serving) s.serveLoops
  /-- one that has yet to enter after the event was set finds the socket closed -/
  late : s.isShutDown = true → s.closed = true
    ∨ (s.thread ≠ none ∧ All (fun l => l.isOver = true) s.serveLoops)
  /-- the socket is closed only once nothing serves -/
  deaf : s.closed = true → All (fun l => l ≠ .serving) s.serveLoops
  ends : s.main = .close → s.closed = true ∨ All (fun l => l.isOver = true) s.serveLoops
  asked : s.main = .awaitShutdown →
    s.shutdownRequest = true ∨ All (fun l => l.isOver = true) s.serveLoops

theorem Stoppable.init : Stoppable (State.init c) where
  known _ h := by cases h
  swept _ h := by cases h
  cleared h := by cases h
  late h := by cases h
  deaf h := by cases h
  ends h := by cases h
  asked h := by cases h

/-- A loop comes to its end, and says so. -/
theorem Stoppable.leave {l : ServeLoop} (h : Stoppable s) (hn : Named s)
    (hk : s.serveLoops k = some l) (hl : l.isOver = false) : Stoppable (s.leave k) := by
  have hover : All (fun l => l.isOver = true) (s.leave k).serveLoops :=
    hn.serving.all_update hk hl rfl
  have hthread : s.thread ≠ none := by simp [hn.serving k l hk hl]
  refine ⟨h.known.update trivial, h.swept, fun _ k' l' hk' => ?_, fun _ => .inr ⟨hthread, hover⟩,
    fun hclosed => (h.deaf hclosed).update (by simp), fun _ => .inr hover, fun _ => .inr hover⟩
  have hended : l'.isOver = true := hover k' l' hk'
  constructor <;>
  · rintro rfl
    cases hended

theorem Stoppable.setSweep {l : SweepLoop} (h : Stoppable s) : Stoppable (s.setSweep j l) :=
  ⟨h.known, h.swept.update trivial, h.cleared, h.late, h.deaf, h.ends, h.asked⟩

theorem Stoppable.step (h : Stoppable s) (hn : Named s) (hp : Phased interval s)
    (hmove : Move interval cfg s s' es) : Stoppable s' := by
  have hall := h
  obtain ⟨hknown, hswept, hcleared, hlate, hdeaf, hends, hasked⟩ := h
  cases hmove with
  | running => exact hall
  | start | unserved | unswept | stop | raises =>
    exact ⟨hknown, hswept, hcleared, hlate, hdeaf, by simp, by simp⟩
  | joinSweep =>
    exact ⟨hknown, fun _ h => (by cases h), hcleared, hlate, hdeaf, by simp, by simp⟩
  | serves hm =>
    -- the thread that was over before is another one
    have hclosed : s.isShutDown = true → s.closed = true := fun hshut =>
      (hlate hshut).resolve_right fun h => h.1 (hn.fresh (.inl hm))
    exact ⟨.start trivial, hswept, fun hshut => (hcleared hshut).update (by simp),
      fun hshut => .inl (hclosed hshut), fun hc => (hdeaf hc).update (by simp), by simp,
      by simp⟩
  | sweeps =>
    exact ⟨hknown, .start trivial, hcleared, hlate, hdeaf, by simp, by simp⟩
  | request =>
    exact ⟨hknown, hswept, hcleared, hlate, hdeaf, by simp, fun _ => .inl rfl⟩
  | shut _ hs =>
    exact ⟨hknown, hswept, hcleared, hlate, hdeaf, fun _ => (hlate hs).imp_right And.right,
      by simp⟩
  | close hm =>
    refine ⟨hknown, hswept, hcleared, fun _ => .inl rfl, fun _ => ?_, by simp,
      by simp⟩
    rcases hends hm with hclosed | hover
    · exact hdeaf hclosed
    · rintro k l hk rfl
      exact hover.not_live hk rfl
  | joinServe hm =>
    exact ⟨fun _ h => (by cases h), hswept, hcleared, fun _ => .inl (hp.closing (.inl hm)), hdeaf,
      by simp, by simp⟩
  | enter hk =>
    have hlive : ¬ All (fun l => l.isOver = true) s.serveLoops := fun h => h.not_live hk rfl
    exact ⟨hknown.update trivial, hswept, by simp, by simp,
      fun hc => (hdeaf hc).update (by simp), fun hm => .inl ((hends hm).resolve_right hlive),
      fun hm => .inl ((hasked hm).resolve_right hlive)⟩
  | deaf hk => exact hall.leave hn hk rfl
  | exit hk => exact hall.leave hn hk rfl
  | listens hk hc =>
    have hlive : ¬ All (fun l => l.isOver = true) s.serveLoops := fun h => h.not_live hk rfl
    have huntold : s.isShutDown = true → False := fun h => (hcleared h _ _ hk).1 rfl
    exact ⟨hknown.update trivial, hswept, fun h => (huntold h).elim, fun h => (huntold h).elim,
      fun h => by simp [State.setServe, hc] at h, fun hm => .inl ((hends hm).resolve_right hlive),
      fun hm => .inl ((hasked hm).resolve_right hlive)⟩
  | wait | wake | timeout | swept => exact hall.setSweep
  | sweep => exact ⟨hknown, hswept.update trivial, hcleared, hlate, hdeaf, hends, hasked⟩
  | accept | run | tick => exact ⟨hknown, hswept, hcleared, hlate, hdeaf, hends, hasked⟩

/-- A thread was started to serve. -/
def Begun (s : State) : Prop := ∃ k, s.serveLoops k ≠ none

/-- A thread that serves has yet to end, or the server has been told that it has. -/
def Told (s : State) : Prop :=
  s.isShutDown = true ∨ ∃ k l, s.serveLoops k = some l ∧ l.isOver = false

theorem Told.step (h : Begun s → Told s) (hmove : Move interval cfg s s' es) :
    Begun s' → Told s' := by
  intro hbegun
  cases hmove with
  | @serves k => exact .inr ⟨k, .enter, Function.update_self .., rfl⟩
  | @enter k => exact .inr ⟨k, .register, Function.update_self .., rfl⟩
  | @listens k => exact .inr ⟨k, .serving, Function.update_self .., rfl⟩
  | deaf | exit => exact .inl rfl
  | _ => exact h hbegun

/-- As long as none was, no stop gets past its wait. -/
structure Unserved (s : State) : Prop where
  untold : s.isShutDown = false
  unclosed : s.main ≠ .close ∧ s.main ≠ .joinServe ∧ s.main ≠ .joinSweep

theorem Unserved.step (h : ¬ Begun s → Unserved s) (hmove : Move interval cfg s s' es) :
    ¬ Begun s' → Unserved s' := by
  intro hno
  cases hmove with
  | @serves k | @enter k | @listens k | @deaf k | @exit k =>
    refine absurd ⟨k, ?_⟩ hno
    simp [State.setServe, State.leave]
  | shut _ hs | close hm | joinServe hm | joinSweep hm | raises hm =>
    obtain ⟨huntold, hunclosed⟩ := h hno
    simp_all
  | start | unserved | sweeps | unswept | stop | request =>
    exact ⟨(h hno).untold, by simp⟩
  | _ => exact ⟨(h hno).untold, (h hno).unclosed⟩

theorem idle_step (h : ∃ n, ∀ i, n ≤ i → s.world.threads i = .idle)
    (hmove : Move interval cfg s s' es) : ∃ n, ∀ i, n ≤ i → s'.world.threads i = .idle := by
  obtain ⟨n, hidle⟩ := h
  have hspawn : ∀ {w : World} {call : Call} {evs i},
      (brokerLts cfg).step s.world (.spawn i call) = some (w, evs) →
      ∃ n, ∀ i, n ≤ i → w.threads i = .idle := by
    intro w call evs i hw
    obtain ⟨-, rfl, -⟩ := threads_spawn hw
    refine ⟨max n (i + 1), fun j hj => ?_⟩
    have hne : j ≠ i := by omega
    exact (Function.update_of_ne hne ..).trans (hidle j (by omega))
  cases hmove with
  | accept _ _ hw | sweep _ hw => exact hspawn hw
  | @run i w evs hw =>
    refine ⟨n, fun j hj => ?_⟩
    simp only [brokerLts, World.step] at hw
    split at hw
    · cases hw
    · rename_i sec t hstep
      cases hw
      have hne : j ≠ i := by
        rintro rfl
        rw [hidle j hj] at hstep
        cases hstep
      exact (Function.update_of_ne hne ..).trans (hidle j hj)
  | tick hw => exact ⟨n, fun j hj => (congrFun (threads_tick hw).1 j).trans (hidle j hj)⟩
  | _ => exact ⟨n, hidle⟩

/-- A step of a sweep is the last one, or leaves it a sweep. -/
theorem sweeps_of_step {t t' : Thread} {now : ℚ} {stores : Stores} {sec : Section}
    (h : t.step cfg now stores = some (sec, t')) (ht : t.sweeps = true) :
    t'.sweeps = true ∨ t'.hasEnded = true := by
  cases t with
  | sweepStart | sweepList | evictEndpoint | evictCapabilities | evictHeartbeat | evictMailbox =>
    cases h
    exact .inl rfl
  | sweepRead start l =>
    rcases l with _ | ⟨e, rest⟩
    · cases h
      exact .inr rfl
    · cases h
      left
      split
      · split_ifs <;> rfl
      · rfl
  | _ => cases ht

/-- Thread `i` is in a sweep, or at the end of one. -/
def Busy (w : World) (i : ℕ) : Prop :=
  (w.threads i).sweeps = true ∨ (w.threads i).hasEnded = true

theorem Busy.not_idle {w : World} (h : Busy w i) : World.isIdle (w.threads i) = false := by
  unfold Busy at h
  generalize w.threads i = t at h
  cases t <;> first | rfl | simp [Thread.sweeps, Thread.sweepTime, Thread.hasEnded] at h

theorem Busy.spawn {w w' : World} {call : Call} {evs : List Event} (h : Busy w i)
    (hw : (brokerLts cfg).step w (.spawn j call) = some (w', evs)) : Busy w' i := by
  obtain ⟨hidle, rfl, -⟩ := threads_spawn hw
  have hne : i ≠ j := by
    rintro rfl
    rw [h.not_idle] at hidle
    cases hidle
  unfold Busy
  simp only [Function.update_of_ne hne]
  exact h

theorem Busy.run {w w' : World} {evs : List Event} (h : Busy w i)
    (hw : (brokerLts cfg).step w (.run j) = some (w', evs)) : Busy w' i := by
  simp only [brokerLts, World.step] at hw
  split at hw
  · cases hw
  · rename_i sec t hstep
    cases hw
    unfold Busy
    simp only [World.threads_advance]
    split_ifs with hij
    · subst hij
      rcases h with h | h
      · exact sweeps_of_step hstep h
      · rw [step_of_rests (by simp [rests, h])] at hstep
        cases hstep
    · exact h

theorem busy_step (h : ∀ j i, s.sweepLoops j = some (.sweeping i) → Busy s.world i)
    (hmove : Move interval cfg s s' es) :
    ∀ j i, s'.sweepLoops j = some (.sweeping i) → Busy s'.world i := by
  have hset : ∀ {j l}, (∀ i, l ≠ .sweeping i) → ∀ j' i,
      (s.setSweep j l).sweepLoops j' = some (.sweeping i) → Busy s.world i := by
    intro j l hl j' i hj
    simp only [State.setSweep, Function.update_apply] at hj
    split_ifs at hj
    · exact absurd (Option.some.inj hj) (hl i)
    · exact h j' i hj
  intro j' i' hj'
  cases hmove with
  | accept _ _ hw => exact (h _ _ hj').spawn hw
  | run hw => exact (h _ _ hj').run hw
  | tick hw =>
    have hthreads := (threads_tick hw).1
    unfold Busy
    rw [hthreads]
    exact h _ _ hj'
  | @sweep j i w evs hj hw =>
    simp only [State.setSweep, Function.update_apply] at hj'
    split_ifs at hj'
    · cases hj'
      obtain ⟨-, rfl, -⟩ := threads_spawn hw
      exact .inl (by simp only [Function.update_self]; rfl)
    · exact (h _ _ hj').spawn hw
  | sweeps _ _ _ hl =>
    refine hset ?_ _ _ hj'
    rcases hl with rfl | rfl <;> simp
  | wait =>
    refine hset ?_ _ _ hj'
    intro i
    unfold waitFor
    split_ifs
    · simp
    · split
      · split_ifs <;> simp
      · simp
  | wake | timeout | swept => exact hset (by simp) _ _ hj'
  | _ => exact h _ _ hj'

/-- What holds of every run, for what comes of a stop. -/
structure Waits (interval : PyFloat) (s : State) : Prop where
  named : Named s
  phased : Phased interval s
  stoppable : Stoppable s
  told : Begun s → Told s
  unserved : ¬ Begun s → Unserved s
  idle : ∃ n, ∀ i, n ≤ i → s.world.threads i = .idle
  busy : ∀ j i, s.sweepLoops j = some (.sweeping i) → Busy s.world i

theorem Waits.step (h : Waits interval s)
    (hs : (serverLts interval cfg).step s act = some (s', es)) : Waits interval s' := by
  have hmove := move_of_step hs
  exact ⟨h.named.step hmove, h.phased.step hmove, h.stoppable.step h.named h.phased hmove,
    Told.step h.told hmove, Unserved.step h.unserved hmove, idle_step h.idle hmove,
    busy_step h.busy hmove⟩

theorem Waits.free (h : Waits interval s) (hfree : (serverLts interval cfg).Free s tr s') :
    Waits interval s' :=
  hfree.invariant (I := fun _ s => Waits interval s) h fun h _ hs => h.step hs

theorem Waits.init : Waits interval (State.init c) where
  named := .init
  phased := .init
  stoppable := .init
  told h := by simp [Begun, State.init] at h
  unserved _ := ⟨rfl, by simp [State.init]⟩
  idle := ⟨0, fun _ _ => rfl⟩
  busy _ _ h := by cases h

/-! ### Coming to an end -/

variable (interval cfg) in
/-- The call of `start` or `stop` that is under way can come to its end. -/
def Returns (s : State) : Prop :=
  ∃ tr s', (serverLts interval cfg).Free s tr s' ∧ s'.main = .outside

theorem Returns.of_outside (h : s.main = .outside) : Returns interval cfg s := ⟨[], s, .refl, h⟩

theorem Returns.of_free (h : (serverLts interval cfg).Free s tr s')
    (h' : Returns interval cfg s') : Returns interval cfg s := by
  obtain ⟨tr', u, hfree, hu⟩ := h'
  exact ⟨_, u, h.trans hfree, hu⟩

theorem Returns.of_step (hs : (serverLts interval cfg).step s act = some (s', es))
    (h : Returns interval cfg s') : Returns interval cfg s :=
  .of_free (.single (a := act) trivial hs) h

/-- What a thread of the broker does alone the server lets it do. -/
theorem free_of_only {w : World} {evs : List Event}
    (h : (brokerLts cfg).Run (only i) s.world evs w) :
    (serverLts interval cfg).Free s (evs.map .broker) { s with world := w } := by
  refine h.invariant (I := fun evs w =>
    (serverLts interval cfg).Free s (evs.map .broker) { s with world := w }) .refl ?_
  rintro evs w act w' evs' hfree hok hw
  rw [List.map_append]
  have hworld : w.step cfg act = some (w', evs') := hw
  cases act with
  | run j =>
    refine hfree.snoc (a := .run j) trivial ?_
    simp only [serverLts, State.step, State.broker, hworld, Option.map_some]
  | tick d =>
    refine hfree.snoc (a := .tick d) trivial ?_
    simp only [serverLts, State.step, State.broker, hworld, Option.map_some]
  | spawn => cases hok
  | restart => cases hok

variable (cfg) in
/-- A sweep can come to its end, wherever it is. -/
theorem goes_swept (now : ℚ) {t : Thread} (h : t.sweeps = true) (stores : Stores) :
    ∃ stores', Goes cfg now t stores (.done .swept) stores' := by
  cases t with
  | sweepStart => exact ⟨_, goes_sweep stores⟩
  | sweepList start => exact ⟨_, .step rfl (goes_sweep_list start _ stores)⟩
  | sweepRead start l => exact ⟨_, goes_sweep_list start l stores⟩
  | evictEndpoint start e rest => exact ⟨_, (goes_evict start e rest stores).trans
      (goes_sweep_list start rest _)⟩
  | evictCapabilities start e rest =>
    exact ⟨_, .step rfl (.step rfl (.step rfl (goes_sweep_list start rest _)))⟩
  | evictHeartbeat start e rest =>
    exact ⟨_, .step rfl (.step rfl (goes_sweep_list start rest _))⟩
  | evictMailbox start e rest => exact ⟨_, .step rfl (goes_sweep_list start rest _)⟩
  | _ => cases h

variable (interval cfg) in
/-- So can one that a sweep loop waits for, with nothing else of the server changed. -/
theorem free_swept (h : Busy s.world i) : ∃ tr w, (serverLts interval cfg).Free s tr
    { s with world := w } ∧ (w.threads i).hasEnded = true := by
  rcases h with h | h
  · obtain ⟨stores', hgoes⟩ := goes_swept cfg s.world.clock h s.world.stores
    obtain ⟨tr, w, hrun, -, -, hended⟩ := hgoes.run rfl rfl rfl
    exact ⟨_, w, free_of_only hrun, by rw [hended]; rfl⟩
  · exact ⟨[], s.world, .refl, h⟩

section JoinSweep

variable (hm : s.main = .joinSweep) (ht : s.sweepThread = some j)
include hm ht

theorem returns_swept (hj : s.sweepLoops j = some .ended) : Returns interval cfg s := by
  have hs : (serverLts interval cfg).step s .joinSweep
      = some ({ s with sweepThread := none, main := .outside }, [.stopped]) := by
    simp only [serverLts, State.step, hm, ht, hj, Option.map_some]
  exact .of_step hs (.of_outside rfl)

theorem returns_wait (he : s.sweepStopEvent = true) (hj : s.sweepLoops j = some .wait) :
    Returns interval cfg s := by
  have hs : (serverLts interval cfg).step s (.wait j) = some (s.setSweep j .ended, []) := by
    simp only [serverLts, State.step, hj, he, waitFor_true]
  exact .of_step hs (returns_swept hm ht (Function.update_self ..))

theorem returns_sweeping (he : s.sweepStopEvent = true)
    (hj : s.sweepLoops j = some (.sweeping i)) (hi : Busy s.world i) :
    Returns interval cfg s := by
  obtain ⟨tr, w, hfree, hended⟩ := free_swept interval cfg hi
  have hs : (serverLts interval cfg).step { s with world := w } (.swept j)
      = some ({ s with world := w }.setSweep j .wait, []) := by
    simp only [serverLts, State.step, hj, hended, if_true]
  exact .of_free hfree (.of_step hs (returns_wait hm ht he (Function.update_self ..)))

end JoinSweep

theorem returns_joinSweep (h : Waits interval s) (hm : s.main = .joinSweep) :
    Returns interval cfg s := by
  have he := h.phased.stopping (by simp [hm])
  rcases ht : s.sweepThread with _ | j
  · have hs : (serverLts interval cfg).step s .joinSweep
        = some ({ s with main := .outside }, [.stopped]) := by
      simp only [serverLts, State.step, hm, ht, Option.map_none]
    exact .of_step hs (.of_outside rfl)
  · obtain ⟨l, hj, -⟩ := h.stoppable.swept j ht
    cases l with
    | ended => exact returns_swept hm ht hj
    | unstarted =>
      have hs : (serverLts interval cfg).step s .joinSweep
          = some ({ s with main := .outside }, []) := by
        simp only [serverLts, State.step, hm, ht, hj, Option.map_some]
      exact .of_step hs (.of_outside rfl)
    | wait => exact returns_wait hm ht he hj
    | waiting d =>
      have hs : (serverLts interval cfg).step s (.wake j) = some (s.setSweep j .ended, []) := by
        simp only [serverLts, State.step, hj, he]
      exact .of_step hs (returns_swept hm ht (Function.update_self ..))
    | sweep =>
      obtain ⟨n, hidle⟩ := h.idle
      have hspawn : s.world.step cfg (.spawn n .sweep) = some ({ s.world with
          threads := Function.update s.world.threads n .sweepStart }, []) := by
        simp only [World.step, hidle n le_rfl, World.isIdle, if_true]
        rfl
      have hs : (serverLts interval cfg).step s (.sweep j n)
          = some ({ s.setSweep j (.sweeping n) with world := { s.world with
            threads := Function.update s.world.threads n .sweepStart } }, []) := by
        have hworld : (s.setSweep j (.sweeping n)).world = s.world := rfl
        simp only [serverLts, State.step, hj, State.broker, hworld, hspawn, Option.map_some]
        rfl
      refine .of_step hs (returns_sweeping (i := n) hm ht he (Function.update_self ..) (.inl ?_))
      simp only [Function.update_self]
      rfl
    | sweeping i => exact returns_sweeping hm ht he hj (h.busy j i hj)

theorem returns_joined (h : Waits interval s) (hm : s.main = .joinServe)
    (ht : ∀ k, s.thread = some k → s.serveLoops k = some .ended) : Returns interval cfg s := by
  rcases hthread : s.thread with _ | k
  · have hs : (serverLts interval cfg).step s .joinServe
        = some ({ s with main := .joinSweep }, []) := by
      simp only [serverLts, State.step, hm, hthread, Option.map_none]
    exact .of_step hs (returns_joinSweep (h.step hs) rfl)
  · have hs : (serverLts interval cfg).step s .joinServe
        = some ({ s with thread := none, main := .joinSweep }, []) := by
      simp only [serverLts, State.step, hm, hthread, ht k hthread, Option.map_some]
    exact .of_step hs (returns_joinSweep (h.step hs) rfl)

theorem returns_register (h : Waits interval s) (hm : s.main = .joinServe)
    (ht : s.thread = some k) (hk : s.serveLoops k = some .register) : Returns interval cfg s := by
  have hclosed := h.phased.closing (.inl hm)
  have hs : (serverLts interval cfg).step s (.register k) = some (s.leave k, []) := by
    simp only [serverLts, State.step, hk, hclosed, if_true]
  refine .of_step hs (returns_joined (h.step hs) hm fun k' hk' => ?_)
  obtain rfl := Option.some.inj (ht.symm.trans hk')
  exact Function.update_self ..

theorem returns_joinServe (h : Waits interval s) (hm : s.main = .joinServe) :
    Returns interval cfg s := by
  have hclosed := h.phased.closing (.inl hm)
  rcases ht : s.thread with _ | k
  · exact returns_joined h hm fun k hk => by simp [ht] at hk
  obtain ⟨l, hk, -⟩ := h.stoppable.known k ht
  cases l with
  | enter =>
    have hs : (serverLts interval cfg).step s (.enter k)
        = some ({ s.setServe k .register with isShutDown := false }, []) := by
      simp only [serverLts, State.step, hk]
    exact .of_step hs (returns_register (h.step hs) hm ht (Function.update_self ..))
  | register => exact returns_register h hm ht hk
  | serving => exact absurd rfl (h.stoppable.deaf hclosed k _ hk)
  | ended =>
    refine returns_joined h hm fun k' hk' => ?_
    obtain rfl := Option.some.inj (ht.symm.trans hk')
    exact hk

theorem returns_close (h : Waits interval s) (hm : s.main = .close) : Returns interval cfg s := by
  have hs : (serverLts interval cfg).step s .close
      = some ({ s with closed := true, main := .joinServe }, []) := by
    simp only [serverLts, State.step, hm]
  exact .of_step hs (returns_joinServe (h.step hs) rfl)

theorem returns_shut (h : Waits interval s) (hm : s.main = .awaitShutdown)
    (hshut : s.isShutDown = true) : Returns interval cfg s := by
  have hs : (serverLts interval cfg).step s .shut = some ({ s with main := .close }, []) := by
    simp only [serverLts, State.step, hm, hshut]
  exact .of_step hs (returns_close (h.step hs) rfl)

section Await

variable (h : Waits interval s) (hm : s.main = .awaitShutdown) (hr : s.shutdownRequest = true)
include h hm hr

theorem returns_serving (hk : s.serveLoops k = some .serving) : Returns interval cfg s := by
  have hs : (serverLts interval cfg).step s (.exit k) = some (s.leave k, []) := by
    simp only [serverLts, State.step, hk, hr]
  exact .of_step hs (returns_shut (h.step hs) hm rfl)

theorem returns_registering (hk : s.serveLoops k = some .register) : Returns interval cfg s := by
  cases hclosed : s.closed with
  | true =>
    have hs : (serverLts interval cfg).step s (.register k) = some (s.leave k, []) := by
      simp only [serverLts, State.step, hk, hclosed, if_true]
    exact .of_step hs (returns_shut (h.step hs) hm rfl)
  | false =>
    have hs : (serverLts interval cfg).step s (.register k)
        = some (s.setServe k .serving, []) := by
      simp only [serverLts, State.step, hk, hclosed, Bool.false_eq_true, if_false]
    exact .of_step hs (returns_serving (h.step hs) hm hr (Function.update_self ..))

end Await

theorem returns_await (h : Waits interval s) (hm : s.main = .awaitShutdown) (hb : Begun s) :
    Returns interval cfg s := by
  rcases h.told hb with hshut | ⟨k, l, hk, hl⟩
  · exact returns_shut h hm hshut
  have hr : s.shutdownRequest = true := (h.stoppable.asked hm).resolve_right fun hall =>
    hall.not_live hk hl
  cases l with
  | enter =>
    have hs : (serverLts interval cfg).step s (.enter k)
        = some ({ s.setServe k .register with isShutDown := false }, []) := by
      simp only [serverLts, State.step, hk]
    exact .of_step hs (returns_registering (h.step hs) hm hr (Function.update_self ..))
  | register => exact returns_registering h hm hr hk
  | serving => exact returns_serving h hm hr hk
  | ended => cases hl

/-- `stop` has been called and has not come to its end. -/
def Main.stops : Main → Bool
  | shutdown | awaitShutdown | close | joinServe | joinSweep => true
  | _ => false

/-- `stop` waits for a thread that was never started. -/
structure Hangs (s : State) : Prop where
  unbegun : ¬ Begun s
  untold : s.isShutDown = false
  waits : s.main = .shutdown ∨ s.main = .awaitShutdown

theorem Hangs.step (h : Hangs s) (hmove : Move interval cfg s s' es) : Hangs s' := by
  obtain ⟨hunbegun, huntold, hwaits⟩ := h
  have hnone : ∀ k l, s.serveLoops k ≠ some l := fun k l hk => hunbegun ⟨k, by simp [hk]⟩
  cases hmove with
  | enter hk | deaf hk | listens hk | accept hk | exit hk => exact absurd hk (hnone _ _)
  | running hm | start hm | serves hm | unserved hm | sweeps hm | unswept hm | stop hm
  | close hm | joinServe hm | joinSweep hm | raises hm => simp [hm] at hwaits
  | shut _ hs => simp [huntold] at hs
  | request => exact ⟨hunbegun, huntold, .inr rfl⟩
  | _ => exact ⟨hunbegun, huntold, hwaits⟩

theorem Hangs.not_returns (h : Hangs s) : ¬ Returns interval cfg s := by
  rintro ⟨tr, s', hfree, hout⟩
  have hend : Hangs s' := hfree.invariant (I := fun _ s => Hangs s) h fun h _ hs =>
    h.step (move_of_step hs)
  simpa [hout] using hend.waits

theorem Waits.hangs (h : Waits interval s) (hm : s.main.stops = true) (hno : ¬ Begun s) :
    Hangs s := by
  obtain ⟨huntold, hunclosed⟩ := h.unserved hno
  refine ⟨hno, huntold, ?_⟩
  revert hm hunclosed
  generalize s.main = m
  cases m <;> simp [Main.stops]

/-- However far a stop has come, and whatever all the threads are at, it can come to its end if a
thread was ever started to serve, and never does if none was. -/
theorem stop_returns_iff (h : (serverLts interval cfg).Free (.init c) tr s)
    (hm : s.main.stops = true) : Returns interval cfg s ↔ Begun s := by
  have hwaits : Waits interval s := Waits.init.free h
  constructor
  · intro hreturns
    by_contra hno
    exact (hwaits.hangs hm hno).not_returns hreturns
  · intro hb
    rcases hmain : s.main
    case shutdown =>
      have hs : (serverLts interval cfg).step s .request
          = some ({ s with shutdownRequest := true, main := .awaitShutdown }, []) := by
        simp only [serverLts, State.step, hmain]
      exact .of_step hs (returns_await (hwaits.step hs) rfl hb)
    case awaitShutdown => exact returns_await hwaits hmain hb
    case close => exact returns_close hwaits hmain
    case joinServe => exact returns_joinServe hwaits hmain
    case joinSweep => exact returns_joinSweep hwaits hmain
    all_goals
      rw [hmain] at hm
      cases hm

/-- A broker is stopped that was not started. -/
def unstarted : State := { State.init 0 with sweepStopEvent := true, main := .shutdown }

/-- A stop that is called in a sweep can come to its end, and that of a broker that was not started
cannot. -/
theorem stop_returns_sweeping :
    (∃ tr s, (serverLts (.finite 30) .defaults).Free (.init 0) tr s ∧ s.main = .shutdown
      ∧ (s.world.threads 0).sweeps = true ∧ Returns (.finite 30) .defaults s)
    ∧ ¬ Returns (.finite 30) .defaults unstarted := by
  constructor
  · have hall : ((serverLts (.finite 30) .defaults).exec (.init 0) (startThenStop.take 11)).map
        (fun r => (r.1.main, (r.1.world.threads 0).sweeps, (r.1.serveLoops 0).isSome))
          = some (.shutdown, true, true) := by decide +kernel
    obtain ⟨⟨s, tr⟩, he, hend⟩ := Option.map_eq_some_iff.1 hall
    simp only [Prod.mk.injEq] at hend
    obtain ⟨hmain, hsweeps, hserves⟩ := hend
    have hrun : (serverLts (.finite 30) .defaults).Free (.init 0) tr s :=
      Lts.run_of_exec (fun _ _ _ => trivial) he
    have hb : Begun s := ⟨0, Option.ne_none_iff_isSome.2 hserves⟩
    exact ⟨tr, s, hrun, hmain, hsweeps, (stop_returns_iff hrun (by rw [hmain]; rfl)).2 hb⟩
  · have hrun : (serverLts (.finite 30) .defaults).Free (.init 0) [] unstarted :=
      .single (a := .stop) trivial rfl
    have hno : ¬ Begun unstarted := by simp [Begun, unstarted, State.init]
    exact fun hreturns => hno ((stop_returns_iff hrun rfl).1 hreturns)

end BrokerServer

end AgentComm
