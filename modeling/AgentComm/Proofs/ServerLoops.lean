import AgentComm.Broker.StartStop
import AgentComm.Lib.Crew
import AgentComm.Proofs.Sums

/-!
# The broker's own threads

One thread takes connections and one sweeps, as long as the broker is not stopped, and neither goes
on once `stop` has returned, whatever starts come after. What is left is the handlers that were
running.
-/

namespace AgentComm

open Lib

namespace BrokerServer

/-! ### Steps -/

variable (interval : PyFloat) (cfg : ServerConfig)

/-- What a step does. -/
inductive Move (s : State) : State → List Notice → Prop
  | running {k} (hm : s.main = .outside) (ht : s.thread = some k) : Move s s []
  | start (hm : s.main = .outside) (ht : s.thread = none) : Move s { s with main := .serve } []
  | serves {k} (hm : s.main = .serve) (hk : s.serveLoops k = none) :
      Move s { s.setServe k .enter with thread := some k, main := .sweep } []
  | unserved (hm : s.main = .serve) : Move s { s with main := .outside } []
  | sweeps {j l} (hm : s.main = .sweep) (hj : s.sweepLoops j = none) (hi : interval.gt 0 = true)
      (hl : l = .wait ∨ l = .unstarted) :
      Move s { s.setSweep j l with sweepThread := some j, main := .outside } []
  | unswept (hm : s.main = .sweep) (hi : interval.gt 0 = false) :
      Move s { s with main := .outside } []
  | stop (hm : s.main = .outside) :
      Move s { s with sweepStopEvent := true, main := .shutdown } []
  | request (hm : s.main = .shutdown) :
      Move s { s with shutdownRequest := true, main := .awaitShutdown } []
  | shut (hm : s.main = .awaitShutdown) (hs : s.isShutDown = true) :
      Move s { s with main := .close } []
  | close (hm : s.main = .close) : Move s { s with closed := true, main := .joinServe } []
  | joinServe (hm : s.main = .joinServe)
      (ht : ∀ k, s.thread = some k → s.serveLoops k = some .ended) :
      Move s { s with thread := none, main := .joinSweep } []
  | joinSweep (hm : s.main = .joinSweep)
      (ht : ∀ j, s.sweepThread = some j → s.sweepLoops j = some .ended) :
      Move s { s with sweepThread := none, main := .outside } [.stopped]
  | raises {j} (hm : s.main = .joinSweep) (ht : s.sweepThread = some j)
      (hj : s.sweepLoops j = some .unstarted) : Move s { s with main := .outside } []
  | enter {k} (hk : s.serveLoops k = some .enter) :
      Move s { s.setServe k .register with isShutDown := false } []
  | deaf {k} (hk : s.serveLoops k = some .register) (hc : s.closed = true) : Move s (s.leave k) []
  | listens {k} (hk : s.serveLoops k = some .register) (hc : s.closed = false) :
      Move s (s.setServe k .serving) []
  | accept {k i call w es} (hk : s.serveLoops k = some .serving) (hcall : call.isRequest = true)
      (hw : (brokerLts cfg).step s.world (.spawn i call) = some (w, es)) :
      Move s { s with world := w } (es.map .broker ++ [.accepted i])
  | exit {k} (hk : s.serveLoops k = some .serving) (hr : s.shutdownRequest = true) :
      Move s (s.leave k) []
  | wait {j} (hj : s.sweepLoops j = some .wait) :
      Move s (s.setSweep j (waitFor interval s.sweepStopEvent s.world.clock)) []
  | wake {j d} (hj : s.sweepLoops j = some (.waiting d)) (he : s.sweepStopEvent = true) :
      Move s (s.setSweep j .ended) []
  | timeout {j d} (hj : s.sweepLoops j = some (.waiting d)) (he : s.sweepStopEvent = false)
      (hd : d ≤ s.world.clock) : Move s (s.setSweep j .sweep) []
  | sweep {j i w es} (hj : s.sweepLoops j = some .sweep)
      (hw : (brokerLts cfg).step s.world (.spawn i .sweep) = some (w, es)) :
      Move s { s.setSweep j (.sweeping i) with world := w } (es.map .broker)
  | swept {j i} (hj : s.sweepLoops j = some (.sweeping i))
      (hi : (s.world.threads i).hasEnded = true) : Move s (s.setSweep j .wait) []
  | run {i w es} (hw : (brokerLts cfg).step s.world (.run i) = some (w, es)) :
      Move s { s with world := w } (es.map .broker)
  | tick {d w es} (hw : (brokerLts cfg).step s.world (.tick d) = some (w, es)) :
      Move s { s with world := w } (es.map .broker)

variable {interval cfg} {s s' : State} {act : Action} {c : ℚ}
  {es tr tr' : List Notice} {i j k : ℕ}

theorem State.broker_eq {act : AgentComm.Action} (h : s.broker cfg act = some (s', es)) :
    ∃ w es', (brokerLts cfg).step s.world act = some (w, es') ∧ s' = { s with world := w }
      ∧ es = es'.map .broker := by
  obtain ⟨⟨w, es'⟩, hs, hr⟩ := Option.map_eq_some_iff.1 h
  cases hr
  exact ⟨w, es', hs, rfl, rfl⟩

theorem move_of_step (hs : (serverLts interval cfg).step s act = some (s', es)) :
    Move interval cfg s s' es := by
  cases act with
  | start =>
    simp only [serverLts, State.step] at hs
    split at hs <;> cases hs
    · exact .running (by assumption) (by assumption)
    · exact .start (by assumption) (by assumption)
  | serves k =>
    simp only [serverLts, State.step] at hs
    split at hs <;> cases hs
    exact .serves (by assumption) (by assumption)
  | unserved =>
    simp only [serverLts, State.step] at hs
    split at hs <;> cases hs
    exact .unserved (by assumption)
  | sweeps j =>
    simp only [serverLts, State.step] at hs
    split at hs <;> cases hs
    exact .sweeps (by assumption) (by assumption) (by assumption) (.inl rfl)
  | unstarted j =>
    simp only [serverLts, State.step] at hs
    split at hs <;> cases hs
    exact .sweeps (by assumption) (by assumption) (by assumption) (.inr rfl)
  | unswept =>
    simp only [serverLts, State.step] at hs
    split at hs <;> cases hs
    exact .unswept (by assumption) (by assumption)
  | stop =>
    simp only [serverLts, State.step] at hs
    split at hs <;> cases hs
    exact .stop (by assumption)
  | request =>
    simp only [serverLts, State.step] at hs
    split at hs <;> cases hs
    exact .request (by assumption)
  | shut =>
    simp only [serverLts, State.step] at hs
    split at hs <;> cases hs
    exact .shut (by assumption) (by assumption)
  | close =>
    simp only [serverLts, State.step] at hs
    split at hs <;> cases hs
    exact .close (by assumption)
  | joinServe =>
    simp only [serverLts, State.step] at hs
    split at hs
    · rename_i hm ht
      have hnone := Option.map_eq_none_iff.1 ht
      obtain ⟨hs', rfl⟩ := Prod.mk.inj (Option.some.inj hs)
      obtain rfl : { s with thread := none, main := .joinSweep } = s' := by rw [← hs', ← hnone]
      exact .joinServe hm fun k hk => by simp [hnone] at hk
    · rename_i hm ht
      cases hs
      obtain ⟨k, hk, hended⟩ := Option.map_eq_some_iff.1 ht
      refine .joinServe hm fun k' hk' => ?_
      obtain rfl := Option.some.inj (hk.symm.trans hk')
      exact hended
    · cases hs
  | joinSweep =>
    simp only [serverLts, State.step] at hs
    split at hs
    · rename_i hm ht
      have hnone := Option.map_eq_none_iff.1 ht
      obtain ⟨hs', rfl⟩ := Prod.mk.inj (Option.some.inj hs)
      obtain rfl : { s with sweepThread := none, main := .outside } = s' := by rw [← hs', ← hnone]
      exact .joinSweep hm fun j hj => by simp [hnone] at hj
    · rename_i hm ht
      cases hs
      obtain ⟨j, hj, hended⟩ := Option.map_eq_some_iff.1 ht
      refine .joinSweep hm fun j' hj' => ?_
      obtain rfl := Option.some.inj (hj.symm.trans hj')
      exact hended
    · rename_i hm ht
      cases hs
      obtain ⟨j, hj, hunstarted⟩ := Option.map_eq_some_iff.1 ht
      exact .raises hm hj hunstarted
    · cases hs
  | enter k =>
    simp only [serverLts, State.step] at hs
    split at hs <;> cases hs
    exact .enter (by assumption)
  | register k =>
    simp only [serverLts, State.step] at hs
    split at hs <;> cases hs
    split_ifs with hc
    · exact .deaf (by assumption) hc
    · exact .listens (by assumption) (Bool.eq_false_iff.2 hc)
  | accept k i call =>
    simp only [serverLts, State.step] at hs
    split at hs
    · obtain ⟨⟨u, es'⟩, hu, hr⟩ := Option.map_eq_some_iff.1 hs
      cases hr
      obtain ⟨w, es', hw, rfl, rfl⟩ := State.broker_eq hu
      exact .accept (by assumption) (by assumption) hw
    · cases hs
  | exit k =>
    simp only [serverLts, State.step] at hs
    split at hs <;> cases hs
    exact .exit (by assumption) (by assumption)
  | wait j =>
    simp only [serverLts, State.step] at hs
    split at hs <;> cases hs
    exact .wait (by assumption)
  | wake j =>
    simp only [serverLts, State.step] at hs
    split at hs <;> cases hs
    exact .wake (by assumption) (by assumption)
  | timeout j =>
    simp only [serverLts, State.step] at hs
    split at hs
    · split_ifs at hs with hd
      cases hs
      exact .timeout (by assumption) (by assumption) hd
    · cases hs
  | sweep j i =>
    simp only [serverLts, State.step] at hs
    split at hs
    · obtain ⟨w, es', hw, rfl, rfl⟩ := State.broker_eq hs
      exact .sweep (by assumption) hw
    · cases hs
  | swept j =>
    simp only [serverLts, State.step] at hs
    split at hs
    · split_ifs at hs with hi
      cases hs
      exact .swept (by assumption) hi
    · cases hs
  | run i =>
    obtain ⟨w, es', hw, rfl, rfl⟩ := State.broker_eq hs
    exact .run hw
  | tick d =>
    obtain ⟨w, es', hw, rfl, rfl⟩ := State.broker_eq hs
    exact .tick hw

/-! ### One thread each -/

def ServeLoop.isOver : ServeLoop → Bool
  | ended => true
  | _ => false

def SweepLoop.isOver : SweepLoop → Bool
  | unstarted | ended => true
  | _ => false

/-- The threads that go on are those the server knows, and only one of them sweeps. -/
structure Named (s : State) : Prop where
  serving : Names ServeLoop.isOver s.thread s.serveLoops
  sweeping : Names SweepLoop.isOver s.sweepThread s.sweepLoops
  fresh : s.main = .serve ∨ s.main = .joinSweep → s.thread = none
  assigned : s.main = .sweep → s.thread ≠ none
  calm : s.main = .sweep ∨ (s.thread = none ∧ s.main ≠ .joinSweep) →
    All (fun l => l.isOver = true) s.sweepLoops
  swept : ∀ i, (s.world.threads i).sweeps → ∃ j, s.sweepLoops j = some (.sweeping i)

theorem Named.init : Named (State.init c) where
  serving _ _ h := by cases h
  sweeping _ _ h := by cases h
  fresh _ := rfl
  assigned h := by cases h
  calm _ _ _ h := by cases h
  swept _ h := by cases h

/-! ### The threads of the broker -/

theorem sweeps_start {call : Call} : call.start.sweeps = !call.isRequest := by
  cases call <;> rfl

theorem sweeps_hasEnded {t : Thread} (h : t.hasEnded = true) : t.sweeps = false := by
  cases t <;> first | rfl | cases h

variable {w w' : World} {call : Call} {evs : List Event}

theorem threads_spawn (h : (brokerLts cfg).step w (.spawn i call) = some (w', evs)) :
    World.isIdle (w.threads i) = true
      ∧ w' = { w with threads := Function.update w.threads i call.start } ∧ evs = [] := by
  simp only [brokerLts, World.step] at h
  split_ifs at h with hidle
  cases h
  exact ⟨hidle, rfl, rfl⟩

/-- A thread that sweeps after a step other than a start swept before. -/
theorem sweeps_of_run (h : (brokerLts cfg).step w (.run i) = some (w', evs))
    (hj : (w'.threads j).sweeps) : (w.threads j).sweeps := by
  simp only [brokerLts, World.step] at h
  split at h
  · cases h
  · rename_i sec t hstep
    cases h
    simp only [World.advance, Function.update_apply] at hj
    split_ifs at hj with hji
    · exact hji ▸ Thread.step_sweeps hstep hj
    · exact hj

theorem threads_tick {d : ℚ} (h : (brokerLts cfg).step w (.tick d) = some (w', evs)) :
    w'.threads = w.threads ∧ w'.stores = w.stores := by
  simp only [brokerLts, World.step] at h
  split_ifs at h
  cases h
  exact ⟨rfl, rfl⟩

/-- A sweep loop other than the one that moves is in the sweep still. -/
theorem swept_update {f : ℕ → Option SweepLoop} {l l' : SweepLoop}
    (h : ∃ j, f j = some (.sweeping i)) (hj : f j = some l) (hl : l ≠ .sweeping i) :
    ∃ j', Function.update f j (some l') j' = some (.sweeping i) := by
  obtain ⟨j', hj'⟩ := h
  have hne : j' ≠ j := by
    rintro rfl
    exact hl (Option.some.inj (hj.symm.trans hj'))
  exact ⟨j', (Function.update_of_ne hne ..).trans hj'⟩

/-- A sweep loop goes on. -/
theorem Named.setSweep {l l' : SweepLoop} (h : Named s) (hj : s.sweepLoops j = some l)
    (hl : l.isOver = false) (hi : ∀ i, l = .sweeping i → (s.world.threads i).sweeps = false) :
    Named (s.setSweep j l') where
  serving := h.serving
  sweeping := h.sweeping.update hj hl
  fresh := h.fresh
  assigned := h.assigned
  calm hcalm := ((h.calm hcalm).not_live hj hl).elim
  swept i hswept := by
    refine swept_update (h.swept i hswept) hj fun hli => ?_
    have hfalse : (s.world.threads i).sweeps = true := hswept
    rw [hi i hli] at hfalse
    cases hfalse

theorem Named.step (h : Named s) (hmove : Move interval cfg s s' es) : Named s' := by
  have hall := h
  obtain ⟨hserving, hsweeping, hfresh, hassigned, hcalm, hswept⟩ := h
  cases hmove with
  | running => exact hall
  | start hm ht =>
    have hover := hcalm (.inr ⟨ht, by simp [hm]⟩)
    exact ⟨hserving, hsweeping, fun _ => ht, by simp, fun _ => hover, hswept⟩
  | @serves k hm hk =>
    have ht := hfresh (.inl hm)
    have hover := hcalm (.inr ⟨ht, by simp [hm]⟩)
    have hended := hserving.all fun k l hk _ => by simp [ht] at hk
    exact ⟨hended.start, hsweeping, by simp, by simp, fun _ => hover, hswept⟩
  | unserved hm =>
    have hover := hcalm (.inr ⟨hfresh (.inl hm), by simp [hm]⟩)
    exact ⟨hserving, hsweeping, by simp, by simp, fun _ => hover, hswept⟩
  | @sweeps j l hm hj hi hl =>
    have hover := hcalm (.inl hm)
    refine ⟨hserving, hover.start, by simp, by simp, fun h => ?_, fun i hi => ?_⟩
    · have ht := (h.resolve_left (by simp)).1
      exact absurd ht (hassigned hm)
    · obtain ⟨j', hj'⟩ := hswept i hi
      cases hover j' _ hj'
  | unswept hm hi =>
    have hover := hcalm (.inl hm)
    exact ⟨hserving, hsweeping, by simp, by simp, fun _ => hover, hswept⟩
  | stop hm | request hm | shut hm | close hm =>
    refine ⟨hserving, hsweeping, by simp, by simp, fun h => hcalm (.inr ?_), hswept⟩
    have ht : s.thread = none := by simpa using h
    exact ⟨ht, by simp [hm]⟩
  | joinServe hm ht =>
    have hended := hserving.all fun k l hk hl => by
      obtain rfl := Option.some.inj ((ht k hk).symm.trans hl)
      rfl
    exact ⟨hended.names, hsweeping, fun _ => rfl, by simp, fun h => by simp at h, hswept⟩
  | joinSweep hm ht =>
    have hover := hsweeping.all fun j l hj hl => by
      obtain rfl := Option.some.inj ((ht j hj).symm.trans hl)
      rfl
    exact ⟨hserving, hover.names, by simp, by simp, fun _ => hover, hswept⟩
  | @raises j hm ht hj =>
    have hover := hsweeping.all fun j' l hj' hl => by
      obtain rfl := Option.some.inj (ht.symm.trans hj')
      obtain rfl := Option.some.inj (hj.symm.trans hl)
      rfl
    exact ⟨hserving, hsweeping, by simp, by simp, fun _ => hover, hswept⟩
  | enter hk | deaf hk | listens hk | exit hk =>
    exact ⟨hserving.update hk rfl, hsweeping, hfresh, hassigned, hcalm, hswept⟩
  | wait hj | wake hj | timeout hj =>
    exact hall.setSweep hj rfl fun i hi => by cases hi
  | swept hj hi =>
    refine hall.setSweep hj rfl fun i hi' => ?_
    cases hi'
    exact sweeps_hasEnded hi
  | accept _ hcall hw =>
    obtain ⟨-, rfl, -⟩ := threads_spawn hw
    refine ⟨hserving, hsweeping, hfresh, hassigned, hcalm, fun i hi => ?_⟩
    simp only [Function.update_apply] at hi
    split_ifs at hi
    · rw [sweeps_start, hcall] at hi
      cases hi
    · exact hswept i hi
  | @sweep j i w es hj hw =>
    obtain ⟨-, rfl, -⟩ := threads_spawn hw
    refine ⟨hserving, hsweeping.update hj rfl, hfresh, hassigned, fun h => ?_, fun i' hi' => ?_⟩
    · cases hcalm h j _ hj
    · simp only [Function.update_apply] at hi'
      split_ifs at hi' with hii
      · exact ⟨j, hii ▸ Function.update_self ..⟩
      · exact swept_update (hswept i' hi') hj (by simp)
  | run hw =>
    exact ⟨hserving, hsweeping, hfresh, hassigned, hcalm,
      fun i hi => hswept i (sweeps_of_run hw hi)⟩
  | tick hw =>
    refine ⟨hserving, hsweeping, hfresh, hassigned, hcalm, fun i hi => hswept i ?_⟩
    rw [← (threads_tick hw).1]
    exact hi

/-! ### Before and after a stop -/

/-- A wait of the sweep loop does not raise. -/
def Waitable (interval : PyFloat) : Prop := ∃ d, interval = .finite d ∧ d ≤ timeoutMax

theorem waitFor_false {clock : ℚ} (h : waitFor interval false clock = .ended) :
    ¬ Waitable interval := by
  rintro ⟨d, rfl, hd⟩
  simp [waitFor, not_lt.2 hd] at h

theorem waitFor_true {clock : ℚ} : waitFor interval true clock = .ended := rfl

variable (interval) in
/-- How far the server has come. -/
structure Phased (s : State) : Prop where
  stopping : s.main = .shutdown ∨ s.main = .awaitShutdown ∨ s.main = .close ∨ s.main = .joinServe
    ∨ s.main = .joinSweep → s.sweepStopEvent = true
  closing : s.main = .joinServe ∨ s.main = .joinSweep → s.closed = true
  unstopped : s.sweepStopEvent = false → s.shutdownRequest = false ∧ s.closed = false
  serves : s.sweepStopEvent = false → IsAt (fun l => l.isOver = false) s.thread s.serveLoops
  sweeps : s.sweepStopEvent = false →
    IsAt (fun l => l = .ended → ¬ Waitable interval) s.sweepThread s.sweepLoops

theorem Phased.init : Phased interval (State.init c) where
  stopping h := by simp [State.init] at h
  closing h := by simp [State.init] at h
  unstopped _ := ⟨rfl, rfl⟩
  serves _ _ h := by cases h
  sweeps _ _ h := by cases h

/-- After a stop nothing more is said of the loops. -/
theorem Phased.of_event (he : s.sweepStopEvent = true)
    (hc : s.main = .joinServe ∨ s.main = .joinSweep → s.closed = true) : Phased interval s where
  stopping _ := he
  closing := hc
  unstopped h := by simp [he] at h
  serves h := by simp [he] at h
  sweeps h := by simp [he] at h

theorem Phased.setSweep {l : SweepLoop} (h : Phased interval s)
    (hl : s.sweepStopEvent = false → l = .ended → ¬ Waitable interval) :
    Phased interval (s.setSweep j l) where
  stopping := h.stopping
  closing := h.closing
  unstopped := h.unstopped
  serves := h.serves
  sweeps he := (h.sweeps he).update (hl he)

theorem Phased.step (h : Phased interval s) (hmove : Move interval cfg s s' es) :
    Phased interval s' := by
  have hall := h
  obtain ⟨hstopping, hclosing, hunstopped, hserves, hsweeps⟩ := h
  cases hmove with
  | running => exact hall
  | start | unserved | unswept =>
    exact ⟨fun h => by simp at h, fun h => by simp at h, hunstopped, hserves, hsweeps⟩
  | serves =>
    exact ⟨fun h => by simp at h, fun h => by simp at h, hunstopped, fun _ => .start rfl, hsweeps⟩
  | sweeps _ _ _ hl =>
    refine ⟨fun h => by simp at h, fun h => by simp at h, hunstopped, hserves, fun _ => .start ?_⟩
    rintro rfl
    simp at hl
  | stop => exact .of_event rfl fun h => by simp at h
  | request hm => exact .of_event (hstopping (.inl hm)) fun h => by simp at h
  | shut hm => exact .of_event (hstopping (by simp [hm])) fun h => by simp at h
  | close hm => exact .of_event (hstopping (by simp [hm])) fun _ => rfl
  | joinServe hm => exact .of_event (hstopping (by simp [hm])) fun _ => hclosing (.inl hm)
  | joinSweep hm | raises hm => exact .of_event (hstopping (by simp [hm])) fun h => by simp at h
  | enter | listens =>
    exact ⟨hstopping, hclosing, hunstopped, fun he => (hserves he).update rfl, hsweeps⟩
  | deaf _ hc =>
    refine .of_event ?_ hclosing
    by_contra he
    simp [(hunstopped (Bool.eq_false_iff.2 he)).2] at hc
  | exit _ hr =>
    refine .of_event ?_ hclosing
    by_contra he
    simp [(hunstopped (Bool.eq_false_iff.2 he)).1] at hr
  | wait hj =>
    refine hall.setSweep fun he hended => ?_
    rw [he] at hended
    exact waitFor_false hended
  | wake _ he => exact hall.setSweep fun he' => by simp [he] at he'
  | timeout | swept => exact hall.setSweep fun _ h => by cases h
  | sweep =>
    exact ⟨hstopping, hclosing, hunstopped, hserves,
      fun he => (hsweeps he).update fun h => by cases h⟩
  | accept | run | tick => exact ⟨hstopping, hclosing, hunstopped, hserves, hsweeps⟩

/-- The server takes no connection and starts no sweep any more. -/
structure Stopped (s : State) : Prop where
  event : s.sweepStopEvent = true
  closed : s.closed = true
  deaf : All (fun l => l ≠ .serving) s.serveLoops
  unswept : All (fun l => l = .wait ∨ l.isOver = true) s.sweepLoops

theorem Stopped.setSweep {l : SweepLoop} (h : Stopped s) (hl : l = .wait ∨ l.isOver = true) :
    Stopped (s.setSweep j l) :=
  ⟨h.event, h.closed, h.deaf, h.unswept.update hl⟩

theorem Stopped.step (h : Stopped s) (hmove : Move interval cfg s s' es) : Stopped s' := by
  have hall := h
  obtain ⟨hevent, hclosed, hdeaf, hunswept⟩ := h
  cases hmove with
  | running => exact hall
  | serves | enter | deaf => exact ⟨hevent, hclosed, hdeaf.update (by simp), hunswept⟩
  | sweeps _ _ _ hl =>
    refine ⟨hevent, hclosed, hdeaf, hunswept.update ?_⟩
    rcases hl with rfl | rfl
    · exact .inl rfl
    · exact .inr rfl
  | stop => exact ⟨rfl, hclosed, hdeaf, hunswept⟩
  | close => exact ⟨hevent, rfl, hdeaf, hunswept⟩
  | listens _ hc => simp [hclosed] at hc
  | accept hk | exit hk => exact absurd rfl (hdeaf _ _ hk)
  | wait =>
    rw [hevent, waitFor_true]
    exact hall.setSweep (.inr rfl)
  | wake => exact hall.setSweep (.inr rfl)
  | timeout _ he => simp [hevent] at he
  | sweep hj =>
    rcases hunswept _ _ hj with h | h <;> cases h
  | swept => exact hall.setSweep (.inl rfl)
  | _ => exact ⟨hevent, hclosed, hdeaf, hunswept⟩

/-- `stop` returns with both threads at their ends. -/
theorem Stopped.of_joined (h : Named s) (hp : Phased interval s) (hm : s.main = .joinSweep)
    (ht : ∀ j, s.sweepThread = some j → s.sweepLoops j = some .ended) :
    Stopped { s with sweepThread := none, main := .outside } where
  event := hp.stopping (by simp [hm])
  closed := hp.closing (.inr hm)
  deaf k l hk hl := by
    subst hl
    have hthread := h.serving k _ hk rfl
    rw [h.fresh (.inr hm)] at hthread
    cases hthread
  unswept j l hl := by
    by_contra hlive
    push Not at hlive
    have hthread := h.sweeping j l hl (Bool.eq_false_iff.2 hlive.2)
    obtain rfl : SweepLoop.ended = l := Option.some.inj ((ht j hthread).symm.trans hl)
    exact hlive.2 rfl

/-! ### Runs -/

def Notice.event? : Notice → Option Event
  | broker e => some e
  | _ => none

theorem filterMap_broker (evs : List Event) :
    (evs.map Notice.broker).filterMap Notice.event? = evs := by
  rw [List.filterMap_map]
  exact List.filterMap_some

/-- A step of the server is one of the broker, or none. -/
theorem Move.world (h : Move interval cfg s s' es) :
    (brokerLts cfg).Free s.world (es.filterMap Notice.event?) s'.world := by
  cases h with
  | accept _ _ hw =>
    rw [List.filterMap_append, filterMap_broker]
    exact (List.append_nil _).symm ▸ .single (a := .spawn _ _) trivial hw
  | sweep _ hw =>
    rw [filterMap_broker]
    exact .single (a := .spawn _ _) trivial hw
  | run hw =>
    rw [filterMap_broker]
    exact .single (a := .run _) trivial hw
  | tick hw =>
    rw [filterMap_broker]
    exact .single (a := .tick _) trivial hw
  | _ => exact .refl

theorem Move.stopped (h : Move interval cfg s s' es) (hs : .stopped ∈ es) :
    s.main = .joinSweep ∧ (∀ j, s.sweepThread = some j → s.sweepLoops j = some .ended)
      ∧ s' = { s with sweepThread := none, main := .outside } := by
  cases h with
  | joinSweep hm ht => exact ⟨hm, ht, rfl⟩
  | _ => simp at hs

/-- What holds of every run. -/
structure Running (interval : PyFloat) (cfg : ServerConfig) (c : ℚ) (tr : List Notice)
    (s : State) : Prop where
  named : Named s
  phased : Phased interval s
  stopped : .stopped ∈ tr → Stopped s
  world : (brokerLts cfg).Free (.boot c) (tr.filterMap Notice.event?) s.world

theorem running_of_free (h : (serverLts interval cfg).Free (.init c) tr s) :
    Running interval cfg c tr s := by
  refine h.invariant (I := Running interval cfg c)
    ⟨.init, .init, fun h => (by cases h), .refl⟩ ?_
  rintro tr s act s' es ⟨hnamed, hphased, hstopped, hworld⟩ - hs
  have hmove := move_of_step hs
  refine ⟨hnamed.step hmove, hphased.step hmove, fun hmem => ?_, ?_⟩
  · rcases List.mem_append.1 hmem with hmem | hmem
    · exact (hstopped hmem).step hmove
    · obtain ⟨hm, ht, rfl⟩ := hmove.stopped hmem
      exact .of_joined hnamed hphased hm ht
  · rw [List.filterMap_append]
    exact hworld.trans hmove.world

/-- What is asked of the broker is a TTL small enough for a `float`. -/
def Action.floats : Action → Bool
  | accept _ _ call => call.floats
  | _ => true

theorem floats_step (h : s.world.Floats) (hdefault : cfg.defaultTtlSeconds < floatLimit)
    (hact : act.floats = true) (hs : (serverLts interval cfg).step s act = some (s', es)) :
    s'.world.Floats := by
  cases act with
  | accept k i call =>
    simp only [serverLts, State.step] at hs
    split at hs
    · obtain ⟨⟨u, es'⟩, hu, hr⟩ := Option.map_eq_some_iff.1 hs
      cases hr
      obtain ⟨w, es', hw, rfl, rfl⟩ := State.broker_eq hu
      exact h.step hdefault hw hact
    · cases hs
  | sweep j i =>
    simp only [serverLts, State.step] at hs
    split at hs
    · obtain ⟨w, es', hw, rfl, rfl⟩ := State.broker_eq hs
      exact h.step hdefault hw rfl
    · cases hs
  | run | tick =>
    obtain ⟨w, es', hw, rfl, rfl⟩ := State.broker_eq hs
    exact h.step hdefault hw rfl
  -- the others leave the broker alone
  | register k =>
    simp only [serverLts, State.step] at hs
    split at hs <;> cases hs
    split_ifs <;> exact h
  | timeout j | swept j =>
    simp only [serverLts, State.step] at hs
    split at hs
    · split_ifs at hs
      cases hs
      exact h
    · cases hs
  | _ =>
    simp only [serverLts, State.step] at hs
    split at hs <;> cases hs <;> exact h

/-! ### After a stop -/

/-- A thread that has no step to take. -/
def rests (t : Thread) : Bool := World.isIdle t || t.hasEnded

theorem step_of_rests {t : Thread} {now : ℚ} {stores : Stores} (h : rests t = true) :
    t.step cfg now stores = none := by
  cases t <;> first | rfl | cases h

/-- What a server that has stopped still does, after which its threads all rest if they did. -/
structure Silent (s : State) (tr : List Notice) (s' : State) : Prop where
  stopped : Stopped s'
  named : Named s'
  refuses : ∀ i, .accepted i ∉ tr
  rests : (∀ i, rests (s.world.threads i) = true) →
    s'.world.stores = s.world.stores ∧ ∀ i, BrokerServer.rests (s'.world.threads i) = true

theorem silent_of_free (hnamed : Named s) (hstopped : Stopped s)
    (h : (serverLts interval cfg).Free s tr s') : Silent s tr s' := by
  refine h.invariant (I := Silent s)
    ⟨hstopped, hnamed, fun _ hi => (by cases hi), fun hrest => ⟨rfl, hrest⟩⟩ ?_
  rintro tr t act t' es ⟨hst, hnm, hrefuses, hrests⟩ - hs
  have hmove := move_of_step hs
  refine ⟨hst.step hmove, hnm.step hmove, fun i hi => ?_, fun hrest => ?_⟩
  · rcases List.mem_append.1 hi with hi | hi
    · exact hrefuses i hi
    · cases hmove with
      | accept hk => exact hst.deaf _ _ hk rfl
      | _ => simp at hi
  · obtain ⟨hstores, hall⟩ := hrests hrest
    cases hmove with
    | accept hk => exact absurd rfl (hst.deaf _ _ hk)
    | sweep hj =>
      rcases hst.unswept _ _ hj with hl | hl <;> cases hl
    | @run i w evs hw =>
      simp only [brokerLts, World.step, step_of_rests (hall i)] at hw
      cases hw
    | tick hw =>
      obtain ⟨hthreads, hsame⟩ := threads_tick hw
      exact ⟨hsame.trans hstores, fun i => (congrFun hthreads i).symm ▸ hall i⟩
    | _ => exact ⟨hstores, hall⟩

theorem Stopped.sweeps (h : Stopped s) (hn : Named s) (i : ℕ) :
    (s.world.threads i).sweeps = false := by
  by_contra hi
  obtain ⟨j, hj⟩ := hn.swept i (Bool.not_eq_false _ ▸ hi)
  rcases h.unswept j _ hj with hl | hl <;> cases hl

variable (interval cfg) in
/-- Runs in which every TTL asked for is small enough for a `float`. -/
abbrev Floating : State → List Notice → State → Prop :=
  (serverLts interval cfg).Run fun _ act => act.floats = true

variable (interval cfg c) in
/-- The server in a run: the broker's own steps, sweeps whose sums do not raise, one at a time,
loops that go on until a stop, and nothing of its own after one. -/
structure Lifecycle (tr : List Notice) (s : State) : Prop where
  broker : (brokerLts cfg).Free (.boot c) (tr.filterMap Notice.event?) s.world
  sums : ∀ i now e rest, s.world.threads i = .sweepRead now (e :: rest) →
    sumRaises s.world.stores e = false
  alone : ∀ i j, (s.world.threads i).sweeps → (s.world.threads j).sweeps → i = j
  serves : s.sweepStopEvent = false → ∀ k, s.thread = some k →
    ∃ l, s.serveLoops k = some l ∧ l.isOver = false
  sweeps : s.sweepStopEvent = false → Waitable interval → ∀ j, s.sweepThread = some j →
    ∃ l, s.sweepLoops j = some l ∧ l ≠ .ended
  silent : .stopped ∈ tr → ∀ tr' s', (serverLts interval cfg).Free s tr' s' →
    (∀ i, .accepted i ∉ tr') ∧ (∀ i, (s'.world.threads i).sweeps = false)
      ∧ ((∀ i, rests (s.world.threads i) = true) → s'.world.stores = s.world.stores)

/-- Whatever starts and stops come in whatever order with the steps of all threads, the server goes
through its life. -/
theorem server_lifecycle (hdefault : cfg.defaultTtlSeconds < floatLimit)
    (h : Floating interval cfg (.init c) tr s) : Lifecycle interval cfg c tr s := by
  obtain ⟨hnamed, hphased, hstopped, hworld⟩ := running_of_free h.free
  have hfloats : s.world.Floats := h.invariant (I := fun _ s => s.world.Floats) (.boot c)
    fun hI hok hs => floats_step hI hdefault hok hs
  refine ⟨hworld, fun i now e rest _ => hfloats.stores.sumRaises e, fun i j hi hj => ?_,
    hphased.serves, fun hevent hwait j hj => ?_, fun hmem tr' s' hfree => ?_⟩
  · obtain ⟨k, hk⟩ := hnamed.swept i hi
    obtain ⟨k', hk'⟩ := hnamed.swept j hj
    have hthread := (hnamed.sweeping k _ hk rfl).symm.trans (hnamed.sweeping k' _ hk' rfl)
    obtain rfl := Option.some.inj hthread
    simpa using hk.symm.trans hk'
  · obtain ⟨l, hl, hended⟩ := hphased.sweeps hevent j hj
    exact ⟨l, hl, fun h => hended h hwait⟩
  · have hsilent := silent_of_free hnamed (hstopped hmem) hfree
    exact ⟨hsilent.refuses, hsilent.stopped.sweeps hsilent.named,
      fun hrest => (hsilent.rests hrest).1⟩

/-- The broker starts, and is stopped in its first sweep. -/
def startThenStop : List Action :=
  [.start, .serves 0, .sweeps 0, .enter 0, .register 0, .wait 0, .tick 30, .timeout 0, .sweep 0 0,
    .run 0, .stop, .request, .exit 0, .run 0, .run 0, .swept 0, .wait 0, .shut, .close, .joinServe,
    .joinSweep]

def Notice.isStopped : Notice → Bool
  | stopped => true
  | _ => false

theorem server_lifecycle_stopped : ∃ tr s, .stopped ∈ tr
    ∧ Lifecycle (.finite 30) .defaults 0 tr s := by
  have hall : ((serverLts (.finite 30) .defaults).exec (.init 0) startThenStop).map
      (fun r => r.2.any Notice.isStopped) = some true := by decide +kernel
  obtain ⟨⟨s, tr⟩, he, hend⟩ := Option.map_eq_some_iff.1 hall
  obtain ⟨n, hn, hstopped⟩ := List.any_eq_true.1 hend
  have hmem : Notice.stopped ∈ tr := by
    cases n <;> first | exact hn | cases hstopped
  have hdefault : ServerConfig.defaults.defaultTtlSeconds < floatLimit := by decide +kernel
  have hfloats : ∀ act ∈ startThenStop, act.floats = true :=
    List.all_eq_true.1 (by decide +kernel)
  exact ⟨tr, s, hmem,
    server_lifecycle hdefault (Lts.run_of_exec (fun act hact _ => hfloats act hact) he)⟩

end BrokerServer

end AgentComm
