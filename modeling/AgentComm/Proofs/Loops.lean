import AgentComm.Lib.Crew
import AgentComm.Lifecycle.Background
import AgentComm.Proofs.Departure

/-!
# One loop at a time

A `start` clears the stop flag that it shares with the loops of earlier starts, and the `join` of
`stop` does not wait for a loop to end. A loop that is inside a poll all the while goes on beside
the new one.
-/

namespace AgentComm

open Lib

namespace Shutdown

variable {P : Python} {cfg : ServerConfig} {agent : PullAgent} {s s' : State} {act : Action}
  {es : List Event} {i k : ℕ} {call : Option Call}

/-- The receive-loop has returned, or raised. -/
def Loop.isOver : Loop → Bool
  | ended => true
  | _ => false

/-- What a step does to the receive-loops. -/
inductive LoopStep (s s' : State) (act : Action) : Prop
  | same (h : s'.loops = s.loops)
  | moved (k : ℕ) (l l' : Loop) (hl : s.loops k = some l) (hover : l.isOver = false)
      (h : s'.loops = Function.update s.loops k (some l'))
  | spawned (k : ℕ) (hact : act = .spawn k) (hl : s.loops k = none) (hm : s.main = .spawn)
      (hm' : s'.main = .started) (h : s'.loops = Function.update s.loops k (some .check))

theorem issue_loops (h : s.issue i call = some s') : s'.loops = s.loops ∧ s'.main = s.main := by
  obtain ⟨-, rfl⟩ := State.issue_eq h
  exact ⟨rfl, rfl⟩

/-- What one step does to the loops and to the main thread's way into the spawn. -/
theorem loopStep_of_step (hs : (shutdownLts P cfg agent).step s act = some (s', es)) :
    LoopStep s s' act ∧ (s'.main = .spawn → s.main = .spawn ∨ act = .clear) := by
  cases move_of_step hs with
  | running | refuse | lose | arrive | broker => exact ⟨.same rfl, .inl⟩
  | start hout hr hu => exact ⟨.same (issue_loops hu).1, fun h => by cases h⟩
  | stop | registered | poolless | unregistered | raises | joined =>
    exact ⟨.same rfl, fun h => by cases h⟩
  | unstarted =>
    refine ⟨.same rfl, fun h => ?_⟩
    rcases hm : s.main <;> simp only [hm, Main.unchanged] at h <;> cases h
  | clear => exact ⟨.same rfl, fun _ => .inr rfl⟩
  | spawn hm hk => exact ⟨.spawned _ rfl hk hm rfl rfl, fun h => by cases h⟩
  | unregister hm hu => exact ⟨.same (issue_loops hu).1, fun h => by cases h⟩
  | check hk => exact ⟨.moved _ .check _ hk rfl rfl, .inl⟩
  | poll hk hu =>
    obtain ⟨-, rfl⟩ := State.issue_eq hu
    exact ⟨.moved _ .receive (.polling _) hk rfl rfl, .inl⟩
  | polled hk => exact ⟨.moved _ (.polling _) _ hk rfl rfl, .inl⟩
  | post hu =>
    obtain ⟨hloops, hmain⟩ := issue_loops hu
    exact ⟨.same hloops, fun h => .inl (hmain ▸ h)⟩

def Action.spawns : Action → Option ℕ
  | spawn k => some k
  | _ => none

def Action.clears : Action → Bool
  | clear => true
  | _ => false

/-- The receive-loop that the action is a poll of. -/
def Action.polls : Action → Option ℕ
  | poll k _ => some k
  | _ => none

theorem receive_of_poll (hs : (shutdownLts P cfg agent).step s act = some (s', es))
    (hk : act.polls = some k) : s.loops k = some .receive := by
  cases move_of_step hs with
  | poll h => cases hk; exact h
  | _ => cases hk

/-- The receive-loops of the agent. -/
def receiveLoops (P : Python) (cfg : ServerConfig) (agent : PullAgent) :
    Crew (shutdownLts P cfg agent) ℕ where
  standing s k := .of Loop.isOver (s.loops k)
  isOpen s := s.main = .spawn
  opens := Action.clears
  starts := Action.spawns
  work := Action.polls
  step_cases hs := by
    rcases (loopStep_of_step hs).1 with h | ⟨k, l, l', hl, hover, h⟩ | ⟨k, rfl, hl, hm, hm', h⟩
    · exact .inl fun k => .inl (by rw [h])
    · exact .inl fun k' => by rw [h]; exact Standing.of_update hl hover k'
    · refine .inr ⟨hm, fun h => ?_, k, rfl, by rw [hl]; rfl, fun k' hk' => ?_⟩
      · rw [hm'] at h
        cases h
      · rw [h, Function.update_of_ne hk']
  opens_of_step hs hm := by
    rcases (loopStep_of_step hs).2 hm with hm | rfl
    · exact .inl hm
    · exact .inr rfl
  live_of_work hs hk := by
    rw [receive_of_poll hs hk]
    rfl

/-- `stop` hears that the loop has ended, and another `start` follows. -/
def restarted : List Action :=
  quietStop ++ [.start 3 [], .arrive 3] ++ runs 3 5 ++ [.answered, .clear, .spawn 1]

/-- The poll takes longer than the `join` waits, and another `start` follows. -/
def abandoned : List Action :=
  starting ++ [.poll 0 1, .arrive 1] ++ runs 1 3 ++ [.stop, .unregister 2, .arrive 2] ++ runs 2 4
    ++ [.answered, .broker (.tick 2), .joined, .start 3 [], .arrive 3] ++ runs 3 5
    ++ [.answered, .clear, .spawn 1]

/-- The poll comes to its end, and both loops have looked at the stop flag. -/
def bothAbout : List Action :=
  [.broker (.tick 18), .broker (.run 1), .polled 0 nothingAnswer, .check 0, .check 1]

theorem restarted_run : ∃ tr s, (shutdownLts nothingPython .defaults pullAgent).Run
    (receiveLoops nothingPython .defaults pullAgent).Alone (.init 0) tr s
    ∧ s.recvThread = some 1 := by
  have hall : ((shutdownLts nothingPython .defaults pullAgent).execIf
      ((receiveLoops nothingPython .defaults pullAgent).checked 2) (.init 0) restarted).map
      (fun r => r.1.recvThread) = some (some 1) := by decide +kernel
  obtain ⟨⟨s, tr⟩, he, hend⟩ := Option.map_eq_some_iff.1 hall
  exact ⟨tr, s, Crew.run_of_checked he fun _ _ => rfl, hend⟩

theorem abandoned_run : ∃ tr s,
    (shutdownLts nothingPython .defaults pullAgent).Free (.init 0) tr s ∧ s.main.outside
    ∧ ¬ (receiveLoops nothingPython .defaults pullAgent).OneWorks s := by
  have hboth : (receiveLoops nothingPython .defaults pullAgent).bothWork (fun s => s.main.outside)
      abandoned bothAbout (.poll 0 4) (.poll 1 5) (.init 0) = true := by decide +kernel
  exact Crew.not_oneWorks_of_bothWork hboth

end Shutdown

namespace Supervision.Background

variable {services : List PyStr} {cfg : SupervisionConfig} {s s' : State} {act : Action}
  {es : List Event} {k : ℕ}

/-- The poll loop has returned, or raised. -/
def Loop.isOver : Loop → Bool
  | ended => true
  | _ => false

/-- The service that the loop is in the middle of a poll of. -/
def Loop.polled? : Loop → Option PyStr
  | polling name _ _ => some name
  | _ => none

/-- What a step does to the poll loops, and what it emits. -/
inductive LoopStep (s s' : State) (act : Action) : List Event → Prop
  | same (h : s'.loops = s.loops) : LoopStep s s' act []
  | woken (h : s'.loops = fun k => (s.loops k).map Loop.woken) : LoopStep s s' act []
  | moved (k : ℕ) (l l' : Loop) (hl : s.loops k = some l) (hover : l.isOver = false)
      (hno : l.polled? = none) (hno' : l'.polled? = none)
      (h : s'.loops = Function.update s.loops k (some l')) : LoopStep s s' act []
  | begun (k : ℕ) (name : PyStr) (rest : List PyStr) (t : ℚ)
      (hl : s.loops k = some (.poll name rest t))
      (h : s'.loops = Function.update s.loops k (some (.polling name rest t))) :
      LoopStep s s' act [.begun k name]
  | finished (k : ℕ) (name : PyStr) (rest : List PyStr) (t : ℚ)
      (hl : s.loops k = some (.polling name rest t))
      (h : s'.loops = Function.update s.loops k (some (.next rest t))) :
      LoopStep s s' act [.finished k name]
  | spawned (k : ℕ) (hact : act = .spawn k) (hl : s.loops k = none) (hm : s.main = .spawn)
      (hm' : s'.main = .outside) (h : s'.loops = Function.update s.loops k (some .check)) :
      LoopStep s s' act []

theorem polled?_afterCycle (interval : PyFloat) (stopEvent : Bool) (cycleStart clock : ℚ) :
    (afterCycle interval stopEvent cycleStart clock).polled? = none := by
  unfold afterCycle
  split
  · split_ifs <;> rfl
  · split_ifs <;> rfl
  · rfl

theorem loopStep_of_step (hs : (backgroundLts services cfg).step s act = some (s', es)) :
    LoopStep s s' act es ∧ (s'.main = .spawn → s.main = .spawn ∨ act = .clear) := by
  cases act with
  | start =>
    simp only [backgroundLts, State.step] at hs
    split at hs <;> cases hs
    · exact ⟨.same rfl, .inl⟩
    · exact ⟨.same rfl, fun h => by cases h⟩
  | bound | served | raises | closed =>
    simp only [backgroundLts, State.step] at hs
    split at hs <;> cases hs <;> exact ⟨.same rfl, fun h => by cases h⟩
  | clear =>
    simp only [backgroundLts, State.step] at hs
    split at hs <;> cases hs
    exact ⟨.same rfl, fun _ => .inr rfl⟩
  | spawn k =>
    simp only [backgroundLts, State.step] at hs
    split at hs <;> cases hs
    exact ⟨.spawned k rfl (by assumption) (by assumption) rfl rfl, fun h => by cases h⟩
  | stop =>
    simp only [backgroundLts, State.step] at hs
    split at hs
    · split at hs <;> cases hs <;> exact ⟨.woken rfl, fun h => by cases h⟩
    · cases hs
  | joined =>
    simp only [backgroundLts, State.step] at hs
    split at hs
    · split_ifs at hs
      cases hs
      exact ⟨.same rfl, fun h => by cases h⟩
    · cases hs
  | look k =>
    simp only [backgroundLts, State.step] at hs
    split at hs
    · rename_i hk
      cases hs
      exact ⟨.moved k .check _ hk rfl rfl (by split_ifs <;> rfl) rfl, .inl⟩
    · rename_i t hk
      cases hs
      exact ⟨.moved k (.next [] t) _ hk rfl rfl (polled?_afterCycle _ _ _ _) rfl, .inl⟩
    · rename_i name rest t hk
      cases hs
      exact ⟨.moved k (.next (name :: rest) t) _ hk rfl rfl (by split_ifs <;> rfl) rfl, .inl⟩
    · cases hs
  | begin k =>
    simp only [backgroundLts, State.step] at hs
    split at hs <;> cases hs
    exact ⟨.begun k _ _ _ (by assumption) rfl, .inl⟩
  | finish k =>
    simp only [backgroundLts, State.step] at hs
    split at hs <;> cases hs
    exact ⟨.finished k _ _ _ (by assumption) rfl, .inl⟩
  | wake k =>
    simp only [backgroundLts, State.step] at hs
    split at hs
    · rename_i hk
      split_ifs at hs
      cases hs
      exact ⟨.moved k _ _ hk rfl rfl rfl rfl, .inl⟩
    · cases hs
  | tick d =>
    simp only [backgroundLts, State.step] at hs
    split_ifs at hs
    cases hs
    exact ⟨.same rfl, .inl⟩

def Action.spawns : Action → Option ℕ
  | spawn k => some k
  | _ => none

def Action.clears : Action → Bool
  | clear => true
  | _ => false

/-- The poll loop that begins a poll. -/
def Action.polls : Action → Option ℕ
  | begin k => some k
  | _ => none

theorem poll_of_begin (hs : (backgroundLts services cfg).step s act = some (s', es))
    (hk : act.polls = some k) : ∃ name rest t, s.loops k = some (.poll name rest t) := by
  cases act with
  | begin k' =>
    cases hk
    simp only [backgroundLts, State.step] at hs
    split at hs
    · exact ⟨_, _, _, by assumption⟩
    · cases hs
  | _ => cases hk

theorem of_woken (l : Option Loop) :
    Standing.of Loop.isOver (l.map Loop.woken) = .of Loop.isOver l := by
  rcases l with _ | l
  · rfl
  · cases l <;> rfl

theorem polled?_woken (l : Option Loop) :
    (l.map Loop.woken).bind Loop.polled? = l.bind Loop.polled? := by
  rcases l with _ | l
  · rfl
  · cases l <;> rfl

/-- The poll loops of the supervision agent. -/
def pollLoops (services : List PyStr) (cfg : SupervisionConfig) :
    Crew (backgroundLts services cfg) ℕ where
  standing s k := .of Loop.isOver (s.loops k)
  isOpen s := s.main = .spawn
  opens := Action.clears
  starts := Action.spawns
  work := Action.polls
  step_cases hs := by
    rcases (loopStep_of_step hs).1 with h | h | ⟨k, l, l', hl, hover, -, -, h⟩
      | ⟨k, name, rest, t, hl, h⟩ | ⟨k, name, rest, t, hl, h⟩ | ⟨k, rfl, hl, hm, hm', h⟩
    · exact .inl fun k => .inl (by rw [h])
    · exact .inl fun k => .inl (by rw [h]; exact of_woken _)
    · exact .inl fun k' => by rw [h]; exact Standing.of_update hl hover k'
    · exact .inl fun k' => by rw [h]; exact Standing.of_update hl rfl k'
    · exact .inl fun k' => by rw [h]; exact Standing.of_update hl rfl k'
    · refine .inr ⟨hm, fun h => ?_, k, rfl, by rw [hl]; rfl, fun k' hk' => ?_⟩
      · rw [hm'] at h
        cases h
      · rw [h, Function.update_of_ne hk']
  opens_of_step hs hm := by
    rcases (loopStep_of_step hs).2 hm with hm | rfl
    · exact .inl hm
    · exact .inr rfl
  live_of_work hs hk := by
    obtain ⟨name, rest, t, hpoll⟩ := poll_of_begin hs hk
    rw [hpoll]
    rfl

/-! ### The polls -/

/-- Polls one after the other, the last of which may not have finished. -/
inductive InTurn : List Event → Option (ℕ × PyStr) → Prop
  | nil : InTurn [] none
  | begun {tr k name} (h : InTurn tr none) : InTurn (tr ++ [.begun k name]) (some (k, name))
  | finished {tr k name} (h : InTurn tr (some (k, name))) :
      InTurn (tr ++ [.finished k name]) none

/-- `p` is the poll that is under way. -/
def UnderWay (s : State) (p : Option (ℕ × PyStr)) : Prop :=
  ∀ k name, p = some (k, name) ↔ (s.loops k).bind Loop.polled? = some name

variable {tr : List Event} {p : Option (ℕ × PyStr)}

theorem UnderWay.congr (h : UnderWay s p)
    (hs : ∀ k, (s'.loops k).bind Loop.polled? = (s.loops k).bind Loop.polled?) : UnderWay s' p :=
  fun k name => by rw [hs k, h k name]

theorem UnderWay.update (h : UnderWay s p) {l : Loop} (hk : (s.loops k).bind Loop.polled? = none)
    (hl : l.polled? = none) (hs : s'.loops = Function.update s.loops k (some l)) :
    UnderWay s' p := by
  refine h.congr fun k' => ?_
  rw [hs, Function.update_apply]
  split_ifs with heq
  · rw [heq, hk, Option.bind_some, hl]
  · rfl

theorem live_of_polled {name : PyStr} (h : (s.loops k).bind Loop.polled? = some name) :
    (pollLoops services cfg).standing s k = .live := by
  obtain ⟨l, hl, hname⟩ := Option.bind_eq_some_iff.1 h
  change Standing.of Loop.isOver (s.loops k) = .live
  rw [hl]
  cases l <;> first | rfl | cases hname

/-- A loop that begins a poll finds none under way. -/
theorem UnderWay.none_of_poll (h : UnderWay s p) (hsolo : (pollLoops services cfg).Solo s)
    {name : PyStr} {rest : List PyStr} {t : ℚ} (hl : s.loops k = some (.poll name rest t)) :
    p = none := by
  refine Option.eq_none_iff_forall_ne_some.2 fun ⟨k', name'⟩ hp => ?_
  have hpolled := (h k' name').1 hp
  have hlive : (pollLoops services cfg).standing s k = .live := by
    change Standing.of Loop.isOver (s.loops k) = .live
    rw [hl]
    rfl
  obtain rfl := hsolo.alone k' k (live_of_polled hpolled) hlive
  rw [hl] at hpolled
  cases hpolled

theorem InTurn.step (h : InTurn tr p) (hp : UnderWay s p)
    (hsolo : (pollLoops services cfg).Solo s)
    (hs : (backgroundLts services cfg).step s act = some (s', es)) :
    ∃ p', InTurn (tr ++ es) p' ∧ UnderWay s' p' := by
  rcases (loopStep_of_step hs).1 with hsame | hwoken | ⟨k, l, l', hl, -, hno, hno', hmoved⟩
    | ⟨k, name, rest, t, hl, hmoved⟩ | ⟨k, name, rest, t, hl, hmoved⟩
    | ⟨k, -, hl, -, -, hmoved⟩
  · exact ⟨p, by rwa [List.append_nil], hp.congr fun k => by rw [hsame]⟩
  · exact ⟨p, by rwa [List.append_nil], hp.congr fun k => by rw [hwoken, polled?_woken]⟩
  · exact ⟨p, by rwa [List.append_nil], hp.update (by rw [hl]; exact hno) hno' hmoved⟩
  · obtain rfl := hp.none_of_poll hsolo hl
    refine ⟨some (k, name), h.begun, fun k' name' => ?_⟩
    rw [hmoved, Function.update_apply]
    split_ifs with heq
    · simp [heq, Loop.polled?]
    · rw [← hp k' name']
      simp [Ne.symm heq]
  · obtain rfl := (hp k name).2 (by rw [hl]; rfl)
    refine ⟨none, h.finished, fun k' name' => ?_⟩
    rw [hmoved, Function.update_apply]
    split_ifs with heq
    · simp [Loop.polled?]
    · rw [← hp k' name']
      simp [Ne.symm heq]
  · exact ⟨p, by rwa [List.append_nil], hp.update (by rw [hl]; rfl) rfl hmoved⟩

/-- The services are polled one after the other, as `supervision` takes polls, while no `start`
clears the stop event beside a loop that is alive. -/
theorem polls_in_turn {clock : ℚ} (h : (backgroundLts services cfg).Run
    (pollLoops services cfg).Alone (.init clock) tr s) : ∃ p, InTurn tr p ∧ UnderWay s p := by
  have hinit : UnderWay (.init clock) none := fun k name => by simp [State.init]
  exact (h.invariant (I := fun tr s => (pollLoops services cfg).Solo s
    ∧ ∃ p, InTurn tr p ∧ UnderWay s p) ⟨.of_unborn fun _ => rfl, none, .nil, hinit⟩
    fun ⟨hsolo, p, hturn, hp⟩ hok hs => ⟨hsolo.step hok hs, hturn.step hp hsolo hs⟩).2

/-! ### A restart, and one too early -/

/-- The defaults of `SupervisionConfig`. -/
def thirtySeconds : SupervisionConfig :=
  ⟨.finite 30, .finite 10, 3, .finite 5, .finite 300, .finite 600⟩

/-- A `start`, with poll loop `k`. -/
def startWith (k : ℕ) : List Action := [.start, .bound, .served, .clear, .spawn k]

/-- Poll loop 0 is in the middle of a poll. -/
def pollBegun : List Action := startWith 0 ++ [.look 0, .look 0, .begin 0]

/-- `stop` waits for the loop to end, and another `start` follows. -/
def restarted : List Action :=
  pollBegun ++ [.stop, .finish 0, .look 0, .joined, .closed] ++ startWith 1

/-- The poll takes longer than the `join` waits, and another `start` follows. -/
def abandoned : List Action :=
  pollBegun ++ [.stop, .tick pollJoinTimeout, .joined, .closed] ++ startWith 1

/-- Loop 0 comes to its next service as loop 1 comes to its first. -/
def bothAbout : List Action := [.finish 0, .look 0, .look 1, .look 1]

def services₂ : List PyStr := [lit "a", lit "b"]

theorem restarted_run : ∃ tr s, (backgroundLts services₂ thirtySeconds).Run
    (pollLoops services₂ thirtySeconds).Alone (.init 0) tr s ∧ s.thread = some 1 := by
  have hall : ((backgroundLts services₂ thirtySeconds).execIf
      ((pollLoops services₂ thirtySeconds).checked 2) (.init 0) restarted).map
      (fun r => r.1.thread) = some (some 1) := by decide +kernel
  obtain ⟨⟨s, tr⟩, he, hend⟩ := Option.map_eq_some_iff.1 hall
  exact ⟨tr, s, Crew.run_of_checked he fun _ _ => rfl, hend⟩

theorem abandoned_run : ∃ tr s, (backgroundLts services₂ thirtySeconds).Free (.init 0) tr s
    ∧ s.main = .outside ∧ ¬ (pollLoops services₂ thirtySeconds).OneWorks s := by
  have hboth : (pollLoops services₂ thirtySeconds).bothWork (fun s => decide (s.main = .outside))
      abandoned bothAbout (.begin 0) (.begin 1) (.init 0) = true := by decide +kernel
  obtain ⟨tr, s, hfree, hmain, hnot⟩ := Crew.not_oneWorks_of_bothWork hboth
  exact ⟨tr, s, hfree, of_decide_eq_true hmain, hnot⟩

end Supervision.Background

open Shutdown (nothingPython pullAgent)
open Supervision (SupervisionConfig)
open Supervision.Background (backgroundLts pollLoops services₂ thirtySeconds)

/-- When each `start` that clears the stop flag finds every earlier loop ended, at any time only
one of the receive-loops started so far polls any more, and only one of the poll loops. -/
theorem one_loop_polls (P : Python) (cfg : ServerConfig) (agent : Shutdown.PullAgent)
    (services : List PyStr) (supervised : SupervisionConfig) (clock : ℚ) :
    (∀ tr s, (Shutdown.shutdownLts P cfg agent).Run (Shutdown.receiveLoops P cfg agent).Alone
        (.init clock) tr s → (Shutdown.receiveLoops P cfg agent).OneWorks s)
      ∧ ∀ tr s, (backgroundLts services supervised).Run (pollLoops services supervised).Alone
        (.init clock) tr s → (pollLoops services supervised).OneWorks s := by
  constructor
  · intro tr s h
    exact (Crew.solo_of_run h (.of_unborn fun _ => rfl)).oneWorks
  · intro tr s h
    exact (Crew.solo_of_run h (.of_unborn fun _ => rfl)).oneWorks

theorem one_loop_polls_restarted :
    (∃ tr s, (Shutdown.shutdownLts nothingPython .defaults pullAgent).Run
        (Shutdown.receiveLoops nothingPython .defaults pullAgent).Alone (.init 0) tr s
      ∧ s.recvThread = some 1
      ∧ (Shutdown.receiveLoops nothingPython .defaults pullAgent).OneWorks s)
    ∧ ∃ tr s, (backgroundLts services₂ thirtySeconds).Run
        (pollLoops services₂ thirtySeconds).Alone (.init 0) tr s
      ∧ s.thread = some 1 ∧ (pollLoops services₂ thirtySeconds).OneWorks s := by
  obtain ⟨tr, s, h, hthread⟩ := Shutdown.restarted_run
  obtain ⟨tr', s', h', hthread'⟩ := Supervision.Background.restarted_run
  have hone := one_loop_polls nothingPython .defaults pullAgent services₂ thirtySeconds 0
  exact ⟨⟨tr, s, h, hthread, hone.1 tr s h⟩, ⟨tr', s', h', hthread', hone.2 tr' s' h'⟩⟩

/-- A loop that was inside a poll all through a `stop` and the next `start` goes on beside the
new one. -/
theorem two_loops_poll :
    (∃ tr s, (Shutdown.shutdownLts nothingPython .defaults pullAgent).Free (.init 0) tr s
      ∧ s.main.outside
      ∧ ¬ (Shutdown.receiveLoops nothingPython .defaults pullAgent).OneWorks s)
    ∧ ∃ tr s, (backgroundLts services₂ thirtySeconds).Free (.init 0) tr s ∧ s.main = .outside
      ∧ ¬ (pollLoops services₂ thirtySeconds).OneWorks s :=
  ⟨Shutdown.abandoned_run, Supervision.Background.abandoned_run⟩

end AgentComm
