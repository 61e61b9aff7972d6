import AgentComm.Lib.Lts
import AgentComm.Lifecycle.Supervision

/-!
# Starting and stopping the supervision agent

The main thread, which calls `start` and `stop`, and the poll loops it started take steps in any
order. A poll of a service is here from its begin to its end; what it does in between is
`pollService`.
-/

namespace AgentComm.Supervision

open Lib

namespace Background

/-- The timeout of the `join` of the poll loop in `stop`. -/
def pollJoinTimeout : ℚ := 5

/-- `threading.TIMEOUT_MAX`: a longer wait raises an `OverflowError`. -/
def timeoutMax : ℚ := 9223372036

/-- The main thread, by what it does next. -/
inductive Main
  | outside
  | bind
  | serve
  | clear
  | spawn
  | join (since : ℚ)
  | close
deriving DecidableEq

/-- A poll loop, by what it does next. -/
inductive Loop
  | check
  /-- the head of the `for` loop, with the services that are left -/
  | next (rest : List PyStr) (cycleStart : ℚ)
  | poll (name : PyStr) (rest : List PyStr) (cycleStart : ℚ)
  | polling (name : PyStr) (rest : List PyStr) (cycleStart : ℚ)
  | waiting (deadline : ℚ)
  | ended

structure State where
  main : Main
  thread : Option ℕ
  stopEvent : Bool
  http : Bool
  loops : ℕ → Option Loop
  clock : ℚ

def State.init (clock : ℚ) : State := ⟨.outside, none, false, false, fun _ => none, clock⟩

inductive Action
  | start
  | bound
  | served
  /-- the status server cannot be bound, or a thread not started -/
  | raises
  | clear
  | spawn (k : ℕ)
  | stop
  | joined
  | closed
  /-- poll loop `k` looks at the stop event -/
  | look (k : ℕ)
  | begin (k : ℕ)
  | finish (k : ℕ)
  /-- the wait of poll loop `k` times out -/
  | wake (k : ℕ)
  | tick (d : ℚ)

/-- A poll of a service by a loop. -/
inductive Event
  | begun (k : ℕ) (name : PyStr)
  | finished (k : ℕ) (name : PyStr)

/-- The end of a cycle: the loop waits for what remains of the interval, unless nothing does or
the stop event is set. -/
def afterCycle (interval : PyFloat) (stopEvent : Bool) (cycleStart clock : ℚ) : Loop :=
  match interval.add (-(clock - cycleStart)) with
  | .finite remaining =>
    if remaining ≤ 0 ∨ stopEvent then .check
    else if timeoutMax < remaining then .ended else .waiting (clock + remaining)
  | .inf false => if stopEvent then .check else .ended
  | _ => .check

/-- `set` wakes the loops that wait. -/
def Loop.woken : Loop → Loop
  | waiting _ => check
  | l => l

namespace State

variable (services : List PyStr) (cfg : SupervisionConfig) (s : State)

def setLoop (k : ℕ) (l : Loop) : State :=
  { s with loops := Function.update s.loops k (some l) }

def loopEnded : Bool :=
  match s.thread.bind s.loops with
  | some .ended => true
  | _ => false

def step : Action → Option (State × List Event)
  | .start =>
    match s.main, s.thread with
    | .outside, some _ => some (s, [])
    | .outside, none => some ({ s with main := .bind }, [])
    | _, _ => none
  | .bound =>
    match s.main with
    | .bind => some ({ s with http := true, main := .serve }, [])
    | _ => none
  | .served =>
    match s.main with
    | .serve => some ({ s with main := .clear }, [])
    | _ => none
  | .raises =>
    match s.main with
    | .bind | .serve | .spawn => some ({ s with main := .outside }, [])
    | _ => none
  | .clear =>
    match s.main with
    | .clear => some ({ s with stopEvent := false, main := .spawn }, [])
    | _ => none
  | .spawn k =>
    match s.main, s.loops k with
    | .spawn, none =>
      some ({ s.setLoop k .check with thread := some k, main := .outside }, [])
    | _, _ => none
  | .stop =>
    match s.main with
    | .outside =>
      let s := { s with stopEvent := true, loops := fun k => (s.loops k).map Loop.woken }
      match s.thread with
      | some _ => some ({ s with main := .join s.clock }, [])
      | none => some ({ s with main := .close }, [])
    | _ => none
  | .joined =>
    match s.main with
    | .join since =>
      if s.loopEnded ∨ since + pollJoinTimeout ≤ s.clock then
        some ({ s with thread := none, main := .close }, [])
      else none
    | _ => none
  | .closed =>
    match s.main with
    | .close => some ({ s with http := false, main := .outside }, [])
    | _ => none
  | .look k =>
    match s.loops k with
    | some .check =>
      some (s.setLoop k (if s.stopEvent then .ended else .next services s.clock), [])
    | some (.next [] t) =>
      some (s.setLoop k (afterCycle cfg.pollIntervalSeconds s.stopEvent t s.clock), [])
    | some (.next (name :: rest) t) =>
      some (s.setLoop k (if s.stopEvent then .ended else .poll name rest t), [])
    | _ => none
  | .begin k =>
    match s.loops k with
    | some (.poll name rest t) => some (s.setLoop k (.polling name rest t), [.begun k name])
    | _ => none
  | .finish k =>
    match s.loops k with
    | some (.polling name rest t) => some (s.setLoop k (.next rest t), [.finished k name])
    | _ => none
  | .wake k =>
    match s.loops k with
    | some (.waiting deadline) =>
      if deadline ≤ s.clock then some (s.setLoop k .check, []) else none
    | _ => none
  | .tick d => if 0 ≤ d then some ({ s with clock := s.clock + d }, []) else none

end State

/-- The supervision agent's threads as a transition system. -/
def backgroundLts (services : List PyStr) (cfg : SupervisionConfig) : Lts State Action Event :=
  ⟨State.step services cfg⟩

end Background

end AgentComm.Supervision
