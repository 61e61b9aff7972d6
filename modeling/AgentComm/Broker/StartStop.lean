import AgentComm.Broker.Threads

/-!
# Starting and stopping the broker

`start` and `stop`, called by one thread, with the threads they start: one that takes connections,
each into a handler thread of its own, and one that sweeps. Of a `ThreadingHTTPServer` its
`serve_forever`, `shutdown` and `server_close` are here, with the flags they go by. Handlers and
sweeps are the threads of the broker.
-/

namespace AgentComm

open Lib

/-- A request of a client's. -/
def Call.isRequest : Call → Bool
  | sweep => false
  | _ => true

/-- A thread that has made its call and come to the end of it. -/
def Thread.hasEnded : Thread → Bool
  | idle => false
  | done _ => true
  | _ => false

namespace BrokerServer

/-- `threading.TIMEOUT_MAX`: a longer wait raises an `OverflowError`. -/
def timeoutMax : ℚ := 9223372036

/-- The thread that calls `start` and `stop`, by what it does next. -/
inductive Main
  | outside
  -- `start`
  | serve
  | sweep
  -- `stop`, from `shutdown`
  | shutdown
  | awaitShutdown
  | close
  | joinServe
  | joinSweep
deriving DecidableEq

/-- A thread of `serve_forever`, by what it does next. -/
inductive ServeLoop
  | enter
  | register
  | serving
  | ended
deriving DecidableEq

/-- A thread of `_sweep_loop`, by what it does next. -/
inductive SweepLoop
  /-- its start has raised -/
  | unstarted
  | wait
  | waiting (deadline : ℚ)
  /-- the wait has timed out -/
  | sweep
  /-- in a sweep, which is thread `i` of the broker -/
  | sweeping (i : ℕ)
  | ended

structure State where
  main : Main
  thread : Option ℕ
  sweepThread : Option ℕ
  sweepStopEvent : Bool
  shutdownRequest : Bool
  isShutDown : Bool
  closed : Bool
  serveLoops : ℕ → Option ServeLoop
  sweepLoops : ℕ → Option SweepLoop
  world : World

def State.init (clock : ℚ) : State where
  main := .outside
  thread := none
  sweepThread := none
  sweepStopEvent := false
  shutdownRequest := false
  isShutDown := false
  closed := false
  serveLoops _ := none
  sweepLoops _ := none
  world := .boot clock

inductive Action
  | start
  /-- `start` starts thread `k` to serve -/
  | serves (k : ℕ)
  | sweeps (j : ℕ)
  | unswept
  /-- a thread cannot be started -/
  | unserved
  | unstarted (j : ℕ)
  | stop
  | request
  | shut
  | close
  | joinServe
  | joinSweep
  /-- the threads of `serve_forever` -/
  | enter (k : ℕ)
  | register (k : ℕ)
  | accept (k i : ℕ) (call : Call)
  | exit (k : ℕ)
  /-- the threads of `_sweep_loop` -/
  | wait (j : ℕ)
  | wake (j : ℕ)
  | timeout (j : ℕ)
  | sweep (j i : ℕ)
  | swept (j : ℕ)
  /-- a thread of the broker takes a step -/
  | run (i : ℕ)
  | tick (d : ℚ)

/-- What is seen of the broker and its server. -/
inductive Notice
  | broker (e : Event)
  /-- thread `i` handles a request -/
  | accepted (i : ℕ)
  /-- `stop` returns -/
  | stopped

/-- `Event.wait` of the loop: a flag that is set ends the loop, and a wait too long raises. -/
def waitFor (interval : PyFloat) (stopEvent : Bool) (clock : ℚ) : SweepLoop :=
  if stopEvent then .ended
  else match interval with
    | .finite d => if timeoutMax < d then .ended else .waiting (clock + d)
    | _ => .ended

namespace State

variable (interval : PyFloat) (cfg : ServerConfig) (s : State)

def setServe (k : ℕ) (l : ServeLoop) : State :=
  { s with serveLoops := Function.update s.serveLoops k (some l) }

def setSweep (j : ℕ) (l : SweepLoop) : State :=
  { s with sweepLoops := Function.update s.sweepLoops j (some l) }

/-- The end of `serve_forever`, whether it returns or raises. -/
def leave (k : ℕ) : State :=
  { s.setServe k .ended with shutdownRequest := false, isShutDown := true }

/-- A step of the broker. -/
def broker (act : AgentComm.Action) : Option (State × List Notice) :=
  (s.world.step cfg act).map fun r => ({ s with world := r.1 }, r.2.map .broker)

def step : Action → Option (State × List Notice)
  | .start =>
    match s.main, s.thread with
    | .outside, some _ => some (s, [])
    | .outside, none => some ({ s with main := .serve }, [])
    | _, _ => none
  | .serves k =>
    match s.main, s.serveLoops k with
    | .serve, none => some ({ s.setServe k .enter with thread := some k, main := .sweep }, [])
    | _, _ => none
  | .unserved =>
    match s.main with
    | .serve => some ({ s with main := .outside }, [])
    | _ => none
  | .sweeps j =>
    match s.main, s.sweepLoops j, interval.gt 0 with
    | .sweep, none, true =>
      some ({ s.setSweep j .wait with sweepThread := some j, main := .outside }, [])
    | _, _, _ => none
  | .unstarted j =>
    match s.main, s.sweepLoops j, interval.gt 0 with
    | .sweep, none, true =>
      some ({ s.setSweep j .unstarted with sweepThread := some j, main := .outside }, [])
    | _, _, _ => none
  | .unswept =>
    match s.main, interval.gt 0 with
    | .sweep, false => some ({ s with main := .outside }, [])
    | _, _ => none
  | .stop =>
    match s.main with
    | .outside => some ({ s with sweepStopEvent := true, main := .shutdown }, [])
    | _ => none
  | .request =>
    match s.main with
    | .shutdown => some ({ s with shutdownRequest := true, main := .awaitShutdown }, [])
    | _ => none
  | .shut =>
    match s.main, s.isShutDown with
    | .awaitShutdown, true => some ({ s with main := .close }, [])
    | _, _ => none
  | .close =>
    match s.main with
    | .close => some ({ s with closed := true, main := .joinServe }, [])
    | _ => none
  | .joinServe =>
    match s.main, s.thread.map s.serveLoops with
    | .joinServe, none => some ({ s with main := .joinSweep }, [])
    | .joinServe, some (some .ended) => some ({ s with thread := none, main := .joinSweep }, [])
    | _, _ => none
  | .joinSweep =>
    match s.main, s.sweepThread.map s.sweepLoops with
    | .joinSweep, none => some ({ s with main := .outside }, [.stopped])
    | .joinSweep, some (some .ended) =>
      some ({ s with sweepThread := none, main := .outside }, [.stopped])
    -- the `join` of a thread that was not started raises
    | .joinSweep, some (some .unstarted) => some ({ s with main := .outside }, [])
    | _, _ => none
  | .enter k =>
    match s.serveLoops k with
    | some .enter => some ({ s.setServe k .register with isShutDown := false }, [])
    | _ => none
  | .register k =>
    match s.serveLoops k with
    -- a closed socket has no descriptor to select on
    | some .register => some (if s.closed then s.leave k else s.setServe k .serving, [])
    | _ => none
  | .accept k i call =>
    match s.serveLoops k, call.isRequest with
    | some .serving, true =>
      (s.broker cfg (.spawn i call)).map fun r => (r.1, r.2 ++ [.accepted i])
    | _, _ => none
  | .exit k =>
    match s.serveLoops k, s.shutdownRequest with
    | some .serving, true => some (s.leave k, [])
    | _, _ => none
  | .wait j =>
    match s.sweepLoops j with
    | some .wait =>
      some (s.setSweep j (waitFor interval s.sweepStopEvent s.world.clock), [])
    | _ => none
  | .wake j =>
    match s.sweepLoops j, s.sweepStopEvent with
    | some (.waiting _), true => some (s.setSweep j .ended, [])
    | _, _ => none
  | .timeout j =>
    match s.sweepLoops j, s.sweepStopEvent with
    | some (.waiting deadline), false =>
      if deadline ≤ s.world.clock then some (s.setSweep j .sweep, []) else none
    | _, _ => none
  | .sweep j i =>
    match s.sweepLoops j with
    | some .sweep => (s.setSweep j (.sweeping i)).broker cfg (.spawn i .sweep)
    | _ => none
  | .swept j =>
    match s.sweepLoops j with
    | some (.sweeping i) =>
      if (s.world.threads i).hasEnded then some (s.setSweep j .wait, []) else none
    | _ => none
  | .run i => s.broker cfg (.run i)
  | .tick d => s.broker cfg (.tick d)

end State

/-- The server as a transition system. -/
def serverLts (interval : PyFloat) (cfg : ServerConfig) : Lts State Action Notice :=
  ⟨State.step interval cfg⟩

end BrokerServer

end AgentComm
