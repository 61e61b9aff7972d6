import AgentComm.Lib.Mealy
import AgentComm.Transport.Brokered

/-!
# The agent's receive-loop
-/

namespace AgentComm

open Lib

variable (P : Python)

namespace Agent

/-- `_PULL_POLL_WAIT`, as it stands in a query. -/
def pollWait : PyStr := lit "20.0"

/-- `_PULL_POLL_WAIT + 10.0`, as texts show it. -/
def pollTimeout : PyStr := lit "30.0"

inductive LoopState
  | polling
  | returned
  | raised (e : Exc)

/-- What one turn of the loop meets: the stop flag at its head, what the poll comes to, and what
`_dispatch_pull` raises on a message, if it does. -/
structure Turn where
  stopSet : Bool
  answer : HttpAnswer
  dispatch : Message → Option Exc

/-- A call of `_dispatch_pull`, and the exception the loop's guard logged. -/
structure Dispatch where
  message : Message
  logged : Option Exc

/-- `_recv_loop`, a turn at a time. -/
def recvLoop : Mealy LoopState Turn Dispatch where
  step
    | .polling, turn =>
      if turn.stopSet then (.returned, [])
      else match NetworkedBrokerTransport.receive P pollTimeout turn.answer with
        | .ok messages => (.polling, messages.map fun m => ⟨m, turn.dispatch m⟩)
        | .error e =>
          if e.kind = .transportTimeoutError then (.polling, [])
          else if e.isTransportError ∨ e.isOSError then (.polling, [])
          else (.raised e, [])
    | s, _ => (s, [])

end Agent

end AgentComm
