import AgentComm.Lib.Dict
import AgentComm.Lib.Lts
import AgentComm.Transport.Brokered
import Mathlib.Logic.Function.Basic

/-!
# Requests in pull mode

Calls of `_send_request_pull`, each in a thread of its own, beside the receive-loop's
`_dispatch_pull`. Taking `_waiters_lock`, appending to a slot, setting an event and waking from
it are steps of their own, and steps of different threads interleave in any order.
-/

namespace AgentComm

open Lib

namespace Pull

/-- A message that the receive-loop dispatches, with its number. -/
structure Delivery where
  number : ℕ
  message : Message

/-- How a call ends: `slot[0]` of an empty slot would raise an `IndexError`. -/
inductive Result
  | returned (d : Delivery)
  | raised (e : Exc)
  | indexError

/-- What a call is made with; `timeout` is `None` for the agent's own. -/
structure Ask where
  request : Message
  timeout : Option PyStr

def Ask.key (ask : Ask) : PyStr := ask.request.messageId

/-- A call of `_send_request_pull`, by what it does next. -/
inductive Call
  | idle
  | register (ask : Ask)
  | send (ask : Ask)
  | wait (ask : Ask)
  /-- the `finally` -/
  | unregister (ask : Ask) (result : Result)
  | done (ask : Ask) (result : Result)

/-- The receive-loop, by what it does next. -/
inductive Loop
  | receive
  | lookup (d : Delivery)
  | append (i : ℕ) (d : Delivery)
  | set (i : ℕ)
  | submit (d : Delivery)

/-- The event and the slot that a call made. -/
structure Waiter where
  event : Bool
  slot : List Delivery

/-- `waiters` leads from a message id to the call whose waiter is registered under it. -/
structure State where
  waiters : Dict PyStr ℕ
  waiter : ℕ → Waiter
  calls : ℕ → Call
  loop : Loop
  dispatched : ℕ

def State.init : State := ⟨Dict.empty, fun _ => ⟨false, []⟩, fun _ => .idle, .receive, 0⟩

inductive Action
  | call (i : ℕ) (ask : Ask)
  /-- a call takes `_waiters_lock` -/
  | run (i : ℕ)
  | sent (i : ℕ) (answer : HttpAnswer)
  | wake (i : ℕ)
  | timeout (i : ℕ)
  | receive (m : Message)
  | dispatch
  /-- the handler pool takes the message, or is gone or shut down -/
  | submit (accepted : Bool)

inductive Event
  | registered (i : ℕ) (key : PyStr)
  | unregistered (key : PyStr)
  | looked (d : Delivery)
  | pooled (d : Delivery)
  | ended (i : ℕ) (result : Result)

variable (P : Python) (timeout : PyStr)

def noReply (ask : Ask) : Exc :=
  ⟨.transportTimeoutError, lit "no reply from " ++ P.repr ask.request.metadata.recipient
    ++ lit " within " ++ ask.timeout.getD timeout ++ lit "s"⟩

namespace State

/-- The state after call `i` gets to `c`. -/
def goes (s : State) (i : ℕ) (c : Call) : State := { s with calls := Function.update s.calls i c }

def slotHead (s : State) (i : ℕ) : Result :=
  match (s.waiter i).slot with
  | d :: _ => .returned d
  | [] => .indexError

def step (s : State) : Action → Option (State × List Event)
  | .call i ask =>
    match s.calls i with
    | .idle => some (s.goes i (.register ask), [])
    | _ => none
  | .run i =>
    match s.calls i with
    | .register ask => some
        ({ s.goes i (.send ask) with
          waiters := s.waiters.set ask.key i
          waiter := Function.update s.waiter i ⟨false, []⟩ }, [.registered i ask.key])
    | .unregister ask result => some
        ({ s.goes i (.done ask result) with waiters := s.waiters.pop ask.key },
          [.unregistered ask.key, .ended i result])
    | _ => none
  | .sent i answer =>
    match s.calls i with
    | .send ask =>
      match NetworkedBrokerTransport.send P ask.request timeout answer with
      | .ok _ => some (s.goes i (.wait ask), [])
      | .error e => some (s.goes i (.unregister ask (.raised e)), [])
    | _ => none
  | .wake i =>
    match s.calls i with
    | .wait ask =>
      if (s.waiter i).event then some (s.goes i (.unregister ask (s.slotHead i)), []) else none
    | _ => none
  | .timeout i =>
    match s.calls i with
    | .wait ask => some (s.goes i (.unregister ask (.raised (noReply P timeout ask))), [])
    | _ => none
  | .receive m =>
    match s.loop with
    | .receive => some
        ({ s with loop := .lookup ⟨s.dispatched, m⟩, dispatched := s.dispatched + 1 }, [])
    | _ => none
  | .dispatch =>
    match s.loop with
    | .lookup d =>
      match d.message.correlationId.bind s.waiters.get? with
      | some i => some ({ s with loop := .append i d }, [.looked d])
      | none => some ({ s with loop := .submit d }, [.looked d])
    | .append i d => some
        ({ s with
          waiter := Function.update s.waiter i
            { s.waiter i with slot := (s.waiter i).slot ++ [d] }
          loop := .set i }, [])
    | .set i => some
        ({ s with
          waiter := Function.update s.waiter i { s.waiter i with event := true }
          loop := .receive }, [])
    | _ => none
  | .submit accepted =>
    match s.loop with
    | .submit d => some ({ s with loop := .receive }, if accepted then [.pooled d] else [])
    | _ => none

end State

/-- The agent's threads as a transition system. -/
def pullLts : Lts State Action Event := ⟨State.step P timeout⟩

end Pull

end AgentComm
