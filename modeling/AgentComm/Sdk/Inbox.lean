import AgentComm.Lib.Lts
import AgentComm.Sdk.Exchange

/-!
# From the mailbox to the application

The messages queued for a pull agent at the broker, its receive-loop, the workers of its handler
pool and its inbox. A worker takes a task and puts its message into the inbox in two steps, and
the steps of the threads interleave in any order.
-/

namespace AgentComm

open Lib

namespace Inbox

open Pull (Delivery)

/-- A worker of the pool: before the `_inbox.put` of `_handle`, after it, or without a task. -/
inductive Worker
  | idle
  | putting (d : Delivery)
  | handling

/-- A message has the number under which the broker queued it. -/
structure State where
  queued : ℕ
  mailbox : List Delivery
  batch : List Delivery
  tasks : List Delivery
  workers : ℕ → Worker
  inbox : List Delivery

def State.init : State := ⟨0, [], [], [], fun _ => .idle, []⟩

inductive Action
  /-- the broker queues a message -/
  | queue (m : Message)
  | poll
  /-- `_dispatch_pull`, while replies to these requests are waited for -/
  | dispatch (waiting : List PyStr)
  /-- worker `k` takes a task -/
  | take (k : ℕ)
  | put (k : ℕ)
  | finish (k : ℕ)
  /-- the application calls `receive_message` -/
  | receive

inductive Event
  | queued (d : Delivery)
  | replied (d : Delivery)
  | received (d : Delivery)

namespace State

variable (maxHandlerWorkers : ℤ) (s : State)

def setWorker (k : ℕ) (w : Worker) : State :=
  { s with workers := Function.update s.workers k w }

def step : Action → Option (State × List Event)
  | .queue m =>
    let d : Delivery := ⟨s.queued, m⟩
    some ({ s with queued := s.queued + 1, mailbox := s.mailbox ++ [d] }, [.queued d])
  | .poll =>
    match s.batch with
    | [] => some ({ s with batch := s.mailbox, mailbox := [] }, [])
    | _ => none
  | .dispatch waiting =>
    match s.batch with
    | d :: batch =>
      if Agent.toPool waiting d.message then
        some ({ s with batch := batch, tasks := s.tasks ++ [d] }, [])
      else some ({ s with batch := batch }, [.replied d])
    | [] => none
  | .take k =>
    match s.workers k, s.tasks with
    | .idle, d :: tasks =>
      if (k : ℤ) < maxHandlerWorkers then
        some ({ s.setWorker k (.putting d) with tasks := tasks }, [])
      else none
    | _, _ => none
  | .put k =>
    match s.workers k with
    | .putting d => some ({ s.setWorker k .handling with inbox := s.inbox ++ [d] }, [])
    | _ => none
  | .finish k =>
    match s.workers k with
    | .handling => some (s.setWorker k .idle, [])
    | _ => none
  | .receive =>
    match s.inbox with
    | d :: inbox => some ({ s with inbox := inbox }, [.received d])
    | [] => none

end State

/-- The agent's threads and its mailbox as a transition system. -/
def inboxLts (maxHandlerWorkers : ℤ) : Lts State Action Event := ⟨State.step maxHandlerWorkers⟩

end Inbox

end AgentComm
