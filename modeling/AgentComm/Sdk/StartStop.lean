import AgentComm.Lib.Lts
import AgentComm.Python

/-!
# Starting and stopping an agent

`start` and `stop` in direct and in pull mode, a call at a time, whatever the registry answers. In
direct mode an agent has a listener, in pull mode a receive-loop; either may be left over.
-/

namespace AgentComm

open Lib

namespace StartStop

structure Agent where
  pull : Bool
  maxHandlerWorkers : ℤ

/-- What a call of the registry comes to. The networked registry does not look at the status of
the broker's answer, so it returns too where the broker refuses. -/
inductive RegistryAnswer
  | accepted
  | refused
  | raised (e : Exc)

/-- What a call of `start` meets: binding the listener, the registry, starting a thread. -/
structure Starting where
  bind : Except Exc Unit
  register : RegistryAnswer
  spawn : Except Exc Unit

/-- What a call of `stop` meets. -/
structure Stopping where
  unregister : RegistryAnswer
  /-- the receive-loop ends before the `join` of it times out -/
  joined : Bool

/-- The fields that decide what the calls do, with the listeners that serve and the receive-loops
that have not ended, by number. -/
structure State where
  server : Option ℕ
  recvThread : Option ℕ
  recvStop : Bool
  handlerPool : Bool
  listening : List ℕ
  loops : List ℕ
  fresh : ℕ

def State.init : State := ⟨none, none, false, false, [], [], 0⟩

/-- How a call ends: the state, what it returns or raises, and what `register` came to if it was
called. -/
structure CallEnd where
  state : State
  result : Except Exc Unit
  asked : Option RegistryAnswer

def startPull (agent : Agent) (x : Starting) (s : State) : CallEnd :=
  if s.recvThread.isSome then ⟨s, .ok (), none⟩
  else match x.register with
    | .raised e => ⟨s, .error e, some x.register⟩
    | _ =>
      -- `ThreadPoolExecutor` insists on a worker
      if agent.maxHandlerWorkers ≤ 0 then
        ⟨s, .error ⟨.valueError, lit "max_workers must be greater than 0"⟩, some x.register⟩
      else
        let s := { s with handlerPool := true, recvStop := false }
        match x.spawn with
        | .error e => ⟨s, .error e, some x.register⟩
        | .ok () => ⟨{ s with loops := s.fresh :: s.loops, recvThread := some s.fresh,
                              fresh := s.fresh + 1 }, .ok (), some x.register⟩

def startDirect (x : Starting) (s : State) : CallEnd :=
  if s.server.isSome then ⟨s, .ok (), none⟩
  else match x.bind with
    | .error e => ⟨s, .error e, none⟩
    | .ok () =>
      match x.spawn with
      | .error e => ⟨s, .error e, none⟩
      | .ok () =>
        let s := { s with listening := s.fresh :: s.listening, server := some s.fresh,
                          fresh := s.fresh + 1 }
        match x.register with
        | .raised e => ⟨s, .error e, some x.register⟩
        | _ => ⟨s, .ok (), some x.register⟩

/-- `start` -/
def start (agent : Agent) (x : Starting) (s : State) : CallEnd :=
  if agent.pull then startPull agent x s else startDirect x s

/-- What `unregister` raises past the guard for `AgentNotFoundError`. -/
def RegistryAnswer.escapes : RegistryAnswer → Option Exc
  | raised e => if e.kind = .agentNotFoundError then none else some e
  | _ => none

def stopPull (x : Stopping) (s : State) : CallEnd :=
  match s.recvThread with
  | none => ⟨s, .ok (), none⟩
  | some k =>
    let s := { s with recvStop := true, handlerPool := false }
    match x.unregister.escapes with
    | some e => ⟨s, .error e, none⟩
    | none => ⟨{ s with loops := if x.joined then s.loops.erase k else s.loops,
                        recvThread := none }, .ok (), none⟩

def stopDirect (x : Stopping) (s : State) : CallEnd :=
  match s.server with
  | none => ⟨s, .ok (), none⟩
  | some k =>
    match x.unregister.escapes with
    | some e => ⟨s, .error e, none⟩
    | none => ⟨{ s with listening := s.listening.erase k, server := none }, .ok (), none⟩

/-- `stop` -/
def stop (agent : Agent) (x : Stopping) (s : State) : CallEnd :=
  if agent.pull then stopPull x s else stopDirect x s

inductive Action
  | start (x : Starting)
  | stop (x : Stopping)
  /-- receive-loop `k` has seen the stop flag, or its poll has raised what it does not catch -/
  | ended (k : ℕ)

/-- A call that came to its end. -/
inductive Event
  | started (result : Except Exc Unit) (asked : Option RegistryAnswer)
  | stopped (result : Except Exc Unit)

/-- Calls one after the other, and receive-loops that end in between. -/
def lifecycle (agent : Agent) : Lts State Action Event where
  step s
    | .start x => some ((start agent x s).state,
        [.started (start agent x s).result (start agent x s).asked])
    | .stop x => some ((stop agent x s).state, [.stopped (stop agent x s).result])
    | .ended k => if k ∈ s.loops then some ({ s with loops := s.loops.erase k }, []) else none

end StartStop

end AgentComm
