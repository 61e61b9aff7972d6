import AgentComm.Broker.Threads
import AgentComm.Sdk.Exchange

/-!
# Starting and stopping a pull agent

The main thread, which calls `start` and `stop`, the receive-loops it started, the requests that
the agent has on their way, and the broker they come to. All of them take steps in any order. The
answer to a request may be lost, and a client may give up waiting for it; the request may come to
the broker all the same, and later. The broker also serves other clients, under ids of their own.
-/

namespace AgentComm

open Lib

/-- `_PULL_POLL_WAIT` -/
def pullPollWait : ℚ := 20

/-- The timeout of the `join` in `stop`. -/
def joinTimeout : ℚ := 2

/-- The id under which the broker deals with an agent's requests. -/
def principal (cfg : ServerConfig) (a : PyStr) : PyStr := if cfg.agentTokens.isSome then a else []

/-- The request registers the id, or may. -/
def Call.actsFor (a : PyStr) : Call → Bool
  | register r => r.agentId = a
  | poll b _ => b = a
  | _ => false

namespace Shutdown

structure PullAgent where
  agentId : PyStr
  maxHandlerWorkers : ℤ

/-- A request of the agent. One with no call is a request that the broker can only turn away. -/
inductive Wire
  | unused
  | sent (call : Option Call)
  | arrived
  | refused
  | lost

/-- The main thread, by what it does next. It is `stopped` before its first `start` and after a
`stop` that returned, with the number of its DELETE. -/
inductive Main
  | stopped (delete : Option ℕ)
  | registering (i : ℕ)
  | clear
  | spawn
  | started
  | unregister
  | unregistering (i : ℕ)
  | join (i : ℕ) (since : ℚ)
  | failed

/-- A receive-loop, by what it does next. -/
inductive Loop
  | check
  | receive
  | polling (i : ℕ)
  | ended

/-- The agent and its broker; request number `i` of the agent becomes thread number `i` of the
broker. -/
structure State where
  main : Main
  recvThread : Option ℕ
  recvStop : Bool
  loops : ℕ → Option Loop
  wire : ℕ → Wire
  world : World

def State.init (clock : ℚ) : State :=
  ⟨.stopped none, none, false, fun _ => none, fun _ => .unused, World.boot clock⟩

inductive Action
  | start (i : ℕ) (caps : Fields)
  | stop
  /-- the main thread gets the answer it waits for -/
  | answered
  /-- the HTTP client raises, or `thread.start()` does -/
  | raises
  | clear
  | spawn (k : ℕ)
  | unregister (i : ℕ)
  | joined
  /-- receive-loop `k` looks at the stop flag -/
  | check (k : ℕ)
  | poll (k i : ℕ)
  | polled (k : ℕ) (answer : HttpAnswer)
  /-- a handler, or a caller of the agent, posts a message -/
  | post (i : ℕ) (recipient m : PyStr)
  | arrive (i : ℕ)
  | refuse (i : ℕ)
  | lose (i : ℕ)
  | broker (act : AgentComm.Action)

variable (P : Python) (cfg : ServerConfig) (agent : PullAgent)

/-! ### The requests -/

/-- The body of the POST /agents of `start`. -/
def registerPayload (a : PyStr) (caps : Fields) : Fields :=
  [(lit "agent_id", .str a), (lit "host", .str (lit "mailbox")), (lit "port", .int 0),
    (lit "scheme", .str (lit "http")), (lit "path", .str defaultMessagePath),
    (lit "capabilities", .obj caps), (lit "mailbox", .bool true)]

def registerCall (caps : Fields) : Option Call :=
  match validateRegisterPayload (registerPayload agent.agentId caps)
    (principal cfg agent.agentId) with
  | .ok r => some (.register r)
  | .error _ => none

/-- The DELETE of `stop` has the id in its path as it is, and the broker reads it back. -/
def unregisterCall : Option Call :=
  match parseAgentIdFromPath P (agentsPrefix ++ agent.agentId) with
  | .ok b =>
    if b = [] ∨ (principal cfg agent.agentId ≠ [] ∧ b ≠ principal cfg agent.agentId) then none
    else some (.deregister b)
  | .error _ => none

def pollCall : Option Call :=
  if agent.agentId = [] then none else some (.poll agent.agentId pullPollWait)

/-! ### Steps -/

/-- The main thread is neither in `start` nor in `stop`. -/
def Main.outside : Main → Bool
  | stopped _ | started | failed => true
  | _ => false

/-- After a `stop` that found no receive-loop. -/
def Main.unchanged : Main → Main
  | stopped d => stopped d
  | _ => stopped none

/-- The receive-loop after the poll it waited for. -/
def Loop.after (answer : HttpAnswer) : Loop :=
  match ((Agent.recvLoop P).step .polling ⟨false, answer, fun _ => none⟩).1 with
  | .polling => check
  | _ => ended

def raised : HttpAnswer → Bool
  | .raises _ => true
  | _ => false

namespace State

variable (s : State)

def issue (i : ℕ) (call : Option Call) : Option State :=
  match s.wire i, s.world.threads i with
  | .unused, .idle => some { s with wire := Function.update s.wire i (.sent call) }
  | _, _ => none

def setLoop (k : ℕ) (l : Loop) : State :=
  { s with loops := Function.update s.loops k (some l) }

/-- The broker has answered the request. -/
def answered (i : ℕ) : Bool :=
  match s.wire i, s.world.threads i with
  | .refused, _ => true
  | .arrived, .done _ => true
  | _, _ => false

/-- The request came to its end at the broker, or never comes to it. -/
def processed (i : ℕ) : Bool :=
  match s.wire i, s.world.threads i with
  | .sent _, _ => false
  | .arrived, .done _ | .arrived, .idle => true
  | .arrived, _ => false
  | _, _ => true

def recvEnded : Bool :=
  match s.recvThread.bind s.loops with
  | some .ended => true
  | _ => false

/-- The broker goes on, apart from the agent's requests that are still to come. -/
def admits (a : PyStr) : AgentComm.Action → Bool
  | .spawn i call =>
    match s.wire i with
    | .unused => !call.actsFor a
    | _ => false
  | _ => true

def onWorld (act : AgentComm.Action) : Option (State × List Event) :=
  (World.step cfg s.world act).map fun r => ({ s with world := r.1 }, r.2)

def step : Action → Option (State × List Event)
  | .start i caps =>
    if s.main.outside then
      match s.recvThread with
      | some _ => some (s, [])
      | none => (s.issue i (registerCall cfg agent caps)).map fun s =>
          ({ s with main := .registering i }, [])
    else none
  | .stop =>
    if s.main.outside then
      match s.recvThread with
      | some _ => some ({ s with recvStop := true, main := .unregister }, [])
      | none => some ({ s with main := s.main.unchanged }, [])
    else none
  | .answered =>
    match s.main with
    | .registering i =>
      -- `ThreadPoolExecutor` raises a `ValueError` on no workers
      if s.answered i then
        some ({ s with main := if agent.maxHandlerWorkers ≤ 0 then .failed else .clear }, [])
      else none
    | .unregistering i =>
      if s.answered i then some ({ s with main := .join i s.world.clock }, []) else none
    | _ => none
  | .raises =>
    match s.main with
    | .registering _ | .spawn | .unregistering _ => some ({ s with main := .failed }, [])
    | _ => none
  | .clear =>
    match s.main with
    | .clear => some ({ s with recvStop := false, main := .spawn }, [])
    | _ => none
  | .spawn k =>
    match s.main, s.loops k with
    | .spawn, none =>
      some ({ s.setLoop k .check with recvThread := some k, main := .started }, [])
    | _, _ => none
  | .unregister i =>
    match s.main with
    | .unregister => (s.issue i (unregisterCall P cfg agent)).map fun s =>
        ({ s with main := .unregistering i }, [])
    | _ => none
  | .joined =>
    match s.main with
    | .join i since =>
      if s.recvEnded ∨ since + joinTimeout ≤ s.world.clock then
        some ({ s with main := .stopped (some i), recvThread := none }, [])
      else none
    | _ => none
  | .check k =>
    match s.loops k with
    | some .check => some (s.setLoop k (if s.recvStop then .ended else .receive), [])
    | _ => none
  | .poll k i =>
    match s.loops k with
    | some .receive => (s.issue i (pollCall agent)).map fun s => (s.setLoop k (.polling i), [])
    | _ => none
  | .polled k answer =>
    match s.loops k with
    | some (.polling i) =>
      if raised answer ∨ s.answered i then some (s.setLoop k (.after P answer), []) else none
    | _ => none
  | .post i recipient m => (s.issue i (some (.send recipient m))).map fun s => (s, [])
  | .arrive i =>
    match s.wire i with
    | .sent (some call) =>
      { s with wire := Function.update s.wire i .arrived }.onWorld cfg (.spawn i call)
    | _ => none
  | .refuse i =>
    match s.wire i with
    | .sent _ => some ({ s with wire := Function.update s.wire i .refused }, [])
    | _ => none
  | .lose i =>
    match s.wire i with
    | .sent _ => some ({ s with wire := Function.update s.wire i .lost }, [])
    | _ => none
  | .broker act => if s.admits agent.agentId act then s.onWorld cfg act else none

end State

/-- The agent and its broker as a transition system. -/
def shutdownLts : Lts State Action Event := ⟨State.step P cfg agent⟩

end Shutdown

end AgentComm
