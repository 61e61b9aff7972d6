import AgentComm.Broker.Messaging
import AgentComm.Broker.Sweep
import AgentComm.Lib.Lts

/-!
# Concurrent requests and sweeps

Each request, past authentication and the checks of its payload, and each sweep is a thread that
goes through the source's lock-guarded sections one at a time; the threads' steps interleave in
any order. A waiting poll may wake at any time: on a notification, at its deadline, or for no
reason. What it held of the queue before is not looked at again.
-/

namespace AgentComm

open Lib

/-- What a thread has come to at its end. -/
inductive Answer
  | created
  | updated
  | deregistered
  | queued
  | routed (e : Endpoint)
  | unknownRecipient
  | messages (ms : List PyStr)
  | swept

/-- A thread, by the section it enters next. -/
inductive Thread
  | idle
  -- `_handle_register`, from the `is_new` lookup
  | registerLookup (r : Registration)
  | registerEndpoint (r : Registration) (isNew : Bool)
  | registerMailbox (r : Registration) (isNew : Bool)
  | registerCapabilities (r : Registration) (isNew : Bool)
  | registerHeartbeat (r : Registration) (isNew : Bool)
  -- `_handle_deregister`
  | deregisterEndpoint (a : PyStr)
  | deregisterCapabilities (a : PyStr)
  | deregisterHeartbeat (a : PyStr)
  | deregisterMailbox (a : PyStr)
  -- `_handle_send` of a message to `a`
  | sendLookup (a m : PyStr)
  | sendEnqueue (a m : PyStr)
  | sendRoute (a : PyStr)
  -- `_handle_poll`, with `_auto_register_mailbox` inside
  | pollCheck (a : PyStr) (wait : ℚ)
  | autoEndpoint (a : PyStr) (wait : ℚ)
  | autoMailbox (a : PyStr) (wait : ℚ)
  | autoCapabilities (a : PyStr) (wait : ℚ)
  | autoHeartbeat (a : PyStr) (wait : ℚ)
  | pollHeartbeat (a : PyStr) (wait : ℚ)
  | pollEnter (a : PyStr) (wait : ℚ)
  | pollWait (a : PyStr) (mbox : ℕ) (deadline : ℚ)
  -- `_sweep_once`: its clock reading, its snapshot, and its loop
  | sweepStart
  | sweepList (now : ℚ)
  | sweepRead (now : ℚ) (endpoints : List Endpoint)
  | evictEndpoint (now : ℚ) (e : Endpoint) (rest : List Endpoint)
  | evictCapabilities (now : ℚ) (e : Endpoint) (rest : List Endpoint)
  | evictHeartbeat (now : ℚ) (e : Endpoint) (rest : List Endpoint)
  | evictMailbox (now : ℚ) (e : Endpoint) (rest : List Endpoint)
  | done (answer : Answer)

/-- What a request asks for once its payload is accepted. -/
inductive Call
  | register (r : Registration)
  | deregister (a : PyStr)
  | send (a m : PyStr)
  | poll (a : PyStr) (wait : ℚ)
  | sweep

def Call.start : Call → Thread
  | register r => .registerLookup r
  | deregister a => .deregisterEndpoint a
  | send a m => .sendLookup a m
  | poll a wait => .pollCheck a wait
  | sweep => .sweepStart

/-- A lock-guarded section, by what it does to the stores. -/
inductive Section
  | look
  | putEndpoint (e : Endpoint)
  | delEndpoint (a : PyStr)
  | ensureMailbox (a : PyStr)
  | enqueue (a m : PyStr)
  | drain (a : PyStr) (mbox : ℕ)
  | dropMailbox (a : PyStr)
  | putCapabilities (a : PyStr) (caps : Fields)
  | ensureCapabilities (a : PyStr)
  | delCapabilities (a : PyStr)
  | registerHeartbeat (a : PyStr) (now : ℚ) (ttl : Option ℤ)
  | autoHeartbeat (a : PyStr) (now : ℚ) (default : ℤ)
  | pollHeartbeat (a : PyStr) (now : ℚ)
  | delHeartbeat (a : PyStr)

namespace Section

def apply (s : Stores) : Section → Stores
  | look => s
  | putEndpoint e => s.putEndpoint e
  | delEndpoint a => s.delEndpoint a
  | ensureMailbox a => s.ensureMailbox a
  | enqueue a m => s.enqueue a m
  | drain _ mbox => s.drain mbox
  | dropMailbox a => s.dropMailbox a
  | putCapabilities a caps => s.putCapabilities a caps
  | ensureCapabilities a => s.ensureCapabilities a
  | delCapabilities a => s.delCapabilities a
  | registerHeartbeat a now ttl => s.registerHeartbeat a now ttl
  | autoHeartbeat a now default => s.autoHeartbeat a now default
  | pollHeartbeat a now => s.pollHeartbeat a now
  | delHeartbeat a => s.delHeartbeat a

end Section

/-- What a poll does on entering `mbox`'s loop, or on coming round in it: take what is there,
give up at the deadline, or wait. -/
def pollLoop (s : Stores) (now : ℚ) (a : PyStr) (mbox : ℕ) (deadline : ℚ) : Section × Thread :=
  if s.mailboxes.heap mbox ≠ [] then
    (.drain a mbox, .done (.messages (s.mailboxes.heap mbox)))
  else if deadline - now ≤ 0 then (.drain a mbox, .done (.messages []))
  else (.look, .pollWait a mbox deadline)

/-- The section a thread goes through next, and where it stands after it; none for a thread that
has not started or has ended. -/
def Thread.step (cfg : ServerConfig) (now : ℚ) (s : Stores) : Thread → Option (Section × Thread)
  | .idle => none
  | .registerLookup r => some (.look, .registerEndpoint r (s.isNew r.agentId))
  | .registerEndpoint r isNew => some (.putEndpoint r.endpoint,
      if r.endpoint.mailbox then .registerMailbox r isNew else .registerCapabilities r isNew)
  | .registerMailbox r isNew =>
    some (.ensureMailbox r.agentId, .registerCapabilities r isNew)
  | .registerCapabilities r isNew =>
    some (.putCapabilities r.agentId r.caps, .registerHeartbeat r isNew)
  | .registerHeartbeat r isNew => some (.registerHeartbeat r.agentId now (r.ttlToSet cfg isNew),
      .done (if isNew then .created else .updated))
  | .deregisterEndpoint a => some (.delEndpoint a, .deregisterCapabilities a)
  | .deregisterCapabilities a => some (.delCapabilities a, .deregisterHeartbeat a)
  | .deregisterHeartbeat a => some (.delHeartbeat a, .deregisterMailbox a)
  | .deregisterMailbox a => some (.dropMailbox a, .done .deregistered)
  | .sendLookup a m => some (.look,
      match s.registry.get? a with
      | none => .done .unknownRecipient
      | some e => if e.mailbox then .sendEnqueue a m else .sendRoute a)
  | .sendEnqueue a m => some (.enqueue a m, .done .queued)
  | .sendRoute a => some (.look,
      match s.registry.get? a with
      | none => .done .unknownRecipient
      | some e => .done (.routed e))
  | .pollCheck a wait => some (.look,
      if (s.mailboxes.ref? a).isSome then .pollHeartbeat a wait else .autoEndpoint a wait)
  | .autoEndpoint a wait => some
      (.putEndpoint { agentId := a, host := lit "mailbox", port := 0, mailbox := true },
        .autoMailbox a wait)
  | .autoMailbox a wait => some (.ensureMailbox a, .autoCapabilities a wait)
  | .autoCapabilities a wait => some (.ensureCapabilities a, .autoHeartbeat a wait)
  | .autoHeartbeat a wait =>
    some (.autoHeartbeat a now cfg.defaultTtlSeconds, .pollHeartbeat a wait)
  | .pollHeartbeat a wait => some (.pollHeartbeat a now, .pollEnter a wait)
  | .pollEnter a wait => some
      (match s.mailboxes.ref? a with
      | none => (.look, .done (.messages []))
      | some mbox => pollLoop s now a mbox (now + wait))
  | .pollWait a _ deadline => some
      (match s.mailboxes.ref? a with
      | none => (.look, .done (.messages []))
      | some mbox => pollLoop s now a mbox deadline)
  | .sweepStart => some (.look, .sweepList now)
  | .sweepList t => some (.look, .sweepRead t s.registry.listAgents)
  | .sweepRead _ [] => some (.look, .done .swept)
  | .sweepRead t (e :: rest) => some (.look,
      match s.lastHeartbeat.get? e.agentId, s.ttlSeconds.get? e.agentId with
      | some lastHb, some ttl =>
        if expired cfg t lastHb ttl e.mailbox then .evictEndpoint t e rest else .sweepRead t rest
      | _, _ => .sweepRead t rest)
  | .evictEndpoint t e rest => some (.delEndpoint e.agentId, .evictCapabilities t e rest)
  | .evictCapabilities t e rest => some (.delCapabilities e.agentId, .evictHeartbeat t e rest)
  | .evictHeartbeat t e rest => some (.delHeartbeat e.agentId, .evictMailbox t e rest)
  | .evictMailbox t e rest => some (.dropMailbox e.agentId, .sweepRead t rest)
  | .done _ => none

/-- What a section is seen to do to an agent's queue and to its liveness. -/
inductive Event
  | enqueued (a m : PyStr)
  | returned (i : ℕ) (a : PyStr) (ms : List PyStr)
  | dropped (a : PyStr) (ms : List PyStr)
  | beat (a : PyStr) (time : ℚ)
  | ttlSet (a : PyStr) (ttl : ℤ)

/-- The events of a section of thread `i`. -/
def Section.events (i : ℕ) (s : Stores) : Section → List Event
  | enqueue a m => [.enqueued a m]
  | drain a mbox => [.returned i a (s.mailboxes.heap mbox)]
  | dropMailbox a => (s.mailboxes.queue a).elim [] fun q => [.dropped a q]
  | registerHeartbeat a now ttl => .beat a now :: ttl.elim [] fun t => [.ttlSet a t]
  | autoHeartbeat a now default =>
    [.beat a now, .ttlSet a ((s.ttlSeconds.get? a).getD default)]
  | pollHeartbeat a now => if s.ttlSeconds.contains a then [.beat a now] else []
  | _ => []

/-- The running broker: the clock, the stores, and the threads by number. -/
structure World where
  clock : ℚ
  stores : Stores
  threads : ℕ → Thread

/-- A broker process that has just started. -/
def World.boot (clock : ℚ) : World := ⟨clock, Stores.empty, fun _ => .idle⟩

/-- What can happen next: a request or a sweep starts, a thread takes a step, time passes, or the
broker process is restarted. -/
inductive Action
  | spawn (i : ℕ) (call : Call)
  | run (i : ℕ)
  | tick (d : ℚ)
  | restart

namespace World

/-- The world after thread `i` goes through a section. -/
def advance (w : World) (i : ℕ) (sec : Section) (t : Thread) : World :=
  { w with stores := sec.apply w.stores, threads := Function.update w.threads i t }

def isIdle : Thread → Bool
  | .idle => true
  | _ => false

def step (cfg : ServerConfig) (w : World) : Action → Option (World × List Event)
  | .spawn i call =>
    if isIdle (w.threads i) then
      some ({ w with threads := Function.update w.threads i call.start }, [])
    else none
  | .run i =>
    match (w.threads i).step cfg w.clock w.stores with
    | none => none
    | some (sec, t) => some (w.advance i sec t, sec.events i w.stores)
  | .tick d => if 0 ≤ d then some ({ w with clock := w.clock + d }, []) else none
  | .restart => some (World.boot w.clock, [])

end World

/-- The broker as a transition system. -/
def brokerLts (cfg : ServerConfig) : Lts World Action Event := ⟨World.step cfg⟩

end AgentComm
