import AgentComm.Sdk.Responder

/-!
# The lifecycle server

A responder for `monitor`, `status` and `lifecycle` requests. With tracing enabled a handler works
inside a trace of the tracing client, any of whose methods may raise.
-/

namespace AgentComm

open Lib

/-- What counts of an `Exception`: what `str` makes of it. -/
abbrev Raised := Except Exc PyStr

/-- A trace as a context manager: entered, it gives the span's `event`; `__exit__` may raise, and
swallows the exception it is given if it returns something true. -/
structure Trace where
  enter : Except Raised (PyStr → Option Fields → Option Raised)
  exit : Option Raised → Except Raised Bool

/-- A tracing client, by its `trace`. -/
abbrev TracingClient := PyStr → Except Raised Trace

/-- A call that is made on a client or on its traces. -/
inductive TraceCall
  | trace (name : PyStr)
  | enter
  | event (name : PyStr) (metadata : Option Fields)
  | exit (e : Option Raised)

structure LifecycleTracing where
  client : Option TracingClient

namespace LifecycleTracing

/-- `LifecycleTracing.__init__`, where `langfuse` makes the client, if it is installed. -/
def new (langfuse : Option (PyStr → PyStr → Option PyStr → Except Exc TracingClient))
    (publicKey secretKey host : Option PyStr) : LifecycleTracing :=
  match langfuse, publicKey, secretKey with
  | some connect, some (c :: publicKey), some (d :: secretKey) =>
    ⟨(connect (c :: publicKey) (d :: secretKey) host).toOption⟩
  | _, _, _ => ⟨none⟩

variable (t : LifecycleTracing)

def enabled : Bool := t.client.isSome

/-- The end of a handler: the event is logged in a trace where tracing is enabled. An exception that
`__exit__` swallows leaves the second `return result`. -/
def returning (name event : PyStr) (metadata : Option Fields) (result : Fields) :
    HandlerEnd PyStr Json Exc × List TraceCall :=
  match t.client with
  | none => (.returned (.object (.ok result)), [])
  | some client =>
    match client name with
    | .error e => (.raised e, [.trace name])
    | .ok trace =>
      match trace.enter with
      | .error e => (.raised e, [.trace name, .enter])
      | .ok log =>
        let raised := log event metadata
        let calls := [.trace name, .enter, .event event metadata, .exit raised]
        match trace.exit raised, raised with
        | .error e, _ => (.raised e, calls)
        | .ok false, some e => (.raised e, calls)
        | .ok _, _ => (.returned (.object (.ok result)), calls)

end LifecycleTracing

structure LifecycleServer where
  agentId : PyStr
  tracing : LifecycleTracing

namespace LifecycleServer

inductive Handler
  | monitor
  | status
  | lifecycle
  /-- a method of the base class, which is not implemented -/
  | base (name : PyStr)

/-- `_BUILTIN_HANDLERS`: those of the base class but for the two of the configuration. -/
def builtinHandlers : Dict PyStr PyStr :=
  Dict.ofList (BrokeredResponder.builtins.entries.filter fun e =>
    !(e.1 = lit "config-get" || e.1 = lit "config-set"))

/-- The attributes that are handlers. -/
def method (name : PyStr) : Option Handler :=
  if name = lit "handle_monitor" then some .monitor
  else if name = lit "handle_status" then some .status
  else if name = lit "handle_lifecycle" then some .lifecycle
  else if name = lit "handle_config_get" ∨ name = lit "handle_config_set" then some (.base name)
  else none

/-- The calls of `register_handler` in `__init__`. -/
def registrations : List (Registering Handler) :=
  [.registerHandler (lit "status") (some .status),
    .registerHandler (lit "lifecycle") (some .lifecycle)]

variable (s : LifecycleServer)

def responder : BrokeredResponder Handler :=
  registrations.foldl BrokeredResponder.registerHandler (.new s.agentId builtinHandlers method)

/-- `_build_status_result` -/
def buildStatusResult (checkName spanName : PyStr) : HandlerEnd PyStr Json Exc × List TraceCall :=
  s.tracing.returning checkName spanName none
    [(lit "status", .str (lit "ok")), (lit "agent_id", .str s.agentId),
      (lit "tracing_enabled", .bool s.tracing.enabled)]

def handleLifecycle (params : Fields) : HandlerEnd PyStr Json Exc × List TraceCall :=
  let command := (Pairs.get? (lit "command") params).getD (.str (lit "unknown"))
  let service := (Pairs.get? (lit "service") params).getD (.str (lit "unknown"))
  s.tracing.returning (lit "lifecycle") (lit "lifecycle-command")
    (some [(lit "command", command), (lit "service", service)])
    [(lit "result", .str (lit "acknowledged")), (lit "command", command),
      (lit "service", service)]

/-- A call of a handler, with the calls it makes on the client. -/
def run : Handler → Inbound → Fields → HandlerEnd PyStr Json Exc × List TraceCall
  | .monitor, _, _ => s.buildStatusResult (lit "monitor") (lit "monitor-check")
  | .status, _, _ => s.buildStatusResult (lit "status") (lit "status-check")
  | .lifecycle, _, params => s.handleLifecycle params
  | .base name, _, _ => (.raised (.ok (name ++ lit " not implemented")), [])

/-- `_dispatch` of the server, with the calls made on the client. -/
def serve (P : Python) (st : Stamp) (request : Inbound) :
    Except Exc (Reply PyStr Json) × List TraceCall :=
  let out := s.responder.dispatch P st (fun h r params => (s.run h r params).1) request
  (out.1, out.2.flatMap fun call => (s.run call.handler call.request call.params).2)

end LifecycleServer

end AgentComm
