import Mathlib.Data.List.Lex
import AgentComm.Sdk.Exchange

/-!
# The responder

A responder answers a request by its kind: with the handler registered for the kind, or else with a
method of its own.
-/

namespace AgentComm

open Lib

variable {η κ υ ε : Type}

/-- What a handler returns: `None`, or an object of which `dict` makes a `dict` or raises. -/
inductive Returned (κ υ ε : Type)
  | none
  | object (asDict : Except ε (List (κ × υ)))

/-- How a call of a handler ends. What counts of an `Exception` is what `str` makes of it. -/
inductive HandlerEnd (κ υ ε : Type)
  | returned (v : Returned κ υ ε)
  | raised (text : Except ε PyStr)

/-- A request as `_dispatch` takes it. Its body is `body`, whatever `message` has: it need not be
an object. -/
structure Inbound where
  message : Message
  body : Json

/-- A call of a handler. -/
structure HandlerCall (η : Type) where
  handler : η
  request : Inbound
  params : Fields

/-- What `_dispatch` returns. -/
inductive Reply (κ υ : Type)
  | error (m : Message)
  | response (r : ResponseMessage κ υ)

/-- A call of `register_handler`, or of the decorator it returns when it is given no handler. -/
inductive Registering (η : Type)
  | registerHandler (kind : PyStr) (handler : Option η)
  | decorator (kind : PyStr) (fn : η)

structure BrokeredResponder (η : Type) where
  agentId : PyStr
  builtinHandlers : Dict PyStr PyStr
  /-- `getattr(self, name, None)` -/
  method : PyStr → Option η
  extraHandlers : Dict PyStr η

namespace BrokeredResponder

/-- `_BUILTIN_HANDLERS` of the base class; a subclass may have its own. -/
def builtins : Dict PyStr PyStr :=
  Dict.ofList [(lit "monitor", lit "handle_monitor"),
    (lit "config-get", lit "handle_config_get"), (lit "config-set", lit "handle_config_set")]

def new (agentId : PyStr) (builtinHandlers : Dict PyStr PyStr) (method : PyStr → Option η) :
    BrokeredResponder η :=
  { agentId, builtinHandlers, method, extraHandlers := Dict.empty }

variable (R : BrokeredResponder η)

def registerHandler : Registering η → BrokeredResponder η
  | .registerHandler _ none => R
  | .registerHandler kind (some handler) =>
    { R with extraHandlers := R.extraHandlers.set kind handler }
  | .decorator kind fn => { R with extraHandlers := R.extraHandlers.set kind fn }

/-- `sorted(set(self._BUILTIN_HANDLERS) | set(self._extra_handlers))` -/
def supportedKinds : List PyStr :=
  ((R.builtinHandlers.entries.map Prod.fst ++ R.extraHandlers.entries.map Prod.fst).dedup).mergeSort
    fun s t => decide (s ≤ t)

/-- `_registration_capabilities` -/
def registrationCapabilities : Fields :=
  [(lit "supported_kinds", .arr (R.supportedKinds.map .str))]

def lookupHandler (kind : PyStr) : Option η :=
  match R.extraHandlers.get? kind with
  | some handler => some handler
  | none => (R.builtinHandlers.get? kind).bind R.method

/-- What `_dispatch` makes of the end of the handler's call: the response is built outside the
guard. -/
def finish (st : Stamp) (request : Message) : HandlerEnd κ υ ε → Except ε (Reply κ υ)
  | .raised text =>
    text.map fun text => .error (Error.toFrom st request (lit "handler_error") text R.agentId)
  | .returned .none => .ok (.response (Response.to st request none (some (.str R.agentId))))
  | .returned (.object asDict) =>
    asDict.map fun body => .response (Response.to st request (some body) (some (.str R.agentId)))

variable (P : Python)

/-- An error under the responder's id. -/
def refuse (st : Stamp) (request : Message) (code message : PyStr) :
    Except ε (Reply κ υ) × List (HandlerCall η) :=
  (.ok (.error (Error.toFrom st request code message R.agentId)), [])

/-- `_dispatch`, with the calls it makes. -/
def dispatch (st : Stamp) (run : η → Inbound → Fields → HandlerEnd κ υ ε) (request : Inbound) :
    Except ε (Reply κ υ) × List (HandlerCall η) :=
  match request.body with
  | .obj body =>
    match Fields.get body (lit "kind") with
    | .str (c :: s) =>
      match R.lookupHandler (c :: s) with
      | none => R.refuse st request.message (lit "unknown_kind")
          (lit "unknown request kind: " ++ P.repr (.str (c :: s)))
      | some handler =>
        let params := fieldsOr ((Pairs.get? (lit "params") body).getD (.obj []))
        (R.finish st request.message (run handler request params), [⟨handler, request, params⟩])
    | _ => R.refuse st request.message (lit "invalid_request")
        (lit "missing or invalid 'kind' in request body")
  | _ => R.refuse st request.message (lit "invalid_request")
      (lit "request body must be a JSON object")

end BrokeredResponder

end AgentComm
