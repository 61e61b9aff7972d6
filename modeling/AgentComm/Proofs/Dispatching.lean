import AgentComm.Proofs.Decoding
import AgentComm.Sdk.Responder
import Mathlib.Data.List.Dedup

/-!
# The responder's dispatch

A request is refused, or the handler for its kind is called once and its end is turned into a
reply. The dispatch gets no further where `str` of what the handler raises, or `dict` of what it
returns, raises: the first is taken while the exception is handled, the second past the guard.
-/

namespace AgentComm

open Lib

variable {η κ υ ε : Type}

/-! ### Registered handlers -/

/-- The handler it registers for the kind, if it does. -/
def Registering.sets (kind : PyStr) : Registering η → Option η
  | .registerHandler k handler => if k = kind then handler else none
  | .decorator k fn => if k = kind then some fn else none

namespace BrokeredResponder

variable {R : BrokeredResponder η} {a : PyStr} {T : Dict PyStr PyStr} {method : PyStr → Option η}
  {regs : List (Registering η)} {kind : PyStr}

variable (a T method regs) in
/-- A responder after calls of `register_handler`. -/
def registered : BrokeredResponder η := regs.foldl registerHandler (new a T method)

variable (T method regs kind) in
/-- The handler for the kind after the calls: the last registered, or else the built-in method. -/
def chosen : Option η :=
  (regs.filterMap (Registering.sets kind)).getLast?.or ((T.get? kind).bind method)

theorem registerHandler_extra (r : Registering η) : (R.registerHandler r).extraHandlers.get? kind
    = (r.sets kind).or (R.extraHandlers.get? kind) := by
  rcases r with ⟨k, _ | handler⟩ | ⟨k, fn⟩
  · simp [registerHandler, Registering.sets]
  · simp only [registerHandler, Registering.sets, Dict.get?_set]
    split_ifs <;> rfl
  · simp only [registerHandler, Registering.sets, Dict.get?_set]
    split_ifs <;> rfl

theorem registerHandler_same (r : Registering η) :
    (R.registerHandler r).builtinHandlers = R.builtinHandlers
      ∧ (R.registerHandler r).method = R.method := by
  rcases r with ⟨k, _ | handler⟩ | ⟨k, fn⟩ <;> exact ⟨rfl, rfl⟩

theorem lookupHandler_eq : R.lookupHandler kind
    = (R.extraHandlers.get? kind).or ((R.builtinHandlers.get? kind).bind R.method) := by
  unfold lookupHandler
  rcases R.extraHandlers.get? kind with _ | handler <;> rfl

theorem lookupHandler_registerHandler (r : Registering η) :
    (R.registerHandler r).lookupHandler kind = (r.sets kind).or (R.lookupHandler kind) := by
  obtain ⟨hbuiltin, hmethod⟩ := registerHandler_same (R := R) r
  rw [lookupHandler_eq, lookupHandler_eq, registerHandler_extra, hbuiltin, hmethod, Option.or_assoc]

theorem registered_concat (r : Registering η) :
    registered a T method (regs ++ [r]) = (registered a T method regs).registerHandler r := by
  simp [registered]

/-- The lookup finds the handler chosen. -/
theorem lookupHandler_registered (regs : List (Registering η)) :
    (registered a T method regs).lookupHandler kind = chosen T method regs kind := by
  induction regs using List.reverseRecOn with
  | nil => rfl
  | append_singleton regs r ih =>
    rw [registered_concat, lookupHandler_registerHandler, ih, chosen, chosen,
      List.filterMap_append]
    rcases hr : r.sets kind with _ | handler
    · simp [hr]
    · simp [hr]

theorem registered_same (regs : List (Registering η)) :
    (registered a T method regs).builtinHandlers = T
      ∧ (registered a T method regs).method = method := by
  induction regs using List.reverseRecOn with
  | nil => exact ⟨rfl, rfl⟩
  | append_singleton regs r ih =>
    obtain ⟨hbuiltin, hmethod⟩ := registerHandler_same (R := registered a T method regs) r
    rw [registered_concat, hbuiltin, hmethod]
    exact ih

theorem mem_supportedKinds : kind ∈ R.supportedKinds
    ↔ (R.builtinHandlers.get? kind).isSome ∨ (R.extraHandlers.get? kind).isSome := by
  have hkeys : ∀ {β : Type} (d : Dict PyStr β),
      kind ∈ d.entries.map Prod.fst ↔ (d.get? kind).isSome := by
    intro β d
    rw [Option.isSome_iff_exists, List.mem_map]
    constructor
    · rintro ⟨⟨k, v⟩, hmem, rfl⟩
      exact ⟨v, Dict.mem_entries.1 hmem⟩
    · rintro ⟨v, hv⟩
      exact ⟨(kind, v), Dict.mem_entries.2 hv, rfl⟩
  simp only [supportedKinds, List.mem_mergeSort, List.mem_dedup, List.mem_append, hkeys]

/-- A kind that has a handler is advertised. -/
theorem mem_supportedKinds_of_lookup {handler : η} (h : R.lookupHandler kind = some handler) :
    kind ∈ R.supportedKinds := by
  rw [mem_supportedKinds]
  rw [lookupHandler_eq] at h
  rcases hextra : R.extraHandlers.get? kind with _ | handler'
  · rw [hextra, Option.none_or] at h
    obtain ⟨name, hname, -⟩ := Option.bind_eq_some_iff.1 h
    exact .inl (by simp [hname])
  · exact .inr rfl

/-- Where the table names methods that there are, what is advertised is what has a handler. -/
theorem mem_supportedKinds_registered
    (hT : ∀ kind name, T.get? kind = some name → (method name).isSome) :
    kind ∈ (registered a T method regs).supportedKinds ↔ (chosen T method regs kind).isSome := by
  rw [← lookupHandler_registered (a := a)]
  constructor
  · intro h
    obtain ⟨hbuiltin, hmethod⟩ := registered_same (a := a) (T := T) regs
    rw [mem_supportedKinds, hbuiltin] at h
    rw [lookupHandler_eq, hbuiltin, hmethod, Option.isSome_or, Bool.or_eq_true]
    refine h.symm.imp_right fun hname => ?_
    obtain ⟨name, hname⟩ := Option.isSome_iff_exists.1 hname
    rw [hname]
    exact hT kind name hname
  · intro h
    obtain ⟨handler, hhandler⟩ := Option.isSome_iff_exists.1 h
    exact mem_supportedKinds_of_lookup hhandler

end BrokeredResponder

/-! ### What a request comes to -/

section Dispatch

open BrokeredResponder

variable {P : Python} {R : BrokeredResponder η} {st : Stamp}
  {run : η → Inbound → Fields → HandlerEnd κ υ ε} {request : Inbound}
  {out : Except ε (Reply κ υ) × List (HandlerCall η)} {kind code : PyStr} {body : Json}

/-- The body is an object whose kind is the given text, which is not empty. -/
def Asks (body : Json) (kind : PyStr) : Prop :=
  kind ≠ [] ∧ ∃ kvs : Fields, body = .obj kvs ∧ kvs.get (lit "kind") = .str kind

/-- The params of a body: an empty object unless there is one. -/
def paramsOf (body : Json) : Fields := fieldsOr ((fieldsOr body).get (lit "params"))

theorem Asks.unique {kind' : PyStr} (h : Asks body kind) (h' : Asks body kind') : kind = kind' := by
  obtain ⟨-, kvs, rfl, hkind⟩ := h
  obtain ⟨-, kvs', hbody, hkind'⟩ := h'
  obtain rfl := Json.obj.inj hbody
  exact Json.str.inj (hkind.symm.trans hkind')

namespace Reply

def correlationId : Reply κ υ → Option PyStr
  | .error m => m.correlationId
  | .response r => some r.correlationId

def recipient : Reply κ υ → Json
  | .error m => m.metadata.recipient
  | .response r => r.metadata.recipient

end Reply

/-- The dispatch returns an error of the given code. -/
def Refused (code : PyStr) (out : Except ε (Reply κ υ) × List (HandlerCall η)) : Prop :=
  ∃ m, out.1 = .ok (.error m) ∧ Fields.get m.body (lit "code") = .str code

/-- What the dispatch is to return once the handler has ended. -/
def Ends (out : Except ε (Reply κ υ) × List (HandlerCall η)) : HandlerEnd κ υ ε → Prop
  | .raised _ => Refused (lit "handler_error") out
  | .returned .none => ∃ r, out.1 = .ok (.response r) ∧ r.body = []
  | .returned (.object (.ok body)) => ∃ r, out.1 = .ok (.response r) ∧ r.body = body
  | .returned (.object (.error _)) => Refused (lit "handler_error") out

/-- A handler's end that a reply can be made of: an exception with a text, `None`, or what `dict`
takes. -/
def Tractable : HandlerEnd κ υ ε → Prop
  | .raised text => ∃ t, text = .ok t
  | .returned .none => True
  | .returned (.object asDict) => ∃ body, asDict = .ok body

/-- The dispatch of a request: it is answered, consistently with what is advertised. -/
structure DispatchKept (R : BrokeredResponder η) (choice : PyStr → Option η)
    (run : η → Inbound → Fields → HandlerEnd κ υ ε) (request : Inbound)
    (out : Except ε (Reply κ υ) × List (HandlerCall η)) : Prop where
  answered : ∃ reply, out.1 = .ok reply ∧ reply.correlationId = some request.message.messageId
    ∧ reply.recipient = request.message.metadata.sender
  invalid : Refused (lit "invalid_request") out ↔ ¬ ∃ kind, Asks request.body kind
  unknown : Refused (lit "unknown_kind") out
    ↔ ∃ kind, Asks request.body kind ∧ kind ∉ R.supportedKinds
  called : ∀ kind, Asks request.body kind → kind ∈ R.supportedKinds → ∃ handler,
    choice kind = some handler ∧ out.2 = [⟨handler, request, paramsOf request.body⟩]
      ∧ Ends out (run handler request (paramsOf request.body))
  quiet : (∀ kind, Asks request.body kind → kind ∉ R.supportedKinds) → out.2 = []

theorem refused_refuse {text code' : PyStr} :
    Refused code (R.refuse st request.message code' text
      : Except ε (Reply κ υ) × List (HandlerCall η)) ↔ code' = code := by
  have hcode : Fields.get (Error.toFrom st request.message code' text R.agentId).body (lit "code")
      = .str code' := rfl
  constructor
  · rintro ⟨m, hm, hc⟩
    obtain rfl := Reply.error.inj (Except.ok.inj hm)
    exact Json.str.inj (hcode.symm.trans hc)
  · rintro rfl
    exact ⟨_, rfl, hcode⟩

variable (P R st run request) in
/-- The three ways of a dispatch. -/
theorem dispatch_cases :
    ((¬ ∃ kind, Asks request.body kind) ∧ ∃ text, R.dispatch P st run request
        = R.refuse st request.message (lit "invalid_request") text)
      ∨ (∃ kind, Asks request.body kind ∧ R.lookupHandler kind = none ∧ ∃ text,
        R.dispatch P st run request = R.refuse st request.message (lit "unknown_kind") text)
      ∨ ∃ kind handler, Asks request.body kind ∧ R.lookupHandler kind = some handler
        ∧ R.dispatch P st run request
          = (R.finish st request.message (run handler request (paramsOf request.body)),
            [⟨handler, request, paramsOf request.body⟩]) := by
  unfold dispatch
  split
  · rename_i body hbody
    split
    · rename_i c s hkind
      have hasks : Asks request.body (c :: s) := ⟨List.cons_ne_nil c s, body, hbody, hkind⟩
      have hparams : fieldsOr ((Pairs.get? (lit "params") body).getD (.obj []))
          = paramsOf request.body := by
        rw [hbody, paramsOf, fieldsOr, Fields.get]
        rcases Pairs.get? (lit "params") body with _ | v <;> rfl
      split
      · rename_i hnone
        exact .inr (.inl ⟨c :: s, hasks, hnone, _, rfl⟩)
      · rename_i handler hsome
        rw [hparams]
        exact .inr (.inr ⟨c :: s, handler, hasks, hsome, rfl⟩)
    · rename_i hkind
      refine .inl ⟨?_, _, rfl⟩
      rintro ⟨kind, hne, kvs, hkvs, hget⟩
      obtain rfl := Json.obj.inj (hbody.symm.trans hkvs)
      obtain ⟨c, s, rfl⟩ := List.exists_cons_of_ne_nil hne
      exact hkind c s hget
  · rename_i hbody
    refine .inl ⟨?_, _, rfl⟩
    rintro ⟨kind, -, kvs, hkvs, -⟩
    exact hbody kvs hkvs

variable {choice : PyStr → Option η}

/-- A request with no kind is refused as it should be. -/
theorem kept_of_invalid {text : PyStr} (h : ¬ ∃ kind, Asks request.body kind) :
    DispatchKept R choice run request
      (R.refuse st request.message (lit "invalid_request") text) where
  answered := ⟨_, rfl, rfl, rfl⟩
  invalid := iff_of_true (refused_refuse.2 rfl) h
  unknown := by
    rw [refused_refuse]
    exact iff_of_false (by decide) fun ⟨kind, hkind, _⟩ => h ⟨kind, hkind⟩
  called kind hkind := absurd ⟨kind, hkind⟩ h
  quiet _ := rfl

/-- A kind is refused as unknown just when it is not advertised. -/
theorem kept_of_unknown {text : PyStr} (h : Asks request.body kind) :
    DispatchKept R choice run request (R.refuse st request.message (lit "unknown_kind") text)
      ↔ kind ∉ R.supportedKinds := by
  constructor
  · intro hkept
    obtain ⟨kind', hkind', hno⟩ := hkept.unknown.1 (refused_refuse.2 rfl)
    exact hkind'.unique h ▸ hno
  · intro hno
    refine ⟨⟨_, rfl, rfl, rfl⟩, ?_, iff_of_true (refused_refuse.2 rfl) ⟨kind, h, hno⟩, ?_,
      fun _ => rfl⟩
    · rw [refused_refuse]
      exact iff_of_false (by decide) (not_not.2 ⟨kind, h⟩)
    · intro kind' hkind' hyes
      exact absurd (hkind'.unique h ▸ hyes) hno

theorem refused_finish {calls : List (HandlerCall η)} {e : HandlerEnd κ υ ε}
    (h : Refused code (R.finish st request.message e, calls)) : code = lit "handler_error" := by
  obtain ⟨m, hm, hcode⟩ := h
  rcases e with (_ | (e | body)) | (e | text)
  case raised.ok =>
    obtain rfl := Reply.error.inj (Except.ok.inj hm)
    exact (Json.str.inj hcode).symm
  all_goals cases hm

variable (R st request) in
/-- What the end of a handler is turned into. -/
theorem finish_kept (calls : List (HandlerCall η)) (e : HandlerEnd κ υ ε) :
    ((∃ reply, R.finish st request.message e = .ok reply
        ∧ reply.correlationId = some request.message.messageId
        ∧ reply.recipient = request.message.metadata.sender)
      ∧ Ends (R.finish st request.message e, calls) e) ↔ Tractable e := by
  rcases e with (_ | (e | body)) | (e | text)
  case returned.none =>
    exact iff_of_true ⟨⟨_, rfl, rfl, rfl⟩, _, rfl, rfl⟩ trivial
  case returned.object.ok =>
    exact iff_of_true ⟨⟨_, rfl, rfl, rfl⟩, _, rfl, rfl⟩ ⟨body, rfl⟩
  case raised.ok =>
    exact iff_of_true ⟨⟨_, rfl, rfl, rfl⟩, _, rfl, rfl⟩ ⟨text, rfl⟩
  all_goals
    refine iff_of_false ?_ ?_
    · rintro ⟨⟨reply, hreply, -⟩, -⟩
      cases hreply
    · rintro ⟨x, hx⟩
      cases hx

/-- A handler's call is answered as it should be just when its end can be. -/
theorem kept_of_called {handler : η} (h : Asks request.body kind)
    (hhandler : R.lookupHandler kind = some handler) (hchoice : choice kind = some handler) :
    DispatchKept R choice run request
      (R.finish st request.message (run handler request (paramsOf request.body)),
        [⟨handler, request, paramsOf request.body⟩])
      ↔ Tractable (run handler request (paramsOf request.body)) := by
  have hyes := mem_supportedKinds_of_lookup hhandler
  rw [← finish_kept R st request [⟨handler, request, paramsOf request.body⟩]]
  constructor
  · intro hkept
    obtain ⟨handler', hsame, -, hends⟩ := hkept.called kind h hyes
    obtain rfl := Option.some.inj (hchoice.symm.trans hsame)
    exact ⟨hkept.answered, hends⟩
  · rintro ⟨hanswered, hends⟩
    refine ⟨hanswered, iff_of_false (fun hr => ?_) (not_not.2 ⟨kind, h⟩),
      iff_of_false (fun hr => ?_) ?_, ?_, fun hno => absurd hyes (hno kind h)⟩
    · exact absurd (refused_finish hr) (by decide)
    · exact absurd (refused_finish hr) (by decide)
    · rintro ⟨kind', hkind', hno⟩
      exact hno (hkind'.unique h ▸ hyes)
    · intro kind' hkind' _
      exact ⟨handler, hkind'.unique h ▸ hchoice, rfl, hends⟩

/-- The dispatch of a responder answers a request, consistently with the kinds it advertises, just
when an advertised kind that is asked for has a handler and its end can be made a reply of. -/
theorem dispatch_kept_iff (a : PyStr) (T : Dict PyStr PyStr) (method : PyStr → Option η)
    (regs : List (Registering η)) :
    DispatchKept (registered a T method regs) (chosen T method regs) run request
      ((registered a T method regs).dispatch P st run request)
    ↔ ∀ kind, Asks request.body kind → kind ∈ (registered a T method regs).supportedKinds →
      ∃ handler, chosen T method regs kind = some handler
        ∧ Tractable (run handler request (paramsOf request.body)) := by
  have hlookup : ∀ kind, (registered a T method regs).lookupHandler kind
      = chosen T method regs kind := fun kind => lookupHandler_registered regs
  rcases dispatch_cases P (registered a T method regs) st run request with
    ⟨hno, text, h⟩ | ⟨kind, hkind, hnone, text, h⟩ | ⟨kind, handler, hkind, hsome, h⟩
  · rw [h]
    exact iff_of_true (kept_of_invalid hno) fun kind hkind => absurd ⟨kind, hkind⟩ hno
  · rw [h, kept_of_unknown hkind]
    rw [hlookup] at hnone
    constructor
    · intro hno kind' hkind' hyes
      exact absurd (hkind'.unique hkind ▸ hyes) hno
    · intro hall hyes
      obtain ⟨handler, hhandler, -⟩ := hall kind hkind hyes
      cases hnone.symm.trans hhandler
  · rw [h, kept_of_called hkind hsome (by rw [← hlookup, hsome])]
    have hyes := mem_supportedKinds_of_lookup hsome
    rw [hlookup] at hsome
    constructor
    · intro htractable kind' hkind' _
      exact ⟨handler, hkind'.unique hkind ▸ hsome, htractable⟩
    · intro hall
      obtain ⟨handler', hhandler, htractable⟩ := hall kind hkind hyes
      obtain rfl := Option.some.inj (hsome.symm.trans hhandler)
      exact htractable

/-- The methods of the class itself. -/
def baseMethod (name : PyStr) : Option PyStr :=
  if builtins.values.contains name then some name else none

def echoing : List (Registering PyStr) := [.registerHandler (lit "echo") (some (lit "echo"))]

def echoRequest : Inbound := ⟨question, .obj [(lit "kind", .str (lit "echo"))]⟩

/-- A handler that returns a number. -/
def returnsNumber (_ : PyStr) (_ : Inbound) (_ : Fields) : HandlerEnd Key Json Exc :=
  .returned (.object (pyDict (.int 5)))

/-- What such a handler is called for, `_dispatch` raises on. -/
theorem number_unanswered :
    (registered (lit "r") builtins baseMethod echoing).dispatch (plainPython []) ⟨lit "2", lit "1"⟩
        returnsNumber echoRequest
      = (.error ⟨.typeError, lit "object is not iterable"⟩, [⟨lit "echo", echoRequest, []⟩])
    ∧ ¬ DispatchKept (registered (lit "r") builtins baseMethod echoing)
      (chosen builtins baseMethod echoing) returnsNumber echoRequest
      ((registered (lit "r") builtins baseMethod echoing).dispatch (plainPython [])
        ⟨lit "2", lit "1"⟩ returnsNumber echoRequest) := by
  have hraised : (registered (lit "r") builtins baseMethod echoing).dispatch (plainPython [])
        ⟨lit "2", lit "1"⟩ returnsNumber echoRequest
      = (.error ⟨.typeError, lit "object is not iterable"⟩, [⟨lit "echo", echoRequest, []⟩]) := rfl
  refine ⟨hraised, fun h => ?_⟩
  obtain ⟨reply, hreply, -⟩ := h.answered
  rw [hraised] at hreply
  cases hreply

end Dispatch

end AgentComm
