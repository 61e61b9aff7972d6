import AgentComm.Lifecycle.Server
import AgentComm.Proofs.Advertising

/-!
# Tracing changes no answer

Whatever a tracing client does, the lifecycle server answers as it would without one, or says that
the handler failed, with the text of what the client raised. A trace that is entered is left.
-/

namespace AgentComm

open Lib BrokeredResponder

/-! ### Dispatching alike -/

section Alike

variable {η κ υ ε : Type} {P : Python} {R R' : BrokeredResponder η} {st : Stamp}
variable {run run' : η → Inbound → Fields → HandlerEnd κ υ ε} {request : Inbound}

variable (P st request) in
/-- What a request is refused with does not depend on the responder, but for its name. -/
theorem dispatch_refused : ∃ code text, ∀ (R : BrokeredResponder η)
    (run : η → Inbound → Fields → HandlerEnd κ υ ε),
    (∀ kind, Asks request.body kind → R.lookupHandler kind = none) →
    R.dispatch P st run request = R.refuse st request.message code text := by
  by_cases hasks : ∃ kind, Asks request.body kind
  · obtain ⟨kind, hasks⟩ := hasks
    obtain ⟨hne, kvs, hbody, hget⟩ := hasks
    obtain ⟨c, s, rfl⟩ := List.exists_cons_of_ne_nil hne
    refine ⟨lit "unknown_kind", lit "unknown request kind: " ++ P.repr (.str (c :: s)),
      fun R run hnone => ?_⟩
    have hlookup := hnone (c :: s) ⟨hne, kvs, hbody, hget⟩
    simp only [dispatch, hbody, hget, hlookup]
  · rcases hbody : request.body with _ | _ | _ | _ | _ | _ | body
    case obj =>
      refine ⟨lit "invalid_request", lit "missing or invalid 'kind' in request body",
        fun R run _ => ?_⟩
      simp only [dispatch, hbody]
      split
      · rename_i c s hget
        exact absurd ⟨c :: s, List.cons_ne_nil c s, body, hbody, hget⟩ hasks
      · rfl
    all_goals
      refine ⟨lit "invalid_request", lit "request body must be a JSON object", fun R run _ => ?_⟩
      simp only [dispatch, hbody]

variable (P st run run' request) in
/-- Two responders of one name and one table go the same way, up to what the handler comes to. -/
theorem dispatch_alike (hid : R.agentId = R'.agentId)
    (hlookup : ∀ kind, R.lookupHandler kind = R'.lookupHandler kind) :
    (∃ m, R.dispatch P st run request = (.ok (.error m), [])
      ∧ R'.dispatch P st run' request = (.ok (.error m), []))
    ∨ ∃ kind handler, Asks request.body kind ∧ R.lookupHandler kind = some handler
      ∧ R.dispatch P st run request
        = (R.finish st request.message (run handler request (paramsOf request.body)),
          [⟨handler, request, paramsOf request.body⟩])
      ∧ R'.dispatch P st run' request
        = (R'.finish st request.message (run' handler request (paramsOf request.body)),
          [⟨handler, request, paramsOf request.body⟩]) := by
  by_cases hnone : ∀ kind, Asks request.body kind → R.lookupHandler kind = none
  · obtain ⟨code, text, hrefused⟩ := dispatch_refused P st (κ := κ) (υ := υ) (ε := ε) (η := η)
      request
    rw [hrefused R run hnone, hrefused R' run' fun kind hk => hlookup kind ▸ hnone kind hk]
    refine .inl ⟨_, rfl, ?_⟩
    rw [refuse, hid]
  · push Not at hnone
    obtain ⟨kind, hasks, hsome⟩ := hnone
    obtain ⟨handler, hhandler⟩ := Option.ne_none_iff_exists'.1 hsome
    exact .inr ⟨kind, handler, hasks, hhandler, dispatch_handled hasks hhandler,
      dispatch_handled hasks (hlookup kind ▸ hhandler)⟩

end Alike

/-! ### A handler in a trace -/

/-- One of the calls made on the client, or on the trace it gives, raises this. -/
inductive TracingClient.Raises (client : TracingClient) (calls : List TraceCall) (e : Raised) : Prop
  | trace {name} (hcall : .trace name ∈ calls) (h : client name = .error e)
  | enter {name trace} (hname : .trace name ∈ calls) (h : client name = .ok trace)
      (hcall : .enter ∈ calls) (he : trace.enter = .error e)
  | event {name trace log event metadata} (hname : .trace name ∈ calls)
      (h : client name = .ok trace) (hlog : trace.enter = .ok log)
      (hcall : .event event metadata ∈ calls) (he : log event metadata = some e)
  | exit {name trace raised} (hname : .trace name ∈ calls) (h : client name = .ok trace)
      (hcall : .exit raised ∈ calls) (he : trace.exit raised = .error e)

namespace TraceCall

def isEvent : TraceCall → Bool
  | event _ _ => true
  | _ => false

def isExit : TraceCall → Bool
  | exit _ => true
  | _ => false

end TraceCall

namespace LifecycleTracing

variable (t : LifecycleTracing) (name event : PyStr) (metadata : Option Fields) (result : Fields)

/-- The handler returns its result, or raises what the client raised. -/
theorem returning_end :
    (t.returning name event metadata result).1 = .returned (.object (.ok result))
    ∨ ∃ client e, t.client = some client
      ∧ client.Raises (t.returning name event metadata result).2 e
      ∧ (t.returning name event metadata result).1 = .raised e := by
  unfold returning
  split
  · exact .inl rfl
  · rename_i client hclient
    split
    · rename_i e htrace
      exact .inr ⟨client, e, hclient, .trace (by simp) htrace, rfl⟩
    · rename_i trace htrace
      split
      · rename_i e hlog
        exact .inr ⟨client, e, hclient, .enter (by simp) htrace (by simp) hlog, rfl⟩
      · rename_i log hlog
        simp only
        split
        · rename_i e hexit
          exact .inr ⟨client, e, hclient, .exit (by simp) htrace (by simp) hexit, rfl⟩
        · rename_i e _ he
          exact .inr ⟨client, e, hclient, .event (by simp) htrace hlog (by simp) he, rfl⟩
        · exact .inl rfl

/-- A trace in which the event is logged is left. -/
theorem returning_left : (t.returning name event metadata result).2.countP TraceCall.isExit
    = (t.returning name event metadata result).2.countP TraceCall.isEvent := by
  unfold returning
  split
  · rfl
  · split
    · rfl
    · split
      · rfl
      · simp only
        split <;> rfl

end LifecycleTracing

namespace LifecycleServer

variable {P : Python} {s : LifecycleServer} {st : Stamp} {request : Inbound} {kind : PyStr}

/-! ### The kinds -/

/-- The kinds the server answers. -/
def kinds : List PyStr := [lit "lifecycle", lit "status", lit "monitor"]

theorem lookupHandler_responder : s.responder.lookupHandler kind
    = if kind = lit "lifecycle" then some .lifecycle
      else if kind = lit "status" then some .status
      else if kind = lit "monitor" then some .monitor else none := by
  have hbuiltin : builtinHandlers.get? kind
      = if kind = lit "monitor" then some (lit "handle_monitor") else none := by
    have hentries : builtinHandlers.entries = [(lit "monitor", lit "handle_monitor")] := by decide
    rw [Dict.get?, hentries]
    simp only [Pairs.get?, eq_comm]
  have hextra : s.responder.extraHandlers.get? kind
      = if kind = lit "lifecycle" then some .lifecycle
        else if kind = lit "status" then some .status else none := by
    simp only [responder, registrations, List.foldl_cons, List.foldl_nil, registerHandler, new,
      Dict.get?_set, Dict.get?_empty, eq_comm]
  have hmethod : (s.responder.builtinHandlers.get? kind).bind s.responder.method
      = if kind = lit "monitor" then some .monitor else none := by
    change (builtinHandlers.get? kind).bind method = _
    rw [hbuiltin]
    split_ifs <;> rfl
  rw [lookupHandler_eq, hextra, hmethod]
  split_ifs <;> rfl

theorem lookupHandler_isSome : (s.responder.lookupHandler kind).isSome ↔ kind ∈ kinds := by
  rw [lookupHandler_responder]
  split_ifs <;> simp_all [kinds]

theorem lookupHandler_ne_base {name : PyStr} :
    s.responder.lookupHandler kind ≠ some (.base name) := by
  rw [lookupHandler_responder]
  split_ifs <;> simp

/-! ### Answers with and without a client -/

variable (s) in
/-- The server without a client. -/
def untraced : LifecycleServer := { s with tracing := ⟨none⟩ }

/-- The fields of a result, where `tracing_enabled` is taken for false. -/
def hideEnabled (result : Fields) : Fields :=
  result.map fun e => if e.1 = lit "tracing_enabled" then (e.1, .bool false) else e

def hideTracing : Reply PyStr Json → Reply PyStr Json
  | .error m => .error m
  | .response r => .response { r with body := hideEnabled r.body }

variable (s request) in
/-- What a handler comes to with and without a client. -/
theorem run_end {handler : Handler} (h : ∀ name, handler ≠ .base name) (params : Fields) :
    ∃ result, s.untraced.run handler request params
        = (.returned (.object (.ok (hideEnabled result))), [])
      ∧ ((s.run handler request params).1 = .returned (.object (.ok result))
        ∨ ∃ client e, s.tracing.client = some client
          ∧ client.Raises (s.run handler request params).2 e
          ∧ (s.run handler request params).1 = .raised e) := by
  rcases handler with _ | _ | _ | name
  · exact ⟨_, rfl, s.tracing.returning_end _ _ _ _⟩
  · exact ⟨_, rfl, s.tracing.returning_end _ _ _ _⟩
  · exact ⟨_, rfl, s.tracing.returning_end _ _ _ _⟩
  · exact absurd rfl (h name)

variable (s) in
theorem run_left (handler : Handler) (params : Fields) :
    (s.run handler request params).2.countP TraceCall.isExit
      = (s.run handler request params).2.countP TraceCall.isEvent := by
  rcases handler with _ | _ | _ | name
  · exact s.tracing.returning_left _ _ _ _
  · exact s.tracing.returning_left _ _ _ _
  · exact s.tracing.returning_left _ _ _ _
  · rfl

variable (st request) in
/-- The answer `out` of the server against the answer `plain` it gives without a client. -/
structure TracingTransparent (s : LifecycleServer)
    (out plain : Except Exc (Reply PyStr Json) × List TraceCall) : Prop where
  untouched : s.tracing.client = none → out.2 = []
  /-- a trace in which an event is logged is left -/
  left : out.2.countP TraceCall.isExit = out.2.countP TraceCall.isEvent
  answered : out.1.map hideTracing = plain.1 ∨ ∃ client e, s.tracing.client = some client
    ∧ client.Raises out.2 e ∧ out.1 = e.map fun text =>
      .error (Error.toFrom st request.message (lit "handler_error") text s.agentId)
  served : ∀ kind ∈ kinds, Asks request.body kind → ∃ r, plain.1 = .ok (.response r)
  refused : (∀ kind ∈ kinds, ¬ Asks request.body kind) →
    out.2 = [] ∧ plain.1 = out.1 ∧ ∃ m, out.1 = .ok (.error m)

/-- Whatever a tracing client does, it changes no answer but to a `handler_error`. -/
theorem tracing_transparent (P : Python) (s : LifecycleServer) (st : Stamp) (request : Inbound) :
    TracingTransparent st request s (s.serve P st request) (s.untraced.serve P st request) := by
  have hlookup : ∀ kind, s.responder.lookupHandler kind
      = s.untraced.responder.lookupHandler kind := fun kind => by
    rw [lookupHandler_responder, lookupHandler_responder]
  rcases dispatch_alike P st (fun h r params => (s.run h r params).1)
      (fun h r params => (s.untraced.run h r params).1) request
      (show s.responder.agentId = s.untraced.responder.agentId from rfl) hlookup with
    ⟨m, hout, hplain⟩ | ⟨kind, handler, hasks, hsome, hout, hplain⟩
  · simp only [serve, hout, hplain, List.flatMap_nil]
    refine ⟨fun _ => rfl, rfl, .inl rfl, fun kind hkind hasks => ?_, fun _ => ⟨rfl, rfl, m, rfl⟩⟩
    obtain ⟨handler, hhandler⟩ := Option.isSome_iff_exists.1 (lookupHandler_isSome (s := s).2 hkind)
    have hcalls := congrArg Prod.snd hout
    simp [dispatch_handled hasks hhandler] at hcalls
  · have hbase : ∀ name, handler ≠ .base name := by
      rintro name rfl
      exact lookupHandler_ne_base hsome
    obtain ⟨result, hrun', hrun⟩ := s.run_end request hbase (paramsOf request.body)
    have hkind : kind ∈ kinds := lookupHandler_isSome.1 (by rw [hsome]; rfl)
    simp only [serve, hout, hplain, List.flatMap_cons, List.flatMap_nil, List.append_nil, hrun']
    refine ⟨fun hnone => ?_, s.run_left handler _, ?_, fun _ _ _ => ⟨_, rfl⟩,
      fun hno => absurd hasks (hno kind hkind)⟩
    · have hsame : s = s.untraced := by
        obtain ⟨agentId, ⟨client⟩⟩ := s
        obtain rfl : client = none := hnone
        rfl
      rw [hsame, hrun']
    · rcases hrun with hreturned | ⟨client, e, hclient, hraises, hraised⟩
      · rw [hreturned]
        exact .inl rfl
      · rw [hraised]
        exact .inr ⟨client, e, hclient, hraises, rfl⟩

end LifecycleServer

end AgentComm
