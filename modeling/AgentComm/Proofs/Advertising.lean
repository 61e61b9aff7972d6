import AgentComm.Proofs.Discovery
import AgentComm.Proofs.Dispatching

/-!
# The kinds a responder advertises

A responder registers with the kinds it has handlers for, and a client that discovers it is told
these kinds, and no other.
-/

namespace AgentComm

open Lib BrokeredRegistry BrokeredResponder

variable {η κ υ ε : Type} {R : BrokeredResponder η}

theorem supportedKinds_registered {a : PyStr} {i : AgentInfo}
    (h : i = ⟨a, R.registrationCapabilities⟩) :
    i.supportedKinds = R.supportedKinds.map .str := by
  rw [h]
  rfl

variable {P : Python} {cfg : ServerConfig} {env env' : Env} {b b' : Broker} {p q : PyStr}
variable {e : Endpoint} {token token' : Option PyStr}

section Dispatched

variable {st : Stamp} {run : η → Inbound → Fields → HandlerEnd κ υ ε} {request : Inbound}
variable {kind : PyStr}

/-- A kind with a handler is handled. -/
theorem dispatch_handled {handler : η} (hasks : Asks request.body kind)
    (hlookup : R.lookupHandler kind = some handler) : R.dispatch P st run request
      = (R.finish st request.message (run handler request (paramsOf request.body)),
        [⟨handler, request, paramsOf request.body⟩]) := by
  rcases dispatch_cases P R st run request with
    ⟨hno, -⟩ | ⟨kind', hkind, hnone, -⟩ | ⟨kind', handler', hkind, hsome, h⟩
  · exact absurd ⟨kind, hasks⟩ hno
  · obtain rfl := hasks.unique hkind
    cases hnone.symm.trans hlookup
  · obtain rfl := hasks.unique hkind
    obtain rfl := Option.some.inj (hsome.symm.trans hlookup)
    exact h

/-- A dispatch calls a handler just when the kind asked for has one. -/
theorem dispatch_calls_iff (hasks : Asks request.body kind) :
    (∃ call, (R.dispatch P st run request).2 = [call]) ↔ (R.lookupHandler kind).isSome := by
  rcases hlookup : R.lookupHandler kind with _ | handler
  · rcases dispatch_cases P R st run request with
      ⟨-, text, h⟩ | ⟨-, -, -, text, h⟩ | ⟨kind', handler, hkind, hsome, -⟩
    · simp [h, refuse]
    · simp [h, refuse]
    · obtain rfl := hasks.unique hkind
      cases hsome.symm.trans hlookup
  · rw [dispatch_handled hasks hlookup]
    exact iff_of_true ⟨_, rfl⟩ rfl

end Dispatched

/-- Once a responder has registered, a client discovers the kinds it has handlers for: a request is
handled just when its kind is among them. -/
theorem kinds_discovered (T : Dict PyStr PyStr) (method : PyStr → Option η)
    (regs : List (Registering η)) (st : Stamp) (run : η → Inbound → Fields → HandlerEnd κ υ ε)
    (hT : ∀ kind name, T.get? kind = some name → (method name).isSome)
    (h : Served P cfg b)
    (htake : TakesUp P cfg env b p e
      (some (registered e.agentId T method regs).registrationCapabilities) token)
    (hown : OwnEndpoint p e) {tr : List Outcome}
    (hrun : (serialLts P cfg).Run (LeftAlone P cfg e.agentId) (handle P cfg env (registerRequest P
      token e (some (registered e.agentId T method regs).registrationCapabilities)) b).2 tr b')
    (hlist : ListsTo P cfg env' b' q token') :
    ∃ infos, discoverAgents P
        ((handle P cfg env' (agentsRequest token') b').1.httpAnswer P) = .ok infos
      ∧ ∃ i ∈ infos, i.agentId = e.agentId ∧ ∀ request kind, Asks request.body kind →
        (Json.str kind ∈ i.supportedKinds ↔ ∃ call, ((registered e.agentId T method regs).dispatch
          P st run request).2 = [call]) := by
  have hfound := hlist.found ((h.handle env _).run hrun).aligned 0
  have hmem := (hfound.advertised _ _).2 (htake.stays hown hrun)
  refine ⟨_, hfound.discovered, _, hmem, rfl, fun request kind hasks => ?_⟩
  rw [dispatch_calls_iff hasks, lookupHandler_registered, Option.getD_some,
    supportedKinds_registered rfl, ← mem_supportedKinds_registered (a := e.agentId) hT]
  simp

/-- The table of a responder that can be monitored. -/
def monitored : Dict PyStr PyStr := Dict.ofList [(lit "monitor", lit "handle_monitor")]

theorem kinds_discovered_box : ∃ infos, discoverAgents foundPython
      ((handle foundPython .defaults downEnv (agentsRequest none) boxBroker).1.httpAnswer
        foundPython) = .ok infos
    ∧ ∃ i ∈ infos, i.agentId = boxEndpoint.agentId ∧ ∀ request kind, Asks request.body kind →
      (Json.str kind ∈ i.supportedKinds ↔ ∃ call,
        ((registered boxEndpoint.agentId monitored baseMethod []).dispatch foundPython
          ⟨lit "2", lit "1"⟩ returnsNumber request).2 = [call]) := by
  have hcaps : (registered boxEndpoint.agentId monitored baseMethod
      []).registrationCapabilities = boxCapabilities := by
    have hkinds : (registered boxEndpoint.agentId monitored baseMethod []).supportedKinds
        = [lit "monitor"] := List.mergeSort_singleton _
    rw [registrationCapabilities, hkinds]
    rfl
  have htake : TakesUp foundPython .defaults downEnv Broker.init [] boxEndpoint (some (registered
      boxEndpoint.agentId monitored baseMethod []).registrationCapabilities) none := by
    rw [hcaps]
    exact boxRegister_taken
  refine kinds_discovered monitored baseMethod [] ⟨lit "2", lit "1"⟩ returnsNumber ?_
    ⟨[], .refl⟩ htake box_own (by rw [hcaps]; exact box_run) box_lists
  intro kind name hname
  have hmem : name ∈ monitored.values := Dict.mem_values.2 ⟨kind, hname⟩
  have hvalues : monitored.values = [lit "handle_monitor"] := rfl
  rw [hvalues, List.mem_singleton] at hmem
  rw [hmem]
  decide

end AgentComm
