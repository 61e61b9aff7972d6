import AgentComm.Proofs.Refinement

/-!
# A poll on an agent registered with an endpoint

Whether a poll registers its agent again is decided by the agent's queue, not by its
registration. So an agent that is registered but has no queue is taken over: its endpoint becomes
the mailbox the poll registers.
-/

namespace AgentComm

open Lib

variable {P : Python} {cfg : ServerConfig} {env : Env} {req : Request} {b : Broker}

variable (env b) in
/-- A poll is answered 429, or handled under its id. -/
theorem handle_of_poll {p query : PyStr} (hm : req.method = lit "GET")
    (hp : Url.urlsplit P req.path = .ok (defaultMessagePath, query))
    (hc : credentials P cfg req = some (.agent p)) :
    ∃ b' : Broker, b'.stores = b.stores ∧ handle P cfg env req b
      = if (checkRateLimit cfg env.monotonic (rateKey p) b.rateBuckets).1 then
          handlePoll P cfg env req p b'
        else (.answer rateLimitedResponse, b') := by
  rw [credentials, if_pos hm, getCredentials] at hc
  split_ifs at hc with hhealth
  simp only [hp, Option.some.injEq] at hc
  have hserve : ∀ b', serveGet P cfg env req defaultMessagePath p b'
      = handlePoll P cfg env req p b' := by
    intro b'
    rw [serveGet, if_neg (by decide), if_neg (by decide), if_pos rfl]
  refine ⟨{ b with
    rateBuckets := (checkRateLimit cfg env.monotonic (rateKey p) b.rateBuckets).2 }, rfl, ?_⟩
  rw [handle, if_pos hm, doGET, if_neg hhealth]
  simp only [hp, withAgent, hc, hserve]

/-- The end of a poll, past its check for a queue, leaves the endpoint. -/
theorem entry_servePoll (a : PyStr) (b : Broker) :
    ((servePoll env a b).2.stores.entry a).endpoint = (b.stores.entry a).endpoint := by
  rw [(servePoll_spec env a b).2, entry_takeAll, if_pos rfl, Stores.entry_pollHeartbeat]
  split_ifs <;> rfl

/-- The poll's registration, and whatever follows it, leaves the agent with a mailbox. -/
theorem endpoint_of_autoRegister {query p a : PyStr}
    (hp : Url.urlsplit P req.path = .ok (defaultMessagePath, query)) (ha : pollId P p query = a)
    (hne : a ≠ []) (hq : b.stores.mailboxes.ref? a = none) :
    ((handlePoll P cfg env req p b).2.stores.entry a).endpoint
      = some (Entry.mailboxEndpoint a) := by
  have hauto : ((autoRegisterMailbox cfg env a b).2.stores.entry a).endpoint
      = some (Entry.mailboxEndpoint a) := by
    rw [autoRegisterMailbox_stores, entry_autoRegisterStores, if_pos rfl]
    rfl
  simp only [handlePoll, hp, ha, if_neg hne, hq, Option.isSome_none, Bool.false_eq_true, if_false]
  split <;> rename_i heq <;> rw [heq] at hauto
  · exact hauto
  · rw [entry_servePoll]
    exact hauto

/-- A poll that identifies its caller as a registered agent leaves the agent's endpoint as it was
if and only if the rate limit turns it away, the agent has a queue, or the endpoint is the mailbox
a poll registers. -/
theorem poll_keeps_endpoint_iff {query p a : PyStr} {e : Endpoint} (hm : req.method = lit "GET")
    (hp : Url.urlsplit P req.path = .ok (defaultMessagePath, query))
    (hc : credentials P cfg req = some (.agent p)) (ha : pollId P p query = a) (hne : a ≠ [])
    (he : b.stores.registry.get? a = some e) :
    (handle P cfg env req b).2.stores.registry.get? a = some e
      ↔ (checkRateLimit cfg env.monotonic (rateKey p) b.rateBuckets).1 = false
        ∨ (b.stores.mailboxes.ref? a).isSome ∨ e = Entry.mailboxEndpoint a := by
  change ((handle P cfg env req b).2.stores.entry a).endpoint = some e ↔ _
  have he' : (b.stores.entry a).endpoint = some e := he
  obtain ⟨b', hb, heq⟩ := handle_of_poll env b hm hp hc
  rw [heq]
  cases (checkRateLimit cfg env.monotonic (rateKey p) b.rateBuckets).1 with
  | false =>
    rw [← hb] at he'
    exact ⟨fun _ => .inl rfl, fun _ => he'⟩
  | true =>
    rw [if_pos rfl, ← hb]
    rcases hq : b'.stores.mailboxes.ref? a with _ | mbox
    · rw [endpoint_of_autoRegister hp ha hne hq]
      simp [eq_comm]
    · have hkeep : ((handlePoll P cfg env req p b').2.stores.entry a).endpoint = some e := by
        simp only [handlePoll, hp, ha, if_neg hne, hq, Option.isSome_some, if_true]
        rw [entry_servePoll, hb]
        exact he'
      exact ⟨fun _ => .inr (.inl rfl), fun _ => hkeep⟩

def pollRequest : Request := ⟨lit "GET", lit "/messages?agent_id=a", none, none, []⟩

theorem poll_keeps_endpoint_mailbox :
    (handle mailboxPython .defaults (instant 1) pollRequest mailboxBroker).2.stores.registry.get?
      (lit "a") = some (Entry.mailboxEndpoint (lit "a")) :=
  (poll_keeps_endpoint_iff (p := []) rfl rfl rfl (by decide)
    (by decide) (by decide +kernel)).2 (.inr (.inl (by decide +kernel)))

/-- An agent that listens at an endpoint registers. -/
def endpointPayload : Json :=
  .obj [(lit "agent_id", .str (lit "a")), (lit "host", .str (lit "h")), (lit "port", .int 8080)]

def endpointPython : Python := plainPython [(jsonText endpointPayload, endpointPayload)]

/-- Its next poll has the broker forget where it listens. -/
theorem poll_takes_over : ∃ b query e, Served endpointPython .defaults b
    ∧ Url.urlsplit endpointPython pollRequest.path = .ok (defaultMessagePath, query)
    ∧ credentials endpointPython .defaults pollRequest = some (.agent [])
    ∧ pollId endpointPython [] query = lit "a"
    ∧ b.stores.registry.get? (lit "a") = some e ∧ e.mailbox = false
    ∧ (handle endpointPython .defaults (instant 1) pollRequest b).2.stores.registry.get? (lit "a")
      ≠ some e := by
  refine ⟨_, lit "agent_id=a", ⟨lit "a", lit "h", 8080, lit "http", lit "/messages", false⟩,
    ⟨_, .single (a := .request (instant 0) (postJson (lit "/agents") endpointPayload)) trivial
      rfl⟩, rfl, rfl, by decide, ?_, rfl, ?_⟩
  · decide +kernel
  · decide +kernel

end AgentComm
