import AgentComm.Broker.Config
import AgentComm.Proofs.Isolation

/-!
# Who a request is processed as

A token authenticates as the last agent it is configured for, so a request is let in without a
name just when the empty id, which stands for authentication being off, is the last one to have
some token. A mapping is followed to the letter when no two agents have one token and the empty
id is not among them.
-/

namespace AgentComm

open Lib

variable (P : Python) (cfg : ServerConfig)

/-- The token a request presents: the one after `Bearer ` in its header or, if it has no header
and its target may carry one, the one in its query. -/
def presented (allow : Bool) (req : Request) : Option PyStr :=
  let header := req.authorization.getD []
  if header ≠ [] then
    if bearerPrefix.isPrefixOf header then some (header.drop bearerPrefix.length) else none
  else if allow then
    match Url.urlsplit P req.path with
    | .error _ => none
    | .ok (_, query) => (Url.queryGet P query (lit "token")).filter (· ≠ [])
  else none

theorem presented_bearer {req : Request} {t : PyStr} (allow : Bool)
    (h : req.authorization = some (bearerPrefix ++ t)) : presented P allow req = some t := by
  have hne : bearerPrefix ++ t ≠ [] := by simp [bearerPrefix, lit]
  simp only [presented, h, Option.getD_some, if_pos hne, List.isPrefixOf_iff_prefix,
    List.prefix_append, if_true, List.drop_left]

variable {P cfg} {tokens : Dict PyStr PyStr} {req : Request} {p : PyStr}

/-- A request is authenticated as an agent when the token it presents leads to the agent. -/
theorem authenticate_eq_agent_iff (h : cfg.agentTokens = some tokens) {allow : Bool} :
    authenticate P cfg allow req = .agent p
      ↔ ∃ t, presented P allow req = some t ∧ tokens.invert.get? t = some p := by
  have hindex : cfg.tokenToAgent = tokens.invert := by
    simp only [ServerConfig.tokenToAgent, h, Option.elim_some, tokenIndex]
  have hon : ¬ cfg.agentTokens = none := by simp [h]
  simp only [authenticate, presented, hindex, if_neg hon]
  split_ifs with h1 h2 h3
  · simp only [Option.some.injEq, exists_eq_left']
    split <;> rename_i heq <;> simp [heq]
  · simp
  · rcases Url.urlsplit P req.path with e | ⟨path, query⟩
    · simp
    · rcases hq : Url.queryGet P query (lit "token") with _ | t
      · simp [hq]
      · rcases eq_or_ne t [] with rfl | hne
        · simp [hq]
        · simp only [hq, Option.getD_some, Option.filter, hne, ne_eq, not_false_eq_true,
            decide_true, if_true, Option.some.injEq, exists_eq_left']
          split <;> rename_i heq <;> simp [heq]
  · simp

def bearerPost (t : PyStr) : Request :=
  ⟨lit "POST", defaultMessagePath, some (bearerPrefix ++ t), none, []⟩

theorem authenticate_of_credentials {r : AuthResult} (h : credentials P cfg req = some r) :
    ∃ allow, authenticate P cfg allow req = r := by
  unfold credentials getCredentials at h
  split_ifs at h
  · split at h
    · cases h
    · exact ⟨_, Option.some.inj h⟩
  · exact ⟨_, Option.some.inj h⟩
  · exact ⟨_, Option.some.inj h⟩

/-! ### What an id lets its holder do -/

variable (P cfg) in
/-- Under the id `p` each handler lets a request act as `a` where it would without identities,
and as nobody else. -/
structure ActsAs (p a : PyStr) : Prop where
  registers : ∀ data r, validateRegisterPayload data p = .ok r
    ↔ validateRegisterPayload data [] = .ok r ∧ r.agentId = a
  deregisters : ∀ env req b x, parseAgentIdFromPath P req.path = .ok x → x ≠ [] →
    ((handleDeregister P env req p b).1.status? = some 403 ↔ x ≠ a)
  sends : ∀ env m b, (dispatchSend P cfg env p m b).1.status? = some 403
    ↔ m.metadata.sender ≠ .str a
  polls : ∀ query, pollId P p query = a

theorem checkIdentity_eq_ok {a x : PyStr} : checkIdentity a x = .ok () ↔ a = [] ∨ x = a := by
  unfold checkIdentity
  split_ifs with h
  · simp [h.1, h.2]
  · simp only [not_and_or, not_not] at h
    exact iff_of_true rfl h

/-- A payload passes under an id when it passes without one and has that id. -/
theorem validateRegisterPayload_iff {a : PyStr} (ha : a ≠ []) (data : Fields) (r : Registration) :
    validateRegisterPayload data a = .ok r
      ↔ validateRegisterPayload data [] = .ok r ∧ r.agentId = a := by
  have hother : ∀ p q : PyStr, validateRegisterPayload data p = .ok r →
      (q = [] ∨ r.agentId = q) → validateRegisterPayload data q = .ok r := by
    intro p q h hq
    obtain ⟨hid, hp⟩ := validateRegisterPayload_agentId h
    have hp' : checkIdentity p r.agentId = .ok () := if_neg hp
    have hq' : checkIdentity q r.agentId = .ok () := checkIdentity_eq_ok.2 hq
    simp only [validateRegisterPayload, hid, hp', hq', bind, Except.bind] at h ⊢
    exact h
  constructor
  · intro h
    exact ⟨hother a [] h (.inl rfl), validateRegisterPayload_id h ha⟩
  · rintro ⟨h, hr⟩
    exact hother [] a h (.inr hr)

theorem logThenAnswer_status {b : Broker} {r : AuditRecord} {resp : Response} {status : ℕ}
    (h : (logThenAnswer b r resp).1.status? = some status) : status = resp.status := by
  unfold logThenAnswer at h
  split at h
  · exact (Option.some.inj h).symm
  · cases h

theorem deregister_forbidden_iff {a x : PyStr} (ha : a ≠ []) (env : Env) (b : Broker)
    (hx : parseAgentIdFromPath P req.path = .ok x) (hne : x ≠ []) :
    (handleDeregister P env req a b).1.status? = some 403 ↔ x ≠ a := by
  unfold handleDeregister
  simp only [hx, if_neg hne]
  split_ifs with h
  · exact iff_of_true (answerThenLog_status _ _ _) h.2
  · refine iff_of_false (fun hs => ?_) fun hxa => h ⟨ha, hxa⟩
    cases logThenAnswer_status hs

theorem routeSend_status {env : Env} {registry : Registry} {m : Message} {status : ℕ}
    {body : Option PyStr} (h : routeSend P cfg env registry m = .ok (status, body)) :
    status ≠ 403 := by
  unfold routeSend at h
  split at h
  · cases h
    decide
  · cases h
    decide
  · split_ifs at h <;> cases h <;> decide

theorem send_forbidden_iff {a : PyStr} (ha : a ≠ []) (env : Env) (m : Message) (b : Broker) :
    (dispatchSend P cfg env a m b).1.status? = some 403 ↔ m.metadata.sender ≠ .str a := by
  have hsender : m.metadata.sender.asStr? = some a ↔ m.metadata.sender = .str a :=
    ⟨asStr?_eq_some, fun h => by rw [h, Json.asStr?]⟩
  cases dispatchSend_end P cfg env a b m with
  | foreign hfrom h =>
    rw [h, refuseSend, answerThenLog_status]
    exact iff_of_true rfl fun hself => hfrom.2 (hsender.2 hself)
  | missing hown h | unknown hown h =>
    rw [h, refuseSend, answerThenLog_status]
    exact iff_of_false (fun hs => by cases hs) fun hne => hne (hown ha)
  | raised hown h =>
    rw [h]
    exact iff_of_false (by simp) fun hne => hne (hown ha)
  | queued hown _ _ _ h =>
    rw [h, sendToMailbox]
    exact iff_of_false (fun hs => by cases logThenAnswer_status hs) fun hne => hne (hown ha)
  | routed hown _ _ _ h =>
    refine iff_of_false (fun hs => ?_) fun hne => hne (hown ha)
    rw [h] at hs
    cases sendToEndpoint_end P cfg env a b m with
    | raised h => exact absurd (h ▸ hs) (by simp)
    | routed hroute h =>
      rw [h] at hs
      exact routeSend_status hroute (logThenAnswer_status hs).symm

def mailboxFields (a : PyStr) : Fields :=
  [(lit "agent_id", .str a), (lit "mailbox", .bool true)]

/-- An id lets its holder act as itself unless it is the empty one. -/
theorem actsAs_iff {a : PyStr} : ActsAs P cfg a a ↔ a ≠ [] := by
  constructor
  · rintro h rfl
    have hx : validateRegisterPayload (mailboxFields (lit "x")) []
        = .ok ⟨{ agentId := lit "x", host := lit "mailbox", port := 0, mailbox := true }, [],
          none⟩ := rfl
    exact absurd ((h.registers _ _).1 hx).2 (by decide)
  · intro ha
    exact ⟨validateRegisterPayload_iff ha, fun env _ b _ hx hne =>
      deregister_forbidden_iff ha env b hx hne, send_forbidden_iff ha, fun _ => if_pos ha⟩

/-! ### Mappings -/

variable (P cfg) in
/-- The mapping is followed: an agent's token authenticates as that agent, no other token as
anyone, and an agent acts as itself. -/
structure Faithful (tokens : Dict PyStr PyStr) : Prop where
  own : ∀ a t, tokens.get? a = some t → ∀ allow req,
    req.authorization = some (bearerPrefix ++ t) → authenticate P cfg allow req = .agent a
  foreign : ∀ allow req t, presented P allow req = some t → (∀ a, tokens.get? a ≠ some t) →
    ∀ p, authenticate P cfg allow req ≠ .agent p
  self : ∀ a, (tokens.get? a).isSome → ActsAs P cfg a a

theorem authenticate_foreign (h : cfg.agentTokens = some tokens) {allow : Bool} {t : PyStr}
    (ht : presented P allow req = some t) (hno : ∀ a, tokens.get? a ≠ some t) (p : PyStr) :
    authenticate P cfg allow req ≠ .agent p := by
  intro hauth
  obtain ⟨t', ht', hi⟩ := (authenticate_eq_agent_iff h).1 hauth
  obtain rfl := Option.some.inj (ht.symm.trans ht')
  exact hno p (Dict.get?_of_invert hi)

/-- A mapping is followed if and only if no two of its agents have one token and the empty id is
not one of them. -/
theorem authentication_faithful_iff (h : cfg.agentTokens = some tokens) :
    Faithful P cfg tokens
      ↔ (∀ a a' t, tokens.get? a = some t → tokens.get? a' = some t → a = a')
        ∧ tokens.get? [] = none := by
  rw [← Dict.invert_faithful]
  constructor
  · intro hf
    refine ⟨fun a t ha => ?_, ?_⟩
    · have hauth := hf.own a t ha false (bearerPost t) rfl
      obtain ⟨t', ht', hi⟩ := (authenticate_eq_agent_iff h).1 hauth
      rw [presented_bearer P false rfl] at ht'
      rwa [Option.some.inj ht']
    · by_contra hne
      exact actsAs_iff.1 (hf.self [] (Option.isSome_iff_ne_none.2 hne)) rfl
  · rintro ⟨hinv, hnil⟩
    refine ⟨fun a t ha allow req hreq => ?_, fun allow req t => authenticate_foreign h,
      fun a ha => actsAs_iff.2 ?_⟩
    · exact (authenticate_eq_agent_iff h).2 ⟨t, presented_bearer P allow hreq, hinv a t ha⟩
    · rintro rfl
      rw [hnil] at ha
      cases ha

def inlineVars : PyStr → Option PyStr :=
  productionVars (lit "ROBOTSIX_BROKER_AGENT_TOKENS") (lit "a=t, b=u")

theorem authentication_faithful_inline : ∃ c srv tokens,
    BrokerConfig.fromEnv (plainPython []) (plainHost []) inlineVars = .ok c
      ∧ buildBroker (plainHost []) c = .ok srv ∧ srv.config.agentTokens = some tokens
      ∧ Faithful (plainPython []) srv.config tokens := by
  obtain ⟨c, srv, hc, hs, hp⟩ := configured_of_check (plainPython []) (plainHost []) inlineVars
    (fun r => r.2.config.agentTokens.map Dict.entries
      = some [(lit "a", lit "t"), (lit "b", lit "u")]) (by decide)
  obtain ⟨tokens, ht, hentries⟩ := Option.map_eq_some_iff.1 (of_decide_eq_true hp)
  have hget : ∀ a t, tokens.get? a = some t
      ↔ (a = lit "a" ∧ t = lit "t") ∨ (a = lit "b" ∧ t = lit "u") := by
    intro a t
    rw [← Dict.mem_entries, hentries]
    simp
  refine ⟨c, srv, tokens, hc, hs, ht, (authentication_faithful_iff ht).2 ⟨?_, ?_⟩⟩
  · intro a a' t ha ha'
    rcases (hget a t).1 ha with ⟨rfl, rfl⟩ | ⟨rfl, rfl⟩ <;>
      rcases (hget a' _).1 ha' with ⟨rfl, h⟩ | ⟨rfl, h⟩
    · rfl
    · exact absurd h (by decide)
    · exact absurd h (by decide)
    · rfl
  · by_contra hne
    obtain ⟨t, hnil⟩ := Option.ne_none_iff_exists'.1 hne
    rcases (hget [] t).1 hnil with ⟨h, -⟩ | ⟨h, -⟩ <;> exact absurd h (by decide)

/-- Two agents with one token. -/
def sharedVars : PyStr → Option PyStr :=
  productionVars (lit "ROBOTSIX_BROKER_AGENT_TOKENS") (lit "a=t,b=t")

/-- The token of `a` authenticates as `b`. -/
theorem authentication_unfaithful : ∃ c srv tokens,
    BrokerConfig.fromEnv (plainPython []) (plainHost []) sharedVars = .ok c
      ∧ buildBroker (plainHost []) c = .ok srv ∧ srv.config.agentTokens = some tokens
      ∧ tokens.get? (lit "a") = some (lit "t")
      ∧ authenticate (plainPython []) srv.config false (bearerPost (lit "t"))
        = .agent (lit "b") := by
  obtain ⟨c, srv, hc, hs, hp⟩ := configured_of_check (plainPython []) (plainHost []) sharedVars
    (fun r => r.2.config.agentTokens.bind (·.get? (lit "a")) = some (lit "t")
      ∧ authenticate (plainPython []) r.2.config false (bearerPost (lit "t"))
        = .agent (lit "b")) (by decide)
  obtain ⟨ht, hauth⟩ := of_decide_eq_true hp
  obtain ⟨tokens, htokens, ha⟩ := Option.bind_eq_some_iff.1 ht
  exact ⟨c, srv, tokens, hc, hs, htokens, ha, hauth⟩

end AgentComm
