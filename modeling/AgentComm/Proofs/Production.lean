import AgentComm.Proofs.Authentication
import AgentComm.Proofs.Refinement

/-!
# Brokers configured for production

The empty id stands for authentication being off. A production configuration has tokens, and so
authentication is on, but a token file may give a token to the empty id, and who holds that token
is let in without a name.
-/

namespace AgentComm

open Lib

variable {P : Python} {cfg : ServerConfig} {tokens : Dict PyStr PyStr}

theorem tokens_of_fromEnv {host : Host} {vars : PyStr → Option PyStr} {c : BrokerConfig}
    (hc : BrokerConfig.fromEnv P host vars = .ok c) (hprod : c.env ≠ lit "development") :
    ∃ tokens, c.agentTokens = some tokens := by
  obtain ⟨c', -, h⟩ := bind_eq_ok hc
  obtain ⟨warnings, hv, h⟩ := bind_eq_ok h
  cases h
  obtain ⟨_, -, hv⟩ := bind_eq_ok hv
  obtain ⟨_, -, hv⟩ := bind_eq_ok hv
  obtain ⟨_, hauth, -⟩ := bind_eq_ok hv
  have hp : c.isProd = true := by simp [BrokerConfig.isProd, hprod]
  rw [BrokerConfig.validateAuth, if_pos hp] at hauth
  rcases ht : c.agentTokens with _ | tokens
  · rw [ht] at hauth
    cases hauth
  · exact ⟨tokens, rfl⟩

theorem tokens_of_buildBroker {host : Host} {c : BrokerConfig} {srv : BrokerServer}
    (hs : buildBroker host c = .ok srv) : srv.config.agentTokens = c.agentTokens := by
  obtain ⟨tls, -, h⟩ := bind_eq_ok hs
  dsimp only at h
  split_ifs at h
  · obtain ⟨_, hthrow, -⟩ := bind_eq_ok h
    cases hthrow
  · obtain ⟨_, -, h⟩ := bind_eq_ok h
    split at h
    · obtain ⟨_, -, h⟩ := bind_eq_ok h
      cases h
      rfl
    · cases h
      rfl

variable (P cfg) in
/-- Nobody is let in without a name: a request other than the health probe is refused with 401
and changes nothing, or is processed under a configured id that is not empty, or has no handler
or no target to be asked about, and changes nothing either. -/
def Guarded : Prop := ∀ (env : Env) (req : Request) (b : Broker),
  ¬ (req.method = lit "GET" ∧ req.path = healthPath) →
    (∃ detail, credentials P cfg req = some (.denied detail)
      ∧ handle P cfg env req b = (.answer (errorResponse 401 detail), b))
    ∨ (∃ p, p ≠ [] ∧ (cfg.agentTokens.bind (·.get? p)).isSome
      ∧ credentials P cfg req = some (.agent p)
      ∧ Effect P cfg env req p b.stores (handle P cfg env req b).1
        (handle P cfg env req b).2.stores)
    ∨ (¬ Decided P req ∧ (handle P cfg env req b).2 = b
      ∧ ((handle P cfg env req b).1.status? = some 501
        ∨ ∃ e, (handle P cfg env req b).1 = .crash e))

/-- A server that has a mapping guards its requests when no token leads to the empty id. -/
theorem guarded_iff (h : cfg.agentTokens = some tokens) :
    Guarded P cfg ↔ ∀ t, tokens.invert.get? t ≠ some [] := by
  constructor
  · intro hg t ht
    have hauth : credentials P cfg (bearerPost t) = some (.agent []) :=
      congrArg some ((authenticate_eq_agent_iff h).2 ⟨t, presented_bearer P false rfl, ht⟩)
    have hpost : ¬ ((bearerPost t).method = lit "GET" ∧ (bearerPost t).path = healthPath) :=
      fun hget => (by decide : ¬ lit "POST" = lit "GET") hget.1
    rcases hg ⟨⟨0, 0, 0, 0, 0⟩, 0, ⟨[], []⟩, fun _ => .answer 204 []⟩ _ Broker.init hpost with
      ⟨detail, hd, -⟩ | ⟨p, hp, -, hc, -⟩ | ⟨hd, -⟩
    · rw [hauth] at hd
      cases hd
    · rw [hauth] at hc
      cases hc
      exact hp rfl
    · exact hd (.inr (.inl rfl))
  · intro hno env req b hhealth
    have heffect := handle_effect P cfg env req b
    by_cases hd : Decided P req
    · rcases credentials_of_decided cfg hd with ⟨p, hc⟩ | ⟨detail, hc⟩ <;> rw [hc] at heffect
      · obtain ⟨allow, hauth⟩ := authenticate_of_credentials hc
        obtain ⟨t, -, ht⟩ := (authenticate_eq_agent_iff h).1 hauth
        refine .inr (.inl ⟨p, ?_, ?_, hc, heffect⟩)
        · rintro rfl
          exact hno t ht
        · rw [h, Option.bind_some, Dict.get?_of_invert ht, Option.isSome_some]
      · exact .inl ⟨detail, hc, Prod.ext heffect.1 heffect.2⟩
    · rw [credentials_of_not_decided hd] at heffect
      obtain ⟨hb, ho⟩ := heffect
      refine .inr (.inr ⟨hd, hb, ?_⟩)
      rcases ho with h501 | he | hget
      · exact .inl h501
      · exact .inr he
      · exact absurd hget hhealth

/-- A broker configured for production guards its requests if and only if its mapping does not
have the empty id, or a later agent of it has the empty id's token. -/
theorem production_guarded_iff {host : Host} {vars : PyStr → Option PyStr} {c : BrokerConfig}
    {srv : BrokerServer} (hc : BrokerConfig.fromEnv P host vars = .ok c)
    (hprod : c.env ≠ lit "development") (hs : buildBroker host c = .ok srv) :
    Guarded P srv.config ↔ ∃ tokens, c.agentTokens = some tokens
      ∧ ∀ l₁ t l₂, tokens.entries = l₁ ++ ([], t) :: l₂ → t ∈ l₂.map Prod.snd := by
  obtain ⟨tokens, ht⟩ := tokens_of_fromEnv hc hprod
  rw [guarded_iff ((tokens_of_buildBroker hs).trans ht)]
  constructor
  · intro hno
    refine ⟨tokens, ht, fun l₁ t l₂ hl => ?_⟩
    by_contra hm
    exact hno t (Dict.get?_invert.2 ⟨l₁, l₂, hl, hm⟩)
  · rintro ⟨tokens', ht', hlast⟩ t hi
    obtain rfl := Option.some.inj (ht.symm.trans ht')
    obtain ⟨l₁, l₂, hl, hm⟩ := Dict.get?_invert.1 hi
    exact hm (hlast l₁ t l₂ hl)

theorem production_guarded_inline : ∃ c srv,
    BrokerConfig.fromEnv (plainPython []) (plainHost []) inlineVars = .ok c
      ∧ buildBroker (plainHost []) c = .ok srv ∧ Guarded (plainPython []) srv.config := by
  obtain ⟨c, srv, hc, hs, hp⟩ := configured_of_check (plainPython []) (plainHost []) inlineVars
    (fun r => r.1.env ≠ lit "development"
      ∧ r.1.agentTokens.any fun tokens => tokens.entries.all fun e => e.1 ≠ []) (by decide)
  obtain ⟨hprod, hany⟩ := of_decide_eq_true hp
  rcases ht : c.agentTokens with _ | tokens <;> rw [ht] at hany
  · cases hany
  · refine ⟨c, srv, hc, hs, (production_guarded_iff hc hprod hs).2 ⟨tokens, ht, ?_⟩⟩
    intro l₁ t l₂ hl
    have hnil := List.all_eq_true.1 hany ([], t) (by simp [hl])
    exact absurd rfl (of_decide_eq_true hnil)

/-- A token file that gives a token to the empty id. -/
def namelessTokens : Json := .obj [([], .str (lit "tok")), (lit "a", .str (lit "t"))]

def namelessPython : Python :=
  plainPython [(jsonText namelessTokens, namelessTokens), (jsonText mailboxPayload, mailboxPayload)]

def namelessHost : Host := plainHost [(lit "tokens.json", jsonText namelessTokens)]

def namelessVars : PyStr → Option PyStr :=
  productionVars (lit "ROBOTSIX_BROKER_AGENT_TOKENS_FILE") (lit "tokens.json")

/-- The broker after `a` has registered with its own token. -/
def namelessBroker (cfg : ServerConfig) : Broker :=
  (handle namelessPython cfg (instant 0)
    { postJson (lit "/agents") mailboxPayload with authorization := some (lit "Bearer t") }
    Broker.init).2

/-- Who has the nameless token deregisters `a`. -/
def namelessDelete : Request := ⟨lit "DELETE", lit "/agents/a", some (lit "Bearer tok"), none, []⟩

theorem production_nameless : ∃ c srv,
    BrokerConfig.fromEnv namelessPython namelessHost namelessVars = .ok c
      ∧ c.env ≠ lit "development" ∧ buildBroker namelessHost c = .ok srv
      ∧ Served namelessPython srv.config (namelessBroker srv.config)
      ∧ ((namelessBroker srv.config).stores.registry.get? (lit "a")).isSome
      ∧ credentials namelessPython srv.config namelessDelete = some (.agent [])
      ∧ (handle namelessPython srv.config (instant 1) namelessDelete
          (namelessBroker srv.config)).1.status? = some 204
      ∧ (handle namelessPython srv.config (instant 1) namelessDelete
          (namelessBroker srv.config)).2.stores.registry.get? (lit "a") = none := by
  obtain ⟨c, srv, hc, hs, hp⟩ := configured_of_check namelessPython namelessHost namelessVars
    (fun r => r.1.env ≠ lit "development"
      ∧ ((namelessBroker r.2.config).stores.registry.get? (lit "a")).isSome
      ∧ credentials namelessPython r.2.config namelessDelete = some (.agent [])
      ∧ (handle namelessPython r.2.config (instant 1) namelessDelete
          (namelessBroker r.2.config)).1.status? = some 204
      ∧ (handle namelessPython r.2.config (instant 1) namelessDelete
          (namelessBroker r.2.config)).2.stores.registry.get? (lit "a") = none) (by decide +kernel)
  obtain ⟨hprod, hreg, hauth, hstatus, hgone⟩ := of_decide_eq_true hp
  exact ⟨c, srv, hc, hprod, hs, ⟨_, .single (a := .request (instant 0) _) trivial rfl⟩, hreg, hauth,
    hstatus, hgone⟩

end AgentComm
