import AgentComm.Proofs.Takeover

/-!
# What gets onto the registry

The limits on an id, a host, a port, a scheme and a path are those of the register payload. A poll
that finds no mailbox registers its agent as well and checks nothing of its id, so every endpoint
is well formed for as long as no such poll comes under an id that is too long.
-/

namespace AgentComm

open Lib

/-- Within the limits of a register payload. -/
structure Endpoint.WellFormed (e : Endpoint) : Prop where
  named : e.agentId ≠ []
  short : e.agentId.length ≤ 255
  scheme : e.scheme = lit "http" ∨ e.scheme = lit "https"
  path : e.path.head? = some 47
  host : e.mailbox = false → 1 ≤ e.host.length ∧ e.host.length ≤ 253
  port : e.mailbox = false → 1 ≤ e.port ∧ e.port ≤ 65535

def Registry.WellFormed (r : Registry) : Prop := ∀ a e, r.get? a = some e → e.WellFormed

theorem Registry.WellFormed.empty : Registry.empty.WellFormed := by
  intro a e h
  cases h

/-! ### Payloads -/

theorem checkAgentId_bounds {v : Json} {a : PyStr} (h : checkAgentId v = .ok a) :
    a ≠ [] ∧ a.length ≤ 255 := by
  unfold checkAgentId at h
  split at h
  · split_ifs at h with hlen
    cases h
    exact ⟨by simp, by omega⟩
  · cases h

theorem checkHost_bounds {a host : PyStr} {v : Json} (h : checkHost a v = .ok host) :
    1 ≤ host.length ∧ host.length ≤ 253 := by
  unfold checkHost at h
  split at h
  · split_ifs at h with hlen
    cases h
    exact ⟨by simp, by omega⟩
  · cases h

theorem checkPort_bounds {a : PyStr} {v : Json} {port : ℤ} (h : checkPort a v = .ok port) :
    1 ≤ port ∧ port ≤ 65535 := by
  unfold checkPort at h
  split at h
  · split_ifs at h with hport
    cases h
    exact hport
  · cases h

theorem checkAddress_bounds {a host : PyStr} {v w : Json} {port : ℤ}
    (h : checkAddress false a v w = .ok (host, port)) :
    (1 ≤ host.length ∧ host.length ≤ 253) ∧ 1 ≤ port ∧ port ≤ 65535 := by
  obtain ⟨host', hhost, h⟩ := bind_eq_ok h
  obtain ⟨port', hport, h⟩ := bind_eq_ok h
  cases h
  exact ⟨checkHost_bounds hhost, checkPort_bounds hport⟩

theorem checkScheme_known {a s : PyStr} {v : Option Json} (h : checkScheme a v = .ok s) :
    s = lit "http" ∨ s = lit "https" := by
  unfold checkScheme at h
  split at h
  · cases h
    exact .inl rfl
  · split_ifs at h with hs
    cases h
    exact hs
  · cases h

theorem checkPath_absolute {a p : PyStr} {v : Option Json} (h : checkPath a v = .ok p) :
    p.head? = some 47 := by
  unfold checkPath at h
  split at h <;> cases h <;> rfl

theorem validateRegisterPayload_wellFormed {data : Fields} {p : PyStr} {r : Registration}
    (h : validateRegisterPayload data p = .ok r) : r.endpoint.WellFormed := by
  obtain ⟨a, ha, h⟩ := bind_eq_ok h
  obtain ⟨_, -, h⟩ := bind_eq_ok h
  obtain ⟨⟨host, port⟩, haddress, h⟩ := bind_eq_ok h
  obtain ⟨scheme, hscheme, h⟩ := bind_eq_ok h
  obtain ⟨path, hpath, h⟩ := bind_eq_ok h
  obtain ⟨_, -, h⟩ := bind_eq_ok h
  obtain ⟨_, -, h⟩ := bind_eq_ok h
  cases h
  have hbounds : (data.get (lit "mailbox")).truthy = false →
      (1 ≤ host.length ∧ host.length ≤ 253) ∧ 1 ≤ port ∧ port ≤ 65535 := by
    intro hbox
    rw [hbox] at haddress
    exact checkAddress_bounds haddress
  exact ⟨(checkAgentId_bounds ha).1, (checkAgentId_bounds ha).2, checkScheme_known hscheme,
    checkPath_absolute hpath, fun hbox => (hbounds hbox).1, fun hbox => (hbounds hbox).2⟩

theorem mailboxEndpoint_wellFormed_iff {a : PyStr} (hne : a ≠ []) :
    (Entry.mailboxEndpoint a).WellFormed ↔ a.length ≤ 255 := by
  refine ⟨fun h => h.short, fun h => ⟨hne, h, .inl rfl, rfl, fun hbox => ?_, fun hbox => ?_⟩⟩
  · cases hbox
  · cases hbox

/-! ### Requests and sweeps -/

variable {P : Python} {cfg : ServerConfig} {env : Env} {req : Request} {b : Broker}

/-- What a change of one agent's endpoint makes of a registry. -/
theorem Registry.WellFormed.change {s s' : Stores} {a : PyStr} (h : s.registry.WellFormed)
    (hother : ∀ x, x ≠ a → (s'.entry x).endpoint = (s.entry x).endpoint)
    (ha : ∀ e, (s'.entry a).endpoint = some e → e.WellFormed) : s'.registry.WellFormed := by
  intro x e he
  by_cases hx : x = a
  · subst hx
    exact ha e he
  · exact h x e ((hother x hx).symm.trans he)

theorem Registry.WellFormed.fetch {s : Stores} (h : s.registry.WellFormed) (a : PyStr) (now : ℚ) :
    ((s.pollHeartbeat a now).takeAll a).registry.WellFormed := by
  intro x e he
  refine h x e ?_
  have hkeep : (((s.pollHeartbeat a now).takeAll a).entry x).endpoint = (s.entry x).endpoint := by
    rw [entry_takeAll, Stores.entry_pollHeartbeat]
    split_ifs <;> rfl
  exact hkeep.symm.trans he

theorem Registry.WellFormed.autoRegister {s : Stores} {a : PyStr} (h : s.registry.WellFormed)
    (hne : a ≠ []) (hlen : a.length ≤ 255) (now : ℚ) :
    (autoRegisterStores cfg now a s).registry.WellFormed := by
  refine h.change (a := a) (fun x hx => ?_) fun e he => ?_
  · rw [entry_autoRegisterStores, if_neg (Ne.symm hx)]
  · rw [entry_autoRegisterStores, if_pos rfl] at he
    cases he
    exact (mailboxEndpoint_wellFormed_iff hne).2 hlen

theorem Registry.WellFormed.effect {p : PyStr} {s s' : Stores} {o : Outcome}
    (h : s.registry.WellFormed) (heffect : Effect P cfg env req p s o s')
    (hlong : ∀ query, req.method = lit "GET" →
      Url.urlsplit P req.path = .ok (defaultMessagePath, query) →
      s.mailboxes.ref? (pollId P p query) = none → (pollId P p query).length ≤ 255) :
    s'.registry.WellFormed := by
  cases heffect with
  | refused | raised | read | routed => exact h
  | enqueued => exact h
  | @registered _ _ _ r _ _ _ _ hr =>
    refine h.change (a := r.agentId) (fun x hx => ?_) fun e he => ?_
    · rw [entry_registerStores, if_neg (Ne.symm hx)]
    · rw [entry_registerStores, if_pos rfl] at he
      cases he
      exact validateRegisterPayload_wellFormed hr
  | @removed _ a =>
    refine h.change (a := a) (fun x hx => ?_) fun e he => ?_
    · rw [entry_removeStores, if_neg (Ne.symm hx)]
    · rw [entry_removeStores, if_pos rfl] at he
      cases he
  | polled => exact h.fetch _ _
  | autoRegistered hm hp ha hne hq =>
    subst ha
    exact (h.autoRegister hne (hlong _ hm hp hq) _).fetch _ _
  | halfPolled hm hp ha hne hq =>
    subst ha
    exact h.autoRegister hne (hlong _ hm hp hq) _

theorem Registry.WellFormed.sweep (h : b.stores.registry.WellFormed) (now : ℚ) :
    (sweepOnce cfg now b.stores).registry.WellFormed := by
  intro a e he
  have hentry := entry_sweepOnce cfg now b.stores a
  have he' : ((sweepOnce cfg now b.stores).entry a).endpoint = some e := he
  rw [hentry] at he'
  split at he'
  · unfold Entry.sweep at he'
    split at he'
    · split_ifs at he'
      · cases he'
      · exact h a e he'
    · exact h a e he'
  · exact h a e he'

variable (P cfg) in
/-- The request is a poll that the rate limit lets pass, that finds no mailbox for its agent and
that registers it under an id of more than 255 characters. -/
def RegistersLong (env : Env) (req : Request) (b : Broker) : Prop :=
  ∃ p query, req.method = lit "GET"
    ∧ Url.urlsplit P req.path = .ok (defaultMessagePath, query)
    ∧ credentials P cfg req = some (.agent p)
    ∧ (checkRateLimit cfg env.monotonic (rateKey p) b.rateBuckets).1 = true
    ∧ b.stores.mailboxes.ref? (pollId P p query) = none ∧ 255 < (pollId P p query).length

/-- A request to a well-formed registry leaves it so if and only if it does not register an agent
under too long an id. -/
theorem handle_wellFormed_iff (h : b.stores.registry.WellFormed) (env : Env) (req : Request) :
    (handle P cfg env req b).2.stores.registry.WellFormed ↔ ¬ RegistersLong P cfg env req b := by
  constructor
  · rintro hwell ⟨p, query, hm, hp, hc, hpass, hq, hlen⟩
    obtain ⟨b', hb, heq⟩ := handle_of_poll env b hm hp hc
    rw [heq, if_pos hpass] at hwell
    have hne : pollId P p query ≠ [] := by
      intro hnil
      rw [hnil] at hlen
      cases hlen
    rw [← hb] at hq
    have hshort := (hwell _ _ (endpoint_of_autoRegister hp rfl hne hq)).short
    exact absurd hlen (not_lt.2 hshort)
  · intro hno
    have hhandled := handle_effect P cfg env req b
    rcases hc : credentials P cfg req with _ | ⟨p⟩ | ⟨detail⟩ | ⟨e⟩ <;> rw [hc] at hhandled
    · rw [hhandled.1]
      exact h
    · by_cases hpoll : ∃ query, req.method = lit "GET"
          ∧ Url.urlsplit P req.path = .ok (defaultMessagePath, query)
          ∧ (checkRateLimit cfg env.monotonic (rateKey p) b.rateBuckets).1 = false
      · obtain ⟨query, hm, hp, hlimit⟩ := hpoll
        obtain ⟨b', hb, heq⟩ := handle_of_poll env b hm hp hc
        rw [heq, hlimit, if_neg Bool.false_ne_true, hb]
        exact h
      · refine h.effect hhandled fun query hm hp hq => ?_
        by_contra hlen
        have hpass : (checkRateLimit cfg env.monotonic (rateKey p) b.rateBuckets).1 = true := by
          by_contra hlimit
          exact hpoll ⟨query, hm, hp, Bool.eq_false_iff.2 hlimit⟩
        exact hno ⟨p, query, hm, hp, hc, hpass, hq, not_le.1 hlen⟩
    · rw [hhandled.2]
      exact h
    · rw [hhandled.2]
      exact h

variable (P cfg) in
/-- No request of a run registers an agent under too long an id. -/
def KeepsShort (b : Broker) : SerialAction → Prop
  | .request env req => ¬ RegistersLong P cfg env req b
  | .sweep _ => True

/-- Every endpoint on the registry is within the limits in every broker that is reached without a
poll registering an agent under an id of more than 255 characters, and the first such poll breaks
them. -/
theorem endpoints_well_formed {tr : List Outcome}
    (h : (serialLts P cfg).Run (KeepsShort P cfg) Broker.init tr b) :
    b.stores.registry.WellFormed ∧ ∀ env req,
      ((handle P cfg env req b).2.stores.registry.WellFormed
        ↔ ¬ RegistersLong P cfg env req b) := by
  have hwell : b.stores.registry.WellFormed := by
    refine h.invariant (I := fun _ b => b.stores.registry.WellFormed) Registry.WellFormed.empty ?_
    rintro tr b act b' es hb hkeep hs
    cases act with
    | request env req =>
      cases hs
      exact (handle_wellFormed_iff hb env req).2 hkeep
    | sweep now =>
      cases hs
      exact hb.sweep now
  exact ⟨hwell, handle_wellFormed_iff hwell⟩

theorem endpoints_well_formed_mailbox : mailboxBroker.stores.registry.WellFormed := by
  have hs : (serialLts mailboxPython .defaults).step Broker.init
      (.request (instant 0) (postJson (lit "/agents") mailboxPayload))
        = some (mailboxBroker, _) := rfl
  refine (endpoints_well_formed (.single ?_ hs)).1
  rintro ⟨_, _, hm, -⟩
  exact absurd hm (by decide)

def longId : PyStr := List.replicate 256 97

theorem length_longId : longId.length = 256 := List.length_replicate

def longPoll : Request := ⟨lit "GET", lit "/messages?agent_id=" ++ longId, none, none, []⟩

/-- One poll registers an id of 256 characters. -/
theorem long_id_registered : ∃ b e, Served (plainPython []) .defaults b
    ∧ b.stores.registry.get? longId = some e ∧ e.agentId.length = 256 ∧ ¬ e.WellFormed := by
  refine ⟨_, Entry.mailboxEndpoint longId,
    ⟨_, .single (a := .request (instant 0) longPoll) trivial rfl⟩, ?_, length_longId,
    fun h => ?_⟩
  · decide +kernel
  · have hshort : longId.length ≤ 255 := h.short
    rw [length_longId] at hshort
    omega

end AgentComm
