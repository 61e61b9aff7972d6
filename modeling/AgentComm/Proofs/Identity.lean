import AgentComm.Proofs.Admission
import AgentComm.Proofs.Authentication
import AgentComm.Proofs.Ledger
import AgentComm.Proofs.Texts
import AgentComm.Transport.Requests

/-!
# An id in a path and in a query

A client puts an id into the path of a DELETE as it is. What `http.client` does not refuse arrives,
and the broker takes the id up to the first question mark or hash of it. In a query an id arrives
as what it is.
-/

namespace AgentComm

open Lib

/-! ### What `http.client` sends -/

/-- Visible ASCII. -/
def Visible (s : PyStr) : Prop := ∀ c ∈ s, 33 ≤ c ∧ c ≤ 126

theorem putrequest_ok {url url' : PyStr} :
    putrequest url = .ok url' ↔ url' = url ∧ Visible url := by
  have hany : ∀ p : ℕ → Bool, url.any p = true ↔ ∃ c ∈ url, p c = true := fun p => List.any_eq_true
  unfold putrequest
  split_ifs with hblank hwide
  · obtain ⟨c, hc, hp⟩ := (hany _).1 hblank
    simp only [Bool.or_eq_true, decide_eq_true_eq] at hp
    refine iff_of_false (fun h => by cases h) fun h => ?_
    have := h.2 c hc
    omega
  · obtain ⟨c, hc, hp⟩ := (hany _).1 hwide
    simp only [decide_eq_true_eq] at hp
    refine iff_of_false (fun h => by cases h) fun h => ?_
    have := h.2 c hc
    omega
  · have hvisible : Visible url := by
      intro c hc
      have hb : ¬ (c ≤ 32 || c = 127) = true := fun h => hblank ((hany _).2 ⟨c, hc, h⟩)
      have hw : ¬ 127 < c := fun h => hwide ((hany _).2 ⟨c, hc, decide_eq_true h⟩)
      simp only [Bool.or_eq_true, decide_eq_true_eq, not_or] at hb
      omega
    simp [hvisible, eq_comm]

theorem visible_append {s t : PyStr} : Visible (s ++ t) ↔ Visible s ∧ Visible t := by
  unfold Visible
  refine ⟨fun h => ⟨fun c hc => h c (List.mem_append_left t hc),
    fun c hc => h c (List.mem_append_right s hc)⟩, fun h c hc => ?_⟩
  exact (List.mem_append.1 hc).elim (h.1 c) (h.2 c)

/-! ### What `urlsplit` makes of it -/

variable {P : Python}

/-- A target whose path has no second slash at its start is split at its first hash, then at the
first question mark. -/
theorem urlsplit_path (P : Python) {c : ℕ} (hc : 47 < c) (url : PyStr) :
    Url.urlsplit P (47 :: c :: url)
      = let s := (splitOnce 35 (47 :: c :: url.filter fun c => !(c = 9 || c = 10 || c = 13))).1
        .ok ((splitOnce 63 s).1, (splitOnce 63 s).2.getD []) := by
  have hfilter : (47 :: c :: url).filter (fun c => !(c = 9 || c = 10 || c = 13))
      = 47 :: c :: url.filter fun c => !(c = 9 || c = 10 || c = 13) := by
    rw [List.filter_cons_of_pos (by decide), List.filter_cons_of_pos]
    simp only [Bool.not_eq_true', Bool.or_eq_false_iff, decide_eq_false_iff_not]
    omega
  have hdrop : (47 :: c :: url).dropWhile (· ≤ 32) = 47 :: c :: url :=
    List.dropWhile_cons_of_neg (by decide)
  simp only [Url.urlsplit, hdrop, hfilter]
  generalize url.filter (fun c => !(c = 9 || c = 10 || c = 13)) = url
  have hscheme : Url.dropScheme (47 :: c :: url) = 47 :: c :: url := by
    unfold Url.dropScheme
    rcases hs : splitOnce 58 (47 :: c :: url) with ⟨_ | ⟨x, s⟩, _ | rest⟩
    · rfl
    · rfl
    · rfl
    · have hx : x = 47 := by
        have hhead := congrArg (fun r => r.1.head?) hs
        simp only [splitOnce, if_neg (show ¬ (47 : ℕ) = 58 by decide)] at hhead
        exact (Option.some.inj hhead).symm
      subst hx
      rfl
  rw [hscheme]
  split
  · rename_i heq
    cases heq
    exact absurd hc (lt_irrefl _)
  · rfl

variable (P) in
theorem urlsplit_visible (c : ℕ) (url : PyStr) (h : Visible (47 :: c :: url)) (hc : 47 < c) :
    Url.urlsplit P (47 :: c :: url)
      = .ok ((splitOnce 63 (splitOnce 35 (47 :: c :: url)).1).1,
          (splitOnce 63 (splitOnce 35 (47 :: c :: url)).1).2.getD []) := by
  have hfilter : url.filter (fun c => !(c = 9 || c = 10 || c = 13)) = url := by
    refine List.filter_eq_self.2 fun x hx => ?_
    have := h x (List.mem_cons_of_mem _ (List.mem_cons_of_mem _ hx))
    simp only [Bool.not_eq_true', Bool.or_eq_false_iff, decide_eq_false_iff_not]
    omega
  rw [urlsplit_path P hc, hfilter]

/-- What the broker takes for the id in a path: the id up to its first hash, and of that up to
the first question mark. -/
def pathId (agentId : PyStr) : PyStr := (splitOnce 63 (splitOnce 35 agentId).1).1

theorem pathId_eq_self {a : PyStr} : pathId a = a ↔ 35 ∉ a ∧ 63 ∉ a := by
  unfold pathId
  constructor
  · intro h
    have hhash := splitOnce_prefix 35 a
    have hquestion := splitOnce_prefix 63 (splitOnce 35 a).1
    rw [h] at hquestion
    have hcut : (splitOnce 35 a).1 = a :=
      hhash.eq_of_length (le_antisymm hhash.length_le hquestion.length_le)
    rw [hcut] at h
    exact ⟨splitOnce_self.1 hcut, splitOnce_self.1 h⟩
  · rintro ⟨hhash, hquestion⟩
    rw [splitOnce_self.2 hhash, splitOnce_self.2 hquestion]

theorem visible_agentsPrefix : Visible agentsPrefix := by
  unfold Visible
  decide

theorem parseAgentIdFromPath_visible {a : PyStr} (h : Visible a) :
    parseAgentIdFromPath P (agentsPrefix ++ a) = .ok (pathId a) := by
  have hsplit := urlsplit_visible P 97 (lit "gents/" ++ a)
    (visible_append.2 ⟨visible_agentsPrefix, h⟩) (by decide)
  have hhash : splitOnce 35 (agentsPrefix ++ a)
      = (agentsPrefix ++ (splitOnce 35 a).1, (splitOnce 35 a).2) :=
    splitOnce_append a (by decide)
  have hquestion : splitOnce 63 (agentsPrefix ++ (splitOnce 35 a).1)
      = (agentsPrefix ++ pathId a, (splitOnce 63 (splitOnce 35 a).1).2) :=
    splitOnce_append _ (by decide)
  change Url.urlsplit P (agentsPrefix ++ a)
    = .ok ((splitOnce 63 (splitOnce 35 (agentsPrefix ++ a)).1).1,
      (splitOnce 63 (splitOnce 35 (agentsPrefix ++ a)).1).2.getD []) at hsplit
  rw [hhash, hquestion] at hsplit
  simp only [parseAgentIdFromPath, hsplit, Except.map, List.isPrefixOf_iff_prefix,
    List.prefix_append, if_true, List.drop_left]

/-! ### A deregistration -/

variable {cfg : ServerConfig} {env : Env} {req : Request} {b : Broker} {a : PyStr}

variable (cfg env b) in
/-- The rate limit lets one more request without a name pass. -/
def LetsPass : Prop :=
  (checkRateLimit cfg env.monotonic (rateKey []) b.rateBuckets).1 = true

variable (P env req b) in
/-- Without authentication a DELETE under the agents' path is a deregistration, or is turned away
by the rate limit. -/
theorem handle_delete (hcfg : cfg.agentTokens = none) (hm : req.method = lit "DELETE")
    (hp : agentsPrefix <+: req.path) : ∃ b' : Broker, b'.stores = b.stores
      ∧ (LetsPass cfg env b → handle P cfg env req b = handleDeregister P env req [] b')
      ∧ (¬ LetsPass cfg env b → handle P cfg env req b = (.answer rateLimitedResponse, b')) := by
  have hhandle : handle P cfg env req b
      = withAgent P cfg env false req b (serveDelete P env req) := by
    rw [handle, if_neg (by rw [hm]; decide), if_neg (by rw [hm]; decide), if_pos hm, doDELETE]
  simp only [hhandle, withAgent, authenticate, if_pos hcfg, serveDelete,
    List.isPrefixOf_iff_prefix, hp, if_true]
  exact ⟨{ b with rateBuckets := (checkRateLimit cfg env.monotonic (rateKey []) b.rateBuckets).2 },
    rfl, fun hpass => if_pos hpass, fun hpass => if_neg hpass⟩

/-- What a deregistration does to an entry, when its path names `x`. -/
theorem entry_handleDeregister {x : PyStr} (hx : parseAgentIdFromPath P req.path = .ok x)
    (y : PyStr) : (handleDeregister P env req [] b).2.stores.entry y
      = if x = [] then b.stores.entry y else if x = y then .blank else b.stores.entry y := by
  by_cases hnil : x = []
  · simp only [handleDeregister, hx, if_pos hnil, answerThenLog_stores]
  · have hname : ¬ (([] : PyStr) ≠ [] ∧ x ≠ []) := fun h => h.1 rfl
    simp only [handleDeregister, hx, if_neg hnil, if_neg hname, logThenAnswer_stores,
      entry_removeStores]

variable (P cfg env b) in
/-- What `unregister` sends is the deregistration of that agent and of no other. -/
def Deregisters (agentToken : Option PyStr) (a : PyStr) : Prop :=
  ∃ req, BrokeredRegistry.unregister agentToken a = .ok req
    ∧ (handle P cfg env req b).2.stores.entry a = .blank
    ∧ ∀ x, x ≠ a → (handle P cfg env req b).2.stores.entry x = b.stores.entry x

/-- It goes through a path as it is: visible ASCII without a hash or a question mark. -/
def PathSafe (a : PyStr) : Prop := Visible a ∧ 35 ∉ a ∧ 63 ∉ a

theorem unregister_ok {agentToken : Option PyStr}
    (h : BrokeredRegistry.unregister agentToken a = .ok req) :
    Visible a ∧ req = ⟨lit "DELETE", agentsPrefix ++ a, bearerHeader agentToken, none, []⟩ := by
  unfold BrokeredRegistry.unregister at h
  rcases hput : putrequest (lit "/agents/" ++ a) with e | path <;> rw [hput] at h <;> cases h
  obtain ⟨rfl, hvisible⟩ := putrequest_ok.1 hput
  exact ⟨(visible_append.1 hvisible).2, rfl⟩

theorem unregister_of_visible (agentToken : Option PyStr) (h : Visible a) :
    BrokeredRegistry.unregister agentToken a
      = .ok ⟨lit "DELETE", agentsPrefix ++ a, bearerHeader agentToken, none, []⟩ := by
  have hput : putrequest (lit "/agents/" ++ a) = .ok (lit "/agents/" ++ a) :=
    putrequest_ok.2 ⟨rfl, visible_append.2 ⟨visible_agentsPrefix, h⟩⟩
  simp only [BrokeredRegistry.unregister, hput]
  rfl

theorem deregisters_of_pathSafe (hcfg : cfg.agentTokens = none) (agentToken : Option PyStr)
    (hne : a ≠ []) (h : PathSafe a) (hpass : LetsPass cfg env b) :
    Deregisters P cfg env b agentToken a := by
  refine ⟨_, unregister_of_visible agentToken h.1, ?_⟩
  obtain ⟨b', hb, hserved, hlimited⟩ := handle_delete P env
    ⟨lit "DELETE", agentsPrefix ++ a, bearerHeader agentToken, none, []⟩ b hcfg rfl
    (List.prefix_append _ _)
  have hparse := parseAgentIdFromPath_visible (P := P) h.1
  rw [pathId_eq_self.2 h.2] at hparse
  rw [hserved hpass]
  refine ⟨?_, fun x hx => ?_⟩
  · rw [entry_handleDeregister hparse, if_neg hne, if_pos rfl]
  · rw [entry_handleDeregister hparse, if_neg hne, if_neg (Ne.symm hx), hb]

/-- The deregistration of a registered agent comes to that only for an id that is safe, and when
it is let in. -/
theorem pathSafe_of_deregisters (hcfg : cfg.agentTokens = none) {agentToken : Option PyStr}
    (hreg : (b.stores.entry a).endpoint.isSome) (h : Deregisters P cfg env b agentToken a) :
    PathSafe a ∧ LetsPass cfg env b := by
  obtain ⟨req, hreq, hgone, -⟩ := h
  obtain ⟨hvisible, rfl⟩ := unregister_ok hreq
  obtain ⟨b', hb, hserved, hlimited⟩ := handle_delete P env
    ⟨lit "DELETE", agentsPrefix ++ a, bearerHeader agentToken, none, []⟩ b hcfg rfl
    (List.prefix_append _ _)
  by_cases hpass : LetsPass cfg env b
  · rw [hserved hpass, entry_handleDeregister (parseAgentIdFromPath_visible hvisible), hb] at hgone
    refine ⟨⟨hvisible, pathId_eq_self.1 ?_⟩, hpass⟩
    split_ifs at hgone with hnil heqa
    · rw [hgone] at hreg
      cases hreg
    · exact heqa
    · rw [hgone] at hreg
      cases hreg
  · rw [hlimited hpass, hb] at hgone
    rw [hgone] at hreg
    cases hreg

/-! ### A poll -/

variable (P) in
/-- `parse_qs` reads back what `urlencode` writes for the pairs, which is visible and has no
hash. -/
def Quoted (urlencode : List (PyStr × PyStr) → Except Exc PyStr) (pairs : List (PyStr × PyStr)) :
    Prop :=
  ∃ query, urlencode pairs = .ok query ∧ P.parseQsl query = pairs ∧ Visible query ∧ 35 ∉ query

variable (P) in
/-- What `receive` sends is a poll of that agent. -/
def PollsAs (urlencode : List (PyStr × PyStr) → Except Exc PyStr) (agentToken : Option PyStr)
    (a wait : PyStr) : Prop :=
  ∃ req query, NetworkedBrokerTransport.poll urlencode agentToken a wait = .ok req
    ∧ req.method = lit "GET" ∧ Url.urlsplit P req.path = .ok (defaultMessagePath, query)
    ∧ pollId P [] query = a

theorem urlsplit_messages {query : PyStr} (hvisible : Visible query) (hhash : 35 ∉ query) :
    Url.urlsplit P (defaultMessagePath ++ lit "?" ++ query) = .ok (defaultMessagePath, query) := by
  have hall : Visible (defaultMessagePath ++ lit "?" ++ query) :=
    visible_append.2 ⟨by unfold Visible; decide, hvisible⟩
  have hnone : (splitOnce 35 (defaultMessagePath ++ lit "?" ++ query)).1
      = defaultMessagePath ++ lit "?" ++ query := by
    refine splitOnce_self.2 fun h => ?_
    exact (List.mem_append.1 h).elim (by decide) hhash
  have hquestion : splitOnce 63 (defaultMessagePath ++ lit "?" ++ query)
      = (defaultMessagePath, some query) := by
    rw [List.append_assoc]
    exact splitOnce_sep (by decide) query
  refine (urlsplit_visible P 109 (lit "essages?" ++ query) hall (by decide)).trans ?_
  change Except.ok ((splitOnce 63 (splitOnce 35 (defaultMessagePath ++ lit "?" ++ query)).1).1,
    (splitOnce 63 (splitOnce 35 (defaultMessagePath ++ lit "?" ++ query)).1).2.getD []) = _
  rw [hnone, hquestion]
  rfl

theorem pollsAs_of_quoted {urlencode : List (PyStr × PyStr) → Except Exc PyStr}
    (agentToken : Option PyStr) {wait : PyStr}
    (h : Quoted P urlencode [(lit "agent_id", a), (lit "wait", wait)]) :
    PollsAs P urlencode agentToken a wait := by
  obtain ⟨query, hurl, hparse, hvisible, hhash⟩ := h
  have hput : putrequest (defaultMessagePath ++ lit "?" ++ query)
      = .ok (defaultMessagePath ++ lit "?" ++ query) :=
    putrequest_ok.2 ⟨rfl, visible_append.2 ⟨by unfold Visible; decide, hvisible⟩⟩
  refine ⟨⟨lit "GET", defaultMessagePath ++ lit "?" ++ query, bearerHeader agentToken, none, []⟩,
    query, ?_, rfl, urlsplit_messages hvisible hhash, ?_⟩
  · simp only [NetworkedBrokerTransport.poll, hurl, hput, bind, Except.bind]
    rfl
  · simp only [pollId, Url.queryGet, hparse]
    rfl

/-! ### Agreement -/

theorem encodable_of_visible (h : Visible a) : encodable a = true := by
  refine List.all_eq_true.2 fun c hc => ?_
  have := h c hc
  simp only [Bool.not_eq_true', Bool.and_eq_false_iff, decide_eq_false_iff_not]
  omega

/-- Without authentication an id that goes through a path as it is means the same agent to the
client and to the broker. After a registration `unregister` removes that agent and no other, and
`receive` polls as it, if and only if the id is of that kind and the rate limit lets the
deregistration pass. -/
theorem identity_agreement_iff (hcfg : cfg.agentTokens = none) {data : Fields} {r : Registration}
    (hr : validateRegisterPayload data [] = .ok r)
    {urlencode : List (PyStr × PyStr) → Except Exc PyStr} {wait : PyStr}
    (hquoted : encodable r.agentId = true →
      Quoted P urlencode [(lit "agent_id", r.agentId), (lit "wait", wait)])
    (agentToken : Option PyStr) :
    (∀ env b, PathSafe r.agentId → LetsPass cfg env b →
      Deregisters P cfg env b agentToken r.agentId
        ∧ PollsAs P urlencode agentToken r.agentId wait)
    ∧ ∀ env env' b b', b' = (acceptRegistration cfg env b r).2 →
      ((Deregisters P cfg env' b' agentToken r.agentId
        ∧ PollsAs P urlencode agentToken r.agentId wait)
        ↔ PathSafe r.agentId ∧ LetsPass cfg env' b') := by
  have hne : r.agentId ≠ [] := (checkAgentId_bounds (validateRegisterPayload_agentId hr).1).1
  have hgood : ∀ env b, PathSafe r.agentId → LetsPass cfg env b →
      Deregisters P cfg env b agentToken r.agentId
        ∧ PollsAs P urlencode agentToken r.agentId wait := fun env b hsafe hpass =>
    ⟨deregisters_of_pathSafe hcfg agentToken hne hsafe hpass,
      pollsAs_of_quoted agentToken (hquoted (encodable_of_visible hsafe.1))⟩
  refine ⟨hgood, fun env env' b b' hb' => ⟨fun h => ?_, fun h => hgood env' b' h.1 h.2⟩⟩
  refine pathSafe_of_deregisters hcfg ?_ h.1
  rw [hb', acceptRegistration, logThenAnswer_stores, entry_registerStores, if_pos rfl]
  rfl

/-- `urlencode` of texts that have nothing to quote. -/
def plainUrlencode : List (PyStr × PyStr) → Except Exc PyStr
  | [] => .ok []
  | [e] => .ok (e.1 ++ lit "=" ++ e.2)
  | e :: es => (plainUrlencode es).map fun rest => e.1 ++ lit "=" ++ e.2 ++ lit "&" ++ rest

def mailboxRegistration (a : PyStr) : Registration := ⟨Entry.mailboxEndpoint a, [], none⟩

theorem identity_agreement_plain : ∃ b,
    b = (acceptRegistration .defaults (instant 0) Broker.init (mailboxRegistration (lit "a"))).2
      ∧ Deregisters (plainPython []) .defaults (instant 1) b none (lit "a")
      ∧ PollsAs (plainPython []) plainUrlencode none (lit "a") (lit "5") := by
  have hquoted : Quoted (plainPython []) plainUrlencode
      [(lit "agent_id", lit "a"), (lit "wait", lit "5")] :=
    ⟨lit "agent_id=a&wait=5", rfl, by decide, by unfold Visible; decide, by decide⟩
  have hcfg : ServerConfig.defaults.agentTokens = none := rfl
  have hr : validateRegisterPayload (mailboxFields (lit "a")) []
      = .ok (mailboxRegistration (lit "a")) := rfl
  exact ⟨_, rfl, ((identity_agreement_iff hcfg hr (fun _ => hquoted) none).2
    (instant 0) (instant 1) Broker.init _ rfl).2
      ⟨⟨by unfold Visible; decide, by decide, by decide⟩, rfl⟩⟩

/-- Two agents, of which one has the other's id up to a question mark. -/
def lookalikePayload (a : PyStr) : Json := .obj (mailboxFields a)

def lookalikePython : Python :=
  plainPython [(jsonText (lookalikePayload (lit "a")), lookalikePayload (lit "a")),
    (jsonText (lookalikePayload (lit "a?b")), lookalikePayload (lit "a?b"))]

def registerLookalike (a : PyStr) (b : Broker) : Broker :=
  (handle lookalikePython .defaults (instant 0) (postJson (lit "/agents") (lookalikePayload a)) b).2

/-- The deregistration of that one removes the other. -/
theorem lookalike_removed : ∃ b req, Served lookalikePython .defaults b
    ∧ b.members (lit "a") = true ∧ b.members (lit "a?b") = true
    ∧ BrokeredRegistry.unregister none (lit "a?b") = .ok req
    ∧ (handle lookalikePython .defaults (instant 1) req b).2.members (lit "a") = false
    ∧ (handle lookalikePython .defaults (instant 1) req b).2.members (lit "a?b") = true := by
  refine ⟨registerLookalike (lit "a?b") (registerLookalike (lit "a") Broker.init), _,
    ⟨_, (Lts.Run.single (a := .request (instant 0) (postJson (lit "/agents")
      (lookalikePayload (lit "a")))) trivial rfl).snoc (a := .request (instant 0)
        (postJson (lit "/agents") (lookalikePayload (lit "a?b")))) trivial rfl⟩,
    ?_, ?_, unregister_of_visible none (by unfold Visible; decide), ?_, ?_⟩
  all_goals decide +kernel

end AgentComm
