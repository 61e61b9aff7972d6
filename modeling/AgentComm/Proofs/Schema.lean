import AgentComm.Proofs.Authentication
import AgentComm.Proofs.BodyLimit

/-!
# The schema of a registration

What a payload has to say to be registered, field by field, stated apart from the checks that are
made of it. The checks take a boolean for a number, as Python does; JSON does not.
-/

namespace AgentComm

open Lib

variable {P : Python} {cfg : ServerConfig} {env : Env} {req : Request} {b : Broker}

/-- The value of a JSON integer. -/
def Json.integer? : Json → Option ℤ
  | .int n => some n
  | _ => none

/-- The field is missing, or its value is such. -/
def Fields.Optional (data : Fields) (name : PyStr) (ok : Json → Prop) : Prop :=
  ∀ v, Pairs.get? name data = some v → ok v

/-- The object is a registration that `p` may make, integers being the values that `number`
says. -/
structure Registrable (number : Json → Option ℤ) (p : PyStr) (data : Fields) : Prop where
  agentId : ∃ a, data.get (lit "agent_id") = .str a ∧ a ≠ [] ∧ a.length ≤ 255 ∧ (p ≠ [] → a = p)
  host : (data.get (lit "mailbox")).truthy = false →
    ∃ h, data.get (lit "host") = .str h ∧ 1 ≤ h.length ∧ h.length ≤ 253
  port : (data.get (lit "mailbox")).truthy = false →
    ∃ n, number (data.get (lit "port")) = some n ∧ 1 ≤ n ∧ n ≤ 65535
  scheme : data.Optional (lit "scheme") fun v => v = .str (lit "http") ∨ v = .str (lit "https")
  path : data.Optional (lit "path") fun v => ∃ s, v = .str (47 :: s)
  capabilities : data.Optional (lit "capabilities") fun v => ∃ caps, v = .obj caps
  ttlSeconds : data.Optional (lit "ttl_seconds") fun v => ∃ n, number v = some n ∧ 0 ≤ n

/-- A registration is one also where booleans are numbers. -/
theorem Registrable.boolean {p : PyStr} {data : Fields} (h : Registrable Json.integer? p data) :
    Registrable Json.asInt? p data := by
  have hint : ∀ {v : Json} {n : ℤ}, v.integer? = some n → v.asInt? = some n := by
    intro v n hv
    cases v <;> first | exact hv | cases hv
  refine ⟨h.agentId, h.host, fun hm => ?_, h.scheme, h.path, h.capabilities, fun v hv => ?_⟩
  · obtain ⟨n, hn, hrange⟩ := h.port hm
    exact ⟨n, hint hn, hrange⟩
  · obtain ⟨n, hn, hrange⟩ := h.ttlSeconds v hv
    exact ⟨n, hint hn, hrange⟩

/-! ### The checks and the schema -/

theorem checkAgentId_iff {v : Json} {a : PyStr} :
    checkAgentId v = .ok a ↔ v = .str a ∧ a ≠ [] ∧ a.length ≤ 255 := by
  unfold checkAgentId
  split
  · rename_i c s
    split_ifs with hlen
    · simp only [Json.str.injEq, false_iff, not_and, not_le]
      rintro rfl -
      exact hlen
    · simp only [Except.ok.injEq, Json.str.injEq]
      refine ⟨?_, fun h => h.1⟩
      rintro rfl
      exact ⟨rfl, by simp, not_lt.1 hlen⟩
  · rename_i hno
    simp only [reduceCtorEq, false_iff, not_and]
    rintro rfl hne -
    rcases a with _ | ⟨c, s⟩
    · exact hne rfl
    · exact hno c s rfl

theorem checkHost_iff {a : PyStr} {v : Json} : (∃ h, checkHost a v = .ok h)
    ↔ ∃ h, v = .str h ∧ 1 ≤ h.length ∧ h.length ≤ 253 := by
  unfold checkHost
  split
  · rename_i c s
    split_ifs with hlen
    · simp only [exists_false, Json.str.injEq, false_iff, not_exists, not_and, not_le]
      rintro h rfl -
      exact hlen
    · exact iff_of_true ⟨_, rfl⟩ ⟨_, rfl, by simp, not_lt.1 hlen⟩
  · rename_i hno
    simp only [reduceCtorEq, exists_false, false_iff, not_exists, not_and]
    rintro h rfl hone -
    rcases h with _ | ⟨c, s⟩
    · simp at hone
    · exact hno c s rfl

theorem checkPort_iff {a : PyStr} {v : Json} : (∃ n, checkPort a v = .ok n)
    ↔ ∃ n, v.asInt? = some n ∧ 1 ≤ n ∧ n ≤ 65535 := by
  unfold checkPort
  rcases v.asInt? with _ | n
  · simp
  · simp only [Option.some.injEq, exists_eq_left']
    split_ifs with h
    · exact iff_of_true ⟨_, rfl⟩ h
    · exact iff_of_false (by simp) h

theorem checkAddress_iff {mailbox : Bool} {a : PyStr} {host port : Json} :
    (∃ x, checkAddress mailbox a host port = .ok x) ↔ (mailbox = false →
      ∃ h, host = .str h ∧ 1 ≤ h.length ∧ h.length ≤ 253)
      ∧ (mailbox = false → ∃ n, port.asInt? = some n ∧ 1 ≤ n ∧ n ≤ 65535) := by
  rcases mailbox with _ | _
  · rw [← checkHost_iff (a := a), ← checkPort_iff (a := a)]
    simp only [checkAddress, Bool.false_eq_true, ↓reduceIte, bind_ok_iff, forall_true_left]
    constructor
    · rintro ⟨h, hh, n, hn, -⟩
      exact ⟨⟨h, hh⟩, n, hn⟩
    · rintro ⟨⟨h, hh⟩, n, hn⟩
      exact ⟨h, hh, n, hn, _, rfl⟩
  · simp [checkAddress]

theorem checkScheme_iff {a name : PyStr} {data : Fields} :
    (∃ s, checkScheme a (Pairs.get? name data) = .ok s)
      ↔ data.Optional name fun v => v = .str (lit "http") ∨ v = .str (lit "https") := by
  unfold Fields.Optional checkScheme
  generalize Pairs.get? name data = field
  split
  · simp
  · simp only [Option.some.injEq, forall_eq', Json.str.injEq]
    split_ifs with h
    · exact iff_of_true ⟨_, rfl⟩ h
    · exact iff_of_false (by simp) h
  · rename_i hno
    simp only [reduceCtorEq, exists_false, Option.some.injEq, forall_eq', false_iff, not_or]
    exact ⟨hno _, hno _⟩

theorem checkPath_iff {a name : PyStr} {data : Fields} :
    (∃ s, checkPath a (Pairs.get? name data) = .ok s)
      ↔ data.Optional name fun v => ∃ s, v = .str (47 :: s) := by
  unfold Fields.Optional checkPath
  generalize Pairs.get? name data = field
  split
  · simp
  · simp
  · rename_i hno
    simpa using hno

theorem checkCapabilities_iff {a name : PyStr} {data : Fields} :
    (∃ caps, checkCapabilities a (Pairs.get? name data) = .ok caps)
      ↔ data.Optional name fun v => ∃ caps, v = .obj caps := by
  unfold Fields.Optional checkCapabilities
  generalize Pairs.get? name data = field
  split
  · simp
  · simp
  · rename_i hno
    simpa using hno

theorem checkTtl_iff {a name : PyStr} {data : Fields} :
    (∃ t, checkTtl a (Pairs.get? name data) = .ok t)
      ↔ data.Optional name fun v => ∃ n, v.asInt? = some n ∧ 0 ≤ n := by
  unfold Fields.Optional checkTtl
  rcases Pairs.get? name data with _ | v
  · simp
  simp only [Option.some.injEq, forall_eq']
  rcases v.asInt? with _ | n
  · simp
  · simp only [Option.some.injEq, exists_eq_left']
    split_ifs with h
    · exact iff_of_false (by simp) (not_le.2 h)
    · exact iff_of_true ⟨_, rfl⟩ (not_lt.1 h)

/-- The checks accept what meets the schema with a boolean for a number. -/
theorem validateRegisterPayload_accepts {data : Fields} {p : PyStr} :
    (∃ r, validateRegisterPayload data p = .ok r) ↔ Registrable Json.asInt? p data := by
  simp only [validateRegisterPayload, bind_ok_iff]
  constructor
  · rintro ⟨a, ha, _, hid, x, hx, s, hs, t, ht, caps, hcaps, ttl, httl, -⟩
    obtain ⟨hv, hne, hlen⟩ := checkAgentId_iff.1 ha
    obtain ⟨hhost, hport⟩ := checkAddress_iff.1 ⟨x, hx⟩
    exact ⟨⟨a, hv, hne, hlen, fun hp => (checkIdentity_eq_ok.1 hid).resolve_left hp⟩, hhost, hport,
      checkScheme_iff.1 ⟨s, hs⟩, checkPath_iff.1 ⟨t, ht⟩, checkCapabilities_iff.1 ⟨caps, hcaps⟩,
      checkTtl_iff.1 ⟨ttl, httl⟩⟩
  · rintro ⟨⟨a, hv, hne, hlen, hid⟩, hhost, hport, hs, ht, hcaps, httl⟩
    have hidentity : checkIdentity p a = .ok () :=
      checkIdentity_eq_ok.2 ((eq_or_ne p []).imp_right hid)
    obtain ⟨x, hx⟩ := (checkAddress_iff (a := a)).2 ⟨hhost, hport⟩
    obtain ⟨s, hs⟩ := (checkScheme_iff (a := a)).2 hs
    obtain ⟨t, ht⟩ := (checkPath_iff (a := a)).2 ht
    obtain ⟨caps, hcaps⟩ := (checkCapabilities_iff (a := a)).2 hcaps
    obtain ⟨ttl, httl⟩ := (checkTtl_iff (a := a)).2 httl
    exact ⟨a, checkAgentId_iff.2 ⟨hv, hne, hlen⟩, (), hidentity, x, hx, s, hs, t, ht, caps, hcaps,
      ttl, httl, _, rfl⟩

/-- The checks turn a payload away with one of two statuses. -/
theorem validateRegisterPayload_status {data : Fields} {p : PyStr} {r : Rejection}
    (h : validateRegisterPayload data p = .error r) : r.status = 400 ∨ r.status = 403 := by
  have hall := h
  rcases bind_eq_error h with h | ⟨a, ha, h⟩
  · unfold checkAgentId at h
    split at h
    · split_ifs at h
      cases h
      exact .inl rfl
    · cases h
      exact .inl rfl
  rcases bind_eq_error h with h | ⟨_, hid, -⟩
  · unfold checkIdentity at h
    split_ifs at h
    cases h
    exact .inr rfl
  · obtain ⟨detail, -, rfl⟩ := validateRegisterPayload_bad ha hid hall
    exact .inl rfl

/-! ### The answer to a registration -/

/-- The registration was accepted. -/
def Outcome.Accepted (o : Outcome) : Prop := o.status? = some 200 ∨ o.status? = some 201

section Answer

variable {p : PyStr}

variable (env b) in
theorem reject_turned {r : Rejection} (h : r.status = 400 ∨ r.status = 403) :
    ¬ (reject env b r).1.Accepted
      ∧ ((reject env b r).1.status? = some 400 ∨ (reject env b r).1.status? = some 403)
      ∧ (reject env b r).2.stores = b.stores := by
  have hstatus : (reject env b r).1.status? = some r.status := answerThenLog_status _ _ _
  rw [Outcome.Accepted, hstatus]
  rcases h with h | h
  · simp [h, reject, answerThenLog_stores]
  · simp [h, reject, answerThenLog_stores]

/-- An id that cannot be logged leaves an accepted registration unanswered. -/
theorem acceptRegistration_silent {r : Registration} (h : encodable r.agentId = false) :
    (acceptRegistration cfg env b r).1.status? = none := by
  have hno : ¬ (acceptRegistration cfg env b r).1.Once := by
    rw [acceptRegistration_once, h]
    simp
  obtain ⟨e, he⟩ := log_of_not_loggable fun hlog => hno (logThenAnswer_once.2 hlog)
  rw [acceptRegistration, logThenAnswer, he]
  rfl

theorem acceptRegistration_accepted {r : Registration} :
    (acceptRegistration cfg env b r).1.Accepted ↔ encodable r.agentId = true := by
  constructor
  · intro h
    by_contra hno
    rw [Outcome.Accepted, acceptRegistration_silent (by simpa using hno)] at h
    simp at h
  · intro h
    have honce : (acceptRegistration cfg env b r).1.Once := acceptRegistration_once.2 h
    rw [Outcome.Accepted, acceptRegistration, logThenAnswer_answered honce]
    by_cases hnew : b.stores.isNew r.agentId = true
    · simp [hnew]
    · simp [hnew]

theorem acceptRegistration_stores {r : Registration} : (acceptRegistration cfg env b r).2.stores
    = registerStores cfg env.monotonic.register r (b.stores.isNew r.agentId) b.stores :=
  logThenAnswer_stores _ _ _

/-- What is to be true of the answer to a registration of the value `v` by `p`. -/
structure SchemaKept (p : PyStr) (v : Json) (o : Outcome) (s s' : Stores) : Prop where
  accepted : o.Accepted ↔ ∃ data, v = .obj data ∧ Registrable Json.integer? p data
  others : o.Accepted → ∀ (data : Fields) a, v = .obj data → data.get (lit "agent_id") = .str a →
    ∀ q, q ≠ a → s'.entry q = s.entry q
  refused : ¬ o.Accepted → (o.status? = some 400 ∨ o.status? = some 403) ∧ s' = s

theorem handleRegister_object {raw : PyStr} {data : Fields}
    (hraw : readBody P cfg req = .text raw) (hloads : P.jsonLoads raw = .ok (.obj data)) :
    handleRegister P cfg env req p b = match validateRegisterPayload data p with
      | .error r => reject env b r
      | .ok r => acceptRegistration cfg env b r := by
  rw [handleRegister, hraw]
  rcases hvalid : validateRegisterPayload data p with r | r
  · simp only [hloads, hvalid]
  · simp only [hloads, hvalid]

theorem handleRegister_other {raw : PyStr} {v : Json} (hraw : readBody P cfg req = .text raw)
    (hloads : P.jsonLoads raw = .ok v) (hv : ¬ ∃ data, v = .obj data) :
    handleRegister P cfg env req p b
      = reject env b { status := 400, detail := lit "body must be a JSON object" } := by
  rw [handleRegister, hraw]
  simp only [hloads]
  cases v
  case obj data => exact absurd ⟨data, rfl⟩ hv
  all_goals rfl

variable (p) in
/-- The value would not be a registration were booleans numbers, or is one and names an agent
whose id can be logged. -/
def PlainRegistration (v : Json) : Prop :=
  ∀ data : Fields, v = .obj data → Registrable Json.asInt? p data →
    Registrable Json.integer? p data
      ∧ ∀ a, data.get (lit "agent_id") = .str a → encodable a = true

/-- What a value comes to once it has passed for a registration, or has not. -/
theorem schema_kept_value {raw : PyStr} {v : Json} (hraw : readBody P cfg req = .text raw)
    (hloads : P.jsonLoads raw = .ok v) :
    SchemaKept p v (handleRegister P cfg env req p b).1 b.stores
        (handleRegister P cfg env req p b).2.stores ↔ PlainRegistration p v := by
  have hturned : ∀ r : Rejection, r.status = 400 ∨ r.status = 403 →
      (¬ ∃ data, v = .obj data ∧ Registrable Json.asInt? p data) →
      (SchemaKept p v (reject env b r).1 b.stores (reject env b r).2.stores
        ↔ PlainRegistration p v) := by
    intro r hr hno
    obtain ⟨haccepted, hstatus, hstores⟩ := reject_turned env b hr
    refine iff_of_true ⟨iff_of_false haccepted ?_, fun h => absurd h haccepted,
      fun _ => ⟨hstatus, hstores⟩⟩ fun data hv h => absurd ⟨data, hv, h⟩ hno
    rintro ⟨data, rfl, h⟩
    exact hno ⟨data, rfl, h.boolean⟩
  by_cases hobj : ∃ data, v = .obj data
  swap
  · rw [handleRegister_other hraw hloads hobj]
    exact hturned _ (.inl rfl) fun h => hobj ⟨h.choose, h.choose_spec.1⟩
  obtain ⟨data, rfl⟩ := hobj
  rw [handleRegister_object hraw hloads]
  rcases hr : validateRegisterPayload data p with r | r
  · refine hturned r (validateRegisterPayload_status hr) ?_
    rintro ⟨data', hdata, h⟩
    cases hdata
    obtain ⟨r', hr'⟩ := validateRegisterPayload_accepts.2 h
    rw [hr] at hr'
    cases hr'
  have hid : Fields.get data (lit "agent_id") = .str r.agentId :=
    (checkAgentId_iff.1 (validateRegisterPayload_agentId hr).1).1
  have haccepted : (acceptRegistration cfg env b r).1.Accepted ↔ encodable r.agentId = true :=
    acceptRegistration_accepted
  constructor
  · intro h data' hdata _
    cases hdata
    by_cases hen : encodable r.agentId = true
    · obtain ⟨data', hdata, hreg⟩ := h.accepted.1 (haccepted.2 hen)
      cases hdata
      refine ⟨hreg, fun a ha => ?_⟩
      rw [hid] at ha
      cases ha
      exact hen
    · have hsilent : (acceptRegistration cfg env b r).1.status? = none :=
        acceptRegistration_silent (Bool.not_eq_true _ ▸ hen)
      obtain ⟨hstatus, -⟩ := h.refused fun ha => hen (haccepted.1 ha)
      simp only [hsilent, reduceCtorEq, or_self] at hstatus
  · intro h
    obtain ⟨hreg, hen⟩ := h data rfl (validateRegisterPayload_accepts.1 ⟨r, hr⟩)
    have hyes := haccepted.2 (hen _ hid)
    refine ⟨iff_of_true hyes ⟨data, rfl, hreg⟩, ?_, fun hno => absurd hyes hno⟩
    intro _ data' a hdata ha q hq
    cases hdata
    rw [hid] at ha
    cases ha
    rw [acceptRegistration_stores, entry_registerStores, if_neg hq.symm]

/-- Registration keeps to its schema just when no boolean stands for a number in what is posted and
the id can be logged. -/
theorem registration_schema_iff {raw : PyStr} {v : Json} (hm : req.method = lit "POST")
    (hpath : req.path = lit "/agents") (hp : Admitted P cfg env req b p)
    (hraw : readBody P cfg req = .text raw) (hloads : P.jsonLoads raw = .ok v) :
    SchemaKept p v (handle P cfg env req b).1 b.stores (handle P cfg env req b).2.stores
      ↔ PlainRegistration p v := by
  rcases post_cases P cfg env b hm with ⟨hno, -⟩ | ⟨q, b', -, honly, hstores, -, hserve⟩
  · exact absurd hp (hno p)
  · obtain rfl := honly p hp
    rw [hserve, servePost, if_pos hpath, ← hstores]
    exact schema_kept_value hraw hloads

end Answer

/-- A POST of a value to `/agents`. -/
def valuePost (v : Json) : Request where
  method := lit "POST"
  path := lit "/agents"
  authorization := none
  contentLength := some (intText (jsonText v).length)
  body := (jsonText v).map UInt8.ofNat

/-- A registration of `a` at port `port`. -/
def portFields (port : Json) : Fields :=
  [(lit "agent_id", .str (lit "a")), (lit "host", .str (lit "h")), (lit "port", port)]

def portPython (port : Json) : Python :=
  plainPython [(jsonText (.obj (portFields port)), .obj (portFields port))]

theorem registration_schema_port :
    SchemaKept [] (.obj (portFields (.int 80)))
      (handle (portPython (.int 80)) .defaults downEnv (valuePost (.obj (portFields (.int 80))))
        Broker.init).1 Broker.init.stores
      (handle (portPython (.int 80)) .defaults downEnv (valuePost (.obj (portFields (.int 80))))
        Broker.init).2.stores := by
  have hraw : readBody (portPython (.int 80)) .defaults (valuePost (.obj (portFields (.int 80))))
      = .text (jsonText (.obj (portFields (.int 80)))) := rfl
  have hloads : (portPython (.int 80)).jsonLoads (jsonText (.obj (portFields (.int 80))))
      = .ok (.obj (portFields (.int 80))) := plainPython_loads _ _
  refine (registration_schema_iff rfl rfl ⟨rfl, by decide⟩ hraw hloads).2 ?_
  intro data hdata h
  cases hdata
  refine ⟨⟨h.agentId, h.host, fun _ => ⟨80, rfl, by decide, by decide⟩, h.scheme, h.path,
    h.capabilities, fun v hv => by cases hv⟩, fun a ha => ?_⟩
  cases ha
  decide

/-- A registration whose port is `true` is accepted. -/
theorem boolean_port_registered :
    ¬ SchemaKept [] (.obj (portFields (.bool true)))
      (handle (portPython (.bool true)) .defaults downEnv
        (valuePost (.obj (portFields (.bool true)))) Broker.init).1 Broker.init.stores
      (handle (portPython (.bool true)) .defaults downEnv
        (valuePost (.obj (portFields (.bool true)))) Broker.init).2.stores := by
  intro h
  have hstatus : (handle (portPython (.bool true)) .defaults downEnv
      (valuePost (.obj (portFields (.bool true)))) Broker.init).1.status? = some 201 := by
    decide +kernel
  obtain ⟨data, hdata, hreg⟩ := h.accepted.1 (.inr hstatus)
  cases hdata
  obtain ⟨n, hn, -⟩ := hreg.port rfl
  cases hn

end AgentComm
