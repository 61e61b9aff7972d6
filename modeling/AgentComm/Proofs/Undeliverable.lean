import AgentComm.Proofs.Exchanges

/-!
# The answer to a message that goes nowhere

The broker turns away a message with no recipient, looks up the one it has, and tries its endpoint.
Only the last two failures are answered with an envelope, and its sender is the recipient that was
asked for, so the envelope can be read when that is a text.
-/

namespace AgentComm

open Lib

variable {P : Python} {cfg : ServerConfig} {env : Env} {req : Request} {p a : PyStr} {b : Broker}
variable {m r : Message} {o : Outcome} {text raw : PyStr}

/-- Why a message goes nowhere. -/
inductive Failure
  | missing
  | unknown
  | undelivered
deriving DecidableEq

def Failure.code : Failure → PyStr
  | missing => lit "missing_recipient"
  | unknown => lit "unknown_recipient"
  | undelivered => lit "delivery_failed"

variable (P cfg env b m) in
/-- The message has no recipient, the recipient is not registered, or delivery to its endpoint
fails. -/
def Undeliverable : Failure → Prop
  | .missing => m.metadata.recipient.truthy = false
  | .unknown => m.metadata.recipient.truthy = true
    ∧ ∀ a, m.metadata.recipient = .str a → b.stores.registry.get? a = none
  | .undelivered => m.metadata.recipient.truthy = true
    ∧ (∃ a endpoint, m.metadata.recipient = .str a ∧ b.stores.registry.get? a = some endpoint
      ∧ endpoint.mailbox = false)
    ∧ ∃ e, Router.route P b.stores.registry cfg.retryPolicy cfg.routerTimeout env.network m
      = .error e

/-- The text of a body that is written as JSON. -/
inductive Payload.Says (P : Python) : Payload → PyStr → Prop
  | json (fields : Fields) : Says P (.json fields) (P.jsonDumps (.obj fields))
  | text (s : PyStr) : Says P (.text s) s

/-- `r` tells the sender of `m` of the failure. -/
structure Reports (m : Message) (f : Failure) (r : Message) : Prop where
  type : r.type = .error
  correlationId : r.correlationId = some m.messageId
  recipient : r.metadata.recipient = m.metadata.sender
  code : r.body.get (lit "code") = .str f.code

variable (P) in
/-- The one response is an envelope that tells the sender of `m` of the failure. -/
def Reported (m : Message) (f : Failure) (o : Outcome) : Prop :=
  ∃ resp text r, o.written = [resp] ∧ resp.payload.Says P text ∧ deserialize P text = .ok r
    ∧ Reports m f r

variable (P cfg env b m) in
/-- The fields the broker answers each failure with. -/
inductive AnsweredWith : Failure → Fields → Prop
  | missing : AnsweredWith .missing [(lit "error", .str (lit "metadata.recipient is required"))]
  | unknown : AnsweredWith .unknown (toDict P (Error.to env.stamp m (lit "unknown_recipient")
      (lit "unknown recipient: " ++ pyText P m.metadata.recipient)))
  | undelivered {e : Exc} (h : Router.route P b.stores.registry cfg.retryPolicy
        cfg.routerTimeout env.network m = .error e) :
      AnsweredWith .undelivered (toDict P (Error.to env.stamp m (lit "delivery_failed") e.text))

variable (P cfg env p m) in
/-- The failure has an envelope, a text is its sender, and nothing escapes the handler before it is
written: the endpoint garbles no attempt and the audit line can be written out. -/
def Reportable : Failure → Prop
  | .missing => False
  | .unknown => ∃ a, m.metadata.recipient = .str a
  | .undelivered => encodable p = true ∧ (∀ a, m.metadata.recipient = .str a → encodable a = true)
    ∧ ∀ i, Reached P cfg env i → ¬ Garbles P (env.network i)

/-! ### The envelope -/

section Envelope

variable {st : Stamp} {code : PyStr}

theorem validated_of_deserialize (h : deserialize P text = .ok r) :
    ∃ data, P.jsonLoads text = .ok (.obj data) ∧ validateDict P data = .ok () := by
  unfold deserialize at h
  rcases hloads : P.jsonLoads text with e | v
  · simp only [hloads] at h
    split_ifs at h
  cases v
  case obj data =>
    simp only [hloads] at h
    obtain ⟨⟨⟩, hv, -⟩ := bind_eq_ok h
    exact ⟨data, rfl, hv⟩
  all_goals
    simp only [hloads] at h
    cases h

theorem checkVersion_one {v : Json} {s : PyStr} (h : checkVersion P v = .ok s) :
    ∃ n, P.int (lit "1") = .ok n := by
  obtain rfl := checkVersion_ok h
  obtain ⟨found, -, h⟩ := bind_eq_ok h
  obtain ⟨expected, hexpected, -⟩ := bind_eq_ok h
  rw [major, show (splitOnce 46 protocolVersion).1 = lit "1" by decide] at hexpected
  rcases hint : P.int (lit "1") with e | n
  · simp only [hint] at hexpected
    split_ifs at hexpected
  · exact ⟨n, rfl⟩

/-- Whatever has been accepted, `int` read the protocol's own version. -/
theorem one_of_deserialize (h : deserialize P text = .ok r) : ∃ n, P.int (lit "1") = .ok n := by
  obtain ⟨data, -, hv⟩ := validated_of_deserialize h
  have hfields := validateFields_of_dict hv
  obtain ⟨_, -, h⟩ := bind_eq_ok hfields
  obtain ⟨t, -, h⟩ := bind_eq_ok h
  obtain ⟨_, hver, -⟩ := bind_eq_ok h
  exact checkVersion_one hver

/-- A reply is valid when its sender is a text that is not empty. -/
theorem validate_reply {n : ℤ} (hone : P.int (lit "1") = .ok n) (hid : r.messageId ≠ [])
    (htime : r.metadata.timestamp ≠ []) (hversion : r.version = protocolVersion)
    (htype : r.type = .response ∨ r.type = .error) {c : PyStr} (hcorr : r.correlationId = some c) :
    validate P r = .ok () ↔ ∃ a, a ≠ [] ∧ r.metadata.sender = .str a := by
  have hfields : gatherFields P r = toDict P r := rfl
  have hcorrelation : checkCorrelation r.type (optStr r.correlationId) = .ok (some c) := by
    rcases htype with htype | htype <;> rw [htype, hcorr] <;> rfl
  constructor
  · exact validate_sender
  · rintro ⟨a, ha, hsender⟩
    rw [validate, hfields, validateFields, toDict_messageId, toDict_type, toDict_version,
      toDict_metadata, toDict_body, toDict_correlationId]
    simp only [mapping, bind, Except.bind, metadataFields_sender, hsender,
      metadataFields_timestamp, nonEmptyStr_of_ne ha, nonEmptyStr_of_ne hid, checkType_value,
      hversion, checkVersion_protocol hone, nonEmptyStr_of_ne htime, hcorrelation]
    rfl

theorem errorTo_sender (h : m.metadata.recipient.truthy = true) :
    (Error.to st m code text).metadata.sender = m.metadata.recipient := by
  unfold Error.to buildReplyMetadata
  rcases hr : m.metadata.recipient with _ | _ | _ | _ | _ | _ | _
  case null =>
    rw [hr] at h
    cases h
  all_goals rfl

theorem errorTo_valid {n : ℤ} (hone : P.int (lit "1") = .ok n) (hid : st.messageId ≠ [])
    (htime : st.timestamp ≠ []) (hto : m.metadata.recipient = .str a) (ha : a ≠ []) :
    validate P (Error.to st m code text) = .ok () := by
  refine (validate_reply hone hid htime rfl (.inr rfl) rfl).2 ⟨a, ha, ?_⟩
  rw [errorTo_sender (by rw [hto]; simpa [Json.truthy] using ha), hto]

theorem errorTo_reports {f : Failure} : Reports m f (Error.to st m f.code text) :=
  ⟨rfl, rfl, rfl, rfl⟩

/-- The envelope can be read when, and only when, the recipient asked for is a text. -/
theorem errorTo_read {f : Failure} {n : ℤ} (hone : P.int (lit "1") = .ok n)
    (hid : st.messageId ≠ []) (htime : st.timestamp ≠ [])
    (ha : m.metadata.recipient.truthy = true)
    (hread : P.jsonLoads (serialize P (Error.to st m f.code text))
      = .ok (.obj (toDict P (Error.to st m f.code text)))) :
    (∃ r, deserialize P (serialize P (Error.to st m f.code text)) = .ok r ∧ Reports m f r)
      ↔ ∃ a, m.metadata.recipient = .str a := by
  constructor
  · rintro ⟨r, hr, -⟩
    obtain ⟨data, hloads, hv⟩ := validated_of_deserialize hr
    obtain rfl := Json.obj.inj (Except.ok.inj (hread.symm.trans hloads))
    rw [validateDict_toDict, validate_reply hone hid htime rfl (.inr rfl) rfl,
      errorTo_sender ha] at hv
    obtain ⟨a, -, hto⟩ := hv
    exact ⟨a, hto⟩
  · rintro ⟨a, hto⟩
    have hne : a ≠ [] := by
      rw [hto] at ha
      simpa [Json.truthy] using ha
    have hback : deserialize P (serialize P (Error.to st m f.code text))
        = .ok (Error.to st m f.code text) :=
      deserialize_serialize (errorTo_valid hone hid htime hto hne) (fun e he => by cases he) hread
    exact ⟨_, hback, errorTo_reports⟩

/-- The refusal of a message with no recipient is no envelope. -/
theorem missing_unread (hread : P.jsonLoads (P.jsonDumps
      (.obj [(lit "error", .str (lit "metadata.recipient is required"))]))
    = .ok (.obj [(lit "error", .str (lit "metadata.recipient is required"))])) :
    deserialize P (P.jsonDumps (.obj [(lit "error", .str (lit "metadata.recipient is required"))]))
      ≠ .ok r := by
  intro h
  obtain ⟨data, hloads, hv⟩ := validated_of_deserialize h
  obtain rfl := Json.obj.inj (Except.ok.inj (hread.symm.trans hloads))
  cases hv

end Envelope

/-! ### The three branches -/

theorem reported_of_written {resp : Response} {f : Failure} (ho : o.written = [resp])
    (hsay : ∀ t, resp.payload.Says P t → t = text) (htext : resp.payload.Says P text) :
    Reported P m f o ↔ ∃ r, deserialize P text = .ok r ∧ Reports m f r := by
  constructor
  · rintro ⟨resp', t, r, ho', ht, hr, hrep⟩
    obtain rfl := List.singleton_inj.1 (ho.symm.trans ho')
    obtain rfl := hsay t ht
    exact ⟨r, hr, hrep⟩
  · rintro ⟨r, hr, hrep⟩
    exact ⟨resp, text, r, ho, htext, hr, hrep⟩

theorem not_reported_of_silent {f : Failure} (ho : o.written = []) : ¬ Reported P m f o := by
  rintro ⟨resp, -, -, h, -⟩
  rw [ho] at h
  cases h

theorem answerThenLog_written {x : AuditRecord} {resp : Response} :
    (answerThenLog b x resp).1.written = [resp] := by
  unfold answerThenLog
  split <;> rfl

theorem reported_json {fields : Fields} {f : Failure} {x : AuditRecord} {resp : Response}
    (hresp : resp.payload = .json fields) : Reported P m f (answerThenLog b x resp).1
      ↔ ∃ r, deserialize P (P.jsonDumps (.obj fields)) = .ok r ∧ Reports m f r := by
  refine reported_of_written answerThenLog_written (fun t ht => ?_) ?_
  · rw [hresp] at ht
    cases ht
    rfl
  · rw [hresp]
    exact .json fields

theorem says_text {s t : PyStr} (h : Payload.Says P (.text s) t) : t = s := by
  cases h
  rfl

theorem reported_text {f : Failure} {x : AuditRecord} {status : ℕ} :
    Reported P m f (answerThenLog b x ⟨status, .text text, none⟩).1
      ↔ ∃ r, deserialize P text = .ok r ∧ Reports m f r :=
  reported_of_written answerThenLog_written (fun _ ht => says_text ht) (.text text)

section Branches

theorem missing_reported (hallowed : ¬ (p ≠ [] ∧ m.metadata.sender.asStr? ≠ some p))
    (h : Undeliverable P cfg env b m .missing)
    (hread : ∀ fields, AnsweredWith P cfg env b m .missing fields →
      P.jsonLoads (P.jsonDumps (.obj fields)) = .ok (.obj fields)) :
    ¬ Reported P m .missing (dispatchSend P cfg env p m b).1 := by
  have hto : (!m.metadata.recipient.truthy) = true := by
    rw [show m.metadata.recipient.truthy = false from h]
    rfl
  rw [dispatchSend, if_neg hallowed, if_pos hto, refuseSend, reported_json rfl]
  rintro ⟨r, hr, -⟩
  exact missing_unread (hread _ .missing) hr

theorem unknown_reported (hallowed : ¬ (p ≠ [] ∧ m.metadata.sender.asStr? ≠ some p)) {n : ℤ}
    (hone : P.int (lit "1") = .ok n) (hid : env.stamp.messageId ≠ [])
    (htime : env.stamp.timestamp ≠ [])
    (h : Undeliverable P cfg env b m .unknown)
    (hread : ∀ fields, AnsweredWith P cfg env b m .unknown fields →
      P.jsonLoads (P.jsonDumps (.obj fields)) = .ok (.obj fields)) :
    Reported P m .unknown (dispatchSend P cfg env p m b).1
      ↔ ∃ a, m.metadata.recipient = .str a := by
  obtain ⟨hto, hnone⟩ := h
  have hread' := errorTo_read (f := .unknown) hone hid htime hto (hread _ .unknown)
  rw [dispatchSend, if_neg hallowed, if_neg (by simp [hto])]
  rcases hlookup : b.stores.registry.lookup P m.metadata.recipient with e | endpoint
  · simp only
    split_ifs with hk
    · rw [refuseSend, reported_text, unknownRecipient]
      exact hread'
    · refine iff_of_false (not_reported_of_silent rfl) ?_
      rintro ⟨a, ha⟩
      simp only [ha, Registry.lookup, hnone a ha, Except.error.injEq] at hlookup
      subst hlookup
      exact hk rfl
  · obtain ⟨a, ha, he⟩ := lookup_ok hlookup
    rw [hnone a ha] at he
    cases he

/-- A send that does not come to one answer has written none. -/
theorem sendToEndpoint_silent (h : ¬ (sendToEndpoint P cfg env p m b).1.Once) :
    (sendToEndpoint P cfg env p m b).1.written = [] := by
  revert h
  unfold sendToEndpoint
  rcases routeSend P cfg env b.stores.registry m with e | ⟨status, body⟩
  · exact fun _ => rfl
  · simp only [logThenAnswer]
    split
    · exact fun h => absurd answer_once h
    · exact fun _ => rfl

/-- A route that failed although no attempt was garbled ran out of attempts. -/
theorem routeSend_undelivered (hP : Library P) {registry : Registry} {endpoint : Endpoint} {e : Exc}
    (hto : m.metadata.recipient = .str a) (ha : m.metadata.recipient.truthy = true)
    (he : registry.get? a = some endpoint)
    (hclean : ∀ i, Reached P cfg env i → ¬ Garbles P (env.network i))
    (hroute : Router.route P registry cfg.retryPolicy cfg.routerTimeout env.network m
      = .error e) :
    routeSend P cfg env registry m
      = .ok (502, some (serialize P (Error.to env.stamp m (lit "delivery_failed") e.text))) := by
  rcases route_cases cfg env hP hto ha he with ⟨i, hi, hno, hsend⟩ | ⟨-, e', hdelivery, hk⟩
  · have hfailed := (send_failed endpoint cfg.routerTimeout hP (env.network i)).1
      ⟨e, hsend.symm.trans hroute⟩
    exact absurd ⟨hfailed, hclean i hi⟩ hno
  · obtain rfl := Except.error.inj (hdelivery.symm.trans hroute)
    simp [routeSend, hroute, hk]

theorem undelivered_reported (hP : Library P)
    (hallowed : ¬ (p ≠ [] ∧ m.metadata.sender.asStr? ≠ some p)) {n : ℤ}
    (hone : P.int (lit "1") = .ok n) (hid : env.stamp.messageId ≠ [])
    (htime : env.stamp.timestamp ≠ [])
    (h : Undeliverable P cfg env b m .undelivered)
    (hread : ∀ fields, AnsweredWith P cfg env b m .undelivered fields →
      P.jsonLoads (P.jsonDumps (.obj fields)) = .ok (.obj fields)) :
    Reported P m .undelivered (dispatchSend P cfg env p m b).1
      ↔ Reportable P cfg env p m .undelivered := by
  obtain ⟨hto, ⟨a, endpoint, ha, he, hbox⟩, e, hroute⟩ := h
  have hsend : dispatchSend P cfg env p m b = sendToEndpoint P cfg env p m b :=
    dispatchSend_endpoint hallowed ha hto he hbox
  have honce : (sendToEndpoint P cfg env p m b).1.Once ↔ _ := sendToEndpoint_once hP ha hto he
  have hreport : Reportable P cfg env p m .undelivered
      ↔ (sendToEndpoint P cfg env p m b).1.Once := by
    rw [honce]
    simp [Reportable, ha]
  rw [hsend, hreport]
  by_cases h : (sendToEndpoint P cfg env p m b).1.Once
  · refine iff_of_true ?_ h
    have hrouted := routeSend_undelivered hP ha hto he (honce.1 h).2.2 hroute
    have hread' := (errorTo_read (f := .undelivered) hone hid htime hto
      (hread _ (.undelivered hroute))).2 ⟨a, ha⟩
    revert h
    simp only [sendToEndpoint, hrouted, logThenAnswer_once]
    intro h
    rw [logThenAnswer, log_of_loggable h]
    exact (reported_of_written rfl (fun _ ht => says_text ht) (.text _)).2 hread'
  · exact iff_of_false (not_reported_of_silent (sendToEndpoint_silent h)) h

end Branches

variable (env b) in
/-- An admitted message that is decoded is dispatched. -/
theorem handle_dispatched (hm : req.method = lit "POST") (hpath : req.path = defaultMessagePath)
    (hp : Admitted P cfg env req b p) (hraw : readBody P cfg req = .text raw)
    (hd : deserialize P raw = .ok m) : ∃ b' : Broker, b'.stores = b.stores
      ∧ handle P cfg env req b = dispatchSend P cfg env p m b' := by
  rcases post_cases P cfg env b hm with ⟨hnone, -⟩ | ⟨q, b', -, hone, hs, -, hserve⟩
  · exact absurd hp (hnone p)
  obtain rfl := hone p hp
  have hno : req.path ≠ lit "/agents" := by
    rw [hpath]
    exact messages_ne_agents
  refine ⟨b', hs, hserve.trans ?_⟩
  rw [servePost, if_neg hno, if_pos hpath]
  simp only [handleSend, hraw, hd]

/-- The sender of an admitted message that goes nowhere is told so exactly when the recipient is a
text that is not registered, or the endpoint garbles no attempt and the audit line can be written;
a message with no recipient is never answered so. -/
theorem undeliverable_reported_iff {f : Failure} (hP : Library P) (hm : req.method = lit "POST")
    (hpath : req.path = defaultMessagePath) (hp : Admitted P cfg env req b p)
    (hraw : readBody P cfg req = .text raw) (hd : deserialize P raw = .ok m)
    (hsender : p ≠ [] → m.metadata.sender = .str p) (hid : env.stamp.messageId ≠ [])
    (htime : env.stamp.timestamp ≠ []) (hf : Undeliverable P cfg env b m f)
    (hread : ∀ fields, AnsweredWith P cfg env b m f fields →
      P.jsonLoads (P.jsonDumps (.obj fields)) = .ok (.obj fields)) :
    Reported P m f (handle P cfg env req b).1 ↔ Reportable P cfg env p m f := by
  obtain ⟨b', hs, hserve⟩ := handle_dispatched env b hm hpath hp hraw hd
  have hallowed : ¬ (p ≠ [] ∧ m.metadata.sender.asStr? ≠ some p) := by
    rintro ⟨hne, hother⟩
    exact hother (by rw [hsender hne]; rfl)
  have hf' : Undeliverable P cfg env b' m f := by
    cases f <;> simpa only [Undeliverable, hs] using hf
  have hread' : ∀ fields, AnsweredWith P cfg env b' m f fields →
      P.jsonLoads (P.jsonDumps (.obj fields)) = .ok (.obj fields) := by
    intro fields h
    cases h with
    | missing => exact hread _ .missing
    | unknown => exact hread _ .unknown
    | undelivered h =>
      rw [hs] at h
      exact hread _ (.undelivered h)
  obtain ⟨n, hint⟩ := one_of_deserialize hd
  rw [hserve]
  cases f with
  | missing => exact iff_of_false (missing_reported hallowed hf' hread') id
  | unknown => exact unknown_reported hallowed hint hid htime hf' hread'
  | undelivered => exact undelivered_reported hP hallowed hint hid htime hf' hread'

/-! ### A message for an agent nobody knows, and one for nobody -/

/-- An interpreter that reads the texts of two objects. -/
def pairPython (x y : Fields) : Python :=
  asciiPython [(jsonText (.obj x), .obj x), (jsonText (.obj y), .obj y)]

theorem pairPython_first (x y : Fields) :
    (pairPython x y).jsonLoads (jsonText (.obj x)) = .ok (.obj x) := by
  simp [pairPython, asciiPython, plainPython, Pairs.get?]

theorem pairPython_second {x y : Fields} (h : jsonText (.obj x) ≠ jsonText (.obj y)) :
    (pairPython x y).jsonLoads (jsonText (.obj y)) = .ok (.obj y) := by
  simp [pairPython, asciiPython, plainPython, Pairs.get?, h]

def textPost (text : PyStr) : Request where
  method := lit "POST"
  path := defaultMessagePath
  authorization := none
  contentLength := some (intText text.length)
  body := text.map UInt8.ofNat

/-- What `question` is answered when its recipient is not registered. -/
def strangerFields : Fields :=
  toDict (plainPython []) (Error.to downEnv.stamp question (lit "unknown_recipient")
    (lit "unknown recipient: " ++ lit "b"))

theorem textPost_read {x y : Fields} (hmeasured : Measured (pairPython x y) .defaults
      (textPost (jsonText (.obj x))))
    (htext : (pairPython x y).utf8Decode (textPost (jsonText (.obj x))).body
      = .ok (jsonText (.obj x))) :
    readBody (pairPython x y) .defaults (textPost (jsonText (.obj x)))
      = .text (jsonText (.obj x)) := by
  rw [readBody_measured hmeasured, htext]

theorem undeliverable_reported_stranger :
    Reported (pairPython questionFields strangerFields) question .unknown
      (handle (pairPython questionFields strangerFields) .defaults downEnv
        (textPost (jsonText (.obj questionFields))) Broker.init).1 := by
  have hdecode : deserialize (pairPython questionFields strangerFields)
      (jsonText (.obj questionFields)) = .ok question :=
    question_decoded rfl (pairPython_first _ _)
  have hraw := textPost_read (x := questionFields) (y := strangerFields)
    ⟨by decide +kernel, by decide +kernel⟩ (by decide +kernel)
  have hunknown : Undeliverable (pairPython questionFields strangerFields) .defaults downEnv
      Broker.init question .unknown := ⟨by decide, fun _ _ => rfl⟩
  have hread : (pairPython questionFields strangerFields).jsonLoads
      (jsonText (.obj strangerFields)) = .ok (.obj strangerFields) :=
    pairPython_second (by decide +kernel)
  have hlibrary : Library (pairPython questionFields strangerFields) := asciiPython_library _
  refine (undeliverable_reported_iff hlibrary rfl rfl ⟨rfl, by decide +kernel⟩ hraw
    hdecode (fun h => absurd rfl h) (by decide) (by decide) hunknown fun fields h => ?_).2
    ⟨_, rfl⟩
  have hfields : fields = strangerFields := by
    cases h
    rfl
  have hdumps : (pairPython questionFields strangerFields).jsonDumps = jsonText := rfl
  rw [hfields, hdumps, hread]

/-- `question`, addressed to nobody. -/
def unaddressed : Message :=
  { question with metadata := { question.metadata with recipient := .null } }

def unaddressedFields : Fields := toDict (plainPython []) unaddressed

def refusedFields : Fields := [(lit "error", .str (lit "metadata.recipient is required"))]

/-- A valid message with no recipient is answered with an object that is no envelope. -/
theorem missing_recipient_unreported :
    deserialize (pairPython unaddressedFields refusedFields) (jsonText (.obj unaddressedFields))
        = .ok unaddressed
      ∧ Undeliverable (pairPython unaddressedFields refusedFields) .defaults downEnv Broker.init
        unaddressed .missing
      ∧ (handle (pairPython unaddressedFields refusedFields) .defaults downEnv
          (textPost (jsonText (.obj unaddressedFields))) Broker.init).1
        = .answer (errorResponse 400 (lit "metadata.recipient is required"))
      ∧ ¬ Reported (pairPython unaddressedFields refusedFields) unaddressed .missing
        (handle (pairPython unaddressedFields refusedFields) .defaults downEnv
          (textPost (jsonText (.obj unaddressedFields))) Broker.init).1 := by
  have hdecode : deserialize (pairPython unaddressedFields refusedFields)
      (jsonText (.obj unaddressedFields)) = .ok unaddressed :=
    deserialize_toDict rfl (by simp [unaddressed, question]) (pairPython_first _ _)
  have hraw := textPost_read (x := unaddressedFields) (y := refusedFields)
    ⟨by decide +kernel, by decide +kernel⟩ (by decide +kernel)
  have hanswer : (handle (pairPython unaddressedFields refusedFields) .defaults downEnv
      (textPost (jsonText (.obj unaddressedFields))) Broker.init).1
        = .answer (errorResponse 400 (lit "metadata.recipient is required")) := by
    obtain ⟨b', -, hdispatch⟩ := handle_dispatched downEnv Broker.init rfl rfl
      ⟨rfl, by decide +kernel⟩ hraw hdecode
    rw [hdispatch]
    rfl
  refine ⟨hdecode, rfl, hanswer, ?_⟩
  rw [hanswer]
  rintro ⟨resp, text, r, ho, hsay, hr, -⟩
  cases ho
  cases hsay
  exact missing_unread (pairPython_second (by decide +kernel)) hr

end AgentComm
