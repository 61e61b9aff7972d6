import AgentComm.Protocol.Serialization

/-!
# The wire round trip

What `validate` accepts, `serialize` writes and `deserialize` reads back: the validator sees the
same fields in the message and in its dictionary, and the decoder undoes the encoder field by
field. A correlation id the class would drop on the way back is one the validator refuses.
-/

namespace AgentComm

open Lib

variable (P : Python) (m : Message)

section Fields

variable (data : Fields)

@[simp] theorem toDict_messageId : (toDict P m).get (lit "message_id") = .str m.messageId := rfl

@[simp] theorem toDict_type : (toDict P m).get (lit "type") = .str m.type.value := rfl

@[simp] theorem toDict_version : (toDict P m).get (lit "protocol_version") = .str m.version := rfl

@[simp] theorem toDict_body : (toDict P m).get (lit "body") = .obj m.body := rfl

@[simp] theorem toDict_correlationId :
    (toDict P m).get (lit "correlation_id") = optStr m.correlationId := rfl

/-- The dictionary `to_dict` nests under `metadata`. -/
def metadataFields : Fields :=
  [(lit "sender", m.metadata.sender), (lit "recipient", m.metadata.recipient),
    (lit "timestamp", .str m.metadata.timestamp),
    (lit "extra", .obj (m.metadata.extra.map fun e => (e.1.text P, e.2)))]

@[simp] theorem toDict_metadata :
    (toDict P m).get (lit "metadata") = .obj (metadataFields P m) := rfl

@[simp] theorem metadataFields_sender :
    (metadataFields P m).get (lit "sender") = m.metadata.sender := rfl

@[simp] theorem metadataFields_recipient :
    (metadataFields P m).get (lit "recipient") = m.metadata.recipient := rfl

@[simp] theorem metadataFields_timestamp :
    (metadataFields P m).get (lit "timestamp") = .str m.metadata.timestamp := rfl

theorem metadataFields_extra :
    Pairs.get? (lit "extra") (metadataFields P m)
      = some (.obj (m.metadata.extra.map fun e => (e.1.text P, e.2))) := rfl

end Fields

variable {P m}

/-- The dictionary form of a message is validated as the message is. -/
theorem validateDict_toDict : validateDict P (toDict P m) = validate P m := by
  have hmissing : requiredEnvelopeFields.filter (fun f => !(toDict P m).has f) = [] := rfl
  simp only [validateDict, hmissing, ne_eq, not_true_eq_false, ↓reduceIte]
  rfl

theorem checkCorrelation_ok {t : MessageType} {c : Option PyStr} {r : Option PyStr}
    (h : checkCorrelation t (optStr c) = .ok r) :
    (t = .response → c ≠ none) ∧ (t ≠ .response → t ≠ .error → c = none) := by
  rcases c with _ | c <;> cases t <;> simp [checkCorrelation, optStr] at h ⊢

/-- What validated fields hold. -/
structure Validated (data : Fields) (t : MessageType) : Prop where
  messageId : ∃ c s, data.get (lit "message_id") = .str (c :: s)
  type : MessageType.ofValue (data.get (lit "type")) = some t
  version : ∃ v, data.get (lit "protocol_version") = .str v
  metadata : ∃ md : Fields, data.get (lit "metadata") = .obj md
    ∧ (∃ c s, md.get (lit "sender") = .str (c :: s))
    ∧ ∃ c s, md.get (lit "timestamp") = .str (c :: s)
  body : ∃ b, data.get (lit "body") = .obj b
  correlationId : ∃ c, checkCorrelation t (data.get (lit "correlation_id")) = .ok c

theorem nonEmptyStr_ok {text s : PyStr} {v : Json} (h : nonEmptyStr text v = .ok s) :
    ∃ c s', v = .str (c :: s') := by
  unfold nonEmptyStr at h
  split at h
  · exact ⟨_, _, rfl⟩
  · cases h

theorem mapping_ok {text : PyStr} {v : Json} {kvs : Fields} (h : mapping text v = .ok kvs) :
    v = .obj kvs := by
  unfold mapping at h
  split at h <;> cases h
  rfl

theorem checkVersion_ok {v : Json} {s : PyStr} (h : checkVersion P v = .ok s) :
    v = .str s := by
  cases v <;> simp only [checkVersion, reduceCtorEq] at h
  obtain ⟨found, -, h⟩ := bind_eq_ok h
  obtain ⟨expected, -, h⟩ := bind_eq_ok h
  split_ifs at h <;> cases h
  rfl

theorem validateFields_ok {data : Fields} (h : validateFields P data = .ok ()) :
    ∃ t, Validated data t := by
  obtain ⟨_, hid, h⟩ := bind_eq_ok h
  obtain ⟨t, ht, h⟩ := bind_eq_ok h
  obtain ⟨_, hver, h⟩ := bind_eq_ok h
  obtain ⟨md, hmd, h⟩ := bind_eq_ok h
  obtain ⟨_, hsender, h⟩ := bind_eq_ok h
  obtain ⟨_, htime, h⟩ := bind_eq_ok h
  obtain ⟨b, hbody, h⟩ := bind_eq_ok h
  obtain ⟨c, hc, -⟩ := bind_eq_ok h
  have ht' : MessageType.ofValue (data.get (lit "type")) = some t := by
    unfold checkType at ht
    split at ht <;> cases ht
    assumption
  exact ⟨t, nonEmptyStr_ok hid, ht', ⟨_, checkVersion_ok hver⟩,
    ⟨md, mapping_ok hmd, nonEmptyStr_ok hsender, nonEmptyStr_ok htime⟩, ⟨b, mapping_ok hbody⟩,
    ⟨c, hc⟩⟩

/-- A message `validate` accepts carries a correlation id as its class asks. -/
theorem validate_correlation (hv : validate P m = .ok ()) :
    (m.type = .response → m.correlationId ≠ none)
      ∧ (m.type ≠ .response → m.type ≠ .error → m.correlationId = none) := by
  obtain ⟨t, hval⟩ := validateFields_ok hv
  have htype : some m.type = some t := (MessageType.ofValue_value m.type).symm.trans hval.type
  cases htype
  obtain ⟨r, hc⟩ := hval.correlationId
  exact checkCorrelation_ok hc

/-- The sender of a valid message is a text that is not empty. -/
theorem validate_sender (hv : validate P m = .ok ()) :
    ∃ a, a ≠ [] ∧ m.metadata.sender = .str a := by
  obtain ⟨t, hval⟩ := validateFields_ok hv
  obtain ⟨md, hmd, ⟨c, s, hsender⟩, -⟩ := hval.metadata
  obtain rfl : _ = md := Json.obj.inj hmd
  exact ⟨c :: s, List.cons_ne_nil c s, hsender⟩

theorem checkType_value (t : MessageType) : checkType P (.str t.value) = .ok t := by
  simp [checkType]

theorem pyDict_text {d : List (Key × Json)} (h : ∀ e ∈ d, ∃ s, e.1 = .str s) :
    pyDict (.obj (d.map fun e => (e.1.text P, e.2))) = .ok d := by
  simp only [pyDict, List.map_map, Except.ok.injEq]
  refine (List.map_congr_left fun e he => ?_).trans (List.map_id d)
  obtain ⟨s, hs⟩ := h e he
  obtain ⟨k, v⟩ := e
  simp only at hs
  subst hs
  rfl

/-- The decoder rebuilds the message its fields came from. -/
theorem buildMessage_toDict (hv : validate P m = .ok ()) :
    buildMessage (toDict P m) m.type m.metadata.extra = .ok m := by
  obtain ⟨hresp, hnone⟩ := validate_correlation hv
  have hc : (if m.type = .response ∨ m.type = .error then (optStr m.correlationId).asStr?
      else none) = m.correlationId := by
    split_ifs with ht
    · rcases m.correlationId with _ | c <;> rfl
    · rw [not_or] at ht
      exact (hnone ht.1 ht.2).symm
  unfold buildMessage
  simp only [toDict_messageId, toDict_version, toDict_body, toDict_correlationId, toDict_metadata,
    fieldsOr, strOr, metadataFields_sender, metadataFields_recipient, metadataFields_timestamp, hc]
  rw [if_neg fun h => hresp h.1 h.2]

/-- The dictionary form of a valid message with string-keyed extra metadata is decoded as the
message. -/
theorem fromDict_toDict (hv : validate P m = .ok ())
    (hextra : ∀ e ∈ m.metadata.extra, ∃ s, e.1 = .str s) : fromDict P (toDict P m) = .ok m := by
  have hv' : validateDict P (toDict P m) = .ok () := validateDict_toDict.trans hv
  simp only [fromDict, hv', toDict_type, checkType_value, toDict_metadata, fieldsOr,
    metadataFields_extra, pyDict_text hextra]
  exact buildMessage_toDict hv

/-- Such a message is decoded from any text that reads as its dictionary form. -/
theorem deserialize_toDict (hv : validate P m = .ok ())
    (hextra : ∀ e ∈ m.metadata.extra, ∃ s, e.1 = .str s) {raw : PyStr}
    (hread : P.jsonLoads raw = .ok (.obj (toDict P m))) : deserialize P raw = .ok m := by
  simp only [deserialize, hread]
  exact fromDict_toDict hv hextra

/-- A valid message with string-keyed extra metadata survives the wire. -/
theorem deserialize_serialize (hv : validate P m = .ok ())
    (hextra : ∀ e ∈ m.metadata.extra, ∃ s, e.1 = .str s)
    (hjson : P.jsonLoads (P.jsonDumps (.obj (toDict P m))) = .ok (.obj (toDict P m))) :
    deserialize P (serialize P m) = .ok m :=
  deserialize_toDict hv hextra hjson

def question : Message where
  type := .request
  metadata := ⟨.str (lit "a"), .str (lit "b"), lit "2024-01-01T00:00:00+00:00",
    [(.str (lit "topic"), .str (lit "greetings"))]⟩
  messageId := lit "0123"
  version := lit "1.4"
  body := [(lit "ask", .arr [.int 1, .obj [(lit "deep", .null)]])]
  correlationId := none

def questionFields : Fields := toDict (plainPython []) question

theorem question_decoded (hv : validate P question = .ok ()) {raw : PyStr}
    (hread : P.jsonLoads raw = .ok (.obj questionFields)) : deserialize P raw = .ok question :=
  deserialize_toDict hv (by simp [question]) hread

/-- An interpreter that reads back the text of `question`. -/
def questionPython : Python := plainPython [(jsonText (.obj questionFields), .obj questionFields)]

theorem questionPython_reads : questionPython.jsonLoads (jsonText (.obj questionFields))
    = .ok (.obj questionFields) := by
  rw [questionPython, plainPython_loads]

theorem deserialize_serialize_question :
    deserialize questionPython (serialize questionPython question) = .ok question := by
  have hfields : toDict questionPython question = questionFields := rfl
  refine deserialize_serialize rfl (by simp [question]) ?_
  have hdumps : questionPython.jsonDumps = jsonText := rfl
  rw [hfields, hdumps, questionPython_reads]

end AgentComm
