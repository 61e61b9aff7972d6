import AgentComm.Proofs.PostAnswers

/-!
# Replies to what was decoded

A reply is sent from the recipient of the message it answers, or from the sender if there is none.
The decoder lets any recipient through, the validator not every sender.
-/

namespace AgentComm

variable {P : Python} {m r : Message} {st : Stamp} {raw code text : PyStr}

variable (P m r) in
/-- `r` is a valid reply to `m`, and its addressee reads it back wherever `json` does. -/
structure RepliesTo : Prop where
  valid : validate P r = .ok ()
  correlation : r.correlationId = some m.messageId
  recipient : r.metadata.recipient = m.metadata.sender
  arrives : P.jsonLoads (P.jsonDumps (.obj (toDict P r))) = .ok (.obj (toDict P r)) →
    deserialize P (serialize P r) = .ok r

/-- A recipient that a reply can come from: none, or a text that is not empty. -/
def Nameable (recipient : Json) : Prop :=
  recipient = .null ∨ ∃ a, a ≠ [] ∧ recipient = .str a

/-- A reply comes from a text that is not empty just when its request was sent to one or to
nobody. -/
theorem replySender_iff {s : PyStr} (hs : s ≠ []) (hsender : m.metadata.sender = .str s) :
    (∃ a, a ≠ [] ∧ (buildReplyMetadata st m none).sender = .str a)
      ↔ Nameable m.metadata.recipient := by
  unfold buildReplyMetadata Nameable
  rcases hr : m.metadata.recipient with _ | _ | _ | _ | a | _ | _
  case null => exact iff_of_true ⟨s, hs, hsender⟩ (.inl rfl)
  all_goals simp

variable (P) in
/-- A reply built from the metadata of a decoded message is one to it just when it can name who
sent it. -/
theorem repliesTo_iff (hd : deserialize P raw = .ok m)
    (hmeta : r.metadata = buildReplyMetadata st m none) (hid : r.messageId ≠ [])
    (htime : st.timestamp ≠ []) (hversion : r.version = protocolVersion)
    (htype : r.type = .response ∨ r.type = .error) (hcorr : r.correlationId = some m.messageId) :
    RepliesTo P m r ↔ Nameable m.metadata.recipient := by
  obtain ⟨n, hone⟩ := one_of_deserialize hd
  obtain ⟨s, hs, hsender⟩ := validate_sender (valid_of_deserialize hd)
  have htime' : r.metadata.timestamp ≠ [] := by
    rw [hmeta]
    exact htime
  have hvalid : validate P r = .ok () ↔ Nameable m.metadata.recipient := by
    rw [validate_reply hone hid htime' hversion htype hcorr, hmeta, replySender_iff hs hsender]
  refine ⟨fun h => hvalid.1 h.valid, fun h => ⟨hvalid.2 h, hcorr, by rw [hmeta]; rfl, ?_⟩⟩
  refine deserialize_serialize (hvalid.2 h) fun e he => ?_
  rw [hmeta] at he
  cases he

/-- Replies to a decoded message are valid and can be read just when it was sent to nobody or to a
text that is not empty. -/
theorem replies_valid_iff (hd : deserialize P raw = .ok m) (hid : st.messageId ≠ [])
    (htime : st.timestamp ≠ []) :
    ((∀ body, RepliesTo P m (Response.to st m (some body)).toMessage)
      ∧ ∀ code text, RepliesTo P m (Error.to st m code text)) ↔ Nameable m.metadata.recipient := by
  have hresponse : ∀ body, RepliesTo P m (Response.to st m (some body)).toMessage
      ↔ Nameable m.metadata.recipient := fun body =>
    repliesTo_iff P hd rfl hid htime rfl (.inl rfl) rfl
  have herror : ∀ code text, RepliesTo P m (Error.to st m code text)
      ↔ Nameable m.metadata.recipient := fun code text =>
    repliesTo_iff P hd rfl hid htime rfl (.inr rfl) rfl
  constructor
  · rintro ⟨-, h⟩
    exact (herror [] []).1 (h [] [])
  · exact fun h => ⟨fun body => (hresponse body).2 h, fun code text => (herror code text).2 h⟩

theorem replies_valid_question :
    (∀ body, RepliesTo questionPython question
        (Response.to downEnv.stamp question (some body)).toMessage)
      ∧ ∀ code text, RepliesTo questionPython question
        (Error.to downEnv.stamp question code text) :=
  (replies_valid_iff (question_decoded rfl questionPython_reads) (by decide) (by decide)).2
    (.inr ⟨lit "b", by decide, rfl⟩)

/-- `question`, sent to the empty text. -/
def unnamed : Message :=
  { question with metadata := { question.metadata with recipient := .str [] } }

def unnamedFields : Fields := toDict (plainPython []) unnamed

def unnamedPython : Python := plainPython [(jsonText (.obj unnamedFields), .obj unnamedFields)]

/-- It is decoded, and no reply to it is valid. -/
theorem unnamed_unanswerable :
    deserialize unnamedPython (jsonText (.obj unnamedFields)) = .ok unnamed
      ∧ validate unnamedPython (Response.to downEnv.stamp unnamed (some [])).toMessage
        = .error (validationError (lit "metadata.sender must be a non-empty string"))
      ∧ validate unnamedPython (Error.to downEnv.stamp unnamed [] [])
        = .error (validationError (lit "metadata.sender must be a non-empty string"))
      ∧ ¬ ((∀ body, RepliesTo unnamedPython unnamed
            (Response.to downEnv.stamp unnamed (some body)).toMessage)
          ∧ ∀ code text, RepliesTo unnamedPython unnamed
            (Error.to downEnv.stamp unnamed code text)) := by
  have hloads : unnamedPython.jsonLoads (jsonText (.obj unnamedFields))
      = .ok (.obj (toDict unnamedPython unnamed)) := by
    rw [unnamedPython, plainPython_loads]
    rfl
  have herror : validate unnamedPython (Error.to downEnv.stamp unnamed [] [])
      = .error (validationError (lit "metadata.sender must be a non-empty string")) := rfl
  refine ⟨?_, rfl, herror, fun h => ?_⟩
  · exact deserialize_toDict rfl (by simp [unnamed, question]) hloads
  · have hvalid := (h.2 [] []).valid
    rw [herror] at hvalid
    cases hvalid

end AgentComm
