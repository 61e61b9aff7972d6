import AgentComm.Proofs.Answers
import AgentComm.Transport.Brokered

/-!
# What a transport takes for success

Both transports look at the body before they have ruled out every failing status. The direct one
treats what is below 400 as a success, and the one through the broker an answer with no body.
-/

namespace AgentComm

variable {P : Python}

/-- 2xx -/
def Successful (status : ℕ) : Prop := 200 ≤ status ∧ status < 300

instance (status : ℕ) : Decidable (Successful status) := inferInstanceAs (Decidable (_ ∧ _))

variable (P) in
/-- A send returns on success only, and returns a message only when the body is that message. -/
structure Honest (status : ℕ) (body : List UInt8) (result : Except Exc (Option Message)) :
    Prop where
  success : ∀ r, result = .ok r → Successful status
  message : ∀ m, result = .ok (some m) →
    ∃ data, P.utf8Decode body = .ok data ∧ deserialize P data = .ok m

section Verdict

variable {status : ℕ} {body : List UInt8} {data : PyStr} {e : Exc} {m : Message}

theorem honest_error : Honest P status body (.error e) :=
  ⟨fun _ h => (by cases h), fun _ h => (by cases h)⟩

theorem honest_none : Honest P status body (.ok none) ↔ Successful status :=
  ⟨fun h => h.success none rfl, fun h => ⟨fun _ _ => h, fun _ h => by cases h⟩⟩

theorem honest_message (hd : P.utf8Decode body = .ok data) (hm : deserialize P data = .ok m) :
    Honest P status body (.ok (some m)) ↔ Successful status := by
  refine ⟨fun h => h.success _ rfl, fun h => ⟨fun _ _ => h, fun m' h' => ?_⟩⟩
  cases h'
  exact ⟨data, hd, hm⟩

theorem send_undecoded {endpoint : Endpoint} {timeout : PyStr}
    (hd : P.utf8Decode body = .error e) :
    TransportClient.send P endpoint timeout (.answer status body) = .error e := by
  simp only [TransportClient.send, doPost, hd]
  rfl

end Verdict

variable (P) in
/-- The direct transport is misled: the status is no success and below 400, and the body is empty
or a message. -/
def MisleadsClient (status : ℕ) (body : List UInt8) : Prop :=
  ¬ Successful status ∧ status < 400 ∧ ∃ data, P.utf8Decode body = .ok data
    ∧ (data = [] ∨ ∃ m, deserialize P data = .ok m)

variable (P) in
/-- The transport through the broker is misled: the status is no success and there is no body. -/
def MisleadsBrokered (status : ℕ) (body : List UInt8) : Prop :=
  ¬ Successful status ∧ P.utf8Decode body = .ok []

theorem client_honest_iff (endpoint : Endpoint) (timeout : PyStr) (status : ℕ)
    (body : List UInt8) :
    Honest P status body (TransportClient.send P endpoint timeout (.answer status body))
      ↔ ¬ MisleadsClient P status body := by
  unfold MisleadsClient
  rcases hd : P.utf8Decode body with e | data
  · rw [send_undecoded hd]
    exact iff_of_true honest_error (by simp)
  rw [send_answer endpoint timeout hd, TransportClient.reply]
  simp only [Except.ok.injEq, exists_eq_left']
  split_ifs with hstatus hempty
  · exact iff_of_true honest_error fun h => absurd h.2.1 (not_lt.2 hstatus)
  · rw [honest_none]
    rcases hempty with rfl | rfl
    · exact iff_of_true ⟨by omega, by omega⟩ fun h => h.1 ⟨by omega, by omega⟩
    · simp [not_le.1 hstatus]
  · rcases hm : deserialize P data with e | m
    · simp only
      split_ifs <;> refine iff_of_true honest_error ?_ <;> simp [not_or.1 hempty]
    · rw [honest_message hd hm]
      simp [not_le.1 hstatus]

open NetworkedBrokerTransport in
theorem brokered_honest_iff (m : Message) (timeout : PyStr) (status : ℕ) (body : List UInt8) :
    Honest P status body (send P m timeout (.answer status body))
      ↔ ¬ MisleadsBrokered P status body := by
  unfold MisleadsBrokered
  rcases hd : P.utf8Decode body with e | data
  · have hsend : send P m timeout (.answer status body) = .error e := by
      simp only [send, doPost, hd]
      rfl
    rw [hsend]
    exact iff_of_true honest_error (by simp)
  have hsend : send P m timeout (.answer status body) = reply P m status data := by
    simp only [send, doPost, hd]
    rfl
  rw [hsend, reply, Except.ok.injEq]
  split_ifs with hstatus hnone
  · have hgood : Successful status := ⟨by omega, by omega⟩
    rcases hm : deserialize P data with e | r
    · simp only
      split_ifs <;> exact iff_of_true honest_error fun h => h.1 hgood
    · rw [honest_message hd hm]
      exact iff_of_true hgood fun h => h.1 hgood
  · rw [honest_none]
    rcases hnone with rfl | rfl | rfl
    · exact iff_of_true ⟨by omega, by omega⟩ fun h => h.1 ⟨by omega, by omega⟩
    · exact iff_of_true ⟨by omega, by omega⟩ fun h => h.1 ⟨by omega, by omega⟩
    · simp
  · rw [not_or, not_or] at hnone
    exact iff_of_true honest_error fun h => hnone.2.2 h.2

/-- The direct transport reports no failure as a success unless a status below 400 that is no
success comes with an empty body or a message, and the one through the broker unless a status that
is no success comes with an empty body. -/
theorem transports_honest_iff (endpoint : Endpoint) (m : Message) (timeout : PyStr) (status : ℕ)
    (body : List UInt8) :
    (Honest P status body (TransportClient.send P endpoint timeout (.answer status body))
      ↔ ¬ MisleadsClient P status body)
    ∧ (Honest P status body (NetworkedBrokerTransport.send P m timeout (.answer status body))
      ↔ ¬ MisleadsBrokered P status body) :=
  ⟨client_honest_iff endpoint timeout status body, brokered_honest_iff m timeout status body⟩

def listener : Endpoint := { agentId := lit "a", host := lit "h", port := 8080 }

/-- A redirect and a server error, neither with a body, are both taken for a success. -/
theorem failures_accepted :
    TransportClient.send (plainPython []) listener (lit "5.0") (.answer 302 []) = .ok none
      ∧ NetworkedBrokerTransport.send (plainPython []) question (lit "5.0") (.answer 500 [])
        = .ok none
      ∧ ¬ Successful 302 ∧ ¬ Successful 500 :=
  ⟨rfl, rfl, by decide, by decide⟩

end AgentComm
