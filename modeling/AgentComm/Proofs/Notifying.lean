import AgentComm.Proofs.Contract
import AgentComm.Sdk.Notification

/-!
# Delivery at least once

A notification that is sent without an exception has been queued for its recipient, once for the
answer that came back and once more for every answer that was lost before it.
-/

namespace AgentComm

open Lib

variable {P : Python} {cfg : ServerConfig} {m : Message} {a r : PyStr} {token : Option PyStr}

/-! ### Attempts -/

section Attempts

variable {α : Type} {func : ℕ → Except Exc α}

theorem retried_unanswered {answered : ℕ → Bool}
    {v : α} (hsent : ∀ i, answered i = true → func i = .ok v) {i : ℕ} (h : Retried (func i)) :
    answered i = false := by
  by_contra hne
  rw [hsent i (by simpa using hne)] at h
  exact not_retried_ok h

/-- Where every attempt is answered or tried again, the call ends at the first answer. -/
theorem retryCall_answered (policy : RetryPolicy) {answered : ℕ → Bool} {v : α}
    (hretried : ∀ i, answered i = false → Retried (func i))
    (hsent : ∀ i, answered i = true → func i = .ok v) :
    retryCall func policy = .ok v ∧ (attemptsMade func policy).countP answered = 1
      ∨ (∃ e c, retryCall func policy = .error (e, c) ∧ e.kind = .deliveryError)
        ∧ (attemptsMade func policy).countP answered = 0 := by
  have hunanswered : ∀ {is : List ℕ}, (∀ i ∈ is, Retried (func i)) → is.countP answered = 0 :=
    fun his => List.countP_eq_zero.2 fun i hi => by simp [retried_unanswered hsent (his i hi)]
  rcases retryCall_cases func policy with
    ⟨i, ⟨hi, hno, hbefore⟩, -, hres, hmade⟩ | ⟨hall, ⟨c, hres⟩, hmade⟩
  · have hanswered : answered i = true := by
      by_contra hne
      exact hno (hretried i (by simpa using hne))
    refine .inl ⟨by rw [hres, hsent i hanswered]; rfl, ?_⟩
    obtain ⟨k, rfl⟩ : ∃ k, i = k + 1 := ⟨i - 1, by omega⟩
    have hfirst : (List.range' 1 k).countP answered = 0 := hunanswered fun j hj => by
      rw [List.mem_range'_1] at hj
      exact hbefore j hj.1 (by omega)
    have hcount : [1 + k].countP answered = 1 := by simp [Nat.add_comm 1 k, hanswered]
    rw [hmade, List.range'_concat, List.countP_append, hfirst, Nat.one_mul, hcount]
  · refine .inr ⟨⟨policy.gaveUp, c, hres, gaveUp_kind⟩, ?_⟩
    rw [hmade]
    refine hunanswered fun j hj => ?_
    rw [List.mem_range'_1] at hj
    exact hall j hj.1 (by omega)

end Attempts

theorem buildNotification_valid {st : Stamp} {extra body : Fields} {n : ℤ}
    (hone : P.int (lit "1") = .ok n) (ha : a ≠ []) (hid : st.messageId ≠ [])
    (htime : st.timestamp ≠ []) :
    validate P (Agent.buildNotification st a r extra body) = .ok () :=
  validate_of_parts hone hid rfl rfl ha htime ⟨none, rfl⟩

variable (P cfg a r token m) in
/-- The broker lets the client in, under its id or the empty one, and the recipient has a mailbox
there. -/
structure Attempt.Meets (x : Attempt) : Prop where
  admitted : ∃ p, (p = [] ∨ p = a)
    ∧ Admitted P cfg x.env (NetworkedBrokerTransport.sendRequest P token m) x.broker p
  mailbox : ∃ e, x.broker.stores.registry.get? r = some e ∧ e.mailbox = true

/-- An attempt that reaches the broker queues the message. -/
theorem Attempt.Meets.served {x : Attempt} (h : x.Meets P cfg m a r token)
    (hm : ∀ p, p = [] ∨ p = a → Accepted P cfg p r m) (hc : Conveys P (.obj (toDict P m)))
    (hr : r ≠ []) (hae : encodable a = true) (hre : encodable r = true) :
    (handle P cfg x.env (NetworkedBrokerTransport.sendRequest P token m) x.broker).1.httpAnswer P
        = .answer 202 []
      ∧ (handle P cfg x.env (NetworkedBrokerTransport.sendRequest P token m)
          x.broker).2.stores = x.broker.stores.enqueue r (serialize P m) := by
  obtain ⟨e, he, hbox⟩ := h.mailbox
  have hpost : (NetworkedBrokerTransport.sendRequest P token m).method = lit "POST" := rfl
  obtain ⟨p, hp, hadmitted⟩ := h.admitted
  rcases post_cases P cfg x.env x.broker hpost with ⟨hnone, -⟩ | ⟨q, b', -, hone, hs, -, hserve⟩
  · exact absurd hadmitted (hnone _)
  · obtain rfl := hone _ hadmitted
    have hhandle : handle P cfg x.env (NetworkedBrokerTransport.sendRequest P token m) x.broker
        = handleSend P cfg x.env (messagePost P m) p b' := by
      have hpath : (NetworkedBrokerTransport.sendRequest P token m).path ≠ lit "/agents" :=
        messages_ne_agents
      rw [hserve, servePost, if_neg hpath]
      rfl
    rw [← hs] at he
    have hpe : encodable p = true := by
      rcases hp with rfl | rfl
      · rfl
      · exact hae
    have haccepted := hm p hp
    obtain ⟨hanswer, hqueued⟩ := handleSend_queued x.env hc haccepted.fits haccepted.valid
      haccepted.name haccepted.recipient hr he hbox hpe hre
    rw [hhandle, ← hs]
    exact ⟨hanswer, hqueued⟩

/-! ### Copies -/

theorem Fate.reaches_of_isAnswered {x : Fate} (h : x.isAnswered = true) : x.reaches = true := by
  cases x <;> simp [isAnswered, reaches] at h ⊢

/-- An attempt that reaches the broker is answered, or its answer is lost. -/
theorem Fate.countP_reaches (fate : ℕ → Fate) (is : List ℕ) :
    is.countP (fun i => (fate i).reaches)
      = is.countP (fun i => (fate i).isUnanswered) + is.countP (fun i => (fate i).isAnswered) := by
  induction is with
  | nil => rfl
  | cons i is ih =>
    rw [List.countP_cons, List.countP_cons, List.countP_cons, ih]
    cases fate i <;> simp only [reaches, isUnanswered, isAnswered] <;> simp <;> omega

variable (P cfg token m) in
/-- The message is queued at each attempt that reaches the broker, and nowhere else. A call returns
at the first answer; it has left one copy more than answers were lost, or as many where none came
back. -/
structure AtLeastOnce (policy : RetryPolicy) (attempt : ℕ → Attempt) (r : PyStr)
    (o : Router.Routed) : Prop where
  attempts : ∃ k, k ≤ policy.maxAttempts.toNat ∧ o.attempts = List.range' 1 k
  queued : ∀ i ∈ o.attempts, ((attempt i).post P cfg token m).2.stores
    = if (attempt i).fate.reaches then (attempt i).broker.stores.enqueue r (serialize P m)
      else (attempt i).broker.stores
  returned : (∃ v, o.result = .ok v) ↔ ∃ i ∈ o.attempts, (attempt i).fate.isAnswered = true
  copies : ∀ v, o.result = .ok v → v = none ∧ o.attempts.countP (fun i => (attempt i).fate.reaches)
    = o.attempts.countP (fun i => (attempt i).fate.isUnanswered) + 1
  raised : ∀ e, o.result = .error e → e.kind = .deliveryError
    ∧ o.attempts.countP (fun i => (attempt i).fate.reaches)
      = o.attempts.countP (fun i => (attempt i).fate.isUnanswered)

variable {policy : RetryPolicy} {timeout : PyStr} {attempt : ℕ → Attempt}

/-- What goes wrong on the way is a timeout, or the connection fails. -/
def Faults (attempt : ℕ → Attempt) : Prop :=
  ∀ i e, (attempt i).fate.exception? = some e → e.isOSError = true

variable (P cfg token m timeout) in
theorem send_fault (hfaults : Faults attempt) {i : ℕ}
    (h : (attempt i).fate.isAnswered = false) :
    Retried (NetworkedBrokerTransport.send P m timeout ((attempt i).post P cfg token m).1) := by
  obtain ⟨e, he⟩ : ∃ e, (attempt i).fate.exception? = some e := by
    cases hf : (attempt i).fate <;> simp [hf, Fate.isAnswered, Fate.exception?] at h ⊢
  have hmeets : ((attempt i).post P cfg token m).1 = .raises e := by
    unfold Attempt.post
    cases hf : (attempt i).fate <;> simp_all [Fate.exception?]
  have hos := hfaults i e he
  rw [hmeets]
  unfold Retried NetworkedBrokerTransport.send doPost
  simp only [hos, if_true]
  split_ifs
  · exact ⟨_, rfl, rfl⟩
  · exact ⟨_, rfl, rfl⟩

theorem send_queued {i : ℕ} (hempty : P.utf8Decode [] = .ok [])
    (hmeets : (attempt i).Meets P cfg m a r token)
    (hm : ∀ p, p = [] ∨ p = a → Accepted P cfg p r m) (hc : Conveys P (.obj (toDict P m)))
    (hr : r ≠ []) (hae : encodable a = true) (hre : encodable r = true)
    (h : (attempt i).fate.isAnswered = true) :
    NetworkedBrokerTransport.send P m timeout ((attempt i).post P cfg token m).1 = .ok none := by
  have hanswered : (attempt i).fate = .answered := by
    cases hf : (attempt i).fate <;> simp [hf, Fate.isAnswered] at h ⊢
  have hpost : ((attempt i).post P cfg token m).1 = .answer 202 [] := by
    simp only [Attempt.post, hanswered]
    exact (hmeets.served hm hc hr hae hre).1
  rw [hpost]
  exact send_empty hempty (by omega)

/-- A message that the broker takes for the recipient's mailbox. -/
theorem at_least_once_of_accepted {port : ℤ} {listing : HttpAnswer}
    (hempty : P.utf8Decode [] = .ok [])
    (hlisted : ∃ e, BrokeredRegistry.lookup P port listing m.metadata.recipient = .ok e)
    (hmeets : ∀ i, (attempt i).fate.reaches = true → (attempt i).Meets P cfg m a r token)
    (hfaults : Faults attempt) (hm : ∀ p, p = [] ∨ p = a → Accepted P cfg p r m)
    (hc : Conveys P (.obj (toDict P m)))
    (hr : r ≠ []) (hae : encodable a = true) (hre : encodable r = true) :
    AtLeastOnce P cfg m token policy attempt r
      (Agent.sendNotification P cfg port policy timeout token listing attempt m) := by
  obtain ⟨e, he⟩ := hlisted
  set send := fun i => NetworkedBrokerTransport.send P m timeout ((attempt i).post P cfg token m).1
  have hroute : Agent.sendNotification P cfg port policy timeout token listing attempt m
      = ⟨(retryCall send policy).mapError Prod.fst, attemptsMade send policy⟩ := by
    have htruthy : m.metadata.recipient.truthy = true := by
      rw [(hm [] (.inl rfl)).recipient]
      simpa [Json.truthy] using hr
    rw [Agent.sendNotification, Router.routeBrokered, htruthy]
    simp only [he]
    rfl
  have hretried : ∀ i, (attempt i).fate.isAnswered = false → Retried (send i) := fun i hi =>
    send_fault P cfg m token timeout hfaults hi
  have hsent : ∀ i, (attempt i).fate.isAnswered = true → send i = .ok none := fun i hi =>
    send_queued hempty (hmeets i (Fate.reaches_of_isAnswered hi)) hm hc hr hae hre hi
  have hqueued : ∀ i, ((attempt i).post P cfg token m).2.stores
      = if (attempt i).fate.reaches then (attempt i).broker.stores.enqueue r (serialize P m)
        else (attempt i).broker.stores := by
    intro i
    have hserved := fun h => ((hmeets i h).served hm hc hr hae hre).2
    unfold Attempt.post
    cases hf : (attempt i).fate <;> simp [hf, Fate.reaches] at hserved ⊢ <;> exact hserved
  have hcounts := Fate.countP_reaches (fun i => (attempt i).fate) (attemptsMade send policy)
  have hattempts := attemptsMade_range send policy
  rw [hroute]
  rcases retryCall_answered policy hretried hsent with
    ⟨hres, hone⟩ | ⟨⟨e, c, hres, hk⟩, hnone⟩
  · have hpos := List.countP_pos_iff.1 (hone ▸ Nat.one_pos)
    rw [hone] at hcounts
    refine ⟨hattempts, fun i _ => hqueued i, ?_, fun v hv => ?_, fun e he => ?_⟩
    · exact iff_of_true ⟨none, by simp only [hres, Except.mapError]⟩ hpos
    · simp only [hres, Except.mapError, Except.ok.injEq] at hv
      exact ⟨hv.symm, hcounts⟩
    · simp only [hres, Except.mapError] at he
      cases he
  · rw [hnone, Nat.add_zero] at hcounts
    refine ⟨hattempts, fun i _ => hqueued i, ?_, fun v hv => ?_, fun e' he => ?_⟩
    · refine iff_of_false ?_ fun h => ?_
      · rintro ⟨v, hv⟩
        simp only [hres, Except.mapError] at hv
        cases hv
      · have hpos := List.countP_pos_iff.2 h
        rw [hnone] at hpos
        exact absurd hpos (lt_irrefl 0)
    · simp only [hres, Except.mapError] at hv
      cases hv
    · simp only [hres, Except.mapError, Except.error.injEq] at he
      exact ⟨he ▸ hk, hcounts⟩

variable (P cfg) in
/-- What the lookup raises the notification raises, with no attempt made. -/
theorem sendNotification_unlisted {port : ℤ} {listing : HttpAnswer} {e : Exc}
    (hr : m.metadata.recipient = .str r) (hne : r ≠ [])
    (h : BrokeredRegistry.lookup P port listing (.str r) = .error e) :
    Agent.sendNotification P cfg port policy timeout token listing attempt m = ⟨.error e, []⟩ := by
  have htruthy : (Json.str r).truthy = true := by simpa [Json.truthy] using hne
  rw [Agent.sendNotification, Router.routeBrokered, hr, htruthy]
  simp only [h]
  rfl

/-- A notification fails with the lookup, before any attempt. Where the recipient is listed and has
a mailbox, it is delivered at least once. -/
theorem notification_at_least_once {st : Stamp} {extra body : Fields} {n port : ℤ}
    {listing : HttpAnswer} (hone : P.int (lit "1") = .ok n) (hempty : P.utf8Decode [] = .ok [])
    (hid : st.messageId ≠ []) (htime : st.timestamp ≠ []) (ha : a ≠ []) (hr : r ≠ [])
    (hae : encodable a = true) (hre : encodable r = true)
    (hc : Conveys P (.obj (toDict P (Agent.buildNotification st a r extra body))))
    (hfits : Fits P cfg (Agent.buildNotification st a r extra body))
    (hmeets : ∀ i, (attempt i).fate.reaches = true →
      (attempt i).Meets P cfg (Agent.buildNotification st a r extra body) a r token)
    (hfaults : Faults attempt) :
    let o := Agent.sendNotification P cfg port policy timeout token listing attempt
      (Agent.buildNotification st a r extra body)
    (∀ e, BrokeredRegistry.lookup P port listing (.str r) = .error e → o = ⟨.error e, []⟩)
      ∧ ((∃ e, BrokeredRegistry.lookup P port listing (.str r) = .ok e) → AtLeastOnce P cfg
        (Agent.buildNotification st a r extra body) token policy attempt r o) := by
  have haccepted : ∀ p, p = [] ∨ p = a →
      Accepted P cfg p r (Agent.buildNotification st a r extra body) := fun p hp =>
    ⟨buildNotification_valid hone ha hid htime, hfits, ownName_of_sender hp rfl, rfl⟩
  exact ⟨fun e he => sendNotification_unlisted P cfg rfl hr he, fun hlisted =>
    at_least_once_of_accepted hempty hlisted hmeets hfaults haccepted hc hr hae hre⟩

/-! ### An answer that is lost -/

/-- A notification of agent `a` to agent `b`. -/
abbrev noticed : Message := Agent.buildNotification ⟨lit "now", lit "1"⟩ (lit "a") (lit "b") [] []

def noticedListing : Json := .obj [(lit "agents", .arr [.obj [(lit "agent_id", .str (lit "b"))]])]

def noticedValues : List Json := [.obj (toDict (plainPython []) noticed), noticedListing]

def noticedPython : Python := asciiPython (noticedValues.map fun v => (jsonText v, v))

/-- The answer to the first attempt is lost. -/
def noticedAttempt (i : ℕ) : Attempt :=
  ⟨callEnv, callBroker, if i = 1 then .unanswered ⟨.timeoutError, lit "timed out"⟩ else .answered⟩

theorem noticedPython_conveys {v : Json} (hv : v ∈ noticedValues) : Conveys noticedPython v :=
  asciiPython_conveys hv (by decide +kernel) (by decide +kernel)

theorem noticed_fits : Fits noticedPython .defaults noticed := by
  unfold Fits
  decide +kernel

theorem noticed_listed : ∃ e, BrokeredRegistry.lookup noticedPython 8000
    (.answer 200 (asciiEncode (jsonText noticedListing))) (.str (lit "b")) = .ok e := by
  have hlisting : Conveys noticedPython noticedListing :=
    noticedPython_conveys (.tail _ (.head _))
  have hrequest : BrokeredRegistry.request noticedPython
      (.answer 200 (asciiEncode (jsonText noticedListing))) = .ok (200, noticedListing) := by
    have hdata : noticedPython.utf8Decode (asciiEncode (jsonText noticedListing))
        = .ok (jsonText noticedListing) := hlisting.sent
    have hread : noticedPython.jsonLoads (jsonText noticedListing) = .ok noticedListing :=
      hlisting.read
    have hne : jsonText noticedListing ≠ [] := hlisting.nonempty
    simp only [BrokeredRegistry.request, hdata, bind, Except.bind, if_neg hne, hread]
    rfl
  refine ⟨⟨.str (lit "b"), lit "broker", 8000⟩, ?_⟩
  simp only [BrokeredRegistry.lookup, hrequest, bind, Except.bind]
  rfl

theorem notification_at_least_once_noticed :
    AtLeastOnce noticedPython .defaults noticed none Agent.defaultRetryPolicy noticedAttempt
      (lit "b") (Agent.sendNotification noticedPython .defaults 8000 Agent.defaultRetryPolicy
        (lit "5.0") none (.answer 200 (asciiEncode (jsonText noticedListing))) noticedAttempt
        noticed) := by
  refine (notification_at_least_once (n := 1) rfl rfl (by decide) (by decide) (by decide)
    (by decide) (by decide) (by decide) (noticedPython_conveys (.head _)) noticed_fits
    (fun i _ => ⟨⟨[], .inl rfl, rfl, rfl⟩, ⟨_, rfl, rfl⟩⟩) fun i e h => ?_).2 noticed_listed
  unfold noticedAttempt at h
  split_ifs at h
  · cases h
    rfl
  · cases h

end AgentComm
