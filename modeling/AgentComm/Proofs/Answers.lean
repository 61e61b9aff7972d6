import AgentComm.Proofs.Decoding
import AgentComm.Proofs.Isolation
import AgentComm.Proofs.Retries

/-!
# One answer for each POST

A handler answers a POST exactly once when nothing escapes it: the body is UTF-8, the decoder
raises protocol errors only, the audit line can be written, and what the recipient's endpoint
answers is one of the failures the client turns into a transport error.
-/

namespace AgentComm

open Lib

variable {P : Python} {cfg : ServerConfig} {env : Env} {req : Request} {p : PyStr} {b : Broker}
variable {m : Message}

/-! ### The endpoint of a recipient -/

variable (P) in
/-- The endpoint cannot be reached, or what it answers is no reply. -/
def Unusable : HttpAnswer → Prop
  | .raises _ => True
  | .answer status body => ∀ data, P.utf8Decode body = .ok data →
    400 ≤ status ∨ status ≠ 204 ∧ data ≠ [] ∧ ∃ e, deserialize P data = .error e

variable (P) in
/-- What the client makes of it is no transport error: an exception of `http.client` that is no
`OSError`, bytes that are not UTF-8, or a reply the decoder raises on. -/
def Garbles : HttpAnswer → Prop
  | .raises e => e.isOSError = false ∧ e.isTransportError = false
  | .answer status body => ∀ data, P.utf8Decode body = .ok data →
    status < 400 ∧ status ≠ 204 ∧ data ≠ []
      ∧ ∃ e, deserialize P data = .error e ∧ e.isProtocolError = false

section Send

variable (endpoint : Endpoint) (timeout : PyStr)

variable (P) in
/-- The exceptions `_do_post` turns into transport errors are those `OSError` covers. -/
theorem doPost_raises (label : PyStr) (e : Exc) :
    ∃ e', doPost P timeout label (.raises e) = .error e'
      ∧ (e'.isTransportError = true ↔ ¬ (e.isOSError = false ∧ e.isTransportError = false)) := by
  simp only [doPost]
  split_ifs with htime hos
  · exact ⟨_, rfl, by simp [Exc.isTransportError, Exc.isOSError, htime]⟩
  · exact ⟨_, rfl, by simp [Exc.isTransportError, hos]⟩
  · exact ⟨_, rfl, by simp [hos]⟩

theorem send_answer {status : ℕ} {body : List UInt8} {data : PyStr}
    (h : P.utf8Decode body = .ok data) :
    TransportClient.send P endpoint timeout (.answer status body)
      = TransportClient.reply P endpoint.url status data := by
  simp only [TransportClient.send, doPost, h]
  rfl

theorem send_undecodable (hP : Library P) {status : ℕ} {body : List UInt8}
    (h : ∀ data, P.utf8Decode body ≠ .ok data) :
    ∃ e, TransportClient.send P endpoint timeout (.answer status body) = .error e
      ∧ e.isTransportError = false := by
  rcases hd : P.utf8Decode body with e | data
  · refine ⟨e, by simp only [TransportClient.send, doPost, hd]; rfl, ?_⟩
    simp [Exc.isTransportError, hP.utf8 _ _ hd]
  · exact absurd hd (h data)

theorem reply_error (hP : Library P) {url : PyStr} {status : ℕ} {data : PyStr} :
    (∃ e, TransportClient.reply P url status data = .error e ∧ e.isTransportError = false)
      ↔ status < 400 ∧ status ≠ 204 ∧ data ≠ []
        ∧ ∃ e, deserialize P data = .error e ∧ e.isProtocolError = false := by
  unfold TransportClient.reply
  split_ifs with hstatus hnone
  · simp [Exc.isTransportError, hstatus]
  · simp only [false_and, exists_false, false_iff]
    rintro ⟨-, h204, hdata, -⟩
    exact hnone.elim h204 hdata
  · rw [not_or] at hnone
    rcases hd : deserialize P data with e | m
    · simp only [Except.error.injEq, exists_eq_left']
      split_ifs with hproto
      · simp [Exc.isTransportError, hproto]
      · simp only [Except.error.injEq, exists_eq_left', hproto]
        have hno := (deserialize_error hP hd).resolve_left fun hc => hproto hc.protocol
        simp [hno.2.1, hnone, not_le.1 hstatus]
    · simp

theorem reply_failed {url : PyStr} {status : ℕ} {data : PyStr} :
    (∃ e, TransportClient.reply P url status data = .error e)
      ↔ 400 ≤ status ∨ status ≠ 204 ∧ data ≠ [] ∧ ∃ e, deserialize P data = .error e := by
  unfold TransportClient.reply
  split_ifs with hstatus hnone
  · simp [hstatus]
  · simp only [exists_false, hstatus, false_or, false_iff]
    rintro ⟨h204, hdata, -⟩
    exact hnone.elim h204 hdata
  · rw [not_or] at hnone
    rcases hd : deserialize P data with e | m
    · by_cases hproto : e.isProtocolError = true <;> simp [hproto, hnone]
    · simp [hstatus]

/-- The client raises something other than a transport error where it garbles. -/
theorem send_garbled (hP : Library P) (a : HttpAnswer) :
    (∃ e, TransportClient.send P endpoint timeout a = .error e ∧ e.isTransportError = false)
      ↔ Garbles P a := by
  cases a with
  | raises e =>
    obtain ⟨e', he', ht⟩ := doPost_raises P timeout endpoint.url e
    have hsend : TransportClient.send P endpoint timeout (.raises e) = .error e' := by
      simp only [TransportClient.send, he']
      rfl
    simp only [hsend, Except.error.injEq, exists_eq_left', Garbles]
    rw [← Bool.not_eq_true, ht, not_not]
  | answer status body =>
    rcases hd : P.utf8Decode body with e | data
    · have hno : ∀ data, P.utf8Decode body ≠ .ok data := by simp [hd]
      exact iff_of_true (send_undecodable endpoint timeout hP hno) fun data h => absurd h (hno data)
    · rw [send_answer endpoint timeout hd, reply_error hP]
      simp [Garbles, hd]

theorem send_failed (hP : Library P) (a : HttpAnswer) :
    (∃ e, TransportClient.send P endpoint timeout a = .error e) ↔ Unusable P a := by
  cases a with
  | raises e =>
    obtain ⟨e', he', -⟩ := doPost_raises P timeout endpoint.url e
    refine iff_of_true ⟨e', ?_⟩ trivial
    simp only [TransportClient.send, he']
    rfl
  | answer status body =>
    rcases hd : P.utf8Decode body with e | data
    · have hno : ∀ data, P.utf8Decode body ≠ .ok data := by simp [hd]
      obtain ⟨e, he, -⟩ := send_undecodable endpoint timeout hP hno
      exact iff_of_true ⟨e, he⟩ fun data h => absurd h (hno data)
    · rw [send_answer endpoint timeout hd, reply_failed]
      simp [Unusable, hd]

theorem send_retried (hP : Library P) (a : HttpAnswer) :
    Retried (TransportClient.send P endpoint timeout a) ↔ Unusable P a ∧ ¬ Garbles P a := by
  rw [← send_failed endpoint timeout hP,
    ← send_garbled endpoint timeout hP, Retried]
  rcases TransportClient.send P endpoint timeout a with e | r <;> simp

end Send

section Route

variable {endpoint : Endpoint} {a : PyStr}

variable (P cfg env) in
/-- The router makes attempt `i`: all before it failed in a way that is tried again after. -/
structure Reached (i : ℕ) : Prop where
  first : 1 ≤ i
  last : i ≤ cfg.retryPolicy.maxAttempts.toNat
  before : ∀ j, 1 ≤ j → j < i → Unusable P (env.network j) ∧ ¬ Garbles P (env.network j)

variable (cfg env) in
/-- The router's result is that of the first attempt that is not retried, if there is one. -/
theorem route_cases (hP : Library P) {registry : Registry} (hto : m.metadata.recipient = .str a)
    (ha : m.metadata.recipient.truthy = true) (he : registry.get? a = some endpoint) :
    (∃ i, Reached P cfg env i ∧ ¬ (Unusable P (env.network i) ∧ ¬ Garbles P (env.network i))
      ∧ Router.route P registry cfg.retryPolicy cfg.routerTimeout env.network m
        = TransportClient.send P endpoint cfg.routerTimeout (env.network i))
    ∨ (∀ i, Reached P cfg env i → Unusable P (env.network i) ∧ ¬ Garbles P (env.network i))
      ∧ ∃ e, Router.route P registry cfg.retryPolicy cfg.routerTimeout env.network m = .error e
        ∧ e.kind = .deliveryError := by
  have hlookup : registry.lookup P m.metadata.recipient = .ok endpoint := by
    simp only [hto, Registry.lookup, he]
  simp only [Router.route, ha, Bool.not_true, Bool.false_eq_true, if_false, hlookup]
  have hretried := send_retried endpoint cfg.routerTimeout hP
  rcases retryCall_cases (fun i => TransportClient.send P endpoint cfg.routerTimeout
      (env.network i)) cfg.retryPolicy with
    ⟨i, ⟨hi, hno, hbefore⟩, hle, hres, -⟩ | ⟨hall, ⟨c, hres⟩, -⟩ <;> rw [hres]
  · simp only [hretried] at hno hbefore
    refine .inl ⟨i, ⟨hi, by omega, hbefore⟩, hno, ?_⟩
    rcases TransportClient.send P endpoint cfg.routerTimeout (env.network i) with e | r <;> rfl
  · simp only [hretried] at hall
    have hreached : ∀ i, Reached P cfg env i →
        Unusable P (env.network i) ∧ ¬ Garbles P (env.network i) := fun i hi => by
      obtain ⟨hfirst, hlast, -⟩ := hi
      exact hall i hfirst (by omega)
    exact .inr ⟨hreached, _, rfl, gaveUp_kind⟩

theorem routeSend_delivery {registry : Registry} {e : Exc}
    (h : Router.route P registry cfg.retryPolicy cfg.routerTimeout env.network m = .error e)
    (hk : e.kind = .deliveryError) :
    ∃ body, routeSend P cfg env registry m = .ok (502, some body) := by
  simp [routeSend, h, hk]

/-- The router's result becomes an answer when no attempt it makes is garbled. -/
theorem routeSend_iff (hP : Library P) {registry : Registry}
    (hto : m.metadata.recipient = .str a) (ha : m.metadata.recipient.truthy = true)
    (he : registry.get? a = some endpoint) :
    (∃ r, routeSend P cfg env registry m = .ok r)
      ↔ ∀ i, Reached P cfg env i → ¬ Garbles P (env.network i) := by
  rcases route_cases cfg env hP hto ha he with
    ⟨i, hi, hno, hroute⟩ | ⟨hall, e, hroute, hk⟩
  · by_cases hg : Garbles P (env.network i)
    · obtain ⟨e, hsend, ht⟩ := (send_garbled endpoint cfg.routerTimeout hP _).2 hg
      rw [hsend] at hroute
      simp only [Exc.isTransportError, List.mem_cons, List.not_mem_nil, or_false,
        decide_eq_false_iff_not, not_or] at ht
      simp only [routeSend, hroute, if_neg ht.2.1, if_neg ht.2.2.2, reduceCtorEq, exists_false,
        false_iff, not_forall]
      exact ⟨i, hi, fun h => h hg⟩
    · have hsent : ¬ ∃ e, TransportClient.send P endpoint cfg.routerTimeout (env.network i)
          = .error e := fun h => hno ⟨(send_failed endpoint cfg.routerTimeout hP _).1 h, hg⟩
      rcases hsend : TransportClient.send P endpoint cfg.routerTimeout (env.network i) with e | r
      · exact absurd ⟨e, hsend⟩ hsent
      rw [hsend] at hroute
      refine iff_of_true ?_ fun j hj => ?_
      · cases r <;> simp [routeSend, hroute]
      · rcases lt_trichotomy j i with hji | rfl | hij
        · exact (hi.before j hj.first hji).2
        · exact hg
        · exact absurd (hj.before i hi.first hij) hno
  · obtain ⟨body, hbody⟩ := routeSend_delivery hroute hk
    exact iff_of_true ⟨_, hbody⟩ fun i hi => (hall i hi).2

/-- A recipient that no attempt gets a reply from comes to a 502. -/
theorem routeSend_unreachable (hP : Library P) {registry : Registry}
    (hto : m.metadata.recipient = .str a) (ha : m.metadata.recipient.truthy = true)
    (he : registry.get? a = some endpoint)
    (hclean : ∀ i, Reached P cfg env i → ¬ Garbles P (env.network i))
    (hdown : ∀ i, 1 ≤ i → i ≤ cfg.retryPolicy.maxAttempts.toNat → Unusable P (env.network i)) :
    ∃ body, routeSend P cfg env registry m = .ok (502, some body) := by
  rcases route_cases cfg env hP hto ha he with
    ⟨i, hi, hno, -⟩ | ⟨-, e, hroute, hk⟩
  · exact absurd ⟨hdown i hi.first hi.last, hclean i hi⟩ hno
  · exact routeSend_delivery hroute hk

end Route

/-! ### Answers and audit lines -/

/-- No exception escaped and one response was written. -/
def Outcome.Once (o : Outcome) : Prop := o.raised = none ∧ ∃ r, o.written = [r]

/-- The audit line can be written out. -/
def AuditRecord.Loggable (r : AuditRecord) : Prop :=
  (encodable r.action && encodable r.agentId && encodable r.path && encodable r.detail) = true

section Logs

variable {r : AuditRecord} {resp : Response} {b' : Broker}

theorem answer_once : (Outcome.answer resp).Once := ⟨rfl, resp, rfl⟩

theorem not_crash_once {e : Exc} : ¬ (Outcome.crash e).Once := fun h => nomatch h.1

theorem log_of_loggable (h : r.Loggable) : b.log r = .ok { b with audit := b.audit ++ [r] } :=
  if_pos h

theorem log_of_not_loggable (h : ¬ r.Loggable) : ∃ e, b.log r = .error e := ⟨_, if_neg h⟩

theorem logThenAnswer_once : (logThenAnswer b r resp).1.Once ↔ r.Loggable := by
  by_cases h : r.Loggable
  · rw [logThenAnswer, log_of_loggable h]
    exact iff_of_true answer_once h
  · obtain ⟨e, he⟩ := log_of_not_loggable (b := b) h
    rw [logThenAnswer, he]
    exact iff_of_false not_crash_once h

theorem answerThenLog_once : (answerThenLog b r resp).1.Once ↔ r.Loggable := by
  by_cases h : r.Loggable
  · rw [answerThenLog, log_of_loggable h]
    exact iff_of_true answer_once h
  · obtain ⟨e, he⟩ := log_of_not_loggable (b := b) h
    rw [answerThenLog, he]
    exact iff_of_false (fun h => nomatch h.1) h

/-- The traffic buffer and the rate buckets are as they were. -/
structure Unmarked (b b' : Broker) : Prop where
  traffic : b'.trafficBuffer = b.trafficBuffer
  buckets : b'.rateBuckets = b.rateBuckets

theorem Unmarked.refl (b : Broker) : Unmarked b b := ⟨rfl, rfl⟩

theorem Unmarked.trans {b'' : Broker} (h : Unmarked b b') (h' : Unmarked b' b'') :
    Unmarked b b'' :=
  ⟨h'.traffic.trans h.traffic, h'.buckets.trans h.buckets⟩

theorem Unmarked.log {b'' : Broker} (h : Unmarked b b') (hlog : b'.log r = .ok b'') :
    Unmarked b b'' := by
  unfold Broker.log at hlog
  split_ifs at hlog
  cases hlog
  exact ⟨h.traffic, h.buckets⟩

theorem Unmarked.logThenAnswer (h : Unmarked b b') : Unmarked b (logThenAnswer b' r resp).2 := by
  unfold AgentComm.logThenAnswer
  split
  · exact h.log (by assumption)
  · exact h

theorem Unmarked.answerThenLog (h : Unmarked b b') : Unmarked b (answerThenLog b' r resp).2 := by
  unfold AgentComm.answerThenLog
  split
  · exact h.log (by assumption)
  · exact h

theorem logThenAnswer_answered (h : (logThenAnswer b r resp).1.Once) :
    (logThenAnswer b r resp).1.status? = some resp.status := by
  rw [logThenAnswer, log_of_loggable (logThenAnswer_once.1 h)]
  rfl

theorem encodable_concat (s s' : PyStr) : encodable (s ++ s') = (encodable s && encodable s') :=
  List.all_append

theorem sendRecord_loggable {status : ℕ} {detail : PyStr} :
    (sendRecord env p status detail).Loggable ↔ encodable p = true ∧ encodable detail = true := by
  have haction : encodable (lit "send") = true := by decide
  have hpath : encodable (lit "/messages") = true := by decide
  simp [AuditRecord.Loggable, sendRecord, haction, hpath]

end Logs

/-! ### The two handlers -/

variable (P cfg env p b) in
/-- The message is turned away, or its recipient can be a key and an audit line can name it, and
no attempt the router makes to reach its endpoint is garbled. -/
def Deliverable (m : Message) : Prop :=
  (p ≠ [] ∧ m.metadata.sender.asStr? ≠ some p) ∨ m.metadata.recipient.truthy = false
  ∨ match m.metadata.recipient with
    | .str a => encodable a = true ∧ ∀ endpoint, b.stores.registry.get? a = some endpoint →
      endpoint.mailbox = false → ∀ i, Reached P cfg env i → ¬ Garbles P (env.network i)
    | .arr _ | .obj _ => False
    | _ => True

theorem refuseSend_once {disposition detail : PyStr} {resp : Response}
    (h : encodable detail = true) :
    (refuseSend P cfg env p m disposition resp detail b).1.Once ↔ encodable p = true := by
  rw [refuseSend, answerThenLog_once, sendRecord_loggable, and_iff_left h]

theorem sendToEndpoint_once (hP : Library P) {a : PyStr} {endpoint : Endpoint}
    (hto : m.metadata.recipient = .str a) (ha : m.metadata.recipient.truthy = true)
    (he : b.stores.registry.get? a = some endpoint) :
    (sendToEndpoint P cfg env p m b).1.Once ↔ encodable p = true ∧ encodable a = true
      ∧ ∀ i, Reached P cfg env i → ¬ Garbles P (env.network i) := by
  rw [← routeSend_iff (m := m) hP hto ha he, sendToEndpoint]
  rcases hr : routeSend P cfg env b.stores.registry m with e | ⟨status, body⟩
  · simp [not_crash_once]
  · have htext : encodable (lit "recipient=" ++ a) = encodable a := by
      rw [encodable_concat, show encodable (lit "recipient=") = true by decide, Bool.true_and]
    simp only [logThenAnswer_once, sendRecord_loggable, hto, pyText, htext, Except.ok.injEq,
      exists_eq', and_true]

theorem sendToMailbox_once {a : PyStr} :
    (sendToMailbox P cfg env p a m b).1.Once ↔ encodable p = true ∧ encodable a = true := by
  simp only [sendToMailbox, logThenAnswer_once, sendRecord_loggable, encodable_concat,
    show encodable (lit "queued for mailbox ") = true by decide, Bool.true_and]

theorem unknown_once (hP : Library P) {e : Exc} {resp : Response}
    (h : b.stores.registry.lookup P m.metadata.recipient = .error e) :
    (if e.kind = .agentNotFoundError then
        refuseSend P cfg env p m (lit "unknown_recipient") resp
          (lit "unknown recipient: " ++ pyText P m.metadata.recipient) b
      else (.crash e, b)).1.Once ↔ encodable p = true ∧ match m.metadata.recipient with
        | .str a => encodable a = true
        | .arr _ | .obj _ => False
        | _ => True := by
  have hlabel : encodable (lit "unknown recipient: ") = true := by decide
  rcases hto : m.metadata.recipient with _ | _ | _ | _ | a | _ | _ <;>
    simp only [hto, Registry.lookup] at h
  case str =>
    split at h <;> cases h
    simp only [refuseSend, answerThenLog_once, sendRecord_loggable, encodable_concat, hlabel,
      pyText, Bool.true_and, Registry.unknownAgent, if_true]
  case arr | obj =>
    cases h
    simp [not_crash_once]
  all_goals
    cases h
    simp [refuseSend, answerThenLog_once, sendRecord_loggable, encodable_concat, hlabel, pyText,
      Registry.unknownAgent, hP.repr]

theorem dispatchSend_once (hP : Library P) : (dispatchSend P cfg env p m b).1.Once
    ↔ encodable p = true ∧ Deliverable P cfg env p b m := by
  unfold dispatchSend Deliverable
  split_ifs with hfrom hto
  · rw [refuseSend_once (by decide), and_iff_left (.inl hfrom)]
  · rw [refuseSend_once (by decide), and_iff_left (.inr (.inl (by simpa using hto)))]
  have ha : m.metadata.recipient.truthy = true := by simpa using hto
  simp only [hfrom, ha, false_or, Bool.true_eq_false]
  rcases hlookup : b.stores.registry.lookup P m.metadata.recipient with e | endpoint
  · simp only [unknown_once hP hlookup]
    rcases hr : m.metadata.recipient with _ | _ | _ | _ | a | _ | _ <;> simp only
    case str =>
      have hnone : b.stores.registry.get? a = none := by
        rcases hget : b.stores.registry.get? a with _ | endpoint
        · rfl
        · simp [hr, Registry.lookup, hget] at hlookup
      simp [hnone]
  · obtain ⟨a, hr, he⟩ := lookup_ok hlookup
    simp only [hr, Json.asStr?, Option.getD_some]
    split_ifs with hbox
    · rw [sendToMailbox_once]
      simp [he, hbox]
    · rw [sendToEndpoint_once hP hr ha he]
      simp [he, hbox]

/-- A message that is dealt with leaves one record, with the status answered. -/
theorem dispatchSend_recorded (h : (dispatchSend P cfg env p m b).1.Once) :
    ∃ disposition status, (dispatchSend P cfg env p m b).1.status? = some status
      ∧ (dispatchSend P cfg env p m b).2.trafficBuffer
        = (recordTraffic P cfg env m disposition status b).trafficBuffer := by
  have hrefuse : ∀ disposition resp detail, ∃ d status,
      (refuseSend P cfg env p m disposition resp detail b).1.status? = some status
        ∧ (refuseSend P cfg env p m disposition resp detail b).2.trafficBuffer
          = (recordTraffic P cfg env m d status b).trafficBuffer :=
    fun disposition resp detail =>
      ⟨disposition, resp.status, answerThenLog_status _ _ _,
        (Unmarked.refl _).answerThenLog.traffic⟩
  cases dispatchSend_end P cfg env p b m with
  | foreign _ heq | missing _ heq | unknown _ heq => exact heq ▸ hrefuse _ _ _
  | raised _ heq => exact absurd (heq ▸ h) not_crash_once
  | queued _ _ _ _ heq =>
    rw [heq, sendToMailbox] at h ⊢
    exact ⟨_, _, logThenAnswer_answered h, Unmarked.traffic (.logThenAnswer ⟨rfl, rfl⟩)⟩
  | routed _ _ _ _ heq =>
    rw [heq] at h ⊢
    cases sendToEndpoint_end P cfg env p b m with
    | raised heq => exact absurd (heq ▸ h) not_crash_once
    | routed _ heq =>
      rw [heq] at h ⊢
      exact ⟨_, _, logThenAnswer_answered h, Unmarked.traffic (.logThenAnswer (.refl _))⟩

variable (cfg env p b) in
/-- The message is to go to an endpoint that no attempt gets a reply from. -/
structure Stranded (P : Python) (m : Message) : Prop where
  sender : ¬ (p ≠ [] ∧ m.metadata.sender.asStr? ≠ some p)
  recipient : m.metadata.recipient.truthy = true
  endpoint : ∃ a endpoint, m.metadata.recipient = .str a
    ∧ b.stores.registry.get? a = some endpoint ∧ endpoint.mailbox = false
  attempts : ∀ i, 1 ≤ i → i ≤ cfg.retryPolicy.maxAttempts.toNat → Unusable P (env.network i)

theorem dispatchSend_stranded (hP : Library P) (h : (dispatchSend P cfg env p m b).1.Once)
    (hs : Stranded cfg env p b P m) : (dispatchSend P cfg env p m b).1.status? = some 502 := by
  obtain ⟨a, endpoint, hto, he, hbox⟩ := hs.endpoint
  rw [dispatchSend_endpoint hs.sender hto hs.recipient he hbox] at h ⊢
  obtain ⟨-, -, hclean⟩ := (sendToEndpoint_once hP hto hs.recipient he).1 h
  obtain ⟨body, hroute⟩ := routeSend_unreachable hP hto hs.recipient he hclean hs.attempts
  simp only [sendToEndpoint, hroute] at h ⊢
  exact logThenAnswer_answered h

section Handlers

variable (P cfg env p b) in
/-- What `_handle_send` needs of a body to answer it and nothing else. -/
def SendClean (body : List UInt8) : Prop :=
  ∃ raw, P.utf8Decode body = .ok raw ∧ encodable p = true ∧ match deserialize P raw with
    | .error e => e.isProtocolError = true
    | .ok m => Deliverable P cfg env p b m

variable (P p) in
/-- What `_handle_register` needs of one. -/
def RegisterClean (body : List UInt8) : Prop :=
  ∃ raw, P.utf8Decode body = .ok raw ∧ match P.jsonLoads raw with
    | .error e => e.isValueError = true
    | .ok (.obj data) => encodable (registerAuditId data p) = true
    | .ok _ => True

variable (P cfg req) in
/-- The header says how long the body is, and it is not too long. -/
structure Measured : Prop where
  declared : declaredLength P req = .ok req.body.length
  allowed : (req.body.length : ℤ) ≤ cfg.maxBodySize

theorem readBody_measured (h : Measured P cfg req) : readBody P cfg req =
    match P.utf8Decode req.body with
    | .ok raw => .text raw
    | .error e => .raises e := by
  rcases hd : P.utf8Decode req.body with e | raw <;>
    simp only [readBody, h.declared, if_neg (not_lt.2 h.allowed), rfileRead_length, hd]

theorem readBody_allowed (h : Measured P cfg req) (resp : Response) (e : Option Exc) :
    readBody P cfg req ≠ .tooLarge resp e := by
  rw [readBody_measured h]
  split <;> simp

theorem readBody_text (h : Measured P cfg req) {raw : PyStr}
    (hraw : readBody P cfg req = .text raw) : P.utf8Decode req.body = .ok raw := by
  rw [readBody_measured h] at hraw
  split at hraw <;> cases hraw
  assumption

theorem handleSend_once (hP : Library P) (h : Measured P cfg req) :
    (handleSend P cfg env req p b).1.Once ↔ SendClean P cfg env p b req.body := by
  unfold handleSend SendClean
  rw [readBody_measured h]
  rcases P.utf8Decode req.body with e | raw
  · simp [not_crash_once]
  simp only [Except.ok.injEq, exists_eq_left']
  rcases hd : deserialize P raw with e | m
  · rcases deserialize_error hP hd with hc | ⟨hno, -⟩
    · have htext : encodable (lit "deserialization error: " ++ e.text) = true :=
        encodable_append (by decide) (hc.text hP.repr)
      simp only [hc.protocol, if_true, answerThenLog_once, sendRecord_loggable, htext]
    · simp [hno, not_crash_once]
  · exact dispatchSend_once hP

theorem handleSend_message {raw : PyStr} (h : Measured P cfg req)
    (hraw : P.utf8Decode req.body = .ok raw) (hd : deserialize P raw = .ok m) :
    handleSend P cfg env req p b = dispatchSend P cfg env p m b := by
  rw [handleSend, readBody_measured h, hraw]
  simp only [hd]

theorem handleSend_refused (h : Measured P cfg req) (ho : (handleSend P cfg env req p b).1.Once)
    (hno : ¬ ∃ raw m, P.utf8Decode req.body = .ok raw ∧ deserialize P raw = .ok m) :
    (handleSend P cfg env req p b).1.status? = some 400 := by
  cases handleSend_end P cfg env req p b with
  | turnedAway hraw _ => exact absurd hraw (readBody_allowed h _ _)
  | raised heq => exact absurd (heq ▸ ho) not_crash_once
  | undecodable _ _ heq => exact heq ▸ answerThenLog_status _ _ _
  | dispatched hraw hd _ => exact absurd ⟨_, _, readBody_text h hraw, hd⟩ hno

theorem reject_once {r : Rejection} : (reject env b r).1.Once
    ↔ encodable r.agentId = true ∧ encodable r.detail = true := by
  have haction : encodable (lit "register") = true := by decide
  have hpath : encodable (lit "/agents") = true := by decide
  rw [reject, answerThenLog_once]
  simp [AuditRecord.Loggable, haction, hpath]

theorem acceptRegistration_once {r : Registration} :
    (acceptRegistration cfg env b r).1.Once ↔ encodable r.agentId = true := by
  have haction : encodable (lit "register") = true := by decide
  have hpath : encodable (lit "/agents") = true := by decide
  have hdetail : encodable (if b.stores.isNew r.agentId = true then lit "created"
      else lit "updated") = true := by split_ifs <;> decide
  simp only [acceptRegistration, logThenAnswer_once, AuditRecord.Loggable, haction, hpath, hdetail,
    Bool.and_true, Bool.true_and]

theorem handleRegister_once (h : Measured P cfg req) :
    (handleRegister P cfg env req p b).1.Once ↔ RegisterClean P p req.body := by
  unfold handleRegister RegisterClean
  rw [readBody_measured h]
  rcases P.utf8Decode req.body with e | raw
  · simp [not_crash_once]
  simp only [Except.ok.injEq, exists_eq_left']
  have hunknown : encodable (lit "unknown") = true := by decide
  rcases P.jsonLoads raw with e | v
  · simp only
    split_ifs with hvalue
    · simp only [reject_once, hunknown, hvalue, true_and, iff_true]
      decide
    · simp [not_crash_once, hvalue]
  cases v
  case obj data =>
    rcases hr : validateRegisterPayload data p with r | r
    · have hof := validateRegisterPayload_rejects data p r hr
      simp only [hr, reject_once, hof.agentId, hof.detail, and_true]
    · simp only [hr, acceptRegistration_once, validateRegisterPayload_auditId hr]
  all_goals
    simp only [reject_once, hunknown, true_and, iff_true]
    decide

theorem handleRegister_refused (h : Measured P cfg req)
    (ho : (handleRegister P cfg env req p b).1.Once)
    (hno : ¬ ∃ raw data r, P.utf8Decode req.body = .ok raw ∧ P.jsonLoads raw = .ok (.obj data)
      ∧ validateRegisterPayload data p = .ok r) :
    ∃ s, (handleRegister P cfg env req p b).1.status? = some s ∧ 400 ≤ s ∧ s < 500 := by
  cases handleRegister_end P cfg env req p b with
  | turnedAway hraw _ => exact absurd hraw (readBody_allowed h _ _)
  | raised heq => exact absurd (heq ▸ ho) not_crash_once
  | rejected hstatus hclient heq => exact ⟨_, heq ▸ answerThenLog_status _ _ _, hstatus, hclient⟩
  | accepted hraw hdata hr _ => exact absurd ⟨_, _, _, readBody_text h hraw, hdata, hr⟩ hno

variable (P cfg env req b) in
/-- The request passes authentication as `p`, and its rate limit. -/
def Admitted (p : PyStr) : Prop :=
  authenticate P cfg false req = .agent p
    ∧ (checkRateLimit cfg env.monotonic (rateKey p) b.rateBuckets).1 = true

theorem handle_post (hm : req.method = lit "POST") :
    handle P cfg env req b = doPOST P cfg env req b := by
  rw [handle, if_neg (by rw [hm]; decide), if_pos hm]

variable (P cfg env b) in
/-- A POST that is not admitted is turned away; one that is goes to its handler. -/
theorem post_cases (hm : req.method = lit "POST") :
    (∀ p, ¬ Admitted P cfg env req b p) ∧ (∃ resp, handle P cfg env req b = (.answer resp,
        (handle P cfg env req b).2) ∧ 400 ≤ resp.status ∧ resp.status < 500)
    ∨ ∃ p b', Admitted P cfg env req b p ∧ (∀ q, Admitted P cfg env req b q → q = p)
      ∧ b'.stores = b.stores ∧ b'.trafficBuffer = b.trafficBuffer
      ∧ handle P cfg env req b = servePost P cfg env req p b' := by
  have honly : ∀ {id}, authenticate P cfg false req = .agent id →
      ∀ q, Admitted P cfg env req b q → q = id := fun hauth q hq =>
    AuthResult.agent.inj (hq.1.symm.trans hauth)
  rw [handle_post hm, doPOST]
  cases withAgent_end P cfg env req b false (servePost P cfg env req) with
  | raised hauth h =>
    have htotal : (∃ p, authenticate P cfg false req = .agent p)
        ∨ ∃ detail, authenticate P cfg false req = .denied detail :=
      authenticate_total fun h => Bool.noConfusion h
    simp [hauth] at htotal
  | @denied detail hauth h =>
    rw [h]
    refine .inl ⟨fun p hp => ?_, errorResponse 401 detail, rfl, ?_⟩
    · cases hauth.symm.trans hp.1
    · simp [errorResponse]
  | limited hauth hpass h =>
    rw [h]
    refine .inl ⟨fun p hp => ?_, _, rfl, by decide, by decide⟩
    obtain rfl := honly hauth p hp
    cases hpass.symm.trans hp.2
  | @served id hauth hpass h =>
    refine .inr ⟨id, { b with rateBuckets :=
      (checkRateLimit cfg env.monotonic (rateKey id) b.rateBuckets).2 }, ⟨hauth, hpass⟩,
      honly hauth, rfl, rfl, h⟩

end Handlers

/-! ### One answer -/

section Posts

variable (P cfg env req b)

/-- The body is a valid registration, or a valid message, as its path has it. -/
def ValidBody (p : PyStr) : Prop :=
  (req.path = lit "/agents" ∧ ∃ raw data r, P.utf8Decode req.body = .ok raw
    ∧ P.jsonLoads raw = .ok (.obj data) ∧ validateRegisterPayload data p = .ok r)
  ∨ req.path = defaultMessagePath ∧ ∃ raw m, P.utf8Decode req.body = .ok raw
    ∧ deserialize P raw = .ok m

/-- What is to be true of a POST's outcome and the broker after it. -/
structure AnsweredOnce (o : Outcome) (b' : Broker) : Prop where
  once : o.Once
  /-- a body that is not valid, or not read, is answered with a client error -/
  refused : (∀ p, Admitted P cfg env req b p → ¬ ValidBody P req p) →
    ∃ s, o.status? = some s ∧ 400 ≤ s ∧ s < 500
  unreachable : ∀ p raw m, Admitted P cfg env req b p → req.path = defaultMessagePath →
    P.utf8Decode req.body = .ok raw → deserialize P raw = .ok m → Stranded cfg env p b P m →
    o.status? = some 502
  recorded : ∀ p raw m, Admitted P cfg env req b p → req.path = defaultMessagePath →
    P.utf8Decode req.body = .ok raw → deserialize P raw = .ok m →
    ∃ disposition status, o.status? = some status
      ∧ b'.trafficBuffer = (recordTraffic P cfg env m disposition status b).trafficBuffer

/-- What a handler needs of the body to answer it and nothing else. -/
def Clean (p : PyStr) : Prop :=
  (req.path = lit "/agents" → RegisterClean P p req.body)
    ∧ (req.path = defaultMessagePath → SendClean P cfg env p b req.body)

variable {P cfg env req b}

theorem messages_ne_agents : defaultMessagePath ≠ lit "/agents" := by decide

theorem registered_once {b' : Broker} (hpath : req.path = lit "/agents")
    (hmeasured : Measured P cfg req) (hp : Admitted P cfg env req b p)
    (hserve : handle P cfg env req b = servePost P cfg env req p b') :
    AnsweredOnce P cfg env req b (handle P cfg env req b).1 (handle P cfg env req b).2
      ↔ RegisterClean P p req.body := by
  have hno : req.path ≠ defaultMessagePath := by
    rw [hpath]
    exact messages_ne_agents.symm
  rw [hserve, servePost, if_pos hpath, ← handleRegister_once hmeasured]
  refine ⟨AnsweredOnce.once, fun honce => ⟨honce, fun hbad => ?_, ?_, ?_⟩⟩
  · exact handleRegister_refused hmeasured honce fun h => hbad p hp (.inl ⟨hpath, h⟩)
  · exact fun _ _ _ _ h => absurd h hno
  · exact fun _ _ _ _ h => absurd h hno

theorem sent_once {b' : Broker} (hP : Library P) (hpath : req.path = defaultMessagePath)
    (hmeasured : Measured P cfg req) (hp : Admitted P cfg env req b p)
    (hone : ∀ q, Admitted P cfg env req b q → q = p) (hs : b'.stores = b.stores)
    (ht : b'.trafficBuffer = b.trafficBuffer)
    (hserve : handle P cfg env req b = servePost P cfg env req p b') :
    AnsweredOnce P cfg env req b (handle P cfg env req b).1 (handle P cfg env req b).2
      ↔ SendClean P cfg env p b req.body := by
  have hno : req.path ≠ lit "/agents" := by
    rw [hpath]
    exact messages_ne_agents
  have hclean : SendClean P cfg env p b req.body ↔ SendClean P cfg env p b' req.body := by
    simp only [SendClean, Deliverable, hs]
  rw [hserve, servePost, if_neg hno, if_pos hpath, hclean, ← handleSend_once hP hmeasured]
  refine ⟨AnsweredOnce.once, fun honce => ⟨honce, fun hbad => ?_, ?_, ?_⟩⟩
  · refine ⟨400, handleSend_refused hmeasured honce fun h => ?_, le_rfl, by decide⟩
    exact hbad p hp (.inr ⟨hpath, h⟩)
  · intro q raw m hq _ hraw hd hstranded
    obtain rfl := hone q hq
    rw [handleSend_message hmeasured hraw hd] at honce ⊢
    obtain ⟨hfrom, hto, hep, hall⟩ := hstranded
    exact dispatchSend_stranded hP honce ⟨hfrom, hto, by rwa [hs], hall⟩
  · intro q raw m hq _ hraw hd
    rw [handleSend_message hmeasured hraw hd] at honce ⊢
    obtain ⟨disposition, status, hstatus, htraffic⟩ := dispatchSend_recorded honce
    refine ⟨disposition, status, hstatus, htraffic.trans ?_⟩
    simp only [recordTraffic, ht]

/-- A POST of a registration or a message is answered exactly once, as it should be, if and only
if it is not admitted or its body leads to nothing that escapes the handler. -/
theorem posts_answered_iff (hP : Library P) (hm : req.method = lit "POST")
    (hpath : req.path = lit "/agents" ∨ req.path = defaultMessagePath)
    (hmeasured : Measured P cfg req) :
    AnsweredOnce P cfg env req b (handle P cfg env req b).1 (handle P cfg env req b).2
      ↔ ∀ p, Admitted P cfg env req b p → Clean P cfg env req b p := by
  rcases post_cases P cfg env b hm with
    ⟨hnone, resp, hanswer, hlow, hhigh⟩ | ⟨p, b', hp, hone, hs, ht, hserve⟩
  · refine iff_of_true ?_ fun p hp => absurd hp (hnone p)
    rw [hanswer]
    refine ⟨answer_once, fun _ => ⟨_, rfl, hlow, hhigh⟩, ?_, ?_⟩
    · exact fun p _ _ hp => absurd hp (hnone p)
    · exact fun p _ _ hp => absurd hp (hnone p)
  have hclean : (∀ q, Admitted P cfg env req b q → Clean P cfg env req b q)
      ↔ Clean P cfg env req b p :=
    ⟨fun h => h p hp, fun h q hq => hone q hq ▸ h⟩
  rw [hclean]
  rcases hpath with hpath | hpath
  · rw [registered_once hpath hmeasured hp hserve]
    simp [Clean, hpath, messages_ne_agents.symm]
  · rw [sent_once hP hpath hmeasured hp hone hs ht hserve]
    simp [Clean, hpath, messages_ne_agents]

end Posts

/-- An interpreter that reads the text of `question`. -/
def postPython : Python := asciiPython [(jsonText (.obj questionFields), .obj questionFields)]

/-- A POST of the message `question`. -/
def questionPost : Request where
  method := lit "POST"
  path := defaultMessagePath
  authorization := none
  contentLength := some (intText (jsonText (.obj questionFields)).length)
  body := (jsonText (.obj questionFields)).map UInt8.ofNat

def downEndpoint : Endpoint := { agentId := lit "b", host := lit "10.0.0.2", port := 8080 }

/-- A network in which every connection times out. -/
def downEnv : Env :=
  ⟨⟨0, 0, 0, 0, 0⟩, 0, ⟨lit "now", lit "2"⟩, fun _ => .raises ⟨.timeoutError, lit "timed out"⟩⟩

theorem questionPost_text :
    postPython.utf8Decode questionPost.body = .ok (jsonText (.obj questionFields)) := by
  decide +kernel

theorem questionPost_decoded :
    deserialize postPython (jsonText (.obj questionFields)) = .ok question := by
  have hpython : postPython.jsonLoads = questionPython.jsonLoads := rfl
  refine question_decoded rfl ?_
  rw [hpython, questionPython_reads]

/-- A broker that knows the recipient of `question` as `downEndpoint`. -/
def knowingBroker : Broker := { Broker.init with stores := Stores.empty.putEndpoint downEndpoint }

theorem posts_answered_down :
    AnsweredOnce postPython ServerConfig.defaults downEnv questionPost knowingBroker
      (handle postPython ServerConfig.defaults downEnv questionPost knowingBroker).1
      (handle postPython ServerConfig.defaults downEnv questionPost knowingBroker).2 := by
  have hlibrary : Library postPython := asciiPython_library _
  refine (posts_answered_iff hlibrary rfl (.inr rfl) ⟨?_, ?_⟩).2 ?_
  · decide +kernel
  · decide +kernel
  · intro p hp
    obtain rfl : [] = p := AuthResult.agent.inj hp.1
    refine ⟨fun h => absurd h (by decide), fun _ => ⟨_, questionPost_text, rfl, ?_⟩⟩
    rw [questionPost_decoded]
    exact .inr (.inr ⟨by decide, fun _ _ _ i _ hg => by cases hg.1⟩)

/-- A message of one byte that no UTF-8 text starts with. -/
def bytePost : Request := ⟨lit "POST", defaultMessagePath, none, some (lit "1"), [0xFF]⟩

/-- Such a POST is not answered at all. -/
theorem post_unanswered :
    Library (asciiPython []) ∧ Measured (asciiPython []) ServerConfig.defaults bytePost
      ∧ (handle (asciiPython []) ServerConfig.defaults downEnv bytePost Broker.init).1
        = .crash ⟨.unicodeDecodeError, lit "invalid start byte"⟩
      ∧ ¬ AnsweredOnce (asciiPython []) ServerConfig.defaults downEnv bytePost Broker.init
        (handle (asciiPython []) ServerConfig.defaults downEnv bytePost Broker.init).1
        (handle (asciiPython []) ServerConfig.defaults downEnv bytePost Broker.init).2 := by
  have hcrash : (handle (asciiPython []) ServerConfig.defaults downEnv bytePost Broker.init).1
      = .crash ⟨.unicodeDecodeError, lit "invalid start byte"⟩ := rfl
  refine ⟨asciiPython_library [], ⟨by decide +kernel, by decide +kernel⟩, hcrash, fun h => ?_⟩
  have honce := h.once
  rw [hcrash] at honce
  exact not_crash_once honce

end AgentComm
