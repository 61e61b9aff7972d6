import AgentComm.Proofs.Clients
import AgentComm.Proofs.Polling
import AgentComm.Proofs.Replies

/-!
# One exchange

What a request comes to in direct mode, by how often its first attempt would be tried again; and in
pull mode, by what the handler pool posts and whether the broker takes it for the caller's mailbox.
The caller of a request in pull mode ends as a call beside the receive-loop does.
-/

namespace AgentComm

open Lib

variable {P : Python} {m request : Message}

/-! ### Messages on the wire -/

variable (P) in
/-- The value goes through `json` and UTF-8 and comes out as it went in, and `int` reads its length
in a header. -/
structure Conveys (v : Json) : Prop where
  nonempty : P.jsonDumps v ≠ []
  sent : P.utf8Decode (asciiEncode (P.jsonDumps v)) = .ok (P.jsonDumps v)
  read : P.jsonLoads (P.jsonDumps v) = .ok v
  measured : P.int (intText (asciiEncode (P.jsonDumps v)).length)
    = .ok (asciiEncode (P.jsonDumps v)).length

variable (P m) in
/-- The message as it arrives: the keys of its `extra` are texts. -/
def wired : Message :=
  { m with metadata := { m.metadata with
      extra := m.metadata.extra.map fun e => (.str (e.1.text P), e.2) } }

theorem toDict_wired : toDict P (wired P m) = toDict P m := by
  simp [toDict, wired, Key.text]

theorem serialize_wired : serialize P (wired P m) = serialize P m := by
  rw [serialize, serialize, toDict_wired]

theorem validate_wired : validate P (wired P m) = validate P m := by
  rw [← validateDict_toDict, ← validateDict_toDict, toDict_wired]

theorem deserialize_valid (h : Conveys P (.obj (toDict P m))) (hv : validate P m = .ok ()) :
    deserialize P (serialize P m) = .ok (wired P m) := by
  rw [← serialize_wired]
  refine deserialize_serialize (validate_wired.trans hv) (fun e he => ?_) ?_
  · obtain ⟨e', -, rfl⟩ := List.mem_map.1 he
    exact ⟨_, rfl⟩
  · rw [toDict_wired]
    exact h.read

theorem deserialize_invalid (hP : Library P) (h : Conveys P (.obj (toDict P m)))
    (hv : validate P m ≠ .ok ()) :
    ∃ e, deserialize P (serialize P m) = .error e ∧ e.isProtocolError = true := by
  have hread : deserialize P (serialize P m) = fromDict P (toDict P m) := by
    simp only [deserialize, serialize, h.read]
  rcases hd : validateDict P (toDict P m) with e | _
  · refine ⟨e, ?_, (validateDict_complains hP.int e hd).protocol⟩
    rw [hread, fromDict, hd]
    rfl
  · exact absurd (validateDict_toDict.symm.trans hd) hv

/-- What a peer reads of a POST of the message. -/
theorem messagePost_read (h : Conveys P (.obj (toDict P m))) :
    TransportServer.readRaw P (messagePost P m) = .ok (serialize P m) := by
  have hlength : declaredLength P (messagePost P m) = .ok (messagePost P m).body.length :=
    h.measured
  simp only [TransportServer.readRaw, hlength, bind, Except.bind, rfileRead_length]
  exact h.sent

/-! ### Direct mode -/

section Direct

variable {registry : Registry} {policy : RetryPolicy} {timeout r : PyStr} {endpoint : Endpoint}
variable (serve : ℕ → HttpAnswer × ℕ)

/-- The exchange when the recipient is found. -/
theorem sendRequestDirect_eq (hto : request.metadata.recipient = .str r) (hr : r ≠ [])
    (he : registry.get? r = some endpoint) :
    let func := fun i => TransportClient.send P endpoint timeout (serve i).1
    sendRequestDirect P registry policy timeout serve request =
      { result := match retryCall func policy with
          | .ok (some reply) => .ok reply
          | .ok none => .error ⟨.deliveryError,
              lit "no reply received from " ++ P.repr request.metadata.recipient⟩
          | .error (e, _) => .error e
        calls := ((attemptsMade func policy).map fun i => (serve i).2).sum } := by
  have htruthy : (Json.str r).truthy = true := by simpa [Json.truthy] using hr
  simp only [sendRequestDirect, Router.route, hto, htruthy, Registry.lookup, he, Bool.not_true,
    Bool.false_eq_true, if_false]
  congr 1
  rcases retryCall (fun i => TransportClient.send P endpoint timeout (serve i).1) policy with
    ⟨e, c⟩ | _ | reply <;> rfl

/-- Without an attempt the handler is not called. -/
theorem direct_none (hto : request.metadata.recipient = .str r) (hr : r ≠ [])
    (he : registry.get? r = some endpoint) (hn : policy.maxAttempts < 1) :
    (sendRequestDirect P registry policy timeout serve request).calls = 0 := by
  obtain ⟨k, hk, hmade⟩ := attemptsMade_range
    (fun i => TransportClient.send P endpoint timeout (serve i).1) policy
  obtain rfl : k = 0 := by omega
  rw [sendRequestDirect_eq serve hto hr he]
  simp [hmade]

/-- An attempt that is not tried again makes the exchange. -/
theorem direct_settled (hto : request.metadata.recipient = .str r) (hr : r ≠ [])
    (he : registry.get? r = some endpoint) (hn : 1 ≤ policy.maxAttempts)
    {reply : Option Message}
    (h : TransportClient.send P endpoint timeout (serve 1).1 = .ok reply) :
    (sendRequestDirect P registry policy timeout serve request).calls = (serve 1).2
      ∧ (sendRequestDirect P registry policy timeout serve request).result
        = reply.elim (.error ⟨.deliveryError,
            lit "no reply received from " ++ P.repr request.metadata.recipient⟩) .ok := by
  have hfirst : SettlesAt (fun i => TransportClient.send P endpoint timeout (serve i).1) 1 :=
    ⟨le_rfl, by simpa only [h] using not_retried_ok, fun i hi hlt => by omega⟩
  obtain ⟨hres, hmade⟩ := retryCall_first hfirst hn
  rw [sendRequestDirect_eq serve hto hr he]
  simp only [hres, hmade, h]
  refine ⟨by simp, ?_⟩
  rcases reply with _ | reply <;> rfl

/-- After an only attempt that would be tried again the request fails. -/
theorem direct_gives_up (hto : request.metadata.recipient = .str r) (hr : r ≠ [])
    (he : registry.get? r = some endpoint) (hn : policy.maxAttempts = 1)
    (h : Retried (TransportClient.send P endpoint timeout (serve 1).1)) :
    (sendRequestDirect P registry policy timeout serve request).calls = (serve 1).2
      ∧ ∃ e, (sendRequestDirect P registry policy timeout serve request).result = .error e := by
  rw [sendRequestDirect_eq serve hto hr he]
  rcases retryCall_cases (fun i => TransportClient.send P endpoint timeout (serve i).1) policy
    with ⟨j, ⟨hj, hno, -⟩, hle, -⟩ | ⟨-, ⟨c, hres⟩, hmade⟩
  · obtain rfl : j = 1 := by omega
    exact absurd h hno
  · have hone : policy.maxAttempts.toNat = 1 := by omega
    simp only [hres, hmade, hone]
    exact ⟨by simp, _, rfl⟩

/-- Where another attempt is allowed, it is made. -/
theorem direct_retries (hto : request.metadata.recipient = .str r) (hr : r ≠ [])
    (he : registry.get? r = some endpoint) (hn : 2 ≤ policy.maxAttempts)
    (h : Retried (TransportClient.send P endpoint timeout (serve 1).1)) :
    (serve 1).2 + (serve 2).2
      ≤ (sendRequestDirect P registry policy timeout serve request).calls := by
  set func := fun i => TransportClient.send P endpoint timeout (serve i).1 with hfunc
  have htwo : 2 ∈ attemptsMade func policy := by
    refine mem_attemptsMade.2 ⟨by omega, hn, fun j hj hlt => ?_⟩
    obtain rfl : j = 1 := by omega
    exact h
  obtain ⟨k, -, hmade⟩ := attemptsMade_range func policy
  obtain ⟨n, rfl⟩ : ∃ n, k = n + 1 + 1 := by
    rw [hmade, List.mem_range'_1] at htwo
    exact ⟨k - 2, by omega⟩
  rw [sendRequestDirect_eq serve hto hr he]
  simp only [← hfunc]
  rw [hmade, List.range'_succ, List.range'_succ, List.map_cons, List.map_cons, List.sum_cons,
    List.sum_cons]
  exact Nat.add_le_add_left (Nat.le_add_right _ _) _

end Direct

/-! ### How the recipient's server meets the request -/

section Serving

variable {endpoint : Endpoint} {timeout : PyStr} {c : Agent.Callbacks} {st : Stamp}
variable {handler : Message → HandlerResult}

variable (P) in
/-- What the server answers, by what the handler came to. -/
def served : HandlerResult → HttpAnswer
  | .returned none => .answer 204 []
  | .returned (some reply) => .answer 200 (asciiEncode (serialize P reply))
  | _ => closedConnection

variable (c st) in
/-- A request that arrives calls the handler, once. -/
theorem doPOST_request (h : Conveys P (.obj (toDict P request)))
    (hd : deserialize P (serialize P request) = .ok request) (ht : request.type = .request)
    (hc : c.request = some handler) :
    TransportServer.doPOST P c st (messagePost P request) = (served P (handler request), 1) := by
  simp only [TransportServer.doPOST, messagePost_read h, hd, Agent.handle, ht, hc]
  rcases handler request with (_ | reply) | ⟨_, e⟩ | e <;> rfl

theorem send_none (hempty : P.utf8Decode [] = .ok []) :
    TransportClient.send P endpoint timeout (served P (.returned none)) = .ok none := by
  rw [served, send_answer endpoint timeout hempty]
  simp [TransportClient.reply]

theorem send_valid (h : Conveys P (.obj (toDict P m))) (hv : validate P m = .ok ()) :
    TransportClient.send P endpoint timeout (served P (.returned (some m)))
      = .ok (some (wired P m)) := by
  have hne : serialize P m ≠ [] := h.nonempty
  have hsent : P.utf8Decode (asciiEncode (serialize P m)) = .ok (serialize P m) := h.sent
  rw [served, send_answer endpoint timeout hsent, TransportClient.reply, if_neg (by omega),
    if_neg (by simpa using hne), deserialize_valid h hv]

theorem send_invalid (hP : Library P) (h : Conveys P (.obj (toDict P m)))
    (hv : validate P m ≠ .ok ()) :
    Retried (TransportClient.send P endpoint timeout (served P (.returned (some m)))) := by
  have hne : serialize P m ≠ [] := h.nonempty
  have hsent : P.utf8Decode (asciiEncode (serialize P m)) = .ok (serialize P m) := h.sent
  obtain ⟨e, he, hproto⟩ := deserialize_invalid hP h hv
  refine ⟨⟨.transportError, lit "invalid response from " ++ endpoint.url ++ lit ": " ++ e.text⟩,
    ?_, rfl⟩
  rw [served, send_answer endpoint timeout hsent, TransportClient.reply, if_neg (by omega),
    if_neg (by simpa using hne), he]
  simp only [hproto, if_true]

theorem send_closed : Retried (TransportClient.send P endpoint timeout closedConnection) :=
  ⟨_, rfl, rfl⟩

end Serving

/-! ### Posts to the broker and polls of it -/

section Broker

variable {cfg : ServerConfig} {clients : Clients} {env : Env} {a p x y : PyStr} {b : Broker}
variable {texts : List PyStr}

/-- The broker takes a body of this length. -/
def Fits (P : Python) (cfg : ServerConfig) (m : Message) : Prop :=
  ((asciiEncode (serialize P m)).length : ℤ) ≤ cfg.maxBodySize

/-- The message is sent in the name of the one who posts it, where the broker knows that. -/
def OwnName (p : PyStr) (m : Message) : Prop := p ≠ [] → m.metadata.sender = .str p

theorem ownName_of_sender (h : p = [] ∨ p = a) (hs : m.metadata.sender = .str a) : OwnName p m := by
  intro hne
  rcases h with rfl | rfl
  · exact absurd rfl hne
  · exact hs

theorem Known.written (h : Known P cfg clients a p) (ha : encodable a = true) :
    encodable p = true := by
  rcases h.own with rfl | rfl
  · rfl
  · exact ha

/-- The agent is registered with a mailbox that holds these texts. -/
structure Boxed (b : Broker) (x : PyStr) (texts : List PyStr) : Prop where
  endpoint : ∃ e, (b.stores.entry x).endpoint = some e ∧ e.mailbox = true
  queue : (b.stores.entry x).queue = some texts

theorem Boxed.of_stores {b' : Broker} (h : Boxed b x texts) (hs : b'.stores = b.stores) :
    Boxed b' x texts :=
  ⟨by rw [hs]; exact h.endpoint, by rw [hs]; exact h.queue⟩

theorem Boxed.enqueue {b' : Broker} {text : PyStr} (h : Boxed b y texts)
    (hstores : b'.stores = b.stores.enqueue x text) :
    Boxed b' y (if x = y then texts ++ [text] else texts) := by
  obtain ⟨e, he, hmail⟩ := h.endpoint
  refine ⟨⟨e, ?_, hmail⟩, ?_⟩ <;> rw [hstores, Stores.entry_enqueue] <;> split_ifs <;>
    simp_all [h.queue]

theorem handleSend_unfit (h : Conveys P (.obj (toDict P m))) (hf : ¬ Fits P cfg m) :
    (handleSend P cfg env (messagePost P m) p b).2 = b := by
  have hlength : declaredLength P (messagePost P m) = .ok (messagePost P m).body.length :=
    h.measured
  have hlong : ((messagePost P m).body.length : ℤ) > cfg.maxBodySize := not_le.1 hf
  simp only [handleSend, readBody, hlength, if_pos hlong]

variable (env) in
/-- A message for a mailbox is queued there and answered with 202. -/
theorem handleSend_queued {e : Endpoint} (h : Conveys P (.obj (toDict P m))) (hf : Fits P cfg m)
    (hv : validate P m = .ok ()) (hfrom : OwnName p m) (hto : m.metadata.recipient = .str x)
    (hx : x ≠ []) (he : b.stores.registry.get? x = some e) (hbox : e.mailbox = true)
    (hpe : encodable p = true) (hxe : encodable x = true) :
    (handleSend P cfg env (messagePost P m) p b).1.httpAnswer P = .answer 202 []
      ∧ (handleSend P cfg env (messagePost P m) p b).2.stores
        = b.stores.enqueue x (serialize P m) := by
  have hsend : handleSend P cfg env (messagePost P m) p b
      = dispatchSend P cfg env p (wired P m) b :=
    handleSend_message ⟨h.measured, hf⟩ h.sent (deserialize_valid h hv)
  have hname : ¬ (p ≠ [] ∧ (wired P m).metadata.sender.asStr? ≠ some p) := by
    rintro ⟨hne, hsender⟩
    have hs : (wired P m).metadata.sender = .str p := hfrom hne
    exact hsender (by rw [hs]; rfl)
  have hto' : (wired P m).metadata.recipient = .str x := hto
  have htruthy : (Json.str x).truthy = true := by simpa [Json.truthy] using hx
  have hlog : ∀ b' : Broker, b'.log (sendRecord env p 202 (lit "queued for mailbox " ++ x))
      = .ok { b' with audit := b'.audit
        ++ [sendRecord env p 202 (lit "queued for mailbox " ++ x)] } := fun b' =>
    log_of_loggable (sendRecord_loggable.2 ⟨hpe, encodable_append (by decide) hxe⟩)
  have hdispatch : dispatchSend P cfg env p (wired P m) b
      = sendToMailbox P cfg env p x (wired P m) b := by
    rw [dispatchSend, if_neg hname, hto', htruthy]
    simp only [Registry.lookup, he, hbox, Json.asStr?, Option.getD_some, Bool.not_true,
      Bool.false_eq_true, if_false, if_true]
  simp only [hsend, hdispatch, sendToMailbox, logThenAnswer, hlog, serialize_wired]
  exact ⟨rfl, rfl⟩

theorem brokerPost_unfit (hk : Known P cfg clients a p) (h : Conveys P (.obj (toDict P m)))
    (hf : ¬ Fits P cfg m) : (brokerPost P cfg clients env a m b).2.stores = b.stores := by
  by_cases hin : LetIn cfg b.rateBuckets [(p, env)]
  · rw [brokerPost_letIn hk hin, handleSend_unfit h hf, counted_stores]
  · rw [brokerPost_limited hk hin, counted_stores]

variable (cfg env b) in
/-- A post queues nothing, or what it carries for the mailbox it names. -/
theorem brokerPost_cases (hk : Known P cfg clients a p) (h : Conveys P (.obj (toDict P m))) :
    (brokerPost P cfg clients env a m b).2.stores = b.stores
    ∨ ∃ m' x, Fits P cfg m ∧ deserialize P (serialize P m) = .ok m' ∧ OwnName p m'
      ∧ m'.metadata.recipient = .str x
      ∧ (brokerPost P cfg clients env a m b).2.stores
        = b.stores.enqueue x (serialize P m') := by
  by_cases hin : LetIn cfg b.rateBuckets [(p, env)]
  swap
  · exact .inl (by rw [brokerPost_limited hk hin, counted_stores])
  by_cases hf : Fits P cfg m
  swap
  · exact .inl (brokerPost_unfit hk h hf)
  rw [brokerPost_letIn hk hin]
  have heffect : Effect P cfg env (messagePost P m) p (counted cfg env p b).stores
      (handleSend P cfg env (messagePost P m) p (counted cfg env p b)).1
      (handleSend P cfg env (messagePost P m) p (counted cfg env p b)).2.stores :=
    handleSend_effect rfl rfl
  have hget : lit "POST" ≠ lit "GET" := by decide
  have hdelete : lit "POST" ≠ lit "DELETE" := by decide
  generalize (handleSend P cfg env (messagePost P m) p (counted cfg env p b)).2.stores = s
    at heffect
  generalize (handleSend P cfg env (messagePost P m) p (counted cfg env p b)).1 = o at heffect
  cases heffect with
  | enqueued hm hp hraw hmsg hfrom hto he hbox ho =>
    have hmeasured : Measured P cfg (messagePost P m) := ⟨h.measured, hf⟩
    have htext := readBody_text hmeasured hraw
    obtain rfl := Except.ok.inj (h.sent.symm.trans htext)
    exact .inr ⟨_, _, hf, hmsg, hfrom, hto, rfl⟩
  | refused | raised | routed => exact .inl rfl
  | registered hm hp => exact absurd hp messages_ne_agents
  | removed hm => exact absurd hm hdelete
  | read hm | polled hm | autoRegistered hm | halfPolled hm => exact absurd hm hget

theorem encodable_repr (n : ℕ) : encodable (lit n.repr) = true := by
  simp only [encodable, lit, List.all_map, List.all_eq_true, Function.comp_apply]
  intro c hc
  rw [Nat.toList_repr] at hc
  have hdigit := Char.isDigit_iff_toNat.1 (Nat.isDigit_of_mem_toDigits (by decide) (by decide) hc)
  have hnine : '9'.toNat = 57 := rfl
  simp only [Bool.not_eq_true', Bool.and_eq_false_iff, decide_eq_false_iff_not]
  omega

theorem encodable_intText (n : ℤ) : encodable (intText n) = true := by
  rcases n with n | n
  · exact encodable_repr n
  · have htext : intText (.negSucc n) = lit "-" ++ lit (n + 1).repr := by
      show lit ("-" ++ (n + 1).repr) = _
      simp [lit]
    rw [htext]
    exact encodable_append (by decide) (encodable_repr _)

/-- What a poll is answered with, however much there is. -/
theorem servePoll_texts (hq : (b.stores.entry a).queue = some texts) (ha : encodable a = true) :
    (servePoll env a b).1.httpAnswer P = .answer 200
      (asciiEncode (P.jsonDumps (.obj [(lit "messages", .arr (texts.map .str))]))) := by
  have hbeat : ((b.stores.pollHeartbeat a env.monotonic.heartbeat).entry a).queue = some texts := by
    rw [Stores.entry_pollHeartbeat]
    split_ifs <;> exact hq
  obtain ⟨mbox, hr, htexts⟩ := Deques.queue_eq_some.1 hbeat
  have hlog : AuditRecord.Loggable ⟨env.wallTime, lit "poll", a, lit "/messages", 200,
      lit "delivered=" ++ intText texts.length⟩ := by
    have hpoll : encodable (lit "poll") = true := by decide
    have hpath : encodable (lit "/messages") = true := by decide
    have hdetail : encodable (lit "delivered=" ++ intText texts.length) = true :=
      encodable_append (by decide) (encodable_intText _)
    simp [AuditRecord.Loggable, ha, hdetail, hpoll, hpath]
  simp only [servePoll, takeMessages, hr, htexts, logThenAnswer]
  rw [log_of_loggable hlog]
  rfl

/-- A poll of an agent that has a mailbox and is let in. -/
structure Polls (P : Python) (cfg : ServerConfig) (clients : Clients) (env : Env) (a : PyStr)
    (b : Broker) : Prop where
  known : ∃ p, Known P cfg clients a p ∧ LetIn cfg b.rateBuckets [(p, env)]
  named : a ≠ []
  written : encodable a = true

theorem brokerPoll_texts (h : Polls P cfg clients env a b)
    (hq : (b.stores.entry a).queue = some texts) :
    (brokerPoll P cfg clients env a b).1 = .answer 200
        (asciiEncode (P.jsonDumps (.obj [(lit "messages", .arr (texts.map .str))])))
      ∧ (brokerPoll P cfg clients env a b).2.stores
        = (b.stores.pollHeartbeat a env.monotonic.heartbeat).takeAll a := by
  obtain ⟨p, hk, hin⟩ := h.known
  obtain ⟨mbox, hr, -⟩ := Deques.queue_eq_some.1 hq
  have hq' : ((counted cfg env p b).stores.entry a).queue = some texts := hq
  rw [brokerPoll_letIn hk h.named hin (by rw [hr]; rfl)]
  exact ⟨servePoll_texts hq' h.written, (servePoll_spec env a _).2⟩

/-- A poll empties the mailbox it is for. -/
theorem brokerPoll_boxed (h : Polls P cfg clients env a b) {texts' : List PyStr}
    (hq : (b.stores.entry a).queue = some texts') (hy : Boxed b y texts) :
    Boxed (brokerPoll P cfg clients env a b).2 y (if a = y then [] else texts) := by
  obtain ⟨-, hstores⟩ := brokerPoll_texts h hq
  obtain ⟨e, he, hmail⟩ := hy.endpoint
  refine ⟨⟨e, ?_, hmail⟩, ?_⟩ <;> rw [hstores, entry_takeAll, Stores.entry_pollHeartbeat] <;>
    split_ifs <;> simp_all [hy.queue]

/-- What the receive-loop makes of a poll's answer that arrives. -/
theorem polled_texts (h : Conveys P (.obj [(lit "messages", .arr (texts.map .str))])) :
    polled P (.answer 200 (asciiEncode (P.jsonDumps
        (.obj [(lit "messages", .arr (texts.map .str))]))))
      = ((NetworkedBrokerTransport.deserializeAll P (texts.map .str)).toOption).getD [] := by
  have hreceive : NetworkedBrokerTransport.receive P Agent.pollTimeout (.answer 200 (asciiEncode
      (P.jsonDumps (.obj [(lit "messages", .arr (texts.map .str))]))))
      = NetworkedBrokerTransport.pollMessages P (P.jsonDumps
        (.obj [(lit "messages", .arr (texts.map .str))])) := by
    simp only [NetworkedBrokerTransport.receive, h.sent]
    rfl
  rw [NetworkedBrokerTransport.pollMessages, NetworkedBrokerTransport.parsePoll,
    if_neg h.nonempty, h.read] at hreceive
  change _ = NetworkedBrokerTransport.deserializeAll P (texts.map .str) at hreceive
  rw [polled, Mealy.output_cons, Mealy.output_nil, List.append_nil]
  rcases hms : NetworkedBrokerTransport.deserializeAll P (texts.map .str) with e | ms
  · rw [(recvLoop_error rfl (hreceive.trans hms)).1]
    rfl
  · rw [recvLoop_ok rfl (hreceive.trans hms), List.map_map]
    exact List.map_id _

/-- An answer other than 200 brings no message. -/
theorem polled_refused {status : ℕ} (hstatus : status ≠ 200) (body : List UInt8) :
    polled P (.answer status body) = [] := by
  obtain ⟨e, he⟩ : ∃ e, NetworkedBrokerTransport.receive P Agent.pollTimeout (.answer status body)
      = .error e := by
    simp only [NetworkedBrokerTransport.receive, bind, Except.bind]
    rcases P.utf8Decode body with e | data
    · exact ⟨e, rfl⟩
    · exact ⟨_, if_neg hstatus⟩
  rw [polled, Mealy.output_cons, Mealy.output_nil, List.append_nil, (recvLoop_error rfl he).1]
  rfl

/-- An empty mailbox delivers nothing. -/
theorem polled_nil (hk : Known P cfg clients a p) (ha : a ≠ []) (hae : encodable a = true)
    (h : Conveys P (.obj [(lit "messages", .arr [])])) (hbox : Boxed b a []) :
    polled P (brokerPoll P cfg clients env a b).1 = [] := by
  by_cases hin : LetIn cfg b.rateBuckets [(p, env)]
  · rw [(brokerPoll_texts ⟨⟨p, hk, hin⟩, ha, hae⟩ hbox.queue).1, polled_texts h]
    rfl
  · rw [brokerPoll_limited hk hin]
    exact polled_refused (by decide) _

/-- A mailbox with one text delivers what it decodes to. -/
theorem polled_one {text : PyStr} (h : Conveys P (.obj [(lit "messages", .arr [.str text])]))
    (hpoll : Polls P cfg clients env a b) (hbox : Boxed b a [text]) :
    polled P (brokerPoll P cfg clients env a b).1 = ((deserialize P text).toOption).toList := by
  rw [(brokerPoll_texts hpoll hbox.queue).1, polled_texts h]
  simp only [List.map_cons, List.map_nil, NetworkedBrokerTransport.deserializeAll, deserializeValue]
  rcases deserialize P text with e | m
  · simp only
    split_ifs <;> rfl
  · rfl

end Broker

/-! ### Pull mode -/

section Pull

variable {cfg : ServerConfig} {clients : Clients} {a r p : PyStr} {b : Broker}

/-- The broker takes the message, posted under `p`, for the mailbox of `a`. -/
structure Accepted (P : Python) (cfg : ServerConfig) (p a : PyStr) (m : Message) : Prop where
  valid : validate P m = .ok ()
  fits : Fits P cfg m
  name : OwnName p m
  recipient : m.metadata.recipient = .str a

variable {env : Env}

theorem brokerPost_accepted (hk : Known P cfg clients r p)
    (hin : LetIn cfg b.rateBuckets [(p, env)]) (h : Conveys P (.obj (toDict P m)))
    (hm : Accepted P cfg p a m) (ha : a ≠ []) (hae : encodable a = true)
    (hre : encodable r = true) (hbox : ∃ e, (b.stores.entry a).endpoint = some e
      ∧ e.mailbox = true) : (brokerPost P cfg clients env r m b).1 = .answer 202 []
      ∧ (brokerPost P cfg clients env r m b).2.stores = b.stores.enqueue a (serialize P m) := by
  obtain ⟨e, he, hmail⟩ := hbox
  rw [brokerPost_letIn hk hin]
  exact handleSend_queued env h hm.fits hm.valid hm.name hm.recipient ha he hmail
    (hk.written hre) hae

theorem brokerPost_refused (hk : Known P cfg clients r p) (h : Conveys P (.obj (toDict P m)))
    (hP : Library P) (hm : ¬ Accepted P cfg p a m) (hbox : Boxed b a []) :
    Boxed (brokerPost P cfg clients env r m b).2 a [] := by
  rcases brokerPost_cases cfg env b hk h with hsame | ⟨m', x, hf, hd, hname, hto, hqueued⟩
  · exact hbox.of_stores hsame
  · have hx : x ≠ a := by
      rintro rfl
      by_cases hv : validate P m = .ok ()
      · obtain rfl := Except.ok.inj ((deserialize_valid h hv).symm.trans hd)
        exact hm ⟨hv, hf, hname, hto⟩
      · obtain ⟨e, he, -⟩ := deserialize_invalid hP h hv
        rw [he] at hd
        cases hd
    simpa [hx] using hbox.enqueue hqueued

end Pull

/-! ### The two exchanges -/

/-- Agents `a` and `r` are up: `r` with a server in the registry, and both known to the broker,
under `p` and `q`, with an empty mailbox there. -/
structure Started (P : Python) (cfg : ServerConfig) (clients : Clients) (registry : Registry)
    (b : Broker) (a r p q : PyStr) : Prop where
  names : a ≠ [] ∧ r ≠ []
  written : encodable a = true ∧ encodable r = true
  server : ∃ endpoint, registry.get? r = some endpoint
  boxes : Boxed b a [] ∧ Boxed b r []
  known : Known P cfg clients a p ∧ Known P cfg clients r q

/-- What goes over the wire when the handler's first call came to `h`. -/
inductive OnWire (P : Python) (request : Message) (h : HandlerResult) : Json → Prop
  | request : OnWire P request h (.obj (toDict P request))
  | reply {reply} (hm : h = .returned (some reply)) : OnWire P request h (.obj (toDict P reply))
  | nothing : OnWire P request h (.obj [(lit "messages", .arr [])])
  | fetched : OnWire P request h (.obj [(lit "messages", .arr [.str (serialize P request)])])
  | inbound {reply} (hm : h = .returned (some reply)) :
      OnWire P request h (.obj [(lit "messages", .arr [.str (serialize P reply)])])

/-- The callbacks of the recipient: call `i` of its request handler does what `handler i` says. -/
def answering (r : PyStr) (handler : ℕ → Message → HandlerResult)
    (notification : Option (Message → Option Exc)) (i : ℕ) : Agent.Callbacks :=
  ⟨r, some (handler i), notification⟩

variable {st : Stamp} {a r : PyStr} {extra body : Fields}

theorem nonEmptyStr_of_ne {text s : PyStr} (h : s ≠ []) : nonEmptyStr text (.str s) = .ok s := by
  obtain ⟨c, s, rfl⟩ := List.exists_cons_of_ne_nil h
  rfl

theorem checkVersion_protocol {n : ℤ} (hone : P.int (lit "1") = .ok n) :
    checkVersion P (.str protocolVersion) = .ok protocolVersion := by
  have hmajor : major P protocolVersion = .ok n := by
    rw [major, show (splitOnce 46 protocolVersion).1 = lit "1" by decide, hone]
  simp only [checkVersion, hmajor]
  exact if_neg (not_not.2 rfl)

/-- A message of this version that is named, sent by somebody, at some time, and correlated as its
type has it. -/
theorem validate_of_parts {n : ℤ} (hone : P.int (lit "1") = .ok n) (hid : m.messageId ≠ [])
    (hversion : m.version = protocolVersion) (hsender : m.metadata.sender = .str a) (ha : a ≠ [])
    (htime : m.metadata.timestamp ≠ [])
    (hcorr : ∃ c, checkCorrelation m.type (optStr m.correlationId) = .ok c) :
    validate P m = .ok () := by
  have hfields : gatherFields P m = toDict P m := rfl
  obtain ⟨c, hc⟩ := hcorr
  rw [validate, hfields, validateFields, toDict_messageId, toDict_type, toDict_version,
    toDict_metadata, toDict_body, toDict_correlationId]
  simp only [hversion, hsender, nonEmptyStr_of_ne hid, checkType_value, checkVersion_protocol hone,
    mapping, bind, Except.bind, metadataFields_sender, nonEmptyStr_of_ne ha,
    metadataFields_timestamp, nonEmptyStr_of_ne htime, hc]
  rfl

theorem buildRequest_valid {n : ℤ} (hone : P.int (lit "1") = .ok n) (ha : a ≠ [])
    (hid : st.messageId ≠ []) (htime : st.timestamp ≠ []) :
    validate P (Agent.buildRequest st a r extra body) = .ok () := by
  have hfields : gatherFields P (Agent.buildRequest st a r extra body)
      = toDict P (Agent.buildRequest st a r extra body) := rfl
  rw [validate, hfields, validateFields, toDict_messageId, toDict_type, toDict_version,
    toDict_metadata, toDict_body, toDict_correlationId]
  simp only [Agent.buildRequest, nonEmptyStr_of_ne hid, checkType_value, checkVersion_protocol hone,
    mapping, bind, Except.bind, metadataFields_sender, nonEmptyStr_of_ne ha,
    metadataFields_timestamp, nonEmptyStr_of_ne htime]
  rfl

theorem buildRequest_arrives {n : ℤ} (hone : P.int (lit "1") = .ok n) (ha : a ≠ [])
    (hid : st.messageId ≠ []) (htime : st.timestamp ≠ [])
    (h : Conveys P (.obj (toDict P (Agent.buildRequest st a r extra body)))) :
    deserialize P (serialize P (Agent.buildRequest st a r extra body))
      = .ok (Agent.buildRequest st a r extra body) := by
  refine deserialize_serialize (buildRequest_valid hone ha hid htime) (fun e he => ?_) h.read
  obtain ⟨e', -, rfl⟩ := List.mem_map.1 he
  exact ⟨_, rfl⟩

section Pulled

variable {cfg : ServerConfig} {clients : Clients} {env : ℕ → Env} {timeout : PyStr}
variable {stamps : ℕ → Stamp} {waiting : List PyStr} {registry : Registry} {b : Broker}
variable {ask : Pull.Ask} {callbacks : ℕ → Agent.Callbacks} {p q : PyStr}

theorem pull_unfetched
    (h : polled P (brokerPoll P cfg clients (env 1) r
      (brokerPost P cfg clients (env 0) a ask.request b).2).1 = []) :
    (sendRequestPull P cfg clients env timeout callbacks stamps waiting a r ask b).calls = 0 := by
  simp only [sendRequestPull, h, List.filter_nil, runTasks]

/-- A request that the broker does not take is fetched by nobody. -/
theorem pull_unsent (h : Started P cfg clients registry b a r p q)
    (hnothing : Conveys P (.obj [(lit "messages", .arr [])]))
    (hpost : (brokerPost P cfg clients (env 0) a ask.request b).2.stores = b.stores) :
    (sendRequestPull P cfg clients env timeout callbacks stamps waiting a r ask b).calls = 0 :=
  pull_unfetched (polled_nil h.known.2 h.names.2 h.written.2 hnothing (h.boxes.2.of_stores hpost))

/-- A request whose post or whose fetching the rate limit turns away is not handled. -/
theorem pull_limited (h : Started P cfg clients registry b a r p q)
    (hnothing : Conveys P (.obj [(lit "messages", .arr [])]))
    (hno : ¬ LetIn cfg b.rateBuckets [(p, env 0), (q, env 1)]) :
    (sendRequestPull P cfg clients env timeout callbacks stamps waiting a r ask b).calls = 0 := by
  by_cases hin : LetIn cfg b.rateBuckets [(p, env 0)]
  · refine pull_unfetched ?_
    have hpoll : ¬ LetIn cfg (brokerPost P cfg clients (env 0) a ask.request b).2.rateBuckets
        [(q, env 1)] := by
      rw [brokerPost_buckets h.known.1]
      exact fun hpass => hno (letIn_cons.2 ⟨hin, hpass⟩)
    rw [brokerPoll_limited h.known.2 hpoll]
    exact polled_refused (by decide) _
  · exact pull_unsent h hnothing (by rw [brokerPost_limited h.known.1 hin, counted_stores])

variable (timeout stamps waiting ask callbacks) in
/-- A request that the broker takes is handled once, and the caller waits for what the recipient
posts. -/
theorem pull_fit (h : Started P cfg clients registry b a r p q)
    (hin : LetIn cfg b.rateBuckets [(p, env 0), (q, env 1)])
    (hc : Conveys P (.obj (toDict P ask.request)))
    (hfetched : Conveys P (.obj [(lit "messages", .arr [.str (serialize P ask.request)])]))
    (hempty : P.utf8Decode [] = .ok [])
    (hd : deserialize P (serialize P ask.request) = .ok ask.request)
    (hv : validate P ask.request = .ok ()) (hf : Fits P cfg ask.request)
    (hfrom : ask.request.metadata.sender = .str a) (hto : ask.request.metadata.recipient = .str r)
    (hcorr : ask.request.correlationId = none) :
    ∃ b', Boxed b' a []
      ∧ b'.rateBuckets = tallied cfg b.rateBuckets [(p, env 0), (q, env 1)]
      ∧ sendRequestPull P cfg clients env timeout callbacks stamps waiting a r ask b
        = ⟨awaitReply P timeout ask (.ok none) (polled P (brokerPoll P cfg clients (env 3) a
            (match (Agent.runHandler P (callbacks 1) (stamps 1) ask.request).1 with
              | some reply =>
                (brokerPost P cfg clients (env 2) (callbacks 1).agentId reply b').2
              | none => b')).1),
          (Agent.runHandler P (callbacks 1) (stamps 1) ask.request).2⟩ := by
  obtain ⟨hposts, hpolls⟩ := letIn_cons.1 hin
  rw [← brokerPost_buckets h.known.1 ask.request] at hpolls
  obtain ⟨hanswer, hqueued⟩ := brokerPost_accepted h.known.1 hposts hc
    ⟨hv, hf, ownName_of_sender h.known.1.own hfrom, hto⟩ h.names.2 h.written.2 h.written.1
    h.boxes.2.endpoint
  have hboxr := h.boxes.2.enqueue hqueued
  have hboxa := h.boxes.1.enqueue hqueued
  rw [if_pos rfl, List.nil_append] at hboxr
  have hpoll : Polls P cfg clients (env 1) r
      (brokerPost P cfg clients (env 0) a ask.request b).2 :=
    ⟨⟨q, h.known.2, hpolls⟩, h.names.2, h.written.2⟩
  have hpolled := polled_one hfetched hpoll hboxr
  have hleft : Boxed (brokerPoll P cfg clients (env 1) r
      (brokerPost P cfg clients (env 0) a ask.request b).2).2 a [] := by
    have hboxed := brokerPoll_boxed hpoll hboxr.queue hboxa
    by_cases hra : r = a
    · simpa [hra] using hboxed
    · simpa [hra] using hboxed
  have hbuckets : (brokerPoll P cfg clients (env 1) r
      (brokerPost P cfg clients (env 0) a ask.request b).2).2.rateBuckets
      = tallied cfg b.rateBuckets [(p, env 0), (q, env 1)] := by
    rw [brokerPoll_buckets h.known.2, brokerPost_buckets h.known.1, ← tallied_append]
    rfl
  refine ⟨_, hleft, hbuckets, ?_⟩
  rcases hp : brokerPost P cfg clients (env 0) a ask.request b with ⟨answer, b₁⟩
  rw [hp] at hanswer hpolled
  simp only at hanswer hpolled
  subst hanswer
  rcases hq : brokerPoll P cfg clients (env 1) r b₁ with ⟨delivery, b₂⟩
  rw [hq, hd] at hpolled
  have hsent : NetworkedBrokerTransport.send P ask.request timeout (.answer 202 []) = .ok none := by
    simp only [NetworkedBrokerTransport.send, doPost, hempty]
    rfl
  have htasks : (polled P delivery).filter (Agent.toPool waiting) = [ask.request] := by
    rw [hpolled]
    simp [Agent.toPool, hcorr, Except.toOption]
  rcases hr : Agent.runHandler P (callbacks 1) (stamps 1) ask.request with ⟨_ | reply, n⟩ <;>
    simp only [sendRequestPull, hp, hq, htasks, runTasks, hr, hsent, List.length_singleton,
      Nat.add_zero]

variable {handler : ℕ → Message → HandlerResult} {notification : Option (Message → Option Exc)}

/-- The reply that a handler pool's task posts. -/
theorem runHandler_answering {i : ℕ} (ht : request.type = .request) :
    Agent.runHandler P (answering r handler notification i) st request
      = (match handler i request with
        | .returned reply => reply
        | .unsendable _ _ => none
        | .raised _ => some (Agent.handlerError (answering r handler notification i) st request),
        1) := by
  simp only [Agent.runHandler, Agent.handle, ht, answering, if_true]
  rcases handler i request with reply | ⟨_, e⟩ | e <;> rfl

theorem awaitReply_nil :
    awaitReply P timeout ask (.ok none) [] = .error (Pull.noReply P timeout ask) := rfl

theorem awaitReply_one (m : Message) : awaitReply P timeout ask (.ok none) [m]
    = if m.correlationId = some ask.key then .ok m
      else .error (Pull.noReply P timeout ask) := by
  simp only [awaitReply, List.find?]
  by_cases hm : m.correlationId = some ask.key <;> simp [hm]

variable {env : Env}

/-- A task that posts nothing leaves the caller without a reply. -/
theorem awaitReply_silent (h : Started P cfg clients registry b a r p q) {b' : Broker}
    (hbox : Boxed b' a []) (hnothing : Conveys P (.obj [(lit "messages", .arr [])])) :
    awaitReply P timeout ask (.ok none) (polled P (brokerPoll P cfg clients env a b').1)
      = .error (Pull.noReply P timeout ask) := by
  rw [polled_nil h.known.1 h.names.1 h.written.1 hnothing hbox, awaitReply_nil]

variable (env timeout ask) in
/-- A reply that is posted reaches the caller if the broker takes it for the caller's mailbox, it is
correlated to the request, and the rate limit lets it in and the caller's poll after it. -/
theorem awaitReply_posted (env' : Env) (hP : Library P)
    (h : Started P cfg clients registry b a r p q) {b' : Broker}
    (hbox : Boxed b' a []) (hnothing : Conveys P (.obj [(lit "messages", .arr [])]))
    (hm : Conveys P (.obj (toDict P m)))
    (hinbound : Conveys P (.obj [(lit "messages", .arr [.str (serialize P m)])])) :
    (Accepted P cfg q a m → m.correlationId = some ask.key →
      LetIn cfg b'.rateBuckets [(q, env'), (p, env)] →
      awaitReply P timeout ask (.ok none) (polled P (brokerPoll P cfg clients env a
        (brokerPost P cfg clients env' r m b').2).1) = .ok (wired P m))
    ∧ (¬ (Accepted P cfg q a m ∧ m.correlationId = some ask.key
        ∧ LetIn cfg b'.rateBuckets [(q, env'), (p, env)]) →
      awaitReply P timeout ask (.ok none) (polled P (brokerPoll P cfg clients env a
        (brokerPost P cfg clients env' r m b').2).1) = .error (Pull.noReply P timeout ask)) := by
  have hbuckets : (brokerPost P cfg clients env' r m b').2.rateBuckets
      = tallied cfg b'.rateBuckets [(q, env')] := brokerPost_buckets h.known.2 m
  by_cases hposts : LetIn cfg b'.rateBuckets [(q, env')]
  swap
  · have hboxed : Boxed (brokerPost P cfg clients env' r m b').2 a [] :=
      hbox.of_stores (by rw [brokerPost_limited h.known.2 hposts, counted_stores])
    exact ⟨fun _ _ hin => absurd (letIn_cons.1 hin).1 hposts,
      fun _ => awaitReply_silent h hboxed hnothing⟩
  by_cases hacc : Accepted P cfg q a m
  swap
  · have hboxed : Boxed (brokerPost P cfg clients env' r m b').2 a [] :=
      brokerPost_refused h.known.2 hm hP hacc hbox
    exact ⟨fun hacc' => absurd hacc' hacc, fun _ => awaitReply_silent h hboxed hnothing⟩
  have hqueued := (brokerPost_accepted h.known.2 hposts hm hacc h.names.1 h.written.1 h.written.2
    hbox.endpoint).2
  have hboxed : Boxed (brokerPost P cfg clients env' r m b').2 a [serialize P m] := by
    simpa using hbox.enqueue hqueued
  by_cases hpolls :
      LetIn cfg (brokerPost P cfg clients env' r m b').2.rateBuckets [(p, env)]
  · have hin : LetIn cfg b'.rateBuckets [(q, env'), (p, env)] :=
      letIn_cons.2 ⟨hposts, hbuckets ▸ hpolls⟩
    have harrives : polled P (brokerPoll P cfg clients env a
        (brokerPost P cfg clients env' r m b').2).1 = [wired P m] := by
      rw [polled_one hinbound ⟨⟨p, h.known.1, hpolls⟩, h.names.1, h.written.1⟩ hboxed,
        deserialize_valid hm hacc.valid]
      rfl
    rw [harrives, awaitReply_one]
    have hcorr : (wired P m).correlationId = m.correlationId := rfl
    rw [hcorr]
    exact ⟨fun _ hkey _ => if_pos hkey, fun hno => if_neg fun hkey => hno ⟨hacc, hkey, hin⟩⟩
  · have hnone : polled P (brokerPoll P cfg clients env a
        (brokerPost P cfg clients env' r m b').2).1 = [] := by
      rw [brokerPoll_limited h.known.1 hpolls]
      exact polled_refused (by decide) _
    rw [hnone, awaitReply_nil]
    refine ⟨fun _ _ hin => absurd ?_ hpolls, fun _ => rfl⟩
    rw [hbuckets]
    exact (letIn_cons.1 hin).2

end Pulled

/-! ### The caller and its agent's receive-loop -/

namespace Pull

variable {timeout : PyStr} {ask : Ask} {s : State} {got : List Message}

/-- Call 0 alone waits, and its slot holds what it has got. -/
structure Waits (ask : Ask) (got : List Message) (s : State) : Prop where
  call : s.calls 0 = .wait ask
  loop : s.loop = .receive
  waiters : ∀ k, s.waiters.get? k = if k = ask.key then some 0 else none
  slot : (s.waiter 0).slot.map Delivery.message = got
  event : (s.waiter 0).event = !got.isEmpty

theorem distinct_of_ne {act : Action} (h : ∀ i ask, act ≠ .call i ask) : Distinct s act :=
  fun i ask hact => absurd hact (h i ask)

variable (P timeout)

/-- The loop brings a message to the call, or elsewhere. -/
theorem Waits.deliver (h : Waits ask got s) (m : Message) :
    ∃ tr s', (pullLts P timeout).Run Distinct s tr s'
      ∧ Waits ask (got ++ if m.correlationId = some ask.key then [m] else []) s' := by
  by_cases hm : m.correlationId = some ask.key
  · have hfind : m.correlationId.bind s.waiters.get? = some 0 := by simp [hm, h.waiters]
    have hrun : (pullLts P timeout).Run Distinct s _ _ :=
      Lts.run_of_exec (l := [.receive m, .dispatch, .dispatch, .dispatch])
        (fun act ha _ => distinct_of_ne (by rintro i ask rfl; simp at ha)) (by
          simp only [Lts.exec, Lts.execIf, pullLts, State.step, h.loop, hfind]
          rfl)
    refine ⟨_, _, hrun, h.call, rfl, h.waiters, ?_, ?_⟩
    · simp [hm, h.slot]
    · simp [hm]
  · have hfind : m.correlationId.bind s.waiters.get? = none := by
      rw [Option.bind_eq_none_iff]
      intro k hk
      rw [h.waiters, if_neg]
      rintro rfl
      exact hm hk
    have hrun : (pullLts P timeout).Run Distinct s _ _ :=
      Lts.run_of_exec (l := [.receive m, .dispatch, .submit false])
        (fun act ha _ => distinct_of_ne (by rintro i ask rfl; simp at ha)) (by
          simp only [Lts.exec, Lts.execIf, pullLts, State.step, h.loop, hfind]
          rfl)
    refine ⟨_, _, hrun, h.call, rfl, h.waiters, ?_, ?_⟩
    · simp [hm, h.slot]
    · simp [hm, h.event]

theorem Waits.deliverAll : ∀ {got : List Message} {s : State}, Waits ask got s →
    ∀ ms : List Message, ∃ tr s', (pullLts P timeout).Run Distinct s tr s'
      ∧ Waits ask (got ++ ms.filter fun m => m.correlationId = some ask.key) s'
  | got, s, h, [] => ⟨[], s, .refl, by simpa using h⟩
  | got, s, h, m :: ms => by
    obtain ⟨tr, s₁, hrun, h₁⟩ := h.deliver P timeout m
    obtain ⟨tr', s₂, hrun', h₂⟩ := Waits.deliverAll h₁ ms
    refine ⟨tr ++ tr', s₂, hrun.trans hrun', ?_⟩
    rw [List.append_assoc] at h₂
    by_cases hm : m.correlationId = some ask.key <;> simpa [hm, List.filter_cons] using h₂

/-- A call that waits ends with the first message in its slot, or without one. -/
theorem Waits.ends (h : Waits ask got s) : ∃ tr s', (pullLts P timeout).Run Distinct s tr s'
    ∧ match got.head? with
      | some m => ∃ d, d.message = m ∧ .ended 0 (.returned d) ∈ tr
      | none => .ended 0 (.raised (noReply P timeout ask)) ∈ tr := by
  rcases hslot : (s.waiter 0).slot with _ | ⟨d, ds⟩
  · have hgot : got = [] := by rw [← h.slot, hslot]; rfl
    subst hgot
    refine ⟨_, _, Lts.run_of_exec (l := [.timeout 0, .run 0])
      (fun act ha _ => distinct_of_ne (by rintro i ask rfl; simp at ha)) (by
        simp only [Lts.exec, Lts.execIf, pullLts, State.step, h.call, State.goes_calls, if_true]
        rfl), ?_⟩
    simp
  · have hgot : got = d.message :: ds.map Delivery.message := by rw [← h.slot, hslot]; rfl
    have hset : (s.waiter 0).event = true := by rw [h.event, hgot]; rfl
    have hhead : s.slotHead 0 = .returned d := by rw [State.slotHead, hslot]
    refine ⟨_, _, Lts.run_of_exec (l := [.wake 0, .run 0])
      (fun act ha _ => distinct_of_ne (by rintro i ask rfl; simp at ha)) (by
        simp only [Lts.exec, Lts.execIf, pullLts, State.step, h.call, hset, hhead,
          State.goes_calls, if_true]
        rfl), ?_⟩
    rw [hgot]
    exact ⟨d, rfl, by simp⟩

/-- What a request in pull mode comes to is how a call ends that is made alone, when the loop brings
the messages in order. -/
theorem awaitReply_run (ask : Ask) (answer : HttpAnswer) (inbound : List Message) :
    ∃ tr s, (pullLts P timeout).Run Distinct State.init tr s
      ∧ match awaitReply P timeout ask (NetworkedBrokerTransport.send P ask.request timeout answer)
          inbound with
        | .ok m => ∃ d, d.message = m ∧ .ended 0 (.returned d) ∈ tr
        | .error e => .ended 0 (.raised e) ∈ tr := by
  have hcall : (pullLts P timeout).Run Distinct State.init [] (State.init.goes 0 (.register ask)) :=
    Lts.Run.single (a := .call 0 ask) (fun i ask _ j h => by cases h) rfl
  rcases hsent : NetworkedBrokerTransport.send P ask.request timeout answer with e | reply
  · refine ⟨_, _, hcall.trans (Lts.run_of_exec (l := [.run 0, .sent 0 answer, .run 0])
      (fun act ha _ => distinct_of_ne (by rintro i ask rfl; simp at ha)) (by
        simp only [Lts.exec, Lts.execIf, pullLts, State.step, State.goes_calls, if_true, hsent]
        rfl)), ?_⟩
    simp [awaitReply]
  · have hposted : ∃ tr s, (pullLts P timeout).Run Distinct (State.init.goes 0 (.register ask)) tr s
        ∧ Waits ask [] s := by
      have hrun : (pullLts P timeout).Run Distinct (State.init.goes 0 (.register ask)) _ _ :=
        Lts.run_of_exec (l := [.run 0, .sent 0 answer])
          (fun act ha _ => distinct_of_ne (by rintro i ask rfl; simp at ha)) (by
            simp only [Lts.exec, Lts.execIf, pullLts, State.step, State.goes_calls, if_true, hsent]
            rfl)
      refine ⟨_, _, hrun, by simp, rfl, fun k => ?_, rfl, rfl⟩
      simp [State.goes, State.init, eq_comm]
    obtain ⟨tr₁, s₁, hrun₁, hwaits₁⟩ := hposted
    obtain ⟨tr₂, s₂, hrun₂, hwaits₂⟩ := hwaits₁.deliverAll P timeout inbound
    obtain ⟨tr₃, s₃, hrun₃, hended⟩ := hwaits₂.ends P timeout
    refine ⟨_, s₃, hcall.trans (hrun₁.trans (hrun₂.trans hrun₃)), ?_⟩
    rw [List.nil_append, List.head?_filter] at hended
    rcases hfind : inbound.find? fun m => m.correlationId = some ask.key with _ | m
    · have hnone :
          awaitReply P timeout ask (.ok reply) inbound = .error (noReply P timeout ask) := by
        simp only [awaitReply, hfind]
      rw [hfind] at hended
      rw [hnone]
      exact List.mem_append_right _ (List.mem_append_right _ (List.mem_append_right _ hended))
    · have hsome : awaitReply P timeout ask (.ok reply) inbound = .ok m := by
        simp only [awaitReply, hfind]
      rw [hfind] at hended
      obtain ⟨d, hd, hmem⟩ := hended
      rw [hsome]
      exact ⟨d, hd,
        List.mem_append_right _ (List.mem_append_right _ (List.mem_append_right _ hmem))⟩

end Pull

end AgentComm
