import AgentComm.Proofs.Undeliverable

/-!
# What a client of the broker is answered

The answers to a lookup and to a POST of a message, with the connections that fail, and that the
broker gives no others.
-/

namespace AgentComm

open Lib

variable {P : Python} {policy : RetryPolicy} {timeout : PyStr} {m : Message}

/-- The status and the body a request is turned away with. -/
inductive Refusal : ℕ → Fields → Prop
  | invalid (text : PyStr) : Refusal 400 [(lit "error", .str text)]
  | unauthorized (detail : PyStr) : Refusal 401 [(lit "error", .str detail)]
  | foreign : Refusal 403 [(lit "error", .str (lit "sender does not match authenticated agent"))]
  | tooLarge (allowed received : ℤ) : Refusal 413 [(lit "error",
      .str (lit "request body too large")), (lit "max_bytes", .int allowed),
      (lit "received_bytes", .int received)]
  | limited : Refusal 429 [(lit "error", .str (lit "rate limit exceeded")),
      (lit "retry_after", .float (.finite 1))]

/-- The answer to the lookup, or the connection that fails. -/
inductive Listing
  | agents (s : Stores) (now : ℚ)
  | refused (status : ℕ) (fields : Fields)
  | dropped (e : Exc)

namespace Listing

def agentsFields (s : Stores) (now : ℚ) : Fields :=
  [(lit "agents", .arr ((discover s now).map .obj))]

def fields? : Listing → Option Fields
  | agents s now => some (agentsFields s now)
  | refused _ fields => some fields
  | dropped _ => none

variable (P) in
def http : Listing → HttpAnswer
  | agents s now => .answer 200 (asciiEncode (P.jsonDumps (.obj (agentsFields s now))))
  | refused status fields => .answer status (asciiEncode (P.jsonDumps (.obj fields)))
  | dropped e => .raises e

def Possible : Listing → Prop
  | agents _ _ => True
  | refused status fields => Refusal status fields
  | dropped e => e.isOSError = true

/-- The list is there, with the agent in it. -/
def Lists (x : Listing) (a : PyStr) : Prop :=
  match x with
  | agents s _ => (s.capabilities.get? a).isSome = true
  | _ => False

/-- The list is there, and the recipient is not in it. -/
def Lacks (x : Listing) (recipient : Json) : Prop :=
  match x with
  | agents _ _ => ∀ a, recipient = .str a → ¬ x.Lists a
  | _ => False

end Listing

/-- The answer to a POST, or the connection that fails. -/
inductive PostAnswer
  | replied (r : Message)
  | delivered
  | queued
  | unknown (st : Stamp)
  | failed (st : Stamp) (text : PyStr)
  | refused (status : ℕ) (fields : Fields)
  | dropped (e : Exc)

namespace PostAnswer

variable (P m) in
def fields? : PostAnswer → Option Fields
  | replied r => some (toDict P r)
  | unknown st => some (toDict P (Error.to st m (lit "unknown_recipient")
      (lit "unknown recipient: " ++ pyText P m.metadata.recipient)))
  | failed st text => some (toDict P (Error.to st m (lit "delivery_failed") text))
  | refused _ fields => some fields
  | _ => none

def status : PostAnswer → ℕ
  | replied _ => 200
  | delivered => 204
  | queued => 202
  | unknown _ => 404
  | failed _ _ => 502
  | refused status _ => status
  | dropped _ => 0

variable (P m) in
def http : PostAnswer → HttpAnswer
  | dropped e => .raises e
  | x => .answer x.status
      ((x.fields? P m).elim [] fun fields => asciiEncode (P.jsonDumps (.obj fields)))

variable (P) in
def Possible : PostAnswer → Prop
  | replied r => validate P r = .ok ()
  | unknown st | failed st _ => st.messageId ≠ [] ∧ st.timestamp ≠ []
  | refused status fields => Refusal status fields
  | dropped e => e.isOSError = true
  | _ => True

def IsUnknown : PostAnswer → Prop
  | unknown _ => True
  | _ => False

def IsRefused : PostAnswer → Prop
  | refused _ _ => True
  | _ => False

/-- The transport raises something that is tried again after. -/
def Retries : PostAnswer → Prop
  | unknown _ | failed _ _ | dropped _ => True
  | _ => False

theorem IsRefused.not_retries {x : PostAnswer} (h : x.IsRefused) : ¬ x.Retries := by
  cases x <;> first | exact id | exact h.elim

end PostAnswer

/-! ### What the broker does answer -/

section Broker

variable {cfg : ServerConfig} {env : Env} {req : Request} {b : Broker} {o : Outcome}

theorem valid_of_deserialize {raw : PyStr} (h : deserialize P raw = .ok m) :
    validate P m = .ok () := by
  obtain ⟨data, hloads, hv⟩ := validated_of_deserialize h
  rcases deserialize_cases hloads hv with ⟨e, -, he⟩ | ⟨t, d, ht, -, hd, hholds⟩
  · cases h.symm.trans he
  · obtain rfl := Except.ok.inj (hd.symm.trans h)
    exact (hholds.validate_eq ht).trans (validateFields_of_dict hv)

theorem valid_of_send {endpoint : Endpoint} {x : HttpAnswer} {r : Message}
    (h : TransportClient.send P endpoint timeout x = .ok (some r)) : validate P r = .ok () := by
  obtain ⟨⟨status, data⟩, -, h⟩ := bind_eq_ok h
  simp only [TransportClient.reply] at h
  split_ifs at h
  · cases h
  · rcases hd : deserialize P data with e | r'
    · simp only [hd] at h
      split_ifs at h
    · simp only [hd, Except.ok.injEq, Option.some.injEq] at h
      subst h
      exact valid_of_deserialize hd

theorem valid_of_route {registry : Registry} {network : ℕ → HttpAnswer} {r : Message}
    (h : Router.route P registry policy timeout network m = .ok (some r)) :
    validate P r = .ok () := by
  unfold Router.route at h
  split_ifs at h
  rcases hl : registry.lookup P m.metadata.recipient with e | endpoint
  · simp only [hl] at h
    cases h
  simp only [hl] at h
  rcases retryCall_cases (fun i => TransportClient.send P endpoint timeout (network i)) policy
    with ⟨i, -, -, hres, -⟩ | ⟨-, ⟨c, hres⟩, -⟩ <;> rw [hres] at h
  · rcases hs : TransportClient.send P endpoint timeout (network i) with e | r' <;>
      simp only [hs, Except.mapError] at h <;> cases h
    exact valid_of_send hs
  · cases h

variable (P m) in
/-- The client gets an answer to its POST that is one of these. -/
def AnswersPost (o : Outcome) : Prop :=
  ∃ x : PostAnswer, x.Possible P ∧ o.httpAnswer P = x.http P m

theorem AnswersPost.crash {e : Exc} : AnswersPost P m (.crash e) :=
  ⟨.dropped ⟨.osError, lit "Remote end closed connection without response"⟩, rfl, rfl⟩

theorem AnswersPost.answer {resp : Response} (x : PostAnswer) (hx : x.Possible P)
    (h : HttpAnswer.answer resp.status (resp.payload.bytes P) = x.http P m) :
    AnswersPost P m (.answer resp) :=
  ⟨x, hx, h⟩

theorem AnswersPost.answerThenLog {resp : Response} {r : AuditRecord}
    (h : AnswersPost P m (.answer resp)) : AnswersPost P m (answerThenLog b r resp).1 := by
  obtain ⟨x, hx, hr⟩ := h
  refine ⟨x, hx, ?_⟩
  rw [← hr, Outcome.httpAnswer, answerThenLog_written]
  rfl

theorem AnswersPost.logThenAnswer {resp : Response} {r : AuditRecord}
    (h : AnswersPost P m (.answer resp)) : AnswersPost P m (logThenAnswer b r resp).1 := by
  unfold AgentComm.logThenAnswer
  split
  · exact h
  · exact .crash

/-- What the broker refuses is answered with a refusal. -/
theorem AnswersPost.refused {resp : Response} {fields : Fields} (hr : Refusal resp.status fields)
    (hp : resp.payload = .json fields) : AnswersPost P m (.answer resp) := by
  refine .answer (.refused resp.status fields) hr ?_
  rw [hp]
  rfl

theorem sendToEndpoint_answers (hid : env.stamp.messageId ≠ []) (htime : env.stamp.timestamp ≠ [])
    {p : PyStr} : AnswersPost P m (sendToEndpoint P cfg env p (wired P m) b).1 := by
  unfold sendToEndpoint routeSend
  rcases hroute : Router.route P b.stores.registry cfg.retryPolicy cfg.routerTimeout env.network
    (wired P m) with e | _ | r
  · simp only
    split_ifs
    · exact .logThenAnswer (.answer (.unknown env.stamp) ⟨hid, htime⟩ rfl)
    · exact .logThenAnswer (.answer (.failed env.stamp e.text) ⟨hid, htime⟩ rfl)
    · exact .crash
  · exact .logThenAnswer (.answer .delivered trivial rfl)
  · exact .logThenAnswer (.answer (.replied r) (valid_of_route hroute) rfl)

theorem dispatchSend_answers (hid : env.stamp.messageId ≠ []) (htime : env.stamp.timestamp ≠ [])
    {p : PyStr} : AnswersPost P m (dispatchSend P cfg env p (wired P m) b).1 := by
  cases dispatchSend_end P cfg env p b (wired P m) with
  | foreign _ h => exact h ▸ .answerThenLog (.refused .foreign rfl)
  | missing _ h => exact h ▸ .answerThenLog (.refused (.invalid _) rfl)
  | unknown _ h => exact h ▸ .answerThenLog (.answer (.unknown env.stamp) ⟨hid, htime⟩ rfl)
  | raised _ h => exact h ▸ .crash
  | queued _ _ _ _ h => exact h ▸ .logThenAnswer (.answer .queued trivial rfl)
  | routed _ _ _ _ h => exact h ▸ sendToEndpoint_answers hid htime

theorem handleSend_answers (hid : env.stamp.messageId ≠ []) (htime : env.stamp.timestamp ≠ [])
    {p : PyStr} (hread : ∀ raw m', readBody P cfg req = .text raw → deserialize P raw = .ok m' →
      m' = wired P m) : AnswersPost P m (handleSend P cfg env req p b).1 := by
  cases handleSend_end P cfg env req p b with
  | turnedAway hraw h =>
    obtain ⟨length, rfl⟩ := readBody_refuses hraw
    exact h ▸ .refused (.tooLarge cfg.maxBodySize length) rfl
  | raised h => exact h ▸ .crash
  | undecodable _ _ h => exact h ▸ .answerThenLog (.refused (.invalid _) rfl)
  | @dispatched raw m' hraw hd h =>
    obtain rfl := hread raw m' hraw hd
    exact h ▸ dispatchSend_answers hid htime

/-- What the broker does with a POST of a message is one of the answers above. -/
theorem handle_answers_post (hid : env.stamp.messageId ≠ []) (htime : env.stamp.timestamp ≠ [])
    (hm : req.method = lit "POST") (hpath : req.path = defaultMessagePath)
    (hread : ∀ raw m', readBody P cfg req = .text raw → deserialize P raw = .ok m' →
      m' = wired P m) : AnswersPost P m (handle P cfg env req b).1 := by
  rw [handle_post hm, doPOST]
  cases withAgent_end P cfg env req b false (servePost P cfg env req) with
  | raised _ h => exact h ▸ .crash
  | denied _ h => exact h ▸ .refused (.unauthorized _) rfl
  | limited _ _ h => exact h ▸ .refused .limited rfl
  | served _ _ h =>
    rw [h, servePost, if_neg (by rw [hpath]; exact messages_ne_agents), if_pos hpath]
    exact handleSend_answers hid htime hread

/-- What it does with a lookup is one of the others. -/
theorem handle_answers_lookup (hm : req.method = lit "GET") (hpath : req.path = lit "/agents") :
    ∃ x : Listing, x.Possible ∧ (handle P cfg env req b).1.httpAnswer P = x.http P := by
  have hsplit : Url.urlsplit P (lit "/agents") = .ok (lit "/agents", []) := rfl
  rw [handle, if_pos hm, doGET, if_neg (by rw [hpath]; decide), hpath, hsplit]
  simp only
  cases withAgent_end P cfg env req b (dashboardReadingPaths.contains (lit "/agents"))
    (serveGet P cfg env req (lit "/agents")) with
  | raised _ h =>
    rw [h]
    exact ⟨.dropped ⟨.osError, lit "Remote end closed connection without response"⟩, rfl, rfl⟩
  | @denied detail _ h =>
    rw [h]
    exact ⟨.refused 401 _, .unauthorized detail, rfl⟩
  | limited _ _ h =>
    rw [h]
    exact ⟨.refused 429 _, .limited, rfl⟩
  | served _ _ h =>
    rw [h]
    exact ⟨.agents b.stores env.monotonic.discovery, trivial, rfl⟩

end Broker

end AgentComm
