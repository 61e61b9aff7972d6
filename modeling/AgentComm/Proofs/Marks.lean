import AgentComm.Proofs.Answers
import Mathlib.Data.List.DropRight

/-!
# What requests leave in the traffic buffer and the rate buckets

A send that is dealt with leaves one record in the buffer, and nothing else does. Only the rate
limit touches the buckets.
-/

namespace AgentComm

open Lib

variable {P : Python} {cfg : ServerConfig} {env : Env} {req : Request} {p : PyStr} {b b' : Broker}

/-! ### What requests leave alone -/

theorem acceptRegistration_unmarked (r : Registration) :
    Unmarked b (acceptRegistration cfg env b r).2 := by
  unfold acceptRegistration
  exact .logThenAnswer ⟨rfl, rfl⟩

theorem handleRegister_unmarked : Unmarked b (handleRegister P cfg env req p b).2 := by
  cases handleRegister_end P cfg env req p b with
  | turnedAway _ h | raised h => exact h ▸ .refl b
  | rejected _ _ h => exact h ▸ .answerThenLog (.refl b)
  | accepted _ _ _ h => exact h ▸ acceptRegistration_unmarked _

theorem handleDeregister_unmarked : Unmarked b (handleDeregister P env req p b).2 := by
  cases handleDeregister_end P env req p b with
  | raised h => exact h ▸ .refl b
  | refused _ h => exact h ▸ .answerThenLog (.refl b)
  | removed _ _ _ h => exact h ▸ .logThenAnswer ⟨rfl, rfl⟩

theorem servePoll_unmarked (a : PyStr) : Unmarked b (servePoll env a b).2 := by
  unfold servePoll takeMessages
  split
  · exact ⟨rfl, rfl⟩
  · exact .logThenAnswer ⟨rfl, rfl⟩

variable (cfg env b) in
theorem autoRegisterMailbox_unmarked (a : PyStr) :
    Unmarked b (autoRegisterMailbox cfg env a b).2 := by
  have hstores : Unmarked b
      { b with stores := autoRegisterStores cfg env.monotonic.register a b.stores } := ⟨rfl, rfl⟩
  simp only [autoRegisterMailbox]
  split
  · exact hstores.log (by assumption)
  · exact hstores

theorem handlePoll_unmarked : Unmarked b (handlePoll P cfg env req p b).2 := by
  cases handlePoll_end P cfg env req p b with
  | raised h | unnamed h => exact h ▸ .refl b
  | found _ _ _ _ h => exact h ▸ servePoll_unmarked _
  | halfRenewed _ _ _ _ h => exact h ▸ autoRegisterMailbox_unmarked cfg env b _
  | renewed _ _ _ _ h =>
    exact h ▸ (autoRegisterMailbox_unmarked cfg env b _).trans (servePoll_unmarked _)

theorem handleTraffic_same : (handleTraffic P cfg req b).2 = b := by
  unfold handleTraffic
  split <;> rfl

theorem serveGet_unmarked (path : PyStr) : Unmarked b (serveGet P cfg env req path p b).2 := by
  unfold serveGet
  split_ifs
  · exact .refl b
  · exact handleTraffic_same (P := P) ▸ .refl b
  · exact handlePoll_unmarked
  · exact .refl b
  · exact .refl b

theorem serveDelete_unmarked : Unmarked b (serveDelete P env req p b).2 := by
  unfold serveDelete
  split_ifs
  · exact handleDeregister_unmarked
  · exact .refl b

/-! ### What a send records -/

variable (P cfg req) in
/-- The request is a POST of the message `m`. -/
structure Sends (m : Message) : Prop where
  method : req.method = lit "POST"
  path : req.path = defaultMessagePath
  body : ∃ raw, readBody P cfg req = .text raw ∧ deserialize P raw = .ok m

variable (P env) in
/-- The record `_record_traffic` makes. -/
def trafficRecord (m : Message) (disposition : PyStr) (status : ℕ) : TrafficRecord :=
  { timestamp := env.wallTime
    source := m.metadata.sender
    destination := m.metadata.recipient
    type := m.type.value
    topic := ((m.metadata.extra.find? (·.1 = .str (lit "topic"))).map Prod.snd).getD .null
    messageId := m.messageId
    correlationId := m.correlationId
    bodySizeBytes := (P.jsonDumps (.obj m.body)).length
    disposition
    status }

theorem recordTraffic_buffer (m : Message) (d : PyStr) (status : ℕ) :
    (recordTraffic P cfg env m d status b).trafficBuffer
      = (b.trafficBuffer ++ [trafficRecord P env m d status]).rtake cfg.trafficBufferSize := rfl

variable (P cfg env) in
/-- The buffer is as it was, or has one record of the message more. -/
structure Records (m : Message) (b b' : Broker) : Prop where
  traffic : b'.trafficBuffer = b.trafficBuffer ∨ ∃ d status, b'.trafficBuffer
    = (b.trafficBuffer ++ [trafficRecord P env m d status]).rtake cfg.trafficBufferSize
  buckets : b'.rateBuckets = b.rateBuckets

theorem Unmarked.records {m : Message} {d : PyStr} {status : ℕ} {b₁ : Broker}
    (htraffic : b₁.trafficBuffer = b.trafficBuffer) (hbuckets : b₁.rateBuckets = b.rateBuckets)
    (h : Unmarked (recordTraffic P cfg env m d status b₁) b') : Records P cfg env m b b' := by
  refine ⟨.inr ⟨d, status, ?_⟩, h.buckets.trans hbuckets⟩
  rw [h.traffic, recordTraffic_buffer, htraffic]

variable (P cfg env p b) in
theorem dispatchSend_records (m : Message) :
    Records P cfg env m b (dispatchSend P cfg env p m b).2 := by
  have hrefuse : ∀ disposition resp detail, Records P cfg env m b
      (refuseSend P cfg env p m disposition resp detail b).2 := fun disposition resp detail =>
    (Unmarked.answerThenLog (.refl _)).records rfl rfl
  cases dispatchSend_end P cfg env p b m with
  | foreign _ h | missing _ h | unknown _ h => exact h ▸ hrefuse _ _ _
  | raised _ h => exact h ▸ ⟨.inl rfl, rfl⟩
  | queued _ _ _ _ h =>
    rw [h, sendToMailbox]
    refine Unmarked.records ?_ ?_ (.logThenAnswer (.refl _)) <;> rfl
  | routed _ _ _ _ h =>
    rw [h]
    cases sendToEndpoint_end P cfg env p b m with
    | raised h => exact h ▸ ⟨.inl rfl, rfl⟩
    | routed _ h => exact h ▸ (Unmarked.logThenAnswer (.refl _)).records rfl rfl

variable (P cfg env req) in
/-- The buffer is as it was, or has one record of what is sent more. -/
structure Marked (b b' : Broker) : Prop where
  traffic : b'.trafficBuffer = b.trafficBuffer ∨ ∃ m d status, Sends P cfg req m
    ∧ b'.trafficBuffer
      = (b.trafficBuffer ++ [trafficRecord P env m d status]).rtake cfg.trafficBufferSize
  buckets : b'.rateBuckets = b.rateBuckets

theorem Unmarked.marked (h : Unmarked b b') : Marked P cfg env req b b' :=
  ⟨.inl h.traffic, h.buckets⟩

theorem handleSend_marked (hm : req.method = lit "POST") (hpath : req.path = defaultMessagePath) :
    Marked P cfg env req b (handleSend P cfg env req p b).2 := by
  cases handleSend_end P cfg env req p b with
  | turnedAway _ h | raised h => exact h ▸ (Unmarked.refl b).marked
  | undecodable _ _ h => exact h ▸ (Unmarked.answerThenLog (.refl b)).marked
  | @dispatched raw m hraw hd h =>
    obtain ⟨htraffic, hbuckets⟩ := dispatchSend_records P cfg env p b m
    rw [h]
    refine ⟨htraffic.imp_right ?_, hbuckets⟩
    rintro ⟨d, status, h⟩
    exact ⟨m, d, status, ⟨hm, hpath, raw, hraw, hd⟩, h⟩

theorem servePost_marked (hm : req.method = lit "POST") :
    Marked P cfg env req b (servePost P cfg env req p b).2 := by
  unfold servePost
  split_ifs with hagents hmessages
  · exact handleRegister_unmarked.marked
  · exact handleSend_marked hm hmessages
  · exact (Unmarked.refl b).marked

/-! ### A whole request -/

variable (cfg env b) in
/-- The rate buckets after authentication and the rate limit have looked at a request. -/
def bucketsAfter : AuthResult → Dict PyStr TokenBucket
  | .agent id => (checkRateLimit cfg env.monotonic (rateKey id) b.rateBuckets).2
  | _ => b.rateBuckets

theorem withAgent_marked {allow : Bool} {k : PyStr → Broker → Outcome × Broker}
    (hk : ∀ p b', Marked P cfg env req b' (k p b').2) : Marked P cfg env req
      { b with rateBuckets := bucketsAfter cfg env b (authenticate P cfg allow req) }
      (withAgent P cfg env allow req b k).2 := by
  cases withAgent_end P cfg env req b allow k with
  | raised hauth h | denied hauth h | limited hauth _ h =>
    rw [h, hauth]
    exact (Unmarked.refl _).marked
  | served hauth _ h =>
    rw [h, hauth]
    exact hk _ _

variable (P cfg env req b) in
/-- The broker a handler is called with, or that a request turned away leaves. -/
def limited : Broker :=
  { b with rateBuckets := (credentials P cfg req).elim b.rateBuckets (bucketsAfter cfg env b) }

variable (P cfg env req b) in
/-- A request leaves at most one record, and nothing but its rate limit touches the buckets. -/
theorem handle_marked :
    Marked P cfg env req (limited P cfg env req b) (handle P cfg env req b).2 := by
  unfold handle limited credentials
  split_ifs with hget hpost hdelete
  · unfold doGET getCredentials
    split_ifs
    · exact (Unmarked.refl _).marked
    · rcases Url.urlsplit P req.path with e | ⟨path, query⟩
      · exact (Unmarked.refl _).marked
      · exact withAgent_marked fun p b' => (serveGet_unmarked path).marked
  · exact withAgent_marked fun p b' => servePost_marked hpost
  · exact withAgent_marked fun p b' => serveDelete_unmarked.marked
  · exact (Unmarked.refl _).marked

theorem handle_buckets (env : Env) (req : Request) (b : Broker) :
    (handle P cfg env req b).2.rateBuckets = (limited P cfg env req b).rateBuckets :=
  (handle_marked P cfg env req b).buckets

/-- A request touches the bucket of its principal only. -/
theorem handle_buckets_of_agent (hc : credentials P cfg req = some (.agent p)) :
    (handle P cfg env req b).2.rateBuckets
      = (checkRateLimit cfg env.monotonic (rateKey p) b.rateBuckets).2 := by
  rw [handle_buckets, limited, hc]
  rfl

end AgentComm
