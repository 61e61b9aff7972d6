import AgentComm.Proofs.Identity
import AgentComm.Proofs.Marks
import AgentComm.Proofs.Refinement

/-!
# The traffic history

The buffer holds the last of the records that sends have left. A reading of the traffic filters
what the buffer holds, takes the last of that, and changes nothing.
-/

namespace AgentComm

open Lib

variable {P : Python} {cfg : ServerConfig} {env : Env} {req : Request} {p : PyStr} {b : Broker}

/-! ### The history of a run -/

variable (P cfg) in
/-- A broker that whole requests and sweeps lead to, with the records its sends appended, the
oldest first. -/
inductive Recorded : Broker → List TrafficRecord → Prop
  | init : Recorded Broker.init []
  | quiet {b b' act es rs} (h : Recorded b rs)
      (hs : (serialLts P cfg).step b act = some (b', es))
      (hsame : b'.trafficBuffer = b.trafficBuffer) : Recorded b' rs
  | sent {b env req m d status rs} (h : Recorded b rs) (hm : Sends P cfg req m)
      (hmore : (handle P cfg env req b).2.trafficBuffer
        = (recordTraffic P cfg env m d status b).trafficBuffer) :
      Recorded (handle P cfg env req b).2 (rs ++ [trafficRecord P env m d status])

/-- The last of the last is the last of all. -/
theorem rtake_rtake_concat {α : Type} (n : ℕ) (xs : List α) (x : α) :
    (xs.rtake n ++ [x]).rtake n = (xs ++ [x]).rtake n := by
  rcases n with _ | n
  · simp
  · rw [List.rtake_concat_succ, List.rtake_concat_succ]
    congr 1
    simp only [List.rtake, List.drop_drop, List.length_drop]
    congr 1
    omega

/-- The buffer holds the last of the history. -/
theorem Recorded.buffer {rs : List TrafficRecord} (h : Recorded P cfg b rs) :
    b.trafficBuffer = rs.rtake cfg.trafficBufferSize := by
  induction h with
  | init => simp [Broker.init]
  | quiet _ _ hsame ih => rw [hsame, ih]
  | sent _ _ hmore ih => rw [hmore, recordTraffic_buffer, ih, rtake_rtake_concat]

/-- Every broker reached has a history. -/
theorem Served.recorded (h : Served P cfg b) : ∃ rs, Recorded P cfg b rs := by
  obtain ⟨tr, h⟩ := h
  refine h.invariant (I := fun _ b => ∃ rs, Recorded P cfg b rs) ⟨[], .init⟩ ?_
  rintro tr b act b' es ⟨rs, hrs⟩ - hs
  cases act with
  | sweep now =>
    have hsame := hs
    cases hs
    exact ⟨rs, hrs.quiet hsame rfl⟩
  | request env req =>
    have hsame := hs
    cases hs
    rcases (handle_marked P cfg env req b).traffic with hquiet | ⟨m, d, status, hm, hmore⟩
    · exact ⟨rs, hrs.quiet hsame hquiet⟩
    · exact ⟨_, hrs.sent hm hmore⟩

/-! ### Reading it -/

/-- What the query of `GET /traffic` asks for. -/
structure TrafficQuery where
  agent : Option PyStr
  topic : Option PyStr
  since : Option PyFloat
  /-- `until` -/
  upTo : Option PyFloat
  limit : Option ℕ

namespace TrafficQuery

variable (P) in
/-- The parameters given: an empty one is not, nor a bound or a limit that cannot be read or a
limit that is not positive. -/
def parse (query : PyStr) : TrafficQuery :=
  let given (name : String) : Option PyStr := (Url.queryGet P query (lit name)).filter (· ≠ [])
  { agent := given "agent"
    topic := given "topic"
    since := (given "since").bind fun s => (P.float s).toOption
    upTo := (given "until").bind fun s => (P.float s).toOption
    limit := (given "limit").bind fun s =>
      ((P.int s).toOption.filter (0 < ·)).map Int.toNat }

/-- The record satisfies every filter given. -/
def admits (q : TrafficQuery) (r : TrafficRecord) : Bool :=
  q.agent.all (fun a => r.source.asStr? = some a || r.destination.asStr? = some a)
    && q.topic.all (fun t => r.topic.asStr? = some t)
    && q.since.all (fun x => x.le r.timestamp)
    && q.upTo.all (fun x => x.ge r.timestamp)

/-- Of the last `n` records of a history those admitted, and of these the last that the limit
allows. -/
def answer (q : TrafficQuery) (n : ℕ) (history : List TrafficRecord) : List TrafficRecord :=
  let found := (history.rtake n).filter q.admits
  q.limit.elim found fun limit => found.rtake (min limit n)

end TrafficQuery

variable (P) in
/-- No number is read from the empty text. -/
structure RefusesEmpty : Prop where
  int : ∃ e, P.int [] = .error e
  float : ∃ e, P.float [] = .error e

theorem textFilter_given (v : Option PyStr) (keep : PyStr → TrafficRecord → Bool)
    (r : TrafficRecord) : textFilter v keep r = (v.filter (· ≠ [])).all (keep · r) := by
  rcases v with _ | _ | ⟨c, t⟩ <;> rfl

theorem boundFilter_given (hP : RefusesEmpty P) (v : Option PyStr)
    (keep : PyFloat → TrafficRecord → Bool) (r : TrafficRecord) :
    boundFilter (P.float (v.getD [])) keep r
      = ((v.filter (· ≠ [])).bind fun s => (P.float s).toOption).all (keep · r) := by
  obtain ⟨e, he⟩ := hP.float
  rcases v with _ | _ | ⟨c, t⟩
  · simp only [Option.getD_none, he, boundFilter]
    rfl
  · simp only [Option.getD_some, he, boundFilter]
    rfl
  · rcases hx : P.float (c :: t) with e | x
    · simp only [Option.getD_some, hx, boundFilter]
      simp [Option.filter, hx, Except.toOption]
    · simp only [Option.getD_some, hx, boundFilter]
      simp [Option.filter, hx, Except.toOption]

theorem limitTo_given (hP : RefusesEmpty P) (hsize : 1 ≤ cfg.trafficBufferSize) (v : Option PyStr)
    (rs : List TrafficRecord) : limitTo cfg (P.int (v.getD [])) rs
      = ((v.filter (· ≠ [])).bind fun s =>
          ((P.int s).toOption.filter (0 < ·)).map Int.toNat).elim rs
        fun limit => rs.rtake (min limit cfg.trafficBufferSize) := by
  have hmaxlen : ¬ cfg.trafficBufferSize = 0 := by omega
  obtain ⟨e, he⟩ := hP.int
  rcases v with _ | _ | ⟨c, t⟩
  · simp only [Option.getD_none, he, limitTo]
    rfl
  · simp only [Option.getD_some, he, limitTo]
    rfl
  · rcases hx : P.int (c :: t) with e | n
    · simp only [Option.getD_some, hx, limitTo]
      simp [Option.filter, hx, Except.toOption]
    · simp only [Option.getD_some, hx, limitTo, if_neg hmaxlen]
      by_cases hn : n ≤ 0
      · simp [Option.filter, hx, Except.toOption, hn, not_lt.2 hn]
      · simp [Option.filter, hx, Except.toOption, not_le.1 hn, List.rtake]

/-- The path `/traffic` with anything after a question mark is split there. -/
theorem urlsplit_traffic (P : Python) (text : PyStr) :
    Url.urlsplit P (lit "/traffic?" ++ text) = .ok (lit "/traffic",
      (splitOnce 35 (text.filter fun c => !(c = 9 || c = 10 || c = 13))).1) := by
  have hfilter : (lit "raffic?" ++ text).filter (fun c => !(c = 9 || c = 10 || c = 13))
      = lit "raffic?" ++ text.filter fun c => !(c = 9 || c = 10 || c = 13) := by
    rw [List.filter_append]
    rfl
  have hsplit := urlsplit_path P (show 47 < 116 by decide) (lit "raffic?" ++ text)
  rw [hfilter] at hsplit
  refine hsplit.trans ?_
  generalize text.filter (fun c => !(c = 9 || c = 10 || c = 13)) = query
  have hhash : splitOnce 35 (47 :: 116 :: (lit "raffic?" ++ query))
      = (lit "/traffic?" ++ (splitOnce 35 query).1, (splitOnce 35 query).2) :=
    splitOnce_append (s := lit "/traffic?") query (by decide)
  have hquestion : splitOnce 63 (lit "/traffic?" ++ (splitOnce 35 query).1)
      = (lit "/traffic", some (splitOnce 35 query).1) :=
    splitOnce_sep (s := lit "/traffic") (by decide) (splitOnce 35 query).1
  simp only [hhash, hquestion, Option.getD_some]

theorem handle_get {path query : PyStr} (hm : req.method = lit "GET")
    (hq : Url.urlsplit P req.path = .ok (path, query)) (hpath : req.path ≠ healthPath) :
    handle P cfg env req b = withAgent P cfg env (dashboardReadingPaths.contains path) req b
      (serveGet P cfg env req path) := by
  rw [handle, if_pos hm, doGET, if_neg hpath, hq]

theorem handleTraffic_answer (hP : RefusesEmpty P) (hsize : 1 ≤ cfg.trafficBufferSize)
    {path query : PyStr} (hq : Url.urlsplit P req.path = .ok (path, query)) :
    handleTraffic P cfg req b = (.answer ⟨200, .json [(lit "traffic", .arr
      (((TrafficQuery.parse P query).limit.elim
        (b.trafficBuffer.filter (TrafficQuery.parse P query).admits)
        fun limit => (b.trafficBuffer.filter (TrafficQuery.parse P query).admits).rtake
          (min limit cfg.trafficBufferSize)).map fun r => .obj r.fields))], none⟩, b) := by
  have hfound : ∀ rs : List TrafficRecord, rs.filter (TrafficQuery.parse P query).admits
      = (((rs.filter (textFilter (Url.queryGet P query (lit "agent")) fun a r =>
          r.source.asStr? = some a || r.destination.asStr? = some a)).filter
        (textFilter (Url.queryGet P query (lit "topic")) fun t r =>
          r.topic.asStr? = some t)).filter
        (boundFilter (P.float ((Url.queryGet P query (lit "since")).getD [])) fun x r =>
          x.le r.timestamp)).filter
        (boundFilter (P.float ((Url.queryGet P query (lit "until")).getD [])) fun x r =>
          x.ge r.timestamp) := by
    intro rs
    simp only [List.filter_filter, textFilter_given, boundFilter_given hP]
    refine List.filter_congr fun r _ => ?_
    simp only [TrafficQuery.admits, TrafficQuery.parse, Bool.and_comm]
  simp only [handleTraffic, hq, limitTo_given hP hsize, ← hfound]
  rfl

/-- A reading of the traffic answers with the last of the history that its query asks for, and
changes nothing but a rate bucket. -/
theorem traffic_reports_history (hP : RefusesEmpty P) (hsize : 1 ≤ cfg.trafficBufferSize)
    {rs : List TrafficRecord} (h : Recorded P cfg b rs) {query : PyStr}
    (hm : req.method = lit "GET") (hq : Url.urlsplit P req.path = .ok (lit "/traffic", query))
    (hauth : authenticate P cfg true req = .agent p)
    (hpass : (checkRateLimit cfg env.monotonic (rateKey p) b.rateBuckets).1 = true) :
    handle P cfg env req b
      = (.answer ⟨200, .json [(lit "traffic", .arr
          (((TrafficQuery.parse P query).answer cfg.trafficBufferSize rs).map
            fun r => .obj r.fields))], none⟩,
        { b with rateBuckets :=
            (checkRateLimit cfg env.monotonic (rateKey p) b.rateBuckets).2 }) := by
  have hhealth : req.path ≠ healthPath := fun hh => by
    have hpath : Url.urlsplit P healthPath = .ok (healthPath, []) := rfl
    have hne : healthPath ≠ lit "/traffic" := by decide
    rw [hh, hpath] at hq
    exact hne (congrArg Prod.fst (Except.ok.inj hq))
  have hserve : ∀ b', serveGet P cfg env req (lit "/traffic") p b' = handleTraffic P cfg req b' :=
    fun b' => by rw [serveGet, if_neg (by decide), if_pos rfl]
  have hallow : dashboardReadingPaths.contains (lit "/traffic") = true := by decide
  rw [handle_get hm hq hhealth, hallow, withAgent, hauth]
  simp only [hpass, if_true, hserve]
  rw [handleTraffic_answer hP hsize hq, h.buffer]
  rfl

/-- A broker that `question` came to first: nobody knows its recipient. -/
def askedBroker : Broker := (handle postPython .defaults downEnv questionPost Broker.init).2

def trafficGet : Request := ⟨lit "GET", lit "/traffic?agent=b&limit=5&since=x", none, none, []⟩

set_option maxRecDepth 2000 in
theorem traffic_reports_history_question :
    (handle postPython .defaults downEnv trafficGet askedBroker).1
      = .answer ⟨200, .json [(lit "traffic", .arr [.obj
        (trafficRecord postPython downEnv question (lit "unknown_recipient") 404).fields])],
        none⟩ := by
  have hraw : readBody postPython .defaults questionPost
      = .text (jsonText (.obj questionFields)) := by
    rw [readBody_measured ⟨by decide +kernel, by decide +kernel⟩, questionPost_text]
  have hrecorded : Recorded postPython .defaults askedBroker
      [trafficRecord postPython downEnv question (lit "unknown_recipient") 404] := by
    exact Recorded.init.sent ⟨rfl, rfl, _, hraw, questionPost_decoded⟩ rfl
  rw [traffic_reports_history ⟨⟨_, rfl⟩, ⟨_, rfl⟩⟩ (by decide) hrecorded rfl
    (urlsplit_traffic postPython (lit "agent=b&limit=5&since=x")) rfl (by decide +kernel)]
  rfl

end AgentComm
