import AgentComm.Proofs.Answers

/-!
# The limit on request bodies

A POST that gets to its handler has as many bytes of its body read as its header declares, and
none past the limit; a header that declares minus one has all of them read.
-/

namespace AgentComm

open Lib

variable {P : Python} {cfg : ServerConfig} {env : Env} {req : Request} {b : Broker}

/-! ### One read -/

theorem rfileRead_of_nonneg {stream : List UInt8} {n : ℤ} (h : 0 ≤ n) :
    rfileRead stream n = .ok (stream.take n.toNat) := by
  unfold rfileRead
  rw [if_neg (by omega), if_neg (by omega), if_neg (by omega)]

theorem rfileRead_end (stream : List UInt8) : rfileRead stream (-1) = .ok stream := rfl

/-- A length below minus one is refused before a byte is read. -/
theorem rfileRead_refused {stream : List UInt8} {n : ℤ} (h : n < -1) :
    ∃ e, rfileRead stream n = .error e := by
  unfold rfileRead
  by_cases hfits : n < -(2 ^ 63)
  · exact ⟨_, if_pos hfits⟩
  · exact ⟨_, by rw [if_neg hfits, if_pos h]⟩

/-- What is decoded is what was read. -/
theorem readBody_bytes {raw : PyStr} (h : readBody P cfg req = .text raw) :
    P.utf8Decode (bodyBytes P cfg req) = .ok raw := by
  unfold readBody at h
  unfold bodyBytes
  rcases hn : declaredLength P req with e | n <;> simp only [hn] at h ⊢
  · cases h
  split_ifs at h ⊢
  rcases hread : rfileRead req.body n with e | bytes <;> simp only [hread] at h ⊢
  · cases h
  split at h <;> cases h
  assumption

/-- No more than the limit is read, unless the declared length is minus one. -/
theorem bodyBytes_bounded_iff (hmax : 0 ≤ cfg.maxBodySize) :
    ((bodyBytes P cfg req).length : ℤ) ≤ cfg.maxBodySize
      ↔ (declaredLength P req = .ok (-1) → (req.body.length : ℤ) ≤ cfg.maxBodySize) := by
  unfold bodyBytes
  rcases declaredLength P req with e | n
  · simp [hmax]
  simp only [Except.ok.injEq]
  -- what the stream is asked for
  have hasked : (if n > cfg.maxBodySize then min n cfg.maxBodySize else n)
      = min n cfg.maxBodySize := by
    split_ifs <;> omega
  rw [hasked]
  by_cases hend : n = -1
  · have hmin : min n cfg.maxBodySize = -1 := by omega
    rw [hmin, rfileRead_end]
    simp only [hend, forall_true_left]
  by_cases hn : n < -1
  · have hmin : min n cfg.maxBodySize = n := by omega
    have hrefused : ∃ e, rfileRead req.body n = .error e := rfileRead_refused hn
    obtain ⟨e, he⟩ := hrefused
    rw [hmin, he]
    simp [hmax, hend]
  · rw [rfileRead_of_nonneg (by omega)]
    simp only [List.length_take]
    omega

/-! ### A POST -/

variable (P cfg env req b) in
/-- The POST gets to a handler that reads its body. -/
def ReadsBody : Prop :=
  (∃ p, Admitted P cfg env req b p)
    ∧ (req.path = lit "/agents" ∨ req.path = defaultMessagePath)

theorem readBody_large {n : ℤ} (hn : declaredLength P req = .ok n) (hlarge : cfg.maxBodySize < n) :
    ∃ resp e, readBody P cfg req = .tooLarge resp e ∧ resp.status = 413 := by
  rw [readBody, hn]
  exact ⟨_, _, if_pos hlarge, rfl⟩

theorem servePost_large (env : Env) (p : PyStr) (b : Broker) {n : ℤ}
    (hn : declaredLength P req = .ok n) (hlarge : cfg.maxBodySize < n)
    (hpath : req.path = lit "/agents" ∨ req.path = defaultMessagePath) :
    (servePost P cfg env req p b).1.status? = some 413 ∧ (servePost P cfg env req p b).2 = b := by
  obtain ⟨resp, e, hread, hstatus⟩ := readBody_large hn hlarge
  rcases hpath with h | h
  · rw [servePost, if_pos h, handleRegister, hread]
    exact ⟨congrArg some hstatus, rfl⟩
  · rw [servePost, if_neg (h ▸ messages_ne_agents), if_pos h, handleSend, hread]
    exact ⟨congrArg some hstatus, rfl⟩

variable (P cfg env b) in
/-- A POST goes to the handler that reads its body, or is turned away with another status than
that of a body too large. -/
theorem post_reads (hm : req.method = lit "POST") :
    (ReadsBody P cfg env req b ∧ postBytes P cfg env req b = bodyBytes P cfg req
      ∧ ∃ p buckets, handle P cfg env req b
        = servePost P cfg env req p { b with rateBuckets := buckets })
    ∨ ¬ ReadsBody P cfg env req b ∧ postBytes P cfg env req b = []
      ∧ (handle P cfg env req b).1.status? ≠ some 413 := by
  rw [handle_post hm, doPOST, withAgent]
  unfold ReadsBody Admitted postBytes
  rcases hauth : authenticate P cfg false req with id | detail | e
  · simp only [AuthResult.agent.injEq]
    by_cases hpass : (checkRateLimit cfg env.monotonic (rateKey id) b.rateBuckets).1 = true
    · rw [if_pos hpass]
      by_cases hpath : req.path = lit "/agents" ∨ req.path = defaultMessagePath
      · exact .inl ⟨⟨⟨id, rfl, hpass⟩, hpath⟩, by simp [hpass, hpath], id, _, rfl⟩
      · refine .inr ⟨fun h => hpath h.2, by simp [hpath], ?_⟩
        simp only [not_or] at hpath
        rw [servePost, if_neg hpath.1, if_neg hpath.2]
        simp [notFound, errorResponse]
    · rw [if_neg hpass]
      refine .inr ⟨?_, by simp [hpass], by simp [rateLimitedResponse]⟩
      rintro ⟨⟨p, rfl, hp⟩, -⟩
      exact hpass hp
  · exact .inr ⟨by simp, rfl, by simp [errorResponse]⟩
  · exact .inr ⟨by simp, rfl, by simp⟩

variable (P cfg env req b) in
/-- No more of the body is read than the limit allows, and a longer one is refused as such. -/
structure BodyLimited : Prop where
  bounded : ((postBytes P cfg env req b).length : ℤ) ≤ cfg.maxBodySize
  refused : ∀ n, declaredLength P req = .ok n → cfg.maxBodySize < n →
    (handle P cfg env req b).1.status? = some 413
      ∧ ∃ buckets, (handle P cfg env req b).2 = { b with rateBuckets := buckets }

/-- The limit holds of a POST just when it does not have a body longer than that read under a
length of minus one, and is not turned away before its length is looked at. -/
theorem body_limited_iff (hm : req.method = lit "POST") (hmax : 0 ≤ cfg.maxBodySize) :
    BodyLimited P cfg env req b
      ↔ (ReadsBody P cfg env req b → declaredLength P req = .ok (-1) →
          (req.body.length : ℤ) ≤ cfg.maxBodySize)
        ∧ ∀ n, declaredLength P req = .ok n → cfg.maxBodySize < n → ReadsBody P cfg env req b := by
  rcases post_reads P cfg env b hm with
    ⟨hreads, hbytes, p, buckets, hserve⟩ | ⟨hno, hbytes, hstatus⟩
  · constructor
    · intro h
      have hbounded := h.bounded
      rw [hbytes] at hbounded
      exact ⟨fun _ => (bodyBytes_bounded_iff hmax).1 hbounded, fun _ _ _ => hreads⟩
    · rintro ⟨h, -⟩
      refine ⟨?_, fun n hn hlarge => ?_⟩
      · rw [hbytes]
        exact (bodyBytes_bounded_iff hmax).2 (h hreads)
      · obtain ⟨hs, hb⟩ := servePost_large env p { b with rateBuckets := buckets } hn hlarge
          hreads.2
        rw [hserve]
        exact ⟨hs, buckets, hb⟩
  · constructor
    · intro h
      exact ⟨fun hreads => absurd hreads hno,
        fun n hn hlarge => absurd (h.refused n hn hlarge).1 hstatus⟩
    · rintro ⟨-, h⟩
      refine ⟨by rw [hbytes]; exact hmax, fun n hn hlarge => absurd (h n hn hlarge) hno⟩

/-- An interpreter whose `int` reads a sign. -/
def signedPython : Python :=
  { plainPython [] with
    int := fun s => match s with
      | 45 :: t => ((plainPython []).int t).map Neg.neg
      | t => (plainPython []).int t }

/-- A registration of five bytes that declares some length. -/
def declaredPost (length : PyStr) : Request :=
  ⟨lit "POST", lit "/agents", none, some length, List.replicate 5 32⟩

/-- A broker that reads four bytes at most. -/
def narrowConfig : ServerConfig := { ServerConfig.defaults with maxBodySize := 4 }

theorem declaredPost_reads (length : PyStr) :
    ReadsBody signedPython narrowConfig downEnv (declaredPost length) Broker.init :=
  ⟨⟨[], rfl, by decide⟩, .inl rfl⟩

theorem body_limited_honest :
    BodyLimited signedPython narrowConfig downEnv (declaredPost (lit "5")) Broker.init := by
  have hlength : declaredLength signedPython (declaredPost (lit "5")) = .ok 5 := by rfl
  refine (body_limited_iff rfl (by decide)).2 ⟨fun _ hend => ?_, fun _ _ _ =>
    declaredPost_reads _⟩
  rw [hlength] at hend
  cases hend

/-- Under a declared length of minus one all five bytes are read. -/
theorem negative_length_unlimited : 0 ≤ narrowConfig.maxBodySize
    ∧ ¬ BodyLimited signedPython narrowConfig downEnv (declaredPost (lit "-1")) Broker.init := by
  refine ⟨by decide, fun h => ?_⟩
  have hbytes : postBytes signedPython narrowConfig downEnv (declaredPost (lit "-1")) Broker.init
      = List.replicate 5 32 := by rfl
  have hbounded := h.bounded
  rw [hbytes] at hbounded
  exact absurd hbounded (by decide)

end AgentComm
