import AgentComm.Broker.Handler
import AgentComm.Lib.Bucket
import AgentComm.Lib.Mealy

/-!
# The rate limit

The rate limiter is a family of token buckets, one for each principal, that never meet. Each
holds as many tokens as flow in within a second, so none at all when the rate is below one.
-/

namespace AgentComm

open Lib

/-! ### A principal's bucket -/

/-- The bucket of the library that a `TokenBucket` is, its capacity being its rate. -/
def TokenBucket.toBucket (b : TokenBucket) : Bucket ℚ := ⟨b.tokens, b.lastRefill⟩

theorem consume_eq (b : TokenBucket) (now : ℚ) :
    b.consume now = ((b.toBucket.take b.rate b.rate now).1,
      ⟨b.rate, (b.toBucket.take b.rate b.rate now).2.level,
        (b.toBucket.take b.rate b.rate now).2.last⟩) := by
  by_cases h : 1 ≤ b.toBucket.refill b.rate b.rate now
  · rw [Bucket.take, if_pos h]
    exact if_pos h
  · rw [Bucket.take, if_neg h]
    exact if_neg h

/-- What came of one request at the rate limit. -/
structure Passage where
  key : PyStr
  time : ℚ
  passed : Bool
deriving DecidableEq

/-- The rate limiter of a broker: the requests of all principals, each with the clock as it reads
it. -/
def limiter (cfg : ServerConfig) : Mealy (Dict PyStr TokenBucket) (PyStr × Readings) Passage where
  step buckets a :=
    ((checkRateLimit cfg a.2 a.1 buckets).2,
      [⟨a.1, a.2.consume, (checkRateLimit cfg a.2 a.1 buckets).1⟩])

/-- The rate limiter as one principal has it, its bucket made by the first request. -/
def lane (rate : ℚ) (key : PyStr) : Mealy (Option TokenBucket) Readings Passage where
  step bucket clock :=
    let b := bucket.getD (TokenBucket.new rate clock.bucket)
    (some (b.consume clock.consume).2, [⟨key, clock.consume, (b.consume clock.consume).1⟩])

variable {cfg : ServerConfig} {rate : ℚ} {k : PyStr}

theorem checkRateLimit_finite (hcfg : cfg.rateLimitPerSecond = .finite rate) (hrate : 0 < rate)
    (clock : Readings) (buckets : Dict PyStr TokenBucket) :
    checkRateLimit cfg clock k buckets
      = ((((buckets.get? k).getD (TokenBucket.new rate clock.bucket)).consume clock.consume).1,
        buckets.set k
          (((buckets.get? k).getD (TokenBucket.new rate clock.bucket)).consume
            clock.consume).2) := by
  have hon : ¬ PyFloat.le 0 (.finite rate) = true := by simp [PyFloat.le, hrate]
  rw [checkRateLimit, hcfg, if_neg hon]

/-- The limiter is one bucket for each principal. -/
theorem limiter_splits (hcfg : cfg.rateLimitPerSecond = .finite rate) (hrate : 0 < rate) :
    (limiter cfg).Splits (lane rate) (fun buckets k => buckets.get? k) Passage.key where
  hit buckets k clock := by
    simp only [limiter, lane, checkRateLimit_finite hcfg hrate, Dict.get?_set, if_true]
  miss buckets k clock k' hk := by
    simp only [limiter, checkRateLimit_finite hcfg hrate, Dict.get?_set, if_neg hk]
  events buckets k clock := by
    simp only [limiter, lane, checkRateLimit_finite hcfg hrate]
  marked _ k clock e he := by
    rw [List.mem_singleton.1 he]

/-! ### A principal's requests -/

/-- The requests at the given times to a bucket that is full at the first of them. -/
def freshRun (rate : ℚ) : List ℚ → List (ℚ × Bool)
  | [] => []
  | t :: ts => Bucket.run rate rate ⟨rate, t⟩ (t :: ts)

theorem lane_some : ∀ (b : TokenBucket) (clocks : List Readings), b.rate = rate →
    (lane rate k).output (some b) clocks
      = (Bucket.run rate rate b.toBucket (clocks.map Readings.consume)).map
        fun x => ⟨k, x.1, x.2⟩
  | _, [], _ => rfl
  | b, c :: clocks, hb => by
    have hrate : (b.consume c.consume).2.rate = rate := by rw [consume_eq, hb]
    have hbucket : (b.consume c.consume).2.toBucket = (b.toBucket.take rate rate c.consume).2 := by
      rw [consume_eq, hb]
      rfl
    have hrest := lane_some (b.consume c.consume).2 clocks hrate
    have hpassed : (b.consume c.consume).1 = (b.toBucket.take rate rate c.consume).1 := by
      rw [consume_eq, hb]
    rw [hbucket] at hrest
    rw [Mealy.output_cons, List.map_cons, Bucket.run, List.map_cons, ← hrest, ← hpassed]
    rfl

/-- What passes of a principal's requests is what passes of the same times at a fresh bucket. -/
theorem lane_fresh (hrate : 0 ≤ rate) {clocks : List Readings}
    (hmade : ∀ c ∈ clocks, c.bucket ≤ c.consume) : (lane rate k).output none clocks
      = (freshRun rate (clocks.map Readings.consume)).map fun x => ⟨k, x.1, x.2⟩ := by
  rcases clocks with _ | ⟨c, clocks⟩
  · rfl
  · have hsome : (lane rate k).output none (c :: clocks)
        = (Bucket.run rate rate ⟨rate, c.bucket⟩ ((c :: clocks).map Readings.consume)).map
          fun x => ⟨k, x.1, x.2⟩ :=
      lane_some (TokenBucket.new rate c.bucket) (c :: clocks) rfl
    rw [hsome, List.map_cons, freshRun, Bucket.run_full hrate (hmade c List.mem_cons_self)]

theorem limiter_fresh (hcfg : cfg.rateLimitPerSecond = .finite rate) (hrate : 0 < rate)
    {as : List (PyStr × Readings)} (hmade : ∀ c ∈ Mealy.mine k as, c.bucket ≤ c.consume) :
    ((limiter cfg).output Dict.empty as).filter (·.key = k)
      = (freshRun rate ((Mealy.mine k as).map Readings.consume)).map fun x => ⟨k, x.1, x.2⟩ := by
  rw [(limiter_splits hcfg hrate).output, Dict.get?_empty, lane_fresh hrate.le hmade]

/-- A principal's bucket holds no more than its capacity, and no less than nothing. -/
theorem lane_within (hrate : 0 ≤ rate) : ∀ (b : TokenBucket) (clocks : List Readings),
    b.rate = rate → Bucket.Within rate b.toBucket →
    (b.lastRefill :: clocks.map Readings.consume).Pairwise (· ≤ ·) →
    ∃ b', (lane rate k).after (some b) clocks = some b' ∧ b'.rate = rate
      ∧ Bucket.Within rate b'.toBucket
  | b, [], hb, hwithin, _ => ⟨b, rfl, hb, hwithin⟩
  | b, c :: clocks, hb, hwithin, hordered => by
    obtain ⟨hlast, hsorted⟩ := List.pairwise_cons.1 hordered
    have hstep := hwithin.take hrate (hlast c.consume List.mem_cons_self)
    have hconsume := consume_eq b c.consume
    rw [hb] at hconsume
    have hnext := lane_within hrate (b.consume c.consume).2 clocks (by rw [hconsume])
      (by rw [hconsume]; exact hstep) (by rwa [hconsume, Bucket.last_take])
    exact hnext

/-! ### Windows -/

/-- The requests of `k` that passed between two times. -/
def passagesIn (k : PyStr) (lo hi : ℚ) (xs : List Passage) : List Passage :=
  xs.filter fun x =>
    decide (x.key = k) && (x.passed && decide (lo ≤ x.time) && decide (x.time ≤ hi))

theorem length_passagesIn {lo hi : ℚ} {xs : List Passage} {ys : List (ℚ × Bool)}
    (h : xs.filter (·.key = k) = ys.map fun x => ⟨k, x.1, x.2⟩) :
    (passagesIn k lo hi xs).length = Bucket.passed lo hi ys := by
  have hsplit : passagesIn k lo hi xs = (xs.filter (·.key = k)).filter
      fun x => x.passed && decide (lo ≤ x.time) && decide (x.time ≤ hi) := by
    rw [passagesIn, List.filter_filter]
    refine List.filter_congr fun x _ => ?_
    rw [Bool.and_comm]
  rw [hsplit, h, List.filter_map, List.length_map]
  rfl

theorem freshRun_window (hrate : 0 ≤ rate) (lo hi : ℚ) (hwindow : lo ≤ hi) {ts : List ℚ}
    (hts : ts.Pairwise (· ≤ ·)) :
    (Bucket.passed lo hi (freshRun rate ts) : ℚ) ≤ rate + (hi - lo) * rate := by
  rcases ts with _ | ⟨t, ts⟩
  · have hflow : 0 ≤ (hi - lo) * rate := mul_nonneg (sub_nonneg.2 hwindow) hrate
    simp only [freshRun, Bucket.passed, List.filter_nil, List.length_nil, Nat.cast_zero]
    linarith
  · refine Bucket.passed_le_window hrate hwindow ⟨hrate, le_rfl⟩ (List.pairwise_cons.2 ⟨?_, hts⟩)
    intro s hs
    rcases List.mem_cons.1 hs with rfl | hs
    · exact le_rfl
    · exact (List.pairwise_cons.1 hts).1 s hs

/-- The clock as each principal's requests read it: a bucket is made before it is asked, and what
is read does not go back. -/
structure Forward (as : List (PyStr × Readings)) : Prop where
  made : ∀ k, ∀ c ∈ Mealy.mine k as, c.bucket ≤ c.consume
  ordered : ∀ k, ((Mealy.mine k as).map Readings.consume).Pairwise (· ≤ ·)

/-- What the rate limit promises of the requests made. -/
structure RateBounded (cfg : ServerConfig) (rate : ℚ) (as : List (PyStr × Readings)) : Prop where
  windows : ∀ k lo T, 0 ≤ T →
    ((passagesIn k lo (lo + T) ((limiter cfg).output Dict.empty as)).length : ℚ)
      ≤ rate + rate * T
  levels : ∀ k b, ((limiter cfg).after Dict.empty as).get? k = some b →
    b.rate = rate ∧ 0 ≤ b.tokens ∧ b.tokens ≤ b.rate
  own : ∀ k as', Forward as' →
    (Mealy.mine k as').map Readings.consume = (Mealy.mine k as).map Readings.consume →
    ((limiter cfg).output Dict.empty as').filter (·.key = k)
      = ((limiter cfg).output Dict.empty as).filter (·.key = k)

/-- In every window no more of a principal's requests pass than the rate allows at once and while
the window lasts, the levels keep their bounds, and principals do not meet. -/
theorem rate_limit_bounds (hcfg : cfg.rateLimitPerSecond = .finite rate) (hrate : 0 < rate)
    {as : List (PyStr × Readings)} (h : Forward as) : RateBounded cfg rate as where
  windows k lo T hT := by
    rw [length_passagesIn (limiter_fresh hcfg hrate (h.made k))]
    have hbound := freshRun_window hrate.le lo (lo + T) (by linarith) (h.ordered k)
    linarith
  levels k b hb := by
    rw [(limiter_splits hcfg hrate).after, Dict.get?_empty] at hb
    have hmade := h.made k
    have hordered := h.ordered k
    generalize Mealy.mine k as = clocks at hb hmade hordered
    rcases clocks with _ | ⟨c, clocks⟩
    · cases hb
    have hsorted : (c.bucket :: (c :: clocks).map Readings.consume).Pairwise (· ≤ ·) := by
      refine List.pairwise_cons.2 ⟨fun t ht => ?_, hordered⟩
      have hfirst := hmade c List.mem_cons_self
      rcases List.mem_cons.1 ht with rfl | ht
      · exact hfirst
      · exact hfirst.trans ((List.pairwise_cons.1 hordered).1 t ht)
    obtain ⟨b', hb', hcap, hwithin⟩ := lane_within (k := k) hrate.le (TokenBucket.new rate c.bucket)
      (c :: clocks) rfl ⟨hrate.le, le_rfl⟩ hsorted
    obtain rfl : b' = b := Option.some.inj (hb'.symm.trans hb)
    exact ⟨hcap, hwithin.nonneg, hcap ▸ hwithin.le_cap⟩
  own k as' h' hown := by
    rw [limiter_fresh hcfg hrate (h.made k), limiter_fresh hcfg hrate (h'.made k), hown]

/-- Readings of the clock by a request that comes at `t`. -/
def readAt (t : ℚ) : Readings := ⟨t, t, t, t, t⟩

def limitedConfig (rate : ℚ) : ServerConfig :=
  { ServerConfig.defaults with rateLimitPerSecond := .finite rate }

/-- Three requests of `a` within a second, at two a second. -/
theorem rate_limit_bounds_burst : RateBounded (limitedConfig 2) 2
    [(lit "a", readAt 0), (lit "a", readAt (1 / 2)), (lit "a", readAt (3 / 4))] := by
  refine rate_limit_bounds rfl (by norm_num) ⟨fun k => ?_, fun k => ?_⟩
  · simp only [Mealy.mine]
    split_ifs <;> simp [readAt]
  · simp only [Mealy.mine]
    split_ifs
    · norm_num [readAt]
    · simp

/-- Requests of a principal as far apart as its rate asks all pass just when the rate is one or
more: below that a bucket never holds a token. -/
theorem spaced_requests_pass_iff (hcfg : cfg.rateLimitPerSecond = .finite rate) (hrate : 0 < rate)
    {as : List (PyStr × Readings)} (hmade : ∀ c ∈ Mealy.mine k as, c.bucket ≤ c.consume)
    (hspaced : ((Mealy.mine k as).map Readings.consume).IsChain fun s t => s + 1 / rate ≤ t) :
    (∀ x ∈ (limiter cfg).output Dict.empty as, x.key = k → x.passed = true)
      ↔ Mealy.mine k as = [] ∨ 1 ≤ rate := by
  have hown : (∀ x ∈ (limiter cfg).output Dict.empty as, x.key = k → x.passed = true)
      ↔ ∀ y ∈ freshRun rate ((Mealy.mine k as).map Readings.consume), y.2 = true := by
    have hfilter : (∀ x ∈ (limiter cfg).output Dict.empty as, x.key = k → x.passed = true)
        ↔ ∀ x ∈ ((limiter cfg).output Dict.empty as).filter (·.key = k), x.passed = true := by
      simp only [List.mem_filter, decide_eq_true_eq, and_imp]
    rw [hfilter, limiter_fresh hcfg hrate hmade, List.forall_mem_map]
  rw [hown]
  generalize Mealy.mine k as = clocks at hspaced
  rcases clocks with _ | ⟨c, clocks⟩
  · simp [freshRun]
  constructor
  · intro h
    by_contra hno
    simp only [reduceCtorEq, false_or, not_le] at hno
    have hfirst : (c.consume, true) ∈ freshRun rate ((c :: clocks).map Readings.consume) := by
      have hpassed := h _ List.mem_cons_self
      rw [← hpassed]
      exact List.mem_cons_self
    exact Bool.noConfusion (Bucket.run_small hno _ hfirst)
  · rintro (h | hone)
    · cases h
    · refine Bucket.run_spaced hrate hone ?_ hspaced
      intro t ht
      obtain rfl : c.consume = t := Option.some.inj ht
      simpa using hone

theorem spaced_requests_pass_twice : (0 : ℚ) < 2
    ∧ ∀ x ∈ (limiter (limitedConfig 2)).output Dict.empty
      [(lit "a", readAt 0), (lit "a", readAt (1 / 2))], x.key = lit "a" → x.passed = true := by
  refine ⟨by norm_num, (spaced_requests_pass_iff rfl (by norm_num) ?_ ?_).2 (.inr (by norm_num))⟩
  · simp [readAt]
  · norm_num [readAt]

/-- At one request in two seconds even the first is turned away. -/
theorem slow_requests_turned_away : (0 : ℚ) < 1 / 2
    ∧ ¬ ∀ x ∈ (limiter (limitedConfig (1 / 2))).output Dict.empty [(lit "a", readAt 0)],
      x.key = lit "a" → x.passed = true := by
  refine ⟨by norm_num, fun h => ?_⟩
  have hmem : (⟨lit "a", 0, false⟩ : Passage)
      ∈ (limiter (limitedConfig (1 / 2))).output Dict.empty [(lit "a", readAt 0)] := by
    decide +kernel
  exact Bool.noConfusion (h _ hmem rfl)

end AgentComm
