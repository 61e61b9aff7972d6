import Mathlib.Algebra.Order.Field.Basic
import Mathlib.Data.List.Chain
import Mathlib.Tactic.Linarith

/-!
# Token buckets

A bucket is refilled at a constant rate up to its capacity, and a request that passes takes one
token. Whatever the spacing of the requests, no more pass within a window than the capacity and
what flows in while it lasts; and requests far enough apart all pass if the bucket can hold one
token at all.
-/

namespace Lib

variable {K : Type*} [Field K] [LinearOrder K]

/-- The tokens there were, and when. -/
@[ext] structure Bucket (K : Type*) where
  level : K
  last : K

namespace Bucket

variable (rate cap : K)

/-- The tokens there are at `now`. -/
def refill (b : Bucket K) (now : K) : K := min cap (b.level + (now - b.last) * rate)

/-- A request at `now`: whether it passes, and the bucket after it. -/
def take (b : Bucket K) (now : K) : Bool × Bucket K :=
  if 1 ≤ b.refill rate cap now then (true, ⟨b.refill rate cap now - 1, now⟩)
  else (false, ⟨b.refill rate cap now, now⟩)

/-- The requests at the given times, each with whether it passes. -/
def run : Bucket K → List K → List (K × Bool)
  | _, [] => []
  | b, t :: ts => (t, (b.take rate cap t).1) :: run (b.take rate cap t).2 ts

/-- There are tokens enough for no debt, and no more than fit in. -/
structure Within (b : Bucket K) : Prop where
  nonneg : 0 ≤ b.level
  le_cap : b.level ≤ cap

/-- How many of the requests pass between two times. -/
def passed (lo hi : K) (xs : List (K × Bool)) : ℕ :=
  (xs.filter fun x => x.2 && decide (lo ≤ x.1) && decide (x.1 ≤ hi)).length

variable {rate cap} {b : Bucket K} {t lo hi : K} {ts : List K}

@[simp] theorem last_take : (b.take rate cap t).2.last = t := by
  unfold take
  split_ifs <;> rfl

@[simp] theorem times_run : ∀ (b : Bucket K) (ts : List K), (run rate cap b ts).map Prod.fst = ts
  | _, [] => rfl
  | b, t :: ts => by rw [run, List.map_cons, times_run]

omit [Field K] in
theorem passed_cons (x : K × Bool) (xs : List (K × Bool)) : passed lo hi (x :: xs)
    = (if x.2 = true ∧ lo ≤ x.1 ∧ x.1 ≤ hi then 1 else 0) + passed lo hi xs := by
  unfold passed
  rw [List.filter_cons]
  by_cases h : x.2 = true ∧ lo ≤ x.1 ∧ x.1 ≤ hi
  · rw [if_pos h, if_pos (by simp [h]), List.length_cons, Nat.add_comm]
  · rw [if_neg h, if_neg (by simpa [and_assoc] using h), Nat.zero_add]

omit [Field K] in
theorem passed_eq_zero {xs : List (K × Bool)} (h : ∀ s ∈ xs.map Prod.fst, hi < s) :
    passed lo hi xs = 0 := by
  unfold passed
  rw [List.length_eq_zero_iff, List.filter_eq_nil_iff]
  intro x hx
  have hlate := h x.1 (List.mem_map_of_mem hx)
  simp [not_le.2 hlate]

variable [IsStrictOrderedRing K]

theorem refill_nonneg (hrate : 0 ≤ rate) (hb : Within cap b) (ht : b.last ≤ t) :
    0 ≤ b.refill rate cap t := by
  have hflow : 0 ≤ (t - b.last) * rate := mul_nonneg (sub_nonneg.2 ht) hrate
  exact le_min (hb.nonneg.trans hb.le_cap) (by linarith [hb.nonneg])

/-- A request leaves the tokens within bounds. -/
theorem Within.take (hrate : 0 ≤ rate) (hb : Within cap b) (ht : b.last ≤ t) :
    Within cap (b.take rate cap t).2 := by
  have hnonneg := refill_nonneg hrate hb ht
  have hcap : b.refill rate cap t ≤ cap := min_le_left _ _
  unfold Bucket.take
  split_ifs with h
  · exact ⟨by linarith, by linarith⟩
  · exact ⟨hnonneg, hcap⟩

omit [IsStrictOrderedRing K] in
/-- What is left after a request, and the one that passed, are no more than there was. -/
theorem level_take : (b.take rate cap t).2.level + (if (b.take rate cap t).1 = true then 1 else 0)
    = b.refill rate cap t := by
  unfold take
  split_ifs <;> simp_all

/-- A request uses up what it takes, so a bound on the later ones is one on all. -/
theorem passed_run_cons {x : K} (h : (passed lo hi (run rate cap (b.take rate cap t).2 ts) : K)
    ≤ (b.take rate cap t).2.level + x) :
    (passed lo hi (run rate cap b (t :: ts)) : K) ≤ b.refill rate cap t + x := by
  have hone : ((if (b.take rate cap t).1 = true ∧ lo ≤ t ∧ t ≤ hi then 1 else 0 : ℕ) : K)
      ≤ if (b.take rate cap t).1 = true then 1 else 0 := by
    split_ifs with h h'
    · simp
    · exact absurd h.1 h'
    · simp
    · simp
  rw [run, passed_cons, Nat.cast_add, ← level_take]
  linarith

omit [IsStrictOrderedRing K] in
theorem passed_run_late (hts : (t :: ts).Pairwise (· ≤ ·)) (ht : hi < t) :
    passed lo hi (run rate cap b (t :: ts)) = 0 := by
  refine passed_eq_zero ?_
  rw [times_run]
  intro s hs
  rcases List.mem_cons.1 hs with rfl | hs
  · exact ht
  · exact ht.trans_le ((List.pairwise_cons.1 hts).1 s hs)

/-- Up to a time no more pass than the tokens there are and those that flow in till then. -/
theorem passed_le_level (hrate : 0 ≤ rate) : ∀ {ts : List K} {b : Bucket K}, Within cap b →
    (b.last :: ts).Pairwise (· ≤ ·) → b.last ≤ hi →
    (passed lo hi (run rate cap b ts) : K) ≤ b.level + (hi - b.last) * rate
  | [], b, hb, _, hhi => by
    have hflow : 0 ≤ (hi - b.last) * rate := mul_nonneg (sub_nonneg.2 hhi) hrate
    simp only [run, passed, List.filter_nil, List.length_nil, Nat.cast_zero]
    linarith [hb.nonneg]
  | t :: ts, b, hb, hts, hhi => by
    obtain ⟨hlast, hsorted⟩ := List.pairwise_cons.1 hts
    have ht : b.last ≤ t := hlast t List.mem_cons_self
    rcases le_or_gt t hi with hle | hgt
    · have hrest := passed_le_level hrate (hb.take hrate ht) (by rwa [last_take])
        (by rwa [last_take])
      rw [last_take] at hrest
      have hrefill : b.refill rate cap t ≤ b.level + (t - b.last) * rate := min_le_right _ _
      exact (passed_run_cons hrest).trans (by linarith)
    · have hflow : 0 ≤ (hi - b.last) * rate := mul_nonneg (sub_nonneg.2 hhi) hrate
      rw [passed_run_late hsorted hgt, Nat.cast_zero]
      linarith [hb.nonneg]

/-- Within a window no more pass than the capacity and what flows in while it lasts. -/
theorem passed_le_window (hrate : 0 ≤ rate) (hwindow : lo ≤ hi) : ∀ {ts : List K} {b : Bucket K},
    Within cap b → (b.last :: ts).Pairwise (· ≤ ·) →
    (passed lo hi (run rate cap b ts) : K) ≤ cap + (hi - lo) * rate
  | [], b, hb, _ => by
    have hflow : 0 ≤ (hi - lo) * rate := mul_nonneg (sub_nonneg.2 hwindow) hrate
    simp only [run, passed, List.filter_nil, List.length_nil, Nat.cast_zero]
    linarith [hb.nonneg, hb.le_cap]
  | t :: ts, b, hb, hts => by
    obtain ⟨hlast, hsorted⟩ := List.pairwise_cons.1 hts
    have ht : b.last ≤ t := hlast t List.mem_cons_self
    have hb' := hb.take hrate ht
    have hflow : 0 ≤ (hi - lo) * rate := mul_nonneg (sub_nonneg.2 hwindow) hrate
    rcases lt_or_ge t lo with hearly | hlo
    · have hrest := passed_le_window hrate hwindow hb' (by rwa [last_take])
      rw [run, passed_cons, if_neg fun h => absurd h.2.1 (not_le.2 hearly), Nat.zero_add]
      exact hrest
    -- the first request of the window finds the bucket full at best
    rcases le_or_gt t hi with hle | hgt
    · have hrest : (passed lo hi (run rate cap (b.take rate cap t).2 ts) : K)
          ≤ (b.take rate cap t).2.level + (hi - (b.take rate cap t).2.last) * rate :=
        passed_le_level hrate hb' (by rwa [last_take]) (by rwa [last_take])
      rw [last_take] at hrest
      have hrefill : b.refill rate cap t ≤ cap := min_le_left _ _
      have hless : (hi - t) * rate ≤ (hi - lo) * rate :=
        mul_le_mul_of_nonneg_right (by linarith) hrate
      exact (passed_run_cons hrest).trans (by linarith)
    · rw [passed_run_late hsorted hgt, Nat.cast_zero]
      linarith [hb.nonneg, hb.le_cap]

/-- When a full bucket was made makes no difference. -/
theorem run_full {s : K} (hrate : 0 ≤ rate) (hs : s ≤ t) :
    run rate cap ⟨cap, s⟩ (t :: ts) = run rate cap ⟨cap, t⟩ (t :: ts) := by
  have hfull : ∀ s : K, s ≤ t → refill rate cap ⟨cap, s⟩ t = cap := fun s hs =>
    min_eq_left (le_add_of_nonneg_right (mul_nonneg (sub_nonneg.2 hs) hrate))
  have htake : take rate cap ⟨cap, s⟩ t = take rate cap ⟨cap, t⟩ t := by
    rw [take, take, hfull s hs, hfull t le_rfl]
  rw [run, run, htake]

/-- Requests with the time between them in which a token flows in all pass, if the first finds a
token and the bucket can hold one. -/
theorem run_spaced (hrate : 0 < rate) (hcap : 1 ≤ cap) : ∀ {ts : List K} {b : Bucket K},
    (∀ t ∈ ts.head?, 1 ≤ b.level + (t - b.last) * rate) →
    ts.IsChain (fun s t => s + 1 / rate ≤ t) → ∀ x ∈ run rate cap b ts, x.2 = true
  | [], _, _, _ => by simp [run]
  | t :: ts, b, hfirst, hts => by
    have hrefill : 1 ≤ b.refill rate cap t := le_min hcap (hfirst t rfl)
    have htake : b.take rate cap t = (true, ⟨b.refill rate cap t - 1, t⟩) := if_pos hrefill
    have hnext : ∀ s ∈ ts.head?, 1 ≤ b.refill rate cap t - 1 + (s - t) * rate := by
      intro s hs
      obtain ⟨ts, rfl⟩ : ∃ r, ts = s :: r := ⟨ts.tail, (List.cons_head?_tail hs).symm⟩
      have hgap : 1 / rate ≤ s - t := by linarith [(List.isChain_cons_cons.1 hts).1]
      have hflow : 1 ≤ (s - t) * rate := by
        calc (1 : K) = 1 / rate * rate := (one_div_mul_cancel hrate.ne').symm
          _ ≤ (s - t) * rate := mul_le_mul_of_nonneg_right hgap hrate.le
      linarith
    rw [run, htake]
    intro x hx
    rcases List.mem_cons.1 hx with rfl | hx
    · rfl
    · exact run_spaced hrate hcap hnext hts.tail x hx

omit [IsStrictOrderedRing K] in
/-- A bucket that cannot hold a token lets nothing pass. -/
theorem run_small (hcap : cap < 1) : ∀ {ts : List K} {b : Bucket K},
    ∀ x ∈ run rate cap b ts, x.2 = false
  | [], _ => by simp [run]
  | t :: ts, b => by
    have hrefill : ¬ 1 ≤ b.refill rate cap t := fun h => not_lt.2 (h.trans (min_le_left _ _)) hcap
    have htake : (b.take rate cap t).1 = false := by rw [take, if_neg hrefill]
    rw [run, htake]
    intro x hx
    rcases List.mem_cons.1 hx with rfl | hx
    · rfl
    · exact run_small hcap x hx

end Bucket

end Lib
