import Mathlib.Data.List.DropRight
import Mathlib.Tactic.Common

/-!
# Trimming

What is left of a list when the elements with a property are cut off both its ends. A list is its
trimmed part with such elements around it, and this part is the only one that begins and ends
with others.
-/

namespace Lib

variable {α : Type*} (p : α → Bool)

def trim (s : List α) : List α := (s.dropWhile p).rdropWhile p

/-- Neither end of `s` is to be cut off. -/
def Trimmed (s : List α) : Prop := (∀ c ∈ s.head?, ¬ p c) ∧ ∀ c ∈ s.getLast?, ¬ p c

variable {p}

theorem trim_append_left {w : List α} (hw : ∀ c ∈ w, p c) (s : List α) :
    trim p (w ++ s) = trim p s := by
  unfold trim
  rw [List.dropWhile_append_of_pos hw]

theorem rdropWhile_append {w : List α} (hw : ∀ c ∈ w, p c) (s : List α) :
    (s ++ w).rdropWhile p = s.rdropWhile p := by
  unfold List.rdropWhile
  rw [List.reverse_append, List.dropWhile_append_of_pos (by simpa using hw)]

theorem trim_append_right {w : List α} (hw : ∀ c ∈ w, p c) (s : List α) :
    trim p (s ++ w) = trim p s := by
  unfold trim
  rw [List.dropWhile_append]
  split_ifs with h
  · rw [List.isEmpty_iff.1 h, List.dropWhile_eq_nil_iff.2 hw]
  · exact rdropWhile_append hw _

theorem trim_eq_nil_iff {s : List α} : trim p s = [] ↔ ∀ c ∈ s, p c := by
  constructor
  · intro h c hc
    rw [← List.takeWhile_append_dropWhile (p := p) (l := s), List.mem_append] at hc
    rcases hc with hc | hc
    · exact List.mem_takeWhile_imp hc
    · exact List.rdropWhile_eq_nil_iff.1 h c hc
  · intro h
    unfold trim
    rw [List.dropWhile_eq_nil_iff.2 h, List.rdropWhile_nil]

theorem trimmed_trim (s : List α) : Trimmed p (trim p s) := by
  constructor
  · intro c hc
    obtain ⟨r, hr⟩ := List.rdropWhile_prefix p (s.dropWhile p)
    have hhead : c ∈ (s.dropWhile p).head? := by
      rw [← hr]
      exact List.mem_head?_append_of_mem_head? hc
    have := List.head?_dropWhile_not p s
    rw [Option.mem_def.1 hhead] at this
    simpa using this
  · intro c hc
    obtain ⟨hne, rfl⟩ := List.mem_getLast?_eq_getLast hc
    exact List.rdropWhile_last_not p _ hne

theorem Trimmed.trim_eq {s : List α} (h : Trimmed p s) : trim p s = s := by
  have hleft : s.dropWhile p = s := by
    rcases s with _ | ⟨c, s⟩
    · rfl
    · rw [List.dropWhile_cons_of_neg (h.1 c rfl)]
  unfold trim
  rw [hleft, List.rdropWhile_eq_self_iff]
  exact fun hne => h.2 _ (List.getLast_mem_getLast? hne)

/-- A list is its trimmed part with what is cut off around it. -/
theorem exists_around (s : List α) :
    ∃ w w', s = w ++ trim p s ++ w' ∧ (∀ c ∈ w, p c) ∧ ∀ c ∈ w', p c := by
  refine ⟨s.takeWhile p, (s.dropWhile p).rtakeWhile p, ?_, fun c hc => List.mem_takeWhile_imp hc,
    fun c hc => List.mem_rtakeWhile_imp hc⟩
  unfold trim
  rw [List.append_assoc, List.rdropWhile_append_rtakeWhile, List.takeWhile_append_dropWhile]

theorem trim_eq_iff {s m : List α} :
    trim p s = m ↔ Trimmed p m ∧ ∃ w w', s = w ++ m ++ w' ∧ (∀ c ∈ w, p c) ∧ ∀ c ∈ w', p c := by
  constructor
  · rintro rfl
    exact ⟨trimmed_trim s, exists_around s⟩
  · rintro ⟨hm, w, w', rfl, hw, hw'⟩
    rw [trim_append_right hw', trim_append_left hw, hm.trim_eq]

theorem trim_subset {s : List α} {c : α} (hc : c ∈ trim p s) : c ∈ s := by
  obtain ⟨w, w', hs, -, -⟩ := exists_around (p := p) s
  rw [hs]
  simp [hc]

theorem trim_dropWhile (s : List α) : trim p (s.dropWhile p) = trim p s := by
  unfold trim
  rw [List.dropWhile_idempotent]

theorem trim_rdropWhile (s : List α) : trim p (s.rdropWhile p) = trim p s := by
  conv_rhs => rw [← List.rdropWhile_append_rtakeWhile (p := p) (l := s)]
  exact (trim_append_right (fun c hc => List.mem_rtakeWhile_imp hc) _).symm

theorem dropWhile_append_cons {x : α} (hx : ¬ p x) (l r : List α) :
    (l ++ x :: r).dropWhile p = l.dropWhile p ++ x :: r := by
  rw [List.dropWhile_append]
  split_ifs with h
  · rw [List.isEmpty_iff.1 h, List.dropWhile_cons_of_neg hx, List.nil_append]
  · rfl

theorem rdropWhile_append_cons {x : α} (hx : ¬ p x) (l r : List α) :
    (l ++ x :: r).rdropWhile p = l ++ x :: r.rdropWhile p := by
  unfold List.rdropWhile
  rw [List.reverse_append, List.reverse_cons, List.append_assoc, List.singleton_append,
    dropWhile_append_cons hx]
  simp

/-- On either side of an element that stays, only the outer end is cut off. -/
theorem trim_append_cons {x : α} (hx : ¬ p x) (l r : List α) :
    trim p (l ++ x :: r) = l.dropWhile p ++ x :: r.rdropWhile p := by
  unfold trim
  rw [dropWhile_append_cons hx, rdropWhile_append_cons hx]

end Lib
