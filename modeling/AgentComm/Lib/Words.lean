import Mathlib.Data.List.Basic
import Mathlib.Tactic.Common

/-!
# Words

The words of a list are the longest runs of elements that are no separators. A list is its words
with gaps of separators around them, and it can be read so in one way only.
-/

namespace Lib

variable {α : Type*} (p : α → Bool)

/-- The words of `s`, where `w` has been read of the first. -/
def wordsFrom : List α → List α → List (List α)
  | [], [] => []
  | [], w => [w]
  | c :: s, w =>
    if p c then
      if w.isEmpty then wordsFrom s [] else w :: wordsFrom s []
    else wordsFrom s (w ++ [c])

def words (s : List α) : List (List α) := wordsFrom p s []

/-- `ws` stand in `s`, with separators between them and perhaps at both ends. -/
inductive Words : List α → List (List α) → Prop
  | gap {g} (hg : ∀ c ∈ g, p c = true) : Words g []
  | word {g w s ws} (hg : ∀ c ∈ g, p c = true) (hne : w ≠ []) (hw : ∀ c ∈ w, p c = false)
      (hend : ∀ c ∈ s.head?, p c = true) (hs : Words s ws) : Words (g ++ w ++ s) (w :: ws)

variable {p} {s w : List α} {ws : List (List α)} {c : α}

theorem Words.cons (hc : p c = true) (h : Words p s ws) : Words p (c :: s) ws := by
  cases h with
  | gap hg => exact .gap (List.forall_mem_cons.2 ⟨hc, hg⟩)
  | @word g w s ws hg hne hw hend hs => exact .word (List.forall_mem_cons.2 ⟨hc, hg⟩) hne hw hend hs

theorem words_wordsFrom : ∀ (s : List α) {w : List α}, (∀ c ∈ w, p c = false) →
    Words p (w ++ s) (wordsFrom p s w)
  | [], [], _ => .gap (by simp)
  | [], d :: w, hw => by
    have h : Words p ([] ++ (d :: w) ++ []) [d :: w] :=
      .word (by simp) (by simp) hw (by simp) (.gap (by simp))
    simpa [wordsFrom] using h
  | c :: s, w, hw => by
    unfold wordsFrom
    split_ifs with hc hempty
    · obtain rfl := List.isEmpty_iff.1 hempty
      exact (words_wordsFrom s (w := []) (by simp)).cons hc
    · have hrest := (words_wordsFrom s (w := []) (by simp)).cons hc
      have hne : w ≠ [] := fun h => hempty (List.isEmpty_iff.2 h)
      have h : Words p ([] ++ w ++ c :: s) (w :: wordsFrom p s []) :=
        .word (by simp) hne hw (by simpa using hc) hrest
      simpa using h
    · have hw' : ∀ d ∈ w ++ [c], p d = false := by
        intro d hd
        rcases List.mem_append.1 hd with hd | hd
        · exact hw d hd
        · rw [List.mem_singleton.1 hd]
          exact Bool.eq_false_iff.2 hc
      simpa using words_wordsFrom s hw'

theorem wordsFrom_gap : ∀ {g : List α} (s : List α), (∀ c ∈ g, p c = true) →
    wordsFrom p (g ++ s) [] = wordsFrom p s []
  | [], _, _ => rfl
  | c :: g, s, hg => by
    obtain ⟨hc, hg⟩ := List.forall_mem_cons.1 hg
    rw [List.cons_append, wordsFrom, if_pos hc, if_pos List.isEmpty_nil]
    exact wordsFrom_gap s hg

theorem wordsFrom_append : ∀ {v : List α} (s w : List α), (∀ c ∈ v, p c = false) →
    wordsFrom p (v ++ s) w = wordsFrom p s (w ++ v)
  | [], _, w, _ => by rw [List.append_nil, List.nil_append]
  | c :: v, s, w, hv => by
    obtain ⟨hc, hv⟩ := List.forall_mem_cons.1 hv
    rw [List.cons_append, wordsFrom, if_neg (by simp [hc]), wordsFrom_append s _ hv,
      List.append_assoc, List.singleton_append]

theorem wordsFrom_end (hne : w ≠ []) (hend : ∀ c ∈ s.head?, p c = true) :
    wordsFrom p s w = w :: wordsFrom p s [] := by
  cases s with
  | nil =>
    cases w with
    | nil => exact absurd rfl hne
    | cons => rfl
  | cons c s =>
    have hc : p c = true := hend c rfl
    simp [wordsFrom, hc, hne]

/-- What is read is what stands there. -/
theorem words_iff : words p s = ws ↔ Words p s ws := by
  constructor
  · rintro rfl
    exact words_wordsFrom s (w := []) (by simp)
  · intro h
    induction h with
    | @gap g hg =>
      have hgap := wordsFrom_gap [] hg
      rw [List.append_nil] at hgap
      exact hgap
    | @word g w s ws hg hne hw hend _ ih =>
      unfold words at ih ⊢
      rw [List.append_assoc, wordsFrom_gap _ hg, wordsFrom_append _ _ hw, List.nil_append,
        wordsFrom_end hne hend, ih]

theorem Words.ne_nil (h : Words p s ws) : [] ∉ ws := by
  induction h with
  | gap => simp
  | word _ hne _ _ _ ih => simp [hne.symm, ih]

/-- The words stay when separators are replaced by other separators. -/
theorem wordsFrom_map {q : α → Bool} {f : α → α} (hp : ∀ c, p (f c) = q c)
    (hf : ∀ c, q c = false → f c = c) :
    ∀ s w : List α, wordsFrom p (s.map f) w = wordsFrom q s w
  | [], [] => rfl
  | [], _ :: _ => rfl
  | c :: s, w => by
    rw [List.map_cons, wordsFrom, wordsFrom, hp, wordsFrom_map hp hf s, wordsFrom_map hp hf s]
    split_ifs with hc
    · rfl
    · rfl
    · rw [hf c (Bool.eq_false_iff.2 hc)]

end Lib
