import AgentComm.Lib.Trim
import AgentComm.Python

/-!
# Splitting and stripping texts

A text is split at the first separator or at every one; the parts between separators hold none,
and joined again they are the text. What is stripped is white space.
-/

namespace AgentComm

open Lib

/-! ### At the first separator -/

theorem splitOnce_append {sep : ℕ} : ∀ {s : PyStr} (t : PyStr), sep ∉ s →
    splitOnce sep (s ++ t) = (s ++ (splitOnce sep t).1, (splitOnce sep t).2)
  | [], _, _ => rfl
  | c :: s, t, h => by
    simp only [List.mem_cons, not_or] at h
    simp only [List.cons_append, splitOnce, if_neg (Ne.symm h.1), splitOnce_append t h.2]

theorem splitOnce_self {sep : ℕ} : ∀ {s : PyStr}, (splitOnce sep s).1 = s ↔ sep ∉ s
  | [] => by simp [splitOnce]
  | c :: s => by
    simp only [splitOnce, List.mem_cons, not_or]
    split_ifs with h
    · simp [h]
    · rw [List.cons.injEq, splitOnce_self]
      exact ⟨fun hs => ⟨Ne.symm h, hs.2⟩, fun hs => ⟨rfl, hs.2⟩⟩

theorem splitOnce_prefix (sep : ℕ) : ∀ s : PyStr, (splitOnce sep s).1 <+: s
  | [] => List.prefix_refl _
  | c :: s => by
    simp only [splitOnce]
    split_ifs
    · exact List.nil_prefix
    · exact List.cons_prefix_cons.2 ⟨rfl, splitOnce_prefix sep s⟩

theorem splitOnce_sep {sep : ℕ} {s : PyStr} (h : sep ∉ s) (t : PyStr) :
    splitOnce sep (s ++ sep :: t) = (s, some t) := by
  rw [splitOnce_append _ h]
  simp [splitOnce]

theorem splitOnce_none {sep : ℕ} {s : PyStr} (h : sep ∉ s) : splitOnce sep s = (s, none) := by
  have := splitOnce_append [] h
  simpa [splitOnce] using this

/-! ### At every separator -/

theorem splitAll_eq_splitOn (sep : ℕ) : ∀ s : PyStr, splitAll sep s = s.splitOn sep
  | [] => rfl
  | c :: s => by
    unfold splitAll
    rw [splitAll_eq_splitOn sep s, List.splitOn_cons_eq_if_modifyHead]
    simp only [beq_iff_eq]
    split_ifs
    · rfl
    · obtain ⟨w, ws, hs⟩ := List.exists_cons_of_ne_nil (List.splitOn_ne_nil sep s)
      rw [hs]
      rfl

theorem not_mem_of_mem_splitAll {sep : ℕ} :
    ∀ {s w : PyStr}, w ∈ splitAll sep s → sep ∉ w
  | [], w, h => by
    rw [show splitAll sep [] = [[]] from rfl, List.mem_singleton] at h
    simp [h]
  | c :: s, w, h => by
    have ih {w : PyStr} : w ∈ splitAll sep s → sep ∉ w := not_mem_of_mem_splitAll
    unfold splitAll at h
    split_ifs at h with hc
    · rcases List.mem_cons.1 h with rfl | h
      · simp
      · exact ih h
    · rcases hs : splitAll sep s with _ | ⟨v, vs⟩ <;> rw [hs] at h ih <;>
        simp only [List.mem_cons, List.not_mem_nil, or_false] at h
      · simpa [h] using Ne.symm hc
      · rcases h with rfl | h
        · simp [Ne.symm hc, ih List.mem_cons_self]
        · exact ih (List.mem_cons_of_mem v h)

/-- A text has one list of parts without a separator that joins to it. -/
theorem splitAll_iff {sep : ℕ} {s : PyStr} {parts : List PyStr} :
    splitAll sep s = parts
      ↔ parts ≠ [] ∧ (∀ w ∈ parts, sep ∉ w) ∧ [sep].intercalate parts = s := by
  constructor
  · rintro rfl
    refine ⟨?_, fun w => not_mem_of_mem_splitAll, ?_⟩
    · rw [splitAll_eq_splitOn]
      exact List.splitOn_ne_nil sep s
    · rw [splitAll_eq_splitOn, List.intercalate_splitOn]
  · rintro ⟨hne, hsep, rfl⟩
    rw [splitAll_eq_splitOn, List.splitOn_intercalate sep hsep hne]

/-! ### White space -/

/-- Nothing but white space. -/
def Blank (s : PyStr) : Prop := ∀ c ∈ s, isSpace c

theorem strip_eq_nil_iff {s : PyStr} : strip s = [] ↔ Blank s := trim_eq_nil_iff

theorem Blank.not_mem {s : PyStr} {c : ℕ} (h : Blank s) (hc : ¬ isSpace c) : c ∉ s :=
  fun hm => hc (h c hm)

/-- A part is what it is stripped to with white space around it. -/
theorem strip_eq_iff {s m : PyStr} :
    strip s = m ↔ Trimmed isSpace m ∧ ∃ w w', s = w ++ m ++ w' ∧ Blank w ∧ Blank w' :=
  trim_eq_iff

/-- Stripped before it is split or after, a text has the same two parts. -/
theorem splitOnce_strip {sep : ℕ} (hsep : ¬ isSpace sep) {left : PyStr} (h : sep ∉ left)
    (right : PyStr) :
    ∃ left' right', splitOnce sep (strip (left ++ sep :: right)) = (left', some right')
      ∧ strip left' = strip left ∧ strip right' = strip right := by
  refine ⟨left.dropWhile isSpace, right.rdropWhile isSpace, ?_, trim_dropWhile left,
    trim_rdropWhile right⟩
  rw [show strip (left ++ sep :: right) = _ from trim_append_cons hsep left right]
  exact splitOnce_sep (fun hm => h ((List.dropWhile_sublist isSpace).subset hm)) _

end AgentComm
