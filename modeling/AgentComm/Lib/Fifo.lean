import Mathlib.Data.List.Flatten
import Mathlib.Tactic.Common

/-!
# The history of a queue

A queue's history is the puts made to it and the takes that emptied it. When every take took
the whole queue of its moment, the takes in order followed by what is queued are the puts, so
each put has one fate: queued still, or taken by one take.
-/

namespace Lib

/-- One entry of a queue's history: something put at its end, or all of it taken. -/
inductive QueueOp (τ β : Type*)
  | put (x : β)
  | take (t : τ) (xs : List β)

namespace QueueOp

variable {τ β : Type*}

/-- What was put, in order. -/
def puts : List (QueueOp τ β) → List β
  | [] => []
  | put x :: ops => x :: puts ops
  | take _ _ :: ops => puts ops

/-- The takes, in order. -/
def takes : List (QueueOp τ β) → List (τ × List β)
  | [] => []
  | put _ :: ops => takes ops
  | take t xs :: ops => (t, xs) :: takes ops

/-- A history each of whose takes took the whole queue, with what is queued after it. -/
inductive Drains : List (QueueOp τ β) → List β → Prop
  | nil : Drains [] []
  | put {ops q} (x : β) (h : Drains ops q) : Drains (ops ++ [.put x]) (q ++ [x])
  | take {ops q} (t : τ) (h : Drains ops q) : Drains (ops ++ [.take t q]) []

@[simp] theorem puts_append (ops ops' : List (QueueOp τ β)) :
    puts (ops ++ ops') = puts ops ++ puts ops' := by
  induction ops with
  | nil => rfl
  | cons op ops ih => cases op <;> simp [puts, ih]

@[simp] theorem takes_append (ops ops' : List (QueueOp τ β)) :
    takes (ops ++ ops') = takes ops ++ takes ops' := by
  induction ops with
  | nil => rfl
  | cons op ops ih => cases op <;> simp [takes, ih]

variable {ops : List (QueueOp τ β)} {q : List β}

/-- The takes in order, then what is queued, are the puts. -/
theorem Drains.puts_eq (h : Drains ops q) : (takes ops).flatMap Prod.snd ++ q = puts ops := by
  induction h with
  | nil => rfl
  | put x _ ih => simp [takes, puts, ← ih]
  | take t _ ih => simp [takes, puts, ← ih]

/-- What a part of the takes took, in order, is a subsequence of the puts. -/
theorem Drains.sublist (h : Drains ops q) (p : τ × List β → Bool) :
    List.Sublist (((takes ops).filter p).flatMap Prod.snd) (puts ops) := by
  rw [← h.puts_eq]
  exact (List.filter_sublist.flatMap _).trans (List.sublist_append_left _ _)

/-- Each put with its fate: the take that took it, or none while it is queued. -/
def fates (ops : List (QueueOp τ β)) (q : List β) : List (β × Option τ) :=
  (takes ops).flatMap (fun e => e.2.map (·, some e.1)) ++ q.map (·, none)

theorem Drains.fates_fst (h : Drains ops q) : (fates ops q).map Prod.fst = puts ops := by
  rw [← h.puts_eq]
  simp [fates, List.map_flatMap, Function.comp_def]

theorem fates_queued (ops : List (QueueOp τ β)) (q : List β) :
    ((fates ops q).filter (·.2.isNone)).map Prod.fst = q := by
  have ht : ((takes ops).flatMap fun e => e.2.map (·, some e.1)).filter (·.2.isNone) = [] := by
    rw [List.filter_eq_nil_iff]
    intro e he
    simp only [List.mem_flatMap, List.mem_map] at he
    obtain ⟨e', -, x, -, rfl⟩ := he
    simp
  rw [fates, List.filter_append, ht, List.nil_append, List.filter_eq_self.2 (by simp)]
  simp [Function.comp_def]

theorem mem_takes_of_fates {ops : List (QueueOp τ β)} {q : List β} {x : β} {t : τ}
    (h : (x, some t) ∈ fates ops q) : ∃ xs, (t, xs) ∈ takes ops := by
  simp only [fates, List.mem_append, List.mem_flatMap, List.mem_map] at h
  rcases h with ⟨e, he, y, -, hy⟩ | ⟨y, -, hy⟩
  · cases hy
    exact ⟨_, he⟩
  · cases hy

variable [DecidableEq τ]

theorem fates_taken (ops : List (QueueOp τ β)) (q : List β) (t : τ) :
    ((fates ops q).filter (·.2 = some t)).map Prod.fst
      = ((takes ops).filter (·.1 = t)).flatMap Prod.snd := by
  have hq : ((q.map fun x => (x, (none : Option τ))).filter (·.2 = some t)) = [] := by simp
  rw [fates, List.filter_append, hq, List.append_nil]
  induction takes ops with
  | nil => rfl
  | cons e l ih =>
    rw [List.flatMap_cons, List.filter_append, List.map_append, ih, List.filter_cons]
    split_ifs with he
    · simp only [decide_eq_true_eq] at he
      simp [he, List.filter_map, Function.comp_def]
    · simp only [decide_eq_true_eq] at he
      simp [he, List.filter_map, Function.comp_def]

/-- With takes of distinct names, the puts whose fate is a take are what it took. -/
theorem fates_of_mem {ops : List (QueueOp τ β)} (q : List β) {t : τ} {xs : List β}
    (hn : ((takes ops).map Prod.fst).Nodup) (ht : (t, xs) ∈ takes ops) :
    ((fates ops q).filter (·.2 = some t)).map Prod.fst = xs := by
  rw [fates_taken]
  generalize takes ops = l at hn ht
  induction l with
  | nil => simp at ht
  | cons e l ih =>
    simp only [List.map_cons, List.nodup_cons] at hn
    rcases List.mem_cons.1 ht with rfl | ht
    · have hl : l.filter (·.1 = t) = [] := by
        rw [List.filter_eq_nil_iff]
        intro e he hte
        simp only [decide_eq_true_eq] at hte
        exact hn.1 (List.mem_map.2 ⟨e, he, hte⟩)
      simp [hl]
    · have hne : e.1 ≠ t := by
        rintro rfl
        exact hn.1 (List.mem_map.2 ⟨_, ht, rfl⟩)
      simp [hne, ih hn.2 ht]

end QueueOp

end Lib
