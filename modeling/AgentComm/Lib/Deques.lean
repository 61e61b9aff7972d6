import AgentComm.Lib.Dict
import Mathlib.Logic.Function.Basic

/-!
# Named queues held by reference

A table of queues maps a name to a reference and a reference to the queue's contents, as a
dictionary of mutable queue objects does: a holder of a reference keeps it when the name is
dropped, and a name made again gets a new one. Distinct names hold distinct references.
-/

namespace Lib

/-- Queues by name, each name holding a reference into the heap. -/
structure Deques (α β : Type*) [DecidableEq α] where
  index : Dict α ℕ
  heap : ℕ → List β
  next : ℕ
  fresh : ∀ {k r}, index.get? k = some r → r < next
  inj : ∀ {k k' r}, index.get? k = some r → index.get? k' = some r → k = k'

namespace Deques

variable {α β : Type*} [DecidableEq α]

def empty : Deques α β := ⟨Dict.empty, fun _ => [], 0, by simp, by simp⟩

/-- The reference at a name. -/
def ref? (d : Deques α β) (k : α) : Option ℕ := d.index.get? k

/-- The contents of the queue at a name. -/
def queue (d : Deques α β) (k : α) : Option (List β) := (d.ref? k).map d.heap

/-- A name with no queue gets a new empty one. -/
def setdefault (d : Deques α β) (k : α) : Deques α β :=
  if (d.ref? k).isSome then d else
    { index := d.index.set k d.next
      heap := Function.update d.heap d.next []
      next := d.next + 1
      fresh := by
        intro j r h
        rw [Dict.get?_set] at h
        split_ifs at h
        · cases h
          exact Nat.lt_succ_self _
        · exact Nat.lt_trans (d.fresh h) (Nat.lt_succ_self _)
      inj := by
        intro j j' r h h'
        rw [Dict.get?_set] at h h'
        split_ifs at h h' with h1 h2 h2
        · exact h1.symm.trans h2
        · cases h
          exact absurd (d.fresh h') (Nat.lt_irrefl _)
        · cases h'
          exact absurd (d.fresh h) (Nat.lt_irrefl _)
        · exact d.inj h h' }

/-- Put the contents of a reference. -/
def write (d : Deques α β) (r : ℕ) (q : List β) : Deques α β :=
  { d with heap := Function.update d.heap r q }

def append (d : Deques α β) (r : ℕ) (x : β) : Deques α β := d.write r (d.heap r ++ [x])

def clear (d : Deques α β) (r : ℕ) : Deques α β := d.write r []

/-- Drop a name; its queue stays with whoever holds the reference. -/
def pop (d : Deques α β) (k : α) : Deques α β :=
  { d with
    index := d.index.pop k
    fresh := by
      intro j r h
      rw [Dict.get?_pop] at h
      split_ifs at h
      exact d.fresh h
    inj := by
      intro j j' r h h'
      rw [Dict.get?_pop] at h h'
      split_ifs at h h'
      exact d.inj h h' }

theorem queue_eq_some {d : Deques α β} {k : α} {q : List β} :
    d.queue k = some q ↔ ∃ r, d.ref? k = some r ∧ d.heap r = q := by
  simp [queue]

theorem queue_isSome (d : Deques α β) (k : α) : (d.queue k).isSome = (d.ref? k).isSome := by
  simp [queue]

@[simp] theorem queue_empty (k : α) : (empty : Deques α β).queue k = none := rfl

theorem ref?_setdefault_isSome (d : Deques α β) (k : α) : ((d.setdefault k).ref? k).isSome := by
  unfold setdefault
  split_ifs with h
  · exact h
  · simp [ref?]

@[simp, grind =] theorem queue_setdefault (d : Deques α β) (k k' : α) :
    (d.setdefault k).queue k' = if k = k' then some ((d.queue k).getD []) else d.queue k' := by
  unfold setdefault
  split_ifs with h hk hk
  · subst hk
    obtain ⟨r, hr⟩ := Option.isSome_iff_exists.1 h
    simp [queue, hr]
  · rfl
  · subst hk
    have hn : d.ref? k = none := by simpa using h
    simp [queue, ref?] at hn ⊢
    simp [hn]
  · rcases hr : d.ref? k' with _ | r
    · have : d.index.get? k' = none := hr
      simp [queue, ref?, hk, this]
    · have hr' : d.index.get? k' = some r := hr
      have := d.fresh hr'
      simp [queue, ref?, hk, hr', Function.update_of_ne (Nat.ne_of_lt this)]

/-- Writing through the reference a name holds changes that name's queue and no other. -/
theorem queue_write {d : Deques α β} {k : α} {r : ℕ} (h : d.ref? k = some r) (q : List β) (k' : α) :
    (d.write r q).queue k' = if k = k' then some q else d.queue k' := by
  have hr : ∀ j, (d.write r q).ref? j = d.ref? j := fun _ => rfl
  unfold queue
  rw [hr]
  split_ifs with hk
  · subst hk
    simp [h, write]
  · rcases hj : d.ref? k' with _ | r'
    · rfl
    · have hne : r' ≠ r := by
        rintro rfl
        exact hk (d.inj h hj)
      simp [write, Function.update_of_ne hne]

@[simp, grind =] theorem queue_pop (d : Deques α β) (k k' : α) :
    (d.pop k).queue k' = if k = k' then none else d.queue k' := by
  unfold queue ref? pop
  simp only [Dict.get?_pop]
  split_ifs <;> simp

/-- Append to the queue at a name, making it first if there is none. -/
def push (d : Deques α β) (k : α) (x : β) : Deques α β :=
  match (d.setdefault k).ref? k with
  | none => d.setdefault k
  | some r => (d.setdefault k).append r x

@[simp, grind =] theorem queue_push (d : Deques α β) (k k' : α) (x : β) :
    (d.push k x).queue k' = if k = k' then some ((d.queue k).getD [] ++ [x]) else d.queue k' := by
  obtain ⟨r, hr⟩ := Option.isSome_iff_exists.1 (ref?_setdefault_isSome d k)
  have hq : (d.setdefault k).heap r = (d.queue k).getD [] := by
    have := queue_setdefault d k k
    simpa [queue, hr] using this
  simp only [push, hr, append]
  rw [queue_write hr, hq, queue_setdefault]
  split_ifs <;> rfl

end Deques

end Lib
