import Mathlib.Data.List.Basic
import Mathlib.Logic.Function.Basic
import Mathlib.Tactic.Common

/-!
# A desk where parties wait for items

Parties check in under a key and check out again, and items arrive for a key. The desk's book
says who was checked in under its key when each item arrived.
-/

namespace Lib

/-- What happens at a desk. -/
inductive Visit (κ ι δ : Type*)
  | checkIn (k : κ) (i : ι)
  | checkOut (k : κ)
  | arrive (d : δ) (k : Option κ)

/-- Who is checked in under each key, and the items that arrived, each with its party. -/
structure Desk (κ ι δ : Type*) where
  party : κ → Option ι
  book : List (δ × Option ι)

namespace Desk

variable {κ ι δ : Type*} [DecidableEq κ] [DecidableEq ι]

def empty : Desk κ ι δ := ⟨fun _ => none, []⟩

def visit (desk : Desk κ ι δ) : Visit κ ι δ → Desk κ ι δ
  | .checkIn k i => { desk with party := Function.update desk.party k (some i) }
  | .checkOut k => { desk with party := Function.update desk.party k none }
  | .arrive d k => { desk with book := desk.book ++ [(d, k.bind desk.party)] }

/-- The desk after the visits. -/
def after (visits : List (Visit κ ι δ)) : Desk κ ι δ := visits.foldl visit empty

/-- The items that arrived for a party. -/
def offered (desk : Desk κ ι δ) (i : ι) : List δ :=
  desk.book.filterMap fun e => if e.2 = some i then some e.1 else none

omit [DecidableEq ι] in
theorem after_append (visits visits' : List (Visit κ ι δ)) :
    after (visits ++ visits') = visits'.foldl visit (after visits) := List.foldl_append

variable {desk : Desk κ ι δ}

@[simp] theorem offered_checkIn (k : κ) (i j : ι) :
    (desk.visit (.checkIn k i)).offered j = desk.offered j := rfl

@[simp] theorem offered_checkOut (k : κ) (j : ι) :
    (desk.visit (.checkOut k)).offered j = desk.offered j := rfl

theorem offered_arrive (d : δ) (k : Option κ) (i : ι) :
    (desk.visit (.arrive d k)).offered i
      = desk.offered i ++ if k.bind desk.party = some i then [d] else [] := by
  simp only [offered, visit, List.filterMap_append, List.filterMap_cons, List.filterMap_nil]
  split_ifs <;> rfl

omit [DecidableEq κ] in
theorem mem_offered {d : δ} {i : ι} : d ∈ desk.offered i ↔ (d, some i) ∈ desk.book := by
  simp only [offered, List.mem_filterMap, Option.ite_none_right_eq_some, Option.some.injEq,
    Prod.exists]
  constructor
  · rintro ⟨d', i', h, rfl, rfl⟩
    exact h
  · intro h
    exact ⟨d, some i, h, rfl, rfl⟩

omit [DecidableEq ι] in
/-- Nothing is taken back from the book. -/
theorem book_grows : ∀ (visits : List (Visit κ ι δ)) (desk : Desk κ ι δ),
    desk.book <+: (visits.foldl visit desk).book
  | [], _ => List.prefix_rfl
  | v :: visits, desk => by
    refine List.IsPrefix.trans ?_ (book_grows visits (desk.visit v))
    cases v with
    | arrive d k => exact List.prefix_append _ _
    | _ => exact List.prefix_rfl

theorem offered_grows (visits : List (Visit κ ι δ)) (desk : Desk κ ι δ) (i : ι) :
    desk.offered i <+: (visits.foldl visit desk).offered i :=
  (book_grows visits desk).filterMap _

end Desk

end Lib
