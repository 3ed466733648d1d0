import Mathlib.Data.Fintype.Defs
import Amdtop.Command
import Amdtop.Links

/-!
# Intrusive lists

The functions and the loops of `list.h`, on the pointers of all `list_head`s. An entry and its
`list_head` are one address. What the lists are for is said by `Lists`: which addresses are the
heads of lists, and the entries of each in order.
-/

namespace Amdtop

open Cmd

section Functions

variable {α : Type*} [DecidableEq α]

def setNext (a b : α) (m : Links α) : Links α := { m with next := Function.update m.next a b }

def setPrev (a b : α) (m : Links α) : Links α := { m with prev := Function.update m.prev a b }

def initListHead (list : α) (m : Links α) : Links α :=
  let m := setPrev list list m
  setNext list (m.prev list) m

/-- `__list_add`. -/
def rawListAdd (entry prev next : α) (m : Links α) : Links α :=
  let m := setPrev next entry m
  let m := setNext entry next m
  let m := setPrev entry prev m
  setNext prev entry m

def listAdd (entry head : α) (m : Links α) : Links α := rawListAdd entry head (m.next head) m

def listAddTail (entry head : α) (m : Links α) : Links α := rawListAdd entry (m.prev head) head m

/-- `__list_del`. -/
def rawListDel (prev next : α) (m : Links α) : Links α :=
  let m := setPrev next prev m
  setNext prev next m

def listDel (entry : α) (m : Links α) : Links α := rawListDel (m.prev entry) (m.next entry) m

def listDelInit (entry : α) (m : Links α) : Links α :=
  let m := rawListDel (m.prev entry) (m.next entry) m
  initListHead entry m

def listMoveTail (list head : α) (m : Links α) : Links α :=
  let m := rawListDel (m.prev list) (m.next list) m
  listAddTail list head m

def listEmpty (head : α) (m : Links α) : Bool := m.next head = head

/-! ## Loops

The entries that were visited and the pointers at the end; `none` for a loop that has not ended
after so many passes. -/

section Loops

variable (head : α) (body : α → Links α → Links α)

def listForEachFrom : ℕ → α → Links α → Option (List α × Links α)
  | 0, _, _ => none
  | n + 1, pos, m =>
    if pos = head then some ([], m)
    else
      let m := body pos m
      (listForEachFrom n (m.next pos) m).map fun r => (pos :: r.1, r.2)

def listForEachEntry (n : ℕ) (m : Links α) : Option (List α × Links α) :=
  listForEachFrom head body n (m.next head) m

def listForEachSafeFrom : ℕ → α → α → Links α → Option (List α × Links α)
  | 0, _, _, _ => none
  | n + 1, pos, tmp, m =>
    if pos = head then some ([], m)
    else
      let m := body pos m
      (listForEachSafeFrom n tmp (m.next tmp) m).map fun r => (pos :: r.1, r.2)

def listForEachEntrySafe (n : ℕ) (m : Links α) : Option (List α × Links α) :=
  listForEachSafeFrom head body n (m.next head) (m.next (m.next head)) m

def listForEachReverseFrom : ℕ → α → Links α → Option (List α × Links α)
  | 0, _, _ => none
  | n + 1, pos, m =>
    if pos = head then some ([], m)
    else
      let m := body pos m
      (listForEachReverseFrom n (m.prev pos) m).map fun r => (pos :: r.1, r.2)

def listForEachEntryReverse (n : ℕ) (m : Links α) : Option (List α × Links α) :=
  listForEachReverseFrom head body n (m.prev head) m

end Loops

/-! ## Operations -/

inductive ListOp (α : Type*)
  | init (list : α)
  | add (entry head : α)
  | addTail (entry head : α)
  | del (entry : α)
  | delInit (entry : α)
  | moveTail (list head : α)
deriving DecidableEq, Repr

def listStep (m : Links α) : ListOp α → Links α
  | .init list => initListHead list m
  | .add entry head => listAdd entry head m
  | .addTail entry head => listAddTail entry head m
  | .del entry => listDel entry m
  | .delInit entry => listDelInit entry m
  | .moveTail list head => listMoveTail list head m

end Functions

/-! ## What the lists hold -/

/-- The entries of the list with this head, if there is one. -/
abbrev Lists (α : Type*) := α → Option (List α)

namespace Lists

variable {α : Type*} [DecidableEq α]

def init (list : α) (lists : Lists α) : Lists α := Function.update lists list (some [])

def del (entry : α) (lists : Lists α) : Lists α := fun head => (lists head).map (·.erase entry)

/-- The entries of `head` become `f` of them; `entry` is no head any more. -/
def put (entry head : α) (f : List α → List α) (lists : Lists α) : Lists α :=
  Function.update (Function.update lists entry none) head ((lists head).map f)

def step (lists : Lists α) : ListOp α → Lists α
  | .init list => lists.init list
  | .add entry head => lists.put entry head (entry :: ·)
  | .addTail entry head => lists.put entry head (· ++ [entry])
  | .del entry => lists.del entry
  | .delInit entry => (lists.del entry).init entry
  | .moveTail list head => (lists.del list).put list head (· ++ [list])

/-- The address is in no list, and is no head but of an empty one. -/
def Free (lists : Lists α) (a : α) : Prop :=
  (∀ head, ∀ l ∈ lists head, a ∉ l) ∧ ∀ l ∈ lists a, l = []

def Entry (lists : Lists α) (a : α) : Prop := ∃ head, ∃ l ∈ lists head, a ∈ l

instance [Fintype α] (lists : Lists α) (a : α) : Decidable (lists.Free a) :=
  inferInstanceAs (Decidable (_ ∧ _))

instance [Fintype α] (lists : Lists α) (a : α) : Decidable (lists.Entry a) :=
  inferInstanceAs (Decidable (∃ head, ∃ l ∈ lists head, a ∈ l))

/-- The documented use: what is added is new, and what is removed is in a list. -/
def Legal (lists : Lists α) : ListOp α → Prop
  | .init list => lists.Free list
  | .add entry head | .addTail entry head =>
    lists.Free entry ∧ entry ≠ head ∧ (lists head).isSome
  | .del entry | .delInit entry => lists.Entry entry
  | .moveTail list head => lists.Entry list ∧ (lists head).isSome

instance [Fintype α] (lists : Lists α) : DecidablePred lists.Legal
  | .init _ | .add _ _ | .addTail _ _ | .del _ | .delInit _ | .moveTail _ _ => by
    unfold Legal
    infer_instance

/-- No address is in two places. -/
structure Sound (lists : Lists α) : Prop where
  nodup : ∀ {head l}, lists head = some l → (head :: l).Nodup
  disjoint : ∀ {head l head' l'}, lists head = some l → lists head' = some l' → head ≠ head' →
    (head :: l).Disjoint (head' :: l')

end Lists

end Amdtop
