import Mathlib.Data.Multiset.AddSub

/-!
# Allocated arrays and a ledger of allocations

`calloc` asks an oracle, by the number of the call, whether it succeeds, and names the block by
that number. The ledger keeps the numbers of the blocks allocated and of those freed, and whether
a copy read outside its source.
-/

namespace Heap

variable {α : Type*}

/-- An array: the number of the call it comes from, the bytes of an element, the elements. -/
structure Block (α : Type*) where
  id : ℕ
  width : ℕ
  data : List α
deriving DecidableEq, Repr

/-- A pointer to an array, `none` for `NULL`. -/
abbrev Ptr (α : Type*) := Option (Block α)

def Ptr.cells : Ptr α → List α
  | none => []
  | some b => b.data

/-- The bytes of the array. -/
def Ptr.size : Ptr α → ℕ
  | none => 0
  | some b => b.width * b.data.length

def Ptr.ids : Ptr α → Multiset ℕ
  | none => 0
  | some b => {b.id}

structure Ledger where
  calls : ℕ := 0
  allocs : List ℕ := []
  frees : List ℕ := []
  overrun : Bool := false
deriving DecidableEq, Repr

/-- An array of `n` cleared elements. -/
def calloc (ok : ℕ → Bool) (width n : ℕ) (zero : α) (m : Ledger) : Ptr α × Ledger :=
  if ok m.calls then
    (some ⟨m.calls, width, List.replicate n zero⟩,
      { m with calls := m.calls + 1, allocs := m.calls :: m.allocs })
  else (none, { m with calls := m.calls + 1 })

/-- `if (n) p = calloc(..)`, for a `p` that is `NULL` before. -/
def callocFor (ok : ℕ → Bool) (width n : ℕ) (zero : α) (m : Ledger) : Ptr α × Ledger :=
  if n = 0 then (none, m) else calloc ok width n zero m

/-- `n && !p`: there should be an array, and it could not be had. -/
def lost (n : ℕ) (p : Ptr α) : Bool := n ≠ 0 && p.isNone

def free (p : Ptr α) (m : Ledger) : Ledger :=
  match p with
  | none => m
  | some b => { m with frees := b.id :: m.frees }

/-- `if (dst) memcpy(dst, src, n * width)` into an array of `n` elements; those outside the source
are left as they are. -/
def memcpy (n : ℕ) (dst src : Ptr α) (m : Ledger) : Ptr α × Ledger :=
  match dst with
  | none => (none, m)
  | some d =>
    (some { d with data := src.cells.take n ++ d.data.drop (src.cells.take n).length },
      { m with overrun := m.overrun || src.size < d.width * n })

/-- An array of its own for the `n` elements of another. -/
def dupArray (ok : ℕ → Bool) (width n : ℕ) (zero : α) (src : Ptr α) (m : Ledger) : Ptr α × Ledger :=
  let (p, m) := callocFor ok width n zero m
  memcpy n p src m

/-- The kernel's copy of a list to the caller's array: only if the caller's count is enough. -/
def Ptr.copyOut (p : Ptr α) (l : List α) (count : ℕ) : Ptr α :=
  if l.length ≤ count then
    p.map fun b => { b with data := (l ++ b.data.drop l.length).take b.data.length }
  else p

/-- The array has the list's length, and the list in it if there was room to copy it. -/
structure Ptr.Filled (p : Ptr α) (width : ℕ) (l : List α) (room : Prop) : Prop where
  length : p.cells.length = l.length
  size : p.size = width * l.length
  cells : room → p.cells = l

/-- The blocks are allocated and not freed. -/
def Ledger.Live (m : Ledger) (ids : Multiset ℕ) : Prop := ∀ i ∈ ids, i ∈ m.allocs ∧ i ∉ m.frees

end Heap
