import Mathlib.Data.List.Basic

/-!
# Computations that read an array

A computation keeps, with its value, the offsets it has read. It stays `Below` a bound if all of
them do, and a sequence does just if each part does.
-/

universe u

/-- A value, and the offsets read on the way to it. -/
structure Reads (α : Type u) where
  val : α
  offsets : List ℕ

namespace Reads

variable {α β : Type u}

instance : Monad Reads where
  pure a := ⟨a, []⟩
  bind r f := ⟨(f r.val).val, r.offsets ++ (f r.val).offsets⟩

def Below (r : Reads α) (n : ℕ) : Prop := ∀ o ∈ r.offsets, o < n

@[simp] theorem val_pure (a : α) : (pure a : Reads α).val = a := rfl

@[simp] theorem val_bind (r : Reads α) (f : α → Reads β) : (r >>= f).val = (f r.val).val := rfl

@[simp] theorem below_pure (a : α) (n : ℕ) : (pure a : Reads α).Below n :=
  fun _ h => nomatch h

@[simp] theorem below_bind {r : Reads α} {f : α → Reads β} {n : ℕ} :
    (r >>= f).Below n ↔ r.Below n ∧ (f r.val).Below n :=
  List.forall_mem_append

theorem Below.mono {r : Reads α} {m n : ℕ} (h : r.Below m) (hle : m ≤ n) : r.Below n :=
  fun o ho => Nat.lt_of_lt_of_le (h o ho) hle

end Reads
