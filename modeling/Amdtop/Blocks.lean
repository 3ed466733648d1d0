import Mathlib.Data.List.DropRight

/-!
# Blocks of equal keys

What is replaced only by an item with another key is, after any items, the first of those at the end
that have the key of the last.
-/

namespace Blocks

variable {α κ : Type*} [DecidableEq κ] (key : α → κ)

/-- The first of the items at the end that have the key of the last. -/
def blockFirst (as : List α) : Option α :=
  as.getLast?.bind fun last => (as.rtakeWhile (key · = key last)).head?

@[simp] theorem blockFirst_nil : blockFirst key [] = none := rfl

/-- The block of the last item ends with it. -/
theorem blockFirst_append (as : List α) (a : α) :
    blockFirst key (as ++ [a]) = (as.rtakeWhile (key · = key a)).head?.or (some a) := by
  rw [blockFirst, List.getLast?_concat, Option.bind_some,
    List.rtakeWhile_concat_pos _ _ _ (by simp), List.head?_append, List.head?_singleton]

theorem blockFirst_mem {as : List α} {a : α} (h : blockFirst key as = some a) : a ∈ as := by
  obtain ⟨last, -, hhead⟩ := Option.bind_eq_some_iff.1 h
  exact (List.rtakeWhile_suffix _ _).subset (List.mem_of_mem_head? hhead)

theorem key_blockFirst : ∀ as : List α, (blockFirst key as).map key = as.getLast?.map key := by
  intro as
  rcases List.eq_nil_or_concat as with rfl | ⟨as, a, rfl⟩
  · rfl
  · rw [List.concat_eq_append, blockFirst_append, List.getLast?_concat, Option.map_some]
    rcases hhead : (as.rtakeWhile (key · = key a)).head? with _ | b
    · rfl
    · have hb := List.mem_rtakeWhile_imp (List.mem_of_mem_head? hhead)
      exact congrArg some (of_decide_eq_true hb)

/-- An item is kept until one with another key comes. -/
theorem blockFirst_concat (as : List α) (a : α) : blockFirst key (as ++ [a])
    = if (blockFirst key as).map key = some (key a) then blockFirst key as else some a := by
  rw [blockFirst_append, key_blockFirst]
  rcases List.eq_nil_or_concat as with rfl | ⟨as, b, rfl⟩
  · rfl
  rw [List.concat_eq_append, List.getLast?_concat, Option.map_some]
  by_cases hkey : key b = key a
  · rw [if_pos (congrArg some hkey), blockFirst_append, hkey,
      List.rtakeWhile_concat_pos _ _ _ (by simpa using hkey), List.head?_append,
      List.head?_singleton, Option.or_assoc, Option.some_or]
  · rw [if_neg fun h => hkey (Option.some.inj h),
      List.rtakeWhile_concat_neg _ _ _ (by simpa using hkey), List.head?_nil, Option.none_or]

end Blocks
