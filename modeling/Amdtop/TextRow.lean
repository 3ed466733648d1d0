import Mathlib.Data.List.Basic
import Mathlib.Logic.Function.Basic

/-!
# Rows of text

A row of cells with a cursor, wide enough for all that is printed on it. `print` moves the cursor to
a column and prints a text there, which leaves the cursor behind it.
-/

structure Row (α : Type*) where
  cell : ℕ → α
  curx : ℕ

namespace Row

variable {α : Type*}

def put (row : Row α) (x : ℕ) (c : α) : Row α :=
  { cell := Function.update row.cell x c, curx := x + 1 }

def print (row : Row α) (x : ℕ) : List α → Row α
  | [] => { row with curx := x }
  | c :: cs => print (row.put x c) (x + 1) cs

/-- The cells `x`, …, `x + n - 1`. -/
def text (row : Row α) (x n : ℕ) : List α := (List.range n).map fun i => row.cell (x + i)

/-- Single characters, each at its own column. -/
def fill (row : Row α) (x : ℕ) (c : ℕ → α) (n : ℕ) : Row α :=
  (List.range n).foldl (fun row i => row.print (x + i) [c i]) row

/-- A character printed at the cursor, a number of times. -/
def trail (row : Row α) (c : α) : ℕ → Row α
  | 0 => row
  | n + 1 => (row.print row.curx [c]).trail c n

/-! ## Printing -/

theorem cell_put (row : Row α) (x : ℕ) (c : α) (m : ℕ) :
    (row.put x c).cell m = if m = x then c else row.cell m := Function.update_apply _ _ _ _

@[simp] theorem curx_print : ∀ (text : List α) (row : Row α) (x : ℕ),
    (row.print x text).curx = x + text.length
  | [], _, _ => rfl
  | _ :: cs, row, x => by
    rw [print, curx_print cs, List.length_cons]
    omega

theorem cell_print : ∀ (text : List α) (row : Row α) (x m : ℕ), (row.print x text).cell m
      = if m < x then row.cell m else text.getD (m - x) (row.cell m)
  | [], row, x, m => by
    rw [print, List.getD_nil, ite_self]
  | c :: cs, row, x, m => by
    rw [print, cell_print cs, cell_put]
    rcases Nat.lt_trichotomy m x with hm | rfl | hm
    · rw [if_pos (by omega), if_neg (by omega), if_pos hm]
    · rw [if_pos (by omega), if_pos rfl, if_neg (by omega), Nat.sub_self, List.getD_cons_zero]
    · obtain ⟨d, rfl⟩ : ∃ d, m = x + 1 + d := ⟨m - (x + 1), by omega⟩
      rw [if_neg (by omega), if_neg (by omega), if_neg (by omega),
        show x + 1 + d - (x + 1) = d by omega, show x + 1 + d - x = d + 1 by omega,
        List.getD_cons_succ]

/-- Printing leaves what is before and behind the text. -/
theorem cell_print_of_outside {row : Row α} {x m : ℕ} {text : List α}
    (h : m < x ∨ x + text.length ≤ m) : (row.print x text).cell m = row.cell m := by
  rw [cell_print]
  split_ifs with hm
  · rfl
  · rw [List.getD_eq_getElem?_getD, List.getElem?_eq_none (by omega), Option.getD_none]

theorem length_text (row : Row α) (x n : ℕ) : (row.text x n).length = n := by
  rw [text, List.length_map, List.length_range]

theorem getElem?_text (row : Row α) {x n i : ℕ} (h : i < n) :
    (row.text x n)[i]? = some (row.cell (x + i)) := by
  rw [text, List.getElem?_map, List.getElem?_range h, Option.map_some]

theorem text_congr {row row' : Row α} {x n : ℕ}
    (h : ∀ i < n, row.cell (x + i) = row'.cell (x + i)) : row.text x n = row'.text x n :=
  List.map_congr_left fun i hi => h i (List.mem_range.1 hi)

theorem text_add (row : Row α) (x m n : ℕ) :
    row.text x (m + n) = row.text x m ++ row.text (x + m) n := by
  rw [text, List.range_add, List.map_append, List.map_map]
  exact congrArg _ (List.map_congr_left fun i _ => by rw [Function.comp_apply, Nat.add_assoc])

theorem text_eq_append {row : Row α} {x m n : ℕ} {a b : List α}
    (h : row.text x (m + n) = a ++ b) (hm : a.length = m) :
    row.text x m = a ∧ row.text (x + m) n = b := by
  rw [text_add] at h
  exact List.append_inj h (by rw [length_text, hm])

theorem text_print (row : Row α) (x : ℕ) (text : List α) :
    (row.print x text).text x text.length = text := by
  refine List.ext_getElem (length_text _ _ _) fun i _ hi => ?_
  simp only [Row.text, List.getElem_map, List.getElem_range]
  rw [cell_print, if_neg (by omega),
    Nat.add_sub_cancel_left, List.getD_eq_getElem?_getD,
    List.getElem?_eq_getElem hi, Option.getD_some]

theorem text_print_of_outside {row : Row α} {x y n : ℕ} {text : List α}
    (h : y + n ≤ x ∨ x + text.length ≤ y) : (row.print x text).text y n = row.text y n :=
  text_congr fun i hi => cell_print_of_outside (by omega)

theorem text_replicate {row : Row α} {c : α} {x n : ℕ} (h : ∀ i < n, row.cell (x + i) = c) :
    row.text x n = List.replicate n c := by
  rw [text, List.eq_replicate_iff]
  refine ⟨by rw [List.length_map, List.length_range], fun b hb => ?_⟩
  obtain ⟨i, hi, rfl⟩ := List.mem_map.1 hb
  exact h i (List.mem_range.1 hi)

theorem print_append : ∀ (a b : List α) (row : Row α) (x : ℕ),
    row.print x (a ++ b) = (row.print x a).print (x + a.length) b
  | [], b, row, x => by
    rcases b with _ | ⟨c, b⟩ <;> rfl
  | c :: a, b, row, x => by
    rw [List.cons_append, print, print_append a, print, List.length_cons]
    congr 1
    omega

/-! ## Loops -/

/-- A loop that prints something is one print; a loop that does not leaves the cursor. -/
theorem fill_eq (row : Row α) (x : ℕ) (c : ℕ → α) :
    ∀ n, row.fill x c n = if n = 0 then row else row.print x ((List.range n).map c)
  | 0 => rfl
  | n + 1 => by
    rw [if_neg n.succ_ne_zero, fill, List.range_succ, List.foldl_concat, List.map_append,
      print_append, List.length_map, List.length_range]
    change (row.fill x c n).print (x + n) [c n] = _
    rw [fill_eq row x c n]
    split_ifs with hn
    · subst hn
      rfl
    · rfl

theorem trail_eq (c : α) : ∀ (n : ℕ) (row : Row α),
    row.trail c n = row.print row.curx (List.replicate n c)
  | 0, _ => rfl
  | n + 1, row => by
    rw [trail, trail_eq c n, curx_print]
    exact (print_append [c] (List.replicate n c) row row.curx).symm

end Row
