import Mathlib.Data.Set.Lattice
import Mathlib.Data.Set.Prod
import Mathlib.Order.CompletePartialOrder
import Mathlib.Order.Interval.Set.Disjoint
import Mathlib.Order.Interval.Set.LinearOrder

/-!
# Rectangles of cells

A cell is a row and a column. `Tiles parts whole` says that the parts do not overlap and have
together just the cells of the whole; parts put below each other or side by side tile what their
wholes make up together.
-/

structure Rect where
  y : ℕ
  x : ℕ
  height : ℕ
  width : ℕ
deriving DecidableEq, Repr

namespace Rect

def cells (r : Rect) : Set (ℕ × ℕ) :=
  Set.Ico r.y (r.y + r.height) ×ˢ Set.Ico r.x (r.x + r.width)

theorem cells_nonempty {r : Rect} (hh : 0 < r.height) (hw : 0 < r.width) : r.cells.Nonempty :=
  ⟨(r.y, r.x), ⟨le_rfl, Nat.lt_add_of_pos_right hh⟩, le_rfl, Nat.lt_add_of_pos_right hw⟩

theorem cells_subset {r s : Rect} (hy : s.y ≤ r.y) (hh : r.y + r.height ≤ s.y + s.height)
    (hx : s.x ≤ r.x) (hw : r.x + r.width ≤ s.x + s.width) : r.cells ⊆ s.cells :=
  Set.prod_mono (Set.Ico_subset_Ico hy hh) (Set.Ico_subset_Ico hx hw)

/-! ## Tiles -/

structure Tiles (parts : List Rect) (whole : Rect) : Prop where
  disjoint : parts.Pairwise fun r s => Disjoint r.cells s.cells
  cover : ⋃ r ∈ parts, r.cells = whole.cells

theorem tiles_self (r : Rect) : Tiles [r] r := ⟨List.pairwise_singleton _ _, by simp⟩

/-- A whole that falls into two others. -/
theorem Tiles.append {ps qs : List Rect} {p q whole : Rect} (hp : Tiles ps p) (hq : Tiles qs q)
    (hdisjoint : Disjoint p.cells q.cells) (hcover : p.cells ∪ q.cells = whole.cells) :
    Tiles (ps ++ qs) whole := by
  refine ⟨List.pairwise_append.2 ⟨hp.disjoint, hq.disjoint, fun r hr s hs => ?_⟩, ?_⟩
  · have hrp : r.cells ⊆ p.cells := hp.cover ▸ Set.subset_biUnion_of_mem (u := cells) hr
    have hsq : s.cells ⊆ q.cells := hq.cover ▸ Set.subset_biUnion_of_mem (u := cells) hs
    exact hdisjoint.mono hrp hsq
  · rw [← hcover, ← hp.cover, ← hq.cover]
    simp [Set.iUnion_or, Set.iUnion_union_distrib]

/-- One above the other. -/
theorem Tiles.above {ps qs : List Rect} {y x h k w : ℕ} (hp : Tiles ps ⟨y, x, h, w⟩)
    (hq : Tiles qs ⟨y + h, x, k, w⟩) : Tiles (ps ++ qs) ⟨y, x, h + k, w⟩ := by
  refine hp.append hq ?_ ?_
  · exact Set.disjoint_prod.2 (Or.inl Set.Ico_disjoint_Ico_same)
  · rw [cells, cells, ← Set.union_prod, Set.Ico_union_Ico_eq_Ico (by simp) (by simp), cells,
      Nat.add_assoc]

/-- One beside the other. -/
theorem Tiles.beside {ps qs : List Rect} {y x h w v : ℕ} (hp : Tiles ps ⟨y, x, h, w⟩)
    (hq : Tiles qs ⟨y, x + w, h, v⟩) : Tiles (ps ++ qs) ⟨y, x, h, w + v⟩ := by
  refine hp.append hq ?_ ?_
  · exact Set.disjoint_prod.2 (Or.inr Set.Ico_disjoint_Ico_same)
  · rw [cells, cells, ← Set.prod_union, Set.Ico_union_Ico_eq_Ico (by simp) (by simp), cells,
      Nat.add_assoc]

end Rect
