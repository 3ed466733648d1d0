import Amdtop.Layout
import Mathlib.Algebra.Ring.Int.Defs

/-!
# The layout of the windows

On every screen on which each window can have a cell, the four windows tile the content area, and
the area and its border are on the screen (`InitWinLayout_fits`). No subtraction of the layout goes
below zero (`InitWinLayout_exact`).
-/

namespace Amdtop

/-- `DEFAULT_WINDOW_SIZE` percent of the screen, or if that is less than `least` all but the
border. -/
def extent (n least : ℤ) : ℤ := if n * 80 / 100 < least then n - 2 else n * 80 / 100

/-- The fields as integers: `starty`, `startx`, `height`, `width`. -/
def WindowLayout.ints (l : WindowLayout) : ℤ × ℤ × ℤ × ℤ :=
  (l.starty.toNat, l.startx.toNat, l.height.toNat, l.width.toNat)

/-- The fields are what their expressions are in the integers. -/
structure WindowContext.Exact (cols lines : ℤ) (ctx : WindowContext) : Prop where
  width : (ctx.width.toNat : ℤ) = extent cols 112
  height : (ctx.height.toNat : ℤ) = extent lines 42
  startx : (ctx.startx.toNat : ℤ) = (cols - ctx.width.toNat) / 2
  starty : (ctx.starty.toNat : ℤ) = (lines - ctx.height.toNat) / 2
  device : (ctx.layout .device).ints = (0, 0, 6, ↑ctx.width.toNat)
  tab : (ctx.layout .tab).ints = (6, 0, (ctx.height.toNat : ℤ) - 6 - 3, 20)
  main : (ctx.layout .main).ints = 
    (6, 20, (ctx.height.toNat : ℤ) - 6 - 3, (ctx.width.toNat : ℤ) - 20)
  status : (ctx.layout .status).ints = ((ctx.height.toNat : ℤ) - 3, 0, 3, ↑ctx.width.toNat)

theorem ofInt_toNat {n : ℤ} (h0 : 0 ≤ n) (h : n < 2 ^ 32) : ((UInt32.ofInt n).toNat : ℤ) = n := by
  rw [UInt32.ofInt, UInt32.toNat_ofNat', Int.emod_eq_of_lt h0 h]
  omega

theorem extent_bounds {n least k : ℤ} (hn : 10 ≤ n) (hk : k + 2 ≤ n) (hleast : k ≤ least) :
    k ≤ extent n least ∧ extent n least + 2 ≤ n := by
  unfold extent
  split_ifs <;> omega

/-- What is computed in 32 bits, with the comparison there too. -/
theorem extent_toNat {n : ℤ} {least : UInt32} (hn : 10 ≤ n) (hmax : n < 2 ^ 24) :
    ((if UInt32.ofInt ((n * defaultWindowSize).tdiv 100) < least then UInt32.ofInt (n - 2)
      else UInt32.ofInt ((n * defaultWindowSize).tdiv 100)).toNat : ℤ) = extent n least.toNat := by
  have hdiv : (n * defaultWindowSize).tdiv 100 = n * 80 / 100 :=
    Int.tdiv_eq_ediv_of_nonneg (by rw [defaultWindowSize]; omega)
  have hquot := ofInt_toNat (n := n * 80 / 100) (by omega) (by omega)
  have hall := ofInt_toNat (n := n - 2) (by omega) (by omega)
  rw [hdiv, extent]
  by_cases hlt : n * 80 / 100 < (least.toNat : ℤ)
  · rw [if_pos hlt, if_pos (UInt32.lt_iff_toNat_lt.2 (by omega)), hall]
  · rw [if_neg hlt, if_neg (mt UInt32.lt_iff_toNat_lt.1 (by omega)), hquot]

theorem sub_toNat {a b : UInt32} (h : b.toNat ≤ a.toNat) :
    ((a - b).toNat : ℤ) = a.toNat - b.toNat := by
  rw [UInt32.toNat_sub_of_le _ _ (UInt32.le_iff_toNat_le.2 h), Int.ofNat_sub h]

/-- Half of what is left of the screen. -/
theorem margin_toNat {n : ℤ} {a : UInt32} (h : (a.toNat : ℤ) ≤ n) (hmax : n < 2 ^ 24) :
    (((UInt32.ofInt n - a) / 2).toNat : ℤ) = (n - a.toNat) / 2 := by
  have hn := ofInt_toNat (n := n) (by omega) (by omega)
  have hsub := sub_toNat (a := UInt32.ofInt n) (b := a) (by omega)
  have htwo : (2 : UInt32).toNat = 2 := rfl
  rw [UInt32.toNat_div, htwo]
  omega

section Layout

variable {cols lines : ℤ} (hcols : 23 ≤ cols) (hlines : 12 ≤ lines) (hc : cols < 2 ^ 24)
  (hl : lines < 2 ^ 24)

include hcols hlines hc hl

/-- The size of the content area. -/
theorem InitWinLayout_size : ((InitWinLayout cols lines).width.toNat : ℤ) = extent cols 112
    ∧ ((InitWinLayout cols lines).height.toNat : ℤ) = extent lines 42
    ∧ (21 ≤ extent cols 112 ∧ extent cols 112 + 2 ≤ cols)
    ∧ 10 ≤ extent lines 42 ∧ extent lines 42 + 2 ≤ lines :=
  ⟨extent_toNat (by omega) hc, extent_toNat (by omega) hl,
    extent_bounds (by omega) (by omega) (by omega), extent_bounds (by omega) (by omega) (by omega)⟩

theorem InitWinLayout_exact : (InitWinLayout cols lines).Exact cols lines := by
  obtain ⟨hwidth, hheight, ⟨hw, hwc⟩, hh, hhl⟩ := InitWinLayout_size hcols hlines hc hl
  have hdevice : windowDeviceHeight.toNat = 6 := rfl
  have htab : windowTabWidth.toNat = 20 := rfl
  have hstatus : windowStatusHeight.toNat = 3 := rfl
  have hwidth' : ((InitWinLayout cols lines).width.toNat : ℤ) ≤ cols := by omega
  have hheight' : ((InitWinLayout cols lines).height.toNat : ℤ) ≤ lines := by omega
  have hmain : windowTabWidth.toNat ≤ (InitWinLayout cols lines).width.toNat := by omega
  have hlast : windowStatusHeight.toNat ≤ (InitWinLayout cols lines).height.toNat := by omega
  have hfirst : windowDeviceHeight.toNat ≤ (InitWinLayout cols lines).height.toNat := by omega
  have hrest := sub_toNat hfirst
  have hmiddle : windowStatusHeight.toNat
      ≤ ((InitWinLayout cols lines).height - windowDeviceHeight).toNat := by omega
  have htabHeight : (((InitWinLayout cols lines).layout .tab).height.toNat : ℤ)
      = (InitWinLayout cols lines).height.toNat - 6 - 3 := (sub_toNat hmiddle).trans (by omega)
  refine ⟨hwidth, hheight, margin_toNat hwidth' hc, margin_toNat hheight' hl, rfl, ?_, ?_, ?_⟩
  · exact congrArg (fun height => (6, 0, height, 20)) htabHeight
  · exact congrArg₂ (fun height width => (6, 20, height, width)) htabHeight (sub_toNat hmain)
  · exact congrArg (fun starty => (starty, 0, 3, _)) (sub_toNat hlast)

end Layout

/-! ## The rectangles -/

/-- What a layout promises of a screen. -/
structure WindowContext.Fits (cols lines : ℤ) (ctx : WindowContext) : Prop where
  exact : ctx.Exact cols lines
  nonempty : ∀ win, (ctx.rect win).cells.Nonempty
  tiles : Rect.Tiles (windows.map ctx.rect) ctx.content
  left : 1 ≤ ctx.startx.toNat
  top : 1 ≤ ctx.starty.toNat
  right : (ctx.startx.toNat + ctx.width.toNat : ℤ) ≤ cols - 1
  bottom : (ctx.starty.toNat + ctx.height.toNat : ℤ) ≤ lines - 1
  border : ∀ r ∈ DrawMainWindowBorder ctx, r.cells ⊆ (⟨0, 0, lines.toNat, cols.toNat⟩ : Rect).cells

theorem tiles_windows (y x k v : ℕ) :
    Rect.Tiles [⟨y, x, 6, 20 + v⟩, ⟨y + 6, x, k, 20⟩, ⟨y + 6, x + 20, k, v⟩,
      ⟨y + 6 + k, x, 3, 20 + v⟩] ⟨y, x, 6 + (k + 3), 20 + v⟩ := by
  have hmiddle := (Rect.tiles_self ⟨y + 6, x, k, 20⟩).beside (Rect.tiles_self ⟨y + 6, x + 20, k, v⟩)
  exact (Rect.tiles_self _).above (hmiddle.above (Rect.tiles_self _))

section Rectangles

variable {cols lines : ℤ} {ctx : WindowContext}

theorem add_toNat {a b : UInt32} (h : a.toNat + b.toNat < 2 ^ 32) :
    (a + b).toNat = a.toNat + b.toNat := by
  rw [UInt32.toNat_add, Nat.mod_eq_of_lt h]

/-- A window whose place is within the area. -/
theorem rect_eq {win : WindowType} {y x h w : ℕ}
    (hrows : ctx.starty.toNat + y < 2 ^ 32) (hcolumns : ctx.startx.toNat + x < 2 ^ 32)
    (hints : (ctx.layout win).ints = (↑y, ↑x, ↑h, ↑w)) :
    ctx.rect win = ⟨ctx.starty.toNat + y, ctx.startx.toNat + x, h, w⟩ := by
  simp only [WindowLayout.ints, Prod.mk.injEq, Int.ofNat_inj] at hints
  obtain ⟨rfl, rfl, rfl, rfl⟩ := hints
  rw [WindowContext.rect, add_toNat hrows, add_toNat hcolumns]

/-- An area with room for the windows, where nothing wraps around. -/
structure WindowContext.Room (ctx : WindowContext) (k v : ℕ) : Prop where
  height : ctx.height.toNat = 6 + (k + 3)
  width : ctx.width.toNat = 20 + v
  left : 1 ≤ ctx.startx.toNat
  top : 1 ≤ ctx.starty.toNat
  rows : ctx.starty.toNat + ctx.height.toNat < 2 ^ 24
  columns : ctx.startx.toNat + ctx.width.toNat < 2 ^ 24

theorem rects_eq {k v : ℕ} (hexact : ctx.Exact cols lines) (h : ctx.Room k v) :
    windows.map ctx.rect = [⟨ctx.starty.toNat, ctx.startx.toNat, 6, 20 + v⟩,
      ⟨ctx.starty.toNat + 6, ctx.startx.toNat, k, 20⟩,
      ⟨ctx.starty.toNat + 6, ctx.startx.toNat + 20, k, v⟩,
      ⟨ctx.starty.toNat + 6 + k, ctx.startx.toNat, 3, 20 + v⟩] := by
  obtain ⟨hheight, hwidth, -, -, hrows, hcolumns⟩ := h
  have hdevice := @rect_eq ctx .device 0 0 6 (20 + v)
    (by omega) (by omega) (hexact.device.trans (by simp only [Prod.mk.injEq]; omega))
  have htab := @rect_eq ctx .tab 6 0 k 20
    (by omega) (by omega) (hexact.tab.trans (by simp only [Prod.mk.injEq]; omega))
  have hmain := @rect_eq ctx .main 6 20 k v
    (by omega) (by omega) (hexact.main.trans (by simp only [Prod.mk.injEq]; omega))
  have hstatus := @rect_eq ctx .status (6 + k) 0 3 (20 + v)
    (by omega) (by omega) (hexact.status.trans (by simp only [Prod.mk.injEq]; omega))
  simp only [windows, List.map_cons, List.map_nil, hdevice, htab, hmain, hstatus, Nat.add_zero,
    Nat.add_assoc]

/-- What is drawn around the area is on the screen. -/
theorem border_subset {k v : ℕ} (h : ctx.Room k v)
    (hright : (ctx.startx.toNat + ctx.width.toNat : ℤ) ≤ cols - 1)
    (hbottom : (ctx.starty.toNat + ctx.height.toNat : ℤ) ≤ lines - 1) :
    ∀ r ∈ DrawMainWindowBorder ctx, r.cells ⊆ (⟨0, 0, lines.toNat, cols.toNat⟩ : Rect).cells := by
  obtain ⟨hheight, hwidth, hleft, htop, hrows, hcolumns⟩ := h
  have hone : (1 : UInt32).toNat = 1 := rfl
  have htwo : (2 : UInt32).toNat = 2 := rfl
  have hy := sub_toNat (a := ctx.starty) (b := 1) (by omega)
  have hx := sub_toNat (a := ctx.startx) (b := 1) (by omega)
  have hyend := add_toNat (a := ctx.starty) (b := ctx.height) (by omega)
  have hxend := add_toNat (a := ctx.startx) (b := ctx.width) (by omega)
  have hheight2 := add_toNat (a := ctx.height) (b := 2) (by omega)
  have hwidth2 := add_toNat (a := ctx.width) (b := 2) (by omega)
  simp only [DrawMainWindowBorder, List.forall_mem_cons, loopRect, mvwhline, mvwvline, mvwaddch]
  refine ⟨?_, ?_, ?_, ?_, ?_, ?_, ?_, ?_, ?_, by simp⟩
  all_goals apply Rect.cells_subset <;> dsimp only <;> omega

end Rectangles

theorem InitWinLayout_fits {cols lines : ℤ} (hcols : 23 ≤ cols) (hlines : 12 ≤ lines)
    (hc : cols < 2 ^ 24) (hl : lines < 2 ^ 24) : (InitWinLayout cols lines).Fits cols lines := by
  have hexact := InitWinLayout_exact hcols hlines hc hl
  obtain ⟨hwidth, hheight, hw, hh⟩ := InitWinLayout_size hcols hlines hc hl
  obtain ⟨k, hk⟩ : ∃ k, (InitWinLayout cols lines).height.toNat = 6 + (k + 3) :=
    ⟨(InitWinLayout cols lines).height.toNat - 9, by omega⟩
  obtain ⟨v, hv⟩ : ∃ v, (InitWinLayout cols lines).width.toNat = 20 + v :=
    ⟨(InitWinLayout cols lines).width.toNat - 20, by omega⟩
  have hstartx := hexact.startx
  have hstarty := hexact.starty
  have hroom : (InitWinLayout cols lines).Room k v :=
    ⟨hk, hv, by omega, by omega, by omega, by omega⟩
  have hrects := rects_eq hexact hroom
  refine ⟨hexact, ?_, ?_, hroom.left, hroom.top, by omega, by omega,
    border_subset hroom (by omega) (by omega)⟩
  · intro win
    have hmem := List.mem_map_of_mem (f := (InitWinLayout cols lines).rect)
      (show win ∈ windows by cases win <;> decide)
    rw [hrects] at hmem
    simp only [List.mem_cons, List.not_mem_nil, or_false] at hmem
    obtain h | h | h | h := hmem <;> rw [h] <;> apply Rect.cells_nonempty <;> dsimp only <;> omega
  · rw [hrects, WindowContext.content, hk, hv]
    exact tiles_windows _ _ k v

/-- The least screen, and one for each side of the two switches. -/
theorem InitWinLayout_fits_screens : (InitWinLayout 23 12).Fits 23 12
    ∧ (InitWinLayout 139 53).Fits 139 53 ∧ (InitWinLayout 140 52).Fits 140 52 :=
  ⟨InitWinLayout_fits (by decide) (by decide) (by decide) (by decide),
    InitWinLayout_fits (by decide) (by decide) (by decide) (by decide),
    InitWinLayout_fits (by decide) (by decide) (by decide) (by decide)⟩

end Amdtop
