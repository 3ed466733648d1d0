import Mathlib.Data.List.Range
import Mathlib.Tactic.Cases
import Amdtop.Proofs.Stdio
import Amdtop.Window

/-!
# What the windows show

The marks are in the rows the window has (`printMarks_marked`), and the line of the status window
stays as it is when the load is printed behind it (`printLoad_shown`).
-/

namespace Amdtop

open Stdio TextWindow

/-! ## Numbers -/

theorem u32_eq {x : ℤ} {n : ℕ} (h0 : 0 ≤ x) (hn : x < n) (h : n ≤ 4294967296) : u32 x = x.toNat := by
  rw [u32, Int.emod_eq_of_lt h0 (by omega)]

theorem i32_eq {x : ℤ} (h0 : 0 ≤ x) (h : x < 2147483648) : i32 x = x := by
  rw [i32, Int.bmod_eq_of_le (by omega) (by omega)]

theorem i32_nonneg {n : ℕ} (hn : n < 2 ^ 32) (h : 0 ≤ i32 n) : n < 2 ^ 31 := by
  unfold i32 at h
  rw [Int.bmod_def] at h
  split_ifs at h <;> omega

/-! ## Sizes -/

/-- A window that has rows is as wide as its layout says. -/
theorem windowCols_eq {cols lines : ℤ} {ctx : WindowContext} {layout : WindowLayout}
    (hrows : 0 < windowRows lines ctx layout) (hwidth : 0 < layout.width.toNat) :
    windowCols cols ctx layout = layout.width.toNat ∧ layout.width.toNat < 2 ^ 31 := by
  have hwindow : noWindow ctx layout = false := by
    by_contra hnone
    rw [windowRows, if_pos (Bool.not_eq_false _ ▸ hnone)] at hrows
    exact lt_irrefl 0 hrows
  have hcols : 0 ≤ i32 layout.width.toNat := by
    unfold noWindow at hwindow
    simp only [Bool.or_eq_false_iff, decide_eq_false_iff_not, not_lt] at hwindow
    exact hwindow.1.1.2
  have hlt := i32_nonneg layout.width.toNat_lt hcols
  have heq : i32 layout.width.toNat = layout.width.toNat :=
    i32_eq (Int.natCast_nonneg _) (by omega)
  refine ⟨?_, hlt⟩
  rw [windowCols, if_neg (by rw [hwindow]; exact Bool.false_ne_true), windowLength, heq,
    if_neg (by omega), heq, Int.toNat_natCast]

theorem newwin_size (cols lines : ℤ) (ctx : WindowContext) (win : WindowType) :
    (newwin cols lines ctx win).maxy = windowRows lines ctx (ctx.layout win)
      ∧ (newwin cols lines ctx win).maxx = windowCols cols ctx (ctx.layout win) := by
  unfold newwin TextWindow.blank
  dsimp only
  exact ⟨rfl, rfl⟩

/-- What is printed leaves the size. -/
def SameSize (w w' : TextWindow) : Prop := w'.maxy = w.maxy ∧ w'.maxx = w.maxx

theorem SameSize.trans {w w' w'' : TextWindow} (h : SameSize w w') (h' : SameSize w' w'') :
    SameSize w w'' := ⟨h'.1.trans h.1, h'.2.trans h.2⟩

theorem sameSize_foldl {α : Type} {f : TextWindow → α → TextWindow}
    (hf : ∀ w a, SameSize w (f w a)) : ∀ (l : List α) (w : TextWindow), SameSize w (l.foldl f w)
  | [], _ => ⟨rfl, rfl⟩
  | a :: l, w => (hf w a).trans (sameSize_foldl hf l (f w a))

theorem windowClear_size (w : TextWindow) : SameSize w (windowClear w) := ⟨rfl, rfl⟩

theorem printAt_size (w : TextWindow) (y x : ℤ) (text : List Char) :
    SameSize w (printAt w y x text) := by
  unfold printAt
  split_ifs
  · exact mvprint_size w _ _ text
  · exact keeps_size w.maxy w.maxx text w ⟨rfl, rfl⟩

theorem printLabel_size (w : TextWindow) (l : String × ℕ) : SameSize w (printLabel w l) := by
  unfold printLabel mvwprintw
  split_ifs
  · exact mvprint_size w _ _ _
  · exact ⟨rfl, rfl⟩

theorem printLabels_size (labelNames : List String) (height : UInt32) (w : TextWindow) :
    SameSize w (printLabels labelNames height w) :=
  (sameSize_foldl printLabel_size labelNames.zipIdx w).trans (printAt_size _ _ _ _)

theorem printMarks_size (count : ℕ) (index : ℤ) (w : TextWindow) :
    SameSize w (printMarks count index w) :=
  sameSize_foldl (fun w _ => printAt_size w _ _ _) _ w

theorem printDevices_size (dctx : DeviceContext) :
    ∀ (slots : List ℕ) (w : TextWindow), SameSize w (printDevices dctx slots w).2
  | [], _ => ⟨rfl, rfl⟩
  | i :: slots, w => by
    unfold printDevices
    rcases getDeviceByIndex dctx i with _ | device
    · exact ⟨rfl, rfl⟩
    · have hdevice : SameSize w (printDevice w i device) :=
        (printAt_size w _ _ _).trans (printAt_size _ _ _ _)
      exact hdevice.trans (printDevices_size dctx slots _)

/-- The loop of `deviceInit` comes to its end if no device is missing. -/
theorem printDevices_fst {dctx : DeviceContext} : ∀ {slots : List ℕ} (w : TextWindow),
    (∀ i ∈ slots, getDeviceByIndex dctx i ≠ none) → (printDevices dctx slots w).1 = true
  | [], _, _ => rfl
  | i :: slots, w, h => by
    rw [List.forall_mem_cons] at h
    unfold printDevices
    rcases hi : getDeviceByIndex dctx i with _ | device
    · exact absurd hi h.1
    · exact printDevices_fst _ h.2

theorem printAt_nat (w : TextWindow) (y x : ℕ) (text : List Char) :
    printAt w y x text = w.mvprint y x text :=
  if_pos ⟨Int.natCast_nonneg y, Int.natCast_nonneg x⟩

/-! ## Marks -/

/-- Of the rows of the entries exactly that of the index is in the window and has a `*`. -/
def Marked (window : TextWindow) (count : ℕ) (index : ℤ) : Prop :=
  ∀ i < count, (1 + i < window.maxy ∧ window.cell (1 + i) 1 = '*') ↔ (i : ℤ) = index

/-- The marks of the first `n` entries: where the rows end the cursor stays in the last one, behind
the column of the marks. -/
structure MarksTo (w₀ : TextWindow) (index : ℤ) (n : ℕ) (w : TextWindow) : Prop where
  maxy : w.maxy = w₀.maxy
  maxx : w.maxx = w₀.maxx
  cell : ∀ i < n, 1 + i < w₀.maxy → w.cell (1 + i) 1 = mark index i
  cursor : 0 < n → min n (w₀.maxy - 1) < w.cury ∨ min n (w₀.maxy - 1) = w.cury ∧ 2 ≤ w.curx

section Marks

variable {w₀ w : TextWindow} {index : ℤ} {n : ℕ} (hy : 1 < w₀.maxy) (hx : 2 < w₀.maxx)

theorem visible_mark (index : ℤ) (i : ℕ) : Visible [mark index i] := by
  unfold mark
  split_ifs <;> decide

include hy hx in
theorem MarksTo.step (h : MarksTo w₀ index n w) :
    MarksTo w₀ index (n + 1) (printMark index w n) := by
  have hvisible := visible_mark index n
  have hplace : printMark index w n = w.mvprint (1 + n) 1 [mark index n] := by
    rw [← printAt_nat, Nat.cast_add]
    rfl
  rw [hplace]
  by_cases hrow : 1 + n < w₀.maxy
  · have hin : 1 + n < w.maxy := by rwa [h.maxy]
    have hfits : TextWindow.Fits w.maxx 1 [mark index n] :=
      (hvisible.fits_iff _ _).2 (by rw [h.maxx]; exact hx)
    have hcell := cell_mvprint hin hfits
    have hprint := mvprint_eq hin hfits
    rw [hvisible.expand] at hcell hprint
    have hsize := mvprint_size w (1 + n) 1 [mark index n]
    refine ⟨hsize.1.trans h.maxy, hsize.2.trans h.maxx, fun i hi hi' => ?_, fun _ => ?_⟩
    · rw [hcell]
      rcases Nat.lt_succ_iff_lt_or_eq.1 hi with hlt | rfl
      · rw [if_neg (by omega)]
        exact h.cell i hlt hi'
      · rw [if_pos ⟨rfl, le_rfl, Nat.lt_succ_self 1⟩]
        rfl
    · rw [hprint]
      exact Or.inr ⟨by dsimp only; omega, le_rfl⟩
  · have hcursor := h.cursor (by omega)
    have hbehind : TextWindow.Behind w (w₀.maxy - 1) 2 w := ⟨rfl, rfl, fun _ _ _ => rfl, by omega⟩
    have hnext := hbehind.mvprint (by rwa [h.maxx]) (r := 1 + n) (c := 1) (Or.inl (by omega))
      hvisible.plain
    refine ⟨hnext.maxy.trans h.maxy, hnext.maxx.trans h.maxx, fun i hi hi' => ?_, fun _ => ?_⟩
    · rw [hnext.cell _ _ (by omega)]
      exact h.cell i (by omega) hi'
    · have hend := hnext.cursor
      omega

include hy hx in
theorem marksTo_printMarks : ∀ n, MarksTo w₀ index n (printMarks n index w₀)
  | 0 => ⟨rfl, rfl, fun _ hi => absurd hi (Nat.not_lt_zero _), fun hn => absurd hn (lt_irrefl 0)⟩
  | n + 1 => by
    unfold printMarks
    rw [List.range_succ, List.foldl_append]
    exact (marksTo_printMarks n).step hy hx

end Marks

/-- The marks are right if the row of the index is in the window. -/
theorem printMarks_marked {window : TextWindow} {count : ℕ} {index : ℤ} (hx : 2 < window.maxx)
    (h0 : 0 ≤ index) (hrow : 1 + index < window.maxy) :
    Marked (printMarks count index window) count index := by
  have hmarks : MarksTo window index count (printMarks count index window) :=
    marksTo_printMarks (by omega) hx count
  intro i hi
  rw [hmarks.maxy]
  constructor
  · rintro ⟨hin, hcell⟩
    rw [hmarks.cell i hi hin] at hcell
    by_contra hne
    rw [mark, if_neg hne] at hcell
    exact absurd hcell (by decide)
  · intro hi'
    have hin : 1 + i < window.maxy := by omega
    refine ⟨hin, ?_⟩
    rw [hmarks.cell i hi hin, mark, if_pos hi']

/-! ## The status line -/

/-- A digit is no control character. -/
theorem isControl_of_digit {c : Char} (h : isDigitOf 16 c = true) :
    isControl c = false := by
  unfold isDigitOf digitVal at h
  unfold isControl
  simp only [decide_eq_true_eq] at h
  split_ifs at h with hdigit hlower hupper
  · simp [Char.isDigit, UInt32.le_iff_toNat_le] at hdigit
    simp
    omega
  · simp [Char.le_def, UInt32.le_iff_toNat_le] at hlower
    simp
    omega
  · simp [Char.le_def, UInt32.le_iff_toNat_le] at hupper
    simp
    omega
  · exact absurd h (lt_irrefl 16)

theorem visible_hexPad (n v : ℕ) : Visible (hexPad n v) := fun c hc =>
  isControl_of_digit (isDigitOf_hexPad n v c hc)

theorem visible_decimal (n : ℕ) : Visible (decimal n) := fun c hc =>
  isControl_of_digit (decide_eq_true (Nat.lt_trans (of_decide_eq_true (decimal_digits n c hc))
    (by decide)))

theorem visible_decimalInt (v : UInt32) : Visible (decimalInt v) := by
  unfold decimalInt
  split_ifs
  · exact visible_decimal _
  · exact List.forall_mem_cons.2 ⟨by decide, visible_decimal _⟩

section Status

variable {window : TextWindow} {text : List Char}

theorem printStatus_size (index : ℤ) (device : Device) (w : TextWindow) :
    SameSize w (printStatus index device w) :=
  (printAt_size w _ _ _).trans (printAt_size _ _ _ _)

theorem printLoad_size (width value : UInt32) (w : TextWindow) :
    SameSize w (printLoad width value w) :=
  (printAt_size w _ _ _).trans ((printAt_size _ _ _ _).trans (printAt_size _ _ _ _))

/-- What a text leaves behind it. -/
theorem behind_stop {p : Placed} (h : p.Inside window) :
    TextWindow.Behind (p.print window) p.y p.stop (p.print window) := by
  refine ⟨rfl, rfl, fun _ _ _ => rfl, ?_⟩
  rw [Placed.print, mvprint_eq h.1 h.2]
  exact Or.inr ⟨rfl, le_rfl⟩

theorem plain_append {a b : List Char} (ha : ∀ c ∈ a, isPlain c = true)
    (hb : ∀ c ∈ b, isPlain c = true) : ∀ c ∈ a ++ b, isPlain c = true := fun c hc =>
  (List.mem_append.1 hc).elim (ha c) (hb c)

/-- What is printed behind the address and the name leaves them. -/
theorem printStatus_shown {index : ℤ} {device : Device}
    (htext : statusText index device.domain.toNat device.bus.toNat device.dev.toNat
      device.func.toNat device.deviceName = text)
    (hin : (⟨1, 1, text⟩ : Placed).Inside window)
    (hdriver : device.driverisLoaded = true → ∀ c ∈ device.driverName, isPlain c = true) :
    (⟨1, 1, text⟩ : Placed).Shown (printStatus index device window) := by
  set p : Placed := ⟨1, 1, text⟩
  have hfirst : printAt window 1 1 text = p.print window := printAt_nat window 1 1 text
  have hplain : ∀ c ∈ (if device.driverisLoaded then "-- ".toList ++ device.driverName
      else "No Driver".toList), isPlain c = true := by
    split_ifs with hl
    · exact plain_append (List.all_eq_true.1 (by decide)) (hdriver hl)
    · exact List.all_eq_true.1 (by decide)
  have hbehind := behind_stop hin
  have hcursor := hbehind.cursor
  have hstop : p.stop < (p.print window).maxx := (Placed.inside_print.2 hin).2.2
  have hplace : p.y < 1 ∨ p.y = 1 ∧ p.stop ≤ (p.print window).curx + 1 := by
    refine Or.inr ⟨rfl, ?_⟩
    rw [Placed.print, mvprint_eq hin.1 hin.2]
    exact Nat.le_succ _
  have hlast := hbehind.mvprint hstop hplace hplain
  rw [← printAt_nat, Nat.cast_add, Nat.cast_one] at hlast
  unfold printStatus
  dsimp only
  rw [htext, hfirst]
  exact (Placed.shown_print hin).behind hlast

theorem visible_loadText (value : UInt32) : Visible (loadText value) := by
  refine Visible.append (fun c hc => ?_) (by decide)
  rcases List.mem_append.1 hc with hc | hc
  · rw [List.eq_of_mem_replicate hc]
    decide
  · exact visible_decimalInt value c hc

/-- A load of at most four digits. -/
theorem length_loadText {value : UInt32} (h : value.toNat < 10000) :
    (loadText value).length ≤ 5 := by
  have hlen : (decimal value.toNat).length ≤ 4 := (length_decimal_le (by decide)).2 h
  rw [loadText, decimalInt, if_pos (by omega), List.length_append, padLeft, List.length_leftpad]
  exact Nat.succ_le_succ (max_le (by decide) hlen)

theorem loadStart_eq {width : UInt32} (h12 : 12 ≤ width.toNat) (h : width.toNat < 2 ^ 31) :
    loadStart width = (width.toNat - 12 : ℕ) := by
  have hsub : (width - 11 - 1).toNat = width.toNat - 12 := by
    rw [UInt32.toNat_sub, UInt32.toNat_sub, show (11 : UInt32).toNat = 11 from rfl,
      show (1 : UInt32).toNat = 1 from rfl]
    omega
  unfold loadStart
  rw [hsub]
  exact i32_eq (Int.natCast_nonneg _) (by omega)

/-- The load is printed behind the name, if there is room. -/
theorem printLoad_shown {width value : UInt32} (hwidth : window.maxx = width.toNat)
    (hbound : width.toNat < 2 ^ 31) (hvalue : value.toNat < 10000)
    (hroom : (⟨1, 1, text⟩ : Placed).stop + 12 ≤ width.toNat)
    (h : (⟨1, 1, text⟩ : Placed).Shown window) :
    (⟨1, 1, text⟩ : Placed).Shown (printLoad width value window) := by
  set p : Placed := ⟨1, 1, text⟩
  obtain ⟨x, hx⟩ : ∃ x, width.toNat = x + 12 := ⟨_, (Nat.sub_add_cancel (by omega)).symm⟩
  have hload : Visible "[Load:".toList := by decide
  have hvisible := visible_loadText value
  have hlen := length_loadText hvalue
  have hstart : loadStart width = x := by rw [loadStart_eq (by omega) hbound, hx, Nat.add_sub_cancel]
  have hin : 1 < window.maxy := h.inside.1
  have hstop : p.stop < window.maxx := h.inside.2.2
  have hfirst : TextWindow.Behind window 1 p.stop (window.mvprint 1 x "[Load:".toList) :=
    behind_mvprint hstop hin (by omega) (Or.inr ⟨rfl, by omega⟩) hload.plain
  -- It ends six cells before the edge, so that the second text ends before the edge too.
  have hfits : TextWindow.Fits window.maxx x "[Load:".toList :=
    (hload.fits_iff _ _).2 (show x + 6 < window.maxx by omega)
  have hcurx : (window.mvprint 1 x "[Load:".toList).curx = x + 6 := by
    rw [mvprint_eq hin hfits, hload.expand]
    rfl
  have hprint : printAt window 1 (loadStart width) "[Load:".toList
      = window.mvprint 1 x "[Load:".toList := by
    rw [hstart]
    exact printAt_nat window 1 x _
  generalize window.mvprint 1 x "[Load:".toList = w₁ at hfirst hcurx hprint
  have hin₁ : 1 < w₁.maxy := by rwa [hfirst.maxy]
  have hfits₁ : TextWindow.Fits w₁.maxx (x + 6) (loadText value) :=
    (hvisible.fits_iff _ _).2 (by rw [hfirst.maxx]; omega)
  have hsecond := hfirst.mvprint hstop (r := 1) (c := x + 6) (Or.inr ⟨rfl, by omega⟩)
    hvisible.plain
  have hcurx₁ : p.stop ≤ (w₁.mvprint 1 (x + 6) (loadText value)).curx := by
    rw [mvprint_eq hin₁ hfits₁]
    exact Nat.le_add_right_of_le (by omega)
  have hprint₁ : printAt w₁ 1 w₁.curx (loadText value) = w₁.mvprint 1 (x + 6) (loadText value) := by
    rw [hcurx]
    exact printAt_nat w₁ 1 (x + 6) _
  generalize w₁.mvprint 1 (x + 6) (loadText value) = w₂ at hsecond hcurx₁ hprint₁
  have hlast := hsecond.mvprint hstop (r := 1) (Or.inr ⟨rfl, hcurx₁⟩)
    (show ∀ c ∈ [']'], isPlain c = true from List.all_eq_true.1 (by decide))
  rw [← printAt_nat] at hlast
  unfold printLoad
  dsimp only
  rw [hprint, hprint₁]
  exact h.behind hlast

end Status

end Amdtop
