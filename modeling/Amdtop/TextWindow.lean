import Mathlib.Algebra.Group.Nat.Defs
import Mathlib.Data.List.GetD
import Amdtop.Command
import Amdtop.TextRow

/-!
# Windows of text

A window of cells that does not scroll, with a cursor in it. A character that fills a row takes the
cursor to the next one; in the last cell of the window the output ends with an error. A text of
printed characters and tabs that ends before the edge is `expand` in one row (`addstr_row`).
-/

structure TextWindow where
  maxy : ℕ
  maxx : ℕ
  cell : ℕ → ℕ → Char
  cury : ℕ := 0
  curx : ℕ := 0
  maxy_lt : maxy < 2 ^ 31

namespace TextWindow

open Cmd

/-- The cursor is set, if the place is in the window. -/
def move (w : TextWindow) (y x : ℕ) : TextWindow :=
  if y < w.maxy ∧ x < w.maxx then { w with cury := y, curx := x } else w

def row (w : TextWindow) (y : ℕ) : Row Char := ⟨w.cell y, w.curx⟩

/-- The cursor's row becomes another one. -/
def setRow (w : TextWindow) (row : Row Char) : TextWindow :=
  { w with cell := Function.update w.cell w.cury row.cell, curx := row.curx }

def error : ℤ := -1

/-- The cursor goes to the next row. In the last one it stays at the edge. -/
def wrap : Cmd TextWindow := fun w =>
  if w.cury + 1 < w.maxy then (0, { w with cury := w.cury + 1, curx := 0 })
  else (error, { w with curx := w.maxx - 1 })

/-- A cell is filled. -/
def literal (c : Char) : Cmd TextWindow := fun w =>
  let w := w.setRow ((w.row w.cury).put w.curx c)
  if w.curx < w.maxx then (0, w) else wrap w

/-- The row is cleared from the cursor on. -/
def clrtoeol (w : TextWindow) : TextWindow :=
  { w with cell := Function.update w.cell w.cury fun x =>
      if x < w.curx then w.cell w.cury x else ' ' }

/-- The number of cells to the next tab stop. -/
def tabWidth (x : ℕ) : ℕ := 8 - x % 8

/-- Without a locale the bytes are printable as in ISO-8859-1. -/
def isControl (c : Char) : Bool := c.toNat < 32 || 127 ≤ c.toNat && c.toNat < 160

/-- The second cell of a control character. -/
def visibleControl (c : Char) : Char :=
  if c.toNat = 127 then '?' else if c.toNat < 32 then Char.ofNat (c.toNat + 64)
  else Char.ofNat (c.toNat - 64)

/-- A character on the screen: a tab behind the edge goes to the next row, and the other control
characters are shown by two cells, but for those that move the cursor. -/
def addch (c : Char) : Cmd TextWindow := fun w =>
  if !isControl c then literal c w
  else if c = '\t' then
    if w.curx + tabWidth w.curx < w.maxx ∨ w.cury + 1 = w.maxy then
      block (List.replicate (tabWidth w.curx) (literal ' ')) w
    else wrap w.clrtoeol
  else if c = '\n' then
    if w.cury + 1 < w.maxy then wrap w.clrtoeol else (error, w.clrtoeol)
  else if c = '\r' then (0, { w with curx := 0 })
  else if c = '\x08' then (0, { w with curx := w.curx - 1 })
  else block [literal (if c.toNat < 128 then '^' else '~'), literal (visibleControl c)] w

/-- The characters of a text, up to the first error. -/
def addstr (text : List Char) : Cmd TextWindow := block (text.map addch)

/-! ## Text on one row -/

/-- A character that is shown as it is, or a tab. -/
def isPlain (c : Char) : Bool := c = '\t' || !isControl c

/-- The cells of a text that begins in column `x`. -/
def expand : ℕ → List Char → List Char
  | _, [] => []
  | x, c :: cs =>
    if c = '\t' then List.replicate (tabWidth x) ' ' ++ expand (x + tabWidth x) cs
    else c :: expand (x + 1) cs

theorem tabWidth_pos (x : ℕ) : 0 < tabWidth x := by
  unfold tabWidth
  omega

theorem expand_append : ∀ (a b : List Char) (x : ℕ),
    expand x (a ++ b) = expand x a ++ expand (x + (expand x a).length) b
  | [], _, _ => rfl
  | c :: a, b, x => by
    rw [List.cons_append, expand, expand]
    split_ifs
    · rw [expand_append a b, List.append_assoc, List.length_append, List.length_replicate,
        Nat.add_assoc]
    · rw [expand_append a b, List.length_cons, List.cons_append, Nat.add_right_comm]
      rfl

/-- Without a tab every character is a cell. -/
theorem expand_eq : ∀ {text : List Char}, '\t' ∉ text → ∀ x, expand x text = text
  | [], _, _ => rfl
  | c :: cs, h, x => by
    obtain ⟨hc, hcs⟩ := not_or.1 (List.mem_cons.not.1 h)
    rw [expand, if_neg (Ne.symm hc), expand_eq hcs]

/-- A character is a cell at least. -/
theorem expand_ne_nil {text : List Char} (h : text ≠ []) (x : ℕ) : expand x text ≠ [] := by
  rcases text with _ | ⟨c, cs⟩
  · exact absurd rfl h
  · rw [expand]
    split_ifs
    · obtain ⟨n, hn⟩ := Nat.exists_eq_add_of_lt (tabWidth_pos x)
      rw [hn, List.replicate_succ]
      exact List.cons_ne_nil _ _
    · exact List.cons_ne_nil _ _

section Print

variable {w : TextWindow}

theorem literal_row {c : Char} (h : w.curx + 1 < w.maxx) :
    literal c w = (0, w.setRow ((w.row w.cury).put w.curx c)) := if_pos h

theorem setRow_setRow (row row' : Row Char) : (w.setRow row).setRow row' = w.setRow row' := by
  simp [setRow]

theorem row_setRow (row : Row Char) : (w.setRow row).row w.cury = row := by
  simp [setRow, TextWindow.row]

/-- What is printed before the edge is printed on the row. -/
theorem literals_row : ∀ (text : List Char) {w : TextWindow}, w.curx + text.length < w.maxx →
    block (text.map literal) w = (0, w.setRow ((w.row w.cury).print w.curx text))
  | [], w, _ => by
    simp [block, give, setRow, TextWindow.row, Row.print]
  | c :: cs, w, h => by
    rw [List.length_cons] at h
    have hliteral := literal_row (w := w) (c := c) (by omega)
    rw [List.map_cons, block, andThen_ok (by rw [hliteral]), hliteral]
    have hrest := literals_row cs (w := w.setRow ((w.row w.cury).put w.curx c))
      (show w.curx + 1 + cs.length < w.maxx by omega)
    rw [hrest, setRow_setRow]
    refine congrArg _ (congrArg w.setRow ?_)
    exact congrArg (Row.print · (w.curx + 1) cs) (row_setRow _)

theorem addch_row {c : Char} (hc : isPlain c = true)
    (h : w.curx + (expand w.curx [c]).length < w.maxx) :
    addch c w = block ((expand w.curx [c]).map literal) w := by
  unfold addch
  unfold expand at h ⊢
  by_cases htab : c = '\t'
  · subst htab
    rw [if_pos rfl, expand, List.append_nil, List.length_replicate] at h
    rw [if_neg (by decide), if_pos rfl, if_pos (Or.inl h), if_pos rfl, expand, List.append_nil,
      List.map_replicate]
  · have hcontrol : (!isControl c) = true := by simpa [isPlain, htab] using hc
    rw [if_pos hcontrol, if_neg htab, expand, List.map_singleton, block_singleton]

/-- A text that ends before the edge is its cells, printed on the row. -/
theorem addstr_row : ∀ (text : List Char) {w : TextWindow}, (∀ c ∈ text, isPlain c = true) →
    w.curx + (expand w.curx text).length < w.maxx →
    addstr text w = (0, w.setRow ((w.row w.cury).print w.curx (expand w.curx text)))
  | [], _, _, h => literals_row [] h
  | c :: cs, w, hplain, h => by
    obtain ⟨hc, hcs⟩ := List.forall_mem_cons.1 hplain
    have hsplit : expand w.curx (c :: cs) = expand w.curx [c]
        ++ expand (w.curx + (expand w.curx [c]).length) cs := expand_append [c] cs w.curx
    rw [hsplit, List.length_append] at h
    have hroom : w.curx + (expand w.curx [c]).length < w.maxx := by omega
    have hch := (addch_row hc hroom).trans (literals_row _ hroom)
    rw [addstr, List.map_cons, block, andThen_ok (by rw [hch]), hch, hsplit, Row.print_append]
    set w' := w.setRow ((w.row w.cury).print w.curx (expand w.curx [c])) with hw'
    have hcur : w'.curx = w.curx + (expand w.curx [c]).length := Row.curx_print _ _ _
    have hrow : w'.row w'.cury = (w.row w.cury).print w.curx (expand w.curx [c]) := row_setRow _
    have hrest := addstr_row cs (w := w') hcs (by
      rw [hcur]
      change w.curx + _ + _ < w.maxx
      omega)
    rw [addstr, hcur, hrow] at hrest
    rw [hrest, hw', setRow_setRow]

end Print

/-! ## Text at a place -/

/-- A move and a text. Outside the window the cursor stays where it was, and the text is printed
there. -/
def mvprint (w : TextWindow) (y x : ℕ) (text : List Char) : TextWindow :=
  (addstr text (w.move y x)).2

/-- The window has a size. -/
def HasSize (maxy maxx : ℕ) (w : TextWindow) : Prop := w.maxy = maxy ∧ w.maxx = maxx

theorem keeps_size (maxy maxx : ℕ) (text : List Char) :
    Keeps (HasSize maxy maxx) (addstr text) := by
  have hwrap : Keeps (HasSize maxy maxx) wrap := fun w h => by
    unfold wrap
    split_ifs <;> exact h
  have hliteral : ∀ c, Keeps (HasSize maxy maxx) (literal c) := fun c w h => by
    unfold literal
    dsimp only
    split_ifs
    · exact h
    · exact hwrap _ h
  refine keeps_map text fun c _ w h => ?_
  unfold addch
  split_ifs
  · exact hliteral c w h
  · refine keeps_block _ (fun f hf => ?_) w h
    rw [List.eq_of_mem_replicate hf]
    exact hliteral ' '
  · exact hwrap _ h
  · exact hwrap _ h
  all_goals first | exact h | exact ((hliteral _).cons ((hliteral _).cons keeps_nil)) w h

/-- A print leaves the size of the window. -/
theorem mvprint_size (w : TextWindow) (y x : ℕ) (text : List Char) :
    (w.mvprint y x text).maxy = w.maxy ∧ (w.mvprint y x text).maxx = w.maxx := by
  refine keeps_size w.maxy w.maxx text (w.move y x) ?_
  unfold move
  split_ifs <;> exact ⟨rfl, rfl⟩

/-- The text has no control character but tabs, and ends before the edge. -/
def Fits (maxx x : ℕ) (text : List Char) : Prop :=
  (∀ c ∈ text, isPlain c = true) ∧ x + (expand x text).length < maxx

instance (maxx x : ℕ) (text : List Char) : Decidable (Fits maxx x text) :=
  decidable_of_iff (text.all isPlain = true ∧ x + (expand x text).length < maxx)
    (and_congr_left' List.all_eq_true)

/-- A text without tabs and other control characters. -/
def Visible (text : List Char) : Prop := ∀ c ∈ text, isControl c = false

instance (text : List Char) : Decidable (Visible text) :=
  decidable_of_iff (text.all (fun c => isControl c = false) = true) (by simp [Visible])

theorem Visible.plain {text : List Char} (h : Visible text) :
    ∀ c ∈ text, isPlain c = true := fun c hc => by
  simp [isPlain, h c hc]

theorem Visible.expand {text : List Char} (h : Visible text) (x : ℕ) :
    TextWindow.expand x text = text :=
  expand_eq (fun htab => absurd (h _ htab) (by decide)) x

theorem Visible.append {a b : List Char} (ha : Visible a) (hb : Visible b) : Visible (a ++ b) :=
  fun c hc => (List.mem_append.1 hc).elim (ha c) (hb c)

/-- A text without control characters fits just if it ends before the edge. -/
theorem Visible.fits_iff {text : List Char} (h : Visible text) (maxx x : ℕ) :
    Fits maxx x text ↔ x + text.length < maxx := by
  unfold Fits
  rw [h.expand]
  exact and_iff_right h.plain

section Place

variable {w : TextWindow} {y x : ℕ} {text : List Char}

theorem mvprint_eq (hy : y < w.maxy) (hfits : Fits w.maxx x text) : w.mvprint y x text
    = { w with
        cell := Function.update w.cell y ((⟨w.cell y, x⟩ : Row Char).print x (expand x text)).cell
        cury := y
        curx := x + (expand x text).length } := by
  have hx : x < w.maxx := Nat.lt_of_le_of_lt (Nat.le_add_right _ _) hfits.2
  unfold mvprint move
  rw [if_pos ⟨hy, hx⟩, addstr_row text (w := { w with cury := y, curx := x }) hfits.1 hfits.2]
  unfold setRow
  rw [Row.curx_print]
  rfl

theorem cell_mvprint (hy : y < w.maxy) (hfits : Fits w.maxx x text) (y' m : ℕ) :
    (w.mvprint y x text).cell y' m
      = if y' = y ∧ x ≤ m ∧ m < x + (expand x text).length then (expand x text).getD (m - x) ' '
        else w.cell y' m := by
  rw [mvprint_eq hy hfits]
  dsimp only
  rw [Function.update_apply]
  by_cases hrow : y' = y
  · subst hrow
    rw [if_pos rfl]
    by_cases hm : x ≤ m ∧ m < x + (expand x text).length
    · have hlt : m - x < (expand x text).length := by omega
      rw [if_pos ⟨rfl, hm⟩, Row.cell_print, if_neg (by omega), List.getD_eq_getElem _ _ hlt,
        List.getD_eq_getElem _ _ hlt]
    · rw [if_neg fun h => hm h.2, Row.cell_print_of_outside (by omega)]
  · rw [if_neg hrow, if_neg fun h => hrow h.1]

end Place

/-! ## Behind a place -/

/-- A window without text. -/
def blank (maxy maxx : ℕ) (h : maxy < 2 ^ 31) : TextWindow where
  maxy
  maxx
  cell _ _ := ' '
  maxy_lt := h

/-- The window has changed at most from the place on, and the cursor is not before it. -/
structure Behind (w₀ : TextWindow) (y x : ℕ) (w : TextWindow) : Prop where
  maxy : w.maxy = w₀.maxy
  maxx : w.maxx = w₀.maxx
  cell : ∀ y' x', (y' < y ∨ y' = y ∧ x' < x) → w.cell y' x' = w₀.cell y' x'
  cursor : y < w.cury ∨ y = w.cury ∧ x ≤ w.curx

section Behind

variable {w₀ : TextWindow} {y x : ℕ} (hx : x < w₀.maxx)

include hx in
theorem Behind.wrap : Keeps (Behind w₀ y x) wrap := by
  intro w h
  have hcursor := h.cursor
  unfold TextWindow.wrap
  split_ifs
  · exact { h with cursor := Or.inl (show y < w.cury + 1 by omega) }
  · refine { h with cursor := hcursor.imp_right fun heq => ⟨heq.1, ?_⟩ }
    change x ≤ w.maxx - 1
    rw [h.maxx]
    exact Nat.le_sub_one_of_lt hx

include hx in
theorem Behind.literal (c : Char) : Keeps (Behind w₀ y x) (literal c) := by
  intro w h
  have hcursor := h.cursor
  have hput : Behind w₀ y x (w.setRow ((w.row w.cury).put w.curx c)) := by
    refine ⟨h.maxy, h.maxx, fun y' x' hbefore => ?_, ?_⟩
    · rw [← h.cell y' x' hbefore]
      unfold setRow
      dsimp only
      rw [Function.update_apply]
      split_ifs with hrow
      · subst hrow
        exact Function.update_of_ne (show x' ≠ w.curx by omega) _ _
      · rfl
    · exact hcursor.imp_right fun heq => ⟨heq.1, Nat.le_succ_of_le heq.2⟩
  unfold TextWindow.literal
  dsimp only
  split_ifs
  · exact hput
  · exact Behind.wrap hx _ hput

theorem Behind.clrtoeol {w : TextWindow} (h : Behind w₀ y x w) : Behind w₀ y x w.clrtoeol := by
  have hcursor := h.cursor
  refine { h with cell := fun y' x' hbefore => ?_ }
  rw [← h.cell y' x' hbefore]
  unfold TextWindow.clrtoeol
  dsimp only
  rw [Function.update_apply]
  split_ifs with hrow
  · subst hrow
    exact if_pos (show x' < w.curx by omega)
  · rfl

include hx in
/-- Only control characters go back. -/
theorem Behind.addch {c : Char} (hc : isPlain c = true) : Keeps (Behind w₀ y x) (addch c) := by
  intro w h
  unfold TextWindow.addch
  unfold isPlain at hc
  split_ifs with hcontrol htab
  · exact Behind.literal hx c w h
  · refine keeps_block _ (fun f hf => ?_) w h
    rw [List.eq_of_mem_replicate hf]
    exact Behind.literal hx ' '
  · exact Behind.wrap hx _ h.clrtoeol
  all_goals
    rw [Bool.not_eq_true] at hcontrol
    simp [hcontrol, htab] at hc

include hx in
theorem Behind.addstr {text : List Char} (htext : ∀ c ∈ text, isPlain c = true) :
    Keeps (Behind w₀ y x) (addstr text) :=
  keeps_map text fun c hc => Behind.addch hx (htext c hc)

include hx in
/-- A text printed behind the place leaves what is before it. -/
theorem Behind.mvprint {w : TextWindow} (h : Behind w₀ y x w) {r c : ℕ}
    (hplace : y < r ∨ y = r ∧ x ≤ c) {text : List Char} (htext : ∀ c ∈ text, isPlain c = true) :
    Behind w₀ y x (w.mvprint r c text) := by
  refine Behind.addstr hx htext _ ?_
  unfold move
  split_ifs
  · exact { h with cursor := hplace }
  · exact h

/-- Wherever the cursor was, a text in the window behind the place leaves what is before it. -/
theorem behind_mvprint {w : TextWindow} (hx : x < w.maxx) {r c : ℕ} (hr : r < w.maxy)
    (hc : c < w.maxx) (hplace : y < r ∨ y = r ∧ x ≤ c) {text : List Char}
    (htext : ∀ c ∈ text, isPlain c = true) : Behind w y x (w.mvprint r c text) := by
  refine Behind.addstr hx htext _ ?_
  rw [move, if_pos ⟨hr, hc⟩]
  exact ⟨rfl, rfl, fun _ _ _ => rfl, hplace⟩

end Behind

/-! ## Texts at their places -/

/-- A text and its place. -/
structure Placed where
  y : ℕ
  x : ℕ
  text : List Char
deriving DecidableEq, Repr

namespace Placed

/-- The column behind the text. -/
def stop (p : Placed) : ℕ := p.x + (expand p.x p.text).length

/-- The text is on one row of the window and ends before the edge. -/
def Inside (w : TextWindow) (p : Placed) : Prop := p.y < w.maxy ∧ Fits w.maxx p.x p.text

instance (w : TextWindow) (p : Placed) : Decidable (p.Inside w) :=
  inferInstanceAs (Decidable (_ ∧ _))

/-- No cell belongs to both texts. -/
def Apart (p q : Placed) : Prop := p.y ≠ q.y ∨ p.stop ≤ q.x ∨ q.stop ≤ p.x

/-- The text is seen at its place. -/
structure Shown (w : TextWindow) (p : Placed) : Prop where
  inside : p.Inside w
  cells : ∀ m, p.x ≤ m → m < p.stop → w.cell p.y m = (expand p.x p.text).getD (m - p.x) ' '

def print (w : TextWindow) (p : Placed) : TextWindow := w.mvprint p.y p.x p.text

variable {w : TextWindow} {p q : Placed}

theorem maxy_print (w : TextWindow) (p : Placed) : (print w p).maxy = w.maxy :=
  (mvprint_size w _ _ _).1

theorem inside_print : q.Inside (print w p) ↔ q.Inside w := by
  obtain ⟨hmaxy, hmaxx⟩ := mvprint_size w p.y p.x p.text
  unfold Inside print
  rw [hmaxy, hmaxx]

theorem shown_print (h : p.Inside w) : p.Shown (print w p) where
  inside := inside_print.2 h
  cells m hx hstop := by
    unfold print
    rw [cell_mvprint h.1 h.2, if_pos ⟨rfl, hx, hstop⟩]

/-- A text printed beside another leaves it. -/
theorem Shown.print (hq : q.Shown w) (h : p.Inside w) (hapart : p.Apart q) :
    q.Shown (Placed.print w p) where
  inside := inside_print.2 hq.inside
  cells m hx hstop := by
    have hout : ¬ (q.y = p.y ∧ p.x ≤ m ∧ m < p.x + (expand p.x p.text).length) := by
      rintro ⟨hy, hm⟩
      rcases hapart with hne | hlt | hlt
      · exact hne hy.symm
      all_goals
        unfold stop at *
        omega
    unfold Placed.print
    rw [cell_mvprint h.1 h.2, if_neg hout, hq.cells m hx hstop]

theorem Shown.prints : ∀ (l : List Placed) {w : TextWindow}, q.Shown w →
    (∀ p ∈ l, p.Inside w ∧ p.Apart q) → q.Shown (l.foldl Placed.print w)
  | [], _, h, _ => h
  | p :: l, _, h, hl => by
    rw [List.forall_mem_cons] at hl
    exact Shown.prints l (h.print hl.1.1 hl.1.2) fun p' hp' =>
      ⟨inside_print.2 (hl.2 p' hp').1, (hl.2 p' hp').2⟩

/-- Texts apart from each other are all seen when they have been printed. -/
theorem shown_prints : ∀ (l : List Placed) {w : TextWindow}, (∀ p ∈ l, p.Inside w) →
    l.Pairwise (fun p q => q.Apart p) → ∀ p ∈ l, p.Shown (l.foldl Placed.print w)
  | [], _, _, _ => fun _ h => nomatch h
  | p :: l, w, hin, hapart => by
    rw [List.forall_mem_cons] at hin
    obtain ⟨hp, hl⟩ := List.pairwise_cons.1 hapart
    have hin' : ∀ q ∈ l, q.Inside (Placed.print w p) := fun q hq => inside_print.2 (hin.2 q hq)
    refine List.forall_mem_cons.2 ⟨?_, fun q hq => shown_prints l hin' hl q hq⟩
    exact (shown_print hin.1).prints l fun q hq => ⟨hin' q hq, hp q hq⟩

/-- What is printed behind a text leaves it. -/
theorem Shown.behind {w' : TextWindow} (h : p.Shown w) (hw : Behind w p.y p.stop w') :
    p.Shown w' where
  inside := by
    unfold Inside
    rw [hw.maxy, hw.maxx]
    exact h.inside
  cells m hm hstop := by
    rw [hw.cell p.y m (Or.inr ⟨rfl, hstop⟩)]
    exact h.cells m hm hstop

/-- Of the texts of one length only one is seen at a place. -/
theorem Shown.unique (hp : p.Shown w) (hq : q.Shown w) (hy : p.y = q.y) (hx : p.x = q.x)
    (hlen : (expand p.x p.text).length = (expand q.x q.text).length) :
    expand p.x p.text = expand q.x q.text := by
  refine List.ext_getElem hlen fun i hi hi' => ?_
  have hcell := hp.cells (p.x + i) (Nat.le_add_right _ _) (Nat.add_lt_add_left hi p.x)
  have hcell' := hq.cells (q.x + i) (Nat.le_add_right _ _) (Nat.add_lt_add_left hi' q.x)
  rw [Nat.add_sub_cancel_left, List.getD_eq_getElem _ _ hi] at hcell
  rw [Nat.add_sub_cancel_left, List.getD_eq_getElem _ _ hi'] at hcell'
  rw [← hcell, ← hcell', hy, hx]

end Placed

end TextWindow
