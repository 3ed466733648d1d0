import Amdtop.Proofs.Stdio
import Amdtop.WindowBar

/-!
# What a bar shows

The fill loop leaves the cursor where the percentage belongs, if it runs at all: a bar with four
cells between its brackets shows its percentage behind its label (`bar_row_iff`).
-/

namespace Amdtop

open Stdio

/-! ## Percentages -/

theorem length_percentText {p : ℕ} (h : p ≤ 100) : (percentText p).length = 4 := by
  have hlen : (decimal p).length ≤ 3 := (length_decimal_le (by decide)).2 (by omega)
  rw [percentText, List.length_append, padLeft, List.length_leftpad, Nat.max_eq_left hlen]
  rfl

theorem getElem?_percentText {p : ℕ} (h : p ≤ 100) : (percentText p)[3]? = some '%' := by
  have hlen := length_percentText h
  rw [percentText, List.length_append] at hlen
  have hpad : (padLeft 3 (decimal p)).length = 3 := Nat.succ_injective hlen
  rw [percentText, List.getElem?_append_right hpad.le, hpad]
  rfl

theorem padLeft_decimal_inj {n p q : ℕ} (h : padLeft n (decimal p) = padLeft n (decimal q)) :
    p = q := by
  have hdrop : ∀ k, (padLeft n (decimal k)).dropWhile isSpace = decimal k := fun k => by
    obtain ⟨hne, hgraph⟩ := decimal_graph k
    rcases hd : decimal k with _ | ⟨c, cs⟩
    · exact absurd hd hne
    · rw [padLeft, List.leftpad]
      exact dropWhile_blanks (blanks_replicate _) (hgraph c (by rw [hd]; exact List.mem_cons_self)) cs
  rw [← numeral_decimal p, ← hdrop p, h, hdrop q, numeral_decimal]

theorem percentText_inj {p q : ℕ} (h : percentText p = percentText q) : p = q :=
  padLeft_decimal_inj (List.append_inj_left' h rfl)

/-- A call's maximum and value. -/
abbrev BarCall := UInt32 × UInt32

/-- The percentage a call should show. -/
def BarCall.percent (d : BarCall) : ℕ := 100 * min d.2.toNat d.1.toNat / d.1.toNat

theorem toNat_MIN (x y : UInt32) : (MIN x y).toNat = min x.toNat y.toNat := by
  unfold MIN
  split_ifs with h
  · exact (Nat.min_eq_left (UInt32.lt_iff_toNat_lt.1 h).le).symm
  · exact (Nat.min_eq_right (UInt32.le_iff_toNat_le.1 (UInt32.not_lt.1 h))).symm

/-- The percentage of a call, as computed. -/
def BarCall.drawn (d : BarCall) : ℕ := 100 * min d.2.toNat d.1.toNat % 2 ^ 32 / d.1.toNat

theorem toNat_percent (d : BarCall) : (MIN d.2 d.1 * 100 / d.1).toNat = d.drawn := by
  rw [UInt32.toNat_div, UInt32.toNat_mul, toNat_MIN, BarCall.drawn, Nat.mul_comm 100]
  rfl

theorem BarCall.drawn_le (d : BarCall) : d.drawn ≤ 100 := by
  unfold BarCall.drawn
  have hmin : min d.2.toNat d.1.toNat ≤ d.1.toNat := Nat.min_le_right _ _
  rcases Nat.lt_or_ge (100 * min d.2.toNat d.1.toNat) (2 ^ 32) with h | h
  · rw [Nat.mod_eq_of_lt h]
    exact Nat.div_le_of_le_mul (by omega)
  · exact Nat.div_le_of_le_mul (by
      have hmod := Nat.mod_lt (100 * min d.2.toNat d.1.toNat) (show 0 < 2 ^ 32 by decide)
      omega)

theorem BarCall.percent_le (d : BarCall) : d.percent ≤ 100 :=
  Nat.div_le_of_le_mul (by
    have hmin : min d.2.toNat d.1.toNat ≤ d.1.toNat := Nat.min_le_right _ _
    omega)

/-- A product that wraps gives another percentage. -/
theorem BarCall.drawn_eq_iff {d : BarCall} (hmax : d.1 ≠ 0) :
    d.drawn = d.percent ↔ 100 * min d.2.toNat d.1.toNat < 2 ^ 32 := by
  have hpos : 0 < d.1.toNat := Nat.pos_of_ne_zero fun h => hmax (UInt32.toNat_inj.1 h)
  have hlt : d.1.toNat < 2 ^ 32 := d.1.toNat_lt
  unfold BarCall.drawn BarCall.percent
  constructor
  · intro h
    by_contra hge
    have hdiv := Nat.div_add_mod (100 * min d.2.toNat d.1.toNat) (2 ^ 32)
    have hone : 1 ≤ 100 * min d.2.toNat d.1.toNat / 2 ^ 32 :=
      (Nat.le_div_iff_mul_le (by decide)).2 (by omega)
    have hstep : 100 * min d.2.toNat d.1.toNat % 2 ^ 32 / d.1.toNat + 1
        ≤ 100 * min d.2.toNat d.1.toNat / d.1.toNat := by
      rw [← Nat.add_div_right _ hpos]
      exact Nat.div_le_div_right (by omega)
    omega
  · exact fun h => by rw [Nat.mod_eq_of_lt h]

/-! ## One call -/

/-- The label a call stores. -/
def BarCall.label (unit : List Char) (d : BarCall) : List Char :=
  ({ unit, max := d.1, value := MIN d.2 d.1 } : WindowBar).label

/-- The column behind the left bracket. -/
def barColumn (name : List Char) (x : ℕ) : ℕ := x + (padRight 5 name).length + 3

/-- A bar with its brackets, and of its labels the one printed last, with blanks up to the length
of the longest. -/
structure Framed (name unit : List Char) (x width : ℕ) (longest : ℕ) (label : List Char)
    (bar : WindowBar) (row : Row Char) : Prop where
  unit_eq : bar.unit = unit
  width_eq : bar.width.toNat = width
  barStart : bar.barStart = barColumn name x
  labelStart : bar.labelStart = barColumn name x + width + 1
  size : bar.lastLabelSize = label.length
  left : row.cell (barColumn name x - 1) = '['
  right : row.cell (barColumn name x + width) = ']'
  shown : row.text (barColumn name x + width + 1) longest = label.rightpad longest ' '
  le : label.length ≤ longest

/-- Fill cells, and the percentage in the last four. -/
structure Filled (start width percent : ℕ) (row : Row Char) : Prop where
  fill : ∀ i < width - 4, row.cell (start + i) = '|' ∨ row.cell (start + i) = ' '
  percent : row.text (start + (width - 4)) 4 = percentText percent

/-- The bar a call stores. -/
def BarCall.store (d : BarCall) (bar : WindowBar) : WindowBar :=
  (bar.setMaxValue d.1).draw (MIN d.2 d.1)

/-- The bar a call leaves. -/
def BarCall.after (d : BarCall) (bar : WindowBar) : WindowBar :=
  { d.store bar with lastLabelSize := (d.label bar.unit).length }

theorem setValue_eq {bar : WindowBar} (d : BarCall) (hmax : d.1 ≠ 0) (hwidth : 4 ≤ bar.width.toNat) :
    (bar.setMaxValue d.1).setValue d.2
      = if labelBuffer ≤ (d.label bar.unit).length then none
        else some (d.after bar) := by
  have hnarrow : ¬ (bar.setMaxValue d.1).width < 4 := fun h =>
    absurd (UInt32.lt_iff_toNat_lt.1 h) (not_lt.2 hwidth)
  exact (if_neg hmax).trans (if_neg hnarrow)

theorem barSetValue_eq {bar : WindowBar} (d : BarCall) (hmax : d.1 ≠ 0)
    (hwidth : 4 ≤ bar.width.toNat) (row : Row Char) :
    barSetValue (bar.setMaxValue d.1) d.2 row
      = if labelBuffer ≤ (d.label bar.unit).length then none
        else some (d.after bar, barUpdateLabel (d.store bar) (barPrint (d.store bar) row)) := by
  have hnarrow : ¬ (bar.setMaxValue d.1).width < 4 := fun h =>
    absurd (UInt32.lt_iff_toNat_lt.1 h) (not_lt.2 hwidth)
  rw [barSetValue, setValue_eq d hmax hwidth]
  split_ifs
  · rfl
  · rfl

/-- The fill loop leaves the cursor behind it, if there is a cell to fill. -/
theorem barPrint_eq (bar : WindowBar) (hwidth : 5 ≤ bar.width.toNat) (row : Row Char) :
    ∃ fill : List Char, fill.length = bar.width.toNat - 4 ∧ (∀ c ∈ fill, c = '|' ∨ c = ' ')
      ∧ barPrint bar row
        = row.print bar.barStart (fill ++ percentText bar.percent.toNat) := by
  refine ⟨(List.range (bar.width.toNat - 4)).map
    (fun i => if i < (bar.count bar.percent).toNat then '|' else ' '), ?_, ?_, ?_⟩
  · rw [List.length_map, List.length_range]
  · intro c hc
    obtain ⟨i, -, rfl⟩ := List.mem_map.1 hc
    split_ifs
    · exact Or.inl rfl
    · exact Or.inr rfl
  · rw [Row.print_append, barPrint, Row.fill_eq, if_neg (by omega), Row.curx_print]

theorem barUpdateLabel_eq (bar : WindowBar) (row : Row Char) :
    barUpdateLabel bar row = row.print bar.labelStart (bar.label.rightpad bar.lastLabelSize ' ') := by
  rw [barUpdateLabel, Row.trail_eq, Row.curx_print, ← Row.print_append]
  rfl

/-- All a call prints. -/
theorem barSetValue_print {bar : WindowBar} (d : BarCall) (hmax : d.1 ≠ 0)
    (hwidth : 5 ≤ bar.width.toNat) (hfits : (d.label bar.unit).length < labelBuffer)
    (row : Row Char) :
    ∃ fill : List Char, fill.length = bar.width.toNat - 4 ∧ (∀ c ∈ fill, c = '|' ∨ c = ' ')
      ∧ barSetValue (bar.setMaxValue d.1) d.2 row
        = some (d.after bar, (row.print bar.barStart (fill ++ percentText d.drawn)).print bar.labelStart
            ((d.label bar.unit).rightpad bar.lastLabelSize ' ')) := by
  have hpercent : (d.store bar).percent.toNat = d.drawn := toNat_percent d
  obtain ⟨fill, hlen, hfill, hprint⟩ := barPrint_eq (d.store bar) hwidth row
  refine ⟨fill, hlen, hfill, ?_⟩
  rw [barSetValue_eq d hmax (by omega), if_neg (not_le.2 hfits), barUpdateLabel_eq, hprint, hpercent]
  rfl

/-- A text printed with blanks over an older one, where blanks follow both. -/
theorem text_print_rightpad {row : Row Char} {x longest : ℕ} {old new : List Char}
    (hold : row.text x longest = old.rightpad longest ' ') (hle : old.length ≤ longest) :
    (row.print x (new.rightpad old.length ' ')).text x (max longest new.length)
      = new.rightpad (max longest new.length) ' ' := by
  have hlen : (new.rightpad old.length ' ').length = max old.length new.length :=
    List.length_rightpad
  obtain ⟨rest, hrest⟩ : ∃ rest, max longest new.length = (max old.length new.length) + rest :=
    ⟨max longest new.length - max old.length new.length, by omega⟩
  have htail : ∀ i < rest, (row.print x (new.rightpad old.length ' ')).cell
      (x + max old.length new.length + i) = ' ' := by
    intro i hi
    rw [Row.cell_print_of_outside (by omega)]
    have hget := congrArg (fun l => l[max old.length new.length + i]?) hold
    rw [Row.getElem?_text row (by omega), List.rightpad, List.getElem?_append_right (by omega),
      List.getElem?_replicate_of_lt (by omega)] at hget
    rw [Nat.add_assoc]
    exact Option.some.inj hget
  rw [hrest, Row.text_add, Row.text_replicate htail, ← hlen, Row.text_print, hlen, ← hrest,
    List.rightpad, List.rightpad, List.append_assoc, List.replicate_append_replicate]
  congr 2
  omega

section Step

variable {name unit label : List Char} {x width longest : ℕ} {bar : WindowBar} {row : Row Char}
  (h : Framed name unit x width longest label bar row)

include h in
/-- The bar is framed again after a call, filled, and shows the label and the percentage the call
has computed. -/
theorem barSetValue_framed (hwidth : 5 ≤ width) (d : BarCall) (hmax : d.1 ≠ 0)
    (hfits : (d.label unit).length < labelBuffer) :
    ∃ bar' row', barSetValue (bar.setMaxValue d.1) d.2 row = some (bar', row')
      ∧ Framed name unit x width (max longest (d.label unit).length) (d.label unit) bar' row'
      ∧ Filled (barColumn name x) width d.drawn row' := by
  obtain ⟨fill, hlen, hfill, hcall⟩ := barSetValue_print d hmax (by rw [h.width_eq]; exact hwidth)
    (by rw [h.unit_eq]; exact hfits) row
  rw [h.unit_eq, h.barStart, h.labelStart, h.size] at hcall
  rw [h.width_eq] at hlen
  have htext : (fill ++ percentText d.drawn).length = width := by
    rw [List.length_append, hlen, length_percentText d.drawn_le]
    omega
  -- what is printed between the brackets, and what from the label's column on
  generalize hinner : row.print (barColumn name x) (fill ++ percentText d.drawn) = inner at hcall
  have houtside : ∀ m, m < barColumn name x ∨ barColumn name x + width ≤ m →
      inner.cell m = row.cell m := fun m hm => by
    rw [← hinner, Row.cell_print_of_outside (by omega)]
  have hbefore : ∀ m, m ≤ barColumn name x + width →
      (inner.print (barColumn name x + width + 1) ((d.label unit).rightpad label.length ' ')).cell m
        = inner.cell m := fun m hm => Row.cell_print_of_outside (Or.inl (by omega))
  have hinside : ∀ y n, y + n ≤ barColumn name x + width →
      (inner.print (barColumn name x + width + 1) ((d.label unit).rightpad label.length ' ')).text y n
        = inner.text y n := fun y n hy => Row.text_print_of_outside (Or.inl (by omega))
  obtain ⟨hcells, hpercent⟩ : inner.text (barColumn name x) (width - 4) = fill
      ∧ inner.text (barColumn name x + (width - 4)) 4 = percentText d.drawn :=
    Row.text_eq_append (by
      rw [show width - 4 + 4 = (fill ++ percentText d.drawn).length by omega, ← hinner,
        Row.text_print]) hlen
  refine ⟨_, _, hcall,
    ⟨h.unit_eq, h.width_eq, h.barStart, h.labelStart,
      congrArg (fun u => (d.label u).length) h.unit_eq, ?_, ?_, ?_, Nat.le_max_right _ _⟩,
    ⟨fun i hi => ?_, ?_⟩⟩
  · rw [hbefore _ (by omega), houtside _ (by unfold barColumn; omega)]
    exact h.left
  · rw [hbefore _ le_rfl, houtside _ (Or.inr le_rfl)]
    exact h.right
  · refine text_print_rightpad ?_ h.le
    rw [← h.shown]
    exact Row.text_congr fun i _ => houtside _ (by omega)
  · rw [hbefore _ (by omega)]
    have hget := congrArg (fun l => l[i]?) hcells
    rw [Row.getElem?_text inner hi, List.getElem?_eq_getElem (by omega)] at hget
    rw [Option.some.inj hget]
    exact hfill _ (List.getElem_mem _)
  · rw [hinside _ _ (by omega)]
    exact hpercent

end Step

/-! ## Sequences of calls -/

/-- A bar's calls, each with the maximum set before it. -/
def barDraws : List BarCall → WindowBar × Row Char → Option (WindowBar × Row Char)
  | [], s => some s
  | d :: draws, (bar, row) => (barSetValue (bar.setMaxValue d.1) d.2 row).bind (barDraws draws)

/-- The call `barCreate` makes. -/
def createCall : BarCall := (100, 0)

def longestLabel (unit : List Char) (draws : List BarCall) (longest : ℕ) : ℕ :=
  draws.foldl (fun n d => max n (d.label unit).length) longest

theorem barDraws_framed {name unit : List Char} {x width : ℕ} (hwidth : 5 ≤ width) :
    ∀ (draws : List BarCall) (d₀ : BarCall) {longest : ℕ} {bar : WindowBar} {row : Row Char},
      (∀ d ∈ draws, d.1 ≠ 0) → (∀ d ∈ draws, (d.label unit).length < labelBuffer) →
      Framed name unit x width longest (d₀.label unit) bar row →
      Filled (barColumn name x) width d₀.drawn row →
      ∃ bar' row', barDraws draws (bar, row) = some (bar', row')
        ∧ Framed name unit x width (longestLabel unit draws longest)
          ((draws.getLastD d₀).label unit) bar' row'
        ∧ Filled (barColumn name x) width (draws.getLastD d₀).drawn row'
  | [], _, _, bar, row, _, _, hframe, hfill => ⟨bar, row, rfl, hframe, hfill⟩
  | d :: draws, d₀, longest, bar, row, hmax, hfits, hframe, _ => by
    rw [List.forall_mem_cons] at hmax hfits
    obtain ⟨bar', row', hcall, hframe', hfill'⟩ :=
      barSetValue_framed hframe hwidth d hmax.1 hfits.1
    rw [barDraws, hcall, List.getLastD_cons]
    exact barDraws_framed hwidth draws d hmax.2 hfits.2 hframe' hfill'

/-- With four cells, nothing is printed between the brackets. -/
theorem barDraws_narrow (column : ℕ) :
    ∀ (draws : List BarCall) {bar bar' : WindowBar} {row row' : Row Char},
      (∀ d ∈ draws, d.1 ≠ 0) → bar.width.toNat = 4 → column ≤ bar.labelStart → column ≤ row.curx →
      barDraws draws (bar, row) = some (bar', row') → ∀ m < column, row'.cell m = row.cell m
  | [], _, _, _, _, _, _, _, _, hrun => by
    cases hrun
    exact fun _ _ => rfl
  | d :: draws, bar, bar', row, row', hmax, hwidth, hlabel, hcurx, hrun => by
    rw [List.forall_mem_cons] at hmax
    rw [barDraws, barSetValue_eq d hmax.1 hwidth.ge] at hrun
    split_ifs at hrun with hlong
    · cases hrun
    have hprint : barPrint (d.store bar) row = row.print row.curx (percentText d.drawn) := by
      rw [barPrint, Row.fill_eq, if_pos (by rw [show (d.store bar).width = bar.width from rfl,
        hwidth]), ← toNat_percent d]
      rfl
    rw [hprint, barUpdateLabel_eq, Option.bind_some] at hrun
    intro m hm
    refine (barDraws_narrow column draws hmax.2 ?_ ?_ ?_ hrun m hm).trans ?_
    · exact hwidth
    · exact hlabel
    · rw [Row.curx_print]
      exact hlabel.trans (Nat.le_add_right _ _)
    · have hlabel' : column ≤ (d.store bar).labelStart := hlabel
      rw [Row.cell_print_of_outside (Or.inl (hm.trans_le hlabel')),
        Row.cell_print_of_outside (Or.inl (hm.trans_le hcurx))]

/-- A call whose label does not fit ends a run. -/
theorem barDraws_fits {unit : List Char} : ∀ (draws : List BarCall) {bar : WindowBar}
    {row : Row Char} {s : WindowBar × Row Char}, (∀ d ∈ draws, d.1 ≠ 0) →
      4 ≤ bar.width.toNat → bar.unit = unit → barDraws draws (bar, row) = some s →
      ∀ d ∈ draws, (d.label unit).length < labelBuffer
  | [], _, _, _, _, _, _, _ => fun _ hd => absurd hd List.not_mem_nil
  | d :: draws, bar, row, s, hmax, hwidth, hunit, hrun => by
    rw [List.forall_mem_cons] at hmax
    rw [barDraws, barSetValue_eq d hmax.1 hwidth, hunit] at hrun
    split_ifs at hrun with hlong
    · cases hrun
    · rw [Option.bind_some] at hrun
      refine List.forall_mem_cons.2 ⟨not_le.1 hlong, barDraws_fits draws hmax.2 ?_ ?_ hrun⟩
      · exact hwidth
      · exact hunit

/-! ## What is shown -/

section Shown

variable (name unit : List Char) (y x width : UInt32) (draws : List BarCall)

/-- A bar made, and then called. -/
def barAfter (row : Row Char) : Option (WindowBar × Row Char) :=
  (barCreate name unit y x width row).bind (barDraws draws)

theorem barAfter_eq (row : Row Char) : barAfter name unit y x width draws row
    = (barFrame name unit y x width row).bind (barDraws (createCall :: draws)) := by
  rw [barAfter, barCreate, Option.bind_assoc]
  rfl

/-- What the row should hold after the calls. -/
structure BarShown (row : Row Char) : Prop where
  left : row.cell (barColumn name x.toNat - 1) = '['
  right : row.cell (barColumn name x.toNat + width.toNat) = ']'
  filled : Filled (barColumn name x.toNat) width.toNat (draws.getLastD createCall).percent row
  label : row.text (barColumn name x.toNat + width.toNat + 1)
      (longestLabel unit (createCall :: draws) 0)
    = ((draws.getLastD createCall).label unit).rightpad (longestLabel unit (createCall :: draws) 0) ' '

/-- The bar shows what it should, whatever was on the row before it. -/
def BarRight : Prop := ∀ row : Row Char, ∃ bar' row',
  barAfter name unit y x width draws row = some (bar', row')
    ∧ BarShown name unit x width draws row'

/-- There is a cell to fill, the texts fit their buffers, and the last product fits 32 bits. -/
structure BarFits : Prop where
  name_lt : name.length < barNameSize
  width_le : 5 ≤ width.toNat
  labels : ∀ d ∈ createCall :: draws, (d.label unit).length < labelBuffer
  product : 100 * min (draws.getLastD createCall).2.toNat (draws.getLastD createCall).1.toNat < 2 ^ 32

variable {name unit y x width draws}

theorem barFrame_eq (hname : name.length < barNameSize) (hunit : unit.length < barNameSize)
    (row : Row Char) : ∃ bar' row', barFrame name unit y x width row = some (bar', row')
      ∧ Framed name unit x.toNat width.toNat 0 [] bar' row'
      ∧ row'.curx = barColumn name x.toNat + width.toNat + 1
      ∧ ∀ m, barColumn name x.toNat ≤ m → m < barColumn name x.toNat + width.toNat →
        row'.cell m = row.cell m := by
  have hcolumn : (row.print x.toNat (padRight 5 name ++ " :[".toList)).curx
      = barColumn name x.toNat := by
    rw [Row.curx_print, List.length_append, barColumn, Nat.add_assoc]
    rfl
  have hlen : (padRight 5 name ++ " :[".toList).length = (padRight 5 name).length + 3 :=
    List.length_append
  have hframe : barFrame name unit y x width row = some
      ({ name, unit, y, x, width, barStart := barColumn name x.toNat
         labelStart := barColumn name x.toNat + width.toNat + 1 },
        (row.print x.toNat (padRight 5 name ++ " :[".toList)).print
          (barColumn name x.toNat + width.toNat) [']']) := by
    rw [barFrame, if_neg (not_or.2 ⟨not_le.2 hname, not_le.2 hunit⟩), ← hcolumn]
    rfl
  have hcol : barColumn name x.toNat = x.toNat + (padRight 5 name).length + 3 := rfl
  refine ⟨_, _, hframe, ⟨rfl, rfl, rfl, rfl, rfl, ?_, ?_, rfl, le_rfl⟩, Row.curx_print _ _ _,
    fun m hle hlt => ?_⟩
  · rw [Row.cell_print_of_outside (Or.inl (by omega)), Row.cell_print, if_neg (by omega),
      List.getD_eq_getElem?_getD, List.getElem?_append_right (by omega),
      show barColumn name x.toNat - 1 - x.toNat - (padRight 5 name).length = 2 by omega]
    rfl
  · rw [Row.cell_print, if_neg (by omega), Nat.sub_self]
    rfl
  · rw [Row.cell_print_of_outside (Or.inl hlt), Row.cell_print_of_outside (Or.inr (by omega))]

/-- What is shown, with the percentage as computed. -/
theorem barAfter_shown (hname : name.length < barNameSize) (hwidth : 5 ≤ width.toNat)
    (hmax : ∀ d ∈ draws, d.1 ≠ 0)
    (hlabels : ∀ d ∈ createCall :: draws, (d.label unit).length < labelBuffer) (row : Row Char) :
    ∃ bar' row', barAfter name unit y x width draws row = some (bar', row')
      ∧ Framed name unit x.toNat width.toNat (longestLabel unit (createCall :: draws) 0)
        ((draws.getLastD createCall).label unit) bar' row'
      ∧ Filled (barColumn name x.toNat) width.toNat (draws.getLastD createCall).drawn row' := by
  have hunit : unit.length < barNameSize := by
    have hlen := hlabels createCall List.mem_cons_self
    unfold BarCall.label WindowBar.label at hlen
    simp only [List.length_append, List.length_cons, padRight, List.length_rightpad] at hlen
    exact (le_max_right 5 _).trans_lt (lt_of_le_of_lt (by omega) (hlen.trans (by decide)))
  obtain ⟨bar, row', hframe, hframed, -⟩ := barFrame_eq (y := y) hname hunit row
  rw [barAfter_eq, hframe, Option.bind_some]
  rw [List.forall_mem_cons] at hlabels
  obtain ⟨bar₁, row₁, hcall, hframed₁, hfilled₁⟩ :=
    barSetValue_framed hframed hwidth createCall (by decide) hlabels.1
  rw [barDraws, hcall, Option.bind_some]
  exact barDraws_framed hwidth draws createCall hmax hlabels.2 hframed₁ hfilled₁

/-- A bar of four cells or more shows what it should on every row exactly if it has a fifth, the
texts fit, and the percentage of the last value is computed without a wrap. -/
theorem bar_row_iff (hwidth : 4 ≤ width.toNat) (hmax : ∀ d ∈ draws, d.1 ≠ 0) :
    BarRight name unit y x width draws ↔ BarFits name unit width draws := by
  have hcreate : ∀ d ∈ createCall :: draws, d.1 ≠ 0 := List.forall_mem_cons.2 ⟨by decide, hmax⟩
  have hlast : draws.getLastD createCall ∈ createCall :: draws := List.getLastD_mem_cons
  constructor
  · intro hright
    obtain ⟨bar', row', hafter, hshown⟩ := hright ⟨fun _ => ' ', 0⟩
    rw [barAfter_eq] at hafter
    have hnames : name.length < barNameSize ∧ unit.length < barNameSize := by
      by_contra hlong
      rw [barFrame, if_pos (by omega)] at hafter
      cases hafter
    obtain ⟨bar, row, hframe, hframed, hcurx, hinside⟩ :=
      barFrame_eq (y := y) (x := x) hnames.1 hnames.2 ⟨fun _ => ' ', 0⟩
    rw [hframe, Option.bind_some] at hafter
    have hlabels := barDraws_fits _ hcreate (hwidth.trans hframed.width_eq.ge) hframed.unit_eq hafter
    have hwide : 5 ≤ width.toNat := by
      by_contra hnarrow
      have hfour : width.toNat = 4 := by omega
      have hkept := barDraws_narrow (barColumn name x.toNat + 4) _ hcreate
        (hframed.width_eq.trans hfour) (by rw [hframed.labelStart, hfour]; omega)
        (by rw [hcurx, hfour]; omega) hafter (barColumn name x.toNat + 3) (by omega)
      have hpercent := congrArg (·[3]?) hshown.filled.percent
      rw [hfour, getElem?_percentText (BarCall.percent_le _), Row.getElem?_text _ (by decide)]
        at hpercent
      have hcell := Option.some.inj hpercent
      rw [Nat.sub_self, Nat.add_zero, hkept, hinside _ (by omega) (by omega)] at hcell
      exact absurd (show ' ' = '%' from hcell) (by decide)
    refine ⟨hnames.1, hwide, hlabels, (BarCall.drawn_eq_iff (hcreate _ hlast)).1 ?_⟩
    obtain ⟨bar₂, row₂, hafter₂, -, hfilled⟩ :=
      barAfter_shown (y := y) (x := x) hnames.1 hwide hmax hlabels ⟨fun _ => ' ', 0⟩
    rw [barAfter_eq, hframe, Option.bind_some, hafter] at hafter₂
    obtain ⟨rfl, rfl⟩ := Prod.mk.inj (Option.some.inj hafter₂)
    exact percentText_inj (hfilled.percent.symm.trans hshown.filled.percent)
  · intro hfits row
    obtain ⟨bar', row', hafter, hframed, hfilled⟩ :=
      barAfter_shown (y := y) hfits.name_lt hfits.width_le hmax hfits.labels row
    rw [(BarCall.drawn_eq_iff (hcreate _ hlast)).2 hfits.product] at hfilled
    exact ⟨bar', row', hafter, hframed.left, hframed.right, hfilled, hframed.shown⟩

end Shown

theorem bar_row_iff_wide : BarRight "GFX".toList "MHz".toList 3 4 20 [(2000, 1500), (2000, 300)] :=
  (bar_row_iff (by decide)
    (List.forall_mem_cons.2 ⟨by decide, List.forall_mem_singleton.2 (by decide)⟩)).2
    ⟨by decide, by decide, List.forall_mem_cons.2 ⟨by decide,
      List.forall_mem_cons.2 ⟨by decide, List.forall_mem_singleton.2 (by decide)⟩⟩, by decide⟩

theorem bar_row_narrow : ¬ ∀ (name unit : List Char) (y x width : UInt32) (draws : List BarCall),
    name.length < barNameSize → (∀ d ∈ createCall :: draws, (d.label unit).length < labelBuffer) →
    4 ≤ width.toNat → (∀ d ∈ draws, d.1 ≠ 0) → BarRight name unit y x width draws := by
  intro h
  obtain ⟨bar, row, hafter, hshown⟩ := h "GFX".toList "MHz".toList 3 3 4 [] (by decide)
    (List.forall_mem_singleton.2 (by decide)) (by decide) (List.forall_mem_nil _) ⟨fun _ => ' ', 0⟩
  have hcell : (barAfter "GFX".toList "MHz".toList 3 3 4 [] ⟨fun _ => ' ', 0⟩).map
      (fun s => s.2.text (barColumn "GFX".toList 3) 4) = some "    ".toList := by decide
  rw [hafter] at hcell
  have hblank : percentText 0 = "    ".toList :=
    hshown.filled.percent.symm.trans (Option.some.inj hcell)
  exact absurd hblank (by decide)

end Amdtop
