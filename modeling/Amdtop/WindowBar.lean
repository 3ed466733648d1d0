import Amdtop.Stdio
import Amdtop.TextRow

/-!
# Bars

A bar on a row of a window: its name, a pair of brackets with the fill and the percentage between
them, and the label. `none` is a division by 0 or a write behind a buffer.
-/

namespace Amdtop

open Stdio

inductive ColorType
  | deafult | red | yellow | green
deriving DecidableEq, Repr

structure WindowBar where
  name : List Char := []
  unit : List Char := []
  y : UInt32 := 0
  x : UInt32 := 0
  width : UInt32 := 0
  max : UInt32 := 0
  value : UInt32 := 0
  percent : UInt32 := 0
  barStart : ℕ := 0
  labelStart : ℕ := 0
  lastLabelSize : ℕ := 0
  colorType : ColorType := .deafult
deriving DecidableEq, Repr

/-- The length of `name` and of `unit`. -/
def barNameSize : ℕ := 80

/-- The length of the buffer of a label. -/
def labelBuffer : ℕ := 40

def MIN (x y : UInt32) : UInt32 := if x < y then x else y

/-! ## The bar -/

namespace WindowBar

variable (bar : WindowBar)

/-- `" %5d/%-5d %-5s"` -/
def label : List Char :=
  ' ' :: padLeft 5 (decimalInt bar.value) ++ '/' :: padRight 5 (decimalInt bar.max)
    ++ ' ' :: padRight 5 bar.unit

def setMaxValue (max : UInt32) : WindowBar := { bar with max }

def color (percent : UInt32) : ColorType :=
  if percent < 40 then .green else if percent < 70 then .yellow else .red

/-- What is stored: `percent` is less than `2 ^ 31`, so that no sign comes in. -/
def draw (val : UInt32) : WindowBar :=
  let percent := val * 100 / bar.max
  { bar with value := val, percent, colorType := color percent }

/-- The number of filled cells. -/
def count (percent : UInt32) : UInt32 := bar.width * percent / 100

/-- What `barSetValue` does to the bar. -/
def setValue (value : UInt32) : Option WindowBar :=
  if bar.max = 0 then none
  else if bar.width < 4 then some bar
  else
    let bar := bar.draw (MIN value bar.max)
    if labelBuffer ≤ bar.label.length then none
    else some { bar with lastLabelSize := bar.label.length }

end WindowBar

/-! ## The row -/

/-- `"%3d%%"` -/
def percentText (percent : ℕ) : List Char := padLeft 3 (decimal percent) ++ ['%']

/-- The label, and blanks over what a longer one has left. -/
def barUpdateLabel (bar : WindowBar) (row : Row Char) : Row Char :=
  (row.print bar.labelStart bar.label).trail ' ' (bar.lastLabelSize - bar.label.length)

/-- The fill, and the percentage where the cursor is then. -/
def barPrint (bar : WindowBar) (row : Row Char) : Row Char :=
  let row := row.fill bar.barStart
    (fun i => if i < (bar.count bar.percent).toNat then '|' else ' ') (bar.width.toNat - 4)
  row.print row.curx (percentText bar.percent.toNat)

def barSetValue (bar : WindowBar) (value : UInt32) (row : Row Char) :
    Option (WindowBar × Row Char) :=
  (bar.setValue value).map fun bar' =>
    (bar', if bar.width < 4 then row
      else
        let drawn := bar.draw (MIN value bar.max)
        barUpdateLabel drawn (barPrint drawn row))

/-- The bar `barCreate` sets up, with what it prints for it. -/
def barFrame (name unit : List Char) (y x width : UInt32) (row : Row Char) :
    Option (WindowBar × Row Char) :=
  if barNameSize ≤ name.length ∨ barNameSize ≤ unit.length then none
  else
    let row := row.print x.toNat (padRight 5 name ++ " :[".toList)
    let barStart := row.curx
    let row := row.print (row.curx + width.toNat) [']']
    some ({ name, unit, y, x, width, barStart, labelStart := row.curx }, row)

def barCreate (name unit : List Char) (y x width : UInt32) (row : Row Char) :
    Option (WindowBar × Row Char) :=
  (barFrame name unit y x width row).bind fun (bar, row) =>
    barSetValue (bar.setMaxValue 100) 0 row

end Amdtop
