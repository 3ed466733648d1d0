import Amdtop.DeviceContext
import Amdtop.TextWindow

/-!
# The windows

The layout of the four windows, and what the device, the tab and the status window show: what
`newwin` makes of the layout, and the texts that are printed in them.
-/

namespace Amdtop

open Stdio

/-- The conversion of an `int32_t` to `uint32_t`. -/
def u32 (x : ℤ) : ℕ := (x % 4294967296).toNat

/-- The conversion of an unsigned value to `int32_t`. -/
def i32 (x : ℤ) : ℤ := x.bmod 4294967296

def ms2ns (x : ℕ) : ℕ := x * 1000 * 1000

/-! ## Layout -/

inductive WindowType
  | device | tab | main | status
deriving DecidableEq, Repr

def windows : List WindowType := [.device, .tab, .main, .status]

def WindowType.period : WindowType → ℕ
  | .device => ms2ns 500
  | .tab => ms2ns 1000
  | .main => ms2ns 100
  | .status => ms2ns 500

structure WindowLayout where
  starty : UInt32 := 0
  startx : UInt32 := 0
  width : UInt32 := 0
  height : UInt32 := 0
deriving DecidableEq, Repr

structure WindowContext where
  width : UInt32 := 0
  height : UInt32 := 0
  startx : UInt32 := 0
  starty : UInt32 := 0
  layout : WindowType → WindowLayout := fun _ => {}

def windowDeviceHeight : UInt32 := 6
def windowTabWidth : UInt32 := 20
def windowStatusHeight : UInt32 := 3
def defaultWindowSize : ℤ := 80

def InitWinLayout (cols lines : ℤ) : WindowContext :=
  let width := UInt32.ofInt ((cols * defaultWindowSize).tdiv 100)
  let height := UInt32.ofInt ((lines * defaultWindowSize).tdiv 100)
  let width := if width < 112 then UInt32.ofInt (cols - 2) else width
  let height := if height < 42 then UInt32.ofInt (lines - 2) else height
  let tabHeight := height - windowDeviceHeight - windowStatusHeight
  { width, height
    startx := (UInt32.ofInt cols - width) / 2
    starty := (UInt32.ofInt lines - height) / 2
    layout := fun
      | .device => { startx := 0, starty := 0, height := windowDeviceHeight, width }
      | .tab =>
        { startx := 0, starty := 0 + windowDeviceHeight, height := tabHeight
          width := windowTabWidth }
      | .main =>
        { startx := 0 + windowTabWidth, starty := 0 + windowDeviceHeight, height := tabHeight
          width := width - windowTabWidth }
      | .status =>
        { startx := 0, starty := height - windowStatusHeight, height := windowStatusHeight
          width } }

/-! ## Windows of text -/

/-- A number of rows or columns as `newwin` takes it: 0 is what is left of the screen. -/
def windowLength (size rest : ℤ) : ℕ := (i32 (if size = 0 then rest else size)).toNat

theorem windowLength_lt (size rest : ℤ) : windowLength size rest < 2 ^ 31 := by
  have h := Int.bmod_lt (x := if size = 0 then rest else size) (m := 4294967296) (by decide)
  unfold windowLength i32
  omega

/-- With a negative argument there is no window. -/
def noWindow (ctx : WindowContext) (layout : WindowLayout) : Bool :=
  i32 layout.height.toNat < 0 || i32 layout.width.toNat < 0 ||
    i32 (ctx.starty + layout.starty).toNat < 0 || i32 (ctx.startx + layout.startx).toNat < 0

def windowRows (lines : ℤ) (ctx : WindowContext) (layout : WindowLayout) : ℕ :=
  if noWindow ctx layout then 0
  else windowLength (i32 layout.height.toNat) (lines - i32 (ctx.starty + layout.starty).toNat)

def windowCols (cols : ℤ) (ctx : WindowContext) (layout : WindowLayout) : ℕ :=
  if noWindow ctx layout then 0
  else windowLength (i32 layout.width.toNat) (cols - i32 (ctx.startx + layout.startx).toNat)

theorem windowRows_lt (lines : ℤ) (ctx : WindowContext) (layout : WindowLayout) :
    windowRows lines ctx layout < 2 ^ 31 := by
  unfold windowRows
  split_ifs
  · exact Nat.zero_lt_of_lt (windowLength_lt 0 0)
  · exact windowLength_lt _ _

def newwin (cols lines : ℤ) (ctx : WindowContext) (win : WindowType) : TextWindow :=
  TextWindow.blank (windowRows lines ctx (ctx.layout win)) (windowCols cols ctx (ctx.layout win))
    (windowRows_lt lines ctx (ctx.layout win))

/-- `WindowClear`: blanks in a box, and the cursor in the last cell. -/
def windowClear (window : TextWindow) : TextWindow :=
  { window with
    cell := fun y x =>
      if x = 0 ∨ x + 1 = window.maxx then '|'
      else if y = 0 ∨ y + 1 = window.maxy then '-'
      else ' '
    cury := window.maxy - 1
    curx := window.maxx - 1 }

/-- A print of `mvwprintwc`, with the text its format gives. Without a move the text is printed at
the cursor. -/
def printAt (window : TextWindow) (y x : ℤ) (text : List Char) : TextWindow :=
  if 0 ≤ y ∧ 0 ≤ x then window.mvprint y.toNat x.toNat text
  else (TextWindow.addstr text window).2

/-- `mvwprintw` prints nothing without a move. -/
def mvwprintw (window : TextWindow) (y x : ℕ) (text : List Char) : TextWindow :=
  if y < window.maxy ∧ x < window.maxx then window.mvprint y x text else window

def mark (index : ℤ) (i : ℕ) : Char := if i = index then '*' else ' '

def printMark (index : ℤ) (window : TextWindow) (i : ℕ) : TextWindow :=
  printAt window (1 + i) 1 [mark index i]

/-- The loop of `updateActiveDevice` and `updateActiveTab`. -/
def printMarks (count : ℕ) (index : ℤ) (window : TextWindow) : TextWindow :=
  (List.range count).foldl (printMark index) window

/-! ## The device window -/

/-- `"[%04x:%02x:%02x:%d]"` -/
def addressText (device : Device) : List Char :=
  '[' :: hexPad 4 device.domain.toNat ++ ':' :: hexPad 2 device.bus.toNat ++
    ':' :: hexPad 2 device.dev.toNat ++ ':' :: decimal device.func.toNat ++ [']']

/-- `" %d: %-20s"` -/
def deviceLabel (i : ℕ) (device : Device) : List Char :=
  ' ' :: decimal i ++ ": ".toList ++ padRight 20 device.deviceName

/-- The row of a device, with its address at the right edge. -/
def printDevice (window : TextWindow) (i : ℕ) (device : Device) : TextWindow :=
  let window := printAt window (1 + i) 2 (deviceLabel i device)
  let buf := addressText device
  printAt window (1 + i) (window.maxx - buf.length - 1) buf

/-- The loop of `deviceInit`, and whether it comes to its end. -/
def printDevices (dctx : DeviceContext) : List ℕ → TextWindow → Bool × TextWindow
  | [], window => (true, window)
  | i :: slots, window =>
    match getDeviceByIndex dctx i with
    | none => (false, window)
    | some device => printDevices dctx slots (printDevice window i device)

/-! ## The tab window -/

/-- The row of a tab: `"%2d. %s"` -/
def printLabel (window : TextWindow) (l : String × ℕ) : TextWindow :=
  mvwprintw window (1 + l.2) 3 (padLeft 2 (decimal (l.2 + 1)) ++ ". ".toList ++ l.1.toList)

def printLabels (labelNames : List String) (height : UInt32) (window : TextWindow) : TextWindow :=
  let window := labelNames.zipIdx.foldl printLabel window
  printAt window (i32 (height - 2).toNat) 1 "[h or ? for help!]".toList

/-! ## The status window -/

/-- `"%d: [%04x:%02x:%02x.%d] %s"` -/
def statusText (index : ℤ) (domain bus dev func : ℕ) (deviceName : List Char) : List Char :=
  decimalInt (.ofInt index) ++ ": [".toList ++ hexPad 4 domain ++ ':' :: hexPad 2 bus ++
    ':' :: hexPad 2 dev ++ '.' :: decimal func ++ "] ".toList ++ deviceName

/-- `print_device_info` -/
def printStatus (index : ℤ) (device : Device) (window : TextWindow) : TextWindow :=
  let window := printAt window 1 1 (statusText index device.domain.toNat device.bus.toNat
    device.dev.toNat device.func.toNat device.deviceName)
  printAt window 1 (window.curx + 1)
    (if device.driverisLoaded then "-- ".toList ++ device.driverName else "No Driver".toList)

/-- Where `update_status` begins to print in a window of the layout. -/
def loadStart (width : UInt32) : ℤ := i32 (width - 11 - 1).toNat

def loadText (value : UInt32) : List Char := padLeft 3 (decimalInt value) ++ ['%']

def printLoad (width value : UInt32) (window : TextWindow) : TextWindow :=
  let window := printAt window 1 (loadStart width) "[Load:".toList
  let window := printAt window 1 window.curx (loadText value)
  printAt window 1 window.curx [']']

end Amdtop
