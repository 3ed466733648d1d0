import Amdtop.Edid
import Amdtop.GpuMode

/-!
# The Display tab

`update_display_info` completes what a query has left in the state, `refresh_display_ui` draws it,
and `needUpdateDisplayInfo` says whether a new state is to be completed and drawn. Of the array in
the state only the entries of the alive connectors are kept.
-/

namespace Amdtop

open Heap

structure DisplayInfo where
  present : Bool := false
  connectorId : UInt32 := 0
  connectorType : UInt32 := 0
  connectorTypeId : UInt32 := 0
  connectorName : List Char := []
  mmWidth : UInt32 := 0
  mmHeight : UInt32 := 0
  /-- The number under the root. -/
  inSize : UInt32 := 0
  modeCount : UInt32 := 0
  edid : List UInt8 := []
  edidLen : UInt32 := 0
  dpmsState : List Char := []
  dpmsValue : UInt32 := 0
  crtcId : UInt32 := 0
  encoderType : UInt32 := 0
  encoderName : List Char := []
  startx : UInt32 := 0
  starty : UInt32 := 0
  width : UInt32 := 0
  height : UInt32 := 0
  monitorName : List Char := []
  serialNumer : List Char := []
  manufacturer : List Char := []
  year : UInt32 := 0
  week : UInt32 := 0
deriving DecidableEq, Repr

structure DisplayState where
  valid : Bool := false
  displayinfo : List DisplayInfo := []
  connectorCount : ℕ := 0
  encoderCount : ℕ := 0
  crtcCount : ℕ := 0
  fbCount : ℕ := 0
deriving DecidableEq, Repr

def DisplayState.aliveConnectorCount (state : DisplayState) : ℕ := state.displayinfo.length

/-! ## Completing -/

def connectorNames : List String :=
  ["Unknown", "VGA", "DVII", "DVID", "DVIA", "Composite", "SVIDEO", "LVDS", "Component", "9PinDIN",
    "DisplayPort", "HDMIA", "HDMIB", "TV", "eDP", "VIRTUAL", "DSI", "DPI"]

def encoderNames : List String :=
  ["NONE", "DAC", "TMDS", "LVDS", "TVDAC", "VIRTUAL", "DSI", "DPMST", "DPI"]

def unknow : List Char := "unknow".toList

def getConnectorNameByType (type : UInt32) : List Char :=
  (connectorNames[type.toNat]?.map String.toList).getD unknow

def getEncoderNameByType (type : UInt32) : List Char :=
  (encoderNames[type.toNat]?.map String.toList).getD unknow

/-- `%d` of a `uint32_t`. -/
def printInt (x : UInt32) : List Char :=
  let n := x.toBitVec.toInt
  if n < 0 then '-' :: Stdio.decimal n.natAbs else Stdio.decimal n.natAbs

/-- Each field a sub-parser cannot fill gets a default, and the status is that of the last. -/
def parseEDIDInfo (info : DisplayInfo) : ℤ × DisplayInfo :=
  if info.edidLen = 0 then (0, info)
  else
    let (ret, year, week) := edidGetDate info.edid
    let info := { info with year, week }
    let info := if ret ≠ 0 then { info with year := 9999 } else info
    let (ret, manufacturer) := edidGetManufacturer info.edid
    let info := { info with manufacturer }
    let info := if ret ≠ 0 then { info with manufacturer := "xxx".toList } else info
    let (ret, monitorName) := edidGetMonitorName info.edid info.monitorName
    let info := { info with monitorName }
    let info := if ret ≠ 0 then { info with monitorName := unknow } else info
    let (ret, serialNumer) := edidGetSerialNumber info.edid info.serialNumer
    let info := { info with serialNumer }
    let info := if ret ≠ 0 then { info with serialNumer := unknow } else info
    (ret, info)

/-- The rest of the loop body of `update_display_info`. -/
def DisplayInfo.setNames (info : DisplayInfo) : DisplayInfo :=
  let connectorName :=
    getConnectorNameByType info.connectorType ++ '-' :: printInt info.connectorTypeId
  let info := { info with connectorName }
  if info.present then { info with encoderName := getEncoderNameByType info.encoderType } else info

def updateInfos : List DisplayInfo → ℤ × List DisplayInfo
  | [] => (0, [])
  | info :: infos =>
    let (ret, info) := parseEDIDInfo info
    if ret ≠ 0 then (ret, info :: infos)
    else
      let (ret, infos) := updateInfos infos
      (ret, info.setNames :: infos)

/-- The status, and `current_display_state`. -/
def updateDisplayInfo (displayState : DisplayState) : ℤ × DisplayState :=
  let (ret, displayinfo) := updateInfos displayState.displayinfo
  (ret, { displayState with displayinfo })

/-! ## Drawing -/

inductive Arg
  | text (s : List Char)
  | num (n : UInt32)
  | count (n : ℕ)
  | size (n : UInt32)
deriving DecidableEq, Repr

/-- A call of `mvwprintw2c`, with its row, or of `winframe`, with the rows of the frame. The columns
depend on the window only. -/
inductive Line
  | labelled (y : ℕ) (label : String) (args : List Arg)
  | frame (starty endy : ℕ) (label : List Char)
deriving DecidableEq, Repr

/-- `mvwprintw2c` draws nothing in the last row of the window and below. -/
def Line.drawn (maxy : ℕ) : Line → Bool
  | .labelled y _ _ => y + 1 < maxy
  | .frame _ _ _ => true

def drawInfo (line : ℕ) (dispinfo : DisplayInfo) : List Line :=
  [Line.labelled (line + 1) "Name" [.text dispinfo.monitorName],
    .labelled (line + 2) "Serial" [.text dispinfo.serialNumer],
    .labelled (line + 3) "Vendor" [.text dispinfo.manufacturer],
    .labelled (line + 4) "Date" [.num dispinfo.year, .num dispinfo.week],
    .labelled (line + 5) "Size"
      [.size dispinfo.inSize, .num dispinfo.mmWidth, .num dispinfo.mmHeight],
    .labelled (line + 6) "DPMS" [.text dispinfo.dpmsState],
    .labelled (line + 7) "Present" [.text (if dispinfo.present then "Alive" else "Sleep").toList]] ++
  (if dispinfo.present then
    [Line.labelled (line + 8) "Encoder" [.text dispinfo.encoderName],
      .labelled (line + 9) "Resolution"
        [.num dispinfo.width, .num dispinfo.height, .num dispinfo.startx, .num dispinfo.starty],
      .frame line (line + 10) dispinfo.connectorName]
  else [Line.frame line (line + 8) dispinfo.connectorName])

/-- The loop over the alive connectors, from a row on. -/
def drawInfos : ℕ → List DisplayInfo → List Line
  | _, [] => []
  | line, dispinfo :: dispinfos =>
    drawInfo line dispinfo ++
      drawInfos (line + (if dispinfo.present then 12 else 10)) dispinfos

def refreshDisplayUi (maxy : ℕ) (state : DisplayState) : List Line :=
  ([Line.labelled 2 "connector" [.count state.connectorCount],
    .labelled 3 "encoder" [.count state.encoderCount],
    .labelled 4 "crtc" [.count state.crtcCount],
    .labelled 5 "Display" [.count state.aliveConnectorCount],
    .frame 1 6 "Display Info".toList] ++ drawInfos 8 state.displayinfo).filter (·.drawn maxy)

/-- The comparison of two entries. -/
def changedInfo (currDispinfo dispinfo : DisplayInfo) : Bool :=
  currDispinfo.dpmsValue ≠ dispinfo.dpmsValue || currDispinfo.present ≠ dispinfo.present ||
    currDispinfo.starty ≠ dispinfo.starty || currDispinfo.startx ≠ dispinfo.startx ||
      currDispinfo.width ≠ dispinfo.width || currDispinfo.height ≠ dispinfo.height

def needUpdateDisplayInfo (current displayState : DisplayState) : Bool :=
  !current.valid || current.connectorCount ≠ displayState.connectorCount ||
    current.aliveConnectorCount ≠ displayState.aliveConnectorCount ||
      (current.displayinfo.zip displayState.displayinfo).any fun p => changedInfo p.1 p.2

end Amdtop
