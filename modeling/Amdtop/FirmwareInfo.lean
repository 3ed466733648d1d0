import Amdtop.GpuInfo
import Amdtop.Window

/-!
# The Firmware tab

The table of versions that the tab fills and draws at every visit, on a window that has been
cleared. Only a device whose driver is loaded gets that far.
-/

namespace Amdtop

open Stdio

inductive GpuFwType
  | vce | uvd | mc | me | pfp | ce | rlc | sos | asd | sdma | smc | vcn
deriving DecidableEq, Repr

/-- The `AMDGPU_INFO_FW_` number. -/
def amdGpuFwTypeMap : GpuFwType → UInt32
  | .vce => 0x1
  | .uvd => 0x2
  | .mc => 0x8
  | .me => 0x4
  | .pfp => 0x5
  | .ce => 0x6
  | .rlc => 0x7
  | .sos => 0xc
  | .asd => 0xd
  | .sdma => 0xb
  | .smc => 0xa
  | .vcn => 0xe

@[ext]
structure DrmAmdgpuInfoFirmware where
  ver : UInt32 := 0
  feature : UInt32 := 0
deriving DecidableEq, Repr

structure GpuFwInfo where
  device : Option ℕ := none
  type : GpuFwType := .vce
  inst : UInt32 := 0
  index : UInt32 := 0
  version : UInt32 := 0
  feature : UInt32 := 0
deriving DecidableEq, Repr

/-- The kernel's answers, by the number of the firmware, the instance and the index. -/
abbrev FirmwareAnswers := UInt32 → UInt32 → UInt32 → Option DrmAmdgpuInfoFirmware

def gpuQueryFWInfo (device : ℕ) (type : GpuFwType) (inst index : UInt32) (answers : FirmwareAnswers)
    (fwInfo : GpuFwInfo) : ℤ × GpuFwInfo :=
  match answers (amdGpuFwTypeMap type) inst index with
  | none => (ioctlFailed, fwInfo)
  | some firmware => (0, { fwInfo with
      type, feature := firmware.feature, version := firmware.ver, inst, index
      device := some device })

structure FirmwareInfo where
  name : List Char
  fwType : GpuFwType
  fwInfo : GpuFwInfo := {}
deriving DecidableEq, Repr

/-- `fw_infos`, as the program starts. -/
def fwInfos : List FirmwareInfo :=
  [⟨"MC".toList, .mc, {}⟩, ⟨"ME".toList, .me, {}⟩, ⟨"PFP".toList, .pfp, {}⟩,
    ⟨"CE".toList, .ce, {}⟩, ⟨"RLC".toList, .rlc, {}⟩, ⟨"SOS".toList, .sos, {}⟩,
    ⟨"ASD".toList, .asd, {}⟩, ⟨"SDMA".toList, .sdma, {}⟩, ⟨"SMC".toList, .smc, {}⟩,
    ⟨"VCE".toList, .vce, {}⟩, ⟨"UVD".toList, .uvd, {}⟩, ⟨"VCN".toList, .vcn, {}⟩]

/-- The variables of the tab. -/
structure FirmwareTab where
  fwInfos : List FirmwareInfo := Amdtop.fwInfos
  currentDevice : Option ℕ := none
deriving DecidableEq, Repr

/-- A visit: the active device, what its queries would answer, and the window. -/
structure FirmwareVisit where
  device : Option ℕ
  driverisLoaded : Bool
  answers : FirmwareAnswers
  window : TextWindow

/-- `mvwprintw2c`, of the text its format gives. Nothing is printed in the last row and below. -/
def mvwprintw2cText (window : TextWindow) (p : TextWindow.Placed) : TextWindow :=
  if window.maxy ≤ p.y + 1 then window else p.print window

/-- The texts of a row of the table, from line `line` on. -/
def firmwareTexts (x line : ℕ) (name : List Char) (version feature : UInt32) :
    List TextWindow.Placed :=
  [⟨line, x, padLeft 5 "Type".toList ++ ": ".toList ++ name⟩,
    ⟨line + 1, x + 7, padRight 10 "Version".toList ++ ": ".toList ++ hexPad 8 version.toNat⟩,
    ⟨line + 1, x + 7 + 40, padRight 10 "Feature".toList ++ ": ".toList ++ hexPad 8 feature.toNat⟩]

/-- The texts of the table. -/
def tableTexts (x : ℕ) : ℕ → List FirmwareInfo → List TextWindow.Placed
  | _, [] => []
  | line, row :: rows => firmwareTexts x line row.name row.fwInfo.version row.fwInfo.feature
      ++ tableTexts x (line + 2) rows

namespace FirmwareTab

/-- The loop over the table: the status is that of the last query. -/
def queryRows (device : ℕ) (answers : FirmwareAnswers) :
    List FirmwareInfo → ℤ → ℤ × List FirmwareInfo
  | [], ret => (ret, [])
  | row :: rows, _ =>
    let (ret, fwInfo) := gpuQueryFWInfo device row.fwType 0 0 answers row.fwInfo
    let (ret, rows) := queryRows device answers rows ret
    (ret, { row with fwInfo } :: rows)

/-- The tab's `current_device` is never written. -/
def getFirmwareInfo (v : FirmwareVisit) (tab : FirmwareTab) : ℤ × FirmwareTab :=
  if v.device = tab.currentDevice then (0, tab)
  else match v.device with
    | none => (0, tab)
    | some device =>
      let (ret, fwInfos) := queryRows device v.answers tab.fwInfos 0
      (ret, { tab with fwInfos })

/-- The status, the window and the tab. -/
def tabFirmwareInfoInit (v : FirmwareVisit) (tab : FirmwareTab) : ℤ × TextWindow × FirmwareTab :=
  let window := windowClear v.window
  let (ret, tab) := getFirmwareInfo v tab
  if ret ≠ 0 then (ret, window, tab)
  else
    (ret, (tableTexts (window.maxx / 20) 1 tab.fwInfos).foldl mvwprintw2cText window, tab)

/-- The tab after a visit. -/
def visit (tab : FirmwareTab) (v : FirmwareVisit) : FirmwareTab :=
  if v.driverisLoaded then (tabFirmwareInfoInit v tab).2.2 else tab

end FirmwareTab

end Amdtop
