import Amdtop.ClientTable
import Amdtop.CpuLoad
import Amdtop.GpuInfo
import Amdtop.MainLoop
import Amdtop.WindowBar

/-!
# The Stat tab

Eight bars, and the table of the clients. Of the window only what the bars keep and what is printed
on the table's rows is there, and printing succeeds. The tab is called with the active device, whose
driver is loaded; what the queries would answer comes with each call. A call that divides by 0 or
reads through `NULL` ends the program, which `fault` records.
-/

namespace Amdtop

open Stdio Cmd

inductive BarType
  | gfxClock | memClock | gpuLoad | cpuLoad | vram | gtt | visible | sysMem
deriving DecidableEq, Repr

inductive GpuSensorType
  | gfxClock | memClock | gpuLoad | gpuTemp | gpuPower | pstateGfxClock
deriving DecidableEq, Repr

/-- `ALIGN(val, align)`, in 32 and in 64 bits. -/
def align32 (val align : UInt32) : UInt32 := (val + (align - 1)) &&& ~~~(align - 1)

def align64 (val align : UInt64) : UInt64 := (val + (align - 1)) &&& ~~~(align - 1)

/-- `ALIGN(val, align)` of numbers of any size. -/
def alignUp (val align : ℕ) : ℕ := (val + (align - 1)) / align * align

/-- What the tab uses of `drm_amdgpu_info_device`. -/
structure DeviceClocks where
  maxEngineClock : UInt64 := 0
  maxMemoryClock : UInt64 := 0
deriving DecidableEq, Repr

/-- A call of `barSetValue`: the maximum and the value before they are cut to 32 bits, the numbers of
`/proc/meminfo` they come from, the bar, the argument, and the bar afterwards. -/
structure BarSet where
  type : BarType
  max : ℕ
  value : ℤ
  reads : List MemRead
  bar : WindowBar
  arg : UInt32
  result : Option WindowBar
deriving DecidableEq

/-- The variables of the tab, with those of `getCpuLoad`. `barMax` holds the maxima before they are
cut to 32 bits, `maxReads` the numbers of `/proc/meminfo` they come from, `clientRows` what is
printed of the clients, and `log` the calls of `barSetValue`. -/
structure StateInfo where
  sensorBar : BarType → WindowBar := fun _ => {}
  barMax : BarType → ℕ := fun _ => 0
  maxReads : BarType → List MemRead := fun _ => []
  memInfo : GpuMemType → GpuMemInfo := fun _ => {}
  sensorInfo : UInt32 := 0
  deviceInfo : GpuDeviceInfo DeviceClocks := { amdgpu := {} }
  uiClientsStarty : UInt32 := 0
  uiClientsCount : UInt32 := 0
  clientInfos : List AmdGpuClientInfo := List.replicate maxClientCount ⟨[], 0, 0, '\x00', '\x00', 0, 0⟩
  clientRows : List (List Print) := []
  hasRootPermission : Bool := false
  needRefresh : Bool := true
  load : CpuLoad := {}
  log : List BarSet := []
  fault : Bool := false

/-- What the queries of one type of memory would answer. -/
structure MemAnswers where
  vramGtt : GpuMemType → Option DrmAmdgpuInfoVramGtt
  usage : GpuMemType → Option UInt64

/-- What a refresh would be answered: the queries of a sensor are numbered, and `/proc/meminfo` is
read twice. -/
structure Refresh where
  device : ℕ
  gpuDevice : GpuDevice
  sensor : GpuSensorType → ℕ → Option UInt32
  memory : MemAnswers
  totalMem : Option (List Char)
  freeMem : Option (List Char)
  files : Files
  passwd : UInt32 → Option (List Char)
  maxx : ℕ

/-- What the tab's init would be answered, with its refresh at the end. -/
structure InitAnswers where
  root : Bool
  devInfo : Option DeviceClocks
  memory : MemAnswers
  totalMem : Option (List Char)
  refresh : Refresh

namespace StateInfo

def crash (tab : StateInfo) : StateInfo := { tab with fault := true }

/-- The status of a call that does not return. -/
def crashed : ℤ := -1

/-! ## Bars -/

/-- `barSetMaxValue` of a maximum that is cut to `arg`. -/
def setMax (type : BarType) (max : ℕ) (arg : UInt32) (reads : List MemRead) : Cmd StateInfo :=
  act fun tab =>
    { tab with
      sensorBar := Function.update tab.sensorBar type ((tab.sensorBar type).setMaxValue arg)
      barMax := Function.update tab.barMax type max
      maxReads := Function.update tab.maxReads type reads }

/-- `barSetValue` of a value that is cut to `arg`. -/
def setValue (type : BarType) (value : ℤ) (arg : UInt32) (reads : List MemRead) :
    Cmd StateInfo := fun tab =>
  let result := (tab.sensorBar type).setValue arg
  let call : BarSet :=
    ⟨type, tab.barMax type, value, reads ++ tab.maxReads type, tab.sensorBar type, arg, result⟩
  let tab := { tab with log := call :: tab.log }
  match result with
  | none => (crashed, tab.crash)
  | some bar => (0, { tab with sensorBar := Function.update tab.sensorBar type bar })

/-- Where a bar begins does not depend on what is on its row. -/
def createBar (type : BarType) (name unit : String) (line : ℕ) (x width : UInt32) :
    Cmd StateInfo := fun tab =>
  match barFrame name.toList unit.toList (.ofNat line) x width ⟨fun _ => ' ', 0⟩ with
  | none => (crashed, tab.crash)
  | some (bar, _) =>
    block [act fun tab => { tab with sensorBar := Function.update tab.sensorBar type bar },
      setMax type 100 100 [], setValue type 0 0 []] tab

/-! ## Queries -/

def querySensor (r : Refresh) (type : GpuSensorType) (n : ℕ) : Cmd StateInfo := fun tab =>
  let (ret, sensorInfo) := queryAmdGpuInfo (r.sensor type n) tab.sensorInfo
  (ret, { tab with sensorInfo })

def queryMem (device : ℕ) (memory : MemAnswers) (type : GpuMemType) : Cmd StateInfo := fun tab =>
  let (ret, memInfo) :=
    gpuQueryMemInfo device type (memory.vramGtt type) (memory.usage type) (tab.memInfo type)
  (ret, { tab with memInfo := Function.update tab.memInfo type memInfo })

def queryDevice (device : ℕ) (devInfo : Option DeviceClocks) : Cmd StateInfo := fun tab =>
  let (ret, deviceInfo) := gpuQueryDeviceInfo device devInfo tab.deviceInfo
  (ret, { tab with deviceInfo })

/-! ## A refresh -/

section Refresh

variable (readings : ℕ → Option (List Char)) (r : Refresh)

/-- The bar of a sensor, with the value read last. -/
def setSensor (type : BarType) : Cmd StateInfo := look fun tab =>
  setValue type tab.sensorInfo.toNat tab.sensorInfo []

def setUsed (type : BarType) (mem : GpuMemType) : Cmd StateInfo := look fun tab =>
  setValue type ((tab.memInfo mem).used >>> 20).toNat ((tab.memInfo mem).used >>> 20).toUInt32 []

def setSysMem : Cmd StateInfo :=
  setValue .sysMem (((memTotal r.totalMem).number - (memAvailable r.freeMem).number) / 1024)
    ((getTotalMem r.totalMem - getFreeMem r.freeMem) >>> 10)
    [memTotal r.totalMem, memAvailable r.freeMem]

def setCpuLoad : Cmd StateInfo := fun tab =>
  let (value, load) := minCpuLoad readings tab.load
  setValue .cpuLoad value.toNat value [] { tab with load }

/-- The labels printed after the last queries are left out. -/
def updateSensorValue : Cmd StateInfo :=
  block [querySensor r .gfxClock 0, setSensor .gfxClock,
    querySensor r .memClock 0, setSensor .memClock,
    querySensor r .gpuLoad 0, setSensor .gpuLoad,
    queryMem r.device r.memory .vram, queryMem r.device r.memory .gtt,
    queryMem r.device r.memory .visible,
    setUsed .vram .vram, setUsed .visible .visible, setUsed .gtt .gtt, setSysMem r,
    setCpuLoad readings,
    querySensor r .gpuTemp 0, querySensor r .gpuPower 0, querySensor r .pstateGfxClock 0,
    querySensor r .pstateGfxClock 1]

def updateClientInfo : Cmd StateInfo := fun tab =>
  match updateClientTable r.passwd tab.uiClientsStarty tab.uiClientsCount.toNat r.maxx r.files
    r.gpuDevice tab.hasRootPermission tab.clientInfos with
  | none => (crashed, tab.crash)
  | some (round, clientRows) => (round.ret, { tab with clientInfos := round.records, clientRows })

def tabStateInfoUpdate : Cmd StateInfo := fun tab =>
  if !tab.needRefresh then (0, tab)
  else block [updateSensorValue readings r, updateClientInfo r] tab

end Refresh

/-! ## The init -/

section Init

variable (layout : WindowLayout)

def startx : UInt32 := layout.width / 20

def barWidth : ℤ := i32 ((layout.width - 3 * startx layout - 2) / 2).toNat

/-- The width between the brackets of a bar. -/
def innerWidth : ℤ := barWidth layout - 28

def tooSmall : Bool := barWidth layout < 0 || innerWidth layout < 0

def start2x : UInt32 := startx layout + .ofInt (barWidth layout) + startx layout

def firstLine : ℕ := 3

/-- The bars of a column, from the first line on. -/
def createBars (x : UInt32) : ℕ → List (BarType × String × String) → Cmd StateInfo
  | _, [] => give 0
  | line, (type, name, unit) :: bars =>
    andThen (createBar type name unit line x (.ofInt (innerWidth layout)))
      (createBars x (line + 1) bars)

def leftBars : List (BarType × String × String) :=
  [(.gfxClock, "GFX", "MHz"), (.memClock, "MEM", "MHz"), (.gpuLoad, "GPU", "%"),
    (.cpuLoad, "CPU", "%")]

def rightBars : List (BarType × String × String) :=
  [(.vram, "VRAM", "MB"), (.visible, "VIS", "MB"), (.gtt, "GTT", "MB"), (.sysMem, "RAM", "MB")]

/-- Two lines of labels under the bars, two lines left out, and the table's frame and title. -/
def clientsLine : ℕ := firstLine + rightBars.length + 2 + 2 + 1

def placeClients : Cmd StateInfo := act fun tab =>
  { tab with
    uiClientsStarty := .ofNat (clientsLine + 1)
    uiClientsCount := layout.height - 2 - .ofNat (clientsLine + 1) }

variable (readings : ℕ → Option (List Char)) (a : InitAnswers)

/-- The maxima, from what was answered. -/
def setMaxima : Cmd StateInfo := look fun tab =>
  let engine := tab.deviceInfo.amdgpu.maxEngineClock / 1000
  let memory := tab.deviceInfo.amdgpu.maxMemoryClock / 1000
  let vram := align64 ((tab.memInfo .vram).total >>> 20) 1024
  let visible := (tab.memInfo .visible).total >>> 20
  let gtt := align64 ((tab.memInfo .gtt).total >>> 20) 1024
  let ram := align32 (getTotalMem a.totalMem >>> 10) 1024
  block [setMax .gfxClock engine.toNat engine.toUInt32 [],
    setMax .memClock memory.toNat memory.toUInt32 [],
    setMax .gpuLoad 100 100 [], setMax .cpuLoad 100 100 [],
    setMax .vram vram.toNat vram.toUInt32 [], setMax .visible visible.toNat visible.toUInt32 [],
    setMax .gtt gtt.toNat gtt.toUInt32 [],
    setMax .sysMem (alignUp ((memTotal a.totalMem).number.toNat / 1024) 1024) ram
      [memTotal a.totalMem]]

/-- What the init does before its refresh. -/
def prepare : Cmd StateInfo :=
  block [createBars layout (startx layout) firstLine leftBars,
    createBars layout (start2x layout) firstLine rightBars,
    placeClients layout, act fun tab => { tab with hasRootPermission := a.root },
    queryDevice a.refresh.device a.devInfo,
    queryMem a.refresh.device a.memory .vram, queryMem a.refresh.device a.memory .gtt,
    queryMem a.refresh.device a.memory .visible,
    setMaxima a]

def tabStateInfoInit : Cmd StateInfo := fun tab =>
  if tooSmall layout then (0, { tab with needRefresh := false })
  else
    block [prepare layout a, updateSensorValue readings a.refresh, updateClientInfo a.refresh] tab

end Init

/-! ## Runs -/

/-- A call of the tab. Between the calls other tabs may have been shown. -/
inductive Event
  | init (layout : WindowLayout) (a : InitAnswers)
  | update (r : Refresh)

def step (readings : ℕ → Option (List Char)) (tab : StateInfo) : Event → StateInfo
  | .init layout a => if tab.fault then tab else (tabStateInfoInit layout readings a tab).2
  | .update r => if tab.fault then tab else (tabStateInfoUpdate readings r tab).2

end StateInfo

end Amdtop
