import Mathlib.Logic.Function.Basic
import Amdtop.Command
import Amdtop.GpuDevice

/-!
# What the kernel says of a device

The queries of the Device tab, and the tab's cache of their answers. `none` for an answer is an
`ioctl` that fails. A device, and the node it has had since its driver was loaded, is named by the
address of the device.
-/

namespace Amdtop

open Cmd

/-- The status of an `ioctl` that fails. -/
def ioctlFailed : ℤ := -1

/-! ## The queries -/

inductive GpuMemType
  | vram | visible | gtt
deriving DecidableEq, Repr

structure DrmAmdgpuInfoVramGtt where
  vramSize : UInt64 := 0
  vramCpuAccessibleSize : UInt64 := 0
  gttSize : UInt64 := 0
deriving DecidableEq, Repr

/-- The size of the memory of a type. -/
def DrmAmdgpuInfoVramGtt.total (vramGtt : DrmAmdgpuInfoVramGtt) : GpuMemType → UInt64
  | .vram => vramGtt.vramSize
  | .visible => vramGtt.vramCpuAccessibleSize
  | .gtt => vramGtt.gttSize

structure GpuMemInfo where
  device : Option ℕ := none
  type : GpuMemType := .vram
  total : UInt64 := 0
  used : UInt64 := 0
deriving DecidableEq, Repr

/-- `δ` is the kernel's own structure, which is copied as a whole. -/
structure GpuDeviceInfo (δ : Type) where
  device : Option ℕ := none
  amdgpu : δ
deriving DecidableEq, Repr

def queryAmdGpuInfo {α : Type} (answer : Option α) (data : α) : ℤ × α :=
  match answer with
  | none => (ioctlFailed, data)
  | some answer => (0, answer)

def gpuQueryDeviceInfo {δ : Type} (device : ℕ) (answer : Option δ)
    (deviceInfo : GpuDeviceInfo δ) : ℤ × GpuDeviceInfo δ :=
  let (ret, amdgpu) := queryAmdGpuInfo answer deviceInfo.amdgpu
  let deviceInfo := { deviceInfo with amdgpu }
  if ret ≠ 0 then (ret, deviceInfo) else (ret, { deviceInfo with device := some device })

/-- The sizes first, and then what is used of the type. -/
def gpuQueryMemInfo (device : ℕ) (type : GpuMemType) (vramGtt : Option DrmAmdgpuInfoVramGtt)
    (usage : Option UInt64) (memInfo : GpuMemInfo) : ℤ × GpuMemInfo :=
  let (ret, vramGtt) := queryAmdGpuInfo vramGtt {}
  if ret ≠ 0 then (ret, memInfo)
  else
    let memInfo := { memInfo with total := vramGtt.total type }
    let (ret, used) := queryAmdGpuInfo usage memInfo.used
    let memInfo := { memInfo with used }
    if ret ≠ 0 then (ret, memInfo) else (ret, { memInfo with type, device := some device })

/-! ## The Device tab -/

/-- A query the kernel has answered. -/
inductive Answered (δ : Type)
  | devInfo (device : ℕ) (info : δ)
  | vramGtt (device : ℕ) (vramGtt : DrmAmdgpuInfoVramGtt)
  | usage (device : ℕ) (type : GpuMemType) (used : UInt64)
deriving DecidableEq, Repr

/-- The variables of the tab: `memInfo` is `vramInfo`, `visibleInfo` and `gttInfo`, by their type.
The queries that were answered are in `log`. -/
structure DeviceTab (δ : Type) where
  gpuDeviceInfo : GpuDeviceInfo δ
  memInfo : GpuMemType → GpuMemInfo := fun _ => {}
  currentDevice : Option ℕ := none
  log : List (Answered δ) := []

/-- A call of the tab's init: the active device, and what its queries would answer. -/
structure DeviceVisit (δ : Type) where
  device : Option ℕ
  driverisLoaded : Bool
  devInfo : Option δ
  vramGtt : GpuMemType → Option DrmAmdgpuInfoVramGtt
  usage : GpuMemType → Option UInt64

namespace DeviceTab

variable {δ : Type} (v : DeviceVisit δ)

def queryDeviceInfo (device : ℕ) : Cmd (DeviceTab δ) := fun tab =>
  let (ret, gpuDeviceInfo) := gpuQueryDeviceInfo device v.devInfo tab.gpuDeviceInfo
  (ret, { tab with
    gpuDeviceInfo, log := (v.devInfo.map (Answered.devInfo device)).toList ++ tab.log })

/-- The answers to the queries for one type of memory: the second is not made if the first fails. -/
def memAnswers (device : ℕ) (type : GpuMemType) : List (Answered δ) :=
  match v.vramGtt type, v.usage type with
  | none, _ => []
  | some vramGtt, none => [.vramGtt device vramGtt]
  | some vramGtt, some used => [.usage device type used, .vramGtt device vramGtt]

def queryMemInfo (device : ℕ) (type : GpuMemType) : Cmd (DeviceTab δ) := fun tab =>
  let (ret, memInfo) := gpuQueryMemInfo device type (v.vramGtt type) (v.usage type) (tab.memInfo type)
  (ret, { tab with
    memInfo := Function.update tab.memInfo type memInfo, log := memAnswers v device type ++ tab.log })

def getAllInfo : Cmd (DeviceTab δ) := fun tab =>
  if v.device = tab.currentDevice then (0, tab)
  else match v.device with
  | none => (0, tab)
  | some device =>
    if !v.driverisLoaded then (0, tab)
    else
      let (ret, tab) := queryDeviceInfo v device tab
      if ret ≠ 0 then (0, tab)
      else
        block [queryMemInfo v device .vram, queryMemInfo v device .gtt,
          queryMemInfo v device .visible,
          act fun tab => { tab with currentDevice := some device }] tab

/-- The tab after a visit. -/
def visit (tab : DeviceTab δ) (v : DeviceVisit δ) : DeviceTab δ := (getAllInfo v tab).2

end DeviceTab

end Amdtop
