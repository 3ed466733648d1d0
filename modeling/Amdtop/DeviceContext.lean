import Mathlib.Data.List.DropRight
import Amdtop.GpuDevice
import Amdtop.Heap

/-!
# The devices of the user interface

`InitDeviceContext` records the display devices among the PCI devices, `InitDevice` and
`UpdateDeviceInfo` fill a device in, and `FreeDeviceContext` frees them. In a result, `none` is a
write outside `devs`.
-/

namespace Amdtop

open Heap

inductive DeviceVendorType
  | amd | unknow
deriving DecidableEq, Repr

def vendorAmd : UInt16 := 0x1002

/-- A device of the PCI enumeration. -/
structure PciDevice where
  domain : UInt32
  bus : UInt8
  dev : UInt8
  func : UInt8
  vendorId : UInt16
  deviceId : UInt16
  subvendorId : UInt16
  subdeviceId : UInt16
  deviceClass : UInt32
  revision : UInt8
deriving DecidableEq, Repr

/-- `pdev->device_class >> 16 == 0x03`. -/
def PciDevice.isDisplay (pdev : PciDevice) : Bool := pdev.deviceClass >>> 16 = 3

/-- `addr` is the block of the device. -/
structure Device where
  addr : ℕ
  id : ℕ
  pdev : PciDevice
  vendorId : UInt32 := 0
  deviceId : UInt32 := 0
  subVendorId : UInt32 := 0
  subDeviceId : UInt32 := 0
  revisionId : UInt32 := 0
  gpuDevice : Option GpuDevice := none
  vendorType : DeviceVendorType := .amd
  driverisLoaded : Bool := false
  irq : UInt32 := 0
  pciClass : UInt32 := 0
  deviceName : List Char := []
  vendorName : List Char := []
  driverName : List Char := []
  domain : UInt8 := 0
  bus : UInt8 := 0
  dev : UInt8 := 0
  func : UInt8 := 0
deriving DecidableEq, Repr

structure DeviceContext where
  addr : ℕ
  devs : Vector (Option Device) gpuMaxCardSupport := Vector.replicate gpuMaxCardSupport none
  deviceCount : ℕ := 0
deriving DecidableEq

/-! ## A device -/

/-- The `driver` link of a PCI device: whether it can be accessed, and what `readlink` reads. -/
structure DriverLink where
  access : Bool
  target : Option (List Char)
deriving DecidableEq, Repr

def maxNameSize : ℕ := 100

/-- The name after the last slash. A failed `readlink`, one that fills the buffer and a target
without a slash lead to an access outside the buffers. -/
def DeviceGetDriverName (driver : DriverLink) : Option (ℤ × List Char) :=
  if !driver.access then some (-eacces, [])
  else match driver.target with
    | none => none
    | some target =>
      if target = [] then some (-einval, [])
      else if maxNameSize ≤ target.length then none
      else if '/' ∈ target then some (0, target.rtakeWhile (· ≠ '/'))
      else none

/-- What one `UpdateDeviceInfo` gets from `DeviceGetDriverName` and `gpuGetDeviceByBus`. -/
structure Probe where
  driver : ℤ × List Char
  card : Option GpuDevice
deriving DecidableEq, Repr

/-- The domain of the search is narrowed to a byte. -/
def probe (driver : DriverLink) (dri : Dri) (pdev : PciDevice) : Option Probe := do
  let name ← DeviceGetDriverName driver
  let (card, _) ← gpuGetDeviceByBus dri .card pdev.domain.toUInt8 pdev.bus pdev.dev pdev.func
  some ⟨name, card⟩

def UpdateDeviceInfo (answer : Probe) (device : Device) : ℤ × Device :=
  let (ret, driverName) := answer.driver
  if ret ≠ 0 then (ret, { device with driverisLoaded := false })
  else
    let device := { device with driverName, gpuDevice := answer.card }
    if device.gpuDevice.isNone then (-eacces, device)
    else (ret, { device with driverisLoaded := true })

/-- What one `InitDevice` gets from the calls it makes. -/
structure InitAnswer where
  irq : ℤ × UInt32
  deviceName : List Char
  vendorName : List Char
  hasKernelDriver : Bool
  update : Probe
deriving DecidableEq, Repr

/-- The fields `InitDevice` takes from the enumeration. -/
def Device.copyPci (device : Device) : Device :=
  let pdev := device.pdev
  { device with
    domain := pdev.domain.toUInt8, bus := pdev.bus, dev := pdev.dev, func := pdev.func
    vendorId := pdev.vendorId.toUInt32, deviceId := pdev.deviceId.toUInt32
    subVendorId := pdev.subvendorId.toUInt32, subDeviceId := pdev.subdeviceId.toUInt32
    revisionId := pdev.revision.toUInt32, pciClass := pdev.deviceClass
    driverisLoaded := false }

def InitDevice (answer : InitAnswer) (device : Device) : ℤ × Device :=
  let device := { device with
    vendorType := if device.pdev.vendorId = vendorAmd then .amd else .unknow }
  if device.vendorType ≠ .amd then (0, device)
  else
    let device := device.copyPci
    let (ret, irq) := answer.irq
    if ret ≠ 0 then (ret, device)
    else
      let device := { device with
        irq, deviceName := answer.deviceName, vendorName := answer.vendorName }
      if answer.hasKernelDriver then UpdateDeviceInfo answer.update device else (0, device)

/-! ## The context -/

/-- `devs[i] = device`. -/
def DeviceContext.store (dctx : DeviceContext) (i : ℕ) (device : Option Device) :
    Option DeviceContext :=
  if h : i < gpuMaxCardSupport then some { dctx with devs := dctx.devs.set i device h } else none

/-- The device of slot `i` has changed. -/
def DeviceContext.put (dctx : DeviceContext) (i : ℕ) (device : Device) : DeviceContext :=
  { dctx with devs := dctx.devs.setIfInBounds i (some device) }

/-- What slot `i` points to. -/
def DeviceContext.slot (dctx : DeviceContext) (i : ℕ) : Option Device := dctx.devs[i]?.join

def AllocDeviceContext (ok : ℕ → Bool) (m : Ledger) : Option DeviceContext × Ledger :=
  match calloc ok 72 1 () m with
  | (none, m) => (none, m)
  | (some b, m) => (some { addr := b.id }, m)

def AllocDevice (ok : ℕ → Bool) (dctx : DeviceContext) (pdev : PciDevice) (m : Ledger) :
    Option (Option Device × DeviceContext × Ledger) :=
  match calloc ok 368 1 () m with
  | (none, m) => some (none, dctx, m)
  | (some b, m) => do
    let device : Device := { addr := b.id, id := dctx.deviceCount, pdev }
    let dctx ← { dctx with deviceCount := dctx.deviceCount + 1 }.store dctx.deviceCount (some device)
    some (some device, dctx, m)

/-- One call after another, whatever each returns. -/
def allocDevices (ok : ℕ → Bool) :
    List PciDevice → DeviceContext → Ledger → Option (DeviceContext × Ledger)
  | [], dctx, m => some (dctx, m)
  | pdev :: pdevs, dctx, m => do
    let (_, dctx, m) ← AllocDevice ok dctx pdev m
    allocDevices ok pdevs dctx m

/-- The loop over the enumeration. -/
def initDevices (ok : ℕ → Bool) :
    List (PciDevice × InitAnswer) → DeviceContext → Ledger → Option (ℤ × DeviceContext × Ledger)
  | [], dctx, m => some (0, dctx, m)
  | (pdev, answer) :: pdevs, dctx, m =>
    if pdev.isDisplay then
      match AllocDevice ok dctx pdev m with
      | none => none
      | some (none, dctx, m) => some (-eagain, dctx, m)
      | some (some device, dctx, m) =>
        let (ret, device) := InitDevice answer device
        let dctx := dctx.put device.id device
        if ret ≠ 0 then some (ret, dctx, m) else initDevices ok pdevs dctx m
    else initDevices ok pdevs dctx m

def InitDeviceContext (ok : ℕ → Bool) (pciSystemInit : ℤ) (pdevs : List (PciDevice × InitAnswer))
    (dctx : DeviceContext) (m : Ledger) : Option (ℤ × DeviceContext × Ledger) :=
  let dctx := { dctx with deviceCount := 0 }
  if pciSystemInit ≠ 0 then some (pciSystemInit, dctx, m) else initDevices ok pdevs dctx m

def getDeviceByIndex (dctx : DeviceContext) (index : ℕ) : Option Device :=
  if dctx.deviceCount = 0 ∨ dctx.deviceCount ≤ index then none else dctx.slot index

def DeviceDriverisLoaded (device : Option Device) : Bool := device.any (·.driverisLoaded)

/-- `xFree` of a block. -/
def xFree (addr : ℕ) (m : Ledger) : Ledger := { m with frees := addr :: m.frees }

/-- The index of the write is the count before the decrement. -/
def FreeDevice (device : Device) (dctx : DeviceContext) (m : Ledger) :
    Option (DeviceContext × Ledger) := do
  let dctx ← { dctx with deviceCount := dctx.deviceCount - 1 }.store dctx.deviceCount none
  some (dctx, xFree device.addr m)

/-- The body of the loop of `FreeDeviceContext`. -/
def freeSlot (i : ℕ) (dctx : DeviceContext) (m : Ledger) : Option (DeviceContext × Ledger) := do
  let (dctx, m) ← match dctx.slot i with
    | none => some (dctx, m)
    | some device => FreeDevice device dctx m
  let dctx ← dctx.store i none
  some (dctx, m)

theorem store_count {dctx dctx' : DeviceContext} {i : ℕ} {device : Option Device}
    (h : dctx.store i device = some dctx') : dctx'.deviceCount = dctx.deviceCount := by
  unfold DeviceContext.store at h
  split_ifs at h
  obtain rfl := Option.some.inj h
  rfl

theorem freeSlot_count {i : ℕ} {dctx dctx' : DeviceContext} {m m' : Ledger}
    (h : freeSlot i dctx m = some (dctx', m')) : dctx'.deviceCount ≤ dctx.deviceCount := by
  unfold freeSlot at h
  rcases hslot : dctx.slot i with _ | device <;>
    simp only [hslot, FreeDevice, Option.bind_eq_bind, Option.bind_some, Option.bind_eq_some_iff,
      Option.some.injEq, Prod.mk.injEq] at h
  · obtain ⟨d, hd, rfl, -⟩ := h
    exact (store_count hd).le
  · obtain ⟨⟨d, m1⟩, ⟨d1, hd1, rfl, -⟩, d2, hd2, rfl, -⟩ := h
    exact (store_count hd2).trans_le ((store_count hd1).trans_le (Nat.sub_le _ _))

/-- The loop of `FreeDeviceContext`, whose bound `FreeDevice` lowers. -/
def freeDevices (i : ℕ) (dctx : DeviceContext) (m : Ledger) : Option (DeviceContext × Ledger) :=
  if i < dctx.deviceCount then
    match _h : freeSlot i dctx m with
    | none => none
    | some (dctx, m) => freeDevices (i + 1) dctx m
  else some (dctx, m)
termination_by dctx.deviceCount - i
decreasing_by
  have := freeSlot_count _h
  omega

def FreeDeviceContext (dctx : DeviceContext) (m : Ledger) : Option Ledger := do
  let (_, m) ← freeDevices 0 dctx m
  some (xFree dctx.addr m)

end Amdtop
