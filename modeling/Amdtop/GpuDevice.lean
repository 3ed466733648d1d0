import Amdtop.Stdio

/-!
# The card nodes and their PCI addresses

`gpuGetDevices` opens the nodes of `/dev/dri`, `gpuQueryPciInfo` reads a node's address from its
`uevent`, and `gpuGetDeviceByBus` looks for the node at an address.
-/

namespace Amdtop

open Stdio

def eio : ℤ := 5
def enomem : ℤ := 12
def eacces : ℤ := 13
def einval : ℤ := 22
def eagain : ℤ := 11

def gpuMaxCardSupport : ℕ := 8

def drmMajor : ℕ := 226

inductive DeviceType
  | unknow | card | render | control
deriving DecidableEq, Repr

structure GpuDevice where
  fd : ℤ
  index : ℕ
  major : ℕ
  minor : ℕ
  type : DeviceType
deriving DecidableEq, Repr

/-- An entry of `/dev/dri`, with what `open` and `fstat` report of it. -/
structure Dirent where
  name : List Char
  fd : ℤ
  fstat : ℤ
  isChr : Bool
  major : ℕ
  minor : ℕ
deriving DecidableEq, Repr

/-- What the kernel answers during one search: the listing of `/dev/dri`, the `uevent` file of a
device number, and whether the result array can be allocated. -/
structure Dri where
  dents : List Dirent
  uevent : ℕ → ℕ → Option (List Char)
  alloc : Bool

/-- The descriptor, major and minor of an opened node; a node that fails after `open` stays in the
open descriptors `fds`. -/
def gpuOpenDevice (dent : Dirent) (fds : List ℤ) : Except ℤ (ℤ × ℕ × ℕ) × List ℤ :=
  if dent.fd < 0 then (.error dent.fd, fds)
  else if dent.fstat < 0 then (.error dent.fstat, dent.fd :: fds)
  else if !dent.isChr then (.error (-eio), dent.fd :: fds)
  else if drmMajor ≠ dent.major then (.error (-eio), dent.fd :: fds)
  else (.ok (dent.fd, dent.major, dent.minor), dent.fd :: fds)

def gpuCloseDevice (device : GpuDevice) (fds : List ℤ) : ℤ × List ℤ :=
  (0, if 0 < device.fd then fds.erase device.fd else fds)

def getDeviceTypebyName (name : List Char) : DeviceType :=
  if strncmpEq name "render".toList 6 then .render
  else if strncmpEq name "card".toList 4 then .card
  else .unknow

/-- The loop over the directory: `ret` is the status of the last node of the type, and `none` is a
write outside `devices`. -/
def gpuGetDevicesLoop (type : DeviceType) :
    List Dirent → ℤ → List GpuDevice → List ℤ → Option (ℤ × List GpuDevice × List ℤ)
  | [], ret, devices, fds => some (ret, devices, fds)
  | dent :: dents, ret, devices, fds =>
    if dent.name.head? = some '.' then gpuGetDevicesLoop type dents ret devices fds
    else if type ≠ getDeviceTypebyName dent.name then gpuGetDevicesLoop type dents ret devices fds
    else match gpuOpenDevice dent fds with
      | (.error ret, fds) => gpuGetDevicesLoop type dents ret devices fds
      | (.ok (fd, major, minor), fds) =>
        if gpuMaxCardSupport ≤ devices.length then none
        else gpuGetDevicesLoop type dents 0
          (devices ++ [⟨fd, devices.length, major, minor, type⟩]) fds

def gpuGetDevices (dri : Dri) (type : DeviceType) : Option (ℤ × List GpuDevice × List ℤ) :=
  match gpuGetDevicesLoop type dri.dents 0 [] [] with
  | none => none
  | some (ret, devices, fds) =>
    if !dri.alloc then some (-enomem, [], fds) else some (ret, devices, fds)

structure GpuPciInfo where
  domain : UInt32 := 0
  bus : UInt32 := 0
  dev : UInt32 := 0
  func : UInt32 := 0
  vid : UInt32 := 0
  did : UInt32 := 0
  subVid : UInt32 := 0
  subDid : UInt32 := 0
deriving DecidableEq, Repr

/-- The text after `key=` in the first line that begins with it. -/
def ueventValue (key : List Char) (text : List Char) : Option (List Char) :=
  ((getlines text).find? fun l =>
    strncmpEq l key key.length && l[key.length]? = some '=').map (·.drop (key.length + 1))

def sysfsGetUevent (dri : Dri) (device : GpuDevice) (key : String) : Except ℤ (List Char) :=
  match dri.uevent device.major device.minor with
  | none => .error (-eio)
  | some text => match ueventValue key.toList text with
    | none => .error (-einval)
    | some value => .ok value

/-- Domain, bus, device and function. -/
abbrev Address := UInt32 × UInt32 × UInt32 × UInt32

/-- The address in a `PCI_SLOT_NAME`, if the format matches it. -/
def slotAddress (value : List Char) : Option Address :=
  match (sscanf value "%04x:%02x:%02x.%1u").vals with
  | [.num domain, .num bus, .num dev, .num func] => some (domain, bus, dev, func)
  | _ => none

/-- An address the format does not match leaves the old one. -/
def GpuPciInfo.scanSlot (pciInfo : GpuPciInfo) (value : List Char) : GpuPciInfo :=
  match slotAddress value with
  | some (domain, bus, dev, func) => { pciInfo with domain, bus, dev, func }
  | none => pciInfo

def GpuPciInfo.scanId (pciInfo : GpuPciInfo) (value : List Char) : GpuPciInfo :=
  match (sscanf value "%04x:%04x").vals with
  | [.num vid, .num did] => { pciInfo with vid, did }
  | _ => pciInfo

def GpuPciInfo.scanSubsysId (pciInfo : GpuPciInfo) (value : List Char) : GpuPciInfo :=
  match (sscanf value "%04x:%04x").vals with
  | [.num subVid, .num subDid] => { pciInfo with subVid, subDid }
  | _ => pciInfo

def gpuQueryPciInfo (dri : Dri) (device : GpuDevice) (pciInfo : GpuPciInfo) : ℤ × GpuPciInfo :=
  match sysfsGetUevent dri device "PCI_SLOT_NAME" with
  | .error ret => (ret, pciInfo)
  | .ok value =>
    let pciInfo := pciInfo.scanSlot value
    match sysfsGetUevent dri device "PCI_ID" with
    | .error ret => (ret, pciInfo)
    | .ok value =>
      let pciInfo := pciInfo.scanId value
      match sysfsGetUevent dri device "PCI_SUBSYS_ID" with
      | .error ret => (ret, pciInfo)
      | .ok value => (0, pciInfo.scanSubsysId value)

/-- The loop of the search: one `pciInfo` for all nodes, the last match in `foundDevice`, every
other node closed. -/
def byBusLoop (dri : Dri) (domain bus dev func : UInt8) :
    List GpuDevice → GpuPciInfo → Option GpuDevice → List ℤ → Option GpuDevice × List ℤ
  | [], _, foundDevice, fds => (foundDevice, fds)
  | device :: devices, pciInfo, foundDevice, fds =>
    let (ret, pciInfo) := gpuQueryPciInfo dri device pciInfo
    if ret ≠ 0 then (none, fds)
    else if pciInfo.domain = domain.toUInt32 ∧ pciInfo.bus = bus.toUInt32 ∧
        pciInfo.dev = dev.toUInt32 ∧ pciInfo.func = func.toUInt32 then
      byBusLoop dri domain bus dev func devices pciInfo (some device) fds
    else
      let (ret, fds) := gpuCloseDevice device fds
      if ret ≠ 0 then (none, fds)
      else byBusLoop dri domain bus dev func devices pciInfo foundDevice fds

def gpuGetDeviceByBus (dri : Dri) (deviceType : DeviceType) (domain bus dev func : UInt8) :
    Option (Option GpuDevice × List ℤ) :=
  match gpuGetDevices dri deviceType with
  | none => none
  | some (ret, devices, fds) =>
    if ret ≠ 0 then some (none, fds) else some (byBusLoop dri domain bus dev func devices {} none fds)

end Amdtop
