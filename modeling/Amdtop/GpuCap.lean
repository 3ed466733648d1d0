import Amdtop.ByteString
import Amdtop.GpuInfo

/-!
# The capabilities of a device, and its driver

`gpuQueryGpuCap` and `gpuQueryDriverInfo`. There is no result where C leaves the call undefined.
-/

namespace Amdtop

open Heap Stdio

def bytesOf (s : String) : List UInt8 := s.toList.map fun c => UInt8.ofNat c.toNat

/-! ## Capabilities -/

/-- `GPUCAP_STRING_SIZE`. -/
def gpucapStringSize : ℕ := 100

def capabilityPinMemFlag : UInt32 := 1
def capabilityDirectGmaFlag : UInt32 := 2
def capabilitySsgFlag : UInt32 := 4

structure DrmAmdgpuCapability where
  flag : UInt32 := 0
  directGmaSize : UInt32 := 0
deriving DecidableEq, Repr

structure GpuCapInfo where
  device : Option ℕ := none
  dgmaSupport : Bool := false
  dgmaSize : UInt32 := 0
  flags : UInt32 := 0
  capStr : Buffer gpucapStringSize := .cleared gpucapStringSize

/-- `if (..) strcat(capInfo->cap_str, ..)`. -/
def GpuCapInfo.append (capInfo : GpuCapInfo) (flag : Bool) (text : String) : Option GpuCapInfo :=
  if flag then (capInfo.capStr.strcat (bytesOf text)).map fun capStr => { capInfo with capStr }
  else some capInfo

/-- The text of the capabilities. With `DIRECT_GMA`, `snprintf` prints `cap_str` into itself. -/
def GpuCapInfo.setCapStr (capInfo : GpuCapInfo) (flag : UInt32) : Option GpuCapInfo :=
  if flag = 0 then (capInfo.capStr.write 0 (bytesOf "none")).map fun capStr => { capInfo with capStr }
  else
    (capInfo.append (flag &&& capabilitySsgFlag ≠ 0) "SSG ").bind fun capInfo =>
      (capInfo.append (flag &&& capabilityPinMemFlag ≠ 0) "Pin-MEM ").bind fun capInfo =>
        if flag &&& capabilityDirectGmaFlag ≠ 0 then none else some capInfo

def gpuQueryGpuCap (device : ℕ) (answer : Option DrmAmdgpuCapability)
    (capInfo : Option GpuCapInfo) : Option (ℤ × Option GpuCapInfo) :=
  match capInfo with
  | none => some (-einval, none)
  | some capInfo =>
    let (ret, cap) := queryAmdGpuInfo answer {}
    if ret ≠ 0 then some (ret, some capInfo)
    else
      let capInfo := { capInfo with
        device := some device, flags := cap.flag, dgmaSize := cap.directGmaSize
        dgmaSupport := false }
      (capInfo.setCapStr cap.flag).map fun capInfo => (ret, some capInfo)

/-! ## The driver -/

/-- What the kernel holds of a driver; the texts have no terminator. -/
structure VersionState where
  versionMajor : UInt32
  versionMinor : UInt32
  name : List UInt8
  date : List UInt8
  desc : List UInt8
deriving DecidableEq, Repr

structure DrmVersion where
  versionMajor : UInt32 := 0
  versionMinor : UInt32 := 0
  nameLen : ℕ := 0
  name : Ptr UInt8 := none
  dateLen : ℕ := 0
  date : Ptr UInt8 := none
  descLen : ℕ := 0
  desc : Ptr UInt8 := none
deriving DecidableEq, Repr

/-- `none` for a string is `NULL`. -/
structure GpuDriverInfo where
  device : Option ℕ := none
  versionMajor : UInt32 := 0
  versionMinor : UInt32 := 0
  driverName : Ptr UInt8 := none
  date : Ptr UInt8 := none
  desc : Ptr UInt8 := none
deriving DecidableEq, Repr

/-- The kernel's copy of a text, cut off at the caller's length. -/
def copyField (text : List UInt8) (len : ℕ) (p : Ptr UInt8) : Ptr UInt8 :=
  p.map fun b => { b with data := text.take len ++ b.data.drop (text.take len).length }

/-- `DRM_IOCTL_VERSION`. -/
def VersionState.ioctl (s : VersionState) (version : DrmVersion) : DrmVersion where
  versionMajor := s.versionMajor
  versionMinor := s.versionMinor
  nameLen := s.name.length
  name := copyField s.name version.nameLen version.name
  dateLen := s.date.length
  date := copyField s.date version.dateLen version.date
  descLen := s.desc.length
  desc := copyField s.desc version.descLen version.desc

/-- The bytes behind the three buffers. -/
structure Behind where
  name : List UInt8
  date : List UInt8
  desc : List UInt8

/-- The call, with whether its two `ioctl`s succeed. -/
def gpuQueryDriverInfo (ok : ℕ → Bool) (behind : Behind) (s : VersionState) (first second : Bool)
    (device : ℕ) (driverInfo : Option GpuDriverInfo) (m : Ledger) :
    Option (ℤ × Option GpuDriverInfo × Ledger) :=
  match driverInfo with
  | none => some (-einval, none, m)
  | some driverInfo =>
    if !first then some (ioctlFailed, some driverInfo, m)
    else
      let version := s.ioctl {}
      let (name, m) := calloc ok 1 version.nameLen 0 m
      let (date, m) := calloc ok 1 version.dateLen 0 m
      let (desc, m) := calloc ok 1 version.descLen 0 m
      let version := { version with name, date, desc }
      if !second then some (ioctlFailed, some driverInfo, m)
      else
        let version := s.ioctl version
        (strdup ok behind.name version.name m).bind fun (driverName, m) =>
          (strdup ok behind.desc version.desc m).bind fun (desc, m) =>
            (strdup ok behind.date version.date m).map fun (date, m) =>
              (0, some { driverInfo with
                versionMajor := version.versionMajor, versionMinor := version.versionMinor
                driverName, desc, date, device := some device },
                free version.desc <| free version.date <| free version.name m)

end Amdtop
