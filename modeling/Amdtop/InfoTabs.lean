import Amdtop.GpuCap
import Amdtop.Latch
import Amdtop.SysFile
import Amdtop.ValueScan

/-!
# The System and the Driver tab

Both tabs ask once and show the answers from then on. The System tab counts its first visit as the
one that asked, the Driver tab its first that got all it asked for.
-/

namespace Amdtop

open Stdio Heap

/-- `%s` of an array. -/
def arrayText (array : List Char) : List Char := array.takeWhile (· ≠ '\x00')

/-! ## System -/

structure Utsname where
  sysname : List Char := []
  nodename : List Char := []
  release : List Char := []
  machine : List Char := []
deriving DecidableEq

def unknowValue : CharArray maxNameSize :=
  ⟨"unknow".toList ++ List.replicate 94 '\x00', by decide⟩

def idInfos : List DmiIdInfo :=
  [⟨"Board Name".toList, "board_name".toList, unknowValue⟩,
    ⟨"Board Vendor".toList, "board_vendor".toList, unknowValue⟩,
    ⟨"BIOS Version".toList, "bios_version".toList, unknowValue⟩,
    ⟨"BIOS Date".toList, "bios_date".toList, unknowValue⟩]

structure SystemInfo where
  utsname : Utsname := {}
  prettyName : List Char := List.replicate 100 '\x00'
  cpuName : List Char := List.replicate 1024 '\x00'
  threads : UInt32 := 0
  cores : UInt32 := 0
  idInfos : List DmiIdInfo := Amdtop.idInfos
deriving DecidableEq

/-- What a visit finds. The buffers are what the stack held before the calls, and `fuel` bounds the
lines they read; `uname` is `none` when it fails. -/
structure SystemVisit where
  uname : Option Utsname
  osRelease : Option File
  dmi : Texts
  cpuInfo : Option File
  nameBuf : List Char
  coresBuf : List Char
  threadsBuf : List Char
  fuel : ℕ
  device : Option Device

/-- The loop over `id_infos`, which ends with the first that fails. -/
def getDmiInfos (files : Texts) : List DmiIdInfo → Option (ℤ × List DmiIdInfo)
  | [] => some (0, [])
  | idInfo :: rest => (getDmiInfo files idInfo).bind fun (ret, idInfo) =>
    if ret ≠ 0 then some (ret, idInfo :: rest)
    else (getDmiInfos files rest).map fun (ret, rest) => (ret, idInfo :: rest)

namespace SystemTab

/-- `getInfo` when `is_first` is set. -/
def queryInfo (v : SystemVisit) (info : SystemInfo) : Outcome (ℤ × SystemInfo) :=
  match v.uname with
  | none => .done (-1, info)
  | some utsname =>
    let info := { info with utsname }
    (getOSReleaseInfo v.fuel v.osRelease "PRETTY_NAME" info.prettyName).bind fun prettyName =>
      let info := { info with prettyName }
      match getDmiInfos v.dmi info.idInfos with
      | none => .outside
      | some (ret, idInfos) =>
        let info := { info with idInfos }
        if ret ≠ 0 then .done (ret, info)
        else (getCpuName v.fuel v.cpuInfo v.nameBuf info.cpuName).bind fun (ret, cpuName) =>
          let info := { info with cpuName }
          if ret ≠ 0 then .done (ret, info)
          else (getCpuCores v.fuel v.cpuInfo v.coresBuf v.threadsBuf (some info.cores)
              (some info.threads)).bind fun (ret, cores, threads) =>
            .done (ret, { info with
              cores := cores.getD info.cores, threads := threads.getD info.threads })

/-- `is_first` is cleared before anything is asked. -/
def getInfo (v : SystemVisit) (tab : Latch SystemInfo) : Outcome (ℤ × Latch SystemInfo) :=
  if !tab.first then .done (0, tab)
  else (queryInfo v tab.data).bind fun (ret, info) => .done (ret, ⟨false, info⟩)

def systemLine (label value : List Char) : List Char := padRight 15 label ++ ": ".toList ++ value

/-- The lines drawn. -/
def systemTexts (device : Option Device) (info : SystemInfo) : List (List Char) :=
  [systemLine "Distro".toList (arrayText info.prettyName),
    systemLine "OS".toList info.utsname.sysname,
    systemLine "Release".toList info.utsname.release,
    systemLine "HostName".toList info.utsname.nodename,
    systemLine "Arch".toList info.utsname.machine,
    systemLine "CPU".toList (arrayText info.cpuName),
    systemLine "Cores".toList (padRight 2 (decimalInt info.cores)),
    systemLine "Threads".toList (padRight 2 (decimalInt info.threads))]
  ++ info.idInfos.map (fun idInfo => systemLine idInfo.label (arrayText idInfo.value.1))
  ++ [systemLine "Driver".toList
    (match device with
      | some device => if device.driverisLoaded then device.driverName else "Un-loaded".toList
      | none => "Un-loaded".toList)]

/-- The status, and the lines if the tab gets to drawing them. -/
def tabSystemInfoInit (v : SystemVisit) (tab : Latch SystemInfo) :
    Outcome ((ℤ × Option (List (List Char))) × Latch SystemInfo) :=
  (getInfo v tab).bind fun (ret, tab) =>
    if ret ≠ 0 then .done ((ret, none), tab)
    else .done ((ret, some (systemTexts v.device tab.data)), tab)

end SystemTab

/-! ## Driver -/

structure ModuleInfo where
  version : CharArray maxNameSize := CharArray.cleared maxNameSize
  srcversion : CharArray maxNameSize := CharArray.cleared maxNameSize
deriving DecidableEq

/-- `dirs` counts the directories that are open. -/
structure DriverInfo where
  gpuDriverInfo : GpuDriverInfo := {}
  isDkms : Bool := false
  modAmdkcl : ModuleInfo := {}
  modAmdgpu : ModuleInfo := {}
  dirs : ℕ := 0
  ledger : Ledger := {}
deriving DecidableEq

/-- What a visit finds: the active device, its driver's answers and the modules' files. -/
structure DriverVisit where
  device : ℕ
  behind : Behind
  version : VersionState
  first : Bool
  second : Bool
  files : Texts
  modules : Option (List (List Char))

/-- The result, and the directories left open; a directory that could not be opened is `NULL` to
`readdir`. -/
def isDkmsDriver (modules : Option (List (List Char))) : Option (Bool × ℕ) :=
  modules.map fun names =>
    if names.any fun name => !(name.head? = some '.') && strncmpEq name "amdkcl".toList 6 then
      (true, 1)
    else (false, 0)

/-- The two parameters of a module, the second if the first could be read. -/
def getModuleInfo (files : Texts) (module : String) (info : ModuleInfo) :
    Option (ℤ × ModuleInfo) :=
  (getModuleParam files module.toList "version".toList info.version none).bind fun r =>
    let info := { info with version := r.2.1 }
    if r.1 ≠ 0 then some (r.1, info)
    else (getModuleParam files module.toList "srcversion".toList info.srcversion none).map fun r =>
      (r.1, { info with srcversion := r.2.1 })

namespace DriverTab

variable (ok : ℕ → Bool)

/-- `getAllInfo` when `first` is set. -/
def queryAllInfo (v : DriverVisit) (info : DriverInfo) : Option (ℤ × DriverInfo) :=
  (gpuQueryDriverInfo ok v.behind v.version v.first v.second v.device (some info.gpuDriverInfo)
      info.ledger).bind fun (ret, gpuDriverInfo, ledger) =>
    let info := { info with gpuDriverInfo := gpuDriverInfo.getD info.gpuDriverInfo, ledger }
    if ret ≠ 0 then some (ret, info)
    else (getModuleInfo v.files "amdgpu" info.modAmdgpu).bind fun (ret, modAmdgpu) =>
      let info := { info with modAmdgpu }
      if ret ≠ 0 then some (ret, info)
      else (isDkmsDriver v.modules).bind fun (isDkms, left) =>
        let info := { info with isDkms, dirs := info.dirs + left }
        if !isDkms then some (0, info)
        else (getModuleInfo v.files "amdkcl" info.modAmdkcl).map fun (ret, modAmdkcl) =>
          (ret, { info with modAmdkcl })

/-- `first` is cleared when everything has been read. -/
def getAllInfo (v : DriverVisit) (tab : Latch DriverInfo) : Option (ℤ × Latch DriverInfo) :=
  if !tab.first then some (0, tab)
  else (queryAllInfo ok v tab.data).map fun (ret, info) =>
    if ret ≠ 0 then (ret, ⟨true, info⟩) else (ret, ⟨false, info⟩)

def driverLine (label value : List Char) : List Char := padRight 20 label ++ ": ".toList ++ value

/-- `%s` of a string on the heap. -/
def heapText : Ptr UInt8 → List Char
  | none => "(null)".toList
  | some b => (b.data.takeWhile (· ≠ 0)).map fun c => Char.ofNat c.toNat

/-- The lines drawn. -/
def driverTexts (info : DriverInfo) : List (List Char) :=
  [driverLine "Driver Name:".toList (heapText info.gpuDriverInfo.driverName),
    driverLine "Driver Desc:".toList (heapText info.gpuDriverInfo.desc),
    driverLine "Driver Date:".toList (heapText info.gpuDriverInfo.date),
    driverLine "Driver Version:".toList (decimalInt info.gpuDriverInfo.versionMajor ++ '.' ::
      decimalInt info.gpuDriverInfo.versionMinor)]
  ++ if info.isDkms then
    [driverLine "DKMS:".toList (arrayText info.modAmdgpu.version.1),
      driverLine "KCL Driver:".toList (arrayText info.modAmdkcl.version.1),
      driverLine "DKMS SRCVer:".toList (arrayText info.modAmdgpu.srcversion.1),
      driverLine "KCL  SRCVer:".toList (arrayText info.modAmdkcl.srcversion.1)]
  else [driverLine "Build-In:".toList (arrayText info.modAmdgpu.version.1)]

def tabDriverInfoInit (v : DriverVisit) (tab : Latch DriverInfo) :
    Option ((ℤ × Option (List (List Char))) × Latch DriverInfo) :=
  (getAllInfo ok v tab).map fun (ret, tab) =>
    if ret ≠ 0 then ((ret, none), tab) else ((ret, some (driverTexts tab.data)), tab)

end DriverTab

end Amdtop
