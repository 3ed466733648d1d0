import Amdtop.GpuDevice

/-!
# The debugfs files of a card

`amdGpuQueryFenceInfo` reads one ring's section of `amdgpu_fence_info`, and
`amdGpuQueryClientInfo` reads the records of `clients`.
-/

namespace Amdtop

open Stdio

/-- The files that can be opened, by path. -/
abbrev Files := List Char → Option File

def driDebugPath : String := "/sys/kernel/debug/dri"

def debugFile (device : GpuDevice) (name : String) : List Char :=
  driDebugPath.toList ++ '/' :: decimal device.minor ++ '/' :: name.toList

structure AmdGpuRing where
  device : GpuDevice
  shortname : List Char
deriving DecidableEq, Repr

structure AmdGpuFenceInfo where
  ringid : UInt32 := 0
  signaled : UInt32 := 0
  emitted : UInt32 := 0
  trailingFence : UInt32 := 0
  emittedTrial : UInt32 := 0
  preempted : UInt32 := 0
  reset : UInt32 := 0
  both : UInt32 := 0
deriving DecidableEq, Repr

/-- The value a line's format reads, if it reads one. -/
def fenceCount (buff : List Char) (fmt : String) : Option UInt32 :=
  match (sscanf buff fmt).vals with
  | [.num v] => some v
  | _ => none

/-- The body of the `do` loop after its `fgets`: the line in `buff` decides the field, and
`emittedIndex` counts the lines with "emitted" so far. -/
def fenceLine (buff : List Char) (emittedIndex : ℕ) (info : AmdGpuFenceInfo) :
    ℕ × AmdGpuFenceInfo :=
  if (strstr buff "emitted".toList).isSome then
    (emittedIndex + 1,
      if emittedIndex = 0 then
        match fenceCount buff "%*s %*s 0x%08x" with
        | some v => { info with emitted := v }
        | none => info
      else if emittedIndex = 1 then
        match fenceCount buff "%*s %*s 0x%08x" with
        | some v => { info with emittedTrial := v }
        | none => info
      else info)
  else (emittedIndex,
    if (strstr buff "trailing".toList).isSome then
      match fenceCount buff "%*s %*s %*s %*s 0x%08x" with
      | some v => { info with trailingFence := v }
      | none => info
    else if (strstr buff "signaled".toList).isSome then
      match fenceCount buff "%*s %*s %*s 0x%08x" with
      | some v => { info with signaled := v }
      | none => info
    else if (strstr buff "preempted".toList).isSome then
      match fenceCount buff "%*s %*s 0x%08x" with
      | some v => { info with preempted := v }
      | none => info
    else if (strstr buff "reset".toList).isSome then
      match fenceCount buff "%*s %*s 0x%08x" with
      | some v => { info with reset := v }
      | none => info
    else if (strstr buff "both".toList).isSome then
      match fenceCount buff "%*s %*s 0x%08x" with
      | some v => { info with both := v }
      | none => info
    else info)

/-- The `do` loop over the lines after a matching header. A read that fails leaves the old line in
`buff`. -/
def fenceSection : ℕ → File → List Char → ℕ → AmdGpuFenceInfo → Option (File × AmdGpuFenceInfo)
  | 0, _, _, _, _ => none
  | fuel + 1, fp, buff, emittedIndex, info =>
    let (line, fp) := fgets 1024 fp
    let buff := line.getD buff
    let (emittedIndex, info) := fenceLine buff emittedIndex info
    if !fp.eof && !strncmpEq buff "---".toList 3 then fenceSection fuel fp buff emittedIndex info
    else some (fp, info)

/-- The loop over the file. -/
def fenceScan (shortname : List Char) : ℕ → File → AmdGpuFenceInfo → Option AmdGpuFenceInfo
  | 0, _, _ => none
  | fuel + 1, fp, info =>
    if fp.eof then some info
    else match fgets 1024 fp with
      | (none, _) => some info
      | (some buff, fp) =>
        match (sscanf buff "--- ring %d (%s) ---").vals with
        | [.num ringid, .str ringname] =>
          if strncmpEq ringname shortname shortname.length then
            (fenceSection fuel fp buff 0 { info with ringid }).bind fun r =>
              fenceScan shortname fuel r.1 r.2
          else fenceScan shortname fuel fp { info with ringid }
        | _ => fenceScan shortname fuel fp info

/-- The status and the filled `fenceInfo`; each pass of a loop reads a line or meets the end of
the file, so the text's length bounds the passes. -/
def amdGpuQueryFenceInfo (files : Files) (ring : AmdGpuRing) : Option (ℤ × AmdGpuFenceInfo) :=
  match files (debugFile ring.device "amdgpu_fence_info") with
  | none => none
  | some fp => (fenceScan ring.shortname (fp.rest.length + 2) fp {}).map (0, ·)

structure AmdGpuClientInfo where
  command : List Char
  pid : UInt32
  dev : UInt32
  master : Char
  a : Char
  uid : UInt32
  magic : UInt32
deriving DecidableEq, Repr

/-- The items of a scan are stored in the order of the format's conversions. -/
def AmdGpuClientInfo.assign (info : AmdGpuClientInfo) (vals : List Val) : AmdGpuClientInfo where
  command := strAt vals 0 info.command
  pid := numAt vals 1 info.pid
  dev := numAt vals 2 info.dev
  master := chrAt vals 3 info.master
  a := chrAt vals 4 info.a
  uid := numAt vals 5 info.uid
  magic := numAt vals 6 info.magic

def clientFormat : String := "%20s %5d %3d   %c    %c %5d %10u\n"

/-- The loop over the records, where `left` more may be stored: the records of `clientInfo` and
their number. -/
def clientLoop : ℕ → File → List AmdGpuClientInfo → ℕ → List AmdGpuClientInfo × ℕ
  | 0, _, clientInfo, clientCount => (clientInfo, clientCount)
  | left + 1, fp, clientInfo, clientCount =>
    if fp.eof then (clientInfo, clientCount)
    else
      let (r, fp) := fscanf fp clientFormat
      let clientInfo := clientInfo.modify clientCount (·.assign r.vals)
      if r.count ≠ 7 then (clientInfo, clientCount)
      else clientLoop left fp clientInfo (clientCount + 1)

/-- The status, the contents of `clientInfo` and `*count` afterwards. -/
def amdGpuQueryClientInfo (files : Files) (device : GpuDevice) (clientInfo : List AmdGpuClientInfo)
    (count : ℕ) : ℤ × List AmdGpuClientInfo × ℕ :=
  match files (debugFile device "clients") with
  | none => (-eacces, clientInfo, count)
  | some fp =>
    let (line, fp) := fgets 1024 fp
    if (strstr (line.getD []) "master".toList).isNone then (-einval, clientInfo, count)
    else
      let (clientInfo, clientCount) := clientLoop count fp clientInfo 0
      (0, clientInfo, clientCount)

end Amdtop
