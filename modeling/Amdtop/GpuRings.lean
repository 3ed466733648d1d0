import Amdtop.DriDebug

/-!
# The rings of a card

`amdGpuRingInfo` fills an array from the names in the card's debugfs directory, one record for each
`amdgpu_ring_` file.
-/

namespace Amdtop

open Stdio

inductive RingType
  | unknow | gfx | comp | kiq | sdma | vce | uvd
deriving DecidableEq, Repr

/-- The other fields of an `AmdGpuRing`. -/
structure AmdGpuRingInfo extends AmdGpuRing where
  type : RingType
  name : List Char
  values : Int32 × Int32 × Int32
deriving DecidableEq

def ringNameSize : ℕ := 50

def ringPrefix : List Char := "amdgpu_ring_".toList

/-- The numbers a format reads. -/
def ringNumbers (p : List Char) (fmt : String) : List Int32 :=
  (sscanf p fmt).vals.filterMap fun
    | .num v => some v.toInt32
    | _ => none

/-- The three numbers, or none of them. -/
def ringTriple (p : List Char) (fmt : String) : Int32 × Int32 × Int32 :=
  match ringNumbers p fmt with
  | [a, b, c] => (a, b, c)
  | _ => (-1, -1, -1)

def ringSingle (p : List Char) (fmt : String) : Int32 × Int32 × Int32 :=
  match ringNumbers p fmt with
  | [a] => (a, -1, -1)
  | _ => (-1, -1, -1)

/-- The status is 0, for a record that is there. A name that fills its array is not terminated;
behind `shortname` are then the three `-1`, which are no digits. -/
def parseRingInfo (gpuRing : AmdGpuRingInfo) (name : List Char) : AmdGpuRingInfo :=
  let p := (name.drop 12).take ringNameSize
  let gpuRing := { gpuRing with name := name.take ringNameSize, shortname := p }
  if strncmpEq p "gfx".toList 3 then
    { gpuRing with type := .gfx, values := ringSingle p "gfx_%d" }
  else if strncmpEq p "sdma".toList 4 then
    { gpuRing with type := .sdma, values := ringSingle p "sdma%d" }
  else if strncmpEq p "comp".toList 4 then
    { gpuRing with type := .comp, values := ringTriple p "comp_%d.%d.%d" }
  else if strncmpEq p "uvd".toList 3 then
    { gpuRing with
      type := .uvd
      values :=
        match ringNumbers p "uvd_%d", ringNumbers p "uvd_enc_%d.%d" with
        | [a], _ => (a, -1, -1)
        | _, [a, b] => (a, b, -1)
        | _, _ => (-1, -1, -1) }
  else if strncmpEq p "kiq".toList 3 then
    { gpuRing with type := .kiq, values := ringTriple p "kiq_%d.%d.%d" }
  else if strncmpEq p "vce".toList 3 then
    { gpuRing with type := .vce, values := ringSingle p "vce%d" }
  else { gpuRing with type := .unknow, values := (-1, -1, -1) }

/-- The names in a directory, in the order of `readdir`; `none` where it cannot be opened. -/
abbrev Dirs := List Char → Option (List (List Char))

def debugDir (device : GpuDevice) : List Char :=
  driDebugPath.toList ++ '/' :: decimal device.minor

def isRingName (name : List Char) : Bool :=
  name.head? ≠ some '.' && strncmpEq name ringPrefix 12

/-- The loop over the directory. The array has no length here. -/
def ringLoop (device : GpuDevice) :
    List (List Char) → List AmdGpuRingInfo → ℕ → List AmdGpuRingInfo × ℕ
  | [], gpuRing, ringNum => (gpuRing, ringNum)
  | name :: names, gpuRing, ringNum =>
    if isRingName name then
      let gpuRing := gpuRing.modify ringNum fun r => { parseRingInfo r name with device }
      ringLoop device names gpuRing (ringNum + 1)
    else ringLoop device names gpuRing ringNum

/-- The status, the contents of `gpuRing` and `*count`; `none` where the directory cannot be opened,
and is read all the same. -/
def amdGpuRingInfo (dirs : Dirs) (device : GpuDevice) (gpuRing : List AmdGpuRingInfo) :
    Option (ℤ × List AmdGpuRingInfo × ℕ) :=
  (dirs (debugDir device)).map fun names => (0, ringLoop device names gpuRing 0)

end Amdtop
