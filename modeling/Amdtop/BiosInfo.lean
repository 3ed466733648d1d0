import Amdtop.GpuInfo
import Amdtop.Heap

/-!
# The VBIOS image

The query that reads the image, `atombios_init`, and the Bios tab, which keeps both under the
device of the last visit.
-/

namespace Amdtop

open Cmd Heap

/-! ## The image -/

/-- What a pointer reads at an offset: the bytes of the image, and those that lie behind it. -/
def imageByte (image : Block UInt8) (behind : ℕ → UInt8) (offset : ℕ) : UInt8 :=
  image.data[offset]?.getD (behind offset)

def imageHalf (image : Block UInt8) (behind : ℕ → UInt8) (offset : ℕ) : ℕ :=
  (imageByte image behind offset).toNat + 256 * (imageByte image behind (offset + 1)).toNat

structure Atombios where
  image : Ptr UInt8 := none
  len : UInt32 := 0
  functionOffset : ℕ := 0
  dataOffset : ℕ := 0
deriving DecidableEq, Repr

def offsetToAtomRomHeaderPointer : ℕ := 0x48

/-- The offsets of two fields in `struct atom_rom_header_v2_2`. -/
def masterhwfunctionOffset : ℕ := 30
def masterdatatableOffset : ℕ := 32

/-- `bios[0] == 0x55 && bios[1] == 0xaa`. -/
def isAtomBios (image : Block UInt8) (behind : ℕ → UInt8) : Bool :=
  imageByte image behind 0 = 0x55 && imageByte image behind 1 = 0xaa

def atombiosInit (image : Ptr UInt8) (behind : ℕ → UInt8) (len : UInt32) (atombios : Atombios) :
    ℤ × Atombios :=
  match image with
  | none => (-einval, atombios)
  | some b =>
    if len = 0 then (-einval, atombios)
    else if !isAtomBios b behind then (-einval, atombios)
    else
      let romHeader := imageHalf b behind offsetToAtomRomHeaderPointer
      (0, { image, len
            dataOffset := imageHalf b behind (romHeader + masterdatatableOffset)
            functionOffset := imageHalf b behind (romHeader + masterhwfunctionOffset) })

structure GpuVBiosInfo where
  device : Option ℕ := none
  vbiosVersion : List Char := []
  image : Ptr UInt8 := none
  imagelen : UInt32 := 0
deriving DecidableEq, Repr

/-- A call of the tab's init with its active device, which is loaded, and what the calls it makes
would give. -/
structure BiosVisit where
  device : ℕ
  size : Option UInt32
  alloc : Bool
  image : Option (List UInt8)
  version : Option (List Char)
  behind : ℕ → UInt8

/-- The kernel copies its image to the caller's. -/
def copyImage (b : Block UInt8) (bytes : List UInt8) : Block UInt8 :=
  { b with data := bytes.take b.data.length ++ b.data.drop bytes.length }

/-- The pointer stays in `image` after the image has been freed. -/
def gpuQueryVBiosInfo (v : BiosVisit) (vBiosInfo : GpuVBiosInfo) (m : Ledger) :
    ℤ × GpuVBiosInfo × Ledger :=
  match v.size with
  | none => (ioctlFailed, vBiosInfo, m)
  | some imagelen =>
    let (image, m) := calloc (fun _ => v.alloc) 1 imagelen.toNat 0 m
    let vBiosInfo := { vBiosInfo with imagelen, image }
    match image, v.image with
    | none, _ => (-enomem, vBiosInfo, m)
    | some _, none => (ioctlFailed, vBiosInfo, free image m)
    | some b, some bytes =>
      let vBiosInfo := { vBiosInfo with image := some (copyImage b bytes), device := some v.device }
      match v.version with
      | none => (-eio, vBiosInfo, m)
      | some vbiosVersion => (0, { vBiosInfo with vbiosVersion }, m)

/-! ## The Bios tab -/

/-- The variables of the tab. `queried` is the device, the status and the image of the last
`gpuQueryVBiosInfo`, and `inited` the device and the status of the last `atombios_init`. -/
structure BiosTab where
  gAtombios : Atombios := {}
  gpuVBiosInfo : GpuVBiosInfo := {}
  curDevice : Option ℕ := none
  m : Ledger := {}
  queried : Option (ℕ × ℤ × Ptr UInt8) := none
  inited : Option (ℕ × ℤ) := none

namespace BiosTab

variable (v : BiosVisit)

def queryVBiosInfo : Cmd BiosTab := fun tab =>
  let (ret, gpuVBiosInfo, m) := gpuQueryVBiosInfo v tab.gpuVBiosInfo tab.m
  (ret, { tab with gpuVBiosInfo, m, queried := some (v.device, ret, gpuVBiosInfo.image) })

def initAtombios : Cmd BiosTab := fun tab =>
  let (ret, gAtombios) :=
    atombiosInit tab.gpuVBiosInfo.image v.behind tab.gpuVBiosInfo.imagelen tab.gAtombios
  (ret, { tab with gAtombios, inited := some (v.device, ret) })

/-- The key is written first. -/
def getAllInfo : Cmd BiosTab := fun tab =>
  if some v.device = tab.curDevice then (0, tab)
  else block [act fun tab => { tab with curDevice := some v.device }, queryVBiosInfo v,
    initAtombios v] tab

/-- The tab after a visit. -/
def visit (tab : BiosTab) (v : BiosVisit) : BiosTab := (getAllInfo v tab).2

end BiosTab

end Amdtop
