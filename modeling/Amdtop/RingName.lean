import Amdtop.CpuInfo
import Amdtop.GpuRings

/-!
# The names of the rings

The names the kernel prints for the rings `parseRingInfo` knows, and the two arrays of a record it
copies a name into.
-/

namespace Amdtop

open Stdio

/-! ## The arrays -/

/-- A `char name[RING_NAME_SIZE]`. -/
abbrev RingArray := { array : List Char // array.length = ringNameSize }

/-- `strncpy(array, src, RING_NAME_SIZE)`. -/
def RingArray.strncpy (array : RingArray) (src : List Char) : RingArray :=
  ⟨strncpyChars array.1 src ringNameSize, by
    have hsrc := (List.takeWhile_sublist (l := src.take ringNameSize) (· ≠ '\x00')).length_le
    have htake := List.length_take_le ringNameSize src
    have hold := array.2
    simp only [strncpyChars, List.length_append, List.length_replicate, List.length_drop]
    omega⟩

/-- The fields `name` and `shortname`. -/
structure RingArrays where
  name : RingArray
  shortname : RingArray
deriving DecidableEq

/-- The two copies `parseRingInfo` makes of an entry. -/
def RingArrays.copy (arrays : RingArrays) (name : List Char) : RingArrays where
  name := arrays.name.strncpy name
  shortname := arrays.shortname.strncpy (name.drop 12)

/-! ## The names -/

/-- A number that is not negative in 32 bits. -/
structure RingNumber where
  val : ℕ
  lt : val < 2 ^ 31
deriving DecidableEq

inductive RingName
  | gfx (a : Option RingNumber)
  | sdma (a : RingNumber)
  | comp (a b c : RingNumber)
  | kiq (a b c : RingNumber)
  | uvd (a : RingNumber)
  | uvdEnc (a b : RingNumber)
  | vce (a : RingNumber)
deriving DecidableEq

namespace RingName

def type : RingName → RingType
  | gfx _ => .gfx
  | sdma _ => .sdma
  | comp _ _ _ => .comp
  | kiq _ _ _ => .kiq
  | uvd _ => .uvd
  | uvdEnc _ _ => .uvd
  | vce _ => .vce

def label : RingName → List Char
  | gfx none => "gfx".toList
  | gfx (some _) => "gfx_".toList
  | sdma _ => "sdma".toList
  | comp _ _ _ => "comp_".toList
  | kiq _ _ _ => "kiq_".toList
  | uvd _ => "uvd_".toList
  | uvdEnc _ _ => "uvd_enc_".toList
  | vce _ => "vce".toList

def numbers : RingName → List RingNumber
  | gfx a => a.toList
  | sdma a => [a]
  | comp a b c => [a, b, c]
  | kiq a b c => [a, b, c]
  | uvd a => [a]
  | uvdEnc a b => [a, b]
  | vce a => [a]

def dotted (ns : List RingNumber) : List Char := printList '.' (ns.map RingNumber.val)

/-- The part behind `amdgpu_ring_`. -/
def text (r : RingName) : List Char := r.label ++ dotted r.numbers

def entry (r : RingName) : List Char := ringPrefix ++ r.text

/-- The number at `i`, or -1 if there is none. -/
def value (r : RingName) (i : ℕ) : ℤ := (r.numbers[i]?.map fun n => (n.val : ℤ)).getD (-1)

end RingName

end Amdtop
