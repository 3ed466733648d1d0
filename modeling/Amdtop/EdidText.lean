import Amdtop.ByteString
import Amdtop.DisplayQuery

/-!
# The texts of an EDID, byte by byte

`edidGetMonitorName` and `edidGetSerialNumber` on the bytes of the buffer they fill.
-/

namespace Amdtop

open Stdio

def newline : UInt8 := 0x0a

/-- What the two functions share. -/
def edidGetBytes (tag : UInt8) (edid name : List UInt8) : ℤ × List UInt8 :=
  match findDescriptor tag edid with
  | none => (-einval, name)
  | some i =>
    let name := strncpyBytes name (monitorData edid i descriptorStringSize) descriptorStringSize
    match strchr name newline with
    | some p => (0, name.set p 0)
    | none => (0, name.set (descriptorStringSize - 1) 0)

def edidGetMonitorNameBytes : List UInt8 → List UInt8 → ℤ × List UInt8 := edidGetBytes tagMonitorName

def edidGetSerialNumberBytes : List UInt8 → List UInt8 → ℤ × List UInt8 :=
  edidGetBytes tagSerialNumber

/-- A zero-initialised `char name[MAX_NAME_SIZE]`. -/
def clearedName : List UInt8 := List.replicate maxNameSize 0

/-! ## The descriptors -/

/-- The slot is a monitor descriptor with the tag. -/
def Tagged (tag : UInt8) (edid : List UInt8) (i : ℕ) : Prop :=
  isMonitorDescriptor edid i = true ∧ monitorTag edid i = tag

/-- The first such slot. -/
def FirstTagged (tag : UInt8) (edid : List UInt8) (i : ℕ) : Prop :=
  i < detailedTimingsCount ∧ Tagged tag edid i ∧ ∀ j < i, ¬ Tagged tag edid j

/-- The 13 bytes of data up to the first line feed or null. -/
def descriptorBytes (edid : List UInt8) (i : ℕ) : List UInt8 :=
  (monitorData edid i 13).takeWhile fun b => b ≠ 0 && b ≠ newline

/-- What a reader of the texts with a tag promises. -/
structure ReadsText (tag : UInt8) (get : List UInt8 → List UInt8 → ℤ × List UInt8)
    (edid : List UInt8) : Prop where
  found : (get edid clearedName).1 = 0 ↔ ∃ i < detailedTimingsCount, Tagged tag edid i
  text : ∀ i, FirstTagged tag edid i →
    cString (get edid clearedName).2 = some (descriptorBytes edid i)
  ends : 0 ∈ (get edid clearedName).2.take descriptorStringSize
  missing : (¬ ∃ i < detailedTimingsCount, Tagged tag edid i) →
    ∀ name, get edid name = (-einval, name)
  /-- The byte behind the descriptor makes no difference. -/
  next : ∀ i, FirstTagged tag edid i → ∀ b,
    (get (edid.set (detailedTimingOffset i + 18) b) clearedName).1 = (get edid clearedName).1
      ∧ cString (get (edid.set (detailedTimingOffset i + 18) b) clearedName).2
        = cString (get edid clearedName).2

end Amdtop
