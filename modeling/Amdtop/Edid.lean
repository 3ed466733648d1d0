import Amdtop.GpuDevice

/-!
# EDID

The fields of an EDID that the Display tab reads, by their offset. Behind the bytes that were copied
the buffer is cleared.
-/

namespace Amdtop

def edidByte (edid : List UInt8) (offset : ℕ) : UInt8 := edid[offset]?.getD 0

/-- A `uint16_t` in the order of the bytes. -/
def edidHalf (edid : List UInt8) (offset : ℕ) : UInt16 :=
  (edidByte edid offset).toUInt16 ||| (edidByte edid (offset + 1)).toUInt16 <<< 8

/-- The letter `'@' + n`. -/
def edidLetter (n : UInt16) : Char := Char.ofNat (64 + n.toNat)

def edidManufacturer (edid : List UInt8) : List Char :=
  let manufacturer := edidHalf edid 8
  [edidLetter ((manufacturer &&& 0x007c) >>> 2),
    edidLetter ((manufacturer &&& 0x0003) <<< 3 ||| (manufacturer &&& 0xe000) >>> 13),
    edidLetter ((manufacturer &&& 0x1f00) >>> 8)]

def manufactureWeek (edid : List UInt8) : UInt8 := edidByte edid 16

def manufactureYear (edid : List UInt8) : UInt8 := edidByte edid 17

/-! ## Monitor descriptors -/

def detailedTimingsCount : ℕ := 4

/-- Where the `i`th of `detailed_timings` begins. -/
def detailedTimingOffset (i : ℕ) : ℕ := 54 + 18 * i

/-- `flag0`, `flag1` and `flag2` are 0. -/
def isMonitorDescriptor (edid : List UInt8) (i : ℕ) : Bool :=
  edidHalf edid (detailedTimingOffset i) = 0 && edidByte edid (detailedTimingOffset i + 2) = 0 &&
    edidByte edid (detailedTimingOffset i + 4) = 0

def monitorTag (edid : List UInt8) (i : ℕ) : UInt8 := edidByte edid (detailedTimingOffset i + 3)

/-- The first `n` bytes from `data` on; there are 13 of them in the descriptor. -/
def monitorData (edid : List UInt8) (i n : ℕ) : List UInt8 :=
  (List.range n).map fun j => edidByte edid (detailedTimingOffset i + 5 + j)

def tagMonitorName : UInt8 := 0xfc
def tagSerialNumber : UInt8 := 0xff

/-- The first descriptor with the tag. -/
def findDescriptor (tag : UInt8) (edid : List UInt8) : Option ℕ :=
  (List.range detailedTimingsCount).find? fun i =>
    isMonitorDescriptor edid i && monitorTag edid i = tag

/-! ## Texts -/

def byteChar (b : UInt8) : Char := Char.ofNat b.toNat

/-- The text in `dst` after `strncpy(dst, src, n)`, from the first `n` bytes of `src`: without a
null among them, the text goes on with what was in `dst`. -/
def strncpy (dst : List Char) (src : List UInt8) (n : ℕ) : List Char :=
  let text := (src.takeWhile (· ≠ 0)).map byteChar
  if text.length < n then text else text ++ dst.drop n

/-- `sizeof(edid_monitor_descriptor_string)`, one more than the data. -/
def descriptorStringSize : ℕ := 14

/-- The loop of `edidGetMonitorName` and `edidGetSerialNumber`. -/
def edidGetText (tag : UInt8) (edid : List UInt8) (name : List Char) : ℤ × List Char :=
  match findDescriptor tag edid with
  | none => (-einval, name)
  | some i =>
    let name := strncpy name (monitorData edid i descriptorStringSize) descriptorStringSize
    if '\n' ∈ name then (0, name.takeWhile (· ≠ '\n')) else (0, name.take (descriptorStringSize - 1))

def edidGetMonitorName : List UInt8 → List Char → ℤ × List Char := edidGetText tagMonitorName

def edidGetSerialNumber : List UInt8 → List Char → ℤ × List Char := edidGetText tagSerialNumber

/-- Status, year and week. -/
def edidGetDate (edid : List UInt8) : ℤ × UInt32 × UInt32 :=
  (0, (manufactureYear edid).toUInt32 + 1990, (manufactureWeek edid).toUInt32)

def edidGetManufacturer (edid : List UInt8) : ℤ × List Char := (0, edidManufacturer edid)

end Amdtop
