import Amdtop.BiosInfo
import Amdtop.Reads

/-!
# The tables of the VBIOS image

`atombios_init` and the functions that find a table, with the offsets of the image each reads. A
table is given by its offset.
-/

namespace Amdtop

open Heap

/-- `sizeof(struct atom_common_table_header)`. -/
def commonTableHeaderSize : ℕ := 4

/-- The entries of `atom_master_list_of_data_tables_v2_1` and of
`atom_master_list_of_command_functions_v2_1`. -/
def dataTableCount : ℕ := 35
def commandFunctionCount : ℕ := 81

section Image

variable (image : Block UInt8) (behind : ℕ → UInt8)

def readByte (offset : ℕ) : Reads UInt8 := ⟨imageByte image behind offset, [offset]⟩

/-- A `uint16_t`. -/
def readHalf (offset : ℕ) : Reads ℕ := ⟨imageHalf image behind offset, [offset, offset + 1]⟩

def atombiosGetRomheader : Reads ℕ := readHalf image behind offsetToAtomRomHeaderPointer

/-- The second byte is read only if the first is right. -/
def readSignature : Reads Bool := do
  let first ← readByte image behind 0
  if first = 0x55 then
    let second ← readByte image behind 1
    pure (second = 0xaa)
  else pure false

/-- `atombios_init`, with its reads. -/
def atombiosInitReads (len : UInt32) (atombios : Atombios) : Reads (ℤ × Atombios) :=
  if len = 0 then pure (-einval, atombios)
  else do
    let atomBios ← readSignature image behind
    if !atomBios then pure (-einval, atombios)
    else
      let romHeader ← atombiosGetRomheader image behind
      let dataOffset ← readHalf image behind (romHeader + masterdatatableOffset)
      let functionOffset ← readHalf image behind (romHeader + masterhwfunctionOffset)
      pure (0, { image := some image, len, dataOffset, functionOffset })

/-- The entry of a list of tables, which begins behind a table header. -/
def readEntry (offset index : ℕ) : Reads ℕ :=
  readHalf image behind (offset + commonTableHeaderSize + 2 * index)

def atombiosGetDataById (atombios : Atombios) (index : ℕ) : Reads ℕ :=
  readEntry image behind atombios.dataOffset index

def atombiosGetFuncById (atombios : Atombios) (index : ℕ) : Reads ℕ :=
  readEntry image behind atombios.functionOffset index

end Image

/-- It is the `atombios_init` of the Bios tab. -/
theorem atombiosInitReads_val (image : Block UInt8) (behind : ℕ → UInt8) (len : UInt32)
    (atombios : Atombios) :
    (atombiosInitReads image behind len atombios).val
      = atombiosInit (some image) behind len atombios := by
  have hsig : (readSignature image behind).val = isAtomBios image behind := by
    unfold readSignature isAtomBios
    rw [Reads.val_bind]
    by_cases h : imageByte image behind 0 = 0x55
    · simp [readByte, h]
    · simp [readByte, h]
  unfold atombiosInitReads atombiosInit
  dsimp only
  split_ifs with hlen hbios
  · rfl
  · rw [Reads.val_bind, hsig, if_pos hbios]
    rfl
  · rw [Reads.val_bind, hsig, if_neg hbios]
    rfl

end Amdtop
