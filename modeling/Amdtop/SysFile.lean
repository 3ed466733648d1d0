import Amdtop.DeviceContext
import Amdtop.IrqCount

/-!
# Attributes in `/sys`

An attribute is a line that the kernel ends with a newline. Its readers read it into an array and
write a null over the last character they got, wherever that is.
-/

namespace Amdtop

open Stdio

/-- A `char array[n]`. -/
abbrev CharArray (n : ℕ) := { chars : List Char // chars.length = n }

namespace CharArray

variable {n : ℕ}

def cleared (n : ℕ) : CharArray n := ⟨List.replicate n '\x00', List.length_replicate⟩

/-- What is read lies over the front of the array; there has to be room for it. -/
def fread (array : CharArray n) (text : List Char) (size : ℕ) : Option (CharArray n) :=
  let read := text.take size
  if h : read.length ≤ n then
    some ⟨read ++ array.1.drop read.length, by
      have := array.2
      rw [List.length_append, List.length_drop]
      omega⟩
  else none

/-- `array[size - 1] = '\0'`; with nothing read the index is before the array. -/
def cut (array : CharArray n) (size : ℕ) : Option (CharArray n) :=
  if 0 < size ∧ size ≤ n then
    some ⟨array.1.set (size - 1) '\x00', by rw [List.length_set, array.2]⟩
  else none

/-- `size = fread(array, 1, limit, fp); array[size - 1] = '\0';` -/
def readCut (array : CharArray n) (text : List Char) (limit : ℕ) : Option (CharArray n) :=
  (array.fread text limit).bind fun array => array.cut (text.take limit).length

theorem length_strncpyChars {dst : List Char} (src : List Char) {size : ℕ}
    (h : size ≤ dst.length) : (strncpyChars dst src size).length = dst.length := by
  have hsrc := (List.takeWhile_sublist (l := src.take size) (· ≠ '\x00')).length_le
  have htake := List.length_take_le size src
  simp only [strncpyChars, List.length_append, List.length_replicate, List.length_drop]
  omega

/-- `strncpy(array, src, size)`, of no more than the array holds. -/
def strncpy (array : CharArray n) (src : List Char) (size : ℕ) : Option (CharArray n) :=
  if h : size ≤ n then
    some ⟨strncpyChars array.1 src size,
      (length_strncpyChars src (h.trans_eq array.2.symm)).trans array.2⟩
  else none

end CharArray

/-- The texts of the files that can be opened. -/
abbrev Texts := List Char → Option (List Char)

/-! ## The board and the modules -/

structure DmiIdInfo where
  label : List Char
  fname : List Char
  value : CharArray maxNameSize
deriving DecidableEq

def dmiIdSysPath : List Char := "/sys/class/dmi/id".toList

/-- `none` is a write outside the array. -/
def getDmiInfo (files : Texts) (idInfo : DmiIdInfo) : Option (ℤ × DmiIdInfo) :=
  match files ((dmiIdSysPath ++ '/' :: idInfo.fname).take 99) with
  | none => some (-eio, idInfo)
  | some text => (idInfo.value.readCut text maxNameSize).map fun value =>
    (0, { idInfo with value })

def sysModulePath : List Char := "/sys/module".toList

/-- The status, `value` and `*outsize`. -/
def getModuleParam (files : Texts) (module filed : List Char) (value : CharArray maxNameSize)
    (outsize : Option ℕ) : Option (ℤ × CharArray maxNameSize × Option ℕ) :=
  match files ((sysModulePath ++ '/' :: (module ++ '/' :: filed)).take 99) with
  | none => some (-eio, value, outsize)
  | some text => (value.readCut text (maxNameSize - 1)).map fun value =>
    (0, value, outsize.map fun _ => (text.take (maxNameSize - 1)).length)

/-! ## The version of the VBIOS -/

def vbiosVersionPath (device : GpuDevice) : List Char :=
  "/sys/dev/char/".toList ++ decimal device.major ++ ':' :: decimal device.minor
    ++ "/device/vbios_version".toList

/-- The one reader that looks at how much was read. -/
def gpuQueryVbiosVersion (files : Texts) (device : GpuDevice)
    (vbiosVersion : CharArray maxNameSize) : Option (ℤ × CharArray maxNameSize) :=
  match files ((vbiosVersionPath device).take 99) with
  | none => some (-eio, vbiosVersion)
  | some text =>
    let len := (text.take (maxNameSize - 1)).length
    if 0 < len then
      ((CharArray.cleared maxNameSize).readCut text (maxNameSize - 1)).bind fun buf =>
        (vbiosVersion.strncpy buf.1 len).map fun vbiosVersion => (0, vbiosVersion)
    else some (-eio, vbiosVersion)

/-! ## A device's own directory -/

def defaultSysPath : List Char := "/sys/bus/pci".toList

def DeviceGetSysPath (pdev : PciDevice) : List Char :=
  (defaultSysPath ++ ("/devices/".toList ++ (hexPad 4 pdev.domain.toNat ++ ':' ::
    (hexPad 2 pdev.bus.toNat ++ ':' :: (hexPad 2 pdev.dev.toNat ++ '.' ::
      decimal pdev.func.toNat))))).take 99

/-- The status and `*irq_number`, which stays as it was if the text is no number. -/
def DeviceGetIrqNumber (files : List Char → SysFile) (pdev : PciDevice) (irqNumber : UInt32) :
    ℤ × UInt32 :=
  let file := files ((DeviceGetSysPath pdev ++ "/irq".toList).take 99)
  if !file.access then (-eacces, irqNumber)
  else match file.opened with
    | none => (-einval, irqNumber)
    | some text => (0, numAt (sscanf text "%u").vals 0 irqNumber)

/-! ## An interrupt -/

structure IRQInfo where
  irq : UInt32
  hwIrq : UInt32
  type : CharArray maxNameSize
  irqChip : CharArray maxNameSize
deriving DecidableEq

def irqFile (irq : UInt32) (name : String) : List Char :=
  "/sys/kernel/irq/".toList ++ decimalInt irq ++ '/' :: name.toList

/-- `getFileContent` into an array, as large as what is asked for. -/
def CharArray.content (array : CharArray maxNameSize) (file : SysFile) :
    ℤ × CharArray maxNameSize :=
  ((getFileContent file array.1 maxNameSize).1,
    ⟨(getFileContent file array.1 maxNameSize).2, by
      have hold := array.2
      unfold getFileContent
      split_ifs
      · exact hold
      · split
        · exact hold
        · rename_i text _
          have htake := List.length_take_le maxNameSize text
          simp only [List.length_append, List.length_drop]
          omega⟩)

/-- Whatever was read, the null is written into the name of the chip. -/
def getIRQInfo (files : List Char → SysFile) (irq : UInt32) (irqInfo : IRQInfo)
    (buf : CharArray maxNameSize) : Option (ℤ × IRQInfo) :=
  let (ret, type) := CharArray.content irqInfo.type (files (irqFile irq "type"))
  let irqInfo := { irqInfo with type }
  if ret < 0 then some (ret, irqInfo)
  else (irqInfo.irqChip.cut ret.toNat).bind fun irqChip =>
    let (ret, irqChip) := CharArray.content irqChip (files (irqFile irq "chip_name"))
    let irqInfo := { irqInfo with irqChip }
    if ret < 0 then some (ret, irqInfo)
    else (irqInfo.irqChip.cut ret.toNat).bind fun irqChip =>
      let irqInfo := { irqInfo with irqChip }
      let (ret, buf) := CharArray.content buf (files (irqFile irq "hwirq"))
      if ret < 0 then some (ret, irqInfo)
      else (irqInfo.irqChip.cut ret.toNat).map fun irqChip =>
        (0, { irqInfo with irqChip, hwIrq := atoi buf.1, irq })

end Amdtop
