import Amdtop.DisplayInfo
import Amdtop.EdidText

/-!
# What a vendor writes into an EDID

The base block of an EDID from what is in it: three letters of five bits, high byte first, the date,
and four slots, each a timing or a descriptor. `MonitorIdentity` is what the Display tab is to show
of it.
-/

namespace Amdtop

/-- `n` bytes. -/
abbrev Octets (n : ℕ) := { bytes : List UInt8 // bytes.length = n }

/-- A text of a descriptor. -/
structure MonitorText where
  bytes : List UInt8
  fits : bytes.length ≤ 13
  plain : ∀ b ∈ bytes, b ≠ 0 ∧ b ≠ newline

namespace MonitorText

def chars (text : MonitorText) : List Char := text.bytes.map byteChar

/-- A text that leaves room is ended by a line feed, and blanks follow it. -/
def padded (text : MonitorText) : List UInt8 :=
  (text.bytes ++ newline :: List.replicate 12 0x20).take 13

end MonitorText

/-- One of the four slots: a timing has a pixel clock, and a descriptor has none. -/
inductive DetailedSlot
  | timing (clock : UInt16) (running : clock ≠ 0) (rest : Octets 16)
  | text (tag : UInt8) (text : MonitorText)
  | data (tag flag : UInt8) (untold : tag ≠ tagMonitorName ∧ tag ≠ tagSerialNumber)
    (data : Octets 13)

namespace DetailedSlot

def bytes : DetailedSlot → List UInt8
  | .timing clock _ rest => clock.toUInt8 :: (clock >>> 8).toUInt8 :: rest.1
  | .text tag t => 0 :: 0 :: 0 :: tag :: 0 :: t.padded
  | .data tag flag _ d => 0 :: 0 :: 0 :: tag :: flag :: d.1

def text? (tag : UInt8) : DetailedSlot → Option MonitorText
  | .text tag' t => if tag' = tag then some t else none
  | _ => none

end DetailedSlot

structure EdidBlock where
  header : Octets 8
  /-- 1 is an A. -/
  letters : Fin 32 × Fin 32 × Fin 32
  product : Octets 6
  week : UInt8
  /-- From 1990 on. -/
  year : UInt8
  features : Octets 36
  slots : Fin 4 → DetailedSlot
  /-- The number of extensions, the checksum, and the extensions. -/
  rest : List UInt8

/-- What is told of a monitor. -/
structure MonitorIdentity where
  manufacturer : List Char
  year : UInt32
  week : UInt32
  monitorName : List Char
  serialNumer : List Char
deriving DecidableEq

namespace EdidBlock

/-- The two bytes of three letters. -/
def letterBytes (letters : Fin 32 × Fin 32 × Fin 32) : Octets 2 :=
  ⟨[.ofNat (4 * letters.1 + letters.2.1 / 8), .ofNat (letters.2.1 % 8 * 32 + letters.2.2)], rfl⟩

def dateBytes (e : EdidBlock) : Octets 2 := ⟨[e.week, e.year], rfl⟩

def slotBytes (e : EdidBlock) : List UInt8 := (List.ofFn e.slots).flatMap DetailedSlot.bytes

def bytes (e : EdidBlock) : List UInt8 :=
  e.header.1 ++ ((letterBytes e.letters).1 ++ (e.product.1 ++ (e.dateBytes.1 ++ (e.features.1 ++
    (e.slotBytes ++ e.rest)))))

/-- The first text with the tag. -/
def text? (e : EdidBlock) (tag : UInt8) : Option MonitorText :=
  (List.ofFn e.slots).findSome? (·.text? tag)

def letter (n : Fin 32) : Char := Char.ofNat (64 + n)

def identity (e : EdidBlock) : MonitorIdentity where
  manufacturer := [letter e.letters.1, letter e.letters.2.1, letter e.letters.2.2]
  year := e.year.toUInt32 + 1990
  week := e.week.toUInt32
  monitorName := ((e.text? tagMonitorName).map MonitorText.chars).getD unknow
  serialNumer := ((e.text? tagSerialNumber).map MonitorText.chars).getD unknow

end EdidBlock

def DisplayInfo.identity (info : DisplayInfo) : MonitorIdentity where
  manufacturer := info.manufacturer
  year := info.year
  week := info.week
  monitorName := info.monitorName
  serialNumer := info.serialNumer

end Amdtop
