import Mathlib.Algebra.Ring.Int.Defs
import Amdtop.Stdio

/-!
# The load of the processors, and the memory

`getCpuStat` reads the counters of `/proc/stat`, and `getCpuLoad` compares them with those of the
call before. `getProcMemInfo` reads a number of `/proc/meminfo`. A reading is the text of the file,
or `none` if it cannot be opened.
-/

namespace Amdtop

open Stdio

structure CpuStat where
  user : UInt64 := 0
  nice : UInt64 := 0
  system : UInt64 := 0
  idle : UInt64 := 0
  iowait : UInt64 := 0
  irq : UInt64 := 0
  softIrq : UInt64 := 0
  steal : UInt64 := 0
  total : UInt64 := 0
deriving DecidableEq, Repr

/-! ## Reading -/

/-- `strtol`, and the store into a 64-bit object. -/
def storeLong (neg : Bool) (mag : ℕ) : UInt64 :=
  if neg then .ofNat (2 ^ 64 - min mag (2 ^ 63)) else .ofNat (min mag (2 ^ 63 - 1))

/-- The conversion `%ld`. -/
def readLong (cs : List Char) : Option (UInt64 × List Char) :=
  let cs := cs.dropWhile isSpace
  let (neg, w, cs) := readSign (cs.length + 1) cs
  let (ds, rest) := spanUpTo (isDigitOf 10) w cs
  if ds = [] then none else some (storeLong neg (numeral 10 ds), rest)

def scanLongs : ℕ → List Char → List UInt64
  | 0, _ => []
  | n + 1, cs => match readLong cs with
    | none => []
    | some (v, rest) => v :: scanLongs n rest

/-- What `"cpu %ld %ld %ld %ld %ld %ld %ld %*s %*s %*s"` assigns. -/
def scanStat : List Char → List UInt64
  | 'c' :: 'p' :: 'u' :: cs => scanLongs 7 cs
  | _ => []

/-- Counters the text does not have stay as they were. The status is 0 also without the file. -/
def getCpuStat (reading : Option (List Char)) (stat : CpuStat) : CpuStat :=
  match reading with
  | none => stat
  | some text =>
    let vals := scanStat text
    let stat := { stat with
      user := vals.getD 0 stat.user
      nice := vals.getD 1 stat.nice
      system := vals.getD 2 stat.system
      idle := vals.getD 3 stat.idle
      iowait := vals.getD 4 stat.iowait
      irq := vals.getD 5 stat.irq
      softIrq := vals.getD 6 stat.softIrq }
    { stat with total :=
        stat.user + stat.nice + stat.system + stat.idle + stat.iowait + stat.irq + stat.softIrq }

/-! ## The load -/

/-- The static variables of `getCpuLoad`, and the number of readings taken. -/
structure CpuLoad where
  lastStat : CpuStat := {}
  stat : CpuStat := {}
  lastPercent : UInt32 := 0
  first : Bool := true
  taken : ℕ := 0
deriving DecidableEq, Repr

section Load

variable (readings : ℕ → Option (List Char))

/-- The first call takes a reading to compare with. -/
def CpuLoad.start (load : CpuLoad) : CpuLoad :=
  if load.first then
    { load with
      first := false, lastStat := getCpuStat (readings load.taken) {}, stat := {}
      taken := load.taken + 1 }
  else load

def getCpuLoad (load : CpuLoad) : UInt32 × CpuLoad :=
  let load := load.start readings
  let load :=
    { load with stat := getCpuStat (readings load.taken) load.stat, taken := load.taken + 1 }
  let cur := load.stat
  let last := load.lastStat
  if cur.total = last.total then (load.lastPercent, load)
  else
    let avgLoad := ((cur.idle + cur.iowait) - (last.idle + last.iowait)) * 1000
      / (cur.total - last.total)
    let avgLoad := 1000 - avgLoad
    let percent := (avgLoad % 1000).toUInt32
    (percent, { load with lastStat := cur, lastPercent := percent })

/-- `MIN(getCpuLoad() / 10, 100)`: the macro evaluates its first argument again if it is the
less. -/
def minCpuLoad (load : CpuLoad) : UInt32 × CpuLoad :=
  let (percent, load) := getCpuLoad readings load
  if percent / 10 < 100 then
    let (percent, load) := getCpuLoad readings load
    (percent / 10, load)
  else (100, load)

end Load

/-! ## Memory -/

/-- `atoi`, stored in 32 bits. -/
def atoi (cs : List Char) : UInt32 := (readLong cs).elim 0 (·.1.toUInt32)

/-- What `fgets` leaves in the buffer: the line, its terminator, and what was behind it. -/
def overlay (line buf : List Char) : List Char := line ++ '\x00' :: buf.drop (line.length + 1)

section MemInfo

variable {α : Type} (read : List Char → α)

/-- What is read of a line with the name, behind the character that follows the name. -/
def memInfoLine (name line buf : List Char) (value : α) : α :=
  match strstr line name with
  | none => value
  | some p => read ((p ++ '\x00' :: buf.drop (line.length + 1)).drop (name.length + 1))

/-- The loop over the lines. -/
def memInfoLoop (name : List Char) : ℕ → File → List Char → α → α
  | 0, _, _, value => value
  | fuel + 1, fp, buf, value =>
    if fp.eof then value
    else match fgets 100 fp with
      | (none, _) => value
      | (some line, fp) =>
        memInfoLoop name fuel fp (overlay line buf) (memInfoLine read name line buf value)

/-- Each pass reads a character, so the text's length bounds the passes. -/
def procMemInfo (value : α) (reading : Option (List Char)) (name : String) : α :=
  match reading with
  | none => value
  | some text =>
    memInfoLoop read name.toList (text.length + 1) { rest := text } (List.replicate 100 '\x00') value

end MemInfo

def getProcMemInfo (reading : Option (List Char)) (name : String) : UInt32 :=
  procMemInfo atoi 0 reading name

def getTotalMem (reading : Option (List Char)) : UInt32 := getProcMemInfo reading "MemTotal"

def getFreeMem (reading : Option (List Char)) : UInt32 := getProcMemInfo reading "MemAvailable"

/-! ## The numbers of the file -/

/-- The number a text begins with, of any size. -/
def leadNumber (cs : List Char) : ℤ :=
  let cs := cs.dropWhile isSpace
  let (neg, w, cs) := readSign (cs.length + 1) cs
  let (ds, _) := spanUpTo (isDigitOf 10) w cs
  if neg then -(numeral 10 ds : ℤ) else numeral 10 ds

theorem storeLong_of_lt {neg : Bool} {mag : ℕ} (h : 0 ≤ (if neg then -(mag : ℤ) else mag))
    (hlt : mag < 2 ^ 32) :
    ((storeLong neg mag).toUInt32.toNat : ℤ) = if neg then -(mag : ℤ) else mag := by
  unfold storeLong
  rcases neg
  · rw [if_neg Bool.false_ne_true, if_neg Bool.false_ne_true, UInt64.toNat_toUInt32,
      UInt64.toNat_ofNat']
    omega
  · rw [if_pos rfl] at h
    obtain rfl : mag = 0 := by omega
    rfl

/-- `atoi` of a number that 32 bits can hold. -/
theorem atoi_eq_of_lt {cs : List Char} (h : 0 ≤ leadNumber cs) (hlt : leadNumber cs < 2 ^ 32) :
    ((atoi cs).toNat : ℤ) = leadNumber cs := by
  unfold atoi readLong
  unfold leadNumber at h hlt ⊢
  dsimp only at h hlt ⊢
  generalize readSign ((cs.dropWhile isSpace).length + 1) (cs.dropWhile isSpace) = sign at h hlt ⊢
  generalize spanUpTo (isDigitOf 10) sign.2.1 sign.2.2 = span at h hlt ⊢
  obtain ⟨neg, w, cs'⟩ := sign
  obtain ⟨ds, rest⟩ := span
  dsimp only at h hlt ⊢
  by_cases hds : ds = []
  · rw [if_pos hds, hds]
    rcases neg <;> rfl
  · rw [if_neg hds]
    refine storeLong_of_lt h ?_
    rcases neg
    · rw [if_neg Bool.false_ne_true] at hlt
      omega
    · rw [if_pos rfl] at h
      omega

/-- A number of `/proc/meminfo`, and what the program has of it. -/
structure MemRead where
  number : ℤ := 0
  value : UInt32 := 0
  exact : 0 ≤ number → number < 2 ^ 32 → (value.toNat : ℤ) = number := by decide
deriving DecidableEq

def MemRead.ofText (cs : List Char) : MemRead := ⟨leadNumber cs, atoi cs, atoi_eq_of_lt⟩

def memTotal (reading : Option (List Char)) : MemRead :=
  procMemInfo MemRead.ofText {} reading "MemTotal"

def memAvailable (reading : Option (List Char)) : MemRead :=
  procMemInfo MemRead.ofText {} reading "MemAvailable"

end Amdtop
