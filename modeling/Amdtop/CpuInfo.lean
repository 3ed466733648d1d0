import Amdtop.CpuLoad
import Amdtop.GpuDevice

/-!
# The processor's name and cores

`parseCpuInfo` looks for the line of an item in `/proc/cpuinfo` and copies its value, without a
terminator, into a buffer that `getCpuCores` uses for two items.
-/

namespace Amdtop

open Stdio

/-- How a call ends: `outside` is an access outside a buffer, and `running` says that the passes
given were not enough. -/
inductive Outcome (α : Type)
  | done (a : α)
  | outside
  | running
deriving DecidableEq, Repr

def Outcome.bind {α β : Type} (o : Outcome α) (f : α → Outcome β) : Outcome β :=
  match o with
  | .done a => f a
  | .outside => .outside
  | .running => .running

/-- `strncpy(dst, src, n)` of characters: behind a null of the source it goes on with nulls. -/
def strncpyChars (dst src : List Char) (n : ℕ) : List Char :=
  let text := (src.take n).takeWhile (· ≠ '\x00')
  text ++ List.replicate (n - text.length) '\x00' ++ dst.drop n

/-- What the body of the loop makes of a buffer. -/
inductive CpuInfoLine
  | other
  | found (name : List Char)
  | outside
deriving DecidableEq, Repr

/-- The body of the loop after its `fgets`. -/
def cpuInfoLine (item buf name : List Char) : CpuInfoLine :=
  if !strncmpEq buf item item.length then .other
  else match buf.findIdx? (fun c => c = ':' || c = '\x00') with
    | none => .outside
    | some i =>
      if buf[i]? ≠ some ':' then .other
      else
        let p := buf.drop (i + 2)
        match p.findIdx? (· = '\n') with
        | none => .outside
        | some n => .found (strncpyChars name p n)

/-- The loop over the lines; an `fgets` that fails leaves the buffer as it was. -/
def cpuInfoLoop (item : List Char) : ℕ → File → List Char → List Char → Outcome (ℤ × List Char)
  | 0, _, _, _ => .running
  | fuel + 1, fp, buf, name =>
    if fp.eof then .done (-einval, name)
    else
      let (line, fp) := fgets 1024 fp
      let buf := line.elim buf (overlay · buf)
      match cpuInfoLine item buf name with
      | .other => cpuInfoLoop item fuel fp buf name
      | .found name => .done (0, name)
      | .outside => .outside

section Calls

variable (fuel : ℕ) (cpuInfo : Option File)

/-- `buf` is what the stack buffer held before. -/
def parseCpuInfo (buf : List Char) (item : String) (name : List Char) : Outcome (ℤ × List Char) :=
  match cpuInfo with
  | none => .done (-einval, name)
  | some fp => cpuInfoLoop item.toList fuel fp buf name

def getCpuName (buf name : List Char) : Outcome (ℤ × List Char) :=
  parseCpuInfo fuel cpuInfo buf "model name" name

/-- A field, unless its pointer is `NULL`: the status, the field and the buffer `value`. -/
def cpuField (buf : List Char) (item : String) (field : Option UInt32) (value : List Char) :
    Outcome (ℤ × Option UInt32 × List Char) :=
  match field with
  | none => .done (0, none, value)
  | some old => (parseCpuInfo fuel cpuInfo buf item value).bind fun r =>
    .done (r.1, some (if r.1 ≠ 0 then old else atoi r.2), r.2)

/-- The status and the two fields. -/
def getCpuCores (buf buf' : List Char) (hwCore threads : Option UInt32) :
    Outcome (ℤ × Option UInt32 × Option UInt32) :=
  (cpuField fuel cpuInfo buf "cpu cores" hwCore (List.replicate 1024 '\x00')).bind fun r =>
    if r.1 ≠ 0 then .done (r.1, r.2.1, threads)
    else (cpuField fuel cpuInfo buf' "siblings" threads r.2.2).bind fun r' =>
      .done (r'.1, r.2.1, r'.2.1)

end Calls

end Amdtop
