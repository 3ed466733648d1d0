import Amdtop.CpuInfo
import Amdtop.DisplayQuery

/-!
# The number of interrupts

`getIrqCount` adds up the counts the kernel keeps for each CPU. It reads the list of them into a
buffer on the stack and takes it apart there, up to the first null.
-/

namespace Stdio

/-- `strtok_r` with one delimiter: the token, and what is left of the string behind it. -/
def strtokR (delim : Char) (cs : List Char) : Option (List Char × List Char) :=
  match cs.dropWhile (· = delim) with
  | [] => none
  | c :: cs => some ((c :: cs).takeWhile (· ≠ delim), ((c :: cs).dropWhile (· ≠ delim)).drop 1)

end Stdio

namespace Amdtop

open Stdio

/-- A file of the kernel: whether it can be accessed, and its text if it can be opened. -/
structure SysFile where
  access : Bool
  opened : Option (List Char)
deriving DecidableEq, Repr

/-- The status or the size of what is read, and the buffer. -/
def getFileContent (file : SysFile) (buf : List Char) (inSize : ℕ) : ℤ × List Char :=
  if !file.access then (-eacces, buf)
  else match file.opened with
    | none => (-einval, buf)
    | some text =>
      let read := text.take inSize
      (read.length, read ++ buf.drop read.length)

def perCpuCount (irq : UInt32) : List Char :=
  "/sys/kernel/irq/".toList ++ decimalInt irq ++ "/per_cpu_count".toList

def atoll (cs : List Char) : UInt64 := (readLong cs).elim 0 (·.1)

/-- The loop over the tokens. Each of them has a character. -/
def irqLoop : ℕ → List Char → UInt64 → UInt64
  | 0, _, count => count
  | fuel + 1, cs, count =>
    match strtokR ',' cs with
    | none => count
    | some (p, rest) => irqLoop fuel rest (count + atoll p)

/-- The status and `*irq_count`; `buf` is what the stack buffer held. A buffer without a null is read
behind its end, and without a token `atoll` reads through `NULL`. -/
def getIrqCount (files : List Char → SysFile) (irq : UInt32) (buf : List Char)
    (irqCount : UInt64) : Outcome (ℤ × UInt64) :=
  let (ret, buf) := getFileContent (files (perCpuCount irq)) buf maxNameSize
  if ret < 0 then .done (ret, irqCount)
  else match arrayString buf with
    | none => .outside
    | some text => match strtokR ',' text with
      | none => .outside
      | some (p, rest) => .done (ret, irqLoop (text.length + 1) rest (atoll p))

/-! ## What the kernel writes -/

def countsText (counts : List ℕ) : List Char := printList ',' counts ++ ['\n']

end Amdtop
