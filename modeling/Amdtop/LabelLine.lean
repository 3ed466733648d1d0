import Amdtop.ByteString

/-!
# A line with a label

`mvwprintw2c` prints a label and values in two colours. It splits its format behind the first colon
in two ways: `strstr` finds it in the format itself, `strtok` and `strncat` cut a copy off there.
-/

namespace Stdio

/-- The byte at `i`. -/
def Buffer.put {n : ℕ} (buf : Buffer n) (i : ℕ) (b : UInt8) : Option (Buffer n) :=
  if i < n then some ⟨buf.1.set i b, by rw [List.length_set, buf.2]⟩ else none

/-- `strtok(buf, delim)` of a string in the buffer: where the token begins, and the buffer with a
null written over the delimiter behind it. There is no token in a string of delimiters. -/
def Buffer.strtok {n : ℕ} (buf : Buffer n) (delim : UInt8) : Option (ℕ × Buffer n) :=
  let text := buf.1.takeWhile (· ≠ 0)
  let start := (text.takeWhile (· = delim)).length
  if text.drop start = [] then none
  else match (text.drop start).findIdx? (· = delim) with
    | none => some (start, buf)
    | some i => (buf.put (start + i) 0).map (start, ·)

/-- `strncat(buf + start, src, n)`. -/
def Buffer.strncat {n : ℕ} (buf : Buffer n) (start : ℕ) (src : List UInt8) (count : ℕ) :
    Option (Buffer n) :=
  buf.write (start + strlen (buf.1.drop start)) (src.take count)

end Stdio

namespace Amdtop

open Stdio

def colon : UInt8 := 0x3a

/-- `COLOR_LABEL_NAME` and `COLOR_LABEL_VALUE`. -/
inductive LabelColor
  | labelName | labelValue
deriving DecidableEq, Repr

/-- What is printed: the colour and the format. -/
structure ColorPrint where
  colorType : LabelColor
  fmt : List UInt8
deriving DecidableEq, Repr

/-- `strdup(fmt)`. -/
def formatCopy (fmt : List UInt8) : Buffer (fmt.length + 1) := ⟨fmt ++ [0], List.length_append⟩

/-- The second format, `strstr(fmt, ":") + 1`, if there is a colon. -/
def secondFormat (fmt : List UInt8) : Option (List UInt8) :=
  (fmt.findIdx? (· = colon)).map fun i => fmt.drop (i + 1)

/-- The first format, a string in the copy, and where it begins. There is none if there is no token
or the append would write behind the copy. -/
def firstFormat (fmt : List UInt8) : Option (ℕ × List UInt8) :=
  let ptr := formatCopy fmt
  let ptrLen := strlen ptr.1 + 1
  (ptr.strtok colon).bind fun (start, ptr) =>
    (ptr.strncat start [colon] ptrLen).bind fun ptr =>
      (cString (ptr.1.drop start)).map (start, ·)

/-- What is printed in a window with `maxy` rows. The copy is freed by the pointer to the first
format, which has to be the copy's own. -/
def mvwprintw2c (maxy y : ℤ) (fmt : List UInt8) : Option (List ColorPrint) :=
  if maxy - 1 ≤ y then some []
  else (secondFormat fmt).bind fun f2 => (firstFormat fmt).bind fun (start, f1) =>
    if start ≠ 0 then none else some [⟨.labelName, f1⟩, ⟨.labelValue, f2⟩]

end Amdtop
