import Amdtop.Heap

/-!
# C strings in buffers

A buffer is the list of its bytes. Its string ends before the first null, and there is none if the
buffer has no null. What would write behind a buffer has no result.
-/

namespace Stdio

open Heap

/-- The string in a buffer, if a null ends it. -/
def cString (buf : List UInt8) : Option (List UInt8) :=
  if 0 ∈ buf then some (buf.takeWhile (· ≠ 0)) else none

/-- `strlen`, in a buffer that may have no null. -/
def strlen (buf : List UInt8) : ℕ := (buf.takeWhile (· ≠ 0)).length

/-- `strncpy(buf, src, n)`: behind a null of the source it goes on with nulls. -/
def strncpyBytes (buf src : List UInt8) (n : ℕ) : List UInt8 :=
  let text := (src.take n).takeWhile (· ≠ 0)
  text ++ List.replicate (n - text.length) 0 ++ buf.drop n

/-- `strchr`: where `b` stands in the string. -/
def strchr (buf : List UInt8) (b : UInt8) : Option ℕ :=
  (buf.takeWhile (· ≠ 0)).findIdx? (· = b)

/-! ## Buffers of a size -/

/-- A `char buf[n]`. -/
abbrev Buffer (n : ℕ) := { bytes : List UInt8 // bytes.length = n }

def Buffer.cleared (n : ℕ) : Buffer n := ⟨List.replicate n 0, List.length_replicate⟩

/-- The text and a null, from `i` on. -/
def Buffer.write {n : ℕ} (buf : Buffer n) (i : ℕ) (text : List UInt8) : Option (Buffer n) :=
  if h : i + text.length < n then
    some ⟨buf.1.take i ++ (text ++ 0 :: buf.1.drop (i + text.length + 1)), by
      have := buf.2
      simp only [List.length_append, List.length_take, List.length_cons, List.length_drop]
      omega⟩
  else none

/-- `strcat`. -/
def Buffer.strcat {n : ℕ} (buf : Buffer n) (text : List UInt8) : Option (Buffer n) :=
  buf.write (strlen buf.1) text

/-! ## Copies -/

/-- `strdup`, with the bytes behind the array. Where there is no null in either the search does not
end, and where there is none in the array it reads behind it. -/
def strdup (ok : ℕ → Bool) (behind : List UInt8) (p : Ptr UInt8) (m : Ledger) :
    Option (Ptr UInt8 × Ledger) :=
  p.bind fun src => (cString (src.data ++ behind)).map fun text =>
    let m := { m with overrun := m.overrun || 0 ∉ src.data }
    match calloc ok 1 (text.length + 1) (0 : UInt8) m with
    | (none, m) => (none, m)
    | (some dst, m) => (some { dst with data := text ++ [0] }, m)

end Stdio
