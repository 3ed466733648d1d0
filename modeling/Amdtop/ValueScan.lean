import Amdtop.CpuInfo
import Amdtop.Reads

/-!
# The searches for a value

`parseCpuInfo` and `getOSReleaseInfo` look for a separator in the line of an item and go on to the
newline behind it. Each pass of their loops is the positions of the buffer it reads or writes.
-/

namespace Amdtop

open Stdio

/-- A position is read or written. -/
def touch (i : ℕ) : Reads Unit := ⟨(), [i]⟩

/-- `while (!p(*q)) q++`, from the text at position `i`; behind the text is outside the buffer. -/
def seek (p : Char → Bool) : List Char → ℕ → Reads (Option ℕ)
  | [], i => touch i >>= fun _ => pure none
  | c :: cs, i => touch i >>= fun _ => if p c then pure (some i) else seek p cs (i + 1)

/-- `strchr` in the text at position `i`: the terminator ends the search. -/
def strchr (c : Char) (text : List Char) (i : ℕ) : Reads (Option ℕ) :=
  seek (fun d => d = c || d = '\x00') text i >>= fun r => match r with
  | none => pure none
  | some j => pure (if text[j - i]? = some c then some j else none)

/-- A pass of a loop: how many positions the line last read takes up, and what the pass does. -/
structure Pass where
  size : ℕ
  body : Reads CpuInfoLine

/-- Nothing outside the line is read or written. -/
def Pass.Inside (p : Pass) : Prop := p.body.Below p.size

/-! ## `parseCpuInfo` -/

/-- `cpuInfoLine` with the positions it reads and writes. -/
def cpuInfoScan (item buf name : List Char) : Reads CpuInfoLine :=
  if !strncmpEq buf item item.length then pure .other
  else
    seek (fun c => c = ':' || c = '\x00') buf 0 >>= fun p => match p with
    | none => pure .outside
    | some i =>
      if buf[i]? ≠ some ':' then pure .other
      else
        seek (· = '\n') (buf.drop (i + 2)) (i + 2) >>= fun q => match q with
        | none => pure .outside
        | some n => touch n >>= fun _ =>
          pure (.found (strncpyChars name (buf.drop (i + 2)) (n - (i + 2))))

/-- The passes of `cpuInfoLoop`; `size` is that of the line in the buffer. -/
def cpuInfoPasses (item : List Char) : ℕ → File → ℕ → List Char → List Char → List Pass
  | 0, _, _, _, _ => []
  | fuel + 1, fp, size, buf, name =>
    if fp.eof then []
    else
      let (line, fp) := fgets 1024 fp
      let size := line.elim size (·.length + 1)
      let buf := line.elim buf (overlay · buf)
      let body := cpuInfoScan item buf name
      ⟨size, body⟩ ::
        if body.val = .other then cpuInfoPasses item fuel fp size buf name else []

/-! ## `getOSReleaseInfo` -/

/-- The body of the loop after its `fgets`. Without the separator the search for the quote starts
at address 1, which is no position of the buffer. -/
def osReleaseScan (type buf name : List Char) : Reads CpuInfoLine :=
  if !strncmpEq buf type type.length then pure .other
  else
    strchr '=' buf 0 >>= fun p => match p with
    | none => touch buf.length >>= fun _ => pure .outside
    | some i =>
      strchr '\x22' (buf.drop (i + 1)) (i + 1) >>= fun m => match m with
      | some j =>
        strchr '\x22' (buf.drop (j + 1)) (j + 1) >>= fun p => match p with
        | some k => touch k >>= fun _ =>
          pure (.found (overlay ((buf.drop (j + 1)).take (k - (j + 1))) name))
        | none => pure (.found (overlay ((buf.drop (j + 1)).takeWhile (· ≠ '\x00')) name))
      | none =>
        seek (· = '\n') (buf.drop (i + 1)) (i + 1) >>= fun p => match p with
        | none => pure .outside
        | some n => touch n >>= fun _ =>
          pure (.found (overlay (((buf.drop (i + 1)).take (n - (i + 1))).takeWhile
            (· ≠ '\x00')) name))

/-- The loop over the lines, which leaves the first one's value, or `unknow`, in `name`. -/
def osReleaseLoop (type : List Char) : ℕ → File → List Char → List Char → Outcome (List Char)
  | 0, _, _, _ => .running
  | fuel + 1, fp, buf, name =>
    if fp.eof then .done (overlay "unknow".toList name)
    else match fgets 100 fp with
      | (none, _) => .done (overlay "unknow".toList name)
      | (some line, fp) =>
        let buf := overlay line buf
        match (osReleaseScan type buf name).val with
        | .other => osReleaseLoop type fuel fp buf name
        | .found name => .done name
        | .outside => .outside

/-- The passes of `osReleaseLoop`. -/
def osReleasePasses (type : List Char) : ℕ → File → List Char → List Char → List Pass
  | 0, _, _, _ => []
  | fuel + 1, fp, buf, name =>
    if fp.eof then []
    else match fgets 100 fp with
      | (none, _) => []
      | (some line, fp) =>
        let buf := overlay line buf
        let body := osReleaseScan type buf name
        ⟨line.length + 1, body⟩ ::
          if body.val = .other then osReleasePasses type fuel fp buf name else []

/-- The value of `name` after the call. -/
def getOSReleaseInfo (fuel : ℕ) (osRelease : Option File) (type : String) (name : List Char) :
    Outcome (List Char) :=
  match osRelease with
  | none => .done name
  | some fp => osReleaseLoop type.toList fuel fp (List.replicate 100 '\x00') name

end Amdtop
