import Amdtop.Stdio

/-!
# Formats that end with a set

`scanThen` runs a format and goes on with another scan where the format has matched to its end;
`readSet` is the conversion `%[`.
-/

namespace Stdio

/-- The longest text that satisfies `p`, if it is not empty. -/
def readSet (p : Char → Bool) (cs : List Char) : Scan :=
  if cs.takeWhile p = [] then ⟨[], cs, cs = [], cs = []⟩
  else ⟨[.str (cs.takeWhile p)], cs.dropWhile p, cs.dropWhile p = [], false⟩

def scanThen (last : List Char → Scan) : List Directive → List Char → Scan
  | [], cs => last cs
  | .space :: ds, cs =>
    let r := scanThen last ds (cs.dropWhile isSpace)
    { r with eof := r.eof || cs.dropWhile isSpace = [] }
  | .lit _ :: _, [] => ⟨[], [], true, true⟩
  | .lit l :: ds, c :: cs =>
    if c = l then scanThen last ds cs else ⟨[], c :: cs, false, false⟩
  | .conv suppress width k :: ds, cs =>
    match k.read width cs with
    | .fail rest eof inputEnd => ⟨[], rest, eof, inputEnd⟩
    | .ok v rest eof =>
      let r := scanThen last ds rest
      { r with vals := if suppress then r.vals else v :: r.vals, eof := r.eof || eof }

/-- `fscanf(fp, fmt%[p])`. -/
def fscanfSet (fp : File) (fmt : String) (p : Char → Bool) : Scan × File :=
  let r := scanThen (readSet p) (parseFormat fmt) fp.rest
  (r, { fp with rest := r.rest, eof := fp.eof || (r.eof && !fp.bad) })

end Stdio
