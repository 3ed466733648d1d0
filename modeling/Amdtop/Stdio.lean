import Mathlib.Algebra.Group.Nat.Defs
import Mathlib.Data.List.Basic
import Mathlib.Data.List.TakeWhile

/-!
# C strings, text streams and formatted input

A C string is the list of its characters before the terminator, and a stream is the text still
to be read with its end-of-file indicator. `scan` runs a format of `scanf` over a text: blanks in
the format skip blanks, a conversion reads at most its width, and the first mismatch ends it.
-/

namespace Stdio

/-! ## C strings -/

/-- `isspace` in the C locale. -/
def isSpace (c : Char) : Bool :=
  c = ' ' || c = '\t' || c = '\n' || c = '\x0b' || c = '\x0c' || c = '\r'

/-- A character a `%s` reads: no blank and no terminator. -/
def isGraph (c : Char) : Bool := !isSpace c && c ≠ '\x00'

/-- `strncmp(a, b, n) == 0`. -/
def strncmpEq (a b : List Char) (n : ℕ) : Bool := a.take n = b.take n

/-- The string in an array of characters, if a null ends it. -/
def arrayString (array : List Char) : Option (List Char) :=
  if '\x00' ∈ array then some (array.takeWhile (· ≠ '\x00')) else none

/-- `strstr`: the text from the first occurrence of `needle` on. The strings of the files searched
are texts; in one with a null inside, the search would end there. -/
def strstr : List Char → List Char → Option (List Char)
  | [], needle => if needle = [] then some [] else none
  | c :: cs, needle => if needle.isPrefixOf (c :: cs) then some (c :: cs) else strstr cs needle

/-! ## Streams -/

/-- A `FILE *` open for reading. Reads past `rest` report end of file, or, on a `bad` stream,
fail without setting the indicator. -/
structure File where
  rest : List Char
  eof : Bool := false
  bad : Bool := false
deriving DecidableEq, Repr

/-- At most `n` characters, up to and including a newline; what follows them; and whether the
end of the text stopped the read. -/
def takeLine : ℕ → List Char → List Char × List Char × Bool
  | 0, cs => ([], cs, false)
  | _ + 1, [] => ([], [], true)
  | n + 1, c :: cs =>
    if c = '\n' then ([c], cs, false)
    else ((c :: (takeLine n cs).1), (takeLine n cs).2)

/-- `fgets(buf, size, fp)`: the new contents of the buffer, or `none` for a `NULL` result. The end
of the text leaves the buffer as it was, and so does an error that comes before anything is read;
where it comes behind a part of a line the contents are not told. -/
def fgets (size : ℕ) (fp : File) : Option (List Char) × File :=
  let (line, rest, stopped) := takeLine (size - 1) fp.rest
  (if line = [] || (stopped && fp.bad) then none else some line,
    { fp with rest := rest, eof := fp.eof || (stopped && !fp.bad) })

/-- What the successive calls of `fgets` that succeed read, with at most `fuel` of them. -/
def fgetsPieces (size : ℕ) : ℕ → File → List (List Char)
  | 0, _ => []
  | fuel + 1, fp => match fgets size fp with
    | (none, _) => []
    | (some piece, fp) => piece :: fgetsPieces size fuel fp

/-- Each call that succeeds reads a character. -/
def File.pieces (size : ℕ) (fp : File) : List (List Char) :=
  fgetsPieces size (fp.rest.length + 1) fp

/-- The lines successive calls of `getline` return, each with its newline. -/
def getlines : List Char → List (List Char)
  | [] => []
  | c :: cs =>
    if c = '\n' then [c] :: getlines cs
    else match getlines cs with
      | [] => [[c]]
      | l :: ls => (c :: l) :: ls

/-! ## Formats -/

/-- The conversions: decimal, unsigned, hexadecimal, word, character. -/
inductive Conv
  | dec | uns | hex | word | char
deriving DecidableEq, Repr

inductive Directive
  | space
  | lit (c : Char)
  | conv (suppress : Bool) (width : Option ℕ) (k : Conv)
deriving DecidableEq, Repr

def Conv.ofChar (c : Char) : Option Conv :=
  if c = 'd' then some .dec
  else if c = 'u' then some .uns
  else if c = 'x' then some .hex
  else if c = 's' then some .word
  else if c = 'c' then some .char
  else none

/-- The directives of a format; the first argument is the conversion specification read so far,
once its `%` is read. -/
def parseFormatFrom : Option (Bool × Option ℕ) → List Char → List Directive
  | _, [] => []
  | none, f :: fs =>
    if f = '%' then parseFormatFrom (some (false, none)) fs
    else (if isSpace f then .space else .lit f) :: parseFormatFrom none fs
  | some (suppress, width), f :: fs =>
    if f = '*' then parseFormatFrom (some (true, width)) fs
    else if f.isDigit then
      parseFormatFrom (some (suppress, some (10 * width.getD 0 + (f.toNat - 48)))) fs
    else match Conv.ofChar f with
      | some k => .conv suppress width k :: parseFormatFrom none fs
      | none => []

def parseFormat (fmt : String) : List Directive := parseFormatFrom none fmt.toList

/-! ## Scanning -/

/-- What a conversion stores: 32 bits, a string or a character. -/
inductive Val
  | num (v : UInt32)
  | str (s : List Char)
  | chr (c : Char)
deriving DecidableEq, Repr

/-- The longest prefix of at most `n` characters that all satisfy `p`, and the rest. -/
def spanUpTo (p : Char → Bool) : ℕ → List Char → List Char × List Char
  | 0, cs => ([], cs)
  | _ + 1, [] => ([], [])
  | n + 1, c :: cs =>
    if p c then (c :: (spanUpTo p n cs).1, (spanUpTo p n cs).2) else ([], c :: cs)

/-- The value of a digit of a base up to 16. -/
def digitVal (c : Char) : ℕ :=
  if c.isDigit then c.toNat - 48
  else if 'a' ≤ c ∧ c ≤ 'f' then c.toNat - 87
  else if 'A' ≤ c ∧ c ≤ 'F' then c.toNat - 55
  else 16

def isDigitOf (base : ℕ) (c : Char) : Bool := digitVal c < base

def numeral (base : ℕ) (ds : List Char) : ℕ := ds.foldl (fun v c => base * v + digitVal c) 0

/-- How one conversion ends: with a value, or at a mismatch, where `inputEnd` says that the text
ended before the conversion could begin. -/
inductive Read
  | ok (v : Val) (rest : List Char) (eof : Bool)
  | fail (rest : List Char) (eof inputEnd : Bool)
deriving DecidableEq, Repr

def Conv.base : Conv → ℕ
  | .hex => 16
  | _ => 10

/-- `strtol` and `strtoul`, which clamp to 64 bits, and the store into a 32-bit object. -/
def Conv.store (k : Conv) (neg : Bool) (mag : ℕ) : UInt32 :=
  match k with
  | .dec => if neg then UInt32.ofNat (2 ^ 64 - min mag (2 ^ 63)) else .ofNat (min mag (2 ^ 63 - 1))
  | _ =>
    if 2 ^ 64 ≤ mag then UInt32.ofNat (2 ^ 64 - 1)
    else if neg then .ofNat (2 ^ 64 - mag) else .ofNat mag

/-- An optional sign of an integer of at most `w` characters: whether it is a minus, the width
left, and the text after it. -/
def readSign (w : ℕ) : List Char → Bool × ℕ × List Char
  | [] => (false, w, [])
  | c :: cs =>
    if 0 < w ∧ c = '-' then (true, w - 1, cs)
    else if 0 < w ∧ c = '+' then (false, w - 1, cs)
    else (false, w, c :: cs)

/-- The optional prefix `0x` of a hexadecimal integer. -/
def readPrefix (k : Conv) (w : ℕ) : List Char → ℕ × List Char
  | c₀ :: c₁ :: cs =>
    if k = .hex ∧ 2 ≤ w ∧ c₀ = '0' ∧ (c₁ = 'x' ∨ c₁ = 'X') then (w - 2, cs)
    else (w, c₀ :: c₁ :: cs)
  | cs => (w, cs)

/-- An integer conversion, past the blanks before it. -/
def readInt (k : Conv) (width : Option ℕ) (cs : List Char) : Read :=
  let (neg, w, cs) := readSign (width.getD (cs.length + 1)) cs
  let (w, cs) := readPrefix k w cs
  let (ds, rest) := spanUpTo (isDigitOf k.base) w cs
  let eof := rest = [] && ds.length < w
  if ds = [] then .fail rest eof false
  else .ok (.num (k.store neg (numeral k.base ds))) rest eof

/-- A `%s`, past the blanks before it. -/
def readWord (width : Option ℕ) (cs : List Char) : Read :=
  let w := width.getD (cs.length + 1)
  let (word, rest) := spanUpTo (fun c => !isSpace c) w cs
  .ok (.str word) rest (rest = [] && word.length < w)

def readChar : List Char → Read
  | [] => .fail [] true true
  | c :: cs => .ok (.chr c) cs false

def Conv.read (k : Conv) (width : Option ℕ) (cs : List Char) : Read :=
  match k with
  | .char => readChar cs
  | .word => match cs.dropWhile isSpace with
    | [] => .fail [] true true
    | c :: cs => readWord width (c :: cs)
  | _ => match cs.dropWhile isSpace with
    | [] => .fail [] true true
    | c :: cs => readInt k width (c :: cs)

/-- The values assigned, in order; the text left; whether the scan met the end of the text, and
whether it stopped there before a conversion. -/
structure Scan where
  vals : List Val
  rest : List Char
  eof : Bool
  inputEnd : Bool
deriving DecidableEq, Repr

def scan : List Directive → List Char → Scan
  | [], cs => ⟨[], cs, false, false⟩
  | .space :: ds, cs =>
    let r := scan ds (cs.dropWhile isSpace)
    { r with eof := r.eof || cs.dropWhile isSpace = [] }
  | .lit _ :: _, [] => ⟨[], [], true, true⟩
  | .lit l :: ds, c :: cs => if c = l then scan ds cs else ⟨[], c :: cs, false, false⟩
  | .conv suppress width k :: ds, cs =>
    match k.read width cs with
    | .fail rest eof inputEnd => ⟨[], rest, eof, inputEnd⟩
    | .ok v rest eof =>
      let r := scan ds rest
      { r with vals := if suppress then r.vals else v :: r.vals, eof := r.eof || eof }

/-- The number of items assigned, or `EOF`. -/
def Scan.count (r : Scan) : ℤ := if r.inputEnd ∧ r.vals = [] then -1 else r.vals.length

/-- The buffer's string ends with its list: a null inside is not looked for. -/
def sscanf (buf : List Char) (fmt : String) : Scan := scan (parseFormat fmt) buf

def fscanf (fp : File) (fmt : String) : Scan × File :=
  let r := scan (parseFormat fmt) fp.rest
  (r, { fp with rest := r.rest, eof := fp.eof || (r.eof && !fp.bad) })

/-- The objects a scan stores into: item `i` if it was assigned, else what was there. -/
def numAt (vals : List Val) (i : ℕ) (old : UInt32) : UInt32 :=
  match vals[i]? with
  | some (.num v) => v
  | _ => old

def strAt (vals : List Val) (i : ℕ) (old : List Char) : List Char :=
  match vals[i]? with
  | some (.str s) => s
  | _ => old

def chrAt (vals : List Val) (i : ℕ) (old : Char) : Char :=
  match vals[i]? with
  | some (.chr c) => c
  | _ => old

/-! ## Formatted output -/

/-- `%d` of a number that is not negative. -/
def decimal (n : ℕ) : List Char := Nat.toDigits 10 n

/-- Numbers with a separator between them. -/
def printList (sep : Char) : List ℕ → List Char
  | [] => []
  | [n] => decimal n
  | n :: m :: ns => decimal n ++ sep :: printList sep (m :: ns)

/-- `%nd` and `%ns`: blanks up to the minimum width. -/
def padLeft (n : ℕ) (s : List Char) : List Char := List.leftpad n ' ' s

/-- `%-ns`. -/
def padRight (n : ℕ) (s : List Char) : List Char := s.rightpad n ' '

/-- `%d` of 32 bits. -/
def decimalInt (v : UInt32) : List Char :=
  if v.toNat < 2 ^ 31 then decimal v.toNat else '-' :: decimal (2 ^ 32 - v.toNat)

/-- `%0nx`: zeros up to the minimum width. -/
def hexPad (n : ℕ) (v : ℕ) : List Char := List.leftpad n '0' (Nat.toDigits 16 v)

/-- `%0nX`. -/
def hexPadUpper (n : ℕ) (v : ℕ) : List Char := (hexPad n v).map Char.toUpper

end Stdio
