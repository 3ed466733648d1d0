import Amdtop.Proofs.Stdio
import Amdtop.RingName

/-!
# A ring's name read back

What `parseRingInfo` makes of a printed name is the ring's kind, its numbers and the name itself
(`parseRingInfo_entry`).
-/

namespace Amdtop

open Stdio

/-! ## The arrays -/

theorem strncpyChars_fits {src : List Char} {n : ℕ} (hnull : '\x00' ∉ src) (hlen : src.length ≤ n)
    (dst : List Char) :
    strncpyChars dst src n = src ++ List.replicate (n - src.length) '\x00' ++ dst.drop n := by
  rw [strncpyChars, List.take_of_length_le hlen, takeWhile_plain hnull]

/-- A string that leaves room for its null. -/
theorem RingArray.strncpy_string (array : RingArray) {src : List Char} (hnull : '\x00' ∉ src)
    (hlen : src.length < ringNameSize) : arrayString (array.strncpy src).1 = some src := by
  obtain ⟨k, hk⟩ : ∃ k, ringNameSize - src.length = k + 1 :=
    ⟨ringNameSize - src.length - 1, by omega⟩
  have hcopy : (array.strncpy src).1
      = src ++ '\x00' :: (List.replicate k '\x00' ++ array.1.drop ringNameSize) := by
    refine (strncpyChars_fits hnull hlen.le array.1).trans ?_
    rw [hk, List.replicate_succ]
    simp
  rw [arrayString, hcopy, if_pos (by simp), (span_stop (by decide) _ _).1, takeWhile_plain hnull]

namespace RingName

/-! ## The text -/

theorem length_dotted : ∀ (ns : List RingNumber), (dotted ns).length ≤ 11 * ns.length - 1
  | [] => le_rfl
  | [n] => length_decimal_int n.lt
  | n :: m :: ns => by
    have hn := length_decimal_int n.lt
    have ih := length_dotted (m :: ns)
    simp only [dotted, List.map_cons, printList, List.length_append, List.length_cons] at ih ⊢
    omega

theorem text_plain (r : RingName) : '\x00' ∉ r.text := by
  have hlabel : '\x00' ∉ r.label := by
    unfold label
    split <;> decide
  intro h
  obtain h | h := List.mem_append.1 h
  · exact hlabel h
  · obtain h | h := printList_plain '.' _ _ h <;> exact absurd h (by decide)

/-- The longest names have three numbers of ten digits behind `comp_`. -/
theorem length_text (r : RingName) : r.text.length ≤ 37 := by
  have hdotted := length_dotted r.numbers
  have hlabel : r.label.length + (11 * r.numbers.length - 1) ≤ 37 := by
    unfold label numbers
    split <;> simp
  rw [text, List.length_append]
  omega

theorem length_entry (r : RingName) : r.entry.length < ringNameSize := by
  have htext := length_text r
  rw [entry, List.length_append]
  have hprefix : ringPrefix.length = 12 := rfl
  have hsize : ringNameSize = 50 := rfl
  omega

def greatest : RingNumber := ⟨2 ^ 31 - 1, by decide⟩

example : (comp greatest greatest greatest).entry.length + 1 = ringNameSize := by decide

/-! ## The scan -/

/-- The format of so many numbers with dots between them. -/
def numbersFormat : ℕ → List Directive
  | 0 => []
  | 1 => [.conv false none .dec]
  | n + 2 => .conv false none .dec :: .lit '.' :: numbersFormat (n + 1)

theorem scan_dotted : ∀ ns : List RingNumber, (scan (numbersFormat ns.length) (dotted ns)).vals
    = ns.map fun n => .num (.ofNat n.val)
  | [] => rfl
  | [n] => by
    have hread := read_dec_end (decimal_digits n.val) (decimal_ne_nil n.val)
    rw [numeral_decimal, store_of_lt (n.lt.trans (by decide))] at hread
    exact scan_conv_vals hread []
  | n :: m :: ns => by
    have hread := read_int (s := []) (by simp) (k := .dec) (by simp) (w := none) (b := '.')
      (r := dotted (m :: ns)) (decimal_digits n.val) (decimal_ne_nil n.val) (by simp) (by decide)
      nofun
    rw [show Conv.dec.base = 10 from rfl, numeral_decimal, store_of_lt (n.lt.trans (by decide)),
      List.nil_append] at hread
    have hvals := scan_conv_vals hread (.lit '.' :: numbersFormat (m :: ns).length)
    rw [scan_lit, scan_dotted (m :: ns)] at hvals
    exact hvals

/-- The number as a record holds it. -/
def int32 (n : RingNumber) : Int32 := (UInt32.ofNat n.val).toInt32

theorem toInt_int32 (n : RingNumber) : (int32 n).toInt = n.val := by
  have hbits : (int32 n).toInt = (BitVec.ofNat 32 n.val).toInt := rfl
  have hlt := n.lt
  rw [hbits, BitVec.toInt_ofNat', Int.bmod_eq_of_le] <;> omega

/-- A format of the label and as many numbers as the name has. -/
theorem ringNumbers_printed (fmt : String) (label : List Char) (ns : List RingNumber) {n : ℕ}
    (hn : ns.length = n) (h : parseFormat fmt = label.map .lit ++ numbersFormat n) :
    ringNumbers (label ++ dotted ns) fmt = ns.map int32 := by
  subst hn
  rw [ringNumbers, sscanf, h, scan_lits, scan_dotted, List.filterMap_map]
  exact List.filterMap_eq_map_iff_forall_eq_some.2 fun n _ => rfl

theorem ringSingle_printed (fmt : String) (label : List Char) (a : RingNumber)
    (h : parseFormat fmt = label.map .lit ++ numbersFormat 1) :
    ringSingle (label ++ dotted [a]) fmt = (int32 a, -1, -1) := by
  rw [ringSingle, ringNumbers_printed fmt label [a] rfl h]
  rfl

theorem ringTriple_printed (fmt : String) (label : List Char) (a b c : RingNumber)
    (h : parseFormat fmt = label.map .lit ++ numbersFormat 3) :
    ringTriple (label ++ dotted [a, b, c]) fmt = (int32 a, int32 b, int32 c) := by
  rw [ringTriple, ringNumbers_printed fmt label [a, b, c] rfl h]
  rfl

/-! ## The record -/

theorem take_entry (r : RingName) : r.entry.take ringNameSize = r.entry :=
  List.take_of_length_le r.length_entry.le

theorem drop_entry (r : RingName) : (r.entry.drop 12).take ringNameSize = r.text := by
  have hdrop : r.entry.drop 12 = r.text := List.drop_left' rfl
  rw [hdrop]
  exact List.take_of_length_le (r.length_text.trans (by decide))

/-- Behind `uvd_` is a number or another label. -/
theorem ringNumbers_uvdEnc (ns : List RingNumber) :
    ringNumbers ("uvd_enc_".toList ++ dotted ns) "uvd_%d" = [] := by
  have hformat : parseFormat "uvd_%d" = "uvd_".toList.map .lit ++ numbersFormat 1 := by decide
  have hscan := scan_lits (numbersFormat 1) ("enc_".toList ++ dotted ns) "uvd_".toList
  rw [ringNumbers, sscanf, hformat]
  change List.filterMap _ (scan _ ("uvd_".toList ++ ("enc_".toList ++ dotted ns))).vals = []
  rw [hscan]
  simp [numbersFormat, scan, Conv.read, isSpace, readInt, readSign, readPrefix, spanUpTo,
    isDigitOf, digitVal, Conv.base]

/-- The two attempts at a UVD ring. -/
def uvdValues (p : List Char) : Int32 × Int32 × Int32 :=
  match ringNumbers p "uvd_%d", ringNumbers p "uvd_enc_%d.%d" with
  | [a], _ => (a, -1, -1)
  | _, [a, b] => (a, b, -1)
  | _, _ => (-1, -1, -1)

theorem uvdValues_printed (a : RingNumber) :
    uvdValues ("uvd_".toList ++ dotted [a]) = (int32 a, -1, -1) := by
  rw [uvdValues, ringNumbers_printed "uvd_%d" "uvd_".toList [a] (n := 1) rfl (by decide)]
  rfl

theorem uvdValues_printedEnc (a b : RingNumber) :
    uvdValues ("uvd_enc_".toList ++ dotted [a, b]) = (int32 a, int32 b, -1) := by
  rw [uvdValues, ringNumbers_uvdEnc,
    ringNumbers_printed "uvd_enc_%d.%d" "uvd_enc_".toList [a, b] (n := 2) rfl (by decide)]
  rfl

/-- What is stored of the number at `i`. -/
def storedValue (r : RingName) (i : ℕ) : Int32 := (r.numbers[i]?.map int32).getD (-1)

theorem storedValue_toInt (r : RingName) (i : ℕ) : (r.storedValue i).toInt = r.value i := by
  unfold storedValue value
  rcases r.numbers[i]? with _ | n
  · rfl
  · exact toInt_int32 n

/-- The record of the ring. -/
def record (gpuRing : AmdGpuRingInfo) (r : RingName) (values : Int32 × Int32 × Int32) :
    AmdGpuRingInfo :=
  { gpuRing with name := r.entry, shortname := r.text, type := r.type, values }

/-- In each case the prefixes that are compared select the branch by computation. -/
theorem parseRingInfo_record (gpuRing : AmdGpuRingInfo) (r : RingName) :
    parseRingInfo gpuRing r.entry
      = r.record gpuRing (r.storedValue 0, r.storedValue 1, r.storedValue 2) := by
  unfold parseRingInfo
  rw [drop_entry, take_entry]
  rcases r with (_ | a) | a | ⟨a, b, c⟩ | ⟨a, b, c⟩ | a | ⟨a, b⟩ | a
  · rfl
  · exact congrArg (record gpuRing (gfx (some a)))
      (ringSingle_printed "gfx_%d" "gfx_".toList a (by decide))
  · exact congrArg (record gpuRing (sdma a))
      (ringSingle_printed "sdma%d" "sdma".toList a (by decide))
  · exact congrArg (record gpuRing (comp a b c))
      (ringTriple_printed "comp_%d.%d.%d" "comp_".toList a b c (by decide))
  · exact congrArg (record gpuRing (kiq a b c))
      (ringTriple_printed "kiq_%d.%d.%d" "kiq_".toList a b c (by decide))
  · exact congrArg (record gpuRing (uvd a)) (uvdValues_printed a)
  · exact congrArg (record gpuRing (uvdEnc a b)) (uvdValues_printedEnc a b)
  · exact congrArg (record gpuRing (vce a))
      (ringSingle_printed "vce%d" "vce".toList a (by decide))

/-- What a record says of its ring. -/
structure Recovered (r : RingName) (gpuRing : AmdGpuRingInfo) (arrays : RingArrays) : Prop where
  type : gpuRing.type = r.type
  value₀ : gpuRing.values.1.toInt = r.value 0
  value₁ : gpuRing.values.2.1.toInt = r.value 1
  value₂ : gpuRing.values.2.2.toInt = r.value 2
  name : gpuRing.name = r.entry
  name_array : arrayString arrays.name.1 = some r.entry
  shortname : gpuRing.shortname = r.text
  shortname_array : arrayString arrays.shortname.1 = some r.text

end RingName

/-- A printed name gives back its ring. -/
theorem parseRingInfo_entry (gpuRing : AmdGpuRingInfo) (arrays : RingArrays) (r : RingName) :
    r.Recovered (parseRingInfo gpuRing r.entry) (arrays.copy r.entry) := by
  have hentry : '\x00' ∉ r.entry := by
    intro h
    obtain h | h := List.mem_append.1 h
    · exact absurd h (by decide)
    · exact r.text_plain h
  have hdrop : r.entry.drop 12 = r.text := List.drop_left' rfl
  rw [RingName.parseRingInfo_record]
  refine ⟨rfl, r.storedValue_toInt 0, r.storedValue_toInt 1, r.storedValue_toInt 2, rfl, ?_, rfl,
    ?_⟩
  · exact arrays.name.strncpy_string hentry r.length_entry
  · rw [RingArrays.copy, hdrop]
    exact arrays.shortname.strncpy_string r.text_plain (r.length_text.trans_lt (by decide))

end Amdtop
