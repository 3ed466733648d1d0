import Amdtop.CpuInfo
import Amdtop.Proofs.Stdio

/-!
# The cores and the threads

The value of an item is written over that of the item before without a terminator. So the threads
are the digits of their number followed by what is left of the cores' (`getCpuCores_iff`).
-/

namespace Amdtop

open Stdio

/-! ## A line -/

theorem overlay_line (l buf : List Char) : ∃ t, overlay (l ++ ['\n']) buf = l ++ '\n' :: t :=
  ⟨'\x00' :: buf.drop (l.length + 2), by simp [overlay]⟩

theorem strncpyChars_plain {value : List Char} (h : ∀ c ∈ value, c ≠ '\x00') (dst t : List Char) :
    strncpyChars dst (value ++ t) value.length = value ++ dst.drop value.length := by
  rw [strncpyChars, List.take_left' rfl, takeWhile_plain fun hc => h _ hc rfl]
  simp

/-- The item has no colon, and is within a line. -/
def PlainItem (item : List Char) : Prop := ∀ c ∈ item, c ≠ '\n' ∧ c ≠ ':' ∧ c ≠ '\x00'

section Line

variable {item : List Char} (hitem : PlainItem item)

include hitem

theorem cpuInfoLine_other {l : List Char} (h : ¬ item <+: l) (buf name : List Char) :
    cpuInfoLine item (overlay (l ++ ['\n']) buf) name = .other := by
  obtain ⟨t, ht⟩ := overlay_line l buf
  have hline : ¬ item <+: l ++ '\n' :: t := mt (prefix_stop fun hmem => (hitem _ hmem).1 rfl).1 h
  rw [cpuInfoLine, ht, Bool.eq_false_iff.2 (mt strncmpEq_iff.1 hline)]
  rfl

/-- The value of the item, up to the line's end. -/
theorem cpuInfoLine_found {pad value : List Char} (hpad : ∀ c ∈ pad, c ≠ ':' ∧ c ≠ '\x00')
    (hvalue : ∀ c ∈ value, c ≠ '\n' ∧ c ≠ '\x00') (buf name : List Char) :
    cpuInfoLine item (overlay (item ++ (pad ++ ':' :: ' ' :: value) ++ ['\n']) buf) name
      = .found (value ++ name.drop value.length) := by
  obtain ⟨t, ht⟩ := overlay_line (item ++ (pad ++ ':' :: ' ' :: value)) buf
  have hbuf : overlay (item ++ (pad ++ ':' :: ' ' :: value) ++ ['\n']) buf
      = (item ++ pad) ++ ':' :: ' ' :: (value ++ '\n' :: t) := by
    rw [ht]
    simp
  have hcmp : strncmpEq ((item ++ pad) ++ ':' :: ' ' :: (value ++ '\n' :: t)) item item.length
      = true := strncmpEq_iff.2 ⟨pad ++ ':' :: ' ' :: (value ++ '\n' :: t), by simp⟩
  have hcolon := findIdx_stop (p := fun c => c = ':' || c = '\x00') (x := ':') rfl
    (a := item ++ pad) (' ' :: (value ++ '\n' :: t)) fun c hc => by
      obtain hc | hc := List.mem_append.1 hc
      · simp [(hitem c hc).2]
      · simp [hpad c hc]
  have hend := findIdx_stop (p := (· = '\n')) (x := '\n') rfl (a := value) t
    fun c hc => by simp [(hvalue c hc).1]
  have hget : ((item ++ pad) ++ ':' :: ' ' :: (value ++ '\n' :: t))[(item ++ pad).length]?
      = some ':' := by
    rw [List.getElem?_append_right le_rfl, Nat.sub_self]
    rfl
  have hdrop : ((item ++ pad) ++ ':' :: ' ' :: (value ++ '\n' :: t)).drop
      ((item ++ pad).length + 2) = value ++ '\n' :: t := by
    rw [List.drop_length_add_append]
    rfl
  rw [hbuf, cpuInfoLine, hcmp, hcolon]
  dsimp only
  rw [if_neg (by decide), hget, if_neg (not_not.2 rfl), hdrop, hend]
  dsimp only
  rw [strncpyChars_plain fun c hc => (hvalue c hc).2]

end Line

/-! ## The loop -/

section Loop

variable {item : List Char} (hitem : PlainItem item) {name value : List Char} {b : Bool}

include hitem in
/-- The loop comes to the first line of the item. -/
theorem cpuInfoLoop_found {pad : List Char} (hpad : ∀ c ∈ pad, c ≠ ':' ∧ c ≠ '\x00')
    (hvalue : ∀ c ∈ value, c ≠ '\n' ∧ c ≠ '\x00') {rest : List Char}
    (hline : '\n' ∉ item ++ (pad ++ ':' :: ' ' :: value))
    (hlen : (item ++ (pad ++ ':' :: ' ' :: value)).length + 1 < 1024) :
    ∀ {before : List (List Char)} {fuel : ℕ} (buf : List Char),
    (∀ l ∈ before, ('\n' ∉ l ∧ l.length + 1 < 1024) ∧ ¬ item <+: l) → before.length < fuel →
    cpuInfoLoop item fuel
        ⟨joinLines before (item ++ (pad ++ ':' :: ' ' :: value) ++ '\n' :: rest), false, b⟩ buf name
      = .done (0, value ++ name.drop value.length)
  | [], fuel + 1, buf, _, _ => by
    rw [cpuInfoLoop, if_neg Bool.false_ne_true, joinLines_nil, fgets_line hline hlen]
    dsimp only [Option.elim_some]
    rw [cpuInfoLine_found hitem hpad hvalue]
  | l :: before, fuel + 1, buf, hbefore, hfuel => by
    rw [List.forall_mem_cons] at hbefore
    obtain ⟨⟨⟨hl, hshort⟩, hother⟩, hbefore⟩ := hbefore
    rw [cpuInfoLoop, if_neg Bool.false_ne_true, joinLines_cons, fgets_line hl hshort]
    dsimp only [Option.elim_some]
    rw [cpuInfoLine_other hitem hother]
    exact cpuInfoLoop_found hpad hvalue hline hlen _ hbefore (Nat.lt_of_succ_lt_succ hfuel)

end Loop

/-! ## The numbers -/

/-- A `%ld` reads digits up to what is none. -/
theorem readLong_digits {ds : List Char} (hne : ds ≠ []) (hd : ∀ c ∈ ds, isDigitOf 10 c = true)
    {rest : List Char} (hrest : ∀ c ∈ rest.head?, isDigitOf 10 c = false) :
    readLong (ds ++ rest) = some (storeLong false (numeral 10 ds), rest) := by
  obtain ⟨c, cs, rfl⟩ := List.exists_cons_of_ne_nil hne
  have hc := hd c List.mem_cons_self
  have hspace : ((c :: cs) ++ rest).dropWhile isSpace = (c :: cs) ++ rest :=
    List.dropWhile_cons_of_neg (by rw [not_isSpace_of_digit (by decide) hc]; decide)
  have hsign : ∀ w, readSign w ((c :: cs) ++ rest) = (false, w, (c :: cs) ++ rest) :=
    fun w => by simp [readSign, ne_sign_of_digit (by decide) hc]
  have hspan : spanUpTo (isDigitOf 10) (((c :: cs) ++ rest).length + 1) ((c :: cs) ++ rest)
      = (c :: cs, rest) := by
    refine spanUpTo_append hd ?_ (Or.inr hrest)
    rw [List.length_append]
    omega
  unfold readLong
  dsimp only
  rw [hspace, hsign]
  dsimp only
  rw [hspan, if_neg hne]

/-- `atoi` of digits and a terminator. -/
theorem atoi_digits {ds : List Char} (hne : ds ≠ []) (hd : ∀ c ∈ ds, isDigitOf 10 c = true)
    (hlt : numeral 10 ds < 2 ^ 63) (t : List Char) :
    atoi (ds ++ '\x00' :: t) = UInt32.ofNat (numeral 10 ds) := by
  have hnull : ∀ c ∈ ('\x00' :: t).head?, isDigitOf 10 c = false := by
    rintro _ ⟨⟩
    decide
  have hmin : min (numeral 10 ds) (2 ^ 63 - 1) = numeral 10 ds := by omega
  rw [atoi, readLong_digits hne hd hnull, storeLong, if_neg Bool.false_ne_true, hmin]
  exact UInt64.toUInt32_ofNat' _

/-! ## The cores and the threads -/

/-- The first line of the item has the number as its value. -/
def HasValue (lines : List (List Char)) (item : List Char) (n : ℕ) : Prop :=
  ∃ pad, (∀ c ∈ pad, c ≠ ':' ∧ c ≠ '\x00')
    ∧ lines.find? (item.isPrefixOf ·) = some (item ++ (pad ++ ':' :: ' ' :: decimal n))

theorem decimal_plain (n : ℕ) : ∀ c ∈ decimal n, c ≠ '\n' ∧ c ≠ '\x00' := by
  intro c hc
  have hdigit := decimal_digits n c hc
  constructor <;> rintro rfl <;> exact absurd hdigit (by decide)

section Cores

variable {lines : List (List Char)} (hlines : ∀ l ∈ lines, '\n' ∉ l ∧ l.length + 1 < 1024)
  (last : List Char) {fuel : ℕ} (hfuel : lines.length < fuel)

include hlines hfuel in
theorem parseCpuInfo_value {item : String} (hitem : PlainItem item.toList) {n : ℕ}
    (h : HasValue lines item.toList n) (buf name : List Char) :
    parseCpuInfo fuel (some ⟨joinLines lines last, false, false⟩) buf item name
      = .done (0, decimal n ++ name.drop (decimal n).length) := by
  obtain ⟨pad, hpad, hfind⟩ := h
  obtain ⟨-, before, after, rfl, hbefore⟩ := List.find?_eq_some_iff_append.1 hfind
  obtain ⟨hnewline, hlen⟩ := hlines _ (List.mem_append_right before List.mem_cons_self)
  rw [List.length_append] at hfuel
  rw [parseCpuInfo, joinLines_append_lines, joinLines_cons]
  refine cpuInfoLoop_found hitem hpad (decimal_plain n) hnewline hlen buf (fun l hl => ?_)
    (by omega)
  refine ⟨hlines l (List.mem_append_left _ hl), fun hpre => ?_⟩
  have hnot := hbefore l hl
  rw [List.isPrefixOf_iff_prefix.2 hpre] at hnot
  exact absurd hnot (by decide)

/-- What is left of the cores behind the threads. -/
theorem value_second {n m : ℕ} (hn : (decimal n).length < 1024) (hm : (decimal m).length < 1024) :
    ∃ t, decimal m ++ (decimal n ++ (List.replicate 1024 '\x00').drop (decimal n).length).drop
        (decimal m).length
      = (decimal m ++ (decimal n).drop (decimal m).length) ++ '\x00' :: t := by
  refine ⟨List.replicate (1024 - (decimal n).length - ((decimal m).length - (decimal n).length) - 1)
    '\x00', ?_⟩
  rw [List.drop_append, List.drop_replicate, List.drop_replicate, ← List.replicate_succ,
    List.append_assoc]
  congr 3
  omega

/-- The digits of the threads and what is left of the cores'. -/
theorem atoi_second {n m : ℕ} (hn : n < 2 ^ 31) (hm : m < 2 ^ 31) (t : List Char) :
    atoi ((decimal m ++ (decimal n).drop (decimal m).length) ++ '\x00' :: t)
      = UInt32.ofNat (m * 10 ^ ((decimal n).length - (decimal m).length)
          + n % 10 ^ ((decimal n).length - (decimal m).length)) := by
  have hdigits : ∀ c ∈ decimal m ++ (decimal n).drop (decimal m).length, isDigitOf 10 c = true := by
    intro c hc
    obtain hc | hc := List.mem_append.1 hc
    · exact decimal_digits m c hc
    · exact decimal_digits n c ((List.drop_sublist _ _).subset hc)
  have hlen : (decimal m ++ (decimal n).drop (decimal m).length).length ≤ 10 := by
    have := length_decimal_int hn
    have := length_decimal_int hm
    rw [List.length_append, List.length_drop]
    omega
  have hlt := (numeral_lt _ hdigits).trans_le (Nat.pow_le_pow_right (by decide) hlen)
  rw [atoi_digits (by simp [decimal_ne_nil]) hdigits (hlt.trans (by decide)), numeral_append_pow,
    numeral_decimal, numeral_drop_decimal, List.length_drop]

theorem coresItem : PlainItem "cpu cores".toList := forall_mem_of_all (by decide)

theorem siblingsItem : PlainItem "siblings".toList := forall_mem_of_all (by decide)

include hlines hfuel in
theorem getCpuCores_values {n m : ℕ} (hn : n < 2 ^ 31) (hm : m < 2 ^ 31)
    (hcores : HasValue lines "cpu cores".toList n) (hthreads : HasValue lines "siblings".toList m)
    (buf buf' : List Char) (hwCore threads : UInt32) :
    getCpuCores fuel (some ⟨joinLines lines last, false, false⟩) buf buf' (some hwCore)
      (some threads) = .done (0, some (.ofNat n),
        some (.ofNat (m * 10 ^ ((decimal n).length - (decimal m).length)
          + n % 10 ^ ((decimal n).length - (decimal m).length)))) := by
  have hlenn := length_decimal_int hn
  have hlenm := length_decimal_int hm
  have hfirst : atoi (decimal n ++ (List.replicate 1024 '\x00').drop (decimal n).length)
      = .ofNat n := by
    have hlt : numeral 10 (decimal n) < 2 ^ 63 := by
      rw [numeral_decimal]
      omega
    have hsucc : 1024 - (decimal n).length = 1023 - (decimal n).length + 1 := by omega
    rw [List.drop_replicate, hsucc, List.replicate_succ, atoi_digits (decimal_ne_nil n)
      (decimal_digits n) hlt, numeral_decimal]
  obtain ⟨t, ht⟩ := value_second (n := n) (m := m) (by omega) (by omega)
  rw [getCpuCores, cpuField, parseCpuInfo_value hlines last hfuel coresItem hcores]
  dsimp only [Outcome.bind]
  rw [if_neg (by decide), if_neg (by decide), cpuField,
    parseCpuInfo_value hlines last hfuel siblingsItem hthreads, hfirst, ht]
  dsimp only [Outcome.bind]
  rw [if_neg (by decide), atoi_second hn hm]

include hlines hfuel in
/-- The cores are always right, and the threads just if what is left of the cores' digits behind
theirs makes no other number of 32 bits. -/
theorem getCpuCores_iff {n m : ℕ} (hn : n < 2 ^ 31) (hm : m < 2 ^ 31)
    (hcores : HasValue lines "cpu cores".toList n) (hthreads : HasValue lines "siblings".toList m)
    (buf buf' : List Char) (hwCore threads : UInt32) :
    getCpuCores fuel (some ⟨joinLines lines last, false, false⟩) buf buf' (some hwCore)
        (some threads) = .done (0, some (.ofNat n), some (.ofNat m))
      ↔ (m * 10 ^ ((decimal n).length - (decimal m).length)
          + n % 10 ^ ((decimal n).length - (decimal m).length)) % 2 ^ 32 = m := by
  rw [getCpuCores_values hlines last hfuel hn hm hcores hthreads]
  simp only [Outcome.done.injEq, Prod.mk.injEq, true_and, Option.some.injEq, ← UInt32.toNat_inj,
    UInt32.toNat_ofNat', Nat.mod_eq_of_lt (hm.trans (by decide : 2 ^ 31 < 2 ^ 32))]

end Cores

/-- A buffer that held nothing. -/
def emptyBuf : List Char := List.replicate 1024 '\x00'

/-- The lines of a machine with so many cores and threads. -/
def cpuLines (n m : ℕ) : List (List Char) :=
  ["model name\t: AMD Ryzen".toList, "siblings\t: ".toList ++ decimal m,
    "cpu cores\t: ".toList ++ decimal n]

theorem cpuLines_cores (n m : ℕ) : HasValue (cpuLines n m) "cpu cores".toList n :=
  ⟨['\t'], forall_mem_of_all (by decide), rfl⟩

theorem cpuLines_siblings (n m : ℕ) : HasValue (cpuLines n m) "siblings".toList m :=
  ⟨['\t'], forall_mem_of_all (by decide), rfl⟩

theorem getCpuCores_eight : getCpuCores 4 (some ⟨joinLines (cpuLines 8 16) [], false, false⟩)
    emptyBuf emptyBuf (some 0) (some 0) = .done (0, some 8, some 16) :=
  (getCpuCores_iff (by decide) [] (by decide) (by decide) (by decide) (cpuLines_cores 8 16)
    (cpuLines_siblings 8 16) emptyBuf emptyBuf 0 0).2 (by decide)

theorem getCpuCores_sixteen : ¬ ∀ (lines : List (List Char)) (last : List Char) (n m fuel : ℕ)
    (buf buf' : List Char) (hwCore threads : UInt32),
    (∀ l ∈ lines, '\n' ∉ l ∧ l.length + 1 < 1024) → lines.length < fuel → n < 2 ^ 31 → m < 2 ^ 31 →
    HasValue lines "cpu cores".toList n → HasValue lines "siblings".toList m →
    getCpuCores fuel (some ⟨joinLines lines last, false, false⟩) buf buf' (some hwCore)
      (some threads) = .done (0, some (.ofNat n), some (.ofNat m)) := by
  intro h
  have hlines : ∀ l ∈ cpuLines 16 8, '\n' ∉ l ∧ l.length + 1 < 1024 := by decide
  have hright := h (cpuLines 16 8) [] 16 8 4 emptyBuf emptyBuf 0 0 hlines (by decide) (by decide)
    (by decide) (cpuLines_cores 16 8) (cpuLines_siblings 16 8)
  rw [getCpuCores_values hlines [] (by decide) (by decide) (by decide) (cpuLines_cores 16 8)
    (cpuLines_siblings 16 8)] at hright
  exact absurd hright (by decide)

end Amdtop
