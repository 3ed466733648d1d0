import Amdtop.DebugText
import Amdtop.Proofs.Stdio

/-!
# The client records read back

A printed record scans to its fields while its `pid` and `uid` have at most five digits
(`scan_client`); with more, the field that is too long is cut at the scanner's width and the record
stored is another one (`client_cut`). The loop keeps the place in the file: what is left, past
blanks, is the records still to be read.
-/

namespace Amdtop

open Stdio

/-! ## Fields -/

theorem scan_word_field {w n : ℕ} {word : List Char} (hg : ∀ c ∈ word, isGraph c = true)
    (hne : word ≠ []) (hw : word.length ≤ w) (ds : List Directive) (rest : List Char) :
    scan (.conv false (some w) .word :: ds) (padLeft n word ++ ' ' :: rest) =
      { scan ds (' ' :: rest) with vals := .str word :: (scan ds (' ' :: rest)).vals } := by
  refine scan_conv ?_ ds
  rw [padLeft, List.leftpad, List.append_assoc]
  exact read_word (blanks_replicate _) (fun c hc => isSpace_of_isGraph (hg c hc)) hne
    (by simpa using hw) isSpace_blank

theorem blank_padLeft (n : ℕ) (s rest : List Char) :
    ' ' :: (padLeft n s ++ rest) = List.replicate (n - s.length + 1) ' ' ++ (s ++ rest) := by
  simp [padLeft, List.leftpad, List.replicate_succ]

theorem scan_num_field {k : Conv} (hk : k = .dec ∨ k = .uns) {w n : ℕ} {v : UInt32} {b : Char}
    (hw : (decimal v.toNat).length ≤ w) (hb : isDigitOf 10 b = false) (ds : List Directive)
    (rest : List Char) :
    scan (.space :: .conv false (some w) k :: ds) (' ' :: (padLeft n (decimal v.toNat) ++ b :: rest))
      = { scan ds (b :: rest) with vals := .num v :: (scan ds (b :: rest)).vals } := by
  have hbase : k.base = 10 := by rcases hk with rfl | rfl <;> rfl
  have h := read_int (k := k) (blanks_replicate (n - (decimal v.toNat).length + 1)) (r := rest)
    (b := b) (by rcases hk with rfl | rfl <;> simp) (by rw [hbase]; exact decimal_digits v.toNat)
    (decimal_ne_nil _) (show ∀ w' ∈ some w, (decimal v.toNat).length ≤ w' by simpa using hw)
    (by rw [hbase]; exact hb) (by rcases hk with rfl | rfl <;> simp)
  rw [hbase, store_decimal] at h
  rw [scan_space_conv (by rcases hk with rfl | rfl <;> simp), blank_padLeft, scan_conv h]

/-- A number with more digits than the width is read as another one. -/
theorem scan_num_cut {w n : ℕ} (hw : 0 < w) {v : UInt32}
    (hv : 10 ^ w ≤ v.toNat) (ds : List Directive) (rest : List Char) :
    ∃ u vs, u ≠ v ∧ (scan (.space :: .conv false (some w) .dec :: ds)
      (' ' :: (padLeft n (decimal v.toNat) ++ rest))).vals = .num u :: vs := by
  have hlen : w ≤ (decimal v.toNat).length := by
    by_contra h
    have := (length_decimal_le (n := v.toNat) hw).1 (by omega)
    omega
  have hread := read_int_cut (blanks_replicate (n - (decimal v.toNat).length + 1)) (k := .dec)
    (by simp) hw (r := rest) (decimal_digits v.toNat) hlen (by simp)
  rw [show Conv.dec.base = 10 from rfl] at hread
  have hlt : numeral 10 ((decimal v.toNat).take w) < 10 ^ w := by
    have := numeral_lt (b := 10) ((decimal v.toNat).take w)
      fun c hc => decimal_digits _ c (List.mem_of_mem_take hc)
    rwa [List.length_take, Nat.min_eq_left hlen] at this
  have hv32 := v.toNat_lt
  have hscan := congrArg Scan.vals (scan_conv hread ds)
  rw [scan_space_conv (by simp), blank_padLeft]
  refine ⟨_, _, ?_, hscan⟩
  rw [store_of_lt (by omega)]
  intro h
  have := congrArg UInt32.toNat h
  rw [UInt32.toNat_ofNat', Nat.mod_eq_of_lt (by omega)] at this
  omega

/-! ## Records -/

theorem parse_clientFormat : parseFormat clientFormat =
    [.conv false (some 20) .word, .space, .conv false (some 5) .dec, .space,
      .conv false (some 3) .dec, .space, .space, .space, .conv false none .char,
      .space, .space, .space, .space, .conv false none .char, .space, .conv false (some 5) .dec,
      .space, .conv false (some 10) .uns, .space] := by decide

section Record

variable {r : AmdGpuClientInfo} (hr : r.Valid) (tail : List Char)

/-- The end of a record, from its `uid` on. -/
def uidText (r : AmdGpuClientInfo) (tail : List Char) : List Char :=
  padLeft 5 (decimal r.uid.toNat) ++ ' ' :: (padLeft 10 (decimal r.magic.toNat) ++ '\n' :: tail)

theorem printClient_append (r : AmdGpuClientInfo) (tail : List Char) :
    printClient r ++ tail = padLeft 20 r.command ++ ' ' :: (padLeft 5 (decimal r.pid.toNat) ++
      ' ' :: (padLeft 3 (decimal r.dev.toNat) ++ ' ' :: (' ' :: ' ' :: r.master ::
        (' ' :: ' ' :: ' ' :: ' ' :: r.a :: ' ' :: uidText r tail)))) := by
  simp [printClient, uidText]

theorem isSpace_flag {c : Char} (h : c = 'y' ∨ c = 'n') : isSpace c = false := by
  rcases h with rfl | rfl <;> decide

include hr in
/-- The scan of a record whose `pid` fits, up to its `uid`. -/
theorem scan_client_uid (hpid : r.pid.toNat < 10 ^ 5) :
    scan (parseFormat clientFormat) (printClient r ++ tail) =
      { scan [.space, .conv false (some 5) .dec, .space, .conv false (some 10) .uns, .space]
          (' ' :: uidText r tail) with
        vals := .str r.command :: .num r.pid :: .num r.dev :: .chr r.master :: .chr r.a ::
          (scan [.space, .conv false (some 5) .dec, .space, .conv false (some 10) .uns, .space]
            (' ' :: uidText r tail)).vals } := by
  have hb : isDigitOf 10 ' ' = false := by decide
  have hpid' := (length_decimal_le (k := 5) (by omega)).2 hpid
  have hdev : (decimal r.dev.toNat).length ≤ 3 :=
    (length_decimal_le (by omega)).2 (lt_of_le_of_lt hr.dev_le (by omega))
  have h3 : ∀ b ∈ [' ', ' ', ' '], isSpace b = true := blanks_replicate 3
  have h4 : ∀ b ∈ [' ', ' ', ' ', ' '], isSpace b = true := blanks_replicate 4
  have hmaster := scan_space_char (isSpace_flag hr.master) h3
  have ha := scan_space_char (isSpace_flag hr.a) h4
  simp only [List.cons_append, List.nil_append] at hmaster ha
  rw [parse_clientFormat, printClient_append, scan_word_field hr.graph hr.pos hr.command_le,
    scan_num_field (Or.inl rfl) hpid' hb, scan_num_field (Or.inl rfl) hdev hb, scan_space_space,
    scan_space_space, hmaster, scan_space_space, scan_space_space, scan_space_space, ha]

/-- The items of a whole record. -/
def clientVals (r : AmdGpuClientInfo) : List Val :=
  [.str r.command, .num r.pid, .num r.dev, .chr r.master, .chr r.a, .num r.uid, .num r.magic]

include hr in
/-- A record with short numbers is read whole, with the blanks after it. -/
theorem scan_client (hpid : r.pid.toNat < 10 ^ 5) (huid : r.uid.toNat < 10 ^ 5) :
    scan (parseFormat clientFormat) (printClient r ++ tail) =
      ⟨clientVals r, tail.dropWhile isSpace, tail.dropWhile isSpace = [], false⟩ := by
  have huid' := (length_decimal_le (k := 5) (by omega)).2 huid
  have hmagic : (decimal r.magic.toNat).length ≤ 10 :=
    (length_decimal_le (by omega)).2 (lt_trans r.magic.toNat_lt (by omega))
  have hend : ('\n' :: tail).dropWhile isSpace = tail.dropWhile isSpace := by
    simp [isSpace_newline]
  rw [scan_client_uid hr tail hpid, uidText,
    scan_num_field (Or.inl rfl) huid' (by decide), scan_num_field (Or.inr rfl) hmagic (by decide),
    scan_space, hend]
  simp [clientVals]

/-- What the scan of a record with a long number stores is another record. -/
theorem client_cut (hr : r.Valid) (h : ¬ (r.pid.toNat < 10 ^ 5 ∧ r.uid.toNat < 10 ^ 5))
    (info : AmdGpuClientInfo) :
    info.assign (scan (parseFormat clientFormat) (printClient r ++ tail)).vals ≠ r := by
  by_cases hpid : r.pid.toNat < 10 ^ 5
  · obtain ⟨u, vs, hu, hvals⟩ := scan_num_cut (w := 5) (n := 5) (by omega)
      (show 10 ^ 5 ≤ r.uid.toNat by omega) [.space, .conv false (some 10) .uns, .space]
      (' ' :: (padLeft 10 (decimal r.magic.toNat) ++ '\n' :: tail))
    rw [scan_client_uid hr tail hpid, uidText, hvals]
    intro he
    exact hu (congrArg AmdGpuClientInfo.uid he)
  · obtain ⟨u, vs, hu, hvals⟩ := scan_num_cut (w := 5) (n := 5) (by omega)
      (show 10 ^ 5 ≤ r.pid.toNat by omega)
      [.space, .conv false (some 3) .dec, .space, .space, .space, .conv false none .char,
        .space, .space, .space, .space, .conv false none .char, .space,
        .conv false (some 5) .dec, .space, .conv false (some 10) .uns, .space]
      (' ' :: (padLeft 3 (decimal r.dev.toNat) ++ ' ' :: (' ' :: ' ' :: r.master ::
        (' ' :: ' ' :: ' ' :: ' ' :: r.a :: ' ' :: uidText r tail))))
    rw [parse_clientFormat, printClient_append, scan_word_field hr.graph hr.pos hr.command_le,
      hvals]
    intro he
    exact hu (congrArg AmdGpuClientInfo.pid he)

theorem assign_clientVals (info r : AmdGpuClientInfo) : info.assign (clientVals r) = r := rfl

end Record

/-! ## The loop -/

section Loop

/-- The numbers a record may have for the scanner's widths to hold them. -/
def AmdGpuClientInfo.Short (r : AmdGpuClientInfo) : Prop :=
  r.pid.toNat < 10 ^ 5 ∧ r.uid.toNat < 10 ^ 5

instance (r : AmdGpuClientInfo) : Decidable r.Short := inferInstanceAs (Decidable (_ ∧ _))

/-- What is left of the file is `records`, past blanks. -/
structure AtRecords (fp : File) (records : List AmdGpuClientInfo) : Prop where
  rest : fp.rest.dropWhile isSpace = (records.flatMap printClient).dropWhile isSpace
  eof : fp.eof = true → records = []
  good : fp.bad = false

theorem fscanf_at {fp : File} {records : List AmdGpuClientInfo} (h : AtRecords fp records) :
    (fscanf fp clientFormat).1 =
      scan (parseFormat clientFormat) (records.flatMap printClient) := by
  show scan (parseFormat clientFormat) fp.rest = _
  rw [parse_clientFormat, ← scan_dropWhile (by simp), h.rest, scan_dropWhile (by simp)]

theorem records_eq_nil {records : List AmdGpuClientInfo} (hv : ∀ r ∈ records, r.Valid)
    (h : (records.flatMap printClient).dropWhile isSpace = []) : records = [] := by
  rcases records with _ | ⟨r, rs⟩
  · rfl
  · obtain ⟨c, cs, hc⟩ := List.exists_cons_of_ne_nil (hv r (by simp)).pos
    have hg := isSpace_of_isGraph ((hv r (by simp)).graph c (by simp [hc]))
    have hs := List.dropWhile_eq_nil_iff.1 h c
      (List.mem_flatMap.2 ⟨r, by simp, by simp [printClient, padLeft, List.leftpad, hc]⟩)
    rw [hg] at hs
    cases hs

theorem at_next {fp : File} {r : AmdGpuClientInfo} {rs : List AmdGpuClientInfo}
    (hv : ∀ r' ∈ r :: rs, r'.Valid) (hs : r.Short) (h : AtRecords fp (r :: rs)) :
    (fscanf fp clientFormat).1.vals = clientVals r ∧ AtRecords (fscanf fp clientFormat).2 rs := by
  have hscan := fscanf_at h
  rw [List.flatMap_cons, scan_client (hv r (by simp)) _ hs.1 hs.2] at hscan
  have hfp : (fscanf fp clientFormat).2 =
      { fp with
        rest := (fscanf fp clientFormat).1.rest
        eof := fp.eof || ((fscanf fp clientFormat).1.eof && !fp.bad) } := rfl
  refine ⟨by rw [hscan], ?_, ?_, ?_⟩ <;> rw [hfp, hscan]
  · simp only [List.dropWhile_idempotent]
  · intro he
    simp only [h.good, Bool.not_false, Bool.and_true, Bool.or_eq_true, decide_eq_true_eq] at he
    rcases he with he | he
    · exact absurd (h.eof he) (by simp)
    · exact records_eq_nil (fun r' hr' => hv r' (List.mem_cons_of_mem _ hr')) he
  · exact h.good

/-- The loop leaves the records it has stored as they are. -/
theorem clientLoop_frame : ∀ (left : ℕ) (fp : File) (clientInfo : List AmdGpuClientInfo) (n : ℕ),
    (clientLoop left fp clientInfo n).1.take n = clientInfo.take n
      ∧ n ≤ (clientLoop left fp clientInfo n).2
  | 0, _, _, _ => ⟨rfl, le_rfl⟩
  | left + 1, fp, clientInfo, n => by
    unfold clientLoop
    split_ifs with he
    · exact ⟨rfl, le_rfl⟩
    · simp only []
      have hmod : (clientInfo.modify n (·.assign (fscanf fp clientFormat).1.vals)).take n
          = clientInfo.take n := by
        rw [List.take_modify, List.modify_eq_self (by simp)]
      split_ifs with hc
      · exact ⟨hmod, le_rfl⟩
      · obtain ⟨h1, h2⟩ := clientLoop_frame left (fscanf fp clientFormat).2
          (clientInfo.modify n (·.assign (fscanf fp clientFormat).1.vals)) (n + 1)
        have h3 := congrArg (List.take n) h1
        simp only [List.take_take, Nat.min_eq_left (Nat.le_succ n)] at h3
        exact ⟨h3.trans hmod, by omega⟩

theorem take_succ_modify {clientInfo : List AmdGpuClientInfo} {n : ℕ} (hn : n < clientInfo.length)
    (f : AmdGpuClientInfo → AmdGpuClientInfo) :
    (clientInfo.modify n f).take (n + 1) = clientInfo.take n ++ [f clientInfo[n]] := by
  rw [List.take_add_one, List.take_modify, List.modify_eq_self (by simp)]
  simp [hn]

/-- One pass of the loop at a record. -/
theorem clientLoop_cons {left : ℕ} {fp : File} {r : AmdGpuClientInfo}
    {rs clientInfo : List AmdGpuClientInfo} {n : ℕ} (hv : ∀ r' ∈ r :: rs, r'.Valid) (hs : r.Short)
    (h : AtRecords fp (r :: rs)) (hn : n < clientInfo.length) :
    ∃ fp' clientInfo', clientLoop (left + 1) fp clientInfo n = clientLoop left fp' clientInfo' (n + 1)
      ∧ AtRecords fp' rs ∧ clientInfo'.length = clientInfo.length
      ∧ clientInfo'.take (n + 1) = clientInfo.take n ++ [r] := by
  obtain ⟨hvals, hat⟩ := at_next hv hs h
  refine ⟨_, clientInfo.modify n (·.assign (fscanf fp clientFormat).1.vals), ?_, hat, by simp, ?_⟩
  · have he : ¬ fp.eof = true := fun he => absurd (h.eof he) (by simp)
    have hc : (fscanf fp clientFormat).1.count = 7 := by
      rw [Scan.count, hvals]
      simp [clientVals]
    rw [clientLoop.eq_2, if_neg he]
    simp only [hc, ne_eq, not_true_eq_false, if_false]
  · rw [take_succ_modify hn, hvals, assign_clientVals]

theorem clientLoop_reads : ∀ (records : List AmdGpuClientInfo) {left n : ℕ} {fp : File}
    {clientInfo : List AmdGpuClientInfo}, (∀ r ∈ records, r.Valid) → (∀ r ∈ records, r.Short) →
    AtRecords fp records → records.length ≤ left → n + left ≤ clientInfo.length →
    (clientLoop left fp clientInfo n).2 = n + records.length
      ∧ (clientLoop left fp clientInfo n).1.take (n + records.length)
        = clientInfo.take n ++ records
  | [], left, n, fp, clientInfo, _, _, h, _, _ => by
    have hend : clientLoop left fp clientInfo n = (clientInfo, n) := by
      rcases left with _ | left
      · rfl
      · have hscan : (fscanf fp clientFormat).1 = ⟨[], [], true, true⟩ := by
          rw [fscanf_at h]; decide
        have hid : (fun info : AmdGpuClientInfo => info.assign []) = id := rfl
        rw [clientLoop.eq_2]
        split_ifs
        · rfl
        · simp [hscan, Scan.count, hid]
    simp [hend]
  | r :: rs, left, n, fp, clientInfo, hv, hs, h, hl, hn => by
    obtain ⟨l, rfl⟩ : ∃ l, left = l + 1 := ⟨left - 1, by simp at hl; omega⟩
    have hlt : n < clientInfo.length := by omega
    obtain ⟨fp', clientInfo', hstep, hat, hlen, htake⟩ :=
      clientLoop_cons hv (hs r (by simp)) h hlt
    obtain ⟨h1, h2⟩ := clientLoop_reads rs (n := n + 1) (fun r' hr' => hv r' (by simp [hr']))
      (fun r' hr' => hs r' (by simp [hr'])) hat (by simpa using hl)
      (show n + 1 + l ≤ clientInfo'.length by omega)
    rw [hstep, List.length_cons, ← Nat.add_assoc, Nat.add_right_comm]
    exact ⟨h1, by rw [h2, htake, List.append_assoc, List.singleton_append]⟩

theorem short_of_clientLoop : ∀ (records : List AmdGpuClientInfo) {left n : ℕ} {fp : File}
    {clientInfo : List AmdGpuClientInfo}, (∀ r ∈ records, r.Valid) → AtRecords fp records →
    n + left ≤ clientInfo.length → records.length ≤ left →
    (clientLoop left fp clientInfo n).2 = n + records.length →
    (clientLoop left fp clientInfo n).1.take (n + records.length) = clientInfo.take n ++ records →
    ∀ r ∈ records, r.Short
  | [], _, _, _, _, _, _, _, _, _, _ => by simp
  | r :: rs, left, n, fp, clientInfo, hv, h, hn, hl, hcount, htake => by
    obtain ⟨l, rfl⟩ : ∃ l, left = l + 1 := ⟨left - 1, by simp at hl; omega⟩
    have hlt : n < clientInfo.length := by omega
    by_cases hs : r.Short
    · obtain ⟨fp', clientInfo', hstep, hat, hlen, htake'⟩ := clientLoop_cons hv hs h hlt
      rw [hstep, List.length_cons, ← Nat.add_assoc, Nat.add_right_comm] at hcount htake
      have hrs := short_of_clientLoop rs (n := n + 1) (fun r' hr' => hv r' (by simp [hr'])) hat
        (show n + 1 + l ≤ clientInfo'.length by omega) (by simpa using hl) hcount
        (by rw [htake, htake', List.append_assoc, List.singleton_append])
      intro r' hr'
      rcases List.mem_cons.1 hr' with rfl | hr'
      · exact hs
      · exact hrs r' hr'
    · -- the record's place holds what the cut scan stored
      exfalso
      have he : ¬ fp.eof = true := fun he => absurd (h.eof he) (by simp)
      have hscan := fscanf_at h
      rw [List.flatMap_cons] at hscan
      rw [clientLoop.eq_2, if_neg he] at hcount htake
      simp only [List.length_cons] at hcount htake
      split_ifs at hcount htake with hc
      · simp at hcount
      · obtain ⟨h1, -⟩ := clientLoop_frame l (fscanf fp clientFormat).2
          (clientInfo.modify n (·.assign (fscanf fp clientFormat).1.vals)) (n + 1)
        have h2 := congrArg (List.take (n + 1)) htake
        have h3 : (clientInfo.take n ++ r :: rs).take (n + 1) = clientInfo.take n ++ [r] := by
          rw [List.take_append]
          simp [Nat.min_eq_left hlt.le]
        rw [List.take_take, Nat.min_eq_left (by omega), h1, take_succ_modify hlt, h3, hscan] at h2
        exact client_cut _ (hv r (by simp)) hs _ (by simpa using h2)

end Loop

/-! ## The file -/

section File

variable {header : List Char} {records clientInfo : List AmdGpuClientInfo}

/-- The call returned 0 and stored exactly `records`. -/
def ClientsRead (records : List AmdGpuClientInfo) (r : ℤ × List AmdGpuClientInfo × ℕ) : Prop :=
  r.1 = 0 ∧ r.2.2 = records.length ∧ r.2.1.take records.length = records

instance (records : List AmdGpuClientInfo) (r : ℤ × List AmdGpuClientInfo × ℕ) :
    Decidable (ClientsRead records r) := inferInstanceAs (Decidable (_ ∧ _ ∧ _))

/-- Of a header line the buffer holds the first 1023 characters. -/
theorem fgets_header (records : List AmdGpuClientInfo) (hline : '\n' ∉ header) :
    ∃ l rest, fgets 1024 { rest := clientsText header records } = (some l, { rest := rest })
      ∧ ("master".toList <:+: l ↔ "master".toList <:+: header.take 1023)
      ∧ ((∀ c ∈ header.drop 1023, isSpace c = true) → AtRecords { rest := rest } records) := by
  by_cases h : header.length < 1023
  · refine ⟨_, _, fgets_line hline (by omega), ?_, fun _ => ⟨rfl, by simp, rfl⟩⟩
    rw [List.take_of_length_le h.le, infix_append_sep (by decide)]
    simp
  · have htake : header.take 1023 ≠ [] := by
      rw [ne_eq, List.take_eq_nil_iff]
      rintro (he | rfl)
      · omega
      · simp at h
    refine ⟨header.take 1023, header.drop 1023 ++ '\n' :: records.flatMap printClient, ?_, Iff.rfl,
      fun hblank => ⟨?_, by simp, rfl⟩⟩
    · simp [fgets, clientsText, takeLine_long hline (show 1023 ≤ header.length by omega), htake]
    · rw [List.dropWhile_append, List.dropWhile_eq_nil_iff.2 hblank]
      simp [isSpace_newline]

/-- The records come back only if the buffer shows "master"; for a header of which nothing but blanks
is beyond the buffer, exactly when it does and no `pid` or `uid` has more than five digits. -/
theorem client_info_read_iff (files : Files) (device : GpuDevice)
    (hfile : files (debugFile device "clients") = some { rest := clientsText header records })
    (hline : '\n' ∉ header) (hvalid : ∀ r ∈ records, r.Valid)
    (hcap : records.length ≤ clientInfo.length) :
    (ClientsRead records (amdGpuQueryClientInfo files device clientInfo clientInfo.length)
        → "master".toList <:+: header.take 1023)
      ∧ ((∀ c ∈ header.drop 1023, isSpace c = true) →
        (ClientsRead records (amdGpuQueryClientInfo files device clientInfo clientInfo.length)
          ↔ "master".toList <:+: header.take 1023 ∧ ∀ r ∈ records, r.Short)) := by
  obtain ⟨l, rest, hget, hin, hat⟩ := fgets_header records hline
  simp only [amdGpuQueryClientInfo, hfile, hget, Option.getD_some]
  rw [← hin, ← strstr_isSome_iff]
  rcases hs : strstr l "master".toList with _ | m
  · simp [ClientsRead, einval]
  · simp only [Option.isNone_some, Bool.false_eq_true, if_false, Option.isSome_some, true_and]
    refine ⟨fun _ => trivial, fun hblank => ?_⟩
    have hat := hat hblank
    constructor
    · rintro ⟨-, h1, h2⟩
      exact short_of_clientLoop records hvalid hat (Nat.zero_add _).le hcap
        (h1.trans (Nat.zero_add _).symm) (by simpa using h2)
    · intro hshort
      obtain ⟨h1, h2⟩ := clientLoop_reads records (n := 0) hvalid hshort hat hcap
        (Nat.zero_add _).le
      exact ⟨rfl, by simpa using h1, by simpa using h2⟩

end File

section Example

def clientsHeader : List Char := "             command   pid dev master a   uid      magic".toList

def card0 : GpuDevice := ⟨3, 0, 226, 0, .card⟩

def xorg : AmdGpuClientInfo := ⟨"Xorg".toList, 1224, 0, 'y', 'y', 0, 0⟩

/-- A process started late on a machine that counts far. -/
def lateXorg : AmdGpuClientInfo := { xorg with pid := 123456 }

def shell : AmdGpuClientInfo := ⟨"gnome-shell".toList, 20510, 0, 'n', 'y', 1000, 3⟩

theorem xorg_valid : xorg.Valid := by
  refine ⟨List.all_eq_true.1 (by decide), ?_, ?_, ?_, ?_, ?_, ?_, ?_⟩ <;> decide

theorem shell_valid : shell.Valid := by
  refine ⟨List.all_eq_true.1 (by decide), ?_, ?_, ?_, ?_, ?_, ?_, ?_⟩ <;> decide

theorem client_info_read_xorg :
    ClientsRead [xorg, shell] (amdGpuQueryClientInfo
        (fun _ => some { rest := clientsText clientsHeader [xorg, shell] }) card0
        [lateXorg, lateXorg] 2)
      ↔ "master".toList <:+: clientsHeader.take 1023 ∧ ∀ r ∈ [xorg, shell], r.Short :=
  (client_info_read_iff _ card0 rfl (by decide)
    (List.forall_mem_cons.2 ⟨xorg_valid, List.forall_mem_singleton.2 shell_valid⟩)
    (show [xorg, shell].length ≤ [lateXorg, lateXorg].length from le_rfl)).2
      (List.all_eq_true.1 (by decide))

set_option maxRecDepth 4000 in
/-- The scanner takes five digits of `123456` for the `pid`, and the sixth for `dev`. -/
theorem client_info_long_pid :
    "master".toList <:+: clientsHeader ∧ lateXorg.Valid ∧
      ¬ ClientsRead [lateXorg] (amdGpuQueryClientInfo
        (fun _ => some { rest := clientsText clientsHeader [lateXorg] }) card0 [xorg] 1) := by
  refine ⟨by decide, ⟨List.all_eq_true.1 (by decide), ?_, ?_, ?_, ?_, ?_, ?_, ?_⟩, ?_⟩ <;> decide

end Example

end Amdtop
