import Amdtop.DeviceName
import Amdtop.Proofs.Stdio

/-!
# The entries of the file of names

The scan of an entry stops in its name at a comma or a quote, and reads on into the next line
where the name is blank; then the search ends with the next pass. So it gives what the entries say
of a device just if no name before the device's own is such a one (`searchIds_iff`).
-/

namespace Amdtop

open Stdio

/-! ## The file -/

/-- `isprint`, also beyond ASCII. -/
def isPrint (c : Char) : Bool := ' ' ≤ c && c ≠ '\x7f'

/-- An entry of the file. -/
structure IdsEntry where
  did : List Char
  rid : List Char
  name : List Char
  did_hex : did ≠ [] ∧ did.length ≤ 4 ∧ ∀ c ∈ did, isDigitOf 16 c = true
  rid_hex : rid ≠ [] ∧ ∀ c ∈ rid, isDigitOf 16 c = true
  name_length : 1 ≤ name.length ∧ name.length ≤ 99
  name_print : ∀ c ∈ name, isPrint c = true

namespace IdsEntry

variable (e : IdsEntry)

def text : List Char := e.did ++ ',' :: '\t' :: (e.rid ++ ',' :: '\t' :: (e.name ++ ['\n']))

/-- The entry is the device's. -/
def Matches (device : Device) : Prop :=
  numeral 16 e.did = device.deviceId.toNat ∧ numeral 16 e.rid = device.revisionId.toNat

instance (device : Device) : Decidable (e.Matches device) := inferInstanceAs (Decidable (_ ∧ _))

/-- What the code compares: of a `rid` of more than 32 bits, not the number itself. -/
def Hits (device : Device) : Prop :=
  Conv.hex.store false (numeral 16 e.did) = device.deviceId
    ∧ Conv.hex.store false (numeral 16 e.rid) = device.revisionId

instance (device : Device) : Decidable (e.Hits device) := inferInstanceAs (Decidable (_ ∧ _))

/-- A name the scan reads to its end, but for blanks in front of it. -/
def Clean : Prop := (∃ c ∈ e.name, isSpace c = false) ∧ ∀ c ∈ e.name, inName c = true

/-- A name that is read as it is. -/
def Whole : Prop := (∀ c ∈ e.name.head?, isSpace c = false) ∧ ∀ c ∈ e.name, inName c = true

theorem newline_not_mem : '\n' ∉ e.name := fun h => absurd (e.name_print _ h) (by decide)

theorem name_ne_nil : e.name ≠ [] := List.length_pos_iff.1 e.name_length.1

/-- A `did` of four digits is compared as it is. -/
theorem matches_iff (device : Device) : e.Matches device
    ↔ Conv.hex.store false (numeral 16 e.did) = device.deviceId
      ∧ numeral 16 e.rid = device.revisionId.toNat := by
  have hlt : numeral 16 e.did < 2 ^ 32 :=
    ((numeral_lt e.did e.did_hex.2.2).trans_le (Nat.pow_le_pow_right (by decide)
      e.did_hex.2.1)).trans_le (by decide)
  refine and_congr_left fun _ => ?_
  rw [store_of_lt hlt, ← UInt32.toNat_inj, UInt32.toNat_ofNat_of_lt' hlt]

theorem Matches.hits {device : Device} {e : IdsEntry} (h : e.Matches device) : e.Hits device := by
  refine ⟨((e.matches_iff device).1 h).1, ?_⟩
  rw [h.2, store_of_lt device.revisionId.toNat_lt, UInt32.ofNat_toNat]

end IdsEntry

def entriesText (entries : List IdsEntry) : List Char := entries.flatMap IdsEntry.text

theorem IdsEntry.text_append (e : IdsEntry) (rest : List Char) : e.text ++ rest
    = e.did ++ ',' :: '\t' :: (e.rid ++ ',' :: '\t' :: (e.name ++ '\n' :: rest)) := by
  simp [IdsEntry.text]

theorem entriesText_cons (e : IdsEntry) (entries : List IdsEntry) :
    entriesText (e :: entries) = e.text ++ entriesText entries := List.flatMap_cons

/-! ## An entry -/

theorem scanThen_fail {k : Conv} {suppress : Bool} {width : Option ℕ} {cs rest : List Char}
    {eof inputEnd : Bool} (h : k.read width cs = .fail rest eof inputEnd)
    (last : List Char → Scan) (ds : List Directive) :
    scanThen last (.conv suppress width k :: ds) cs = ⟨[], rest, eof, inputEnd⟩ := by
  rw [scanThen, h]

theorem count_ne_three {r : Scan} (h : r.vals.length < 3) : r.count ≠ 3 := by
  unfold Scan.count
  split_ifs
  · decide
  · omega

theorem parse_entryFormat : parseFormat "%4x, %x, "
    = [.conv false (some 4) .hex, .lit ',', .space, .conv false none .hex, .lit ',', .space] := by
  decide

/-- The text at which the name of an entry is read. -/
def nameText (e : IdsEntry) (rest : List Char) : List Char :=
  (e.name ++ '\n' :: rest).dropWhile isSpace

theorem scan_entry {s : List Char} (hs : ∀ c ∈ s, isSpace c = true) (e : IdsEntry)
    (rest : List Char) (last : List Char → Scan) :
    scanThen last (parseFormat "%4x, %x, ") (s ++ (e.text ++ rest))
      = { last (nameText e rest) with
          vals := .num (Conv.hex.store false (numeral 16 e.did))
            :: .num (Conv.hex.store false (numeral 16 e.rid)) :: (last (nameText e rest)).vals
          eof := (last (nameText e rest)).eof || nameText e rest = [] } := by
  have hdid := read_int hs (k := .hex) (w := some 4) (b := ',')
    (r := '\t' :: (e.rid ++ ',' :: '\t' :: (e.name ++ '\n' :: rest))) (by decide) e.did_hex.2.2
    e.did_hex.1 (by simpa using e.did_hex.2.1) (by decide) (by decide)
  have hrid := read_int (s := []) (by simp) (k := .hex) (w := none) (b := ',')
    (r := '\t' :: (e.name ++ '\n' :: rest)) (by decide) e.rid_hex.2 e.rid_hex.1 (by simp)
    (by decide) (by decide)
  have htab : ('\t' :: (e.rid ++ ',' :: '\t' :: (e.name ++ '\n' :: rest))).dropWhile isSpace
      = e.rid ++ ',' :: '\t' :: (e.name ++ '\n' :: rest) :=
    dropWhile_digits (s := ['\t']) (forall_mem_of_all (by decide)) e.rid_hex.1 e.rid_hex.2 _
  have hname : ('\t' :: (e.name ++ '\n' :: rest)).dropWhile isSpace = nameText e rest :=
    List.dropWhile_cons_of_pos (by decide)
  rw [e.text_append, parse_entryFormat]
  simp only [scanThen, hdid, if_true, htab, List.nil_append] at hrid ⊢
  simp only [hrid, scanThen, if_true, hname, Bool.false_eq_true, if_false, Bool.or_false]
  simp [e.rid_hex.1]
  exact ⟨rfl, rfl⟩

/-- What is read of the name. -/
def nameRead (e : IdsEntry) (rest : List Char) : List Char := (nameText e rest).takeWhile inName

section Search

variable (device : Device) (name : List Char) (fuel : ℕ)

theorem searchIds_eof (rest : List Char) (bad : Bool) :
    searchIds device name fuel ⟨rest, true, bad⟩ = some (-einval, name) := by
  rcases fuel with _ | fuel
  · rfl
  · rw [searchIds, if_pos rfl]

/-- A pass that reads an entry. -/
theorem searchIds_entry {s : List Char} (hs : ∀ c ∈ s, isSpace c = true) (e : IdsEntry)
    (rest : List Char) : searchIds device name (fuel + 1) ⟨s ++ (e.text ++ rest), false, false⟩
      = if nameRead e rest = [] then some (-einval, name)
        else if 100 ≤ (nameRead e rest).length then none
        else if e.Hits device then some (0, nameRead e rest)
        else searchIds device name fuel ⟨(nameText e rest).dropWhile inName,
          (nameText e rest).dropWhile inName = [], false⟩ := by
  have hscan := scan_entry hs e rest (readSet inName)
  have hread : readSet inName (nameText e rest) = if nameRead e rest = [] then
      ⟨[], nameText e rest, nameText e rest = [], nameText e rest = []⟩
    else ⟨[.str (nameRead e rest)], (nameText e rest).dropWhile inName,
      (nameText e rest).dropWhile inName = [], false⟩ := rfl
  rw [searchIds, if_neg Bool.false_ne_true]
  unfold fscanfSet
  dsimp only
  rw [hscan, hread]
  by_cases hnil : nameRead e rest = []
  · rw [if_pos hnil, if_pos hnil]
    exact if_pos (count_ne_three (by simp))
  · have htext : nameText e rest ≠ [] := fun hempty => hnil (by rw [nameRead, hempty]; rfl)
    rw [if_neg hnil, if_neg hnil, if_neg (by simp [Scan.count])]
    simp only [htext, decide_false, Bool.or_false, Bool.false_or, Bool.not_false, Bool.and_true]
    rfl

/-- The search does not get over what begins no entry. -/
theorem searchIds_fail {s rest : List Char} {atEnd inputEnd : Bool}
    (hread : Conv.hex.read (some 4) s = .fail rest atEnd inputEnd) (eof : Bool) :
    searchIds device name fuel ⟨s, eof, false⟩ = some (-einval, name) := by
  rcases fuel with _ | fuel
  · rfl
  rcases eof
  · rw [searchIds, if_neg Bool.false_ne_true]
    unfold fscanfSet
    dsimp only
    rw [parse_entryFormat, scanThen_fail hread]
    exact if_pos (count_ne_three (by simp))
  · exact searchIds_eof device name _ _ _

theorem searchIds_stuck {c : Char} (hc : c = ',' ∨ c = '\'') (rest : List Char) (eof : Bool) :
    searchIds device name fuel ⟨c :: rest, eof, false⟩ = some (-einval, name) := by
  have hread : Conv.hex.read (some 4) (c :: rest) = .fail (c :: rest) false false := by
    rcases hc with rfl | rfl <;> rcases rest with _ | ⟨d, rest⟩ <;> rfl
  exact searchIds_fail device name fuel hread eof

theorem searchIds_blank {s : List Char} (hs : ∀ c ∈ s, isSpace c = true) (eof : Bool) :
    searchIds device name fuel ⟨s, eof, false⟩ = some (-einval, name) := by
  have hread : Conv.hex.read (some 4) s = .fail [] true true := by
    simp only [Conv.read, List.dropWhile_eq_nil_iff.2 hs]
  exact searchIds_fail device name fuel hread eof

end Search

/-! ## The name of an entry -/

theorem inName_newline : inName '\n' = false := rfl

/-- The name without the blanks in front, and what follows it. -/
theorem nameText_visible {e : IdsEntry} (rest : List Char) (h : ∃ c ∈ e.name, isSpace c = false) :
    nameText e rest = e.name.dropWhile isSpace ++ '\n' :: rest := by
  have hne : e.name.dropWhile isSpace ≠ [] := fun hnil => by
    obtain ⟨c, hc, hspace⟩ := h
    exact Bool.false_ne_true (hspace.symm.trans (List.dropWhile_eq_nil_iff.1 hnil c hc))
  rw [nameText, List.dropWhile_append, if_neg (by simpa using hne)]

/-- Blanks only: the next entry is in the name's place. -/
theorem nameText_blank {e : IdsEntry} (entries : List IdsEntry)
    (h : ¬ ∃ c ∈ e.name, isSpace c = false) :
    nameText e (entriesText entries) = entriesText entries := by
  have hblank : ∀ c ∈ e.name ++ ['\n'], isSpace c = true := by
    intro c hc
    obtain hname | hnewline := List.mem_append.1 hc
    · exact Bool.of_not_eq_false fun hspace => h ⟨c, hname, hspace⟩
    · rw [List.mem_singleton.1 hnewline]
      exact isSpace_newline
  rw [nameText, List.append_cons]
  rcases entries with _ | ⟨e', entries⟩
  · exact List.dropWhile_eq_nil_iff.2 (by simpa [entriesText] using hblank)
  · rw [entriesText_cons, e'.text_append]
    exact dropWhile_digits hblank e'.did_hex.1 e'.did_hex.2.2 _

theorem inName_false {c : Char} : inName c = false ↔ (c = ',' ∨ c = '\'') ∨ c = '\n' := by
  simp only [inName, ne_eq, decide_not, Bool.and_eq_false_iff, Bool.not_eq_eq_eq_not,
    Bool.not_false, decide_eq_true_eq]

theorem inName_digit {c : Char} (h : isDigitOf 16 c = true) : inName c = true := by
  refine Bool.of_not_eq_false fun hc => ?_
  obtain (rfl | rfl) | rfl := inName_false.1 hc <;> exact absurd h (by decide)

theorem inName_blank {c : Char} (h : isSpace c = true) (hne : c ≠ '\n') : inName c = true := by
  refine Bool.of_not_eq_false fun hc => ?_
  obtain (rfl | rfl) | rfl := inName_false.1 hc
  · exact absurd h (by decide)
  · exact absurd h (by decide)
  · exact hne rfl

/-- The digits of the next entry are read in the name's place. -/
theorem span_entries (e : IdsEntry) (entries : List IdsEntry) :
    (entriesText (e :: entries)).takeWhile inName = e.did
      ∧ ∃ rest, (entriesText (e :: entries)).dropWhile inName = ',' :: rest := by
  have hall : ∀ c ∈ e.did, inName c = true := fun c hc => inName_digit (e.did_hex.2.2 c hc)
  rw [entriesText_cons, e.text_append]
  obtain ⟨htake, hdrop⟩ := span_stop (p := inName) (x := ',') rfl e.did
    ('\t' :: (e.rid ++ ',' :: '\t' :: (e.name ++ '\n' :: entriesText entries)))
  rw [htake, hdrop, List.takeWhile_eq_self_iff.2 hall, List.dropWhile_eq_nil_iff.2 hall]
  exact ⟨rfl, _, rfl⟩

theorem length_nameRead (e : IdsEntry) (entries : List IdsEntry) :
    (nameRead e (entriesText entries)).length < 100 := by
  unfold nameRead
  by_cases h : ∃ c ∈ e.name, isSpace c = false
  · rw [nameText_visible _ h, (span_stop inName_newline _ _).1]
    have htake := (List.takeWhile_sublist (p := inName) (l := e.name.dropWhile isSpace)).length_le
    have hdrop := (List.dropWhile_sublist (p := isSpace) (l := e.name)).length_le
    have := e.name_length.2
    omega
  · rw [nameText_blank entries h]
    rcases entries with _ | ⟨e', entries⟩
    · decide
    · rw [(span_entries e' entries).1]
      have := e'.did_hex.2.1
      omega

/-- Behind a clean name the search goes on with the next line. -/
theorem nameRead_clean {e : IdsEntry} (h : e.Clean) (rest : List Char) :
    nameRead e rest ≠ [] ∧ (nameText e rest).dropWhile inName = '\n' :: rest := by
  have hall : ∀ c ∈ e.name.dropWhile isSpace, inName c = true :=
    fun c hc => h.2 c ((List.dropWhile_sublist _).subset hc)
  obtain ⟨htake, hdrop⟩ := span_stop inName_newline (e.name.dropWhile isSpace) rest
  rw [nameRead, nameText_visible rest h.1, htake, hdrop, List.takeWhile_eq_self_iff.2 hall,
    List.dropWhile_eq_nil_iff.2 hall]
  refine ⟨fun hnil => ?_, rfl⟩
  obtain ⟨c, hc, hspace⟩ := h.1
  exact Bool.false_ne_true (hspace.symm.trans (List.dropWhile_eq_nil_iff.1 hnil c hc))

/-- Behind another name it is stuck. -/
theorem nameRead_unclean {e : IdsEntry} (h : ¬ e.Clean) (entries : List IdsEntry) :
    nameRead e (entriesText entries) = [] ∨ ∃ c rest, (c = ',' ∨ c = '\'')
      ∧ (nameText e (entriesText entries)).dropWhile inName = c :: rest := by
  by_cases hvisible : ∃ c ∈ e.name, isSpace c = false
  · refine Or.inr ?_
    rw [nameText_visible _ hvisible, (span_stop inName_newline _ _).2]
    rcases hdrop : (e.name.dropWhile isSpace).dropWhile inName with _ | ⟨c, rest⟩
    · refine absurd ⟨hvisible, fun c hc => ?_⟩ h
      rw [← List.takeWhile_append_dropWhile (p := isSpace) (l := e.name)] at hc
      obtain hblank | hrest := List.mem_append.1 hc
      · exact inName_blank (List.mem_takeWhile_imp hblank) fun hnewline =>
          e.newline_not_mem (hnewline ▸ (List.takeWhile_sublist _).subset hblank)
      · exact List.dropWhile_eq_nil_iff.1 hdrop c hrest
    · have hhead := List.head?_dropWhile_not inName (e.name.dropWhile isSpace)
      have hmem : c ∈ (e.name.dropWhile isSpace).dropWhile inName := hdrop ▸ List.mem_cons_self
      rw [hdrop] at hhead
      refine ⟨c, _, (inName_false.1 hhead).resolve_right fun hnewline => ?_, rfl⟩
      rw [hnewline] at hmem
      exact e.newline_not_mem
        ((List.dropWhile_sublist _).subset ((List.dropWhile_sublist _).subset hmem))
  · rw [nameRead, nameText_blank entries hvisible]
    rcases entries with _ | ⟨e', entries⟩
    · exact Or.inl rfl
    · obtain ⟨rest, hrest⟩ := (span_entries e' entries).2
      exact Or.inr ⟨',', rest, Or.inl rfl, hrest⟩

/-- What is read is the name itself just if it begins with no blank and has no other stop. -/
theorem nameRead_eq_iff (e : IdsEntry) (rest : List Char) : nameRead e rest = e.name ↔ e.Whole := by
  constructor
  · intro h
    refine ⟨fun c hc => ?_, fun c hc => ?_⟩
    · have hhead := List.head?_dropWhile_not isSpace (e.name ++ '\n' :: rest)
      rw [← h, nameRead, List.head?_takeWhile] at hc
      obtain ⟨hc, -⟩ := Option.filter_eq_some_iff.1 hc
      unfold nameText at hc
      rw [hc] at hhead
      exact hhead
    · rw [← h] at hc
      exact List.mem_takeWhile_imp hc
  · rintro ⟨hhead, hall⟩
    obtain ⟨c, cs, hname⟩ := List.exists_cons_of_ne_nil e.name_ne_nil
    have hspace : isSpace c = false := hhead c (by rw [hname]; rfl)
    have hvisible : ∃ c ∈ e.name, isSpace c = false :=
      ⟨c, hname ▸ List.mem_cons_self, hspace⟩
    have hdrop : e.name.dropWhile isSpace = e.name := by
      rw [hname, List.dropWhile_cons_of_neg (by rw [hspace]; decide)]
    rw [nameRead, nameText_visible rest hvisible, (span_stop inName_newline _ _).1, hdrop,
      List.takeWhile_eq_self_iff.2 hall]

/-! ## The search -/

/-- What the file says of the device. -/
def expected (entries : List IdsEntry) (device : Device) (name : List Char) : ℤ × List Char :=
  match entries.find? (·.Matches device) with
  | some e => (0, e.name)
  | none => (-einval, name)

/-- The names before the device's own are clean, and its own is whole. -/
def NamesFound (entries : List IdsEntry) (device : Device) : Prop :=
  ∀ before e after, entries = before ++ e :: after → (∀ b ∈ before, ¬ b.Matches device) →
    e.Matches device → (∀ b ∈ before, b.Clean) ∧ e.Whole

/-- No entry up to the device's own is taken for it by the low bits of its `rid`. -/
def RidsTell (entries : List IdsEntry) (device : Device) : Prop :=
  ∀ before e after, entries = before ++ e :: after → (∀ b ∈ before, ¬ b.Matches device) →
    e.Hits device → e.Matches device

section Found

variable {device : Device} {e : IdsEntry} {entries : List IdsEntry} {name : List Char}

theorem namesFound_match (h : e.Matches device) : NamesFound (e :: entries) device ↔ e.Whole := by
  constructor
  · intro hfound
    exact (hfound [] e entries rfl (fun _ hb => absurd hb List.not_mem_nil) h).2
  · rintro hwhole (_ | ⟨b, before⟩) e' after heq hnone he'
    · obtain ⟨rfl, -⟩ := List.cons.inj heq
      exact ⟨fun _ hb => absurd hb List.not_mem_nil, hwhole⟩
    · obtain ⟨rfl, -⟩ := List.cons.inj heq
      exact absurd h (hnone e List.mem_cons_self)

theorem namesFound_clean (h : ¬ e.Matches device) (hclean : e.Clean) :
    NamesFound (e :: entries) device ↔ NamesFound entries device := by
  constructor
  · intro hfound before e' after heq hnone he'
    obtain ⟨hbefore, hwhole⟩ := hfound (e :: before) e' after (by rw [heq]; rfl)
      (List.forall_mem_cons.2 ⟨h, hnone⟩) he'
    exact ⟨(List.forall_mem_cons.1 hbefore).2, hwhole⟩
  · rintro hfound (_ | ⟨b, before⟩) e' after heq hnone he'
    · obtain ⟨rfl, -⟩ := List.cons.inj heq
      exact absurd he' h
    · obtain ⟨rfl, hrest⟩ := List.cons.inj heq
      obtain ⟨hbefore, hwhole⟩ := hfound before e' after hrest (List.forall_mem_cons.1 hnone).2 he'
      exact ⟨List.forall_mem_cons.2 ⟨hclean, hbefore⟩, hwhole⟩

/-- Where an entry matches, one is the first that does. -/
theorem exists_first (h : ∃ e ∈ entries, e.Matches device) : ∃ before e after,
    entries = before ++ e :: after ∧ (∀ b ∈ before, ¬ b.Matches device) ∧ e.Matches device := by
  rcases hfind : entries.find? (·.Matches device) with _ | first
  · obtain ⟨e, he, hmatch⟩ := h
    exact absurd hmatch (by simpa using List.find?_eq_none.1 hfind e he)
  · obtain ⟨hfirst, before, after, heq, hnone⟩ := List.find?_eq_some_iff_append.1 hfind
    exact ⟨before, first, after, heq, fun b hb => by simpa using hnone b hb, by simpa using hfirst⟩

theorem fail_ne (name name' : List Char) : (-einval, name) ≠ (0, name') :=
  fun heq => absurd (congrArg Prod.fst heq) (show -einval ≠ 0 by decide)

theorem expected_fails :
    expected entries device name = (-einval, name) ↔ ∀ e ∈ entries, ¬ e.Matches device := by
  unfold expected
  rcases hfind : entries.find? (·.Matches device) with _ | e <;> rw [hfind]
  · exact iff_of_true rfl fun e he => by simpa using List.find?_eq_none.1 hfind e he
  · refine iff_of_false (fail_ne name e.name).symm fun hnone => ?_
    exact hnone e (List.mem_of_find?_eq_some hfind) (by simpa using List.find?_some hfind)

theorem namesFound_unclean (h : ¬ e.Matches device) (hunclean : ¬ e.Clean) :
    NamesFound (e :: entries) device ↔ ∀ e ∈ entries, ¬ e.Matches device := by
  constructor
  · intro hfound e' he' hmatch
    obtain ⟨before, first, after, heq, hnone, hfirst⟩ := exists_first ⟨e', he', hmatch⟩
    obtain ⟨hbefore, -⟩ := hfound (e :: before) first after (by rw [heq]; rfl)
      (List.forall_mem_cons.2 ⟨h, hnone⟩) hfirst
    exact hunclean (hbefore e List.mem_cons_self)
  · rintro hnone (_ | ⟨b, before⟩) e' after heq - he'
    · obtain ⟨rfl, -⟩ := List.cons.inj heq
      exact absurd he' h
    · obtain ⟨-, rfl⟩ := List.cons.inj heq
      exact absurd he' (hnone e' (by simp))

theorem RidsTell.head (h : RidsTell (e :: entries) device) : e.Hits device → e.Matches device :=
  h [] e entries rfl fun _ hb => absurd hb List.not_mem_nil

theorem RidsTell.tail (h : RidsTell (e :: entries) device) (he : ¬ e.Matches device) :
    RidsTell entries device := fun before e' after heq hnone =>
  h (e :: before) e' after (by rw [heq]; rfl) (List.forall_mem_cons.2 ⟨he, hnone⟩)

theorem ridsTell_of_forall (h : ∀ e ∈ entries, e.Hits device → e.Matches device) :
    RidsTell entries device := fun _ e _ heq _ => h e (by rw [heq]; simp)

end Found

/-- The search gives what the file says just if the names let it. -/
theorem searchIds_iff (device : Device) (name : List Char) : ∀ (entries : List IdsEntry) {fuel : ℕ}
    {s : List Char} {eof : Bool}, (∀ c ∈ s, isSpace c = true) → (eof = true → entries = []) →
    entries.length < fuel → RidsTell entries device →
    (searchIds device name fuel ⟨s ++ entriesText entries, eof, false⟩
      = some (expected entries device name) ↔ NamesFound entries device)
  | [], fuel, s, eof, hs, _, _, _ => by
    rw [show entriesText [] = [] from rfl, List.append_nil, searchIds_blank device name fuel hs eof]
    exact iff_of_true rfl fun before e after heq => absurd heq (by simp)
  | e :: entries, fuel + 1, s, true, _, heof, _, _ => absurd (heof rfl) (by simp)
  | e :: entries, fuel + 1, s, false, hs, _, hfuel, hhits => by
    rw [entriesText_cons, searchIds_entry device name fuel hs]
    have hlen := length_nameRead e entries
    by_cases hhit : e.Hits device
    · have hmatch := hhits.head hhit
      have hexpected : expected (e :: entries) device name = (0, e.name) := by
        rw [expected, List.find?_cons_of_pos (by simpa using hmatch)]
      rw [namesFound_match hmatch, ← nameRead_eq_iff e (entriesText entries), hexpected]
      split_ifs with hnil hlong
      · rw [hnil]
        exact iff_of_false (fun heq => fail_ne name e.name (Option.some.inj heq)) e.name_ne_nil.symm
      · omega
      · simp
    · have hmatch : ¬ e.Matches device := fun h => hhit h.hits
      have hexpected : expected (e :: entries) device name = expected entries device name := by
        rw [expected, List.find?_cons_of_neg (by simpa using hmatch)]
        rfl
      rw [hexpected]
      by_cases hclean : e.Clean
      · obtain ⟨hne, hdrop⟩ := nameRead_clean hclean (entriesText entries)
        rw [if_neg hne, if_neg (by omega), if_neg hhit, hdrop, namesFound_clean hmatch hclean]
        exact searchIds_iff device name entries (s := ['\n']) (forall_mem_of_all (by decide))
          (by simp) (Nat.lt_of_succ_lt_succ hfuel) (hhits.tail hmatch)
      · have hstuck : (if nameRead e (entriesText entries) = [] then some (-einval, name)
            else if 100 ≤ (nameRead e (entriesText entries)).length then none
            else if e.Hits device then some (0, nameRead e (entriesText entries))
            else searchIds device name fuel ⟨(nameText e (entriesText entries)).dropWhile inName,
              (nameText e (entriesText entries)).dropWhile inName = [], false⟩)
              = some (-einval, name) := by
          split_ifs with hnil hlong
          · rfl
          · omega
          · obtain hnil' | ⟨c, rest, hc, hdrop⟩ := nameRead_unclean hclean entries
            · exact absurd hnil' hnil
            · rw [hdrop]
              exact searchIds_stuck device name fuel hc rest _
        rw [hstuck, namesFound_unclean hmatch hclean, Option.some_inj, eq_comm, expected_fails]

end Amdtop
