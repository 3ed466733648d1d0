import Amdtop.Proofs.IdsEntry

/-!
# Looking a name up

The line loop reads a line behind the comments, and a comment 99 characters at a time. A device is
found just if the loop leaves the version, no name before its own ends the search, and its own has
no blank in front (`getDeviceNameFromAmdgpuIDS_iff`).
-/

namespace Amdtop

open Stdio

/-! ## The header -/

/-- What the line loop leaves of a line, if it stops in it: it reads 99 characters at a time. -/
def lineLeft (l : List Char) : Option (List Char) :=
  if l.head? ≠ some '#' then some ((l ++ ['\n']).drop 99)
  else if l.length < 99 then none
  else lineLeft (l.drop 99)
termination_by l.length
decreasing_by
  rw [List.length_drop]
  omega

/-- Where the loop stops in the comments: what it leaves of one, and the others behind it. -/
def stoppedIn : List (List Char) → Option (List Char × List (List Char))
  | [] => none
  | l :: ls => match lineLeft l with
    | some left => some (left, ls)
    | none => stoppedIn ls

theorem stoppedIn_later : ∀ {ls : List (List Char)} {left : List Char} {later : List (List Char)},
    stoppedIn ls = some (left, later) → ∀ l ∈ later, l ∈ ls
  | m :: ls, left, later, h, l, hl => by
    unfold stoppedIn at h
    split at h
    · obtain ⟨-, rfl⟩ := Prod.mk.inj (Option.some.inj h)
      exact List.mem_cons_of_mem m hl
    · exact List.mem_cons_of_mem m (stoppedIn_later h l hl)

/-- The file, up to the lines' ends. -/
structure IdsText where
  comments : List (List Char)
  blanks : List (List Char)
  a : List Char
  b : List Char
  c : List Char
  entries : List IdsEntry
  comments_hash : ∀ l ∈ comments, l.head? = some '#' ∧ '\n' ∉ l
  blanks_blank : ∀ l ∈ blanks, ∀ c ∈ l, isSpace c = true ∧ c ≠ '\n'
  version_digits : ∀ n ∈ [a, b, c], n ≠ [] ∧ ∀ d ∈ n, isDigitOf 10 d = true

namespace IdsText

variable (f : IdsText)

theorem version_numbers : (f.a ≠ [] ∧ ∀ d ∈ f.a, isDigitOf 10 d = true)
    ∧ (f.b ≠ [] ∧ ∀ d ∈ f.b, isDigitOf 10 d = true)
    ∧ (f.c ≠ [] ∧ ∀ d ∈ f.c, isDigitOf 10 d = true) := by
  have hdigits := f.version_digits
  rwa [List.forall_mem_cons, List.forall_mem_cons, List.forall_mem_singleton] at hdigits

def versionLine : List Char := f.a ++ '.' :: (f.b ++ '.' :: f.c)

def body : List Char := f.versionLine ++ '\n' :: entriesText f.entries

def text : List Char := joinLines f.comments (joinLines f.blanks f.body)

/-- The line loop stops before the version and leaves only blanks before it. -/
def Passed : Prop :=
  match stoppedIn f.comments with
  | none => f.blanks ≠ []
  | some (left, later) => later = [] ∧ ∀ c ∈ left, isSpace c = true

end IdsText

section Header

variable (eof bad : Bool)

theorem skipComments_line {l : List Char} (hl : '\n' ∉ l) (fuel : ℕ) (r : List Char) :
    skipComments (fuel + 1) ⟨l ++ '\n' :: r, eof, bad⟩
      = if l.head? ≠ some '#' then ⟨(l ++ ['\n']).drop 99 ++ r, eof, bad⟩
        else if l.length < 99 then skipComments fuel ⟨r, eof, bad⟩
        else skipComments fuel ⟨l.drop 99 ++ '\n' :: r, eof, bad⟩ := by
  have hhead : (l ++ ['\n']).head? = some '#' ↔ l.head? = some '#' := by
    rcases l with _ | ⟨c, l⟩ <;> simp
  by_cases hlen : l.length < 99
  · have hdrop : (l ++ ['\n']).drop 99 = [] := List.drop_of_length_le (by simp; omega)
    rw [skipComments, fgets_line hl (by omega), if_pos hlen, hdrop]
    dsimp only
    rw [ite_not]
    exact ite_congr (propext hhead) (fun _ => rfl) fun _ => rfl
  · have hne : l.take 99 ≠ [] := by
      rcases l with _ | ⟨c, l⟩
      · simp at hlen
      · simp
    have htake : (l.take 99).head? = l.head? := by
      rcases l with _ | ⟨c, l⟩ <;> simp
    have hdrop : (l ++ ['\n']).drop 99 = l.drop 99 ++ ['\n'] :=
      List.drop_append_of_le_length (by omega)
    have hget : fgets 100 ⟨l ++ '\n' :: r, eof, bad⟩
        = (some (l.take 99), ⟨l.drop 99 ++ '\n' :: r, eof, bad⟩) := by
      simp [fgets, takeLine_long hl (show 100 - 1 ≤ l.length by omega), hne]
    rw [skipComments, hget, if_neg hlen, hdrop]
    dsimp only
    rw [htake, ite_not, List.append_assoc]
    rfl

/-- A line is left behind, or it is where the loop stops. -/
theorem skipComments_lineLeft (l : List Char) (hl : '\n' ∉ l) (fuel : ℕ) (hfuel : l.length < fuel)
    (r : List Char) :
    (∀ left, lineLeft l = some left →
        skipComments fuel ⟨l ++ '\n' :: r, eof, bad⟩ = ⟨left ++ r, eof, bad⟩)
      ∧ (lineLeft l = none → ∃ fuel', fuel ≤ fuel' + (l.length + 1)
        ∧ skipComments fuel ⟨l ++ '\n' :: r, eof, bad⟩ = skipComments fuel' ⟨r, eof, bad⟩) := by
  obtain ⟨fuel, rfl⟩ : ∃ n, fuel = n + 1 := ⟨fuel - 1, by omega⟩
  rw [lineLeft, skipComments_line eof bad hl]
  split_ifs with hhead hlen
  · exact ⟨fun left h => by rw [Option.some.inj h], fun h => h.elim⟩
  · exact ⟨fun left h => h.elim, fun _ => ⟨fuel, by omega, rfl⟩⟩
  · have hdrop := List.length_drop (i := 99) (l := l)
    obtain ⟨hstop, hskip⟩ := skipComments_lineLeft (l.drop 99)
      (fun h => hl ((List.drop_sublist 99 l).subset h)) fuel (by omega) r
    refine ⟨hstop, fun h => ?_⟩
    obtain ⟨fuel', hle, heq⟩ := hskip h
    exact ⟨fuel', by omega, heq⟩
termination_by l.length
decreasing_by
  rw [List.length_drop]
  omega

theorem skip_comments : ∀ (comments : List (List Char)) {fuel : ℕ} (r : List Char),
    (∀ l ∈ comments, '\n' ∉ l) → (joinLines comments []).length < fuel →
    (∀ left later, stoppedIn comments = some (left, later) →
        skipComments fuel ⟨joinLines comments r, eof, bad⟩ = ⟨left ++ joinLines later r, eof, bad⟩)
      ∧ (stoppedIn comments = none → ∃ fuel', 0 < fuel'
        ∧ skipComments fuel ⟨joinLines comments r, eof, bad⟩ = skipComments fuel' ⟨r, eof, bad⟩)
  | [], fuel, r, _, hfuel => ⟨fun _ _ h => absurd h.symm (Option.some_ne_none _),
      fun _ => ⟨fuel, by omega, rfl⟩⟩
  | l :: comments, fuel, r, hl, hfuel => by
    rw [List.forall_mem_cons] at hl
    rw [joinLines_cons, List.length_append, List.length_cons] at hfuel
    obtain ⟨hstop, hskip⟩ := skipComments_lineLeft eof bad l hl.1 fuel (by omega)
      (joinLines comments r)
    rw [joinLines_cons, stoppedIn]
    rcases hleft : lineLeft l with _ | left
    · obtain ⟨fuel', hle, heq⟩ := hskip hleft
      rw [heq]
      exact skip_comments comments r hl.2 (by omega)
    · refine ⟨fun left' later h => ?_, fun h => absurd h (Option.some_ne_none _)⟩
      obtain ⟨rfl, rfl⟩ := Prod.mk.inj (Option.some.inj h)
      exact hstop left hleft

end Header

/-! ## The version -/

theorem parse_versionFormat : parseFormat "%d.%d.%d\n"
    = [.conv false none .dec, .lit '.', .conv false none .dec, .lit '.', .conv false none .dec,
      .space] := by
  decide

/-- The version is read, and the line's end and what blanks follow. -/
theorem scan_version (f : IdsText) {s : List Char} (hs : ∀ c ∈ s, isSpace c = true) :
    (fscanf ⟨s ++ f.body, false, false⟩ "%d.%d.%d\n").1.count = 3
      ∧ (fscanf ⟨s ++ f.body, false, false⟩ "%d.%d.%d\n").2
        = ⟨entriesText f.entries, entriesText f.entries = [], false⟩ := by
  obtain ⟨ha, hb, hc⟩ := f.version_numbers
  have hreada := read_int hs (k := .dec) (w := none) (b := '.')
    (r := f.b ++ '.' :: (f.c ++ '\n' :: entriesText f.entries)) (by decide) ha.2 ha.1 (by simp)
    (by decide) (by simp)
  have hreadb := read_int (s := []) (by simp) (k := .dec) (w := none) (b := '.')
    (r := f.c ++ '\n' :: entriesText f.entries) (by decide) hb.2 hb.1 (by simp) (by decide)
    (by simp)
  have hreadc := read_int (s := []) (by simp) (k := .dec) (w := none) (b := '\n')
    (r := entriesText f.entries) (by decide) hc.2 hc.1 (by simp) (by decide) (by simp)
  have hend : ('\n' :: entriesText f.entries).dropWhile isSpace = entriesText f.entries := by
    rcases f.entries with _ | ⟨e, entries⟩
    · rfl
    · rw [entriesText_cons, e.text_append]
      exact dropWhile_digits (s := ['\n']) (forall_mem_of_all (by decide)) e.did_hex.1 e.did_hex.2.2 _
  have hbody : f.body = f.a ++ '.' :: (f.b ++ '.' :: (f.c ++ '\n' :: entriesText f.entries)) := by
    simp [IdsText.body, IdsText.versionLine]
  rw [List.nil_append] at hreadb hreadc
  rw [hbody]
  unfold fscanf
  dsimp only
  rw [parse_versionFormat, scan_conv hreada, scan_lit, scan_conv hreadb, scan_lit,
    scan_conv hreadc, scan_space, hend]
  simp [Scan.count]

/-- A character that begins a number for `%d`. -/
def beginsNumber (c : Char) : Bool := c = '-' || c = '+' || isDigitOf 10 c

theorem version_fails {cs : List Char}
    (h : ∀ c ∈ (cs.dropWhile isSpace).head?, beginsNumber c = false) :
    (scan (parseFormat "%d.%d.%d\n") cs).count ≠ 3 := by
  have hread : ∃ rest eof inputEnd, Conv.dec.read none cs = .fail rest eof inputEnd := by
    rcases hdrop : cs.dropWhile isSpace with _ | ⟨c, rest⟩
    · exact ⟨[], true, true, by simp only [Conv.read, hdrop]⟩
    · rw [hdrop] at h
      obtain ⟨hminus, hplus, hdigit⟩ : c ≠ '-' ∧ c ≠ '+' ∧ isDigitOf 10 c = false := by
        simpa [beginsNumber, and_assoc] using h c rfl
      refine ⟨c :: rest, false, false, ?_⟩
      rcases rest with _ | ⟨d, rest⟩ <;>
        simp [Conv.read, hdrop, readInt, readSign, readPrefix, hminus, hplus, spanUpTo, hdigit,
          Conv.base]
  obtain ⟨rest, eof, inputEnd, hread⟩ := hread
  rw [parse_versionFormat]
  refine count_ne_three ?_
  rw [scan_fail hread]
  exact Nat.succ_pos 2

/-- An entry is no version. -/
theorem version_entries (entries : List IdsEntry) :
    (scan (parseFormat "%d.%d.%d\n") (entriesText entries)).count ≠ 3 := by
  rcases entries with _ | ⟨e, entries⟩
  · exact version_fails fun c hc => absurd hc (by simp [entriesText])
  rw [entriesText_cons, e.text_append]
  obtain ⟨hne, -, hhex⟩ := e.did_hex
  generalize '\t' :: (e.rid ++ ',' :: '\t' :: (e.name ++ '\n' :: entriesText entries)) = t
  have hstart := dropWhile_digits (s := []) (by simp) hne hhex (',' :: t)
  rw [List.nil_append] at hstart
  rcases htake : e.did.takeWhile (isDigitOf 10) with _ | ⟨d, ds⟩
  · refine version_fails ?_
    rw [hstart]
    obtain ⟨c, cs, hdid⟩ := List.exists_cons_of_ne_nil hne
    rw [hdid] at htake hhex ⊢
    rintro _ ⟨⟩
    have hsign := ne_sign_of_digit (by decide) (hhex c List.mem_cons_self)
    rcases hdigit : isDigitOf 10 c
    · simp [beginsNumber, hsign, hdigit]
    · rw [List.takeWhile_cons_of_pos hdigit] at htake
      exact absurd htake (List.cons_ne_nil _ _)
  · have hall : ∀ c ∈ d :: ds, isDigitOf 10 c = true := by
      rw [← htake]
      exact fun c hc => List.mem_takeWhile_imp hc
    -- what follows the digits is a letter or the comma
    obtain ⟨b, r, hbr, hb, hdot⟩ : ∃ b r, e.did.dropWhile (isDigitOf 10) ++ ',' :: t = b :: r
        ∧ isDigitOf 10 b = false ∧ b ≠ '.' := by
      rcases hdrop : e.did.dropWhile (isDigitOf 10) with _ | ⟨b, r⟩
      · exact ⟨',', t, rfl, by decide, by decide⟩
      · have hhead := List.head?_dropWhile_not (isDigitOf 10) e.did
        rw [hdrop] at hhead
        refine ⟨b, r ++ ',' :: t, rfl, hhead, ?_⟩
        rintro rfl
        have hmem : '.' ∈ e.did :=
          (List.dropWhile_sublist (isDigitOf 10)).subset (hdrop ▸ List.mem_cons_self)
        exact absurd (hhex '.' hmem) (by decide)
    have hread := read_int (s := []) (by simp) (k := .dec) (w := none) (b := b) (r := r) (by decide)
      hall (List.cons_ne_nil _ _) (by simp) hb (by simp)
    rw [← List.takeWhile_append_dropWhile (p := isDigitOf 10) (l := e.did), htake,
      List.append_assoc, hbr, parse_versionFormat, ← List.nil_append ((d :: ds) ++ b :: r),
      scan_conv hread, scan_lit_ne hdot]
    exact count_ne_three (by simp)

/-! ## The lookup -/

/-- The file, opened. -/
def IdsText.file (f : IdsText) : IdsFile := ⟨true, some ⟨f.text, false, false⟩⟩

/-- Where the 99 characters of a read, or the 32 bits of a number, are not enough, nothing passes
for what it is not. -/
structure IdsText.Plain (f : IdsText) (device : Device) : Prop where
  comments : ∀ left later, stoppedIn f.comments = some (left, later) →
    ∀ c ∈ (left.dropWhile isSpace).head?, beginsNumber c = false
  version : f.blanks = [] → f.versionLine.length < 99
  rids : RidsTell f.entries device

theorem length_entries : ∀ entries : List IdsEntry, entries.length ≤ (entriesText entries).length
  | [] => Nat.zero_le _
  | e :: entries => by
    have ih := length_entries entries
    rw [entriesText_cons, e.text_append]
    simp only [List.length_append, List.length_cons]
    rw [entriesText] at ih ⊢
    omega

theorem joinLines_blank {ls : List (List Char)} (h : ∀ l ∈ ls, ∀ c ∈ l, isSpace c = true) :
    ∀ c ∈ joinLines ls [], isSpace c = true := by
  intro c hc
  simp only [joinLines, List.append_nil, List.mem_flatMap, List.mem_append,
    List.mem_singleton] at hc
  obtain ⟨l, hl, hmem | rfl⟩ := hc
  · exact h l hl c hmem
  · exact isSpace_newline

section Lookup

variable (f : IdsText)

theorem IdsText.blank (l : List Char) (hl : l ∈ f.blanks) : ∀ c ∈ l, isSpace c = true :=
  fun c hc => (f.blanks_blank l hl c hc).1

theorem versionLine_head : ∀ c ∈ f.versionLine.head?, isDigitOf 10 c = true := by
  intro c hc
  obtain ⟨hne, hdigits⟩ := f.version_digits f.a List.mem_cons_self
  obtain ⟨d, ds, ha⟩ := List.exists_cons_of_ne_nil hne
  rw [IdsText.versionLine, ha] at hc
  obtain rfl := Option.some.inj hc
  exact hdigits d (ha ▸ List.mem_cons_self)

theorem newline_versionLine : '\n' ∉ f.versionLine := by
  obtain ⟨ha, hb, hc⟩ := f.version_numbers
  intro h
  simp only [IdsText.versionLine, List.mem_append, List.mem_cons] at h
  obtain h | h | h | h | h := h
  · exact absurd (ha.2 _ h) (by decide)
  · exact absurd h (by decide)
  · exact absurd (hb.2 _ h) (by decide)
  · exact absurd h (by decide)
  · exact absurd (hc.2 _ h) (by decide)

theorem skip_text :
    (∀ left later, stoppedIn f.comments = some (left, later) →
        skipComments (f.text.length + 1) ⟨f.text, false, false⟩
          = ⟨left ++ joinLines later (joinLines f.blanks f.body), false, false⟩)
      ∧ (stoppedIn f.comments = none → ∃ fuel,
        skipComments (f.text.length + 1) ⟨f.text, false, false⟩
          = skipComments (fuel + 1) ⟨joinLines f.blanks f.body, false, false⟩) := by
  have hlen : (joinLines f.comments []).length < f.text.length + 1 := by
    rw [IdsText.text, joinLines_append f.comments (joinLines f.blanks f.body), List.length_append]
    omega
  obtain ⟨hstop, hskip⟩ := skip_comments false false f.comments (joinLines f.blanks f.body)
    (fun l hl => (f.comments_hash l hl).2) hlen
  refine ⟨hstop, fun h => ?_⟩
  obtain ⟨fuel, hpos, heq⟩ := hskip h
  obtain ⟨n, rfl⟩ : ∃ n, fuel = n + 1 := ⟨fuel - 1, by omega⟩
  exact ⟨n, heq⟩

/-- A header that is passed leaves blanks and the version. -/
theorem skip_passed (h : f.Passed) : ∃ s, (∀ c ∈ s, isSpace c = true)
    ∧ skipComments (f.text.length + 1) ⟨f.text, false, false⟩ = ⟨s ++ f.body, false, false⟩ := by
  obtain ⟨hstop, hskip⟩ := skip_text f
  unfold IdsText.Passed at h
  rcases hstopped : stoppedIn f.comments with _ | ⟨left, later⟩
  · rw [hstopped] at h
    obtain ⟨fuel, heq⟩ := hskip hstopped
    obtain ⟨l, ls, hblanks⟩ := List.exists_cons_of_ne_nil h
    have hblank : ∀ m ∈ l :: ls, ∀ c ∈ m, isSpace c = true := hblanks ▸ f.blank
    rw [List.forall_mem_cons] at hblank
    have hnewline : '\n' ∉ l := fun hmem =>
      (f.blanks_blank l (hblanks ▸ List.mem_cons_self) _ hmem).2 rfl
    have hhead : l.head? ≠ some '#' := fun hhash =>
      absurd (hblank.1 '#' (List.mem_of_mem_head? hhash)) (by decide)
    refine ⟨(l ++ ['\n']).drop 99 ++ joinLines ls [], fun c hc => ?_, ?_⟩
    · obtain hc | hc := List.mem_append.1 hc
      · obtain hc | hc := List.mem_append.1 ((List.drop_sublist 99 _).subset hc)
        · exact hblank.1 c hc
        · rw [List.mem_singleton.1 hc]
          exact isSpace_newline
      · exact joinLines_blank hblank.2 c hc
    · rw [heq, hblanks, joinLines_cons, skipComments_line false false hnewline, if_pos hhead,
        joinLines_append ls f.body, List.append_assoc]
  · rw [hstopped] at h
    obtain ⟨rfl, hleft⟩ := h
    refine ⟨left ++ joinLines f.blanks [], fun c hc => ?_, ?_⟩
    · obtain hc | hc := List.mem_append.1 hc
      · exact hleft c hc
      · exact joinLines_blank f.blank c hc
    · rw [hstop left [] hstopped, joinLines_append f.blanks f.body, List.append_assoc]
      rfl

/-- One that is not leaves what is no version. -/
theorem skip_not_passed {device : Device} (hplain : f.Plain device) (h : ¬ f.Passed) :
    (fscanf (skipComments (f.text.length + 1) ⟨f.text, false, false⟩) "%d.%d.%d\n").1.count
      ≠ 3 := by
  obtain ⟨hstop, hskip⟩ := skip_text f
  unfold IdsText.Passed at h
  rcases hstopped : stoppedIn f.comments with _ | ⟨left, later⟩
  · rw [hstopped] at h
    obtain ⟨fuel, heq⟩ := hskip hstopped
    have hnone : f.blanks = [] := not_not.1 h
    have hhead : f.versionLine.head? ≠ some '#' := fun hhash =>
      absurd (versionLine_head f '#' hhash) (by decide)
    have hdrop : (f.versionLine ++ ['\n']).drop 99 = [] := by
      have := hplain.version hnone
      exact List.drop_of_length_le (by simp; omega)
    have hbody : joinLines [] f.body = f.versionLine ++ '\n' :: entriesText f.entries := rfl
    rw [heq, hnone, hbody, skipComments_line false false (newline_versionLine f),
      if_pos hhead, hdrop]
    exact version_entries f.entries
  · rw [hstopped] at h
    rw [hstop left later hstopped]
    refine version_fails ?_
    by_cases hblank : ∀ c ∈ left, isSpace c = true
    · obtain ⟨l, ls, rfl⟩ := List.exists_cons_of_ne_nil fun hnil => h ⟨hnil, hblank⟩
      have hhash := (f.comments_hash l (stoppedIn_later hstopped l List.mem_cons_self)).1
      obtain ⟨c, cs, rfl⟩ : ∃ c cs, l = c :: cs := by
        rcases l with _ | ⟨c, cs⟩
        · exact absurd hhash (by simp)
        · exact ⟨c, cs, rfl⟩
      obtain rfl := Option.some.inj hhash
      rw [joinLines_cons, List.cons_append, dropWhile_blanks hblank (by decide)]
      rintro _ ⟨⟩
      decide
    · have hne : left.dropWhile isSpace ≠ [] := fun hnil =>
        hblank fun c hc => List.dropWhile_eq_nil_iff.1 hnil c hc
      rw [List.dropWhile_append, if_neg (by simpa using hne), List.head?_append_of_ne_nil _ hne]
      exact hplain.comments left later hstopped

theorem lookup_opened {device : Device} (hvendor : device.vendorId = 0x1002) (name : List Char) :
    getDeviceNameFromAmdgpuIDS f.file device name
      = let (r, fp) := fscanf (skipComments (f.text.length + 1) ⟨f.text, false, false⟩) "%d.%d.%d\n"
        if r.count ≠ 3 then some (-einval, name)
        else searchIds device name (fp.rest.length + 1) fp := by
  unfold getDeviceNameFromAmdgpuIDS IdsText.file
  rw [if_neg (not_not.2 hvendor)]
  rfl

/-- Behind a header that is passed, the names decide. -/
theorem lookup_passed {device : Device} (hvendor : device.vendorId = 0x1002) (h : f.Passed)
    (hhits : RidsTell f.entries device) (name : List Char) :
    getDeviceNameFromAmdgpuIDS f.file device name = some (expected f.entries device name)
      ↔ NamesFound f.entries device := by
  obtain ⟨s, hs, heq⟩ := skip_passed f h
  obtain ⟨hcount, hrest⟩ := scan_version f hs
  have hfuel := length_entries f.entries
  have hempty : decide (entriesText f.entries = []) = true → f.entries = [] := fun hnil => by
    rw [of_decide_eq_true hnil] at hfuel
    exact List.length_eq_zero_iff.1 (Nat.le_zero.1 hfuel)
  rw [lookup_opened f hvendor, heq]
  dsimp only
  rw [hrest, if_neg (not_not.2 hcount)]
  exact searchIds_iff device name f.entries (s := []) (by simp) hempty (Nat.lt_succ_of_le hfuel)
    hhits

/-- A device is given what the file says of it just if, where there is such an entry, the header is
passed, the names before it are clean, and its own is whole. -/
theorem getDeviceNameFromAmdgpuIDS_iff {device : Device} (hvendor : device.vendorId = 0x1002)
    (hplain : f.Plain device) (name : List Char) :
    getDeviceNameFromAmdgpuIDS f.file device name = some (expected f.entries device name)
      ↔ ∀ before e after, f.entries = before ++ e :: after →
        (∀ b ∈ before, ¬ b.Matches device) → e.Matches device →
        f.Passed ∧ (∀ b ∈ before, b.Clean) ∧ e.Whole := by
  by_cases hpassed : f.Passed
  · refine (lookup_passed f hvendor hpassed hplain.rids name).trans ?_
    simp only [NamesFound, hpassed, true_and]
  · rw [lookup_opened f hvendor]
    dsimp only
    rw [if_pos (skip_not_passed f hplain hpassed), Option.some_inj, eq_comm, expected_fails]
    constructor
    · rintro hnone before e after heq - hmatch
      exact absurd hmatch (hnone e (by rw [heq]; simp))
    · intro h e he hmatch
      obtain ⟨before, first, after, heq, hnone, hfirst⟩ := exists_first ⟨e, he, hmatch⟩
      exact hpassed (h before first after heq hnone hfirst).1

/-- A name from the file, or what else there is. -/
theorem DeviceGetDeviceName_of_lookup {device : Device} {name : List Char}
    (h : getDeviceNameFromAmdgpuIDS f.file device name = some (expected f.entries device name))
    (pciName : Option (List Char)) : DeviceGetDeviceName f.file pciName device name
      = some (((f.entries.find? (·.Matches device)).map (·.name)).getD
          (pciName.getD (unknowDevice device))) := by
  rw [DeviceGetDeviceName, h, expected]
  rcases hfind : f.entries.find? (·.Matches device) with _ | e <;> rw [hfind] <;> rfl

end Lookup

/-- A card. -/
def polaris : Device :=
  { addr := 0, id := 0, pdev := ⟨0, 1, 0, 0, vendorAmd, 0x67df, vendorAmd, 0x0b37, 0x030000, 0xc7⟩
    vendorId := 0x1002, deviceId := 0x67df, revisionId := 0xc7 }

/-- The card's entry. -/
def polarisEntry : IdsEntry where
  did := "67DF".toList
  rid := "C7".toList
  name := "AMD Radeon RX 480".toList
  did_hex := ⟨by decide, by decide, forall_mem_of_all (by decide)⟩
  rid_hex := ⟨by decide, forall_mem_of_all (by decide)⟩
  name_length := by decide
  name_print := forall_mem_of_all (by decide)

/-- An entry of another card, whose name has a comma. -/
def commaEntry : IdsEntry where
  did := "6900".toList
  rid := "83".toList
  name := "AMD Radeon R5 M255, M315".toList
  did_hex := ⟨by decide, by decide, forall_mem_of_all (by decide)⟩
  rid_hex := ⟨by decide, forall_mem_of_all (by decide)⟩
  name_length := by decide
  name_print := forall_mem_of_all (by decide)

/-- The file with the entries. -/
def idsText (entries : List IdsEntry) : IdsText where
  comments := ["# device_id, revision_id, product_name".toList]
  blanks := [[]]
  a := ['1']
  b := ['0']
  c := ['0']
  entries
  comments_hash := forall_mem_of_all (by decide)
  blanks_blank := List.forall_mem_singleton.2 (forall_mem_of_all (by decide))
  version_digits := List.forall_mem_cons.2 ⟨⟨by decide, forall_mem_of_all (by decide)⟩,
    List.forall_mem_cons.2 ⟨⟨by decide, forall_mem_of_all (by decide)⟩,
      List.forall_mem_singleton.2 ⟨by decide, forall_mem_of_all (by decide)⟩⟩⟩

theorem idsText_stopped (entries : List IdsEntry) :
    stoppedIn (idsText entries).comments = none := by
  simp [idsText, stoppedIn, lineLeft]

theorem idsText_plain {entries : List IdsEntry} {device : Device}
    (h : RidsTell entries device) : (idsText entries).Plain device where
  comments _ _ hstopped :=
    absurd (hstopped.symm.trans (idsText_stopped entries)) (Option.some_ne_none _)
  version hnone := absurd hnone (List.cons_ne_nil _ _)
  rids := h

theorem idsText_passed (entries : List IdsEntry) : (idsText entries).Passed := by
  rw [IdsText.Passed, idsText_stopped]
  exact List.cons_ne_nil _ _

/-- Another card's entry, and one behind the card's own whose `rid` is the card's but for its high
bits. -/
def furyEntry : IdsEntry where
  did := "7300".toList
  rid := "C8".toList
  name := "AMD Radeon R9 Fury".toList
  did_hex := ⟨by decide, by decide, forall_mem_of_all (by decide)⟩
  rid_hex := ⟨by decide, forall_mem_of_all (by decide)⟩
  name_length := by decide
  name_print := forall_mem_of_all (by decide)

def longRidEntry : IdsEntry :=
  { polarisEntry with
    rid := "1000000C7".toList, rid_hex := ⟨by decide, forall_mem_of_all (by decide)⟩ }

theorem ridsTell_polaris : RidsTell [furyEntry, polarisEntry, longRidEntry] polaris := by
  rintro (_ | ⟨b, _ | ⟨b', before⟩⟩) e after heq hnone
  · obtain ⟨rfl, -⟩ := List.cons.inj heq
    decide
  · obtain ⟨-, htail⟩ := List.cons.inj heq
    obtain ⟨rfl, -⟩ := List.cons.inj htail
    decide
  · obtain ⟨-, htail⟩ := List.cons.inj heq
    obtain ⟨rfl, -⟩ := List.cons.inj htail
    exact absurd (by decide) (hnone polarisEntry (by simp))

/-- The card's entry is the second of three. -/
theorem getDeviceNameFromAmdgpuIDS_polaris :
    (idsText [furyEntry, polarisEntry, longRidEntry]).Plain polaris
    ∧ getDeviceNameFromAmdgpuIDS (idsText [furyEntry, polarisEntry, longRidEntry]).file polaris []
      = some (0, "AMD Radeon RX 480".toList) := by
  have hplain := idsText_plain ridsTell_polaris
  refine ⟨hplain, (getDeviceNameFromAmdgpuIDS_iff _ rfl hplain []).2 ?_⟩
  rintro (_ | ⟨b, _ | ⟨b', before⟩⟩) e after heq hnone hmatch
  · obtain ⟨rfl, -⟩ := List.cons.inj heq
    exact absurd hmatch (by decide)
  · obtain ⟨rfl, htail⟩ := List.cons.inj heq
    obtain ⟨rfl, -⟩ := List.cons.inj htail
    have hhead : ∀ c ∈ polarisEntry.name.head?, isSpace c = false := by
      rintro _ ⟨⟩
      decide
    exact ⟨idsText_passed _,
      List.forall_mem_singleton.2 ⟨⟨'A', by decide, by decide⟩, forall_mem_of_all (by decide)⟩,
      hhead, forall_mem_of_all (by decide)⟩
  · obtain ⟨-, htail⟩ := List.cons.inj heq
    obtain ⟨rfl, -⟩ := List.cons.inj htail
    exact absurd (by decide) (hnone polarisEntry (by simp))

/-- The card is not found behind the name with the comma. -/
theorem getDeviceNameFromAmdgpuIDS_comma : ¬ ∀ (f : IdsText) (device : Device) (name : List Char),
    device.vendorId = 0x1002 →
      getDeviceNameFromAmdgpuIDS f.file device name = some (expected f.entries device name) := by
  intro h
  have hhits : RidsTell [commaEntry, polarisEntry] polaris := ridsTell_of_forall
    (List.forall_mem_cons.2 ⟨by decide, List.forall_mem_singleton.2 (by decide)⟩)
  have hfound := (lookup_passed _ rfl (idsText_passed _) hhits []).1 (h _ polaris [] rfl)
  obtain ⟨hclean, -⟩ := hfound [commaEntry] polarisEntry [] rfl
    (List.forall_mem_singleton.2 (by decide)) (by decide)
  exact absurd ((hclean commaEntry List.mem_cons_self).2 ',' (by decide)) (by decide)

end Amdtop
