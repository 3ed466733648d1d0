import Amdtop.DebugText
import Amdtop.Proofs.Stdio

/-!
# A ring's section read back

A line of a section goes to the field its label names, a "Last emitted" by how many were read before
it (`fenceLine_printed`); a header changes no field (`fenceLine_header`). So the scan of the file
stores the lines of the sections it accepts, one after the other, and leaves `ringid` at the last
header it stops at (`fenceScan_rings`).
-/

namespace Amdtop

open Stdio

/-! ## Lines -/

/-- The words of a label. -/
def FenceField.words : FenceField → List (List Char)
  | .signaled => ["Last".toList, "signaled".toList, "fence".toList]
  | .emitted => ["Last".toList, "emitted".toList]
  | .trailingFence => ["Last".toList, "signaled".toList, "trailing".toList, "fence".toList]
  | .emittedTrial => ["Last".toList, "emitted".toList]
  | .preempted => ["Last".toList, "preempted".toList]
  | .reset => ["Last".toList, "reset".toList]
  | .both => ["Last".toList, "both".toList]

theorem label_words (f : FenceField) : f.label.toList ++ [' '] = f.words.flatMap (· ++ [' ']) := by
  cases f <;> rfl

theorem words_graph (f : FenceField) : ∀ w ∈ f.words, w ≠ [] ∧ ∀ c ∈ w, isSpace c = false := by
  have h : (f.words.all fun w => w ≠ [] && w.all fun c => !isSpace c) = true := by
    cases f <;> decide
  simpa using h

/-- What stands after the first blank behind a label. -/
def valueText (k : ℕ) (v : UInt32) : List Char :=
  List.replicate k ' ' ++ ('0' :: 'x' :: hexPad 8 v.toNat) ++ ['\n']

theorem printFenceLine_eq (g : Gaps) (f : FenceField) (v : UInt32) :
    printFenceLine g (f, v) ++ ['\n'] = f.label.toList ++ ' ' :: valueText (g.blanks f - 1) v := by
  obtain ⟨k, hk⟩ : ∃ k, g.blanks f = k + 1 := ⟨g.blanks f - 1, by have := g.pos f; omega⟩
  simp [printFenceLine, valueText, hk, List.replicate_succ]

theorem not_mem_valueText {c : Char} (hc : isDigitOf 16 c = false)
    (h : c ≠ ' ' ∧ c ≠ 'x' ∧ c ≠ '\n') (k : ℕ) (v : UInt32) : c ∉ valueText k v := by
  intro hm
  simp only [valueText, List.mem_append, List.mem_cons, List.mem_replicate] at hm
  rcases hm with (⟨-, rfl⟩ | rfl | rfl | hm) | rfl | hm
  · exact h.1 rfl
  · exact absurd hc (by decide)
  · exact h.2.1 rfl
  · rw [isDigitOf_hexPad _ _ c hm] at hc
    cases hc
  · exact h.2.2 rfl
  · simp at hm

/-- The words the lines are told apart by. -/
def fenceWords : List (List Char) :=
  ["emitted".toList, "trailing".toList, "signaled".toList, "preempted".toList, "reset".toList,
    "both".toList]

/-- Each has a letter that no value has. -/
theorem fenceWords_letter : ∀ n ∈ fenceWords, ' ' ∉ n ∧
    ∃ c ∈ n, isDigitOf 16 c = false ∧ c ≠ ' ' ∧ c ≠ 'x' ∧ c ≠ '\n' := by
  simp only [fenceWords, List.forall_mem_cons]
  refine ⟨?emitted, ?trailing, ?signaled, ?preempted, ?reset, ?both, by simp⟩
  case emitted | trailing | preempted | reset | both => exact ⟨by decide, 't', by decide, by decide⟩
  case signaled => exact ⟨by decide, 's', by decide, by decide⟩

/-- A word occurs in a line exactly if it occurs in the label. -/
theorem strstr_line (g : Gaps) (f : FenceField) (v : UInt32) {n : List Char} (hn : n ∈ fenceWords) :
    (strstr (printFenceLine g (f, v) ++ ['\n']) n).isSome = decide (n <:+: f.label.toList) := by
  obtain ⟨hsep, c, hmem, hc, h⟩ := fenceWords_letter n hn
  have hval := not_infix_of_mem hmem (not_mem_valueText hc h (g.blanks f - 1) v)
  rw [Bool.eq_iff_iff, strstr_isSome_iff, printFenceLine_eq, infix_append_sep hsep,
    decide_eq_true_iff]
  simp [hval]

/-- The format of a value behind `n` words. -/
def valueFormat (n : ℕ) : List Directive :=
  (List.replicate n [.conv true none .word, .space]).flatten
    ++ [.lit '0', .lit 'x', .conv false (some 8) .hex]

theorem scan_value (k : ℕ) (v : UInt32) :
    (scan (valueFormat 0) ((valueText k v).dropWhile isSpace)).vals = [.num v] := by
  have hsp : ∀ c ∈ List.replicate k ' ', isSpace c = true := by
    intro c hc
    rw [List.eq_of_mem_replicate hc]
    exact isSpace_blank
  have hlen : (hexPad 8 v.toNat).length = 8 := length_hexPad (by omega) v.toNat_lt
  have hread := read_int (s := []) (by simp) (k := .hex) (w := some 8) (r := []) (b := '\n')
    (by simp) (isDigitOf_hexPad 8 v.toNat) (by intro h; simp [h] at hlen) (by simp [hlen])
    (by decide) (by decide)
  have htext : valueText k v = List.replicate k ' ' ++ '0' :: ('x' :: hexPad 8 v.toNat ++ ['\n']) :=
    by simp [valueText]
  rw [htext, dropWhile_blanks hsp (by decide)]
  show (scan [.lit '0', .lit 'x', .conv false (some 8) .hex] _).vals = _
  rw [scan_lit, List.cons_append, scan_lit]
  have hscan := congrArg Scan.vals (scan_conv hread [])
  rw [List.nil_append] at hscan
  rw [hscan, show Conv.hex.base = 16 from rfl, numeral_hexPad, store_of_lt v.toNat_lt]
  simp

theorem scan_words : ∀ (ws : List (List Char)),
    (∀ w ∈ ws, w ≠ [] ∧ ∀ c ∈ w, isSpace c = false) → ∀ cs : List Char,
      (scan (valueFormat ws.length) ((ws.flatMap (· ++ [' ']) ++ cs).dropWhile isSpace)).vals
        = (scan (valueFormat 0) (cs.dropWhile isSpace)).vals
  | [], _, _ => rfl
  | w :: ws, hw, cs => by
    obtain ⟨hne, hg⟩ := hw w (by simp)
    have hread := read_word (s := []) (by simp) (w := none)
      (r := ws.flatMap (· ++ [' ']) ++ cs) hg hne (by simp) isSpace_blank
    have htext : (w :: ws).flatMap (· ++ [' ']) ++ cs
        = w ++ ' ' :: (ws.flatMap (· ++ [' ']) ++ cs) := by simp
    have hform : valueFormat (ws.length + 1)
        = .conv true none .word :: .space :: valueFormat ws.length := by
      simp [valueFormat, List.replicate_succ]
    rw [List.length_cons, hform, htext, scan_dropWhile (by simp), ← List.nil_append (w ++ _),
      scan_skip hread, scan_space]
    show (scan _ _).vals = _
    rw [List.dropWhile_cons_of_pos isSpace_blank]
    exact scan_words ws (fun w' hw' => hw w' (List.mem_cons_of_mem _ hw')) cs

/-- A format that skips as many words as the label has reads the line's value. -/
theorem fenceCount_line {fmt : String} (g : Gaps) (f : FenceField) (v : UInt32)
    (h : parseFormat fmt = valueFormat f.words.length) :
    fenceCount (printFenceLine g (f, v) ++ ['\n']) fmt = some v := by
  have htext : (printFenceLine g (f, v) ++ ['\n']).dropWhile isSpace
      = printFenceLine g (f, v) ++ ['\n'] := by
    rw [printFenceLine_eq]
    cases f <;> rfl
  have hvals := scan_words f.words (words_graph f) (valueText (g.blanks f - 1) v)
  rw [scan_value, ← label_words, List.append_assoc, List.singleton_append, ← printFenceLine_eq,
    htext] at hvals
  simp only [fenceCount, sscanf, h, hvals]

def AmdGpuFenceInfo.set (info : AmdGpuFenceInfo) (f : FenceField) (v : UInt32) : AmdGpuFenceInfo :=
  match f with
  | .signaled => { info with signaled := v }
  | .emitted => { info with emitted := v }
  | .trailingFence => { info with trailingFence := v }
  | .emittedTrial => { info with emittedTrial := v }
  | .preempted => { info with preempted := v }
  | .reset => { info with reset := v }
  | .both => { info with both := v }

/-- What a line does to the number of emitted lines so far and to `fenceInfo`. -/
def storeLine (s : ℕ × AmdGpuFenceInfo) (l : FenceField × UInt32) : ℕ × AmdGpuFenceInfo :=
  if l.1 = .emitted ∨ l.1 = .emittedTrial then
    (s.1 + 1, if s.1 = 0 then s.2.set .emitted l.2
      else if s.1 = 1 then s.2.set .emittedTrial l.2 else s.2)
  else (s.1, s.2.set l.1 l.2)

theorem fenceLine_printed (g : Gaps) (l : FenceField × UInt32) (s : ℕ × AmdGpuFenceInfo) :
    fenceLine (printFenceLine g l ++ ['\n']) s.1 s.2 = storeLine s l := by
  obtain ⟨f, v⟩ := l
  have h2 : f.words.length = 2 → fenceCount (printFenceLine g (f, v) ++ ['\n'])
      "%*s %*s 0x%08x" = some v := fun h => fenceCount_line g f v (by rw [h]; decide)
  have h3 : f.words.length = 3 → fenceCount (printFenceLine g (f, v) ++ ['\n'])
      "%*s %*s %*s 0x%08x" = some v := fun h => fenceCount_line g f v (by rw [h]; decide)
  have h4 : f.words.length = 4 → fenceCount (printFenceLine g (f, v) ++ ['\n'])
      "%*s %*s %*s %*s 0x%08x" = some v := fun h => fenceCount_line g f v (by rw [h]; decide)
  have hwords : ∀ n ∈ fenceWords, (strstr (printFenceLine g (f, v) ++ ['\n']) n).isSome
      = decide (n <:+: f.label.toList) := fun n hn => strstr_line g f v hn
  simp only [fenceWords, List.forall_mem_cons] at hwords
  obtain ⟨hemitted, htrailing, hsignaled, hpreempted, hreset, hboth, -⟩ := hwords
  unfold fenceLine storeLine
  rw [hemitted, htrailing, hsignaled, hpreempted, hreset, hboth]
  dsimp only
  cases f
  · rw [if_neg (by decide), if_neg (by decide), if_pos (by decide), if_neg (by decide), h3 rfl]
    rfl
  · rw [if_pos (by decide), if_pos (Or.inl rfl), h2 rfl]
    rfl
  · rw [if_neg (by decide), if_pos (by decide), if_neg (by decide), h4 rfl]
    rfl
  · rw [if_pos (by decide), if_pos (Or.inr rfl), h2 rfl]
    rfl
  · rw [if_neg (by decide), if_neg (by decide), if_neg (by decide), if_pos (by decide),
      if_neg (by decide), h2 rfl]
    rfl
  · rw [if_neg (by decide), if_neg (by decide), if_neg (by decide), if_neg (by decide),
      if_pos (by decide), if_neg (by decide), h2 rfl]
    rfl
  · rw [if_neg (by decide), if_neg (by decide), if_neg (by decide), if_neg (by decide),
      if_neg (by decide), if_pos (by decide), if_neg (by decide), h2 rfl]
    rfl

/-! ## Headers -/

theorem scan_value_none : ∀ {cs : List Char}, ¬ ['0', 'x'] <+: cs →
    (scan (valueFormat 0) cs).vals = []
  | [], _ => rfl
  | c :: cs, h => by
    show (scan [.lit '0', .lit 'x', .conv false (some 8) .hex] (c :: cs)).vals = []
    by_cases hc : c = '0'
    · subst hc
      rw [scan_lit]
      rcases cs with _ | ⟨d, cs⟩
      · rfl
      · by_cases hd : d = 'x'
        · exact absurd (by simp [hd]) h
        · rw [scan_lit_ne hd]
    · rw [scan_lit_ne hc]

theorem decimal_not_hex (n : ℕ) (cs : List Char) : ¬ ['0', 'x'] <+: decimal n ++ ' ' :: cs := by
  intro h
  have hd := isDigitOf_toDigits (b := 10) (by omega) (by omega) n
  rcases hl : decimal n with _ | ⟨c, _ | ⟨d, ds⟩⟩
  · exact Nat.toDigits_ne_nil hl
  · simp [hl] at h
  · rw [hl] at h
    simp only [List.cons_append, List.cons_prefix_cons] at h
    have := hd d (by rw [← decimal, hl]; simp)
    rw [← h.2.1] at this
    exact absurd this (by decide)

section Header

variable {r : FenceRing} (hr : r.Valid)

def headerWords (r : FenceRing) : List (List Char) :=
  ["---".toList, "ring".toList, decimal r.id, '(' :: (r.name ++ [')'])]

theorem printHeader_words (r : FenceRing) : printHeader r ++ ['\n'] =
    (headerWords r).flatMap (· ++ [' ']) ++ "---\n".toList := by
  have h1 : "--- ring ".toList = "---".toList ++ ' ' :: ("ring".toList ++ [' ']) := by decide
  have h2 : ") ---".toList = ')' :: ' ' :: "---".toList := by decide
  have h3 : "---\n".toList = "---".toList ++ ['\n'] := by decide
  have h : ∀ a b : List Char, (a ++ ' ' :: (b ++ [' '])) ++ (decimal r.id ++ ' ' :: '(' ::
      (r.name ++ ')' :: ' ' :: a)) ++ ['\n'] =
        [a, b, decimal r.id, '(' :: (r.name ++ [')'])].flatMap (· ++ [' ']) ++ (a ++ ['\n']) := by
    intro a b
    simp
  unfold printHeader
  rw [h1, h2, h3]
  exact h _ _

include hr in
theorem name_graph : r.name ++ [')'] ≠ [] ∧ ∀ c ∈ r.name ++ [')'], isSpace c = false := by
  refine ⟨by simp, fun c hc => ?_⟩
  rcases List.mem_append.1 hc with hc | hc
  · exact isSpace_of_isGraph (hr.graph c hc)
  · obtain rfl := List.mem_singleton.1 hc
    decide

include hr in
theorem headerWords_graph : ∀ w ∈ headerWords r, w ≠ [] ∧ ∀ c ∈ w, isSpace c = false := by
  intro w hw
  simp only [headerWords, List.mem_cons, List.not_mem_nil, or_false] at hw
  rcases hw with rfl | rfl | rfl | rfl
  · simp [isSpace]
  · simp [isSpace]
  · exact decimal_graph r.id
  · refine ⟨by simp, fun c hc => ?_⟩
    rcases List.mem_cons.1 hc with rfl | hc
    · decide
    · exact (name_graph hr).2 c hc

include hr in
theorem scan_header {n : ℕ} (hn : n ≤ 4) :
    (scan (valueFormat n) (printHeader r ++ ['\n'])).vals = (scan (valueFormat 0)
      ((((headerWords r).drop n).flatMap (· ++ [' ']) ++ "---\n".toList).dropWhile isSpace)).vals := by
  have htext : (printHeader r ++ ['\n']).dropWhile isSpace = printHeader r ++ ['\n'] := rfl
  have hlen : ((headerWords r).take n).length = n := by
    rw [List.length_take]
    exact Nat.min_eq_left hn
  have h := scan_words ((headerWords r).take n)
    (fun w hw => headerWords_graph hr w (List.mem_of_mem_take hw))
    (((headerWords r).drop n).flatMap (· ++ [' ']) ++ "---\n".toList)
  rw [hlen, ← List.append_assoc, ← List.flatMap_append, List.take_append_drop,
    ← printHeader_words, htext] at h
  exact h

include hr in
/-- No format for a value reads one from a header: behind two words stands the number of the ring,
behind three its name and behind four the dashes. -/
theorem fenceCount_header {fmt : String}
    (h : ∃ n, (n = 2 ∨ n = 3 ∨ n = 4) ∧ parseFormat fmt = valueFormat n) :
    fenceCount (printHeader r ++ ['\n']) fmt = none := by
  obtain ⟨n, hn, hfmt⟩ := h
  have hvals : (scan (valueFormat n) (printHeader r ++ ['\n'])).vals = [] := by
    rw [scan_header hr (by omega)]
    refine scan_value_none ?_
    rcases hn with rfl | rfl | rfl
    · obtain ⟨c, cs, hc⟩ := List.exists_cons_of_ne_nil (decimal_graph r.id).1
      have hdrop := dropWhile_blanks (s := []) (by simp) ((decimal_graph r.id).2 c (by simp [hc]))
      have htext : ((headerWords r).drop 2).flatMap (· ++ [' ']) ++ "---\n".toList
          = decimal r.id ++ ' ' :: ('(' :: (r.name ++ [')']) ++ ' ' :: "---\n".toList) := by
        simp only [headerWords, List.drop_succ_cons, List.drop_zero, List.flatMap_cons,
          List.flatMap_nil, List.append_assoc, List.cons_append, List.nil_append]
      have hnot := decimal_not_hex r.id ('(' :: (r.name ++ [')']) ++ ' ' :: "---\n".toList)
      rw [htext]
      rw [hc, List.cons_append] at hnot ⊢
      rw [← List.nil_append (c :: _), hdrop]
      exact hnot
    · simp [headerWords, isSpace]
    · simp [headerWords, isSpace]
  simp only [fenceCount, sscanf, hfmt, hvals]

include hr in
/-- A header may count as a line with "emitted" for its name's sake, but no field changes. -/
theorem fenceLine_header (idx : ℕ) (info : AmdGpuFenceInfo) :
    (fenceLine (printHeader r ++ ['\n']) idx info).2 = info := by
  have h2 : fenceCount (printHeader r ++ ['\n']) "%*s %*s 0x%08x" = none :=
    fenceCount_header hr ⟨2, by simp, by decide⟩
  have h3 : fenceCount (printHeader r ++ ['\n']) "%*s %*s %*s 0x%08x" = none :=
    fenceCount_header hr ⟨3, by simp, by decide⟩
  have h4 : fenceCount (printHeader r ++ ['\n']) "%*s %*s %*s %*s 0x%08x" = none :=
    fenceCount_header hr ⟨4, by simp, by decide⟩
  unfold fenceLine
  simp only [h2, h3, h4]
  split_ifs <;> rfl

include hr in
/-- The word of a header is the name with the closing bracket. -/
theorem sscanf_header : (sscanf (printHeader r ++ ['\n']) "--- ring %d (%s) ---").vals =
    [.num (.ofNat r.id), .str (r.name ++ [')'])] := by
  have hfmt : parseFormat "--- ring %d (%s) ---" =
      [.lit '-', .lit '-', .lit '-', .space, .lit 'r', .lit 'i', .lit 'n', .lit 'g', .space,
        .conv false none .dec, .space, .lit '(', .conv false none .word, .lit ')', .space,
        .lit '-', .lit '-', .lit '-'] := by decide
  have hid := read_int (s := []) (by simp) (k := .dec) (w := none) (b := ' ')
    (r := '(' :: (r.name ++ [')'] ++ ' ' :: "---\n".toList)) (by simp)
    (isDigitOf_toDigits (by decide) (by decide) r.id) Nat.toDigits_ne_nil (by simp) (by decide)
    (by simp)
  have hname := read_word (s := []) (by simp) (w := none) (b := ' ')
    (r := "---\n".toList) (name_graph hr).2 (name_graph hr).1 (by simp) isSpace_blank
  have hlt : r.id < 2 ^ 32 := lt_trans hr.id_lt (by omega)
  rw [show Conv.dec.base = 10 from rfl, numeral_toDigits (by omega) (by omega), store_of_lt hlt,
    List.nil_append] at hid
  rw [List.nil_append] at hname
  have hword := congrArg Scan.vals (scan_conv hname [.lit ')', .space, .lit '-', .lit '-', .lit '-'])
  rw [scan_lit_ne (by decide)] at hword
  have hscan := congrArg Scan.vals (scan_conv hid [.space, .lit '(', .conv false none .word,
    .lit ')', .space, .lit '-', .lit '-', .lit '-'])
  have hopen : (scan [.space, .lit '(', .conv false none .word, .lit ')', .space, .lit '-',
      .lit '-', .lit '-'] (' ' :: '(' :: (r.name ++ [')'] ++ ' ' :: "---\n".toList))).vals
        = [.str (r.name ++ [')'])] := hword
  rw [hopen, ← scan_dropWhile (by simp)] at hscan
  have htext : printHeader r ++ ['\n'] = '-' :: '-' :: '-' :: ' ' :: 'r' :: 'i' :: 'n' :: 'g' ::
      ' ' :: (decimal r.id ++ ' ' :: '(' :: (r.name ++ [')'] ++ ' ' :: "---\n".toList)) := by
    rw [printHeader_words]
    simp [headerWords]
  rw [sscanf, hfmt, htext]
  exact hscan

end Header

theorem sscanf_printed (g : Gaps) (l : FenceField × UInt32) :
    (sscanf (printFenceLine g l ++ ['\n']) "--- ring %d (%s) ---").vals = [] := by
  obtain ⟨f, v⟩ := l
  rw [printFenceLine_eq]
  cases f <;> rfl

/-! ## The file by lines -/

theorem textOf_cons (l : List Char) (ls : List (List Char)) :
    textOf (l :: ls) = l ++ '\n' :: textOf ls := by simp [textOf]

theorem fgets_textOf {l : List Char} (ls : List (List Char)) {e b : Bool} (hl : '\n' ∉ l)
    (hs : l.length < 1023) :
    fgets 1024 ⟨textOf (l :: ls), e, b⟩ = (some (l ++ ['\n']), ⟨textOf ls, e, b⟩) := by
  rw [textOf_cons, fgets_line hl (by omega)]

theorem length_le_textOf : ∀ ls : List (List Char), ls.length ≤ (textOf ls).length
  | [] => le_rfl
  | l :: ls => by
    have ih := length_le_textOf ls
    rw [textOf_cons, List.length_append, List.length_cons, List.length_cons]
    omega

theorem fgets_printed (g : Gaps) (l : FenceField × UInt32) (ls : List (List Char)) :
    fgets 1024 { rest := textOf (printFenceLine g l :: ls) }
      = (some (printFenceLine g l ++ ['\n']), { rest := textOf ls }) := by
  obtain ⟨f, v⟩ := l
  have hlabel : '\n' ∉ f.label.toList ∧ f.label.toList.length ≤ 29 := by cases f <;> decide
  have hhex : '\n' ∉ hexPad 8 v.toNat := fun h =>
    absurd (isDigitOf_hexPad 8 v.toNat _ h) (by decide)
  have hlen : (hexPad 8 v.toNat).length = 8 := length_hexPad (by omega) v.toNat_lt
  have hgap := g.fits f
  refine fgets_textOf ls ?_ ?_
  · simp [printFenceLine, hlabel.1, hhex]
  · simp only [printFenceLine, List.length_append, List.length_cons, List.length_replicate, hlen]
    omega

theorem fgets_header_line {r : FenceRing} (hr : r.Valid) (ls : List (List Char)) :
    fgets 1024 { rest := textOf (printHeader r :: ls) }
      = (some (printHeader r ++ ['\n']), { rest := textOf ls }) := by
  have hid : '\n' ∉ decimal r.id := fun h =>
    absurd (isDigitOf_toDigits (b := 10) (by omega) (by omega) r.id _ h) (by decide)
  have hname : '\n' ∉ r.name := fun h => absurd (hr.graph _ h) (by decide)
  have hlen : (decimal r.id).length ≤ 10 := (Nat.length_toDigits_le_iff (by omega) (by omega)).2
    (lt_trans hr.id_lt (by omega))
  have h1 : "--- ring ".toList.length = 9 := by decide
  have h2 : ") ---".toList.length = 5 := by decide
  have hname_le := hr.name_le
  refine fgets_textOf ls ?_ ?_
  · unfold printHeader
    simp [hid, hname]
  · unfold printHeader
    simp only [List.length_append, List.length_cons, h1, h2]
    omega

theorem dashes_header (r : FenceRing) :
    strncmpEq (printHeader r ++ ['\n']) "---".toList 3 = true := rfl

theorem dashes_printed (g : Gaps) (l : FenceField × UInt32) :
    strncmpEq (printFenceLine g l ++ ['\n']) "---".toList 3 = false := by
  obtain ⟨f, v⟩ := l
  rw [printFenceLine_eq]
  cases f <;> rfl

/-! ## A section -/

/-- The `do` loop over the lines of a section. -/
theorem fenceSection_lines (g : Gaps) (fuel : ℕ) (more : List (List Char)) :
    ∀ (ls : List (FenceField × UInt32)) (buff : List Char) (s : ℕ × AmdGpuFenceInfo),
      fenceSection (ls.length + fuel) { rest := textOf (ls.map (printFenceLine g) ++ more) }
          buff s.1 s.2 =
        fenceSection fuel { rest := textOf more }
          (ls.foldl (fun _ l => printFenceLine g l ++ ['\n']) buff)
          (ls.foldl storeLine s).1 (ls.foldl storeLine s).2
  | [], _, _ => by simp
  | l :: ls, buff, s => by
    rw [List.length_cons, Nat.add_right_comm, fenceSection.eq_2, List.map_cons, List.cons_append,
      fgets_printed]
    simp only [Option.getD_some, fenceLine_printed, dashes_printed, Bool.not_false, Bool.and_true,
      if_true, List.foldl_cons]
    exact fenceSection_lines g fuel more ls _ (storeLine s l)

def storeAll (info : AmdGpuFenceInfo) (ls : List (FenceField × UInt32)) : AmdGpuFenceInfo :=
  ls.foldl (fun info l => info.set l.1 l.2) info

theorem foldl_storeLine (r : FenceRing) (info : AmdGpuFenceInfo) :
    r.lines.foldl storeLine (0, info)
      = (1 + r.trail.elim 0 fun _ => 1, storeAll info r.lines) := by
  rcases r with ⟨id, name, signaled, emitted, _ | trail, _ | preempt⟩ <;> rfl

/-- At the end of the file the last line is read once more. A second "Last emitted" is where the
trailing fence's would stand. -/
def FenceRing.reread (r : FenceRing) : List (FenceField × UInt32) :=
  if r.trail = none ∧ r.preempt = none then [(.emittedTrial, r.emitted)] else []

theorem fenceSection_next (g : Gaps) (r : FenceRing) {next : FenceRing} (hnext : next.Valid)
    {fuel : ℕ} (hfuel : r.lines.length < fuel) (more : List (List Char)) (buff : List Char)
    (info : AmdGpuFenceInfo) :
    fenceSection fuel
        { rest := textOf (r.lines.map (printFenceLine g) ++ printHeader next :: more) } buff 0 info
      = some ({ rest := textOf more }, storeAll info r.lines) := by
  obtain ⟨k, rfl⟩ : ∃ k, fuel = r.lines.length + (k + 1) := ⟨fuel - r.lines.length - 1, by omega⟩
  rw [fenceSection_lines g (k + 1) _ r.lines buff (0, info), fenceSection.eq_2,
    fgets_header_line hnext, foldl_storeLine]
  simp only [Option.getD_some, fenceLine_header hnext, dashes_header, Bool.not_true,
    Bool.and_false, Bool.false_eq_true, if_false]

theorem fenceSection_last (g : Gaps) (r : FenceRing) {fuel : ℕ} (hfuel : r.lines.length < fuel)
    (buff : List Char) (info : AmdGpuFenceInfo) :
    fenceSection fuel { rest := textOf (r.lines.map (printFenceLine g)) } buff 0 info
      = some (⟨[], true, false⟩, storeAll info (r.lines ++ r.reread)) := by
  obtain ⟨k, rfl⟩ : ∃ k, fuel = r.lines.length + (k + 1) := ⟨fuel - r.lines.length - 1, by omega⟩
  have h := fenceSection_lines g (k + 1) [] r.lines buff (0, info)
  rw [List.append_nil] at h
  rw [h, fenceSection.eq_2, show textOf [] = [] from rfl, fgets_nil (by omega), foldl_storeLine]
  simp only [Option.getD_none, Bool.not_true, Bool.false_and, Bool.false_eq_true, if_false]
  rcases r with ⟨id, name, signaled, emitted, _ | trail, _ | preempt⟩ <;>
    simp only [FenceRing.lines, List.foldl_append, List.foldl_cons, List.foldl_nil, Option.elim,
      List.append_nil] <;>
    rw [fenceLine_printed g _ (_, _)] <;> rfl

/-! ## The file by sections -/

/-- The compare takes a name with its bracket that starts as the ring's does. -/
def accepts (shortname : List Char) (r : FenceRing) : Bool :=
  strncmpEq (r.name ++ [')']) shortname shortname.length

/-- The last header the scan stops at: it reads over the header behind a section it accepts. -/
def lastHeader (shortname : List Char) : List FenceRing → Option FenceRing
  | [] => none
  | [r] => some r
  | r :: next :: rs =>
    if accepts shortname r then (lastHeader shortname rs).or (some r)
    else lastHeader shortname (next :: rs)

theorem lastHeader_cons (shortname : List Char) : ∀ (rs : List FenceRing) (r : FenceRing),
    ∃ l, lastHeader shortname (r :: rs) = some l
  | [], r => ⟨r, rfl⟩
  | next :: rs, r => by
    unfold lastHeader
    split_ifs
    · rcases lastHeader shortname rs with _ | l
      · exact ⟨r, rfl⟩
      · exact ⟨l, rfl⟩
    · exact lastHeader_cons shortname rs next

/-- The lines of the sections the scan accepts. -/
def acceptedLines (shortname : List Char) : List FenceRing → List (FenceField × UInt32)
  | [] => []
  | [r] => if accepts shortname r then r.lines ++ r.reread else []
  | r :: next :: rs =>
    if accepts shortname r then r.lines ++ acceptedLines shortname rs
    else acceptedLines shortname (next :: rs)

theorem fenceScan_nil (shortname : List Char) (fuel : ℕ) (e : Bool) (info : AmdGpuFenceInfo) :
    fenceScan shortname (fuel + 1) ⟨[], e, false⟩ info = some info := by
  rw [fenceScan.eq_2, fgets_nil (by omega)]
  split_ifs <;> rfl

/-- Outside a section it accepts, the scan passes over the lines. -/
theorem fenceScan_lines (shortname : List Char) (g : Gaps) (fuel : ℕ) (more : List (List Char))
    (info : AmdGpuFenceInfo) : ∀ ls : List (FenceField × UInt32),
      fenceScan shortname (ls.length + fuel)
          { rest := textOf (ls.map (printFenceLine g) ++ more) } info
        = fenceScan shortname fuel { rest := textOf more } info
  | [] => by simp
  | l :: ls => by
    rw [List.length_cons, Nat.add_right_comm, fenceScan.eq_2, List.map_cons, List.cons_append,
      fgets_printed, if_neg (by simp)]
    simp only [sscanf_printed]
    exact fenceScan_lines shortname g fuel more info ls

theorem fenceScan_header (shortname : List Char) {r : FenceRing} (hr : r.Valid) (fuel : ℕ)
    (more : List (List Char)) (info : AmdGpuFenceInfo) :
    fenceScan shortname (fuel + 1) { rest := textOf (printHeader r :: more) } info =
      if accepts shortname r then
        (fenceSection fuel { rest := textOf more } (printHeader r ++ ['\n']) 0
          { info with ringid := .ofNat r.id }).bind fun p => fenceScan shortname fuel p.1 p.2
      else fenceScan shortname fuel { rest := textOf more } { info with ringid := .ofNat r.id } := by
  rw [fenceScan.eq_2, fgets_header_line hr, if_neg (by simp)]
  simp only [sscanf_header hr, accepts]
  rfl

theorem fenceLines_cons (g : Gaps) (r : FenceRing) (rs : List FenceRing) :
    fenceLines g (r :: rs) = printHeader r :: (r.lines.map (printFenceLine g) ++ fenceLines g rs) :=
  rfl

def FenceRing.numId (r : FenceRing) : UInt32 := .ofNat r.id

theorem storeAll_append (info : AmdGpuFenceInfo) (a b : List (FenceField × UInt32)) :
    storeAll info (a ++ b) = storeAll (storeAll info a) b := List.foldl_append

theorem set_ringid (info : AmdGpuFenceInfo) (f : FenceField) (v i : UInt32) :
    { info with ringid := i }.set f v = { info.set f v with ringid := i } := by
  cases f <;> rfl

theorem storeAll_ringid : ∀ (ls : List (FenceField × UInt32)) (info : AmdGpuFenceInfo) (i : UInt32),
    storeAll { info with ringid := i } ls = { storeAll info ls with ringid := i }
  | [], _, _ => rfl
  | l :: ls, info, i => by
    show storeAll ({ info with ringid := i }.set l.1 l.2) ls = _
    rw [set_ringid, storeAll_ringid ls]
    rfl

/-- The result of the scan, section by section. -/
def scanned (shortname : List Char) (rings : List FenceRing) (info : AmdGpuFenceInfo) :
    AmdGpuFenceInfo :=
  { storeAll info (acceptedLines shortname rings) with
    ringid := ((lastHeader shortname rings).map FenceRing.numId).getD info.ringid }

theorem fenceScan_rings (shortname : List Char) (g : Gaps) : ∀ (rings : List FenceRing),
    (∀ r ∈ rings, r.Valid) → ∀ {fuel : ℕ} (info : AmdGpuFenceInfo),
      (fenceLines g rings).length + 2 ≤ fuel →
        fenceScan shortname fuel { rest := textOf (fenceLines g rings) } info
          = some (scanned shortname rings info)
  | [], _, fuel, info, hfuel => by
    obtain ⟨k, rfl⟩ : ∃ k, fuel = k + 1 := ⟨fuel - 1, by omega⟩
    exact fenceScan_nil shortname k false info
  | [r], hv, fuel, info, hfuel => by
    obtain ⟨k, rfl⟩ : ∃ k, fuel = k + 1 := ⟨fuel - 1, by omega⟩
    simp only [fenceLines_cons, List.length_cons, List.length_append, List.length_map] at hfuel
    rw [fenceLines_cons, fenceScan_header shortname (hv r (by simp)), scanned, acceptedLines,
      lastHeader]
    by_cases ha : accepts shortname r = true
    · obtain ⟨j, hj⟩ : ∃ j, k = j + 1 := ⟨k - 1, by omega⟩
      rw [if_pos ha, if_pos ha, show fenceLines g [] = [] from rfl, List.append_nil,
        fenceSection_last g r (by omega), Option.bind_some, hj, fenceScan_nil, storeAll_ringid]
      rfl
    · obtain ⟨j, hj⟩ : ∃ j, k = r.lines.length + (j + 1) := ⟨k - r.lines.length - 1, by omega⟩
      rw [if_neg ha, if_neg ha, hj, fenceScan_lines]
      exact fenceScan_nil shortname j false _
  | r :: next :: rs, hv, fuel, info, hfuel => by
    obtain ⟨k, rfl⟩ : ∃ k, fuel = k + 1 := ⟨fuel - 1, by omega⟩
    simp only [fenceLines_cons, List.length_cons, List.length_append, List.length_map] at hfuel
    rw [fenceLines_cons, fenceScan_header shortname (hv r (by simp)), scanned, acceptedLines,
      lastHeader]
    by_cases ha : accepts shortname r = true
    · obtain ⟨j, rfl⟩ : ∃ j, k = next.lines.length + j := ⟨k - next.lines.length, by omega⟩
      rw [if_pos ha, if_pos ha, if_pos ha, fenceLines_cons,
        fenceSection_next g r (hv next (by simp)) (by omega), Option.bind_some, fenceScan_lines,
        fenceScan_rings shortname g rs (fun r' hr' => hv r' (by simp [hr'])) _ (by omega), scanned,
        storeAll_ringid, storeAll_append]
      rcases lastHeader shortname rs with _ | l <;> simp [storeAll_ringid, FenceRing.numId]
    · obtain ⟨j, rfl⟩ : ∃ j, k = r.lines.length + j := ⟨k - r.lines.length, by omega⟩
      rw [if_neg ha, if_neg ha, if_neg ha, fenceScan_lines,
        fenceScan_rings shortname g (next :: rs) (fun r' hr' => hv r' (by simp_all)) _
          (by simp only [fenceLines_cons, List.length_cons, List.length_append, List.length_map]
              omega), scanned, storeAll_ringid]
      obtain ⟨l, hl⟩ := lastHeader_cons shortname rs next
      rw [hl]
      rfl

/-! ## The fields -/

theorem get_set (info : AmdGpuFenceInfo) (f f' : FenceField) (v : UInt32) :
    (info.set f v).get f' = if f' = f then v else info.get f' := by
  cases f <;> cases f' <;> rfl

/-- The value of a field's last line. -/
def lastLine (f : FenceField) (ls : List (FenceField × UInt32)) : Option UInt32 :=
  ls.reverse.lookup f

theorem get_storeAll (f : FenceField) (info : AmdGpuFenceInfo) (ls : List (FenceField × UInt32)) :
    (storeAll info ls).get f = (lastLine f ls).getD (info.get f) := by
  induction ls using List.reverseRecOn with
  | nil => rfl
  | append_singleton ls l ih =>
    rw [storeAll_append]
    show ((storeAll info ls).set l.1 l.2).get f = _
    rw [get_set, ih, lastLine, lastLine, List.reverse_append, List.reverse_singleton,
      List.singleton_append, List.lookup_cons]
    by_cases h : f = l.1
    · simp [h]
    · rw [if_neg h, beq_eq_false_iff_ne.2 h]

/-- The call returned 0 with the ring's own values, 0 for those it has no line of. -/
def FenceRead (t : FenceRing) (r : Option (ℤ × AmdGpuFenceInfo)) : Prop :=
  ∃ info, r = some (0, info) ∧ info.ringid = .ofNat t.id ∧ ∀ f, info.get f = (t.get f).getD 0

theorem numId_inj {r t : FenceRing} (hr : r.Valid) (ht : t.Valid) :
    r.numId = .ofNat t.id ↔ r.id = t.id := by
  have hr := hr.id_lt
  have ht := ht.id_lt
  refine ⟨fun h => ?_, fun h => congrArg UInt32.ofNat h⟩
  have h := congrArg UInt32.toNat h
  rwa [FenceRing.numId, UInt32.toNat_ofNat', UInt32.toNat_ofNat', Nat.mod_eq_of_lt (by omega),
    Nat.mod_eq_of_lt (by omega)] at h

theorem lastHeader_mem (shortname : List Char) : ∀ (rings : List FenceRing) {l : FenceRing},
    lastHeader shortname rings = some l → l ∈ rings
  | [], l, h => by simp [lastHeader] at h
  | [r], l, h => by
    simp only [lastHeader, Option.some.injEq] at h
    simp [h]
  | r :: next :: rs, l, h => by
    unfold lastHeader at h
    split_ifs at h with ha
    · rcases Option.or_eq_some_iff.1 h with h | ⟨-, h⟩
      · simp [lastHeader_mem shortname rs h]
      · simp_all
    · exact List.mem_cons_of_mem _ (lastHeader_mem shortname (next :: rs) h)

/-- What it takes for the scan to end with the values of `t`. -/
structure OwnSection (t : FenceRing) (rings : List FenceRing) : Prop where
  header : (lastHeader t.name rings).map FenceRing.id = some t.id
  lines : ∀ f, (lastLine f (acceptedLines t.name rings)).getD 0 = (t.get f).getD 0

/-- The ring's own values come back exactly when the last header the scan stops at has the ring's
number, and of each field the last line in an accepted section has the ring's value. -/
theorem fence_info_read_iff (g : Gaps) {rings : List FenceRing} (hvalid : ∀ r ∈ rings, r.Valid)
    {t : FenceRing} (ht : t ∈ rings) (files : Files) (device : GpuDevice)
    (hfile : files (debugFile device "amdgpu_fence_info")
      = some { rest := textOf (fenceLines g rings) }) :
    FenceRead t (amdGpuQueryFenceInfo files ⟨device, t.name⟩) ↔ OwnSection t rings := by
  obtain ⟨r, rs, rfl⟩ := List.exists_cons_of_ne_nil (List.ne_nil_of_mem ht)
  obtain ⟨l, hl⟩ := lastHeader_cons t.name rs r
  have hscan := fenceScan_rings t.name g (r :: rs) hvalid {}
    (Nat.add_le_add_right (length_le_textOf _) 2)
  have hid := numId_inj (hvalid l (lastHeader_mem t.name _ hl)) (hvalid t ht)
  have hget : ∀ f, (scanned t.name (r :: rs) {}).get f
      = (lastLine f (acceptedLines t.name (r :: rs))).getD 0 := by
    intro f
    have h := get_storeAll f {} (acceptedLines t.name (r :: rs))
    cases f <;> exact h
  have hring : (scanned t.name (r :: rs) {}).ringid = l.numId := by
    rw [scanned, hl]
    rfl
  simp only [FenceRead, amdGpuQueryFenceInfo, hfile, hscan, Option.map_some, Option.some.injEq,
    Prod.mk.injEq, true_and, exists_eq_left', hget, hring, hid]
  constructor
  · rintro ⟨h1, h2⟩
    exact ⟨by rw [hl, Option.map_some, h1], h2⟩
  · rintro ⟨h1, h2⟩
    rw [hl, Option.map_some, Option.some.injEq] at h1
    exact ⟨h1, h2⟩

section Example

def oneBlank : Gaps where
  blanks _ := 1
  pos _ := Nat.one_pos
  fits _ := by omega

def gfxCard : GpuDevice := ⟨3, 0, 226, 0, .card⟩

def gfxRing : FenceRing := ⟨0, "gfx".toList, 5, 6, some (5, 6), some (1, 2, 3)⟩

def sdmaRing (n : ℕ) : FenceRing := ⟨n + 1, "sdma".toList ++ decimal n, 7, 7, none, none⟩

theorem example_valid : ∀ r ∈ [gfxRing, sdmaRing 0, sdmaRing 1], r.Valid := by
  intro r hr
  simp only [List.mem_cons, List.not_mem_nil, or_false] at hr
  rcases hr with rfl | rfl | rfl <;>
    refine ⟨?_, List.all_eq_true.1 (by decide), ?_, ?_⟩ <;> decide

theorem fence_info_read_gfx :
    FenceRead gfxRing (amdGpuQueryFenceInfo
        (fun _ => some { rest := textOf (fenceLines oneBlank [gfxRing, sdmaRing 0]) })
        ⟨gfxCard, gfxRing.name⟩) ↔ OwnSection gfxRing [gfxRing, sdmaRing 0] :=
  fence_info_read_iff oneBlank
    (fun r hr => example_valid r (by simp at hr ⊢; tauto)) (by simp) _ gfxCard rfl

set_option maxRecDepth 8000 in
/-- The header behind the ring's section is read over, and the next one leaves its number. -/
theorem fence_info_third_ring :
    (∀ r ∈ [gfxRing, sdmaRing 0, sdmaRing 1], r.Valid) ∧
      ([gfxRing, sdmaRing 0, sdmaRing 1].map FenceRing.name).Nodup ∧
      ¬ FenceRead gfxRing (amdGpuQueryFenceInfo
        (fun _ => some { rest := textOf (fenceLines oneBlank [gfxRing, sdmaRing 0, sdmaRing 1]) })
        ⟨gfxCard, gfxRing.name⟩) := by
  refine ⟨example_valid, by decide, ?_⟩
  have hrun : (amdGpuQueryFenceInfo
      (fun _ => some { rest := textOf (fenceLines oneBlank [gfxRing, sdmaRing 0, sdmaRing 1]) })
      ⟨gfxCard, gfxRing.name⟩).map (·.2.ringid) = some 2 := by decide
  rintro ⟨info, h, hid, -⟩
  rw [h, Option.map_some, hid] at hrun
  exact absurd hrun (by decide)

end Example

/-! ## A ring with a name of its own -/

section Alone

variable {t : FenceRing}

theorem lastLine_lines (f : FenceField) : lastLine f t.lines = t.get f := by
  rcases t with ⟨id, name, signaled, emitted, _ | trail, _ | preempt⟩ <;> cases f <;> rfl

theorem lastLine_reread (f : FenceField) : lastLine f (t.lines ++ t.reread) =
    if f = .emittedTrial ∧ t.trail = none ∧ t.preempt = none then some t.emitted else t.get f := by
  rcases t with ⟨id, name, signaled, emitted, _ | trail, _ | preempt⟩ <;> cases f <;> rfl

theorem scan_skipped (rs : List FenceRing) : ∀ {pre : List FenceRing},
    (∀ r ∈ pre, accepts t.name r = false) →
      lastHeader t.name (pre ++ t :: rs) = lastHeader t.name (t :: rs)
        ∧ acceptedLines t.name (pre ++ t :: rs) = acceptedLines t.name (t :: rs)
  | [], _ => ⟨rfl, rfl⟩
  | r :: pre, h => by
    obtain ⟨h1, h2⟩ := scan_skipped rs fun r' hr' => h r' (List.mem_cons_of_mem r hr')
    have hr : ¬ accepts t.name r = true := by simp [h r (by simp)]
    obtain ⟨next, more, hmore⟩ := List.exists_cons_of_ne_nil (l := pre ++ t :: rs) (by simp)
    rw [hmore] at h1 h2
    rw [List.cons_append, hmore, lastHeader, acceptedLines, if_neg hr, if_neg hr]
    exact ⟨h1, h2⟩

theorem accepts_self (t : FenceRing) : accepts t.name t = true :=
  strncmpEq_iff.2 (List.prefix_append _ _)

/-- When no other name begins as the ring's own, the ring is read right in the last section but
one, and in the last unless its two lines leave the last "Last emitted" to be read twice. -/
theorem ownSection_alone {pre post : List FenceRing}
    (hpre : ∀ r ∈ pre, accepts t.name r = false) (hpost : ∀ r ∈ post, accepts t.name r = false)
    (hid : ∀ r ∈ post, r.id ≠ t.id) :
    OwnSection t (pre ++ t :: post) ↔ post.length ≤ 1 ∧
      (post = [] → t.trail = none → t.preempt = none → t.emitted = 0) := by
  obtain ⟨h1, h2⟩ := scan_skipped post hpre
  rcases post with _ | ⟨next, _ | ⟨r, rs⟩⟩
  · rw [lastHeader] at h1
    rw [acceptedLines, if_pos (accepts_self t)] at h2
    constructor
    · intro h
      refine ⟨by simp, fun _ htrail hpreempt => ?_⟩
      have hlines := h.lines .emittedTrial
      rw [h2, lastLine_reread, if_pos ⟨rfl, htrail, hpreempt⟩] at hlines
      simpa [FenceRing.get, htrail] using hlines
    · rintro ⟨-, h⟩
      refine ⟨by rw [h1, Option.map_some], fun f => ?_⟩
      rw [h2, lastLine_reread]
      split_ifs with hf
      · obtain ⟨rfl, htrail, hpreempt⟩ := hf
        simp [FenceRing.get, htrail, h rfl htrail hpreempt]
      · rfl
  · rw [lastHeader, if_pos (accepts_self t)] at h1
    rw [acceptedLines, if_pos (accepts_self t)] at h2
    refine iff_of_true ⟨by rw [h1]; rfl, fun f => ?_⟩ ⟨by simp, by simp⟩
    rw [h2, acceptedLines, List.append_nil, lastLine_lines]
  · obtain ⟨l, hl⟩ := lastHeader_cons t.name rs r
    rw [lastHeader, if_pos (accepts_self t), hl] at h1
    refine iff_of_false (fun h => ?_) (by simp)
    have hh := h.header
    rw [h1] at hh
    have hmem := lastHeader_mem t.name (r :: rs) hl
    exact hid l (List.mem_cons_of_mem _ hmem) (by simpa using hh)

end Alone

end Amdtop
