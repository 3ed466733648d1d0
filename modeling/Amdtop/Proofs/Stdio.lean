import Mathlib.Tactic.Linarith
import Mathlib.Tactic.Ring
import Mathlib.Data.List.DropRight
import Mathlib.Data.List.Forall2
import Mathlib.Data.List.Infix
import Amdtop.Stdio

/-!
# Rules for streams and formatted input

A conversion that begins at a text it can read whole reads just that text (`read_word`,
`read_int`), one whose width is less than the digits reads the first of them (`read_int_cut`), and
a printed number read back is the number (`numeral_toDigits`). `fgets` reads a line whole exactly
when it fits (`fgets_line`).
-/

namespace Stdio

/-! ## Characters -/

/-- A list whose elements can be tested one by one. -/
theorem forall_mem_of_all {α : Type} {p : α → Prop} [DecidablePred p] {l : List α}
    (h : l.all (fun a => decide (p a)) = true) : ∀ a ∈ l, p a :=
  fun a ha => of_decide_eq_true (List.all_eq_true.1 h a ha)

theorem isSpace_newline : isSpace '\n' = true := by decide

theorem isSpace_blank : isSpace ' ' = true := by decide

theorem isSpace_of_isGraph {c : Char} (h : isGraph c = true) : isSpace c = false := by
  simp only [isGraph, Bool.and_eq_true, Bool.not_eq_true'] at h
  exact h.1

theorem not_isSpace_of_digit {base : ℕ} (hb : base ≤ 16) {c : Char} (h : isDigitOf base c = true) :
    isSpace c = false := by
  by_contra hc
  simp only [Bool.not_eq_false, isSpace, Bool.or_eq_true, decide_eq_true_eq] at hc
  have h16 : ∀ d : Char, digitVal d = 16 → isDigitOf base d = false := fun d hd => by
    simp only [isDigitOf, hd, decide_eq_false_iff_not]; omega
  have : isDigitOf base c = false := by
    rcases hc with ((((rfl | rfl) | rfl) | rfl) | rfl) | rfl <;> exact h16 _ (by decide)
  rw [this] at h
  cases h

theorem ne_sign_of_digit {base : ℕ} (hb : base ≤ 16) {c : Char} (h : isDigitOf base c = true) :
    c ≠ '-' ∧ c ≠ '+' := by
  have h16 : ∀ d : Char, digitVal d = 16 → isDigitOf base d = false := fun d hd => by
    simp only [isDigitOf, hd, decide_eq_false_iff_not]; omega
  constructor <;> rintro rfl <;> rw [h16 _ (by decide)] at h <;> cases h

/-! ## Substrings -/

theorem strncmpEq_iff {a b : List Char} :
    strncmpEq a b b.length = true ↔ b <+: a := by
  simp only [strncmpEq, decide_eq_true_eq, List.take_length]
  rw [List.prefix_iff_eq_take]
  exact eq_comm

theorem strstr_isSome_iff (needle : List Char) :
    ∀ hay : List Char, (strstr hay needle).isSome = true ↔ needle <:+: hay
  | [] => by
    unfold strstr
    split_ifs with h <;> simp [h]
  | c :: cs => by
    unfold strstr
    rw [List.infix_cons_iff, ← strstr_isSome_iff needle cs, ← List.isPrefixOf_iff_prefix]
    split_ifs with h <;> simp [h]

/-- A needle without the separator lies on one side of it. -/
theorem infix_append_sep {needle a b : List Char} {sep : Char} (hsep : sep ∉ needle) :
    needle <:+: a ++ sep :: b ↔ needle <:+: a ∨ needle <:+: b := by
  constructor
  · rintro ⟨s, t, h⟩
    rw [List.append_assoc] at h
    rcases List.append_eq_append_iff.1 h with ⟨u, rfl, hu⟩ | ⟨u, hs, hu⟩
    · rcases List.append_eq_append_iff.1 hu with ⟨v, rfl, -⟩ | ⟨v, rfl, hv⟩
      · exact Or.inl ⟨s, v, by simp⟩
      · rcases v with _ | ⟨x, v⟩
        · exact Or.inl ⟨s, [], by simp⟩
        · simp only [List.cons_append, List.cons.injEq] at hv
          exact absurd (by simp [← hv.1]) hsep
    · rcases u with _ | ⟨x, u⟩
      · rcases needle with _ | ⟨y, needle⟩
        · exact Or.inl (List.nil_infix)
        · simp only [List.nil_append, List.cons_append, List.cons.injEq] at hu
          exact absurd (by simp [hu.1]) hsep
      · simp only [List.cons_append, List.cons.injEq] at hu
        exact Or.inr ⟨u, t, by rw [hu.2]; simp⟩
  · rintro (h | h)
    · exact h.trans List.infix_append_left
    · exact h.trans ⟨a ++ [sep], [], by simp⟩

theorem not_infix_of_mem {needle hay : List Char} {c : Char} (hc : c ∈ needle) (hn : c ∉ hay) :
    ¬ needle <:+: hay := fun h => hn (h.subset hc)

theorem prefix_stop {item l t : List Char} {stop : Char} (h : stop ∉ item) :
    item <+: l ++ stop :: t ↔ item <+: l := by
  refine ⟨fun hpre => ?_, fun hpre => hpre.trans (List.prefix_append _ _)⟩
  by_contra hnot
  have hlong : l.length < item.length := by
    by_contra hle
    exact hnot (List.prefix_of_prefix_length_le hpre (List.prefix_append _ _) (not_lt.1 hle))
  have hline : l ++ [stop] <+: l ++ stop :: t := ⟨t, by simp⟩
  have hsub := List.prefix_of_prefix_length_le hline hpre (by simpa using Nat.succ_le_of_lt hlong)
  exact h (hsub.subset (by simp))

/-! ## Lines -/

theorem takeLine_fits : ∀ {n : ℕ} {l r : List Char}, '\n' ∉ l → l.length < n →
    takeLine n (l ++ '\n' :: r) = (l ++ ['\n'], r, false)
  | 0, _, _, _, h => by simp at h
  | n + 1, [], r, _, _ => by simp [takeLine]
  | n + 1, c :: l, r, hl, h => by
    have hc : c ≠ '\n' := fun he => hl (by simp [he])
    have ih := takeLine_fits (n := n) (r := r) (fun hm => hl (List.mem_cons_of_mem _ hm))
      (by simpa using h)
    simp only [List.cons_append, takeLine, if_neg hc, ih]

theorem takeLine_long : ∀ {n : ℕ} {l r : List Char}, '\n' ∉ l → n ≤ l.length →
    takeLine n (l ++ '\n' :: r) = (l.take n, l.drop n ++ '\n' :: r, false)
  | 0, l, r, _, _ => by simp [takeLine]
  | n + 1, [], r, _, h => by simp at h
  | n + 1, c :: l, r, hl, h => by
    have hc : c ≠ '\n' := fun he => hl (by simp [he])
    have ih := takeLine_long (n := n) (r := r) (fun hm => hl (List.mem_cons_of_mem _ hm))
      (by simpa using h)
    simp only [List.cons_append, takeLine, if_neg hc, ih, List.take_succ_cons, List.drop_succ_cons]

/-- A line and what follows it. -/
theorem length_takeLine : ∀ (n : ℕ) (cs : List Char),
    (takeLine n cs).1.length + (takeLine n cs).2.1.length = cs.length
  | 0, cs => Nat.zero_add _
  | n + 1, [] => rfl
  | n + 1, c :: cs => by
    have ih := length_takeLine n cs
    unfold takeLine
    split_ifs
    · exact Nat.add_comm 1 _
    · simp only [List.length_cons]
      omega

theorem length_rest_of_fgets {size : ℕ} {fp fp' : File} {line : List Char}
    (h : fgets size fp = (some line, fp')) : fp'.rest.length < fp.rest.length := by
  have hlen := length_takeLine (size - 1) fp.rest
  unfold fgets at h
  dsimp only at h
  split_ifs at h with hline
  · cases h
  obtain ⟨hsome, rfl⟩ := Prod.mk.inj h
  have hpos : 0 < (takeLine (size - 1) fp.rest).1.length := List.length_pos_of_ne_nil fun hnil =>
    hline (by rw [hnil]; rfl)
  change (takeLine (size - 1) fp.rest).2.1.length < fp.rest.length
  rw [← hlen]
  exact Nat.lt_add_of_pos_left hpos

theorem takeLine_stopped : ∀ {n : ℕ} {cs : List Char}, (takeLine n cs).2.2 = true →
    (takeLine n cs).2.1 = []
  | 0, _, h => nomatch h
  | _ + 1, [], _ => rfl
  | n + 1, c :: cs, h => by
    unfold takeLine at h ⊢
    split_ifs at h ⊢ with hc
    exact takeLine_stopped h

theorem takeLine_nil {n : ℕ} {cs : List Char} (h : (takeLine (n + 1) cs).1 = []) : cs = [] := by
  cases cs with
  | nil => rfl
  | cons c cs =>
    unfold takeLine at h
    split_ifs at h

/-- Nothing is left behind the indicator. -/
def File.Ended (fp : File) : Prop := fp.eof = true → fp.rest = []

/-- One call of `fgets`: the indicator is set behind the text only, unless the stream is bad. -/
theorem fgets_cases {size : ℕ} {fp fp' : File} {line : Option (List Char)}
    (h : fgets size fp = (line, fp')) :
    fp'.bad = fp.bad ∧ (fp.Ended → fp'.Ended) ∧ (fp.bad = true → fp'.eof = fp.eof) := by
  obtain rfl : (fgets size fp).2 = fp' := congrArg Prod.snd h
  refine ⟨rfl, fun hended heof => ?_, fun hbad => ?_⟩
  · obtain heof | hstopped := Bool.or_eq_true_iff.1 heof
    · have hlen := length_takeLine (size - 1) fp.rest
      rw [hended heof, List.length_nil, Nat.add_eq_zero_iff] at hlen
      change (takeLine (size - 1) fp.rest).2.1 = []
      rw [hended heof]
      exact List.eq_nil_of_length_eq_zero hlen.2
    · exact takeLine_stopped (Bool.and_eq_true_iff.1 hstopped).1
  · change (fp.eof || _ && !fp.bad) = fp.eof
    rw [hbad, Bool.not_true, Bool.and_false, Bool.or_false]

theorem fgets_fails {size : ℕ} (hs : 2 ≤ size) {fp fp' : File} (h : fgets size fp = (none, fp')) :
    fp'.rest = [] ∧ (fp.bad = false → fp'.eof = true ∧ fp.rest = []) := by
  obtain ⟨n, rfl⟩ : ∃ n, size = n + 2 := ⟨size - 2, by omega⟩
  unfold fgets at h
  dsimp only at h
  split_ifs at h with hnone
  · obtain ⟨-, rfl⟩ := Prod.mk.inj h
    obtain hnil | hstopped := Bool.or_eq_true_iff.1 hnone
    · have hrest := takeLine_nil (of_decide_eq_true hnil)
      rw [hrest]
      exact ⟨rfl, fun hbad => ⟨by rw [hbad]; exact Bool.or_true _, rfl⟩⟩
    · obtain ⟨hstopped, hbad⟩ := Bool.and_eq_true_iff.1 hstopped
      refine ⟨takeLine_stopped hstopped, fun hgood => ?_⟩
      rw [hbad] at hgood
      cases hgood
  · cases h

theorem fgetsPieces_fuel {size : ℕ} : ∀ {m n : ℕ} {fp : File}, fp.rest.length < m →
    fp.rest.length < n → fgetsPieces size m fp = fgetsPieces size n fp
  | m + 1, n + 1, fp, hm, hn => by
    unfold fgetsPieces
    split
    · rfl
    · next piece fp' hfgets =>
      have hless := length_rest_of_fgets hfgets
      rw [fgetsPieces_fuel (m := m) (n := n) (by omega) (by omega)]

theorem pieces_none {size : ℕ} {fp fp' : File} (h : fgets size fp = (none, fp')) :
    fp.pieces size = [] := by
  rw [File.pieces, fgetsPieces, h]

theorem pieces_some {size : ℕ} {fp fp' : File} {piece : List Char}
    (h : fgets size fp = (some piece, fp')) : fp.pieces size = piece :: fp'.pieces size := by
  have hless := length_rest_of_fgets h
  rw [File.pieces, fgetsPieces, h]
  exact congrArg (piece :: ·) (fgetsPieces_fuel hless (Nat.lt_succ_self _))

theorem pieces_nil {size : ℕ} {fp : File} (h : fp.rest = []) : fp.pieces size = [] := by
  obtain ⟨line, fp', hfgets⟩ : ∃ line fp', fgets size fp = (line, fp') := ⟨_, _, rfl⟩
  cases line with
  | none => exact pieces_none hfgets
  | some line =>
    have hless := length_rest_of_fgets hfgets
    rw [h] at hless
    exact absurd hless (Nat.not_lt_zero _)

/-- The lines of a text, the last of which has no newline. -/
def joinLines (lines : List (List Char)) (last : List Char) : List Char :=
  lines.flatMap (· ++ ['\n']) ++ last

theorem joinLines_nil (last : List Char) : joinLines [] last = last := rfl

theorem joinLines_cons (l : List Char) (ls : List (List Char)) (r : List Char) :
    joinLines (l :: ls) r = l ++ '\n' :: joinLines ls r := by
  simp [joinLines]

theorem joinLines_append (ls : List (List Char)) (r : List Char) :
    joinLines ls r = joinLines ls [] ++ r := by
  simp [joinLines]

theorem joinLines_append_lines (ls ms : List (List Char)) (r : List Char) :
    joinLines (ls ++ ms) r = joinLines ls (joinLines ms r) := by
  simp [joinLines]

theorem getlines_line : ∀ {l : List Char}, '\n' ∉ l → ∀ r, getlines (l ++ '\n' :: r)
    = (l ++ ['\n']) :: getlines r
  | [], _, r => by simp [getlines]
  | c :: l, hl, r => by
    have hc : c ≠ '\n' := fun he => hl (by simp [he])
    have ih := getlines_line (fun hm => hl (List.mem_cons_of_mem _ hm)) r
    simp only [List.cons_append, getlines, if_neg hc, ih]

theorem getlines_last : ∀ {l : List Char}, '\n' ∉ l → l ≠ [] → getlines l = [l]
  | [], _, h => absurd rfl h
  | [c], hl, _ => by
    have hc : c ≠ '\n' := fun he => hl (by simp [he])
    simp [getlines, hc]
  | c :: d :: l, hl, _ => by
    have hc : c ≠ '\n' := fun he => hl (by simp [he])
    have ih := getlines_last (l := d :: l) (fun hm => hl (List.mem_cons_of_mem _ hm)) (by simp)
    rw [getlines, if_neg hc, ih]

/-- A search that does not mind the newline finds the line it would find without one. -/
theorem find_getlines {p : List Char → Bool} (hp : ∀ l, p (l ++ ['\n']) = p l)
    (hnil : p [] = false) : ∀ (lines : List (List Char)) {last : List Char},
    (∀ l ∈ lines, '\n' ∉ l) → '\n' ∉ last →
    Option.Rel (fun l line => ∃ tail, line = l ++ tail) ((lines ++ [last]).find? p)
      ((getlines (joinLines lines last)).find? p)
  | [], last, _, hlast => by
    by_cases hempty : last = []
    · subst hempty
      simp [joinLines, getlines, hnil]
    · rw [joinLines_nil, getlines_last hlast hempty, List.nil_append, List.find?_singleton]
      split_ifs
      · exact .some ⟨[], (List.append_nil last).symm⟩
      · exact .none
  | l :: lines, last, hlines, hlast => by
    have ih := find_getlines hp hnil lines (fun l hl => hlines l (List.mem_cons_of_mem _ hl)) hlast
    have hline : '\n' ∉ l := hlines l List.mem_cons_self
    rw [joinLines_cons, getlines_line hline, List.cons_append, List.find?_cons, List.find?_cons, hp]
    split
    · exact .some ⟨['\n'], rfl⟩
    · exact ih

theorem fgets_line {size : ℕ} {l r : List Char} {e b : Bool} (hl : '\n' ∉ l)
    (hs : l.length + 1 < size) :
    fgets size ⟨l ++ '\n' :: r, e, b⟩ = (some (l ++ ['\n']), ⟨r, e, b⟩) := by
  simp [fgets, takeLine_fits hl (show l.length < size - 1 by omega)]

theorem fgets_nil {size : ℕ} (hs : 2 ≤ size) (e : Bool) :
    fgets size ⟨[], e, false⟩ = (none, ⟨[], true, false⟩) := by
  obtain ⟨n, rfl⟩ : ∃ n, size = n + 2 := ⟨size - 2, by omega⟩
  simp [fgets, takeLine]

/-! ## Spans -/

theorem spanUpTo_append {p : Char → Bool} : ∀ {n : ℕ} {a b : List Char}, (∀ c ∈ a, p c = true) →
    a.length ≤ n → (a.length = n ∨ ∀ c ∈ b.head?, p c = false) → spanUpTo p n (a ++ b) = (a, b)
  | 0, [], b, _, _, _ => by simp [spanUpTo]
  | n + 1, [], [], _, _, _ => by simp [spanUpTo]
  | n + 1, [], c :: b, _, _, h => by
    have hc : p c = false := by
      rcases h with h | h
      · simp at h
      · exact h c (by simp)
    simp [spanUpTo, hc]
  | 0, _ :: _, _, _, h, _ => by simp at h
  | n + 1, c :: a, b, hp, hn, h => by
    have ih := spanUpTo_append (p := p) (n := n) (a := a) (b := b)
      (fun c hc => hp c (List.mem_cons_of_mem _ hc)) (by simpa using hn) (by simpa using h)
    simp [spanUpTo, hp c (by simp), ih]

theorem spanUpTo_cut {p : Char → Bool} {n : ℕ} {a b : List Char} (hp : ∀ c ∈ a, p c = true)
    (hn : n ≤ a.length) : spanUpTo p n (a ++ b) = (a.take n, a.drop n ++ b) := by
  have h := spanUpTo_append (p := p) (n := n) (a := a.take n) (b := a.drop n ++ b)
    (fun c hc => hp c (List.mem_of_mem_take hc)) (by simp) (Or.inl (by simp [hn]))
  rwa [← List.append_assoc, List.take_append_drop] at h

theorem dropWhile_blanks {s : List Char} (hs : ∀ c ∈ s, isSpace c = true) {c : Char}
    (hc : isSpace c = false) (cs : List Char) :
    (s ++ c :: cs).dropWhile isSpace = c :: cs := by
  rw [List.dropWhile_append, List.dropWhile_eq_nil_iff.2 (by simpa using hs)]
  simp [hc]

theorem findIdx_stop {α : Type*} {p : α → Bool} {x : α} (hx : p x = true) : ∀ {a : List α}
    (b : List α), (∀ c ∈ a, p c = false) → (a ++ x :: b).findIdx? p = some a.length
  | [], b, _ => by simp [List.findIdx?_cons, hx]
  | c :: a, b, h => by
    rw [List.forall_mem_cons] at h
    rw [List.cons_append, List.findIdx?_cons, h.1, findIdx_stop hx b h.2]
    rfl

/-- A text without a null is a whole string. -/
theorem takeWhile_plain {cs : List Char} (h : '\x00' ∉ cs) : cs.takeWhile (· ≠ '\x00') = cs :=
  List.takeWhile_eq_self_iff.2 fun _ hc => decide_eq_true fun he => h (he ▸ hc)

/-- A span ends at the first character that does not belong to it. -/
theorem span_stop {α : Type*} {p : α → Bool} {x : α} (hx : p x = false) : ∀ a b : List α,
    (a ++ x :: b).takeWhile p = a.takeWhile p ∧ (a ++ x :: b).dropWhile p = a.dropWhile p ++ x :: b
  | [], b => by simp [hx]
  | c :: a, b => by
    have ih := span_stop hx a b
    rcases hc : p c
    · simp [hc]
    · simpa [hc] using ih

theorem dropWhile_digits {s ds : List Char} (hs : ∀ c ∈ s, isSpace c = true) (hne : ds ≠ [])
    (hd : ∀ c ∈ ds, isDigitOf 16 c = true) (r : List Char) :
    (s ++ (ds ++ r)).dropWhile isSpace = ds ++ r := by
  obtain ⟨c, cs, rfl⟩ := List.exists_cons_of_ne_nil hne
  exact dropWhile_blanks hs (not_isSpace_of_digit (by decide) (hd c List.mem_cons_self)) _

/-! ## Printed numbers -/

theorem digitVal_digitChar : ∀ n < 16, digitVal n.digitChar = n := by decide

theorem numeral_append (base : ℕ) (a b : List Char) :
    numeral base (a ++ b) = b.foldl (fun v c => base * v + digitVal c) (numeral base a) := by
  simp [numeral, List.foldl_append]

theorem numeral_append_pow (b : ℕ) (u : List Char) : ∀ v : List Char,
    numeral b (u ++ v) = numeral b u * b ^ v.length + numeral b v := by
  intro v
  induction v using List.reverseRecOn with
  | nil => simp [numeral]
  | append_singleton v c ih =>
    rw [← List.append_assoc, numeral_append, numeral_append b v, ih, List.length_append,
      List.length_singleton, pow_succ]
    simp only [List.foldl_cons, List.foldl_nil]
    ring

theorem numeral_toDigits {base : ℕ} (h1 : 1 < base) (h16 : base ≤ 16) (n : ℕ) :
    numeral base (Nat.toDigits base n) = n := by
  induction n using Nat.strongRecOn with
  | _ n ih =>
    rw [Nat.toDigits_eq_if h1]
    split_ifs with hn
    · simp [numeral, digitVal_digitChar n (by omega)]
    · have hmod : n % base < 16 := lt_of_lt_of_le (Nat.mod_lt _ (by omega)) h16
      rw [numeral_append, ih (n / base) (Nat.div_lt_self (by omega) h1)]
      simp only [List.foldl_cons, List.foldl_nil, digitVal_digitChar _ hmod]
      exact Nat.div_add_mod n base

theorem mem_toDigits {b : ℕ} (h1 : 1 < b) (n : ℕ) {c : Char} (hc : c ∈ Nat.toDigits b n) :
    ∃ d < b, c = d.digitChar := by
  induction n using Nat.strongRecOn with
  | _ n ih =>
    rw [Nat.toDigits_eq_if h1] at hc
    split_ifs at hc with hn
    · exact ⟨n, hn, List.mem_singleton.1 hc⟩
    · rcases List.mem_append.1 hc with hc | hc
      · exact ih _ (Nat.div_lt_self (by omega) h1) hc
      · exact ⟨n % b, Nat.mod_lt _ (by omega), List.mem_singleton.1 hc⟩

theorem isDigitOf_toDigits {b : ℕ} (h1 : 1 < b) (h16 : b ≤ 16) (n : ℕ) :
    ∀ c ∈ Nat.toDigits b n, isDigitOf b c = true := by
  intro c hc
  obtain ⟨d, hd, rfl⟩ := mem_toDigits h1 n hc
  exact decide_eq_true (by rw [digitVal_digitChar d (by omega)]; exact hd)

theorem numeral_replicate_zero (base n : ℕ) (ds : List Char) :
    numeral base (List.replicate n '0' ++ ds) = numeral base ds := by
  induction n with
  | zero => simp
  | succ n ih =>
    rw [List.replicate_succ, List.cons_append]
    have h0 : digitVal '0' = 0 := by decide
    simpa [numeral, h0] using ih

theorem numeral_hexPad (n v : ℕ) : numeral 16 (hexPad n v) = v := by
  rw [hexPad, List.leftpad, numeral_replicate_zero, numeral_toDigits (by omega) (by omega)]

theorem isDigitOf_hexPad (n v : ℕ) : ∀ c ∈ hexPad n v, isDigitOf 16 c = true := by
  intro c hc
  rw [hexPad, List.leftpad] at hc
  rcases List.mem_append.1 hc with hc | hc
  · obtain rfl := List.eq_of_mem_replicate hc
    decide
  · exact isDigitOf_toDigits (by omega) (by omega) v c hc

theorem length_hexPad {n v : ℕ} (hn : 0 < n) (hv : v < 16 ^ n) : (hexPad n v).length = n := by
  have := (Nat.length_toDigits_le_iff (n := v) (b := 16) (by omega) hn).2 hv
  rw [hexPad, List.length_leftpad]
  omega

theorem numeral_map {f : Char → Char} (base : ℕ) : ∀ {ds : List Char},
    (∀ c ∈ ds, digitVal (f c) = digitVal c) → numeral base (ds.map f) = numeral base ds := by
  intro ds h
  unfold numeral
  rw [List.foldl_map]
  exact List.foldl_ext _ _ _ fun v c hc => by rw [h c hc]

theorem mem_hexPad {n v : ℕ} {c : Char} (h : c ∈ hexPad n v) : ∃ d < 16, c = d.digitChar := by
  rw [hexPad, List.leftpad] at h
  rcases List.mem_append.1 h with h | h
  · exact ⟨0, by omega, List.eq_of_mem_replicate h⟩
  · exact mem_toDigits (by omega) v h

theorem digitVal_toUpper : ∀ d < 16, digitVal d.digitChar.toUpper = d := by decide

theorem numeral_hexPadUpper (n v : ℕ) : numeral 16 (hexPadUpper n v) = v := by
  rw [hexPadUpper, numeral_map, numeral_hexPad]
  intro c hc
  obtain ⟨d, hd, rfl⟩ := mem_hexPad hc
  rw [digitVal_toUpper d hd, digitVal_digitChar d hd]

theorem isDigitOf_hexPadUpper (n v : ℕ) : ∀ c ∈ hexPadUpper n v, isDigitOf 16 c = true := by
  intro c hc
  obtain ⟨b, hb, rfl⟩ := List.mem_map.1 hc
  obtain ⟨d, hd, rfl⟩ := mem_hexPad hb
  exact decide_eq_true (by rw [digitVal_toUpper d hd]; exact hd)

theorem length_hexPadUpper {n v : ℕ} (hn : 0 < n) (hv : v < 16 ^ n) :
    (hexPadUpper n v).length = n := by
  rw [hexPadUpper, List.length_map, length_hexPad hn hv]

theorem numeral_lt {b : ℕ} (ds : List Char) (hd : ∀ c ∈ ds, isDigitOf b c = true) :
    numeral b ds < b ^ ds.length := by
  induction ds using List.reverseRecOn with
  | nil => simp [numeral]
  | append_singleton ds c ih =>
    have hc : digitVal c < b := by simpa [isDigitOf] using hd c (by simp)
    have := ih fun c hc => hd c (by simp [hc])
    rw [numeral_append, List.length_append, List.length_singleton, pow_succ]
    simp only [List.foldl_cons, List.foldl_nil]
    nlinarith

theorem store_of_lt {k : Conv} {n : ℕ} (h : n < 2 ^ 32) : k.store false n = UInt32.ofNat n := by
  have h63 : ¬ 2 ^ 64 ≤ n := by omega
  have hmin : min n (2 ^ 63 - 1) = n := by omega
  unfold Conv.store
  cases k <;> simp only [Bool.false_eq_true, if_false, if_neg h63, hmin]

/-! ## Conversions -/

section Read

variable {s : List Char} (hs : ∀ c ∈ s, isSpace c = true)

include hs in
theorem read_word {w : Option ℕ} {word r : List Char} {b : Char}
    (hw : ∀ c ∈ word, isSpace c = false) (hne : word ≠ [])
    (hlen : ∀ n ∈ w, word.length ≤ n) (hb : isSpace b = true) :
    Conv.word.read w (s ++ (word ++ b :: r)) = .ok (.str word) (b :: r) false := by
  obtain ⟨c, cs, rfl⟩ := List.exists_cons_of_ne_nil hne
  have hsan : spanUpTo (fun c => !isSpace c) (w.getD ((c :: cs) ++ b :: r).length.succ)
      ((c :: cs) ++ b :: r) = (c :: cs, b :: r) := by
    refine spanUpTo_append (by simpa using hw) ?_ (Or.inr (by simp [hb]))
    rcases w with _ | n
    · simp only [Option.getD_none, List.length_append, List.length_cons]; omega
    · simpa using hlen n rfl
  simp only [List.cons_append] at hsan ⊢
  simp only [Conv.read, dropWhile_blanks hs (hw c (by simp)), readWord, hsan]
  simp

/-- What is left to read of an integer that has no sign and no prefix. -/
theorem readInt_plain {k : Conv} {width : Option ℕ} {c : Char} {cs : List Char}
    (hc : isDigitOf k.base c = true) (hx : k = .hex → ∀ b ∈ cs.head?, b ≠ 'x' ∧ b ≠ 'X') :
    readInt k width (c :: cs) =
      let w := width.getD (cs.length + 2)
      let (ds, rest) := spanUpTo (isDigitOf k.base) w (c :: cs)
      if ds = [] then .fail rest (rest = [] && ds.length < w) false
      else .ok (.num (k.store false (numeral k.base ds))) rest (rest = [] && ds.length < w) := by
  have hb : k.base ≤ 16 := by cases k <;> simp [Conv.base]
  obtain ⟨h1, h2⟩ := ne_sign_of_digit hb hc
  have hsign : ∀ w, readSign w (c :: cs) = (false, w, c :: cs) := fun w => by
    simp [readSign, h1, h2]
  have hpre : ∀ w, readPrefix k w (c :: cs) = (w, c :: cs) := fun w => by
    rcases cs with _ | ⟨b, cs⟩
    · rfl
    · simp only [readPrefix, ite_eq_right_iff, and_imp]
      rintro hk - - (rfl | rfl)
      · exact absurd rfl (hx hk 'x' (by simp)).1
      · exact absurd rfl (hx hk 'X' (by simp)).2
  simp only [readInt, hsign, hpre, List.length_cons]

include hs in
theorem read_int {k : Conv} (hk : k ≠ .word ∧ k ≠ .char) {w : Option ℕ} {ds r : List Char}
    {b : Char} (hd : ∀ c ∈ ds, isDigitOf k.base c = true) (hne : ds ≠ [])
    (hlen : ∀ n ∈ w, ds.length ≤ n) (hb : isDigitOf k.base b = false)
    (hx : k = .hex → b ≠ 'x' ∧ b ≠ 'X') :
    k.read w (s ++ (ds ++ b :: r)) =
      .ok (.num (k.store false (numeral k.base ds))) (b :: r) false := by
  obtain ⟨c, cs, rfl⟩ := List.exists_cons_of_ne_nil hne
  have hb16 : k.base ≤ 16 := by cases k <;> simp [Conv.base]
  have hsan : spanUpTo (isDigitOf k.base) (w.getD ((cs ++ b :: r).length + 2))
      (c :: (cs ++ b :: r)) = (c :: cs, b :: r) := by
    rw [← List.cons_append]
    refine spanUpTo_append hd ?_ (Or.inr (by simp [hb]))
    rcases w with _ | n
    · simp only [Option.getD_none, List.length_append, List.length_cons]; omega
    · simpa using hlen n rfl
  have hx' : k = .hex → ∀ a ∈ (cs ++ b :: r).head?, a ≠ 'x' ∧ a ≠ 'X' := by
    intro hk a ha
    rcases cs with _ | ⟨d, cs⟩
    · obtain rfl : b = a := by simpa using ha
      exact hx hk
    · obtain rfl : d = a := by simpa using ha
      have := hd d (by simp)
      subst hk
      constructor <;> rintro rfl <;> exact absurd this (by decide)
  have hdrop := dropWhile_blanks hs (not_isSpace_of_digit hb16 (hd c (by simp)))
    (cs ++ b :: r)
  cases k <;> simp only [ne_eq, reduceCtorEq, not_true_eq_false, and_false, false_and] at hk <;>
    simp only [Conv.read, List.cons_append, hdrop, readInt_plain (hd c (by simp)) hx', hsan] <;>
    simp

include hs in
/-- More digits than the width: the conversion takes the first of them and leaves the others. -/
theorem read_int_cut {k : Conv} (hk : k ≠ .word ∧ k ≠ .char) {w : ℕ} (hw : 0 < w)
    {ds r : List Char} (hd : ∀ c ∈ ds, isDigitOf k.base c = true) (hlen : w ≤ ds.length)
    (hx : k = .hex → 2 ≤ ds.length) :
    k.read (some w) (s ++ (ds ++ r)) =
      .ok (.num (k.store false (numeral k.base (ds.take w)))) (ds.drop w ++ r) false := by
  have hne : ds ≠ [] := by rintro rfl; simp at hlen; omega
  obtain ⟨c, cs, rfl⟩ := List.exists_cons_of_ne_nil hne
  have hb16 : k.base ≤ 16 := by cases k <;> simp [Conv.base]
  have hdrop := dropWhile_blanks hs (not_isSpace_of_digit hb16 (hd c (by simp))) (cs ++ r)
  have hsan := spanUpTo_cut (b := r) hd hlen
  have hx' : k = .hex → ∀ b ∈ (cs ++ r).head?, b ≠ 'x' ∧ b ≠ 'X' := by
    rintro rfl b hb
    obtain ⟨d, cs, rfl⟩ := List.exists_cons_of_ne_nil
      (List.ne_nil_of_length_pos (l := cs) (by have := hx rfl; simp at this; omega))
    obtain rfl : d = b := by simpa using hb
    have := hd d (by simp)
    constructor <;> rintro rfl <;> exact absurd this (by decide)
  have hplain : readInt k (some w) (c :: (cs ++ r)) = _ := readInt_plain (hd c (by simp)) hx'
  have htake : (c :: cs).take w ≠ [] := by
    obtain ⟨n, rfl⟩ : ∃ n, w = n + 1 := ⟨w - 1, by omega⟩
    simp
  have hmin : min w (c :: cs).length = w := by omega
  rw [← List.cons_append] at hplain
  simp only [Option.getD_some, hsan, if_neg htake, List.length_take, hmin, lt_irrefl,
    decide_false, Bool.and_false] at hplain
  cases k <;> simp only [ne_eq, reduceCtorEq, not_true_eq_false, and_false, false_and] at hk <;>
    simp only [Conv.read, List.cons_append, hdrop] <;> simpa using hplain

/-- Digits that end the text. -/
theorem read_dec_end {ds : List Char} (hd : ∀ c ∈ ds, isDigitOf 10 c = true) (hne : ds ≠ []) :
    Conv.dec.read none ds = .ok (.num (Conv.dec.store false (numeral 10 ds))) [] true := by
  obtain ⟨c, cs, rfl⟩ := List.exists_cons_of_ne_nil hne
  have hc := hd c List.mem_cons_self
  have hspan : spanUpTo (isDigitOf 10) (cs.length + 2) (c :: cs) = (c :: cs, []) := by
    have h := spanUpTo_append (b := []) hd (n := cs.length + 2) (by simp) (Or.inr (by simp))
    rwa [List.append_nil] at h
  have hread := @readInt_plain .dec none c cs hc nofun
  dsimp only [Option.getD_none, Conv.base] at hread
  rw [hspan] at hread
  simp only [Conv.read, List.dropWhile_cons_of_neg (Bool.eq_false_iff.1
    (not_isSpace_of_digit (by decide) hc))]
  simpa using hread

end Read

/-! ## Scanning -/

@[simp] theorem scan_nil (cs : List Char) : scan [] cs = ⟨[], cs, false, false⟩ := rfl

theorem scan_space (ds : List Directive) (cs : List Char) :
    scan (.space :: ds) cs =
      { scan ds (cs.dropWhile isSpace) with
        eof := (scan ds (cs.dropWhile isSpace)).eof || cs.dropWhile isSpace = [] } := rfl

theorem scan_lit (l : Char) (ds : List Directive) (cs : List Char) :
    scan (.lit l :: ds) (l :: cs) = scan ds cs := if_pos rfl

theorem scan_lits (ds : List Directive) (cs : List Char) : ∀ ls : List Char,
    scan (ls.map .lit ++ ds) (ls ++ cs) = scan ds cs
  | [] => rfl
  | l :: ls => (scan_lit l _ _).trans (scan_lits ds cs ls)

theorem scan_lit_ne {l c : Char} (h : c ≠ l) (ds : List Directive) (cs : List Char) :
    scan (.lit l :: ds) (c :: cs) = ⟨[], c :: cs, false, false⟩ := if_neg h

theorem scan_ok {k : Conv} {width : Option ℕ} {cs rest : List Char} {v : Val} {eof : Bool}
    (h : k.read width cs = .ok v rest eof) (suppress : Bool) (ds : List Directive) :
    scan (.conv suppress width k :: ds) cs =
      { scan ds rest with
        vals := if suppress then (scan ds rest).vals else v :: (scan ds rest).vals
        eof := (scan ds rest).eof || eof } := by
  simp only [scan, h]

theorem scan_fail {k : Conv} {width : Option ℕ} {cs rest : List Char} {eof inputEnd : Bool}
    (h : k.read width cs = .fail rest eof inputEnd) (suppress : Bool) (ds : List Directive) :
    scan (.conv suppress width k :: ds) cs = ⟨[], rest, eof, inputEnd⟩ := by
  simp only [scan, h]

theorem scan_conv {k : Conv} {width : Option ℕ} {cs rest : List Char} {v : Val}
    (h : k.read width cs = .ok v rest false) (ds : List Directive) :
    scan (.conv false width k :: ds) cs =
      { scan ds rest with vals := v :: (scan ds rest).vals } := by
  rw [scan_ok h, Bool.or_false]
  rfl

/-- What is assigned does not depend on where the text ends. -/
theorem scan_conv_vals {k : Conv} {width : Option ℕ} {cs rest : List Char} {v : Val} {eof : Bool}
    (h : k.read width cs = .ok v rest eof) (ds : List Directive) :
    (scan (.conv false width k :: ds) cs).vals = v :: (scan ds rest).vals := by
  rw [scan_ok h]
  rfl

theorem scan_skip {k : Conv} {width : Option ℕ} {cs rest : List Char} {v : Val}
    (h : k.read width cs = .ok v rest false) (ds : List Directive) :
    scan (.conv true width k :: ds) cs = scan ds rest := by
  rw [scan_ok h, Bool.or_false]
  rfl

/-- Blanks before a conversion that skips them make no difference. -/
theorem read_dropWhile {k : Conv} (hk : k ≠ .char) (width : Option ℕ) (cs : List Char) :
    k.read width (cs.dropWhile isSpace) = k.read width cs := by
  cases k <;> simp only [ne_eq, not_true_eq_false] at hk <;>
    simp only [Conv.read, List.dropWhile_idempotent]

theorem scan_dropWhile {k : Conv} (hk : k ≠ .char) (suppress : Bool) (width : Option ℕ)
    (ds : List Directive) (cs : List Char) :
    scan (.conv suppress width k :: ds) (cs.dropWhile isSpace)
      = scan (.conv suppress width k :: ds) cs := by
  have hread := read_dropWhile hk width cs
  cases h : k.read width cs with
  | ok v rest eof => rw [scan_ok h, scan_ok (hread.trans h)]
  | fail rest eof inputEnd => rw [scan_fail h, scan_fail (hread.trans h)]

/-- Blanks of the format before a conversion that skips blanks itself make no difference. -/
theorem scan_space_conv {k : Conv} (hk : k ≠ .char) (suppress : Bool) (width : Option ℕ)
    (ds : List Directive) (cs : List Char) :
    scan (.space :: .conv suppress width k :: ds) cs = scan (.conv suppress width k :: ds) cs := by
  rw [scan_space, scan_dropWhile hk]
  rcases h : cs.dropWhile isSpace with _ | ⟨c, rest⟩
  · have hread : k.read width cs = .fail [] true true := by
      cases k <;> simp [Conv.read, h] at hk ⊢
    rw [scan_fail hread]
    rfl
  · simp

theorem scan_space_char {c : Char} (hc : isSpace c = false) {sp : List Char}
    (hsp : ∀ b ∈ sp, isSpace b = true) (ds : List Directive) (rest : List Char) :
    scan (.space :: .conv false none .char :: ds) (sp ++ c :: rest) =
      { scan ds rest with vals := .chr c :: (scan ds rest).vals } := by
  rw [scan_space, dropWhile_blanks hsp hc, scan_conv rfl]
  simp

theorem scan_space_space (ds : List Directive) (cs : List Char) :
    scan (.space :: .space :: ds) cs = scan (.space :: ds) cs := by
  rw [scan_space, scan_space ds cs, scan_space, List.dropWhile_idempotent]
  simp

/-! ## Stored values -/

/-- A value a conversion stores. -/
def Conv.Stores : Conv → Val → Prop
  | .word, .str _ => True
  | .char, .chr _ => True
  | .dec, .num _ => True
  | .uns, .num _ => True
  | .hex, .num _ => True
  | _, _ => False

theorem Conv.Stores.word {v : Val} (h : Conv.word.Stores v) : ∃ s, v = .str s := by
  rcases v with _ | s | _
  · exact h.elim
  · exact ⟨s, rfl⟩
  · exact h.elim

theorem Conv.Stores.char {v : Val} (h : Conv.char.Stores v) : ∃ c, v = .chr c := by
  rcases v with _ | _ | c
  · exact h.elim
  · exact h.elim
  · exact ⟨c, rfl⟩

theorem Conv.Stores.num {k : Conv} (hk : k ≠ .word ∧ k ≠ .char) {v : Val} (h : k.Stores v) :
    ∃ n, v = .num n := by
  rcases v with n | _ | _
  · exact ⟨n, rfl⟩
  · rcases k <;> first | exact h.elim | exact absurd rfl hk.1
  · rcases k <;> first | exact h.elim | exact absurd rfl hk.2

/-- The conversions that store something. -/
def stored : List Directive → List Conv
  | [] => []
  | .conv false _ k :: ds => k :: stored ds
  | _ :: ds => stored ds

theorem readInt_stores {k : Conv} (hk : k ≠ .word ∧ k ≠ .char) {width : Option ℕ}
    {cs rest : List Char} {v : Val} {eof : Bool} (h : readInt k width cs = .ok v rest eof) :
    k.Stores v := by
  unfold readInt at h
  dsimp only at h
  split_ifs at h
  cases h
  rcases k
  · trivial
  · trivial
  · trivial
  · exact absurd rfl hk.1
  · exact absurd rfl hk.2

theorem read_stores {k : Conv} {width : Option ℕ} {cs rest : List Char} {v : Val} {eof : Bool}
    (h : k.read width cs = .ok v rest eof) : k.Stores v := by
  unfold Conv.read at h
  split at h
  · unfold readChar at h
    split at h
    · cases h
    · cases h
      trivial
  · split at h
    · cases h
    · cases h
      trivial
  · rename_i hword hchar
    split at h
    · cases h
    · exact readInt_stores ⟨hchar, hword⟩ h

/-- A scan stores values of its format's conversions, from the first on. -/
theorem scan_stores : ∀ (ds : List Directive) (cs : List Char),
    ∃ n, List.Forall₂ Conv.Stores ((stored ds).take n) (scan ds cs).vals
  | [], _ => ⟨0, .nil⟩
  | .space :: ds, cs => scan_stores ds (cs.dropWhile isSpace)
  | .lit _ :: _, [] => ⟨0, .nil⟩
  | .lit l :: ds, c :: cs => by
    rw [scan]
    split_ifs
    · exact scan_stores ds cs
    · exact ⟨0, .nil⟩
  | .conv suppress width k :: ds, cs => by
    rw [scan]
    rcases hread : k.read width cs with ⟨v, rest, eof⟩ | ⟨rest, eof, inputEnd⟩
    · obtain ⟨n, hrest⟩ := scan_stores ds rest
      rcases suppress
      · exact ⟨n + 1, .cons (read_stores hread) hrest⟩
      · exact ⟨n, hrest⟩
    · exact ⟨0, .nil⟩

/-! ## Formatted numbers -/

theorem decimal_digits (n : ℕ) : ∀ c ∈ decimal n, isDigitOf 10 c = true :=
  isDigitOf_toDigits (by omega) (by omega) n

theorem decimal_ne_nil (n : ℕ) : decimal n ≠ [] := Nat.toDigits_ne_nil

theorem numeral_decimal (n : ℕ) : numeral 10 (decimal n) = n :=
  numeral_toDigits (by omega) (by omega) n

theorem length_decimal_le {n k : ℕ} (hk : 0 < k) : (decimal n).length ≤ k ↔ n < 10 ^ k :=
  Nat.length_toDigits_le_iff (by omega) hk

theorem length_decimal_int {n : ℕ} (h : n < 2 ^ 31) : (decimal n).length ≤ 10 :=
  (length_decimal_le (by decide)).2 (h.trans (by decide))

theorem printList_plain (sep : Char) : ∀ (ns : List ℕ), ∀ c ∈ printList sep ns,
    isDigitOf 10 c = true ∨ c = sep
  | [], _, h => nomatch h
  | [n], c, h => Or.inl (decimal_digits n c h)
  | n :: m :: ns, c, h => by
    simp only [printList, List.mem_append, List.mem_cons] at h
    obtain h | h | h := h
    · exact Or.inl (decimal_digits n c h)
    · exact Or.inr h
    · exact printList_plain sep (m :: ns) c h

/-- The last digits of a number. -/
theorem numeral_drop_decimal (n j : ℕ) :
    numeral 10 ((decimal n).drop j) = n % 10 ^ ((decimal n).length - j) := by
  have hsplit := numeral_append_pow 10 ((decimal n).take j) ((decimal n).drop j)
  have hlt := numeral_lt ((decimal n).drop j) fun c hc =>
    decimal_digits n c ((List.drop_sublist j _).subset hc)
  rw [List.take_append_drop, numeral_decimal] at hsplit
  rw [List.length_drop] at hsplit hlt
  calc numeral 10 ((decimal n).drop j)
      = (numeral 10 ((decimal n).take j) * 10 ^ ((decimal n).length - j)
          + numeral 10 ((decimal n).drop j)) % 10 ^ ((decimal n).length - j) :=
        (Nat.mul_add_mod_of_lt hlt).symm
    _ = n % 10 ^ ((decimal n).length - j) := by rw [← hsplit]

theorem blanks_replicate (n : ℕ) : ∀ c ∈ List.replicate n ' ', isSpace c = true := by
  intro c hc
  rw [List.eq_of_mem_replicate hc]
  exact isSpace_blank

theorem decimal_graph (n : ℕ) : decimal n ≠ [] ∧ ∀ c ∈ decimal n, isSpace c = false :=
  ⟨decimal_ne_nil n, fun c hc => not_isSpace_of_digit (by omega) (decimal_digits n c hc)⟩

theorem store_decimal {k : Conv} (v : UInt32) :
    k.store false (numeral 10 (decimal v.toNat)) = v := by
  rw [numeral_decimal, store_of_lt v.toNat_lt]
  exact UInt32.ofNat_toNat

end Stdio
