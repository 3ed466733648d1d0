import Amdtop.IrqCount
import Amdtop.Proofs.CpuInfo
import Mathlib.Data.UInt

/-!
# The sum of the interrupts

`getIrqCount` adds up the numbers between the commas of all that is in the buffer before the first
null (`getIrqCount_string`): the counts, which `atoll` cuts off at the largest 64-bit integer, and
what was left in the buffer behind them (`getIrqCount_iff`).
-/

namespace Stdio

/-! ## Tokens -/

section Tokens

variable {delim : Char}

theorem splitOn_append {t : List Char} (h : delim ∉ t) (cs : List Char) :
    (t ++ cs).splitOn delim = (cs.splitOn delim).modifyHead (t ++ ·) := by
  induction t with
  | nil =>
    obtain ⟨p, ps, hsplit⟩ := List.exists_cons_of_ne_nil (List.splitOn_ne_nil delim cs)
    rw [List.nil_append, hsplit]
    rfl
  | cons c t ih =>
    rw [List.mem_cons, not_or] at h
    rw [List.cons_append, List.splitOn_cons_eq_if_modifyHead, if_neg (by simpa using Ne.symm h.1),
      ih h.2, List.modifyHead_modifyHead]
    rfl

/-- Where a value that the empty text gives nothing to is added up, skipping delimiters makes no
difference. -/
theorem sum_splitOn_dropWhile {f : List Char → UInt64} (hf : f [] = 0) : ∀ cs : List Char,
    (((cs.dropWhile (· = delim)).splitOn delim).map f).sum = ((cs.splitOn delim).map f).sum
  | [] => rfl
  | c :: cs => by
    by_cases h : delim = c
    · subst h
      rw [List.dropWhile_cons_of_pos (by simp), sum_splitOn_dropWhile hf cs,
        List.splitOn_cons_eq_if_modifyHead]
      simp [hf]
    · rw [List.dropWhile_cons_of_neg (by simpa using Ne.symm h)]

/-- The piece up to the first delimiter, and the pieces behind it. -/
theorem sum_splitOn_first {f : List Char → UInt64} (hf : f [] = 0) (cs : List Char) :
    ((cs.splitOn delim).map f).sum = f (cs.takeWhile (· ≠ delim))
      + ((((cs.dropWhile (· ≠ delim)).drop 1).splitOn delim).map f).sum := by
  have hfirst : delim ∉ cs.takeWhile (· ≠ delim) := fun h => by
    simpa using List.mem_takeWhile_imp h
  have hcs := List.takeWhile_append_dropWhile (p := (· ≠ delim)) (l := cs)
  rcases hrest : cs.dropWhile (· ≠ delim) with _ | ⟨d, rest⟩
  · have hall : cs.takeWhile (· ≠ delim) = cs := by
      rwa [hrest, List.append_nil] at hcs
    rw [hall] at hfirst ⊢
    simp [List.splitOn_eq_singleton hfirst, hf]
  · have hd : d = delim := by
      have hhead := List.head?_dropWhile_not (· ≠ delim) cs
      rw [hrest] at hhead
      simpa using hhead
    subst hd
    rw [hrest] at hcs
    nth_rewrite 1 [← hcs]
    rw [List.splitOn_append_cons_self_of_not_mem hfirst]
    rfl

/-- A token and what is left. -/
theorem sum_strtokR {f : List Char → UInt64} (hf : f [] = 0) (cs : List Char) :
    ((cs.splitOn delim).map f).sum = match strtokR delim cs with
      | none => 0
      | some (p, rest) => f p + ((rest.splitOn delim).map f).sum := by
  rw [← sum_splitOn_dropWhile hf]
  unfold strtokR
  rcases cs.dropWhile (· = delim) with _ | ⟨c, ds⟩
  · simp [hf]
  · exact sum_splitOn_first hf (c :: ds)

/-- A token has a character. -/
theorem length_strtokR {cs p rest : List Char} (h : strtokR delim cs = some (p, rest)) :
    rest.length < cs.length := by
  unfold strtokR at h
  split at h
  · cases h
  · rename_i c ds hdrop
    obtain ⟨-, rfl⟩ := Prod.mk.inj (Option.some.inj h)
    have hdropped := (List.dropWhile_sublist (l := c :: ds) (· ≠ delim)).length_le
    have hcs := (List.dropWhile_sublist (l := cs) (· = delim)).length_le
    rw [hdrop] at hcs
    rw [List.length_drop]
    rw [List.length_cons] at hdropped hcs
    omega

theorem strtokR_ne_none {cs : List Char} {c : Char} (hmem : c ∈ cs) (hc : c ≠ delim) :
    strtokR delim cs ≠ none := by
  unfold strtokR
  split
  · rename_i hdrop
    have hall := List.dropWhile_eq_nil_iff.1 hdrop c hmem
    exact absurd (of_decide_eq_true hall) hc
  · exact Option.some_ne_none _

end Tokens

end Stdio

namespace Amdtop

open Stdio

/-! ## The loop -/

theorem atoll_nil : atoll [] = 0 := rfl

theorem irqLoop_sum : ∀ {fuel : ℕ} {cs : List Char} (count : UInt64), cs.length < fuel →
    irqLoop fuel cs count = count + ((cs.splitOn ',').map atoll).sum
  | fuel + 1, cs, count, h => by
    rw [irqLoop, sum_strtokR atoll_nil]
    rcases htok : strtokR ',' cs with _ | ⟨p, rest⟩
    · exact (UInt64.add_zero count).symm
    · have hlen := length_strtokR htok
      dsimp only
      rw [irqLoop_sum _ (by omega), UInt64.add_assoc]

section Calls

variable {files : List Char → SysFile} {irq : UInt32} {text : List Char}
  (hfile : files (perCpuCount irq) = ⟨true, some text⟩) (buf : List Char) (irqCount : UInt64)

include hfile

/-- What `fread` leaves in the buffer. -/
theorem getFileContent_read : getFileContent (files (perCpuCount irq)) buf maxNameSize
    = (((text.take maxNameSize).length : ℤ),
        text.take maxNameSize ++ buf.drop (text.take maxNameSize).length) := by
  rw [hfile]
  rfl

/-- A buffer whose string has a token. -/
theorem getIrqCount_string {s : List Char}
    (hs : arrayString (text.take maxNameSize ++ buf.drop (text.take maxNameSize).length) = some s)
    (htoken : strtokR ',' s ≠ none) : getIrqCount files irq buf irqCount
      = .done ((text.take maxNameSize).length, ((s.splitOn ',').map atoll).sum) := by
  have hret : ¬ ((text.take maxNameSize).length : ℤ) < 0 := by omega
  unfold getIrqCount
  rw [getFileContent_read hfile]
  dsimp only
  rw [if_neg hret, hs, sum_strtokR atoll_nil]
  rcases htok : strtokR ',' s with _ | ⟨p, rest⟩
  · exact absurd htok htoken
  · have hlen := length_strtokR htok
    dsimp only
    rw [htok]
    dsimp only
    rw [irqLoop_sum _ (by omega)]

theorem getIrqCount_unterminated
    (hs : arrayString (text.take maxNameSize ++ buf.drop (text.take maxNameSize).length) = none) :
    getIrqCount files irq buf irqCount = .outside := by
  have hret : ¬ ((text.take maxNameSize).length : ℤ) < 0 := by omega
  unfold getIrqCount
  rw [getFileContent_read hfile]
  dsimp only
  rw [if_neg hret, hs]

end Calls

/-! ## The counts and what is behind them -/

/-- The greatest integer `atoll` gives. -/
def longMax : ℕ := 2 ^ 63 - 1

theorem atoll_decimal (n : ℕ) {rest : List Char} (h : ∀ c ∈ rest.head?, isDigitOf 10 c = false) :
    atoll (decimal n ++ rest) = .ofNat (min n longMax) := by
  rw [atoll, readLong_digits (decimal_ne_nil n) (decimal_digits n) h, numeral_decimal]
  rfl

theorem atoll_newline (cs : List Char) : atoll ('\n' :: cs) = atoll cs := by
  have hspace : ('\n' :: cs).dropWhile isSpace = cs.dropWhile isSpace :=
    List.dropWhile_cons_of_pos isSpace_newline
  rw [atoll, readLong, hspace, atoll, readLong]

theorem comma_not_mem (n : ℕ) : ',' ∉ decimal n := fun h =>
  absurd (decimal_digits n _ h) (by decide)

/-- The pieces of what is behind the text. Up to its first comma it follows the newline of the last
count, if there is one. -/
def leftPieces (counts : List ℕ) (left : List Char) : List (List Char) :=
  if counts = [] then left.splitOn ',' else (left.splitOn ',').tail

theorem sum_counts (left : List Char) : ∀ counts : List ℕ,
    (((countsText counts ++ left).splitOn ',').map atoll).sum
      = .ofNat (counts.map (min · longMax)).sum + ((leftPieces counts left).map atoll).sum
  | [] => by
    obtain ⟨p, ps, hleft⟩ := List.exists_cons_of_ne_nil (List.splitOn_ne_nil ',' left)
    have hsplit := @splitOn_append ',' ['\n'] (by decide) left
    rw [hleft] at hsplit
    rw [leftPieces, if_pos rfl, hleft, show countsText [] = ['\n'] from rfl, hsplit]
    simp [atoll_newline]
  | [n] => by
    obtain ⟨p, ps, hleft⟩ := List.exists_cons_of_ne_nil (List.splitOn_ne_nil ',' left)
    have hmem : ',' ∉ decimal n ++ ['\n'] := by simp [comma_not_mem]
    have hsplit := splitOn_append hmem left
    rw [hleft] at hsplit
    have hatoll := @atoll_decimal n ('\n' :: p) (by rintro _ ⟨⟩; decide)
    rw [leftPieces, if_neg (by simp), hleft, show countsText [n] = decimal n ++ ['\n'] from rfl,
      hsplit, List.modifyHead_cons, List.map_cons, List.sum_cons, List.append_assoc,
      List.singleton_append, hatoll]
    rfl
  | n :: m :: ns => by
    have htext : countsText (n :: m :: ns) ++ left
        = decimal n ++ ',' :: (countsText (m :: ns) ++ left) := by
      simp [countsText, printList]
    have hatoll := @atoll_decimal n [] (by simp)
    have hsum : ((n :: m :: ns).map (min · longMax)).sum
        = min n longMax + ((m :: ns).map (min · longMax)).sum := rfl
    rw [List.append_nil] at hatoll
    rw [htext, List.splitOn_append_cons_self_of_not_mem (comma_not_mem n), List.map_cons,
      List.sum_cons, sum_counts left (m :: ns), hatoll, hsum, UInt64.ofNat_add, UInt64.add_assoc]
    rfl

theorem toNat_eq_iff {n : UInt64} {k : ℕ} (h : k < 2 ^ 64) : n.toNat = k ↔ n = .ofNat k := by
  rw [← UInt64.toNat_inj, UInt64.toNat_ofNat_of_lt' h]

theorem sum_longMax : ∀ counts : List ℕ,
    counts.sum = (counts.map (min · longMax)).sum + (counts.map (· - longMax)).sum
  | [] => rfl
  | n :: ns => by
    have ih := sum_longMax ns
    simp only [List.sum_cons, List.map_cons]
    omega

/-! ## The buffer -/

theorem countsText_plain (counts : List ℕ) : ∀ c ∈ countsText counts, c ≠ '\x00' := by
  rintro c hc rfl
  obtain hc | hc := List.mem_append.1 hc
  · obtain hc | hc := printList_plain ',' counts _ hc <;> exact absurd hc (by decide)
  · exact absurd hc (by decide)

/-- What the buffer still holds behind the text, up to its first null. -/
def irqLeft (counts : List ℕ) (buf : List Char) : List Char :=
  (buf.drop (countsText counts).length).takeWhile (· ≠ '\x00')

/-- The text and a null fit in the buffer, and the numbers behind the text make up for what `atoll`
cuts off: they add up to 0 if it cuts off nothing. -/
structure LeftClean (counts : List ℕ) (buf : List Char) : Prop where
  fits : (countsText counts).length < maxNameSize
  ends : '\x00' ∈ buf.drop (countsText counts).length
  sum : ((leftPieces counts (irqLeft counts buf)).map atoll).sum
    = .ofNat (counts.map (· - longMax)).sum

section Result

variable {counts : List ℕ} {buf : List Char} {files : List Char → SysFile} {irq : UInt32}
  (hbuf : buf.length = maxNameSize)
  (hfile : files (perCpuCount irq) = ⟨true, some (countsText counts)⟩) (irqCount : UInt64)

include hfile

/-- The text with what is behind it. -/
theorem getIrqCount_left (hfits : (countsText counts).length < maxNameSize)
    (hends : '\x00' ∈ buf.drop (countsText counts).length) :
    getIrqCount files irq buf irqCount = .done ((countsText counts).length,
      .ofNat (counts.map (min · longMax)).sum
        + ((leftPieces counts (irqLeft counts buf)).map atoll).sum) := by
  have htake : (countsText counts).take maxNameSize = countsText counts :=
    List.take_of_length_le hfits.le
  have hstring : arrayString (countsText counts ++ buf.drop (countsText counts).length)
      = some (countsText counts ++ irqLeft counts buf) := by
    rw [arrayString, if_pos (List.mem_append_right _ hends),
      List.takeWhile_append_of_pos fun c hc => decide_eq_true (countsText_plain counts c hc)]
    rfl
  have htoken : strtokR ',' (countsText counts ++ irqLeft counts buf) ≠ none :=
    strtokR_ne_none (c := '\n') (by simp [countsText]) (by decide)
  have hresult := getIrqCount_string hfile buf irqCount (htake.symm ▸ hstring) htoken
  rw [hresult, htake, sum_counts]

include hbuf

theorem getIrqCount_outside (h : ¬ ((countsText counts).length < maxNameSize
    ∧ '\x00' ∈ buf.drop (countsText counts).length)) :
    getIrqCount files irq buf irqCount = .outside := by
  refine getIrqCount_unterminated hfile buf irqCount (if_neg fun hmem => ?_)
  obtain hmem | hmem := List.mem_append.1 hmem
  · exact countsText_plain counts _ (List.mem_of_mem_take hmem) rfl
  · by_cases hfits : (countsText counts).length < maxNameSize
    · rw [List.take_of_length_le hfits.le] at hmem
      exact h ⟨hfits, hmem⟩
    · rw [List.length_take, min_eq_left (not_lt.1 hfits), List.drop_of_length_le hbuf.le] at hmem
      exact absurd hmem (by decide)

theorem getIrqCount_iff (htotal : counts.sum < 2 ^ 64) :
    (∃ ret n, getIrqCount files irq buf irqCount = .done (ret, n) ∧ n.toNat = counts.sum)
      ↔ LeftClean counts buf := by
  by_cases hread : (countsText counts).length < maxNameSize
      ∧ '\x00' ∈ buf.drop (countsText counts).length
  · obtain ⟨hfits, hends⟩ := hread
    have hsum : UInt64.ofNat counts.sum = .ofNat (counts.map (min · longMax)).sum
        + .ofNat (counts.map (· - longMax)).sum := by rw [← UInt64.ofNat_add, ← sum_longMax]
    have hvalue := fun n : UInt64 => toNat_eq_iff (n := n) htotal
    rw [getIrqCount_left hfile irqCount hfits hends]
    constructor
    · rintro ⟨ret, n, hdone, hn⟩
      obtain ⟨-, rfl⟩ := Prod.mk.inj (Outcome.done.inj hdone)
      rw [hvalue, hsum] at hn
      exact ⟨hfits, hends, (UInt64.add_right_inj _).1 hn⟩
    · intro h
      refine ⟨_, _, rfl, ?_⟩
      rw [hvalue, h.sum, hsum]
  · rw [getIrqCount_outside hbuf hfile irqCount hread]
    constructor
    · rintro ⟨ret, n, hdone, -⟩
      cases hdone
    · exact fun h => absurd ⟨h.fits, h.ends⟩ hread

end Result

/-- A machine whose kernel reports the counts. -/
def irqFiles (counts : List ℕ) : List Char → SysFile := fun _ => ⟨true, some (countsText counts)⟩

theorem getIrqCount_clear : ∃ ret n, getIrqCount (irqFiles [3, 40, 0]) 7 (List.replicate 100 '\x00') 0
    = .done (ret, n) ∧ n.toNat = [3, 40, 0].sum :=
  (@getIrqCount_iff _ _ (irqFiles [3, 40, 0]) 7 (by decide) rfl 0 (by decide)).2
    ⟨by decide, by decide, by decide⟩

/-- What an earlier call may have left on the stack. -/
def usedStack : List Char := "12,7".toList ++ List.replicate 96 '\x00'

theorem getIrqCount_leftover : ¬ ∀ (counts : List ℕ) (buf : List Char) (files : List Char → SysFile)
    (irq : UInt32) (irqCount : UInt64), counts.sum < 2 ^ 64 → buf.length = maxNameSize →
    files (perCpuCount irq) = ⟨true, some (countsText counts)⟩ →
    ∃ ret n, getIrqCount files irq buf irqCount = .done (ret, n) ∧ n.toNat = counts.sum := by
  intro h
  have hright := h [5] usedStack (irqFiles [5]) 7 0 (by decide) (by decide) rfl
  rw [getIrqCount_iff (by decide) rfl 0 (by decide)] at hright
  exact absurd hright.sum (by decide)

end Amdtop
