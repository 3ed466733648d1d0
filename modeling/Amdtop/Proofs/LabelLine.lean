import Amdtop.LabelLine
import Amdtop.Proofs.ByteString
import Amdtop.Proofs.Stdio

/-!
# The two formats of a line

The two formats `mvwprintw2c` prints are its format, split behind the first colon
(`mvwprintw2c_split`).
-/

namespace Stdio

section Tokens

variable {n : ℕ} {delim : UInt8} {a rest : List UInt8}

/-- A text without nulls, in front of one. -/
theorem takeWhile_text {text : List UInt8} (h : 0 ∉ text) (tail : List UInt8) :
    (text ++ 0 :: tail).takeWhile (· ≠ 0) = text := by
  rw [(span_stop (by decide) text tail).1]
  exact List.takeWhile_eq_self_iff.2 fun b hb => decide_eq_true fun he => h (he ▸ hb)

/-- The first token is what stands before the first delimiter, which becomes a null. -/
theorem Buffer.strtok_first {buf : Buffer n} {tail : List UInt8} (ha : a ≠ [])
    (hdelim : delim ∉ a) (hnull : 0 ∉ a ++ delim :: rest)
    (hbuf : buf.1 = a ++ delim :: rest ++ 0 :: tail) :
    ∃ buf', buf.strtok delim = some (0, buf') ∧ buf'.1 = a ++ 0 :: (rest ++ 0 :: tail) := by
  obtain ⟨c, cs, rfl⟩ := List.exists_cons_of_ne_nil ha
  have hc : ¬ c = delim := fun h => hdelim (h ▸ List.mem_cons_self)
  have htext : buf.1.takeWhile (· ≠ 0) = (c :: cs) ++ delim :: rest := by
    rw [hbuf, takeWhile_text hnull]
  have hstart : ((c :: cs) ++ delim :: rest).takeWhile (· = delim) = [] := by
    rw [List.cons_append, List.takeWhile_cons_of_neg (by simpa using hc)]
  have hidx : ((c :: cs) ++ delim :: rest).findIdx? (· = delim) = some (c :: cs).length :=
    findIdx_stop (by simp) rest fun b hb => decide_eq_false fun h => hdelim (h ▸ hb)
  have hlen : (c :: cs).length < n := by
    rw [← buf.2, hbuf]
    simp
  unfold Buffer.strtok
  dsimp only
  rw [htext, hstart, List.length_nil, List.drop_zero, if_neg (by simp), hidx]
  dsimp only
  rw [Nat.zero_add, Buffer.put, if_pos hlen]
  refine ⟨_, rfl, ?_⟩
  dsimp only
  rw [hbuf, List.append_assoc, List.set_append_right _ _ le_rfl, Nat.sub_self]
  rfl

/-- A byte that takes the place of the null. -/
theorem Buffer.strncat_byte {buf : Buffer n} {b : UInt8} (hb : b ≠ 0) (ha : 0 ∉ a)
    (hrest : rest ≠ []) (hbuf : buf.1 = a ++ 0 :: rest) {count : ℕ} (hcount : 0 < count) :
    ∃ buf', buf.strncat 0 [b] count = some buf' ∧ cString buf'.1 = some (a ++ [b]) := by
  have hlen : strlen buf.1 = a.length := by rw [strlen, hbuf, takeWhile_text ha]
  have hfit : a.length + [b].length < n := by
    have hpos := List.length_pos_of_ne_nil hrest
    rw [← buf.2, hbuf]
    simpa using hpos
  have htake : buf.1.take a.length = a := by rw [hbuf, List.take_left' rfl]
  unfold Buffer.strncat Buffer.write
  rw [List.drop_zero, hlen, Nat.zero_add, List.take_of_length_le hcount, dif_pos hfit]
  refine ⟨_, rfl, ?_⟩
  dsimp only
  rw [htake, ← List.append_assoc]
  refine cString_append (fun x hx => ?_) _
  obtain hx | hx := List.mem_append.1 hx
  · exact fun h => ha (h ▸ hx)
  · rwa [List.mem_singleton.1 hx]

end Tokens

end Stdio

namespace Amdtop

open Stdio

section Formats

variable {a rest : List UInt8}

theorem secondFormat_first (hcolon : colon ∉ a) : secondFormat (a ++ colon :: rest) = some rest := by
  have hidx : (a ++ colon :: rest).findIdx? (· = colon) = some a.length :=
    findIdx_stop rfl rest fun b hb => decide_eq_false fun h => hcolon (h ▸ hb)
  rw [secondFormat, hidx, Option.map_some, List.drop_length_add_append]
  rfl

theorem firstFormat_first (ha : a ≠ []) (hcolon : colon ∉ a) (hnull : 0 ∉ a ++ colon :: rest) :
    firstFormat (a ++ colon :: rest) = some (0, a ++ [colon]) := by
  have hnulla : 0 ∉ a := fun h => hnull (List.mem_append_left _ h)
  obtain ⟨ptr, htok, hptr⟩ := @Buffer.strtok_first _ colon a rest
    (formatCopy (a ++ colon :: rest)) [] ha hcolon hnull rfl
  obtain ⟨ptr', hcat, hstring⟩ := Buffer.strncat_byte (b := colon) (by decide) hnulla (by simp)
    hptr (Nat.succ_pos (strlen (formatCopy (a ++ colon :: rest)).1))
  unfold firstFormat
  dsimp only
  rw [htok, Option.bind_some]
  dsimp only
  rw [hcat, Option.bind_some, List.drop_zero, hstring, Option.map_some]

end Formats

/-- The format is split behind its first colon, and the two parts are printed. -/
theorem mvwprintw2c_split {fmt : List UInt8} (hnull : 0 ∉ fmt) (hcolon : colon ∈ fmt)
    (hfirst : fmt.head? ≠ some colon) :
    ∃ f1 f2, f1 ++ f2 = fmt ∧ (∃ a, f1 = a ++ [colon] ∧ colon ∉ a)
      ∧ firstFormat fmt = some (0, f1) ∧ secondFormat fmt = some f2
      ∧ ∀ maxy y : ℤ, mvwprintw2c maxy y fmt
        = some (if maxy - 1 ≤ y then [] else [⟨.labelName, f1⟩, ⟨.labelValue, f2⟩]) := by
  obtain ⟨a, rest, rfl, hcolona⟩ := List.eq_append_cons_of_mem hcolon
  have ha : a ≠ [] := by
    rintro rfl
    exact hfirst rfl
  have hlabel := firstFormat_first ha hcolona hnull
  have hvalue := @secondFormat_first a rest hcolona
  refine ⟨a ++ [colon], rest, by simp, ⟨a, rfl, hcolona⟩, hlabel, hvalue, fun maxy y => ?_⟩
  unfold mvwprintw2c
  rw [hvalue, hlabel]
  split_ifs <;> rfl

/-- The bytes of `"%s: %d:%d"`. -/
def pairFormat : List UInt8 := [0x25, 0x73, 0x3a, 0x20, 0x25, 0x64, 0x3a, 0x25, 0x64]

theorem mvwprintw2c_split_pair : ∃ f1 f2, f1 ++ f2 = pairFormat
    ∧ (∃ a, f1 = a ++ [colon] ∧ colon ∉ a)
    ∧ firstFormat pairFormat = some (0, f1) ∧ secondFormat pairFormat = some f2
    ∧ ∀ maxy y : ℤ, mvwprintw2c maxy y pairFormat
      = some (if maxy - 1 ≤ y then [] else [⟨.labelName, f1⟩, ⟨.labelValue, f2⟩]) :=
  mvwprintw2c_split (by decide) (by decide) (by decide)

end Amdtop
