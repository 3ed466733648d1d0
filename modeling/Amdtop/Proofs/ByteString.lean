import Mathlib.Data.List.TakeWhile
import Amdtop.ByteString

/-!
# Rules for C strings in buffers
-/

namespace Stdio

open Heap

/-! ## Strings in buffers -/

/-- A null written into a buffer cuts its string off there. -/
theorem takeWhile_set_null : ∀ (buf : List UInt8) {k : ℕ}, k < buf.length →
    (buf.set k 0).takeWhile (· ≠ 0) = (buf.takeWhile (· ≠ 0)).take k
  | [], k, h => by simp at h
  | b :: buf, 0, _ => by simp
  | b :: buf, k + 1, h => by
    have ih := takeWhile_set_null buf (k := k) (by simpa using h)
    rw [List.set_cons_succ, List.takeWhile_cons, List.takeWhile_cons]
    split_ifs
    · rw [ih, List.take_succ_cons]
    · simp

theorem mem_take_set_null {buf : List UInt8} {k n : ℕ} (hk : k < buf.length) (hn : k < n) :
    (0 : UInt8) ∈ (buf.set k 0).take n :=
  List.mem_take_iff_getElem.2 ⟨k, by rw [List.length_set]; omega, List.getElem_set_self _⟩

/-- Up to its first `b`. -/
theorem strchr_some {buf : List UInt8} {b : UInt8} {p : ℕ} (h : strchr buf b = some p) :
    (buf.takeWhile (· ≠ 0)).take p = (buf.takeWhile (· ≠ 0)).takeWhile (· ≠ b)
      ∧ p < (buf.takeWhile (· ≠ 0)).length := by
  unfold strchr at h
  obtain ⟨hlt, hidx⟩ := List.findIdx?_eq_some_iff_findIdx_eq.1 h
  generalize buf.takeWhile (· ≠ 0) = text at hlt hidx ⊢
  refine ⟨?_, hlt⟩
  rw [List.takeWhile_eq_take_findIdx_not, ← hidx]
  simp

theorem strchr_none {buf : List UInt8} {b : UInt8} (h : strchr buf b = none) :
    (buf.takeWhile (· ≠ 0)).takeWhile (· ≠ b) = buf.takeWhile (· ≠ 0) := by
  unfold strchr at h
  refine List.takeWhile_eq_self_iff.2 fun x hx => ?_
  simpa using List.findIdx?_eq_none_iff.1 h x hx

theorem takeWhile_nulls {text : List UInt8} (h : ∀ b ∈ text, b ≠ 0) (n : ℕ) :
    (text ++ List.replicate n 0).takeWhile (· ≠ 0) = text := by
  rw [List.takeWhile_append_of_pos (by simpa using h)]
  rcases n with _ | n <;> simp [List.replicate_succ]

/-! ## Buffers of a size -/

theorem cString_eq_some {buf s : List UInt8} :
    cString buf = some s ↔ 0 ∈ buf ∧ buf.takeWhile (· ≠ 0) = s := by
  unfold cString
  split_ifs with h <;> simp [h]

/-- A string and its terminator at the front of a buffer. -/
theorem cString_append {text : List UInt8} (h : ∀ b ∈ text, b ≠ 0) (rest : List UInt8) :
    cString (text ++ 0 :: rest) = some text := by
  refine cString_eq_some.2 ⟨by simp, ?_⟩
  rw [List.takeWhile_append_of_pos (by simpa using h)]
  simp

theorem mem_takeWhile_ne_zero {buf : List UInt8} : ∀ b ∈ buf.takeWhile (· ≠ 0), b ≠ 0 :=
  fun b hb => by simpa using List.mem_takeWhile_imp hb

theorem length_cString_lt {n : ℕ} {buf : Buffer n} {s : List UInt8}
    (h : cString buf.1 = some s) : s.length < n := by
  obtain ⟨hmem, rfl⟩ := cString_eq_some.1 h
  have hle : (buf.1.takeWhile (· ≠ 0)).length ≤ buf.1.length :=
    (List.takeWhile_prefix _).length_le
  refine lt_of_le_of_ne (hle.trans_eq buf.2) fun heq => ?_
  have hall : buf.1.takeWhile (· ≠ 0) = buf.1 :=
    (List.takeWhile_prefix _).eq_of_length (heq.trans buf.2.symm)
  exact of_decide_eq_true (List.takeWhile_eq_self_iff.1 hall 0 hmem) rfl

section Strcat

variable {n : ℕ} (buf : Buffer n) {text : List UInt8}

/-- A text is appended to the string if there is a string and the result fits. -/
theorem strcat_fits {s : List UInt8} (hs : cString buf.1 = some s) (htext : ∀ b ∈ text, b ≠ 0)
    (hfit : s.length + text.length < n) :
    ∃ buf', buf.strcat text = some buf' ∧ cString buf'.1 = some (s ++ text) := by
  obtain ⟨-, hs⟩ := cString_eq_some.1 hs
  have htake : buf.1.take (strlen buf.1) = s := by
    rw [← hs]
    exact (List.prefix_iff_eq_take.1 (List.takeWhile_prefix _)).symm
  have hlen : strlen buf.1 = s.length := congrArg List.length hs
  unfold Buffer.strcat Buffer.write
  rw [dif_pos (hlen ▸ hfit)]
  refine ⟨_, rfl, ?_⟩
  dsimp only
  rw [htake, ← List.append_assoc]
  refine cString_append (fun b hb => ?_) _
  rcases List.mem_append.1 hb with hb | hb
  · exact mem_takeWhile_ne_zero b (hs ▸ hb)
  · exact htext b hb

theorem strcat_overflow (h : n ≤ strlen buf.1 + text.length) : buf.strcat text = none := by
  unfold Buffer.strcat Buffer.write
  rw [dif_neg (not_lt.2 h)]

/-- A buffer with no string is full. -/
theorem strlen_of_none (h : cString buf.1 = none) : strlen buf.1 = n := by
  unfold cString at h
  have hmem : 0 ∉ buf.1 := by simpa using h
  have htake : buf.1.takeWhile (· ≠ 0) = buf.1 :=
    List.takeWhile_eq_self_iff.2 fun b hb => decide_eq_true fun he => hmem (he ▸ hb)
  unfold strlen
  rw [htake, buf.2]

end Strcat

end Stdio
