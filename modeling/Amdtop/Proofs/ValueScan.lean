import Amdtop.Proofs.CpuInfo
import Amdtop.ValueScan

/-!
# The searches for a value leave the line

Both loops step over characters until a newline, which `fgets` does not put into a buffer for a
line that is too long or the last without one, and which the pointer is already past if nothing
follows the colon. With no `=` in the line the search starts from a null pointer.
-/

namespace Amdtop

open Stdio

/-! ## Searches -/

section Seek

variable {p : Char → Bool} {n : ℕ}

theorem below_touch {i : ℕ} : (touch i).Below n ↔ i < n := List.forall_mem_singleton

theorem seek_cons (c : Char) (cs : List Char) (i : ℕ) :
    seek p (c :: cs) i
      = touch i >>= fun _ => if p c then pure (some i) else seek p cs (i + 1) := rfl

/-- The search reads what it passes over, and one position more. -/
theorem seek_beyond {b : List Char} : ∀ {a : List Char} {i : ℕ}, (∀ c ∈ a, p c = false) →
    (seek p (a ++ b) i).Below n → i + a.length < n
  | [], i, _, h => by
    cases b <;> exact below_touch.1 (Reads.below_bind.1 h).1
  | c :: a, i, ha, h => by
    rw [List.forall_mem_cons] at ha
    rw [List.cons_append, seek_cons, ha.1, Reads.below_bind] at h
    have hlt := seek_beyond ha.2 h.2
    rw [List.length_cons]
    omega

theorem seek_val {x : Char} (hx : p x = true) {b : List Char} : ∀ {a : List Char} {i : ℕ},
    (∀ c ∈ a, p c = false) → (seek p (a ++ x :: b) i).val = some (i + a.length)
  | [], i, _ => by
    rw [List.nil_append, seek_cons, hx]
    rfl
  | c :: a, i, ha => by
    rw [List.forall_mem_cons] at ha
    rw [List.cons_append, seek_cons, ha.1, Reads.val_bind, List.length_cons,
      show i + (a.length + 1) = i + 1 + a.length by omega]
    exact seek_val hx ha.2

theorem seek_below {x : Char} (hx : p x = true) {b : List Char} : ∀ {a : List Char} {i : ℕ},
    (∀ c ∈ a, p c = false) → i + a.length < n → (seek p (a ++ x :: b) i).Below n
  | [], i, _, h => by
    rw [List.nil_append, seek_cons, hx, Reads.below_bind]
    exact ⟨below_touch.2 h, Reads.below_pure _ _⟩
  | c :: a, i, ha, h => by
    rw [List.forall_mem_cons] at ha
    rw [List.length_cons] at h
    rw [List.cons_append, seek_cons, ha.1, Reads.below_bind]
    exact ⟨below_touch.2 (by omega), seek_below hx ha.2 (by omega)⟩

theorem seek_findIdx : ∀ (text : List Char) (i : ℕ),
    (seek p text i).val = (text.findIdx? p).map (i + ·)
  | [], _ => rfl
  | c :: cs, i => by
    rw [seek_cons, Reads.val_bind, List.findIdx?_cons]
    cases p c
    · rw [if_neg Bool.false_ne_true, if_neg Bool.false_ne_true, seek_findIdx cs (i + 1),
        Option.map_map]
      exact congrArg (Option.map · _) (funext fun k => by dsimp only [Function.comp]; omega)
    · rfl

theorem seek_none : ∀ {text : List Char} {i : ℕ}, (seek p text i).val = none →
    ¬ (seek p text i).Below (i + text.length)
  | [], i, _ => fun h => absurd (below_touch.1 (Reads.below_bind.1 h).1) (lt_irrefl _)
  | c :: cs, i, h => by
    rw [seek_cons, Reads.val_bind] at h
    rw [seek_cons, Reads.below_bind]
    cases hc : p c
    · rw [hc] at h
      rw [List.length_cons, show i + (cs.length + 1) = i + 1 + cs.length by omega]
      exact fun hb => seek_none h hb.2
    · rw [hc] at h
      cases h

/-- Where the search stops is a position it has read. -/
theorem seek_val_lt {m : ℕ} : ∀ {text : List Char} {i : ℕ}, (seek p text i).val = some m →
    (seek p text i).Below n → m < n
  | [], _, h, _ => nomatch h
  | c :: cs, i, h, hb => by
    rw [seek_cons, Reads.val_bind] at h
    rw [seek_cons, Reads.below_bind] at hb
    cases hc : p c
    · rw [hc] at h hb
      exact seek_val_lt h hb.2
    · rw [hc] at h
      exact Option.some.inj h ▸ below_touch.1 hb.1

end Seek

/-! ## A line in the buffer -/

/-- Where `strchr` finds a separator in a line. -/
def valueAt (sep : Char) (line : List Char) : Option ℕ :=
  (line.takeWhile (· ≠ '\x00')).findIdx? (· = sep)

section Line

variable {sep : Char}

theorem ne_null_of_mem {line : List Char} {c : Char} (h : c ∈ line.takeWhile (· ≠ '\x00')) :
    c ≠ '\x00' := by
  simpa using List.mem_takeWhile_imp h

theorem valueAt_append (hsep : sep ≠ '\x00') {a b : List Char}
    (ha : ∀ c ∈ a, c ≠ sep ∧ c ≠ '\x00') : valueAt sep (a ++ sep :: b) = some a.length := by
  rw [valueAt, List.takeWhile_append_of_pos fun c hc => decide_eq_true (ha c hc).2,
    List.takeWhile_cons_of_pos (by simpa using hsep)]
  exact findIdx_stop (p := (· = sep)) (decide_eq_true rfl) _ fun c hc =>
    decide_eq_false (ha c hc).1

theorem valueAt_none {line : List Char} :
    valueAt sep line = none ↔ sep ∉ line.takeWhile (· ≠ '\x00') := by
  rw [valueAt, List.findIdx?_eq_none_iff]
  exact ⟨fun h hmem => of_decide_eq_false (h _ hmem) rfl,
    fun h c hc => decide_eq_false fun he => h (he ▸ hc)⟩

theorem valueAt_lt {line : List Char} {i : ℕ} (h : valueAt sep line = some i) :
    i < line.length := by
  obtain ⟨hlt, -⟩ := List.findIdx?_eq_some_iff_getElem.1 h
  exact hlt.trans_le (List.takeWhile_prefix _).length_le

/-- A separator before any null is the first one of the line. -/
theorem sep_split {line : List Char} (h : sep ∈ line.takeWhile (· ≠ '\x00')) :
    ∃ a b, line = a ++ sep :: b ∧ ∀ c ∈ a, c ≠ sep ∧ c ≠ '\x00' := by
  obtain ⟨a, b, htake, hnot⟩ := List.eq_append_cons_of_mem h
  refine ⟨a, b ++ line.dropWhile (· ≠ '\x00'), ?_, fun c hc => ⟨fun he => hnot (he ▸ hc), ?_⟩⟩
  · rw [← List.cons_append, ← List.append_assoc, ← htake, List.takeWhile_append_dropWhile]
  · exact ne_null_of_mem (htake ▸ List.mem_append_left _ hc)

/-- The first null of a line and the terminator behind it. -/
theorem null_split : ∀ line t : List Char,
    ∃ w, line ++ '\x00' :: t = line.takeWhile (· ≠ '\x00') ++ '\x00' :: w
  | [], t => ⟨t, rfl⟩
  | c :: line, t => by
    by_cases hc : c = '\x00'
    · subst hc
      exact ⟨line ++ '\x00' :: t, rfl⟩
    · obtain ⟨w, hw⟩ := null_split line t
      refine ⟨w, ?_⟩
      rw [List.takeWhile_cons_of_pos (by simpa using hc), List.cons_append, hw]
      rfl

/-- The search for the separator or the terminator stays in the line. -/
theorem seek_sep (sep : Char) (line t : List Char) (i : ℕ) :
    (seek (fun c => c = sep || c = '\x00') (line ++ '\x00' :: t) i).Below
      (i + line.length + 1) := by
  by_cases h : sep ∈ line.takeWhile (· ≠ '\x00')
  · obtain ⟨a, b, rfl, ha⟩ := sep_split h
    rw [List.append_assoc, List.cons_append]
    refine seek_below (by simp) (fun c hc => by simp [ha c hc]) ?_
    rw [List.length_append]
    omega
  · obtain ⟨w, hw⟩ := null_split line t
    have hle := (List.takeWhile_prefix (fun c => decide (c ≠ '\x00')) (l := line)).length_le
    rw [hw]
    refine seek_below (by simp) (fun c hc => ?_) (by omega)
    simp [ne_null_of_mem hc, show c ≠ sep from fun he => h (he ▸ hc)]

/-- The loop to the newline stays in the line just if the line has one. -/
theorem seek_newline (line t : List Char) (i : ℕ) :
    (seek (· = '\n') (line ++ '\x00' :: t) i).Below (i + line.length + 1) ↔ '\n' ∈ line := by
  refine ⟨fun h => ?_, fun h => ?_⟩
  · by_contra hnot
    have hpass : ∀ c ∈ line ++ ['\x00'], decide (c = '\n') = false :=
      List.forall_mem_append.2 ⟨fun c hc => decide_eq_false fun he => hnot (he ▸ hc), by simp⟩
    rw [List.append_cons] at h
    have hlt := seek_beyond hpass h
    rw [List.length_append] at hlt
    exact absurd hlt (lt_irrefl _)
  · obtain ⟨a, b, rfl, ha⟩ := List.eq_append_cons_of_mem h
    rw [List.append_assoc, List.cons_append]
    refine seek_below (by simp) (fun c hc => decide_eq_false fun he => ha (he ▸ hc)) ?_
    rw [List.length_append]
    omega

theorem seek_newline_from {line : List Char} {i : ℕ} (hi : i ≤ line.length + 1) (t : List Char) :
    (seek (· = '\n') ((line ++ '\x00' :: t).drop i) i).Below (line.length + 1)
      ↔ '\n' ∈ line.drop i := by
  obtain hle | rfl := Nat.le_succ_iff.1 hi
  · have hlen : i + (line.drop i).length + 1 = line.length + 1 := by
      rw [List.length_drop]
      omega
    rw [List.drop_append_of_le_length hle, ← hlen]
    exact seek_newline _ t i
  · rw [List.drop_eq_nil_of_le (Nat.le_succ _)]
    refine iff_of_false (fun h => ?_) List.not_mem_nil
    exact absurd (seek_beyond (a := []) (List.forall_mem_nil _) h) (lt_irrefl _)

theorem seek_sep_none {line : List Char} (h : valueAt sep line = none) (t : List Char) (i : ℕ) :
    ∃ k, (seek (fun c => c = sep || c = '\x00') (line ++ '\x00' :: t) i).val = some (i + k)
      ∧ (line ++ '\x00' :: t)[k]? = some '\x00' := by
  obtain ⟨w, hw⟩ := null_split line t
  rw [hw]
  refine ⟨_, seek_val (by simp) fun c hc => ?_, by simp⟩
  simp [ne_null_of_mem hc, show c ≠ sep from fun he => valueAt_none.1 h (he ▸ hc)]

theorem seek_sep_some (hsep : sep ≠ '\x00') {line : List Char} {k : ℕ}
    (h : valueAt sep line = some k) (t : List Char) (i : ℕ) :
    (seek (fun c => c = sep || c = '\x00') (line ++ '\x00' :: t) i).val = some (i + k)
      ∧ (line ++ '\x00' :: t)[k]? = some sep := by
  have hmem : sep ∈ line.takeWhile (· ≠ '\x00') := not_not.1 fun hnot => by
    rw [valueAt_none.2 hnot] at h
    cases h
  obtain ⟨a, b, rfl, ha⟩ := sep_split hmem
  obtain rfl := Option.some.inj ((valueAt_append hsep ha).symm.trans h)
  rw [List.append_assoc, List.cons_append]
  exact ⟨seek_val (by simp) fun c hc => by simp [ha c hc], by simp⟩

/-- What `strchr` finds in a line, without leaving it. -/
theorem strchr_line (hsep : sep ≠ '\x00') (line t : List Char) (i : ℕ) :
    (strchr sep (line ++ '\x00' :: t) i).Below (i + line.length + 1)
      ∧ (strchr sep (line ++ '\x00' :: t) i).val = (valueAt sep line).map (i + ·) := by
  refine ⟨Reads.below_bind.2 ⟨seek_sep sep line t i, ?_⟩, ?_⟩
  · split <;> exact Reads.below_pure _ _
  cases h : valueAt sep line with
  | none =>
    obtain ⟨k, hval, hat⟩ := seek_sep_none h t i
    simp [strchr, hval, hat, Ne.symm hsep]
  | some k =>
    obtain ⟨hval, hat⟩ := seek_sep_some hsep h t i
    simp [strchr, hval, hat]

theorem strchr_from (hsep : sep ≠ '\x00') {line : List Char} {i : ℕ} (hi : i ≤ line.length)
    (t : List Char) :
    (strchr sep ((line ++ '\x00' :: t).drop i) i).Below (line.length + 1)
      ∧ (strchr sep ((line ++ '\x00' :: t).drop i) i).val
        = (valueAt sep (line.drop i)).map (i + ·) := by
  have hlen : i + (line.drop i).length + 1 = line.length + 1 := by
    rw [List.length_drop]
    omega
  rw [List.drop_append_of_le_length hi, ← hlen]
  exact strchr_line hsep _ t i

end Line

/-! ## The passes -/

section Scans

variable {item line : List Char} (hitem : '\x00' ∉ item) (t name : List Char)

theorem strncmpEq_line (hitem : '\x00' ∉ item) :
    strncmpEq (line ++ '\x00' :: t) item item.length = true ↔ item <+: line :=
  strncmpEq_iff.trans (prefix_stop hitem)

include hitem

/-- A line that is not the item's, or has no colon. -/
theorem cpuInfoScan_other (h : item <+: line → valueAt ':' line = none) :
    (cpuInfoScan item (line ++ '\x00' :: t) name).val = .other
      ∧ (cpuInfoScan item (line ++ '\x00' :: t) name).Below (line.length + 1) := by
  by_cases hpre : item <+: line
  · obtain ⟨k, hval, hat⟩ := seek_sep_none (h hpre) t 0
    have hbelow := seek_sep ':' line t 0
    rw [Nat.zero_add] at hval hbelow
    simp [cpuInfoScan, (strncmpEq_line t hitem).2 hpre, hval, hat, hbelow]
  · simp [cpuInfoScan, Bool.eq_false_iff.2 (mt (strncmpEq_line t hitem).1 hpre)]

theorem cpuInfoScan_value (h : item <+: line) {i : ℕ} (hi : valueAt ':' line = some i) :
    (cpuInfoScan item (line ++ '\x00' :: t) name).val ≠ .other
      ∧ ((cpuInfoScan item (line ++ '\x00' :: t) name).Below (line.length + 1)
        ↔ '\n' ∈ line.drop (i + 2)) := by
  obtain ⟨hval, hat⟩ := seek_sep_some (by decide) hi t 0
  have hbelow := seek_sep ':' line t 0
  rw [Nat.zero_add] at hval hbelow
  have hline := seek_newline_from (Nat.succ_le_succ (valueAt_lt hi)) t
  rw [cpuInfoScan, (strncmpEq_line t hitem).2 h, if_neg (by decide), Reads.val_bind,
    Reads.below_bind, hval]
  dsimp only
  rw [if_neg (not_not.2 hat), Reads.val_bind, Reads.below_bind, ← hline]
  cases hq : (seek (· = '\n') ((line ++ '\x00' :: t).drop (i + 2)) (i + 2)).val with
  | none => simp [hbelow]
  | some n =>
    refine ⟨by simp, fun h => h.2.1, fun h => ⟨hbelow, h, Reads.below_bind.2 ⟨?_, ?_⟩⟩⟩
    · exact below_touch.2 (seek_val_lt hq h)
    · exact Reads.below_pure _ _

theorem osReleaseScan_other (h : ¬ item <+: line) :
    osReleaseScan item (line ++ '\x00' :: t) name = pure .other := by
  rw [osReleaseScan, Bool.eq_false_iff.2 (mt (strncmpEq_line t hitem).1 h)]
  rfl

/-- The line of the item, whose value is quoted or ends with the line. -/
theorem osReleaseScan_value (h : item <+: line) :
    (osReleaseScan item (line ++ '\x00' :: t) name).val ≠ .other
      ∧ ((osReleaseScan item (line ++ '\x00' :: t) name).Below (line.length + 1)
        ↔ ∃ i ∈ valueAt '=' line, (valueAt '\x22' (line.drop (i + 1))).isSome
          ∨ '\n' ∈ line.drop (i + 1)) := by
  obtain ⟨hbelow, hval⟩ := strchr_from (show '=' ≠ '\x00' by decide) (Nat.zero_le line.length) t
  rw [List.drop_zero] at hbelow
  rw [List.drop_zero, List.drop_zero] at hval
  rw [osReleaseScan, (strncmpEq_line t hitem).2 h, if_neg (by decide), Reads.val_bind,
    Reads.below_bind, hval]
  cases hi : valueAt '=' line with
  | none => simp [below_touch]
  | some i =>
    obtain ⟨hbelow', hval'⟩ := strchr_from (show '\x22' ≠ '\x00' by decide)
      (Nat.succ_le_of_lt (valueAt_lt hi)) t
    have hline := seek_newline_from (Nat.le_succ_of_le (Nat.succ_le_of_lt (valueAt_lt hi))) t
    simp only [Option.map_some, Nat.zero_add, Reads.val_bind, Reads.below_bind, hval']
    cases hj : valueAt '\x22' (line.drop (i + 1)) with
    | none =>
      simp only [Option.map_none, Reads.val_bind, Reads.below_bind]
      cases hq : (seek (· = '\n') ((line ++ '\x00' :: t).drop (i + 1)) (i + 1)).val with
      | none => simp [hj, hbelow, hbelow', ← hline]
      | some n =>
        refine ⟨by simp, fun h => ⟨i, rfl, .inr (hline.1 h.2.2.1)⟩, ?_⟩
        rintro ⟨_, ⟨⟩, hquote | hend⟩
        · rw [hj] at hquote
          cases hquote
        · have hseek := hline.2 hend
          refine ⟨hbelow, hbelow', hseek, Reads.below_bind.2 ⟨?_, Reads.below_pure _ _⟩⟩
          exact below_touch.2 (seek_val_lt hq hseek)
    | some j =>
      have hj' : i + 1 + j + 1 ≤ line.length := by
        have hlt := valueAt_lt hj
        rw [List.length_drop] at hlt
        omega
      obtain ⟨hbelow₂, hval₂⟩ := strchr_from (show '\x22' ≠ '\x00' by decide) hj' t
      simp only [Option.map_some, Reads.val_bind, Reads.below_bind, hval₂]
      cases hk : valueAt '\x22' (line.drop (i + 1 + j + 1)) with
      | none => simp [hj, hbelow, hbelow', hbelow₂]
      | some k =>
        have hlt := valueAt_lt hk
        rw [List.length_drop] at hlt
        have hk' : i + 1 + j + 1 + k < line.length + 1 := by omega
        simp [hj, hbelow, hbelow', hbelow₂, below_touch, hk']

end Scans

section Runs

/-- A pass, and the passes after it if the loop goes on. -/
theorem forall_passes {p : Pass} {c : Prop} [Decidable c] {f g : ℕ → List Pass}
    (hzero : f 0 = []) (hsucc : ∀ n, f (n + 1) = p :: if c then g n else []) :
    (∀ n, ∀ q ∈ f n, q.Inside) ↔ p.Inside ∧ (c → ∀ n, ∀ q ∈ g n, q.Inside) := by
  refine ⟨fun h => ⟨?_, fun hc n q hq => ?_⟩, fun h n q hq => ?_⟩
  · exact h 1 p (by rw [hsucc]; exact List.mem_cons_self)
  · refine h (n + 1) q ?_
    rw [hsucc, if_pos hc]
    exact List.mem_cons_of_mem _ hq
  · cases n with
    | zero =>
      rw [hzero] at hq
      cases hq
    | succ n =>
      rw [hsucc, List.mem_cons] at hq
      obtain rfl | hq := hq
      · exact h.1
      · split_ifs at hq with hc
        · exact h.2 hc n q hq
        · cases hq

/-- No pass of the loop leaves its line. -/
def CpuInfoInside (item : List Char) (fp : File) (size : ℕ) (buf name : List Char) : Prop :=
  ∀ fuel, ∀ p ∈ cpuInfoPasses item fuel fp size buf name, p.Inside

def OsReleaseInside (type : List Char) (fp : File) (buf name : List Char) : Prop :=
  ∀ fuel, ∀ p ∈ osReleasePasses type fuel fp buf name, p.Inside

variable {item : List Char} {fp fp' : File} {size : ℕ} {buf name : List Char}

theorem cpuInfoInside_eof (h : fp.eof = true) : CpuInfoInside item fp size buf name := by
  rintro (_ | fuel) p hp
  · cases hp
  · rw [cpuInfoPasses, if_pos h] at hp
    cases hp

theorem osReleaseInside_eof (h : fp.eof = true) : OsReleaseInside item fp buf name := by
  rintro (_ | fuel) p hp
  · cases hp
  · rw [osReleasePasses, if_pos h] at hp
    cases hp

theorem cpuInfoInside_step (heof : ¬ fp.eof = true) {line : Option (List Char)}
    (hfgets : fgets 1024 fp = (line, fp')) {body : Reads CpuInfoLine}
    (hbody : cpuInfoScan item (line.elim buf (overlay · buf)) name = body) :
    CpuInfoInside item fp size buf name ↔ body.Below (line.elim size (·.length + 1))
      ∧ (body.val = .other → CpuInfoInside item fp' (line.elim size (·.length + 1))
        (line.elim buf (overlay · buf)) name) :=
  forall_passes (p := ⟨line.elim size (·.length + 1), body⟩)
    (f := fun n => cpuInfoPasses item n fp size buf name) rfl fun n => by
    rw [cpuInfoPasses, if_neg heof, hfgets]
    dsimp only
    rw [hbody]

theorem osReleaseInside_step (heof : ¬ fp.eof = true) {line : List Char}
    (hfgets : fgets 100 fp = (some line, fp')) {body : Reads CpuInfoLine}
    (hbody : osReleaseScan item (overlay line buf) name = body) :
    OsReleaseInside item fp buf name ↔ body.Below (line.length + 1)
      ∧ (body.val = .other → OsReleaseInside item fp' (overlay line buf) name) :=
  forall_passes (p := ⟨line.length + 1, body⟩)
    (f := fun n => osReleasePasses item n fp buf name) rfl fun n => by
    rw [osReleasePasses, if_neg heof, hfgets]
    dsimp only
    rw [hbody]

theorem osReleaseInside_none (hfgets : fgets 100 fp = (none, fp')) :
    OsReleaseInside item fp buf name := by
  rintro (_ | fuel) p hp
  · cases hp
  · rw [osReleasePasses, hfgets] at hp
    split_ifs at hp <;> cases hp

/-- A line in which `parseCpuInfo` finds the item and its colon. -/
def HasColon (item line : List Char) : Prop := item <+: line ∧ (valueAt ':' line).isSome

instance (item line : List Char) : Decidable (HasColon item line) := instDecidableAnd

theorem cpuInfoInside_iff (hitem : '\x00' ∉ item) : ∀ {n : ℕ} {fp : File}, fp.rest.length < n →
    fp.bad = false → fp.Ended → ∀ (size : ℕ) (buf : List Char),
    (CpuInfoInside item fp size buf name ↔
      (fp.eof = false → fp.pieces 1024 = [] → (cpuInfoScan item buf name).Below size)
        ∧ ∀ line ∈ (fp.pieces 1024).find? (HasColon item), ∀ i ∈ valueAt ':' line,
          '\n' ∈ line.drop (i + 2))
  | n + 1, fp, hn, hbad, hended, size, buf => by
    by_cases heof : fp.eof = true
    · rw [pieces_nil (hended heof)]
      simp [cpuInfoInside_eof heof, heof]
    obtain ⟨line, fp', hfgets⟩ : ∃ line fp', fgets 1024 fp = (line, fp') := ⟨_, _, rfl⟩
    rw [cpuInfoInside_step heof hfgets rfl]
    cases line with
    | none =>
      have heof' := ((fgets_fails (by omega) hfgets).2 hbad).1
      rw [pieces_none hfgets]
      simp [cpuInfoInside_eof heof', heof]
    | some line =>
      have hless := length_rest_of_fgets hfgets
      obtain ⟨hbad', hended', -⟩ := fgets_cases hfgets
      have ih := cpuInfoInside_iff hitem (n := n) (by omega) (hbad'.trans hbad) (hended' hended)
        (line.length + 1) (overlay line buf)
      rw [pieces_some hfgets, List.find?_cons]
      by_cases hcolon : HasColon item line
      · obtain ⟨i, hi⟩ := Option.isSome_iff_exists.1 hcolon.2
        obtain ⟨hval, hbelow⟩ := cpuInfoScan_value hitem (buf.drop (line.length + 1)) name
          hcolon.1 hi
        simp [hcolon, hi, hval, hbelow, overlay]
      · obtain ⟨hval, hbelow⟩ : (cpuInfoScan item (overlay line buf) name).val = .other
            ∧ (cpuInfoScan item (overlay line buf) name).Below (line.length + 1) :=
          cpuInfoScan_other hitem _ name fun hpre => by
            simpa [HasColon, hpre] using hcolon
        simpa [hcolon, hval, hbelow] using ih

theorem osReleaseInside_iff (hitem : '\x00' ∉ item) : ∀ {n : ℕ} {fp : File}, fp.rest.length < n →
    fp.Ended → ∀ (buf : List Char),
    (OsReleaseInside item fp buf name ↔
      ∀ line ∈ (fp.pieces 100).find? (item <+: ·), ∃ i ∈ valueAt '=' line,
        (valueAt '\x22' (line.drop (i + 1))).isSome ∨ '\n' ∈ line.drop (i + 1))
  | n + 1, fp, hn, hended, buf => by
    by_cases heof : fp.eof = true
    · rw [pieces_nil (hended heof)]
      exact iff_of_true (osReleaseInside_eof heof) fun _ h => nomatch h
    obtain ⟨line, fp', hfgets⟩ : ∃ line fp', fgets 100 fp = (line, fp') := ⟨_, _, rfl⟩
    cases line with
    | none =>
      rw [pieces_none hfgets]
      exact iff_of_true (osReleaseInside_none hfgets) fun _ h => nomatch h
    | some line =>
      have hless := length_rest_of_fgets hfgets
      have hended' := (fgets_cases hfgets).2.1 hended
      rw [pieces_some hfgets, List.find?_cons, osReleaseInside_step heof hfgets rfl]
      by_cases hpre : item <+: line
      · obtain ⟨hval, hbelow⟩ := osReleaseScan_value hitem (buf.drop (line.length + 1)) name hpre
        simp [hpre, hval, hbelow, overlay]
      · have hother : osReleaseScan item (overlay line buf) name = pure .other :=
          osReleaseScan_other hitem _ name hpre
        simpa [hpre, hother] using osReleaseInside_iff hitem (n := n) (by omega) hended' _

/-! ### The calls -/

/-- The positions are those of the model of the loop's body. -/
theorem cpuInfoScan_val (item buf name : List Char) :
    (cpuInfoScan item buf name).val = cpuInfoLine item buf name := by
  unfold cpuInfoScan cpuInfoLine
  split_ifs
  · rfl
  rw [Reads.val_bind, seek_findIdx]
  cases buf.findIdx? (fun c => c = ':' || c = '\x00') with
  | none => rfl
  | some i =>
    simp only [Option.map_some, Nat.zero_add]
    split_ifs
    · rfl
    rw [Reads.val_bind, seek_findIdx]
    cases (buf.drop (i + 2)).findIdx? (· = '\n') with
    | none => rfl
    | some n =>
      simp only [Option.map_some, Reads.val_bind, Reads.val_pure, Nat.add_sub_cancel_left]

/-- A search that ends behind the buffer has left the line. -/
theorem seek_behind {p : Char → Bool} {buf : List Char} {i : ℕ}
    (h : (seek p (buf.drop i) i).val = none) : ¬ (seek p (buf.drop i) i).Below buf.length :=
  fun hbelow => seek_none h (hbelow.mono (by rw [List.length_drop]; omega))

theorem cpuInfoScan_outside {item buf name : List Char}
    (h : (cpuInfoScan item buf name).val = .outside) :
    ¬ (cpuInfoScan item buf name).Below buf.length := by
  unfold cpuInfoScan at h ⊢
  split_ifs at h ⊢
  rw [Reads.val_bind] at h
  rw [Reads.below_bind]
  cases hp : (seek (fun c => c = ':' || c = '\x00') buf 0).val with
  | none => exact fun hbelow => seek_behind (i := 0) hp hbelow.1
  | some i =>
    rw [hp] at h
    dsimp only at h ⊢
    split_ifs at h ⊢
    rw [Reads.val_bind] at h
    rw [Reads.below_bind]
    cases hq : (seek (· = '\n') (buf.drop (i + 2)) (i + 2)).val with
    | none => exact fun hbelow => seek_behind hq hbelow.2.1
    | some n =>
      rw [hq] at h
      cases h

theorem osReleaseScan_outside {type buf name : List Char}
    (h : (osReleaseScan type buf name).val = .outside) :
    ¬ (osReleaseScan type buf name).Below buf.length := by
  unfold osReleaseScan at h ⊢
  split_ifs at h ⊢
  rw [Reads.val_bind] at h
  rw [Reads.below_bind]
  cases hp : (strchr '=' buf 0).val with
  | none => exact fun hbelow => lt_irrefl _ (below_touch.1 (Reads.below_bind.1 hbelow.2).1)
  | some i =>
    rw [hp] at h
    dsimp only at h ⊢
    rw [Reads.val_bind] at h
    rw [Reads.below_bind]
    cases hm : (strchr '\x22' (buf.drop (i + 1)) (i + 1)).val with
    | none =>
      rw [hm] at h
      dsimp only at h ⊢
      rw [Reads.val_bind] at h
      rw [Reads.below_bind]
      cases hq : (seek (· = '\n') (buf.drop (i + 1)) (i + 1)).val with
      | none => exact fun hbelow => seek_behind hq hbelow.2.2.1
      | some n =>
        rw [hq] at h
        cases h
    | some j =>
      rw [hm] at h
      dsimp only at h
      rw [Reads.val_bind] at h
      split at h <;> cases h

theorem length_overlay (line buf : List Char) : line.length + 1 ≤ (overlay line buf).length := by
  simp only [overlay, List.length_append, List.length_cons]
  omega

/-- If no pass leaves its line, the loop ends with a value or a status. -/
theorem cpuInfoLoop_inside : ∀ {fuel : ℕ} {fp : File} {size : ℕ} {buf : List Char},
    CpuInfoInside item fp size buf name → size ≤ buf.length →
    cpuInfoLoop item fuel fp buf name ≠ .outside
  | 0, _, _, _, _, _ => by simp [cpuInfoLoop]
  | fuel + 1, fp, size, buf, h, hsize => by
    rw [cpuInfoLoop]
    split_ifs with heof
    · simp
    obtain ⟨line, fp', hfgets⟩ : ∃ line fp', fgets 1024 fp = (line, fp') := ⟨_, _, rfl⟩
    obtain ⟨hbelow, hlater⟩ := (cpuInfoInside_step heof hfgets rfl).1 h
    have hsize' : line.elim size (·.length + 1) ≤ (line.elim buf (overlay · buf)).length := by
      cases line with
      | none => exact hsize
      | some line => exact length_overlay line buf
    rw [hfgets]
    dsimp only
    rw [← cpuInfoScan_val]
    split
    · next hval => exact cpuInfoLoop_inside (hlater hval) hsize'
    · simp
    · next hval => exact absurd (hbelow.mono hsize') (cpuInfoScan_outside hval)

theorem osReleaseLoop_inside : ∀ {fuel : ℕ} {fp : File} {buf : List Char},
    OsReleaseInside item fp buf name → osReleaseLoop item fuel fp buf name ≠ .outside
  | 0, _, _, _ => by simp [osReleaseLoop]
  | fuel + 1, fp, buf, h => by
    rw [osReleaseLoop]
    split_ifs with heof
    · simp
    split
    · simp
    · next line fp' hfgets =>
      obtain ⟨hbelow, hlater⟩ := (osReleaseInside_step heof hfgets rfl).1 h
      dsimp only
      split
      · next hval => exact osReleaseLoop_inside (hlater hval)
      · simp
      · next hval =>
        exact absurd (hbelow.mono (length_overlay line buf)) (osReleaseScan_outside hval)

theorem parseCpuInfo_inside {item : String} {fuel : ℕ} {cpuInfo : Option File}
    (h : ∀ fp ∈ cpuInfo, CpuInfoInside item.toList fp 0 buf name) :
    parseCpuInfo fuel cpuInfo buf item name ≠ .outside := by
  cases cpuInfo with
  | none => simp [parseCpuInfo]
  | some fp => exact cpuInfoLoop_inside (h fp rfl) (Nat.zero_le _)

theorem getOSReleaseInfo_inside {type : String} {fuel : ℕ} {osRelease : Option File}
    (h : ∀ fp ∈ osRelease, OsReleaseInside type.toList fp (List.replicate 100 '\x00') name) :
    getOSReleaseInfo fuel osRelease type name ≠ .outside := by
  cases osRelease with
  | none => simp [getOSReleaseInfo]
  | some fp => exact osReleaseLoop_inside (h fp rfl)

/-! ### Any content -/

theorem pieces_eq_nil {size : ℕ} (hs : 2 ≤ size) {text : List Char} :
    File.pieces size ⟨text, false, false⟩ = [] ↔ text = [] := by
  refine ⟨fun h => ?_, fun h => pieces_nil h⟩
  obtain ⟨line, fp', hfgets⟩ : ∃ line fp', fgets size ⟨text, false, false⟩ = (line, fp') :=
    ⟨_, _, rfl⟩
  cases line with
  | none => exact ((fgets_fails hs hfgets).2 rfl).2
  | some line =>
    rw [pieces_some hfgets] at h
    cases h

/-- Before any line is read, a search reads what was in the buffer. -/
theorem cpuInfoScan_unread : (cpuInfoScan item buf name).Below 0 ↔ ¬ item <+: buf := by
  by_cases h : item <+: buf
  · refine iff_of_false (fun hbelow => ?_) (not_not.2 h)
    rw [cpuInfoScan, strncmpEq_iff.2 h, if_neg (by decide), Reads.below_bind] at hbelow
    exact absurd (seek_beyond (a := []) (List.forall_mem_nil _) hbelow.1) (Nat.not_lt_zero _)
  · rw [cpuInfoScan, Bool.eq_false_iff.2 (mt strncmpEq_iff.1 h), if_pos (by decide)]
    exact iff_of_true (Reads.below_pure _ _) h

end Runs

/-- For every content: `cpuinfo`'s first line of the item with a colon needs a newline behind the
character after it, and `os-release`'s first line of the key an `=` with a quote or a newline
behind it. -/
theorem valueScans_inside {item type : List Char} (hitem : '\x00' ∉ item) (htype : '\x00' ∉ type)
    (cpuInfo osRelease buf name osName : List Char) :
    ((∀ fuel, ∀ p ∈ cpuInfoPasses item fuel ⟨cpuInfo, false, false⟩ 0 buf name, p.Inside)
      ↔ (cpuInfo = [] → ¬ item <+: buf)
        ∧ ∀ line ∈ (File.pieces 1024 ⟨cpuInfo, false, false⟩).find? (HasColon item),
          ∀ i ∈ valueAt ':' line, '\n' ∈ line.drop (i + 2))
    ∧ ((∀ fuel, ∀ p ∈ osReleasePasses type fuel ⟨osRelease, false, false⟩
          (List.replicate 100 '\x00') osName, p.Inside)
      ↔ ∀ line ∈ (File.pieces 100 ⟨osRelease, false, false⟩).find? (type <+: ·),
          ∃ i ∈ valueAt '=' line, (valueAt '\x22' (line.drop (i + 1))).isSome
            ∨ '\n' ∈ line.drop (i + 1)) := by
  have hopen : ∀ {text : List Char}, File.Ended ⟨text, false, false⟩ := fun h =>
    absurd h Bool.false_ne_true
  refine ⟨(cpuInfoInside_iff hitem (Nat.lt_succ_self _) rfl hopen 0 buf).trans ?_,
    osReleaseInside_iff htype (Nat.lt_succ_self _) hopen _⟩
  rw [pieces_eq_nil (by omega), cpuInfoScan_unread, forall_prop_of_true rfl]

theorem valueScans_inside_ended :
    (∀ fuel, ∀ p ∈ cpuInfoPasses "siblings".toList fuel
      ⟨"model\nsiblings\t: 8\n".toList, false, false⟩ 0 [] [], p.Inside)
    ∧ ∀ fuel, ∀ p ∈ osReleasePasses "PRETTY_NAME".toList fuel
      ⟨"NAME=Arch\nPRETTY_NAME=\"Arch Linux\"".toList, false, false⟩ (List.replicate 100 '\x00') [],
      p.Inside :=
  have h := @valueScans_inside "siblings".toList "PRETTY_NAME".toList (by decide) (by decide)
    "model\nsiblings\t: 8\n".toList
    "NAME=Arch\nPRETTY_NAME=\"Arch Linux\"".toList [] [] []
  ⟨h.1.2 (by decide), h.2.2 (by decide)⟩

/-- An item with an empty value, and a last line without a newline. -/
theorem valueScans_outside :
    ¬ (∀ fuel, ∀ p ∈ cpuInfoPasses "siblings".toList fuel
      ⟨"siblings\t:\n".toList, false, false⟩ 0 (List.replicate 1024 '\x00') [], p.Inside)
    ∧ ¬ ∀ fuel, ∀ p ∈ osReleasePasses "PRETTY_NAME".toList fuel
      ⟨"PRETTY_NAME=Arch".toList, false, false⟩ (List.replicate 100 '\x00') [], p.Inside := by
  refine ⟨fun h => ?_, fun h => ?_⟩
  · have hline := (cpuInfoInside_iff (by decide) (Nat.lt_succ_self _) rfl
      (fun h => absurd h Bool.false_ne_true) 0 _).1 h
    exact absurd hline.2 (by decide)
  · have hline := (osReleaseInside_iff (by decide) (Nat.lt_succ_self _)
      (fun h => absurd h Bool.false_ne_true) _).1 h
    exact absurd hline (by decide)

end Amdtop
