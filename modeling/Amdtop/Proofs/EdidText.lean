import Amdtop.EdidText
import Amdtop.Proofs.ByteString
import Amdtop.Proofs.DisplayInfo

/-!
# The names in an EDID are read right

The copy takes one byte more than the descriptor has; the line feed or the last terminator cuts it
off again (`cString_edidGetBytes`).
-/

namespace Amdtop

open Stdio

/-! ## The readers -/

theorem length_monitorData (edid : List UInt8) (i n : ℕ) : (monitorData edid i n).length = n := by
  simp [monitorData]

/-- What the copy leaves: at most 14 bytes of text, then nulls. -/
theorem strncpyBytes_cleared {src : List UInt8} (hsrc : src.length = descriptorStringSize) :
    (strncpyBytes clearedName src descriptorStringSize).takeWhile (· ≠ 0) = src.takeWhile (· ≠ 0)
      ∧ (strncpyBytes clearedName src descriptorStringSize).length = maxNameSize := by
  have htake : src.take descriptorStringSize = src := List.take_of_length_le hsrc.le
  have hlen : (src.takeWhile (· ≠ 0)).length ≤ descriptorStringSize :=
    hsrc ▸ (List.takeWhile_prefix _).length_le
  unfold strncpyBytes clearedName
  simp only [htake]
  constructor
  · rw [List.drop_replicate, List.append_assoc, ← List.replicate_add]
    exact takeWhile_nulls (fun b hb => by simpa using List.mem_takeWhile_imp hb) _
  · simp only [List.length_append, List.length_replicate, List.drop_replicate]
    have : descriptorStringSize ≤ maxNameSize := by decide
    omega

theorem descriptorBytes_eq (edid : List UInt8) (i : ℕ) :
    descriptorBytes edid i = (((monitorData edid i descriptorStringSize).takeWhile
      (· ≠ 0)).takeWhile (· ≠ newline)).take (descriptorStringSize - 1) := by
  have hdata : (monitorData edid i descriptorStringSize).take 13 = monitorData edid i 13 :=
    monitorData_succ edid i 13
  have hsize : descriptorStringSize - 1 = 13 := rfl
  rw [hsize, List.take_takeWhile, List.take_takeWhile, hdata, List.takeWhile_takeWhile]
  unfold descriptorBytes
  congr 1
  funext b
  simp [Bool.and_comm]

/-- The bytes of the string that a slot with the tag leaves. -/
theorem edidGetBytes_some {tag : UInt8} {edid : List UInt8} {i : ℕ}
    (h : findDescriptor tag edid = some i) :
    ∃ buf, edidGetBytes tag edid clearedName = (0, buf)
      ∧ buf.takeWhile (· ≠ 0) = descriptorBytes edid i ∧ 0 ∈ buf.take descriptorStringSize := by
  have hsize : descriptorStringSize = 14 := rfl
  have hroom : descriptorStringSize ≤ maxNameSize := by decide
  obtain ⟨htext, hlen⟩ := strncpyBytes_cleared (length_monitorData edid i descriptorStringSize)
  have hshort : ((monitorData edid i descriptorStringSize).takeWhile (· ≠ 0)).length
      ≤ descriptorStringSize := by
    conv_rhs => rw [← length_monitorData edid i descriptorStringSize]
    exact (List.takeWhile_prefix _).length_le
  unfold edidGetBytes
  simp only [h]
  rcases hp : strchr (strncpyBytes clearedName (monitorData edid i descriptorStringSize)
    descriptorStringSize) newline with _ | p
  · have hline := strchr_none hp
    rw [htext] at hline
    refine ⟨_, rfl, ?_, mem_take_set_null (by omega) (by omega)⟩
    rw [takeWhile_set_null _ (by omega), htext, descriptorBytes_eq, hline]
  · -- The line feed stands among the 14 bytes copied, so at most 13 are before it.
    obtain ⟨hline, hlt⟩ := strchr_some hp
    rw [htext] at hline hlt
    refine ⟨_, rfl, ?_, mem_take_set_null (by omega) (by omega)⟩
    rw [takeWhile_set_null _ (by omega), htext, descriptorBytes_eq, ← hline]
    exact (List.take_of_length_le (by rw [List.length_take]; omega)).symm

/-! ## The slots -/

theorem findDescriptor_some {tag : UInt8} {edid : List UInt8} {i : ℕ} :
    findDescriptor tag edid = some i ↔ FirstTagged tag edid i := by
  unfold findDescriptor FirstTagged Tagged
  rw [List.find?_range_eq_some]
  simp only [Bool.and_eq_true, decide_eq_true_eq, Bool.not_eq_true', Bool.and_eq_false_iff,
    decide_eq_false_iff_not, List.mem_range, not_and_or, Bool.not_eq_true]
  tauto

theorem findDescriptor_none {tag : UInt8} {edid : List UInt8} :
    findDescriptor tag edid = none ↔ ¬ ∃ i < detailedTimingsCount, Tagged tag edid i := by
  unfold findDescriptor Tagged
  simp [List.find?_eq_none]

theorem exists_firstTagged {tag : UInt8} {edid : List UInt8}
    (h : ∃ i < detailedTimingsCount, Tagged tag edid i) : ∃ i, FirstTagged tag edid i := by
  rcases hfind : findDescriptor tag edid with _ | i
  · exact absurd h (findDescriptor_none.1 hfind)
  · exact ⟨i, findDescriptor_some.1 hfind⟩

section Next

variable (edid : List UInt8) (i : ℕ) (b : UInt8)

theorem edidByte_set {k offset : ℕ} (h : offset ≠ k) :
    edidByte (edid.set k b) offset = edidByte edid offset := by
  unfold edidByte
  rw [List.getElem?_set_ne (Ne.symm h)]

/-- The byte behind a slot is none of that slot or of one before it. -/
theorem tagged_set (tag : UInt8) {j : ℕ} (hj : j ≤ i) :
    Tagged tag (edid.set (detailedTimingOffset i + 18) b) j ↔ Tagged tag edid j := by
  have hbyte : ∀ k < 18, edidByte (edid.set (detailedTimingOffset i + 18) b)
      (detailedTimingOffset j + k) = edidByte edid (detailedTimingOffset j + k) := fun k hk =>
    edidByte_set edid b (by unfold detailedTimingOffset; omega)
  have h0 : edidByte (edid.set (detailedTimingOffset i + 18) b) (detailedTimingOffset j)
      = edidByte edid (detailedTimingOffset j) := hbyte 0 (by omega)
  unfold Tagged isMonitorDescriptor monitorTag edidHalf
  rw [h0, hbyte 1 (by omega), hbyte 2 (by omega), hbyte 3 (by omega), hbyte 4 (by omega)]

theorem firstTagged_set (tag : UInt8) :
    FirstTagged tag (edid.set (detailedTimingOffset i + 18) b) i ↔ FirstTagged tag edid i := by
  unfold FirstTagged
  rw [tagged_set edid i b tag le_rfl]
  refine and_congr_right fun _ => and_congr_right fun _ => forall₂_congr fun j hj => ?_
  rw [tagged_set edid i b tag hj.le]

theorem descriptorBytes_set :
    descriptorBytes (edid.set (detailedTimingOffset i + 18) b) i = descriptorBytes edid i := by
  unfold descriptorBytes monitorData
  congr 1
  refine List.map_congr_left fun k hk => edidByte_set edid b ?_
  rw [List.mem_range] at hk
  omega

end Next

/-! ## The two readers -/

theorem edidGetBytes_of_first {tag : UInt8} {edid : List UInt8} {i : ℕ}
    (h : FirstTagged tag edid i) :
    (edidGetBytes tag edid clearedName).1 = 0
      ∧ cString (edidGetBytes tag edid clearedName).2 = some (descriptorBytes edid i)
      ∧ 0 ∈ (edidGetBytes tag edid clearedName).2.take descriptorStringSize := by
  obtain ⟨buf, heq, htext, hend⟩ := edidGetBytes_some (findDescriptor_some.2 h)
  rw [heq]
  refine ⟨rfl, ?_, hend⟩
  unfold cString
  rw [if_pos (List.mem_of_mem_take hend), htext]

theorem edidGetBytes_missing {tag : UInt8} {edid : List UInt8}
    (h : ¬ ∃ i < detailedTimingsCount, Tagged tag edid i) (name : List UInt8) :
    edidGetBytes tag edid name = (-einval, name) := by
  unfold edidGetBytes
  rw [findDescriptor_none.2 h]

theorem readsText (tag : UInt8) (edid : List UInt8) : ReadsText tag (edidGetBytes tag) edid where
  found := by
    constructor
    · intro hret
      by_contra hnone
      rw [edidGetBytes_missing hnone] at hret
      exact absurd hret (by decide)
    · intro hsome
      obtain ⟨i, hi⟩ := exists_firstTagged hsome
      exact (edidGetBytes_of_first hi).1
  text := fun i hi => (edidGetBytes_of_first hi).2.1
  ends := by
    by_cases hsome : ∃ i < detailedTimingsCount, Tagged tag edid i
    · obtain ⟨i, hi⟩ := exists_firstTagged hsome
      exact (edidGetBytes_of_first hi).2.2
    · rw [edidGetBytes_missing hsome]
      decide
  missing := edidGetBytes_missing
  next := fun i hi b => by
    obtain ⟨hret, htext, -⟩ := edidGetBytes_of_first hi
    obtain ⟨hret', htext', -⟩ := edidGetBytes_of_first ((firstTagged_set edid i b tag).2 hi)
    exact ⟨by rw [hret, hret'], by rw [htext, htext', descriptorBytes_set]⟩

/-- For every EDID, read from a cleared buffer: the name and the serial number are those of the
first slot with the tag. -/
theorem edidGetMonitorName_edidGetSerialNumber (edid : List UInt8) :
    ReadsText tagMonitorName edidGetMonitorNameBytes edid
      ∧ ReadsText tagSerialNumber edidGetSerialNumberBytes edid :=
  ⟨readsText tagMonitorName edid, readsText tagSerialNumber edid⟩

theorem byteChar_eq_newline (b : UInt8) : byteChar b = '\n' ↔ b = newline := by
  constructor
  · intro h
    have hnat := congrArg Char.toNat h
    have hvalid : b.toNat.isValidChar := Or.inl (lt_trans b.toNat_lt (by decide))
    rw [byteChar, Char.ofNat, dif_pos hvalid] at hnat
    exact UInt8.toNat_inj.1 hnat
  · rintro rfl
    rfl

/-- The text that the Display tab works with is that of the bytes. -/
theorem edidGetText_of_bytes (tag : UInt8) (edid : List UInt8) :
    edidGetText tag edid [] = ((edidGetBytes tag edid clearedName).1,
      ((edidGetBytes tag edid clearedName).2.takeWhile (· ≠ 0)).map byteChar) := by
  rw [edidGetText_nil, descriptorText]
  rcases hfind : findDescriptor tag edid with _ | i
  · rw [edidGetBytes_missing (findDescriptor_none.1 hfind)]
    rfl
  · obtain ⟨buf, heq, htext, -⟩ := edidGetBytes_some hfind
    rw [heq, htext, descriptorBytes]
    simp only [Option.map_some, List.takeWhile_map, List.takeWhile_takeWhile, Function.comp_def,
      ne_eq, byteChar_eq_newline]
    congr 3
    funext b
    simp [Bool.and_comm]

end Amdtop
