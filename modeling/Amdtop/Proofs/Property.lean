import Amdtop.Proofs.ModeResource

/-!
# The entries of a property

Enumerations and blobs share the kernel's fields. Each branch of `propertyEntries` has one lemma
for the case that its arrays could be had and one for the case that one is missing.
-/

namespace Amdtop

open Heap

theorem copyOut_none {α : Type*} (l : List α) (count : ℕ) :
    Ptr.copyOut none l count = none := by
  unfold Ptr.copyOut
  split_ifs <;> rfl

/-! ## The kernel's arrays -/

def DrmModeGetProperty.need (c : DrmModeGetProperty) : ℕ :=
  used c.countValues + ((if isEnum c.flags then used c.countEnumBlobs else 0)
    + if isBlob c.flags then used c.countEnumBlobs + used c.countEnumBlobs else 0)

def DrmModeGetProperty.ids (c : DrmModeGetProperty) : Multiset ℕ :=
  c.valuesPtr.ids + c.enumBlobPtr.ids

theorem blobTemps_keep {ok : ℕ → Bool} {c : DrmModeGetProperty} {m : Ledger}
    (h : c.countEnumBlobs = 0 ∨ isBlob c.flags = false) : blobTemps ok c m = (true, c, m) := by
  unfold blobTemps
  rw [if_neg]
  rcases h with h | h <;> simp [h]

theorem blobTemps_blob {c : DrmModeGetProperty} (hn : c.countEnumBlobs ≠ 0)
    (hb : isBlob c.flags = true) (ok : ℕ → Bool) (m : Ledger) :
    blobTemps ok c m =
      let p := callocFor ok 4 c.countEnumBlobs (.u32 0) m
      let q := callocFor ok 4 c.countEnumBlobs (.u32 0) p.2
      (!(lost c.countEnumBlobs p.1 || lost c.countEnumBlobs q.1),
        { c with valuesPtr := p.1, enumBlobPtr := q.1 }, q.2) := by
  simp [blobTemps, callocFor, lost, hn, hb]

theorem blobTemps_fst (ok : ℕ → Bool) (c : DrmModeGetProperty) (m : Ledger) :
    (blobTemps ok c m).1 = true ↔ AllocOk ok m.calls
      (if isBlob c.flags then used c.countEnumBlobs + used c.countEnumBlobs else 0) := by
  by_cases hn : c.countEnumBlobs = 0
  · rw [blobTemps_keep (Or.inl hn)]
    simp [hn, used, allocOk_zero]
  rcases hb : isBlob c.flags with _ | _
  · rw [blobTemps_keep (Or.inr hb)]
    simp [allocOk_zero]
  · rw [blobTemps_blob hn hb]
    simp only [Bool.not_eq_true', Bool.or_eq_false_iff, lost_callocFor, callocFor_calls, if_true,
      allocOk_add]

theorem propertyTemps_fst (ok : ℕ → Bool) (c : DrmModeGetProperty) (m : Ledger) :
    (propertyTemps ok c m).1 = true ↔ AllocOk ok m.calls c.need := by
  unfold propertyTemps DrmModeGetProperty.need
  dsimp only
  rw [jump_iff rfl]
  rcases he : isEnum c.flags with _ | _
  · simp only [Bool.false_eq_true, if_false, blobTemps_fst, lost_callocFor, callocFor_calls,
      allocOk_add, Nat.zero_add]
  · rw [if_pos rfl, jump_iff rfl]
    simp only [if_true, blobTemps_fst, lost_callocFor, callocFor_calls, allocOk_add]

/-- The arrays for `c`, and those that the blobs' have taken the place of. -/
structure PropertyTemps (c c' : DrmModeGetProperty) (m m' : Ledger) : Prop where
  flags : c'.flags = c.flags
  countValues : c'.countValues = c.countValues
  countEnumBlobs : c'.countEnumBlobs = c.countEnumBlobs
  values : isBlob c.flags = false → c'.valuesPtr.cells.length = c.countValues
  enums : isEnum c.flags = true → isBlob c.flags = false →
    c'.enumBlobPtr.cells.length = c.countEnumBlobs
  blobs : isBlob c.flags = true → c.countEnumBlobs ≠ 0 →
    c'.valuesPtr.cells.length = c.countEnumBlobs ∧ c'.enumBlobPtr.cells.length = c.countEnumBlobs
  calls : m'.calls = m.calls + c.need
  owned : ∃ gone, ∀ {live}, Owned m live → Owned m' (c'.ids + (gone + live))

/-- Up to the blobs' arrays. -/
theorem propertyTemps_enum {ok : ℕ → Bool} {c : DrmModeGetProperty} {m : Ledger}
    (hnull : c.enumBlobPtr = none)
    (h : AllocOk ok m.calls
      (used c.countValues + if isEnum c.flags then used c.countEnumBlobs else 0)) :
    ∃ p m1 q m2, Got 8 c.countValues (.u64 0) m p m1
      ∧ Got 40 (if isEnum c.flags then c.countEnumBlobs else 0) (.enum 0 []) m1 q m2
      ∧ propertyTemps ok c m = blobTemps ok { c with valuesPtr := p, enumBlobPtr := q } m2 := by
  rw [allocOk_add] at h
  obtain ⟨p, m1, e1, g1⟩ := callocFor_got 8 c.countValues (PropCell.u64 0) h.1
  refine ⟨p, m1, ?_⟩
  unfold propertyTemps
  dsimp only
  rw [e1]
  dsimp only
  rw [if_neg (ne_true_of_eq_false g1.there)]
  rcases he : isEnum c.flags with _ | _
  · obtain ⟨q, m2, e2, g2⟩ := callocFor_got 40 0 (PropCell.enum 0 []) (allocOk_zero ok m1.calls)
    obtain ⟨rfl, rfl⟩ := Prod.mk.inj e2
    exact ⟨_, _, g1, g2, by rw [← hnull]; rfl⟩
  · rw [he, if_pos rfl, ← g1.calls] at h
    obtain ⟨q, m2, e2, g2⟩ := callocFor_got 40 c.countEnumBlobs (PropCell.enum 0 []) h.2
    refine ⟨q, m2, g1, g2, ?_⟩
    rw [if_pos rfl, e2]
    dsimp only
    rw [if_neg (ne_true_of_eq_false g2.there)]

theorem propertyTemps_ok {ok : ℕ → Bool} {c : DrmModeGetProperty} {m : Ledger}
    (hnull : c.enumBlobPtr = none) (h : AllocOk ok m.calls c.need) :
    ∃ c' m', propertyTemps ok c m = (true, c', m') ∧ PropertyTemps c c' m m' := by
  rw [DrmModeGetProperty.need, ← Nat.add_assoc, allocOk_add] at h
  obtain ⟨p, m1, q, m2, g1, g2, hrun⟩ := propertyTemps_enum hnull h.1
  have hcalls : m2.calls = m.calls
      + (used c.countValues + if isEnum c.flags then used c.countEnumBlobs else 0) := by
    rw [g2.calls, g1.calls, Nat.add_assoc]
    rcases isEnum c.flags <;> rfl
  by_cases hkeep : c.countEnumBlobs = 0 ∨ isBlob c.flags = false
  · refine ⟨_, _, hrun.trans (blobTemps_keep hkeep), rfl, rfl, rfl, fun _ => g1.length,
      fun he _ => ?_, fun hb hn => ?_, ?_, 0, fun hm => ?_⟩
    · simpa [he] using g2.length
    · rcases hkeep with h0 | h0
      · exact absurd h0 hn
      · exact absurd hb (by simp [h0])
    · rw [hcalls, DrmModeGetProperty.need]
      rcases hkeep with h0 | h0 <;> simp [h0, used]
    · convert g2.owned (g1.owned hm) using 1
      simp only [DrmModeGetProperty.ids]
      abel
  · obtain ⟨hn, hb⟩ := not_or.1 hkeep
    rw [Bool.not_eq_false] at hb
    have h2 := h.2
    rw [hb, if_pos rfl, ← hcalls, allocOk_add] at h2
    obtain ⟨v, m3, e3, g3⟩ := callocFor_got 4 c.countEnumBlobs (PropCell.u32 0) h2.1
    obtain ⟨b, m4, e4, g4⟩ := callocFor_got 4 c.countEnumBlobs (PropCell.u32 0)
      (g3.calls ▸ h2.2)
    refine ⟨{ c with valuesPtr := v, enumBlobPtr := b }, m4, ?_, rfl, rfl, rfl,
      fun h0 => absurd hb (by simp [h0]), fun _ h0 => absurd hb (by simp [h0]),
      fun _ _ => ⟨g3.length, g4.length⟩, ?_, p.ids + q.ids, fun hm => ?_⟩
    · refine hrun.trans ((blobTemps_blob
        (c := { c with valuesPtr := p, enumBlobPtr := q }) hn hb ok m2).trans ?_)
      simp only [e3, e4, g3.there, g4.there, Bool.or_self, Bool.not_false]
    · rw [g4.calls, g3.calls, hcalls, DrmModeGetProperty.need, hb, if_pos rfl]
      omega
    · convert g4.owned (g3.owned (g2.owned (g1.owned hm))) using 1
      simp only [DrmModeGetProperty.ids]
      abel

theorem ids_property_ioctl (s : PropertyState) (c : DrmModeGetProperty) :
    (s.ioctl c).ids = c.ids := by
  simp only [PropertyState.ioctl, DrmModeGetProperty.ids]
  split_ifs <;> simp only [ids_copyOut]

theorem owned_freeProperty {c : DrmModeGetProperty} {m : Ledger} {live : Multiset ℕ}
    (h : Owned m (c.ids + live)) : Owned (c.free m) live := by
  unfold DrmModeGetProperty.free
  refine Owned.free (Owned.free ?_)
  convert h using 1
  rw [DrmModeGetProperty.ids]
  abel

/-! ## The object's arrays -/

/-- A copy for which the call is made whatever the count. -/
theorem calloc_memcpy (w n : ℕ) (z : PropCell) (src : Ptr PropCell) {ok : ℕ → Bool} {m : Ledger}
    (h : ok m.calls = true) :
    ∃ b m1 p m2, calloc ok w n z m = (some b, m1) ∧ memcpy n (some b) src m1 = (p, m2)
      ∧ p.isNone = false ∧ Copied w n src p ∧ m2.calls = m.calls + 1
      ∧ ∀ {live}, Owned m live → Owned m2 (p.ids + live) := by
  obtain ⟨b, m1, e, hcalls, -, hown⟩ := calloc_some w n z h
  have hb : b = ⟨m.calls, w, List.replicate n z⟩ := by
    rw [calloc, if_pos h] at e
    exact (Option.some.inj (Prod.mk.inj e).1).symm
  refine ⟨b, m1, (memcpy n (some b) src m1).1, (memcpy n (some b) src m1).2, e, rfl,
    memcpy_isNone n (some b) src m1, memcpy_copied src m1 ?_ ?_ ?_, ?_, fun hm => ?_⟩
  · simp [lost]
  · simp [hb, Ptr.cells]
  · simp [hb, Ptr.size]
  · rw [memcpy_calls, hcalls]
  · rw [ids_memcpy]
    exact (hown hm).memcpy n _ src

section Entries

variable {ok : ℕ → Bool} {c : DrmModeGetProperty} (prop : GpuProp) {m : Ledger}

theorem propertyEntries_enum (he : isEnum c.flags = true) (h : ok m.calls = true) :
    ∃ enums m', propertyEntries ok c prop m
        = ({ prop with countEnums := c.countEnumBlobs, enums := enums }, m')
      ∧ enums.isNone = false ∧ Copied 40 c.countEnumBlobs c.enumBlobPtr enums
      ∧ ∀ {live}, Owned m live → Owned m' (enums.ids + live) := by
  obtain ⟨b, m1, p, m2, e1, e2, hp, hcopied, -, hown⟩ :=
    calloc_memcpy 40 c.countEnumBlobs (.enum 0 []) c.enumBlobPtr h
  exact ⟨p, m2, by simp only [propertyEntries, he, if_true, e1, e2], hp, hcopied, hown⟩

theorem propertyEntries_enum_lost (he : isEnum c.flags = true) (h : ok m.calls = false) :
    (propertyEntries ok c prop m).1.enums.isNone = true := by
  simp only [propertyEntries, he, if_true, memcpy_isNone, calloc_isNone, h, Bool.not_false]

variable (ok m) in
theorem propertyEntries_enum_blobIds (he : isEnum c.flags = true) :
    (propertyEntries ok c prop m).1.blobIds = prop.blobIds := by
  simp only [propertyEntries, he, if_true]

theorem propertyEntries_blob (he : isEnum c.flags = false) (hb : isBlob c.flags = true)
    (h : AllocOk ok m.calls 2) :
    ∃ values blobIds m', propertyEntries ok c prop m
        = ({ prop with countBlobs := c.countEnumBlobs, values := values, blobIds := blobIds }, m')
      ∧ values.isNone = false ∧ blobIds.isNone = false
      ∧ Copied 4 c.countEnumBlobs c.valuesPtr values
      ∧ Copied 4 c.countEnumBlobs c.enumBlobPtr blobIds
      ∧ ∀ {live}, Owned m live → Owned m' (values.ids + (blobIds.ids + live)) := by
  obtain ⟨h1, h2⟩ := (allocOk_add (j := 1) (k := 1)).1 h
  obtain ⟨b1, m1, p1, m2, e1, e2, hp1, hcopied1, hcalls, hown1⟩ :=
    calloc_memcpy 4 c.countEnumBlobs (.u32 0) c.valuesPtr (allocOk_one.1 h1)
  obtain ⟨b2, m3, p2, m4, e3, e4, hp2, hcopied2, -, hown2⟩ :=
    calloc_memcpy 4 c.countEnumBlobs (.u32 0) c.enumBlobPtr (hcalls ▸ allocOk_one.1 h2)
  refine ⟨p1, p2, m4, ?_, hp1, hp2, hcopied1, hcopied2, fun hm => ?_⟩
  · simp only [propertyEntries, he, hb, Bool.false_eq_true, if_false, if_true, e1, e2, e3, e4]
  · rw [add_left_comm]
    exact hown2 (hown1 hm)

theorem propertyEntries_blob_lost (he : isEnum c.flags = false) (hb : isBlob c.flags = true)
    (h : ¬ AllocOk ok m.calls 2) :
    ((propertyEntries ok c prop m).1.values.isNone
      || (propertyEntries ok c prop m).1.blobIds.isNone) = true := by
  rw [show (2 : ℕ) = 1 + 1 from rfl, allocOk_add, allocOk_one, allocOk_one] at h
  simp only [propertyEntries, he, hb, Bool.false_eq_true, if_false, if_true, memcpy_isNone,
    calloc_isNone, memcpy_calls, calloc_calls]
  rcases hok : ok m.calls with _ | _
  · rfl
  · rw [Bool.eq_false_iff.2 fun h1 => h ⟨hok, h1⟩]
    rfl

variable (ok m) in
theorem propertyEntries_neither (he : isEnum c.flags = false) (hb : isBlob c.flags = false) :
    propertyEntries ok c prop m = (prop, m) := by
  simp only [propertyEntries, he, hb, Bool.false_eq_true, if_false]

end Entries

end Amdtop
