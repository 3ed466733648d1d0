import Amdtop.AtomTables

/-!
# The reads of the VBIOS image

Nothing but the signature is checked, so the reads stay inside the image, and the tables found lie
in it, just if every offset on the way points inside (`atom_tables_inside_iff`).
-/

namespace Amdtop

open Heap Reads

/-- It is found without a read outside the image, and its header is in the image. -/
def TableInside (table : Reads ℕ) (len : ℕ) : Prop :=
  table.Below len ∧ table.val + commonTableHeaderSize ≤ len

/-- Both functions find a table at every index of their lists. -/
def ListsInside (image : Block UInt8) (behind : ℕ → UInt8) (atombios : Atombios) (len : ℕ) : Prop :=
  (∀ i < dataTableCount, TableInside (atombiosGetDataById image behind atombios i) len)
    ∧ ∀ i < commandFunctionCount, TableInside (atombiosGetFuncById image behind atombios i) len

/-- The status of `atombios_init`, its reads, and those of the functions that find a table later. -/
structure ImageInside (image : Block UInt8) (behind : ℕ → UInt8) (len : UInt32)
    (r : Reads (ℤ × Atombios)) : Prop where
  ret : r.val.1 = -einval ∨ r.val.1 = 0
  init : r.Below len.toNat
  romheader : r.val.1 = 0 → TableInside (atombiosGetRomheader image behind) len.toNat
  lists : r.val.1 = 0 → ListsInside image behind r.val.2 len.toNat

theorem imageInside_congr {image : Block UInt8} {behind : ℕ → UInt8} {len : UInt32}
    {r r' : Reads (ℤ × Atombios)} (hval : r.val = r'.val)
    (hbelow : r.Below len.toNat ↔ r'.Below len.toNat) :
    ImageInside image behind len r ↔ ImageInside image behind len r' := by
  constructor <;> rintro ⟨hret, hinit, hrom, hlists⟩
  · exact ⟨hval ▸ hret, hbelow.1 hinit, hval ▸ hrom, hval ▸ hlists⟩
  · exact ⟨hval ▸ hret, hbelow.2 hinit, hval ▸ hrom, hval ▸ hlists⟩

/-! ## The condition -/

section Fits

variable (image : Block UInt8)

/-- The number in the image at an offset, for an offset inside. -/
def halfAt (offset : ℕ) : ℕ := imageHalf image (fun _ => 0) offset

/-- The entry at an offset is in the image, and so is the header it points to. -/
def EntryFits (offset : ℕ) : Prop :=
  offset + 2 ≤ image.data.length ∧ halfAt image offset + commonTableHeaderSize ≤ image.data.length

/-- Every offset from the header pointer to the entries of both lists points inside. -/
def ChainFits : Prop :=
  let len := image.data.length
  let rom := halfAt image offsetToAtomRomHeaderPointer
  let data := halfAt image (rom + masterdatatableOffset)
  let function := halfAt image (rom + masterhwfunctionOffset)
  offsetToAtomRomHeaderPointer + 2 ≤ len ∧ rom + masterdatatableOffset + 2 ≤ len
    ∧ (∀ i < dataTableCount, EntryFits image (data + commonTableHeaderSize + 2 * i))
    ∧ ∀ i < commandFunctionCount, EntryFits image (function + commonTableHeaderSize + 2 * i)

/-- A byte of the image that is not the signature's. -/
def Refused : Prop :=
  (∃ b, image.data[0]? = some b ∧ b ≠ 0x55) ∨ ∃ b, image.data[1]? = some b ∧ b ≠ 0xaa

/-- It is empty, or refused for a byte it has, or the whole chain is in it. -/
def ImageFits : Prop := image.data = [] ∨ Refused image ∨ ChainFits image

end Fits

/-! ## Single reads -/

@[simp] theorem readByte_val (image : Block UInt8) (behind : ℕ → UInt8) (offset : ℕ) :
    (readByte image behind offset).val = imageByte image behind offset := rfl

@[simp] theorem readHalf_val (image : Block UInt8) (behind : ℕ → UInt8) (offset : ℕ) :
    (readHalf image behind offset).val = imageHalf image behind offset := rfl

section Read

variable {image : Block UInt8} (behind : ℕ → UInt8) {offset : ℕ}

theorem imageByte_eq (h : offset < image.data.length) (behind' : ℕ → UInt8) :
    imageByte image behind offset = imageByte image behind' offset := by
  rw [imageByte, imageByte, List.getElem?_eq_getElem h]
  rfl

theorem imageHalf_eq (h : offset + 2 ≤ image.data.length) :
    imageHalf image behind offset = halfAt image offset := by
  unfold halfAt imageHalf
  rw [imageByte_eq behind (by omega) fun _ => 0, imageByte_eq behind (by omega) fun _ => 0]

theorem readByte_below {len : ℕ} : (readByte image behind offset).Below len ↔ offset < len := by
  simp only [Below, readByte, List.mem_singleton, forall_eq]

theorem readHalf_below {len : ℕ} :
    (readHalf image behind offset).Below len ↔ offset + 2 ≤ len := by
  simp only [Below, readHalf, List.mem_cons, List.not_mem_nil, or_false, forall_eq_or_imp, forall_eq]
  omega

theorem tableInside_entry {index : ℕ} :
    TableInside (readEntry image behind offset index) image.data.length
      ↔ EntryFits image (offset + commonTableHeaderSize + 2 * index) := by
  unfold TableInside EntryFits readEntry
  rw [readHalf_below]
  refine and_congr_right fun h => ?_
  rw [← imageHalf_eq behind h]
  exact Iff.rfl

end Read

/-! ## The signature -/

section Signature

variable {image : Block UInt8} (behind : ℕ → UInt8)

theorem readSignature_below {n : ℕ} : (readSignature image behind).Below n
    ↔ 0 < n ∧ (imageByte image behind 0 = 0x55 → 1 < n) := by
  unfold readSignature
  rw [below_bind, readByte_below]
  refine and_congr_right fun _ => ?_
  by_cases h : imageByte image behind 0 = 0x55
  · simp [h, readByte_below]
  · simp [h]

theorem readSignature_refused (hpos : 0 < image.data.length) (h : Refused image) :
    (readSignature image behind).val = false
      ∧ (readSignature image behind).Below image.data.length := by
  rw [readSignature_below]
  unfold readSignature
  rcases h with ⟨b, hb, hne⟩ | ⟨b, hb, hne⟩
  · have hbyte : imageByte image behind 0 = b := by rw [imageByte, hb, Option.getD_some]
    rw [hbyte]
    exact ⟨by simp [hbyte, hne], hpos, fun h => absurd h hne⟩
  · have hbyte : imageByte image behind 1 = b := by rw [imageByte, hb, Option.getD_some]
    have hlt : 1 < image.data.length := (List.getElem?_eq_some_iff.1 hb).1
    refine ⟨?_, hpos, fun _ => hlt⟩
    by_cases h0 : imageByte image behind 0 = 0x55
    · simp [h0, hbyte, hne]
    · simp [h0]

/-- An image that is not refused has the signature, or ends within it. -/
theorem readSignature_accepted (hpos : 0 < image.data.length) (h : ¬ Refused image) :
    imageByte image behind 0 = 0x55
      ∧ (1 < image.data.length → (readSignature image behind).val = true) := by
  simp only [Refused, not_or, not_exists, not_and, not_not] at h
  have h0 : imageByte image behind 0 = 0x55 := by
    rw [imageByte, List.getElem?_eq_getElem hpos, Option.getD_some]
    exact h.1 _ (List.getElem?_eq_getElem hpos)
  refine ⟨h0, fun hlt => ?_⟩
  have h1 : imageByte image behind 1 = 0xaa := by
    rw [imageByte, List.getElem?_eq_getElem hlt, Option.getD_some]
    exact h.2 _ (List.getElem?_eq_getElem hlt)
  simp [readSignature, h0, h1]

end Signature

/-! ## The chain -/

section Chain

variable {image : Block UInt8} (behind : ℕ → UInt8) {len : UInt32} (atombios : Atombios)

/-- What is left of `atombios_init` once the signature is right. -/
def initTables (image : Block UInt8) (behind : ℕ → UInt8) (len : UInt32) : Reads (ℤ × Atombios) := do
  let romHeader ← atombiosGetRomheader image behind
  let dataOffset ← readHalf image behind (romHeader + masterdatatableOffset)
  let functionOffset ← readHalf image behind (romHeader + masterhwfunctionOffset)
  pure (0, { image := some image, len, dataOffset, functionOffset })

theorem atombiosInitReads_eq (hlen : len ≠ 0) : atombiosInitReads image behind len atombios
    = (do
      let atomBios ← readSignature image behind
      if !atomBios then pure (-einval, atombios) else initTables image behind len) := by
  rw [atombiosInitReads, if_neg hlen]
  rfl

theorem atombiosInitReads_refused (hlen : len ≠ 0) (h : image.data.length = len.toNat)
    (href : Refused image) : (atombiosInitReads image behind len atombios).val.1 = -einval
      ∧ (atombiosInitReads image behind len atombios).Below len.toNat := by
  have hpos : 0 < image.data.length := by
    rw [h]
    exact Nat.pos_of_ne_zero fun h0 => hlen (UInt32.toNat_inj.1 h0)
  obtain ⟨hval, hbelow⟩ := readSignature_refused behind hpos href
  rw [atombiosInitReads_eq behind atombios hlen, Reads.val_bind, below_bind, hval, ← h]
  exact ⟨rfl, hbelow, below_pure _ _⟩

theorem initTables_below : (initTables image behind len).Below image.data.length
    ↔ offsetToAtomRomHeaderPointer + 2 ≤ image.data.length
      ∧ halfAt image offsetToAtomRomHeaderPointer + masterdatatableOffset + 2
        ≤ image.data.length := by
  unfold initTables atombiosGetRomheader
  rw [below_bind, readHalf_below]
  refine and_congr_right fun h => ?_
  rw [below_bind, below_bind, readHalf_below, readHalf_below, readHalf_val, imageHalf_eq behind h]
  simp only [below_pure, and_true]
  unfold masterdatatableOffset masterhwfunctionOffset
  omega

theorem initTables_val (h : offsetToAtomRomHeaderPointer + 2 ≤ image.data.length
      ∧ halfAt image offsetToAtomRomHeaderPointer + masterdatatableOffset + 2
        ≤ image.data.length) :
    (initTables image behind len).val.2.dataOffset = halfAt image
        (halfAt image offsetToAtomRomHeaderPointer + masterdatatableOffset)
      ∧ (initTables image behind len).val.2.functionOffset = halfAt image
        (halfAt image offsetToAtomRomHeaderPointer + masterhwfunctionOffset) := by
  have hfunction : halfAt image offsetToAtomRomHeaderPointer + masterhwfunctionOffset + 2
      ≤ image.data.length := by
    have := h.2
    unfold masterdatatableOffset at this
    unfold masterhwfunctionOffset
    omega
  rw [← imageHalf_eq behind h.2, ← imageHalf_eq behind hfunction, ← imageHalf_eq behind h.1]
  exact ⟨rfl, rfl⟩

/-- Past the signature, everything is inside just if the chain is. -/
theorem imageInside_tables (hlen : image.data.length = len.toNat) :
    ImageInside image behind len (initTables image behind len) ↔ ChainFits image := by
  unfold ChainFits
  dsimp only
  constructor
  · intro h
    have hinit := h.init
    rw [← hlen, initTables_below] at hinit
    have hlists := h.lists rfl
    unfold ListsInside atombiosGetDataById atombiosGetFuncById at hlists
    rw [(initTables_val behind hinit).1, (initTables_val behind hinit).2, ← hlen] at hlists
    simp only [tableInside_entry] at hlists
    exact ⟨hinit.1, hinit.2, hlists⟩
  · rintro ⟨hpointer, hheader, hlists⟩
    refine ⟨Or.inr rfl, ?_, fun _ => ⟨?_, ?_⟩, fun _ => ?_⟩
    · rw [← hlen, initTables_below]
      exact ⟨hpointer, hheader⟩
    · rw [← hlen]
      exact (readHalf_below behind).2 hpointer
    · rw [← hlen, atombiosGetRomheader, readHalf_val, imageHalf_eq behind hpointer]
      unfold masterdatatableOffset at hheader
      unfold commonTableHeaderSize
      omega
    · unfold ListsInside atombiosGetDataById atombiosGetFuncById
      rw [(initTables_val behind ⟨hpointer, hheader⟩).1,
        (initTables_val behind ⟨hpointer, hheader⟩).2, ← hlen]
      simp only [tableInside_entry]
      exact hlists

end Chain

/-- `atombios_init` and the functions behind it stay inside the image exactly if it fits. -/
theorem atom_tables_inside_iff (image : Block UInt8) (behind : ℕ → UInt8) (len : UInt32)
    (atombios : Atombios) (hlen : image.data.length = len.toNat) :
    ImageInside image behind len (atombiosInitReads image behind len atombios)
      ↔ ImageFits image := by
  have hne : -einval ≠ 0 := by decide
  unfold ImageFits
  by_cases hzero : len = 0
  · have hnil : image.data = [] := List.length_eq_zero_iff.1 (by rw [hlen, hzero]; rfl)
    rw [atombiosInitReads, if_pos hzero]
    exact iff_of_true ⟨Or.inl rfl, below_pure _ _, fun h => absurd h hne, fun h => absurd h hne⟩
      (Or.inl hnil)
  have hpos : 0 < image.data.length := by
    rw [hlen]
    exact Nat.pos_of_ne_zero fun h0 => hzero (UInt32.toNat_inj.1 h0)
  rw [or_iff_right (List.ne_nil_of_length_pos hpos)]
  by_cases href : Refused image
  · obtain ⟨hret, hbelow⟩ := atombiosInitReads_refused behind atombios hzero hlen href
    refine iff_of_true ⟨Or.inl hret, hbelow, fun h => ?_, fun h => ?_⟩ (Or.inl href)
    · exact absurd (hret ▸ h) hne
    · exact absurd (hret ▸ h) hne
  rw [or_iff_right href, atombiosInitReads_eq behind atombios hzero]
  obtain ⟨hfirst, hsig⟩ := readSignature_accepted behind hpos href
  by_cases hone : 1 < image.data.length
  · have hbelow : (readSignature image behind).Below len.toNat := by
      rw [← hlen, readSignature_below]
      exact ⟨hpos, fun _ => hone⟩
    rw [← imageInside_tables behind hlen]
    refine imageInside_congr ?_ ?_
    · rw [Reads.val_bind, hsig hone]
      rfl
    · rw [below_bind, and_iff_right hbelow, hsig hone]
      exact Iff.rfl
  · refine iff_of_false (fun h => ?_) fun h => ?_
    · have hbelow := (below_bind.1 h.init).1
      rw [readSignature_below, ← hlen] at hbelow
      exact hone (hbelow.2 hfirst)
    · have := h.1
      unfold offsetToAtomRomHeaderPointer at this
      omega

section Example

def biosImage (data : List UInt8) : Block UInt8 := ⟨0, 1, data⟩

/-- The header pointer, the header behind it, the two lists, and one table that every entry points
to. -/
def tablesImage : Block UInt8 :=
  biosImage ([0x55, 0xaa] ++ List.replicate 70 0 ++ [0x4a, 0]
    ++ List.replicate 30 0 ++ [0xb6, 0, 0x6c, 0]
    ++ List.replicate commonTableHeaderSize 0 ++ (List.replicate dataTableCount [0x5c, 1]).flatten
    ++ List.replicate commonTableHeaderSize 0
    ++ (List.replicate commandFunctionCount [0x5c, 1]).flatten
    ++ List.replicate commonTableHeaderSize 0)

theorem tablesImage_fits : ChainFits tablesImage := by
  unfold ChainFits EntryFits
  decide +kernel

theorem atom_tables_inside_iff_chain : ChainFits tablesImage ∧
    ImageInside tablesImage (fun _ => 0xff) 352
      (atombiosInitReads tablesImage (fun _ => 0xff) 352 {}) :=
  ⟨tablesImage_fits,
    (atom_tables_inside_iff tablesImage (fun _ => 0xff) 352 {} (by decide +kernel)).2
      (Or.inr (Or.inr tablesImage_fits))⟩

/-- An image with no more than the signature. -/
theorem atom_tables_outside : (biosImage [0x55, 0xaa]).data.length = (2 : UInt32).toNat ∧
    ¬ ImageInside (biosImage [0x55, 0xaa]) (fun _ => 0) 2
        (atombiosInitReads (biosImage [0x55, 0xaa]) (fun _ => 0) 2 {}) := by
  refine ⟨rfl, fun h => ?_⟩
  have hpointer : offsetToAtomRomHeaderPointer < 2 := h.init offsetToAtomRomHeaderPointer (by decide)
  exact absurd hpointer (by decide)

end Example

end Amdtop
