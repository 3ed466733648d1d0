import Mathlib.Data.List.FinRange
import Amdtop.EdidBlock
import Amdtop.Proofs.DisplayInfo
import Amdtop.Proofs.EdidText
import Amdtop.Proofs.Stdio

/-!
# What is read back from an EDID

The three letters, the date and the texts that a vendor wrote come out of the block as they went in
(`parseEDIDInfo_monitor`), and `update_display_info` takes them over for each monitor up to the
first without a serial number (`update_display_info_monitors`).
-/

namespace Amdtop

open Heap Stdio

/-! ## Bits -/

/-- `w` bits from the `k`th on. -/
theorem and_mask_shiftRight (x k w : ℕ) :
    (x &&& (2 ^ w - 1) <<< k) >>> k = x / 2 ^ k % 2 ^ w := by
  rw [Nat.shiftRight_and_distrib, Nat.shiftLeft_shiftRight, Nat.and_two_pow_sub_one_eq_mod,
    Nat.shiftRight_eq_div_pow]

theorem toNat_half (low high : UInt8) :
    (low.toUInt16 ||| high.toUInt16 <<< 8).toNat = low.toNat + 256 * high.toNat := by
  have hlow : low.toNat < 2 ^ 8 := low.toNat_lt
  have hhigh : high.toNat < 2 ^ 8 := high.toNat_lt
  have hor : high.toNat <<< 8 + low.toNat = high.toNat <<< 8 ||| low.toNat :=
    Nat.shiftLeft_add_eq_or_of_lt hlow _
  have hfit : high.toNat <<< 8 < 2 ^ 16 := by
    rw [Nat.shiftLeft_eq]
    omega
  calc (low.toUInt16 ||| high.toUInt16 <<< 8).toNat
      = low.toNat ||| high.toNat <<< 8 % 2 ^ 16 := by
        rw [UInt16.toNat_or, UInt16.toNat_shiftLeft, UInt8.toNat_toUInt16, UInt8.toNat_toUInt16]
        rfl
    _ = high.toNat <<< 8 + low.toNat := by rw [Nat.mod_eq_of_lt hfit, hor, Nat.or_comm]
    _ = low.toNat + 256 * high.toNat := by
        rw [Nat.shiftLeft_eq]
        omega

/-- A half comes back from its two bytes. -/
theorem half_bytes (x : UInt16) :
    (x.toUInt8.toUInt16 ||| (x >>> 8).toUInt8.toUInt16 <<< 8) = x := by
  rw [← UInt16.toNat_inj, toNat_half, UInt16.toNat_toUInt8, UInt16.toNat_toUInt8,
    UInt16.toNat_shiftRight]
  have hx : x.toNat < 65536 := x.toNat_lt
  have hshift : x.toNat >>> ((8 : UInt16).toNat % 16) = x.toNat / 256 :=
    Nat.shiftRight_eq_div_pow _ 8
  rw [hshift]
  omega

/-! ## Letters -/

/-- The fields of the two bytes, of 5, 2, 3 and 5 bits, as a number. -/
theorem letter_fields {n low high : ℕ} (hn : n = low + 256 * high) (hlow : low < 256)
    (hhigh : high < 256) :
    n / 2 ^ 2 % 2 ^ 5 = low / 4 % 32 ∧ n % 2 ^ 2 = low % 4 ∧ n / 2 ^ 13 % 2 ^ 3 = high / 32
      ∧ n / 2 ^ 8 % 2 ^ 5 = high % 32 := by
  subst hn
  refine ⟨?_, ?_, ?_, ?_⟩ <;> omega

/-- The second letter has two bits of the first byte and three of the second. -/
theorem edidManufacturer_eq (edid : List UInt8) : edidManufacturer edid
    = [(edidByte edid 8).toNat / 4 % 32,
        (edidByte edid 8).toNat % 4 * 8 + (edidByte edid 9).toNat / 32,
        (edidByte edid 9).toNat % 32].map fun n => Char.ofNat (64 + n) := by
  have hlow : (edidByte edid 8).toNat < 256 := (edidByte edid 8).toNat_lt
  have hhigh : (edidByte edid 9).toNat < 256 := (edidByte edid 9).toNat_lt
  have hhalf : (edidHalf edid 8).toNat = (edidByte edid 8).toNat + 256 * (edidByte edid 9).toNat :=
    toNat_half _ _
  obtain ⟨ha, hq, hm, hc⟩ := letter_fields hhalf hlow hhigh
  unfold edidManufacturer
  set x := edidHalf edid 8
  set low := (edidByte edid 8).toNat
  set high := (edidByte edid 9).toNat
  have hfirst : ((x &&& 0x007c) >>> 2).toNat = low / 4 % 32 := by
    rw [UInt16.toNat_shiftRight, UInt16.toNat_and]
    exact (and_mask_shiftRight x.toNat 2 5).trans ha
  have hsecond : ((x &&& 0x0003) <<< 3 ||| (x &&& 0xe000) >>> 13).toNat
      = low % 4 * 8 + high / 32 := by
    have hhi : x.toNat &&& (3 : UInt16).toNat = low % 4 :=
      (Nat.and_two_pow_sub_one_eq_mod x.toNat 2).trans hq
    have hlo : (x.toNat &&& (0xe000 : UInt16).toNat) >>> ((13 : UInt16).toNat % 16) = high / 32 :=
      (and_mask_shiftRight x.toNat 13 3).trans hm
    have hfit : (low % 4) <<< ((3 : UInt16).toNat % 16) % 2 ^ 16 = (low % 4) <<< 3 := by
      refine Nat.mod_eq_of_lt ?_
      change (low % 4) <<< 3 < 2 ^ 16
      rw [Nat.shiftLeft_eq]
      omega
    have hlow3 : high / 32 < 2 ^ 3 := by omega
    rw [UInt16.toNat_or, UInt16.toNat_shiftRight, UInt16.toNat_shiftLeft, UInt16.toNat_and,
      UInt16.toNat_and, hhi, hlo, hfit, ← Nat.shiftLeft_add_eq_or_of_lt hlow3, Nat.shiftLeft_eq]
  have hthird : ((x &&& 0x1f00) >>> 8).toNat = high % 32 := by
    rw [UInt16.toNat_shiftRight, UInt16.toNat_and]
    exact (and_mask_shiftRight x.toNat 8 5).trans hc
  simp only [edidLetter, hfirst, hsecond, hthird, List.map_cons, List.map_nil]

theorem edidManufacturer_letters (a b c : Fin 32) {edid : List UInt8}
    (hlow : edidByte edid 8 = .ofNat (4 * a + b / 8))
    (hhigh : edidByte edid 9 = .ofNat (b % 8 * 32 + c)) :
    edidManufacturer edid = [EdidBlock.letter a, EdidBlock.letter b, EdidBlock.letter c] := by
  have hlow : (edidByte edid 8).toNat = 4 * a + b / 8 := by
    rw [hlow, UInt8.toNat_ofNat_of_lt' (by rw [UInt8.size]; omega)]
  have hhigh : (edidByte edid 9).toNat = b % 8 * 32 + c := by
    rw [hhigh, UInt8.toNat_ofNat_of_lt' (by rw [UInt8.size]; omega)]
  have hfirst : (edidByte edid 8).toNat / 4 % 32 = a := by omega
  have hsecond : (edidByte edid 8).toNat % 4 * 8 + (edidByte edid 9).toNat / 32 = b := by omega
  have hthird : (edidByte edid 9).toNat % 32 = c := by omega
  rw [edidManufacturer_eq, hfirst, hsecond, hthird]
  rfl

/-! ## Bytes -/

theorem edidByte_append (pre tail : List UInt8) (k : ℕ) :
    edidByte (pre ++ tail) (pre.length + k) = edidByte tail k := by
  rw [edidByte, List.getElem?_append_right (Nat.le_add_right _ _), Nat.add_sub_cancel_left]
  rfl

theorem edidByte_skip {n : ℕ} (pre : Octets n) (tail : List UInt8) (k : ℕ) :
    edidByte (pre.1 ++ tail) (n + k) = edidByte tail k := by
  rw [← edidByte_append pre.1 tail k, pre.2]

theorem edidByte_take {l : List UInt8} {k : ℕ} (h : k < l.length) (tail : List UInt8) :
    edidByte (l ++ tail) k = edidByte l k := by
  rw [edidByte, List.getElem?_append_left h]
  rfl

/-- Records of one length stand one behind the other. -/
theorem edidByte_records {α : Type*} {f : α → List UInt8} {n : ℕ} (hf : ∀ a, (f a).length = n)
    (tail : List UInt8) {k : ℕ} (hk : k < n) : ∀ {l : List α} {i : ℕ} {a : α}, l[i]? = some a →
      edidByte (l.flatMap f ++ tail) (n * i + k) = edidByte (f a) k
  | [], _, _, h => by cases h
  | b :: l, 0, _, h => by
    obtain rfl := Option.some.inj h
    rw [List.flatMap_cons, List.append_assoc, Nat.mul_zero, Nat.zero_add,
      edidByte_take ((hf b).symm ▸ hk)]
  | b :: l, i + 1, _, h => by
    have hskip := edidByte_append (f b) (l.flatMap f ++ tail) (n * i + k)
    rw [hf, ← Nat.add_assoc, Nat.add_comm n, ← Nat.mul_succ] at hskip
    rw [List.flatMap_cons, List.append_assoc, hskip]
    exact edidByte_records hf tail hk h

theorem map_edidByte {l : List UInt8} {n : ℕ} (h : l.length = n) :
    (List.range n).map (edidByte l) = l := by
  refine List.ext_getElem (by simp [h]) fun i hi hi' => ?_
  rw [List.getElem_map, List.getElem_range, edidByte, List.getElem?_eq_getElem hi']
  rfl

/-! ## Slots -/

theorem MonitorText.length_padded (t : MonitorText) : t.padded.length = 13 := by
  rw [MonitorText.padded, List.length_take, List.length_append, List.length_cons,
    List.length_replicate]
  omega

/-- The filling is not part of the text. -/
theorem MonitorText.text_padded (t : MonitorText) :
    ((t.padded.takeWhile (· ≠ 0)).map byteChar).takeWhile (· ≠ '\n') = t.chars := by
  have hzero : t.padded.takeWhile (· ≠ 0) = t.padded := by
    refine List.takeWhile_eq_self_iff.2 fun b hb => decide_eq_true ?_
    rcases List.mem_append.1 (List.mem_of_mem_take hb) with hb | hb
    · exact (t.plain b hb).1
    · rcases List.mem_cons.1 hb with rfl | hb
      · decide
      · rw [List.eq_of_mem_replicate hb]
        decide
  have hline : t.bytes.takeWhile (· ≠ newline) = t.bytes :=
    List.takeWhile_eq_self_iff.2 fun b hb => decide_eq_true (t.plain b hb).2
  have hstop (blanks : List UInt8) :
      (t.bytes ++ newline :: blanks).takeWhile (· ≠ newline) = t.bytes := by
    rw [(span_stop (by decide) t.bytes blanks).1, hline]
  have hchar : (fun c : Char => decide (c ≠ '\n')) ∘ byteChar = fun b => decide (b ≠ newline) := by
    funext b
    simp [byteChar_eq_newline]
  rw [hzero, List.takeWhile_map, hchar, MonitorText.padded, ← List.take_takeWhile, hstop,
    List.take_of_length_le t.fits]
  rfl

theorem DetailedSlot.length_bytes : ∀ s : DetailedSlot, s.bytes.length = 18
  | .timing _ _ rest => by rw [bytes, List.length_cons, List.length_cons, rest.2]
  | .text _ t => by simp only [bytes, List.length_cons, t.length_padded]
  | .data _ _ _ d => by simp only [bytes, List.length_cons, d.2]

/-- The descriptor text of a slot, as the loops find it. -/
theorem guard_slot {tag : UInt8} (htag : tag = tagMonitorName ∨ tag = tagSerialNumber)
    {s : DetailedSlot} {edid : List UInt8} {i : ℕ}
    (h : ∀ k < 18, edidByte edid (detailedTimingOffset i + k) = edidByte s.bytes k) :
    ((Option.guard (fun i => isMonitorDescriptor edid i && monitorTag edid i = tag) i).map fun i =>
        (((monitorData edid i 13).takeWhile (· ≠ 0)).map byteChar).takeWhile (· ≠ '\n'))
      = (s.text? tag).map MonitorText.chars := by
  have hhalf : edidHalf edid (detailedTimingOffset i)
      = (edidByte s.bytes 0).toUInt16 ||| (edidByte s.bytes 1).toUInt16 <<< 8 := by
    have h0 := h 0 (by decide)
    rw [Nat.add_zero] at h0
    rw [edidHalf, h0, h 1 (by decide)]
  have hkind : monitorTag edid i = edidByte s.bytes 3 := h 3 (by decide)
  rcases s with ⟨clock, running, rest⟩ | ⟨tag', t⟩ | ⟨tag', flag, untold, d⟩
  · have hrun : edidHalf edid (detailedTimingOffset i) = clock := hhalf.trans (half_bytes clock)
    have hno : isMonitorDescriptor edid i = false := by
      rw [isMonitorDescriptor, hrun, decide_eq_false running]
      rfl
    rw [Option.guard, hno]
    rfl
  · have hempty : edidHalf edid (detailedTimingOffset i) = 0 := hhalf.trans (half_bytes 0)
    have hyes : isMonitorDescriptor edid i = true := by
      rw [isMonitorDescriptor, hempty, h 2 (by decide), h 4 (by decide)]
      rfl
    have hdata : monitorData edid i 13 = t.padded := by
      refine Eq.trans (List.map_congr_left fun j hj => ?_) (map_edidByte t.length_padded)
      have hj' := List.mem_range.1 hj
      rw [Nat.add_assoc, h (5 + j) (by omega), Nat.add_comm]
      rfl
    have hkind' : monitorTag edid i = tag' := hkind
    rw [Option.guard, hyes, hkind', DetailedSlot.text?, Bool.true_and]
    by_cases hsame : tag' = tag
    · rw [if_pos hsame, if_pos (decide_eq_true hsame), Option.map_some, hdata, t.text_padded]
      rfl
    · rw [if_neg hsame, if_neg (by simpa using hsame)]
      rfl
  · have hother : tag' ≠ tag := by
      rintro rfl
      rcases htag with htag | htag
      · exact untold.1 htag
      · exact untold.2 htag
    have hkind' : monitorTag edid i = tag' := hkind
    rw [Option.guard, hkind', decide_eq_false hother, Bool.and_false]
    rfl

/-! ## The block -/

namespace EdidBlock

variable (e : EdidBlock)

theorem bytes_date (k : ℕ) : edidByte e.bytes (16 + k)
    = edidByte (e.dateBytes.1 ++ (e.features.1 ++ (e.slotBytes ++ e.rest))) k := by
  rw [show 16 + k = 8 + (2 + (6 + k)) by omega, bytes, edidByte_skip, edidByte_skip, edidByte_skip]

theorem bytes_slots (k : ℕ) :
    edidByte e.bytes (54 + k) = edidByte (e.slotBytes ++ e.rest) k := by
  rw [show 54 + k = 16 + (2 + (36 + k)) by omega, bytes_date, edidByte_skip, edidByte_skip]

theorem bytes_slot (i : Fin 4) (k : ℕ) (hk : k < 18) :
    edidByte e.bytes (detailedTimingOffset i + k) = edidByte (e.slots i).bytes k := by
  have hslot : (List.ofFn e.slots)[i.1]? = some (e.slots i) := by
    rw [List.getElem?_ofFn, dif_pos i.2]
  rw [detailedTimingOffset, Nat.add_assoc, bytes_slots]
  exact edidByte_records DetailedSlot.length_bytes e.rest hk hslot

/-- The letters and the date are the vendor's. -/
theorem edidManufacturer_bytes : edidManufacturer e.bytes = e.identity.manufacturer := by
  have hletters : ∀ k < 2, edidByte e.bytes (8 + k) = edidByte (letterBytes e.letters).1 k :=
    fun k hk => by rw [bytes, edidByte_skip, edidByte_take hk]
  exact edidManufacturer_letters _ _ _ (hletters 0 (by decide)) (hletters 1 (by decide))

theorem manufactureWeek_bytes : manufactureWeek e.bytes = e.week := bytes_date e 0

theorem manufactureYear_bytes : manufactureYear e.bytes = e.year := bytes_date e 1

/-- The first text with the tag is the one that is found. -/
theorem descriptorText_bytes {tag : UInt8} (htag : tag = tagMonitorName ∨ tag = tagSerialNumber) :
    descriptorText tag e.bytes = (e.text? tag).map MonitorText.chars := by
  have hrange : List.range detailedTimingsCount = (List.finRange 4).map (·.1) :=
    List.map_coe_finRange_eq_range.symm
  rw [descriptorText, findDescriptor, List.find?_eq_findSome?_guard, List.map_findSome?, hrange,
    text?, List.ofFn_eq_map, List.findSome?_map, List.findSome?_map, List.map_findSome?]
  congr 1
  funext i
  exact guard_slot htag (bytes_slot e i)

end EdidBlock

/-! ## The displays -/

/-- The query left the monitor's EDID in the entry, which has room for it, or there was none. -/
inductive Attached : DisplayInfo → Option EdidBlock → Prop
  | none {info : DisplayInfo} (hlen : info.edidLen = 0) : Attached info none
  | some {info : DisplayInfo} {e : EdidBlock} (hlen : info.edidLen ≠ 0)
    (hedid : info.edid = e.bytes) (hroom : e.bytes.length ≤ edidSize) : Attached info (some e)

/-- There is no EDID, or one with a serial number. -/
def numbered (e : Option EdidBlock) : Bool := e.all fun e => (e.text? tagSerialNumber).isSome

/-- What is told of an entry, once it is completed. -/
def told (info : DisplayInfo) (e : Option EdidBlock) : MonitorIdentity :=
  e.elim info.identity EdidBlock.identity

/-- How many entries are parsed: the first monitor without a serial number is the last of them. -/
def parsedCount (monitors : List (Option EdidBlock)) : ℕ := (monitors.takeWhile numbered).length + 1

theorem parseEDIDInfo_monitor {info : DisplayInfo} {e : Option EdidBlock} (hq : info.Queried)
    (ha : Attached info e) : ((parseEDIDInfo info).1 = 0 ↔ numbered e = true)
      ∧ (parseEDIDInfo info).2.identity = told info e := by
  rcases ha with hlen | ⟨hlen, hedid, -⟩
  · rw [parseEDIDInfo_zero hlen]
    exact ⟨iff_of_true rfl rfl, rfl⟩
  · rename_i e
    have hserial := e.descriptorText_bytes (Or.inr rfl)
    obtain ⟨hname, hnumber⟩ := parseEDIDInfo_texts hq hlen
    constructor
    · rw [parseEDIDInfo_ret hq, DisplayInfo.HasSerial, or_iff_right hlen, hedid]
      have hfound : findDescriptor tagSerialNumber e.bytes ≠ none
          ↔ (descriptorText tagSerialNumber e.bytes).isSome = true := by
        rw [descriptorText, Option.isSome_map, Option.isSome_iff_ne_none]
      rw [hfound, hserial, Option.isSome_map]
      rfl
    · rw [hedid, e.descriptorText_bytes (Or.inl rfl)] at hname
      rw [hedid, hserial] at hnumber
      rw [DisplayInfo.identity, hname, hnumber, parseEDIDInfo_eq hlen, hedid]
      dsimp only
      rw [e.edidManufacturer_bytes, e.manufactureWeek_bytes, e.manufactureYear_bytes]
      rfl

theorem identity_setNames (info : DisplayInfo) : info.setNames.identity = info.identity := by
  unfold DisplayInfo.setNames
  dsimp only
  split_ifs <;> rfl

theorem updateInfos_monitors {infos : List DisplayInfo} {monitors : List (Option EdidBlock)}
    (h : List.Forall₂ Attached infos monitors) (hq : ∀ info ∈ infos, info.Queried) :
    ((updateInfos infos).1 = 0 ↔ ∀ e ∈ monitors, numbered e = true)
      ∧ (updateInfos infos).2.map DisplayInfo.identity
        = List.zipWith told (infos.take (parsedCount monitors)) monitors
          ++ (infos.drop (parsedCount monitors)).map DisplayInfo.identity
      ∧ (updateInfos infos).2.drop (parsedCount monitors) = infos.drop (parsedCount monitors) := by
  induction h with
  | nil => exact ⟨iff_of_true rfl (by simp), rfl, rfl⟩
  | @cons info e infos monitors ha h ih =>
    obtain ⟨hinfo, hinfos⟩ := List.forall_mem_cons.1 hq
    obtain ⟨hret, hidentity⟩ := parseEDIDInfo_monitor hinfo ha
    obtain ⟨ihret, ihidentity, ihdrop⟩ := ih hinfos
    unfold updateInfos
    dsimp only
    rw [List.forall_mem_cons]
    by_cases hnum : numbered e = true
    · have hcount : parsedCount (e :: monitors) = parsedCount monitors + 1 := by
        rw [parsedCount, List.takeWhile_cons_of_pos hnum]
        rfl
      rw [if_neg (not_not.2 (hret.2 hnum)), and_iff_right hnum, hcount]
      refine ⟨ihret, ?_, ihdrop⟩
      rw [List.map_cons, identity_setNames, hidentity, ihidentity]
      rfl
    · have hcount : parsedCount (e :: monitors) = 1 := by
        rw [parsedCount, List.takeWhile_cons_of_neg hnum]
        rfl
      rw [if_pos (fun h0 => hnum (hret.1 h0)), hcount]
      refine ⟨iff_of_false (fun h0 => hnum (hret.1 h0)) fun hc => hnum hc.1, ?_, rfl⟩
      rw [List.map_cons, hidentity]
      rfl

/-- The monitors' letters, dates, names and serial numbers are those that the vendors wrote, up to
the first monitor without a serial number; the entries behind it are whole what the query left. -/
theorem update_display_info_monitors {resource : Option ResourceView} {call : DisplayAnswers}
    {m : Ledger} {q : DisplayQuery} (h : queryDisplayInfo resource call m = some q)
    {monitors : List (Option EdidBlock)}
    (hm : List.Forall₂ Attached q.displayState.displayinfo monitors) :
    ((updateDisplayInfo q.displayState).1 = 0 ↔ ∀ e ∈ monitors, numbered e = true)
      ∧ (updateDisplayInfo q.displayState).2.displayinfo.map DisplayInfo.identity
        = List.zipWith told (q.displayState.displayinfo.take (parsedCount monitors)) monitors
          ++ (q.displayState.displayinfo.drop (parsedCount monitors)).map DisplayInfo.identity
      ∧ (updateDisplayInfo q.displayState).2.displayinfo.drop (parsedCount monitors)
        = q.displayState.displayinfo.drop (parsedCount monitors) :=
  updateInfos_monitors hm (queryDisplayInfo_queried h)

section Example

def monitorText (c : UInt8) (h : c ≠ 0 ∧ c ≠ newline) : MonitorText where
  bytes := [c]
  fits := Nat.le_add_left 1 12
  plain _ hb := List.mem_singleton.1 hb ▸ h

/-- A timing, the name M, and where it is numbered the serial number 7. -/
def sampleBlock (numbered : Bool) : EdidBlock where
  header := ⟨[0, 255, 255, 255, 255, 255, 255, 0], rfl⟩
  letters := (1, 17, 26)
  product := ⟨List.replicate 6 1, rfl⟩
  week := 12
  year := 29
  features := ⟨List.replicate 36 9, rfl⟩
  slots
    | 0 => .timing 256 (by decide) ⟨List.replicate 16 0, rfl⟩
    | 1 => .text tagMonitorName (monitorText 0x4d (by decide))
    | 2 => .text (if numbered then tagSerialNumber else 0xfe) (monitorText 0x37 (by decide))
    | 3 => .data 0xfd 0 (by decide) ⟨List.replicate 13 0, rfl⟩
  rest := [0, 0x55]

/-- Two connected connectors; the second monitor has no serial number. -/
def twoMonitors : DisplayAnswers where
  resource := ⟨0, some { connectorCount := 2, encoderCount := 1, crtcsCount := 1, fbCount := 0 }⟩
  connectors i :=
    let prop := ⟨0, some
      { flags := 16, name := "EDID".toList, countEnums := 0, enumName := fun _ => [] }⟩
    ⟨0, some { plainConnector with
      props := [{ value := 1, blobProp := prop, blob := ⟨0, some (sampleBlock (i = 0)).bytes⟩
                  enumProp := prop }] }⟩

def twoMonitorsState : DisplayState where
  valid := true
  displayinfo :=
    [plainConnector.entry (BlobBuffer.copy (sampleBlock true).bytes {}) {},
      plainConnector.entry (BlobBuffer.copy (sampleBlock false).bytes {}) {}]
  connectorCount := 2
  encoderCount := 1
  crtcCount := 1

theorem query_twoMonitors : ∃ q, queryDisplayInfo none twoMonitors {} = some q
    ∧ q.displayState = twoMonitorsState :=
  ⟨_, rfl, rfl⟩

/-- Both are told, the second with a default in place of its number. -/
theorem update_display_info_monitors_two : ∃ q, queryDisplayInfo none twoMonitors {} = some q
    ∧ (updateDisplayInfo q.displayState).1 ≠ 0
    ∧ (updateDisplayInfo q.displayState).2.displayinfo.map DisplayInfo.identity
      = [⟨"AQZ".toList, 2019, 12, ['M'], ['7']⟩, ⟨"AQZ".toList, 2019, 12, ['M'], unknow⟩] := by
  obtain ⟨q, h, hstate⟩ := query_twoMonitors
  have hattached (n : Bool) : Attached
      (plainConnector.entry (BlobBuffer.copy (sampleBlock n).bytes {}) {})
      (some (sampleBlock n)) := by
    refine .some ?_ (List.append_nil _) ?_
    all_goals cases n <;> decide +kernel
  have hm : List.Forall₂ Attached q.displayState.displayinfo
      [some (sampleBlock true), some (sampleBlock false)] := by
    rw [hstate]
    exact .cons (hattached true) (.cons (hattached false) .nil)
  obtain ⟨hret, hidentity, -⟩ := update_display_info_monitors h hm
  refine ⟨q, h, fun h0 => ?_, hidentity.trans ?_⟩
  · have hnumbered := hret.1 h0 (some (sampleBlock false)) (by simp)
    exact absurd hnumbered (by decide +kernel)
  · have hcount : parsedCount [some (sampleBlock true), some (sampleBlock false)] = 2 := by
      decide +kernel
    rw [hstate, hcount]
    change [(sampleBlock true).identity, (sampleBlock false).identity] = _
    decide +kernel

end Example

end Amdtop
