import Mathlib.Data.List.Forall2
import Mathlib.Tactic.MkIffOfInductiveProp
import Amdtop.Proofs.DisplayTab
import Amdtop.Proofs.EdidBlock
import Amdtop.Proofs.SysFile

/-!
# Skipped redraws

`needUpdateDisplayInfo` compares less than is drawn. What it leaves out of two queries is drawn
alike just if their EDIDs, names and sizes say the same (`updateInfos_alike`), so a redraw is
skipped rightly just if the keys differ or they do (`skipped_redraw_iff`).
-/

namespace Amdtop

open Heap Stdio

/-! ## Names -/

/-- The numbers have one name among `n`: they are equal, or they have none. -/
def NamedAlike (n : ℕ) (a b : UInt32) : Prop := a = b ∨ n ≤ a.toNat ∧ n ≤ b.toNat

theorem nameByType_eq_iff {names : List String} (hnodup : (names.map String.toList).Nodup)
    (hunknow : unknow ∉ names.map String.toList) (a b : UInt32) :
    (names[a.toNat]?.map String.toList).getD unknow = (names[b.toNat]?.map String.toList).getD unknow
      ↔ NamedAlike names.length a b := by
  unfold NamedAlike
  have hlen : (names.map String.toList).length = names.length := List.length_map _
  rw [← List.getElem?_map, ← List.getElem?_map, ← UInt32.toNat_inj, ← hlen]
  generalize names.map String.toList = texts at hnodup hunknow
  by_cases ha : a.toNat < texts.length <;> by_cases hb : b.toNat < texts.length
  · rw [List.getElem?_eq_getElem ha, List.getElem?_eq_getElem hb, Option.getD_some, Option.getD_some,
      hnodup.getElem_inj_iff]
    omega
  · rw [List.getElem?_eq_getElem ha, List.getElem?_eq_none (Nat.not_lt.1 hb)]
    refine iff_of_false (fun h => hunknow ?_) (by omega)
    rw [← show texts[a.toNat] = unknow from h]
    exact List.getElem_mem ha
  · rw [List.getElem?_eq_getElem hb, List.getElem?_eq_none (Nat.not_lt.1 ha)]
    refine iff_of_false (fun h => hunknow ?_) (by omega)
    rw [show unknow = texts[b.toNat] from h]
    exact List.getElem_mem hb
  · rw [List.getElem?_eq_none (Nat.not_lt.1 ha), List.getElem?_eq_none (Nat.not_lt.1 hb)]
    exact iff_of_true rfl (Or.inr ⟨Nat.not_lt.1 ha, Nat.not_lt.1 hb⟩)

theorem encoderName_eq_iff (a b : UInt32) :
    getEncoderNameByType a = getEncoderNameByType b ↔ NamedAlike 9 a b :=
  nameByType_eq_iff (by decide) (by decide) a b

theorem dash_notMem_decimal (n : ℕ) : '-' ∉ decimal n := fun h =>
  absurd (decimal_digits n '-' h) (by decide)

theorem printInt_inj {x y : UInt32} (h : printInt x = printInt y) : x = y := by
  have hx := dash_notMem_decimal x.toBitVec.toInt.natAbs
  have hy := dash_notMem_decimal y.toBitVec.toInt.natAbs
  unfold printInt at h
  dsimp only at h
  have hint : x.toBitVec.toInt = y.toBitVec.toInt := by
    split_ifs at h with hneg hneg' hneg'
    · have habs := decimal_inj (List.cons.inj h).2
      omega
    · exact absurd (h ▸ List.mem_cons_self) hy
    · exact absurd (h ▸ List.mem_cons_self) hx
    · have habs := decimal_inj h
      omega
  exact UInt32.toBitVec_inj.1 (BitVec.toInt_inj.1 hint)

theorem dash_notMem_name (type : UInt32) : '-' ∉ getConnectorNameByType type := by
  unfold getConnectorNameByType
  rcases h : connectorNames[type.toNat]? with _ | name
  · exact show '-' ∉ unknow by decide
  · have hnames : ∀ name ∈ connectorNames, '-' ∉ name.toList := by decide
    exact hnames name (List.mem_of_getElem? h)

/-- A text ends before what is not in it. -/
theorem append_cons_inj {c : Char} : ∀ {s t u v : List Char}, c ∉ s → c ∉ t →
    s ++ c :: u = t ++ c :: v → s = t ∧ u = v
  | [], [], _, _, _, _, h => ⟨rfl, (List.cons.inj h).2⟩
  | [], d :: _, _, _, _, ht, h =>
    absurd ((List.cons.inj h).1 ▸ List.mem_cons_self) ht
  | d :: _, [], _, _, hs, _, h =>
    absurd ((List.cons.inj h).1 ▸ List.mem_cons_self) hs
  | d :: s, e :: t, _, _, hs, ht, h => by
    obtain ⟨rfl, htail⟩ := List.cons.inj h
    obtain ⟨rfl, hend⟩ := append_cons_inj (fun hc => hs (List.mem_cons_of_mem d hc))
      (fun hc => ht (List.mem_cons_of_mem d hc)) htail
    exact ⟨rfl, hend⟩

/-- The name of a connector ends at the first dash. -/
theorem connectorName_eq_iff (a b i j : UInt32) :
    getConnectorNameByType a ++ '-' :: printInt i = getConnectorNameByType b ++ '-' :: printInt j
      ↔ NamedAlike 18 a b ∧ i = j := by
  have hnames : getConnectorNameByType a = getConnectorNameByType b ↔ NamedAlike 18 a b :=
    nameByType_eq_iff (by decide) (by decide) a b
  rw [← hnames]
  constructor
  · intro h
    obtain ⟨hname, hid⟩ := append_cons_inj (dash_notMem_name a) (dash_notMem_name b) h
    exact ⟨hname, printInt_inj hid⟩
  · rintro ⟨hname, rfl⟩
    rw [hname]

/-! ## EDIDs -/

/-- The EDIDs say the same: the texts of their name and serial descriptors, the vendor's bytes but
for the bit above the letters, and the bytes of the date. -/
structure EdidAlike (a b : List UInt8) : Prop where
  monitorName : (descriptorText tagMonitorName a).getD unknow
    = (descriptorText tagMonitorName b).getD unknow
  serialNumer : (descriptorText tagSerialNumber a).getD unknow
    = (descriptorText tagSerialNumber b).getD unknow
  vendorLow : (edidByte a 8).toNat % 128 = (edidByte b 8).toNat % 128
  vendorHigh : edidByte a 9 = edidByte b 9
  week : edidByte a 16 = edidByte b 16
  year : edidByte a 17 = edidByte b 17

theorem letter_inj {m n : ℕ} (hm : m < 32) (hn : n < 32)
    (h : Char.ofNat (64 + m) = Char.ofNat (64 + n)) : m = n := by
  have hchar : ∀ k < 32, (Char.ofNat (64 + k)).toNat = 64 + k := by decide
  have heq := congrArg Char.toNat h
  rw [hchar m hm, hchar n hn] at heq
  exact Nat.add_left_cancel heq

/-- Three letters of five bits leave out the bit above them. -/
theorem manufacturer_eq_iff (a b : List UInt8) : edidManufacturer a = edidManufacturer b
    ↔ (edidByte a 8).toNat % 128 = (edidByte b 8).toNat % 128 ∧ edidByte a 9 = edidByte b 9 := by
  have ha : (edidByte a 9).toNat < 256 := (edidByte a 9).toNat_lt
  have hb : (edidByte b 9).toNat < 256 := (edidByte b 9).toNat_lt
  rw [edidManufacturer_eq, edidManufacturer_eq, ← UInt8.toNat_inj]
  constructor
  · intro h
    simp only [List.map_cons, List.map_nil, List.cons.injEq, and_true] at h
    obtain ⟨hfirst, hsecond, hthird⟩ := h
    have hfirst := letter_inj (Nat.mod_lt _ (by decide)) (Nat.mod_lt _ (by decide)) hfirst
    have hsecond := letter_inj (by omega) (by omega) hsecond
    have hthird := letter_inj (Nat.mod_lt _ (by decide)) (Nat.mod_lt _ (by decide)) hthird
    omega
  · rintro ⟨hlow, hhigh⟩
    have hfirst : (edidByte a 8).toNat / 4 % 32 = (edidByte b 8).toNat / 4 % 32 := by omega
    have hsecond : (edidByte a 8).toNat % 4 = (edidByte b 8).toNat % 4 := by omega
    rw [hhigh, hfirst, hsecond]

theorem edidManufacturer_ne_nil (edid : List UInt8) : edidManufacturer edid ≠ [] :=
  List.cons_ne_nil _ _

theorem manufactureYear_eq_iff (a b : UInt8) :
    a.toUInt32 + 1990 = b.toUInt32 + 1990 ↔ a = b := by
  rw [UInt32.add_left_inj]
  exact ⟨fun h => UInt8.toNat_inj.1 (congrArg UInt32.toNat h), congrArg UInt8.toUInt32⟩

/-! ## Drawing -/

/-- The fields that are drawn as they were queried, and not compared. -/
@[mk_iff]
structure SamePlain (a b : DisplayInfo) : Prop where
  mmWidth : a.mmWidth = b.mmWidth
  mmHeight : a.mmHeight = b.mmHeight
  dpmsState : a.dpmsState = b.dpmsState

/-- The fields from the EDID. -/
structure SameParsed (a b : DisplayInfo) : Prop where
  monitorName : a.monitorName = b.monitorName
  serialNumer : a.serialNumer = b.serialNumer
  manufacturer : a.manufacturer = b.manufacturer
  year : a.year = b.year
  week : a.week = b.week

/-- The fields that are drawn and not compared. -/
structure SameText (a b : DisplayInfo) : Prop extends SamePlain a b, SameParsed a b where
  connectorName : a.connectorName = b.connectorName
  encoderName : a.present → a.encoderName = b.encoderName

/-- The fields that are drawn and compared. -/
structure SamePlace (a b : DisplayInfo) : Prop where
  present : a.present = b.present
  startx : a.startx = b.startx
  starty : a.starty = b.starty
  width : a.width = b.width
  height : a.height = b.height

section Draw

variable {a b : DisplayInfo}

theorem drawInfo_eq_iff (hp : SamePlace a b) (ha : Sized a) (hb : Sized b) (line : ℕ) :
    drawInfo line a = drawInfo line b ↔ SameText a b := by
  constructor
  · intro h
    by_cases hpresent : b.present = true
    · simp [drawInfo, hp.present, hpresent] at h
      obtain ⟨h1, h2, h3, ⟨h4, h5⟩, ⟨-, h6, h7⟩, h8, h9, -, h10⟩ := h
      exact ⟨⟨h6, h7, h8⟩, ⟨h1, h2, h3, h4, h5⟩, h10, fun _ => h9⟩
    · simp [drawInfo, hp.present, hpresent] at h
      obtain ⟨h1, h2, h3, ⟨h4, h5⟩, ⟨-, h6, h7⟩, h8, h9⟩ := h
      exact ⟨⟨h6, h7, h8⟩, ⟨h1, h2, h3, h4, h5⟩, h9, fun h => absurd (hp.present ▸ h) hpresent⟩
  · intro h
    unfold Sized at ha hb
    unfold drawInfo
    rw [h.monitorName, h.serialNumer, h.manufacturer, h.year, h.week, h.dpmsState, h.connectorName,
      ha, hb, h.mmWidth, h.mmHeight, hp.startx, hp.starty, hp.width, hp.height]
    by_cases hpresent : a.present = true
    · rw [← hp.present, h.encoderName hpresent]
    · simp only [← hp.present, if_neg hpresent]

theorem length_drawInfo (h : a.present = b.present) (line : ℕ) :
    (drawInfo line a).length = (drawInfo line b).length := by
  unfold drawInfo
  rw [h]
  split_ifs <;> rfl

end Draw

theorem drawInfos_eq_iff : ∀ {as bs : List DisplayInfo} (line : ℕ), List.Forall₂ SamePlace as bs →
    (∀ a ∈ as, Sized a) → (∀ b ∈ bs, Sized b) →
    (drawInfos line as = drawInfos line bs ↔ List.Forall₂ SameText as bs)
  | [], _, _, .nil, _, _ => iff_of_true rfl .nil
  | a :: as, b :: bs, line, .cons hp hps, ha, hb => by
    obtain ⟨ha, has⟩ := List.forall_mem_cons.1 ha
    obtain ⟨hb, hbs⟩ := List.forall_mem_cons.1 hb
    have hlen := length_drawInfo hp.present line
    have hiff := drawInfo_eq_iff hp ha hb line
    have hrest := drawInfos_eq_iff (line + (if b.present then 12 else 10)) hps has hbs
    rw [List.forall₂_cons, ← hiff, ← hrest, drawInfos, drawInfos, hp.present]
    exact ⟨fun h => List.append_inj h hlen, fun ⟨h, h'⟩ => by rw [h, h']⟩

/-- What is drawn in a window without an end. -/
def displayLines (state : DisplayState) : List Line :=
  [Line.labelled 2 "connector" [.count state.connectorCount],
    .labelled 3 "encoder" [.count state.encoderCount],
    .labelled 4 "crtc" [.count state.crtcCount],
    .labelled 5 "Display" [.count state.aliveConnectorCount],
    .frame 1 6 "Display Info".toList] ++ drawInfos 8 state.displayinfo

theorem exists_drawn : ∀ lines : List Line, ∃ n, ∀ maxy, n ≤ maxy → ∀ l ∈ lines, l.drawn maxy
  | [] => ⟨0, fun _ _ _ h => nomatch h⟩
  | l :: lines => by
    obtain ⟨n, hn⟩ := exists_drawn lines
    rcases l with ⟨y, label, args⟩ | ⟨starty, endy, label⟩
    · refine ⟨n + (y + 2), fun maxy hle => List.forall_mem_cons.2 ⟨?_, hn maxy (by omega)⟩⟩
      exact decide_eq_true (by omega)
    · exact ⟨n, fun maxy hle => List.forall_mem_cons.2 ⟨rfl, hn maxy hle⟩⟩

/-- In a window that is high enough, all is drawn. -/
theorem refresh_eq_iff {state state' : DisplayState} :
    (∀ maxy, refreshDisplayUi maxy state = refreshDisplayUi maxy state')
      ↔ displayLines state = displayLines state' := by
  constructor
  · intro h
    obtain ⟨n, hn⟩ := exists_drawn (displayLines state)
    obtain ⟨n', hn'⟩ := exists_drawn (displayLines state')
    have hlines : refreshDisplayUi (n + n') state = displayLines state :=
      List.filter_eq_self.2 (hn _ (Nat.le_add_right n n'))
    have hlines' : refreshDisplayUi (n + n') state' = displayLines state' :=
      List.filter_eq_self.2 (hn' _ (Nat.le_add_left n' n))
    rw [← hlines, ← hlines', h]
  · intro h maxy
    exact congrArg (List.filter (·.drawn maxy)) h

/-- The counts that are drawn and not compared, and the entries. -/
structure SameShown (state state' : DisplayState) : Prop where
  encoderCount : state.encoderCount = state'.encoderCount
  crtcCount : state.crtcCount = state'.crtcCount
  displayinfo : List.Forall₂ SameText state.displayinfo state'.displayinfo

theorem displayLines_eq_iff {state state' : DisplayState}
    (hcount : state.connectorCount = state'.connectorCount)
    (hp : List.Forall₂ SamePlace state.displayinfo state'.displayinfo)
    (hs : ∀ a ∈ state.displayinfo, Sized a) (hs' : ∀ a ∈ state'.displayinfo, Sized a) :
    displayLines state = displayLines state' ↔ SameShown state state' := by
  have hiff := drawInfos_eq_iff 8 hp hs hs'
  have halive : state.aliveConnectorCount = state'.aliveConnectorCount := hp.length_eq
  constructor
  · intro h
    simp only [displayLines, List.cons_append, List.nil_append, List.cons.injEq, Line.labelled.injEq,
      Arg.count.injEq, true_and, and_true] at h
    exact ⟨h.2.1, h.2.2.1, hiff.1 h.2.2.2.2⟩
  · intro h
    unfold displayLines
    rw [hcount, h.encoderCount, h.crtcCount, halive, hiff.2 h.displayinfo]

/-! ## Completing alike -/

/-- What is drawn of two queried entries and not compared, but for their names. -/
structure MonitorAlike (a b : DisplayInfo) : Prop extends SamePlain a b where
  edidLen : a.edidLen = 0 ↔ b.edidLen = 0
  edid : a.edidLen ≠ 0 → EdidAlike a.edid b.edid

structure NamesAlike (a b : DisplayInfo) : Prop where
  connectorType : NamedAlike 18 a.connectorType b.connectorType
  connectorTypeId : a.connectorTypeId = b.connectorTypeId
  encoderType : a.present → NamedAlike 9 a.encoderType b.encoderType

/-- Two queried lists are completed alike. The first entry without a serial number has no names, and
the entries behind it have nothing from their EDIDs either. -/
inductive InfosAlike : List DisplayInfo → List DisplayInfo → Prop
  | nil : InfosAlike [] []
  | cons {a b : DisplayInfo} {as bs : List DisplayInfo} (ha : a.HasSerial) (hb : b.HasSerial)
    (monitor : MonitorAlike a b) (names : NamesAlike a b) (rest : InfosAlike as bs) :
    InfosAlike (a :: as) (b :: bs)
  | stop {a b : DisplayInfo} {as bs : List DisplayInfo} (ha : ¬ a.HasSerial) (hb : ¬ b.HasSerial)
    (monitor : MonitorAlike a b) (rest : List.Forall₂ SamePlain as bs) :
    InfosAlike (a :: as) (b :: bs)

section Alike

variable {a b : DisplayInfo}

theorem samePlain_frame {a' b' : DisplayInfo} (ha : ParseFrame a a') (hb : ParseFrame b b') :
    SamePlain a' b' ↔ SamePlain a b := by
  rw [samePlain_iff, samePlain_iff, ha.mmWidth, hb.mmWidth, ha.mmHeight, hb.mmHeight, ha.dpmsState,
    hb.dpmsState]

/-- The vendor and the date of an EDID. -/
theorem parseEDIDInfo_vendor {info : DisplayInfo} (hlen : info.edidLen ≠ 0) :
    (parseEDIDInfo info).2.manufacturer = edidManufacturer info.edid
      ∧ (parseEDIDInfo info).2.year = (manufactureYear info.edid).toUInt32 + 1990
      ∧ (parseEDIDInfo info).2.week = (manufactureWeek info.edid).toUInt32 := by
  rw [parseEDIDInfo_eq hlen]
  exact ⟨rfl, rfl, rfl⟩

theorem sameParsed_edid (hqa : a.Queried) (hqb : b.Queried) (ha : a.edidLen ≠ 0)
    (hb : b.edidLen ≠ 0) :
    SameParsed (parseEDIDInfo a).2 (parseEDIDInfo b).2 ↔ EdidAlike a.edid b.edid := by
  obtain ⟨hname, hserial⟩ := parseEDIDInfo_texts hqa ha
  obtain ⟨hname', hserial'⟩ := parseEDIDInfo_texts hqb hb
  obtain ⟨hvendor, hyear, hweek⟩ := parseEDIDInfo_vendor ha
  obtain ⟨hvendor', hyear', hweek'⟩ := parseEDIDInfo_vendor hb
  have hyears := manufactureYear_eq_iff (manufactureYear a.edid) (manufactureYear b.edid)
  have hvendors := manufacturer_eq_iff a.edid b.edid
  constructor
  · intro ⟨h1, h2, h3, h4, h5⟩
    rw [hname, hname'] at h1
    rw [hserial, hserial'] at h2
    rw [hvendor, hvendor', hvendors] at h3
    rw [hyear, hyear', hyears] at h4
    rw [hweek, hweek'] at h5
    exact ⟨h1, h2, h3.1, h3.2, UInt8.toNat_inj.1 (congrArg UInt32.toNat h5), h4⟩
  · intro ⟨h1, h2, h3, h4, h5, h6⟩
    refine ⟨by rw [hname, hname', h1], by rw [hserial, hserial', h2], ?_, ?_, ?_⟩
    · rw [hvendor, hvendor', hvendors]
      exact ⟨h3, h4⟩
    · rw [hyear, hyear', hyears]
      exact h6
    · rw [hweek, hweek']
      exact congrArg UInt8.toUInt32 h5

/-- Without an EDID there is no vendor. -/
theorem sameParsed_iff (hqa : a.Queried) (hqb : b.Queried) :
    SameParsed (parseEDIDInfo a).2 (parseEDIDInfo b).2
      ↔ (a.edidLen = 0 ↔ b.edidLen = 0) ∧ (a.edidLen ≠ 0 → EdidAlike a.edid b.edid) := by
  by_cases ha : a.edidLen = 0 <;> by_cases hb : b.edidLen = 0
  · rw [parseEDIDInfo_zero ha, parseEDIDInfo_zero hb]
    refine iff_of_true ?_ ⟨iff_of_true ha hb, fun h => absurd ha h⟩
    exact ⟨hqa.monitorName.trans hqb.monitorName.symm, hqa.serialNumer.trans hqb.serialNumer.symm,
      hqa.manufacturer.trans hqb.manufacturer.symm, hqa.year.trans hqb.year.symm,
      hqa.week.trans hqb.week.symm⟩
  · refine iff_of_false (fun h => ?_) fun h => hb (h.1.1 ha)
    have hvendor := h.manufacturer
    rw [parseEDIDInfo_zero ha, hqa.manufacturer, (parseEDIDInfo_vendor hb).1] at hvendor
    exact edidManufacturer_ne_nil b.edid hvendor.symm
  · refine iff_of_false (fun h => ?_) fun h => ha (h.1.2 hb)
    have hvendor := h.manufacturer
    rw [parseEDIDInfo_zero hb, hqb.manufacturer, (parseEDIDInfo_vendor ha).1] at hvendor
    exact edidManufacturer_ne_nil a.edid hvendor
  · rw [sameParsed_edid hqa hqb ha hb]
    exact ⟨fun h => ⟨iff_of_false ha hb, fun _ => h⟩, fun h => h.2 ha⟩

theorem monitorAlike_iff (hqa : a.Queried) (hqb : b.Queried) :
    MonitorAlike a b ↔ SamePlain (parseEDIDInfo a).2 (parseEDIDInfo b).2
      ∧ SameParsed (parseEDIDInfo a).2 (parseEDIDInfo b).2 := by
  rw [samePlain_frame (parseEDIDInfo_frame a) (parseEDIDInfo_frame b), sameParsed_iff hqa hqb]
  exact ⟨fun h => ⟨h.toSamePlain, h.edidLen, h.edid⟩, fun h => ⟨h.1, h.2.1, h.2.2⟩⟩

theorem setNames_eq (info : DisplayInfo) : info.setNames = { info with
    connectorName :=
      getConnectorNameByType info.connectorType ++ '-' :: printInt info.connectorTypeId
    encoderName :=
      if info.present then getEncoderNameByType info.encoderType else info.encoderName } := by
  unfold DisplayInfo.setNames
  dsimp only
  split_ifs <;> rfl

theorem sameParsed_setNames : SameParsed a.setNames b.setNames ↔ SameParsed a b := by
  rw [setNames_eq, setNames_eq]
  exact ⟨fun h => ⟨h.1, h.2, h.3, h.4, h.5⟩, fun h => ⟨h.1, h.2, h.3, h.4, h.5⟩⟩

theorem parseEDIDInfo_names (info : DisplayInfo) :
    (parseEDIDInfo info).2.connectorName = info.connectorName
      ∧ (parseEDIDInfo info).2.encoderName = info.encoderName := by
  by_cases hlen : info.edidLen = 0
  · rw [parseEDIDInfo_zero hlen]
    exact ⟨rfl, rfl⟩
  · rw [parseEDIDInfo_eq hlen]
    exact ⟨rfl, rfl⟩

theorem sameText_completed (hqa : a.Queried) (hqb : b.Queried) (hpresent : a.present = b.present) :
    SameText (parseEDIDInfo a).2.setNames (parseEDIDInfo b).2.setNames
      ↔ MonitorAlike a b ∧ NamesAlike a b := by
  have hframe := (parseEDIDInfo_frame a).trans (setNames_frame _)
  have hca := completed_setNames hqa
  have hcb := completed_setNames hqb
  have hname := connectorName_eq_iff a.connectorType b.connectorType a.connectorTypeId
    b.connectorTypeId
  have hplain := samePlain_frame (setNames_frame (parseEDIDInfo a).2)
    (setNames_frame (parseEDIDInfo b).2)
  rw [monitorAlike_iff hqa hqb, ← sameParsed_setNames, ← hplain]
  constructor
  · intro h
    have hconnector := h.connectorName
    rw [hca.connectorName, hcb.connectorName, hname] at hconnector
    refine ⟨⟨h.toSamePlain, h.toSameParsed⟩, hconnector.1, hconnector.2, fun hp => ?_⟩
    rw [← encoderName_eq_iff, ← hca.encoderName hp, ← hcb.encoderName (hpresent ▸ hp)]
    exact h.encoderName (hframe.present ▸ hp)
  · rintro ⟨⟨hplain, hparsed⟩, htype, hid, hencoder⟩
    refine ⟨hplain, hparsed, ?_, fun hp => ?_⟩
    · rw [hca.connectorName, hcb.connectorName, hname]
      exact ⟨htype, hid⟩
    · rw [hframe.present] at hp
      rw [hca.encoderName hp, hcb.encoderName (hpresent ▸ hp), encoderName_eq_iff]
      exact hencoder hp

/-- An entry that ends the loop has no names. -/
theorem sameText_stopped (hqa : a.Queried) (hqb : b.Queried) :
    SameText (parseEDIDInfo a).2 (parseEDIDInfo b).2 ↔ MonitorAlike a b := by
  obtain ⟨hname, hencoder⟩ := parseEDIDInfo_names a
  obtain ⟨hname', hencoder'⟩ := parseEDIDInfo_names b
  rw [monitorAlike_iff hqa hqb]
  refine ⟨fun h => ⟨h.toSamePlain, h.toSameParsed⟩, fun h => ⟨h.1, h.2, ?_, fun _ => ?_⟩⟩
  · rw [hname, hname', hqa.connectorName, hqb.connectorName]
  · rw [hencoder, hencoder', hqa.encoderName, hqb.encoderName]

/-- Only one of two entries ends the loop. -/
theorem connectorName_stopped (hqa : a.Queried) (hqb : b.Queried) :
    (parseEDIDInfo a).2.connectorName ≠ (parseEDIDInfo b).2.setNames.connectorName := by
  rw [(parseEDIDInfo_names a).1, hqa.connectorName, (completed_setNames hqb).connectorName]
  exact (List.append_ne_nil_of_right_ne_nil _ (List.cons_ne_nil _ _)).symm

theorem sameText_queried : ∀ {as bs : List DisplayInfo}, (∀ a ∈ as, a.Queried) →
    (∀ b ∈ bs, b.Queried) → (List.Forall₂ SameText as bs ↔ List.Forall₂ SamePlain as bs)
  | [], [], _, _ => iff_of_true .nil .nil
  | [], _ :: _, _, _ => iff_of_false (fun h => nomatch h) fun h => nomatch h
  | _ :: _, [], _, _ => iff_of_false (fun h => nomatch h) fun h => nomatch h
  | a :: as, b :: bs, hqa, hqb => by
    obtain ⟨ha, has⟩ := List.forall_mem_cons.1 hqa
    obtain ⟨hb, hbs⟩ := List.forall_mem_cons.1 hqb
    rw [List.forall₂_cons, List.forall₂_cons, sameText_queried has hbs]
    refine and_congr_left fun _ => ⟨fun h => h.toSamePlain, fun h => ⟨h, ?_, ?_, fun _ => ?_⟩⟩
    · exact ⟨ha.monitorName.trans hb.monitorName.symm, ha.serialNumer.trans hb.serialNumer.symm,
        ha.manufacturer.trans hb.manufacturer.symm, ha.year.trans hb.year.symm,
        ha.week.trans hb.week.symm⟩
    · exact ha.connectorName.trans hb.connectorName.symm
    · exact ha.encoderName.trans hb.encoderName.symm

end Alike

section Infos

variable {info : DisplayInfo} {infos : List DisplayInfo}

theorem updateInfos_serial (hq : info.Queried) (h : info.HasSerial) :
    (updateInfos (info :: infos)).2 = (parseEDIDInfo info).2.setNames :: (updateInfos infos).2 := by
  rw [updateInfos]
  dsimp only
  rw [if_neg (not_not.2 ((parseEDIDInfo_ret hq).2 h))]

theorem updateInfos_stop (hq : info.Queried) (h : ¬ info.HasSerial) :
    (updateInfos (info :: infos)).2 = (parseEDIDInfo info).2 :: infos := by
  rw [updateInfos]
  dsimp only
  rw [if_pos fun hret => h ((parseEDIDInfo_ret hq).1 hret)]

end Infos

/-- By recursion on the lists: while both entries have a serial number the loop goes on, and it must
end in both at the same one. -/
theorem updateInfos_alike : ∀ {as bs : List DisplayInfo}, (∀ a ∈ as, a.Queried) →
    (∀ b ∈ bs, b.Queried) → List.Forall₂ SamePlace as bs →
    (List.Forall₂ SameText (updateInfos as).2 (updateInfos bs).2 ↔ InfosAlike as bs)
  | [], [], _, _, .nil => iff_of_true .nil .nil
  | a :: as, b :: bs, hqa, hqb, .cons hp hps => by
    obtain ⟨hqa, hqas⟩ := List.forall_mem_cons.1 hqa
    obtain ⟨hqb, hqbs⟩ := List.forall_mem_cons.1 hqb
    by_cases ha : a.HasSerial <;> by_cases hb : b.HasSerial
    · rw [updateInfos_serial hqa ha, updateInfos_serial hqb hb, List.forall₂_cons,
        sameText_completed hqa hqb hp.present, updateInfos_alike hqas hqbs hps]
      constructor
      · rintro ⟨⟨hmonitor, hnames⟩, hrest⟩
        exact .cons ha hb hmonitor hnames hrest
      · rintro (_ | ⟨-, -, hmonitor, hnames, hrest⟩ | ⟨hstop, -, -, -⟩)
        · exact ⟨⟨hmonitor, hnames⟩, hrest⟩
        · exact absurd ha hstop
    · rw [updateInfos_serial hqa ha, updateInfos_stop hqb hb, List.forall₂_cons]
      refine iff_of_false (fun h => connectorName_stopped hqb hqa h.1.connectorName.symm) ?_
      rintro (_ | ⟨-, hserial, -, -, -⟩ | ⟨hstop, -, -, -⟩)
      · exact hb hserial
      · exact hstop ha
    · rw [updateInfos_stop hqa ha, updateInfos_serial hqb hb, List.forall₂_cons]
      refine iff_of_false (fun h => connectorName_stopped hqa hqb h.1.connectorName) ?_
      rintro (_ | ⟨hserial, -, -, -, -⟩ | ⟨-, hstop, -, -⟩)
      · exact ha hserial
      · exact hstop hb
    · rw [updateInfos_stop hqa ha, updateInfos_stop hqb hb, List.forall₂_cons,
        sameText_stopped hqa hqb, sameText_queried hqas hqbs]
      constructor
      · rintro ⟨hmonitor, hrest⟩
        exact .stop ha hb hmonitor hrest
      · rintro (_ | ⟨hserial, -, -, -, -⟩ | ⟨-, -, hmonitor, hrest⟩)
        · exact absurd hserial ha
        · exact ⟨hmonitor, hrest⟩

/-! ## Skipping -/

/-- What is drawn of two queries and not compared is the same. -/
structure DrawnAlike (state state' : DisplayState) : Prop where
  encoderCount : state.encoderCount = state'.encoderCount
  crtcCount : state.crtcCount = state'.crtcCount
  displayinfo : InfosAlike state.displayinfo state'.displayinfo

section Right

variable {α β : Type} {R : α → β → Prop} {P : α → Prop} {Q : β → Prop}

theorem forall₂_right (h : ∀ {a b}, R a b → P a → Q b) : ∀ {as bs}, List.Forall₂ R as bs →
    (∀ a ∈ as, P a) → ∀ b ∈ bs, Q b
  | _, _, .nil, _ => fun _ hb => nomatch hb
  | _, _, .cons hr hrs, hp =>
    List.forall_mem_cons.2 ⟨h hr (hp _ List.mem_cons_self),
      forall₂_right h hrs fun a ha => hp a (List.mem_cons_of_mem _ ha)⟩

end Right

theorem sized_update {state : DisplayState} (h : ∀ info ∈ state.displayinfo, info.Queried) :
    ∀ info ∈ (updateDisplayInfo state).2.displayinfo, Sized info := by
  refine forall₂_right ?_ (updateInfos_frame state.displayinfo) h
  intro info info' hf hq
  rw [Sized, hf.inSize, hf.mmWidth, hf.mmHeight]
  exact hq.sized

theorem samePlace_of_key {a b : DisplayInfo} (h : a.key = b.key) : SamePlace a b := by
  obtain ⟨-, hpresent, hy, hx, hw, hh⟩ := EntryKey.mk.inj h
  exact ⟨hpresent, hx, hy, hw, hh⟩

theorem samePlaces_of_key {state state' : DisplayState} (h : state.key = state'.key) :
    List.Forall₂ SamePlace state.displayinfo state'.displayinfo :=
  ((map_key_iff _ _).2 (congrArg StateKey.entries h)).imp fun _ _ => samePlace_of_key

/-- If the comparison finds no change, every window would show what it shows. -/
def SkipIsSound (current fresh : DisplayState) : Prop :=
  needUpdateDisplayInfo current fresh = false →
    ∀ maxy, refreshDisplayUi maxy (updateDisplayInfo fresh).2 = refreshDisplayUi maxy current

/-- A redraw is skipped rightly just if the compared fields of the two queries differ, or the others
are drawn alike. -/
theorem skipped_redraw_iff {resource resource' : Option ResourceView} {call call' : DisplayAnswers}
    {m m' : Ledger} {q q' : DisplayQuery} (h : queryDisplayInfo resource call m = some q)
    (h' : queryDisplayInfo resource' call' m' = some q') :
    SkipIsSound (updateDisplayInfo q.displayState).2 q'.displayState
      ↔ q.displayState.key ≠ q'.displayState.key ∨ DrawnAlike q.displayState q'.displayState := by
  have hq := queryDisplayInfo_queried h
  have hq' := queryDisplayInfo_queried h'
  have hneed : needUpdateDisplayInfo (updateDisplayInfo q.displayState).2 q'.displayState = false
      ↔ q.displayState.key = q'.displayState.key := by
    rw [needUpdate_iff, key_update]
    exact and_iff_right (queryDisplayInfo_valid h)
  unfold SkipIsSound
  rw [hneed, ← imp_iff_not_or]
  refine forall_congr' fun hkey => ?_
  have hkeys : (updateDisplayInfo q.displayState).2.key
      = (updateDisplayInfo q'.displayState).2.key := by
    rw [key_update, key_update, hkey]
  have hlines := displayLines_eq_iff (congrArg StateKey.connectorCount hkeys)
    (samePlaces_of_key hkeys) (sized_update hq) (sized_update hq')
  have hinfos := updateInfos_alike hq hq' (samePlaces_of_key hkey)
  have hrefresh := @refresh_eq_iff (updateDisplayInfo q.displayState).2
    (updateDisplayInfo q'.displayState).2
  rw [hlines] at hrefresh
  constructor
  · intro hsound
    have hshown := hrefresh.1 fun maxy => (hsound maxy).symm
    exact ⟨hshown.encoderCount, hshown.crtcCount, hinfos.1 hshown.displayinfo⟩
  · intro halike maxy
    refine (hrefresh.2 ?_ maxy).symm
    exact ⟨halike.encoderCount, halike.crtcCount, hinfos.2 halike.displayinfo⟩

section Example

/-- The monitor is changed for one with another serial number. -/
theorem skipped_redraw_stale :
    ∃ q q', queryDisplayInfo none (oneMonitor (some 65)) {} = some q
      ∧ queryDisplayInfo q.resource (oneMonitor (some 66)) q.m = some q'
      ∧ ¬ SkipIsSound (updateDisplayInfo q.displayState).2 q'.displayState := by
  obtain ⟨q, h, hstate⟩ := query_oneMonitor none (some 65) {}
  obtain ⟨q', h', hstate'⟩ := query_oneMonitor q.resource (some 66) q.m
  refine ⟨q, q', h, h', fun hsound => ?_⟩
  rw [hstate, hstate'] at hsound
  have hlines := hsound (by decide +kernel) 40
  exact absurd hlines (by decide +kernel)

theorem skipped_redraw_iff_serial :
    ∃ q q', queryDisplayInfo none (oneMonitor (some 65)) {} = some q
      ∧ queryDisplayInfo q.resource (oneMonitor (some 66)) q.m = some q'
      ∧ (SkipIsSound (updateDisplayInfo q.displayState).2 q'.displayState
        ↔ q.displayState.key ≠ q'.displayState.key ∨ DrawnAlike q.displayState q'.displayState) := by
  obtain ⟨q, h, -⟩ := query_oneMonitor none (some 65) {}
  obtain ⟨q', h', -⟩ := query_oneMonitor q.resource (some 66) q.m
  exact ⟨q, q', h, h', skipped_redraw_iff h h'⟩

end Example

end Amdtop
