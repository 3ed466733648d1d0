import Mathlib.Data.List.Forall2
import Amdtop.Proofs.DisplayRoom

/-!
# Completing a display state

An entry whose EDID has no serial number ends `update_display_info`, with a default in its place:
the entry's names and the entries behind it are left out (`update_display_info_iff`).
-/

namespace Amdtop

open Heap Stdio

/-! ## Texts -/

/-- The text of the first descriptor with the tag: its 13 bytes up to a null or a line feed. -/
def descriptorText (tag : UInt8) (edid : List UInt8) : Option (List Char) :=
  (findDescriptor tag edid).map fun i =>
    (((monitorData edid i 13).takeWhile (· ≠ 0)).map byteChar).takeWhile (· ≠ '\n')

theorem takeWhile_of_notMem {l : List Char} {c : Char} (h : c ∉ l) : l.takeWhile (· ≠ c) = l :=
  List.takeWhile_eq_self_iff.2 fun _ hx => decide_eq_true fun hc => h (hc ▸ hx)

theorem length_takeWhile_lt {l : List Char} {c : Char} (h : c ∈ l) :
    (l.takeWhile (· ≠ c)).length < l.length := by
  refine lt_of_le_of_ne (List.takeWhile_prefix _).length_le fun heq => ?_
  have hall := List.takeWhile_eq_self_iff.1 ((List.takeWhile_prefix (· ≠ c)).eq_of_length heq)
  exact absurd rfl (of_decide_eq_true (hall c h))

theorem monitorData_succ (edid : List UInt8) (i n : ℕ) :
    (monitorData edid i (n + 1)).take n = monitorData edid i n := by
  unfold monitorData
  rw [← List.map_take, List.take_range, Nat.min_eq_left (Nat.le_succ n)]

/-- In a cleared buffer the text is cut off as one expects: the byte behind the descriptor is read,
and does not count. -/
theorem edidGetText_nil (tag : UInt8) (edid : List UInt8) :
    edidGetText tag edid [] = match descriptorText tag edid with
      | none => (-einval, [])
      | some text => (0, text) := by
  unfold edidGetText descriptorText
  rcases findDescriptor tag edid with _ | i
  · rfl
  set text := ((monitorData edid i descriptorStringSize).takeWhile (· ≠ 0)).map byteChar with htext
  have hcopy : strncpy [] (monitorData edid i descriptorStringSize) descriptorStringSize = text := by
    simp [strncpy, htext]
  have htake : ((monitorData edid i 13).takeWhile (· ≠ 0)).map byteChar = text.take 13 := by
    have hdata : (monitorData edid i descriptorStringSize).take 13 = monitorData edid i 13 :=
      monitorData_succ edid i 13
    rw [htext, ← List.map_take, List.take_takeWhile, hdata]
  simp only [hcopy, Option.map_some, htake, ← List.take_takeWhile]
  split_ifs with hline
  · have hlen : text.length ≤ 14 := by
      rw [htext, List.length_map]
      exact (List.takeWhile_prefix _).length_le.trans (by simp [monitorData, descriptorStringSize])
    have hlt := length_takeWhile_lt hline
    rw [List.take_of_length_le (by omega)]
  · rw [takeWhile_of_notMem hline]
    rfl

/-! ## What a query leaves -/

/-- The size is that of the sides. -/
def Sized (info : DisplayInfo) : Prop :=
  info.inSize = info.mmWidth * info.mmWidth + info.mmHeight * info.mmHeight

/-- What completing writes is still cleared. -/
structure DisplayInfo.Queried (info : DisplayInfo) : Prop where
  monitorName : info.monitorName = []
  serialNumer : info.serialNumer = []
  manufacturer : info.manufacturer = []
  year : info.year = 0
  week : info.week = 0
  connectorName : info.connectorName = []
  encoderName : info.encoderName = []
  sized : Sized info

theorem ConnectorView.entry_queried (connector : ConnectorView) (edid : BlobBuffer)
    (dpms : EnumBuffer) : (connector.entry edid dpms).Queried := by
  unfold entry setMode
  dsimp only
  split_ifs <;> constructor <;> rfl

theorem queryConnectors_queried {resource : ResourceView} {answers : List (Answer ConnectorView)}
    {ret : ℤ} {state : DisplayState} {m : Ledger} {r : ℤ × DisplayState × Ledger}
    (h : queryConnectors resource answers ret state m = some r)
    (hs : ∀ info ∈ state.displayinfo, info.Queried) : ∀ info ∈ r.2.1.displayinfo, info.Queried := by
  refine queryConnectors_keeps (I := fun state _ => ∀ info ∈ state.displayinfo, info.Queried)
    (fun hs => hs) (fun hs => hs) ?_ (List.Subset.refl answers) h hs
  intro a connector state m r _ _ hc hs info hmem
  obtain ⟨-, -, hinfos⟩ | ⟨-, -, -, edid, dpms, -, -, -, hinfos⟩ := queryConnector_cases hc
  · rw [hinfos] at hmem
    exact hs info hmem
  · rw [hinfos] at hmem
    rcases List.mem_append.1 hmem with hmem | hmem
    · exact hs info hmem
    · obtain rfl := List.mem_singleton.1 hmem
      exact connector.entry_queried edid dpms

theorem queryDisplayInfo_queried {resource : Option ResourceView} {call : DisplayAnswers}
    {m : Ledger} {q : DisplayQuery} (h : queryDisplayInfo resource call m = some q) :
    ∀ info ∈ q.displayState.displayinfo, info.Queried := by
  unfold queryDisplayInfo at h
  dsimp only at h
  split_ifs at h
  · obtain rfl := Option.some.inj h
    exact fun _ hmem => nomatch hmem
  · obtain ⟨res, -, h⟩ := Option.bind_eq_some_iff.1 h
    split_ifs at h
    obtain ⟨r, hr, rfl⟩ := Option.map_eq_some_iff.1 h
    exact queryConnectors_queried hr fun _ hmem => nomatch hmem

/-! ## Completing -/

/-- Either there is no EDID, or it has a serial number. -/
def DisplayInfo.HasSerial (info : DisplayInfo) : Prop :=
  info.edidLen = 0 ∨ findDescriptor tagSerialNumber info.edid ≠ none

/-- What the display of an entry is completed to. -/
structure Completed (queried completed : DisplayInfo) : Prop where
  connectorName : completed.connectorName
    = getConnectorNameByType queried.connectorType ++ '-' :: printInt queried.connectorTypeId
  encoderName : queried.present →
    completed.encoderName = getEncoderNameByType queried.encoderType
  monitorName : queried.edidLen ≠ 0 →
    completed.monitorName = (descriptorText tagMonitorName queried.edid).getD unknow
  serialNumer : queried.edidLen ≠ 0 →
    completed.serialNumer = (descriptorText tagSerialNumber queried.edid).getD unknow

/-- The fields that `parseEDIDInfo` does not write. -/
structure ParseFrame (info info' : DisplayInfo) : Prop where
  present : info'.present = info.present
  connectorType : info'.connectorType = info.connectorType
  connectorTypeId : info'.connectorTypeId = info.connectorTypeId
  encoderType : info'.encoderType = info.encoderType
  mmWidth : info'.mmWidth = info.mmWidth
  mmHeight : info'.mmHeight = info.mmHeight
  inSize : info'.inSize = info.inSize
  dpmsState : info'.dpmsState = info.dpmsState
  dpmsValue : info'.dpmsValue = info.dpmsValue
  startx : info'.startx = info.startx
  starty : info'.starty = info.starty
  width : info'.width = info.width
  height : info'.height = info.height

section Parse

variable {info : DisplayInfo}

theorem parseEDIDInfo_zero (h : info.edidLen = 0) : parseEDIDInfo info = (0, info) := by
  unfold parseEDIDInfo
  rw [if_pos h]

theorem getText_ret (tag : UInt8) (edid : List UInt8) :
    (edidGetText tag edid []).1 = 0 ↔ findDescriptor tag edid ≠ none := by
  rw [edidGetText_nil, descriptorText]
  rcases findDescriptor tag edid with _ | i
  · exact iff_of_false (show (-einval : ℤ) ≠ 0 by decide) fun h => h rfl
  · exact iff_of_true rfl (Option.some_ne_none i)

/-- The text that is kept, with the default. -/
theorem getText_text (tag : UInt8) (edid : List UInt8) :
    (if (edidGetText tag edid []).1 ≠ 0 then unknow else (edidGetText tag edid []).2)
      = (descriptorText tag edid).getD unknow := by
  rw [edidGetText_nil]
  rcases descriptorText tag edid with _ | text
  · exact if_pos (by decide)
  · exact if_neg (not_not.2 rfl)

/-- What the sub-parsers leave, the default where one fails. -/
theorem parseEDIDInfo_eq (hlen : info.edidLen ≠ 0) : parseEDIDInfo info
    = ((edidGetSerialNumber info.edid info.serialNumer).1, { info with
        year := (manufactureYear info.edid).toUInt32 + 1990
        week := (manufactureWeek info.edid).toUInt32
        manufacturer := edidManufacturer info.edid
        monitorName :=
          if (edidGetMonitorName info.edid info.monitorName).1 ≠ 0 then unknow
          else (edidGetMonitorName info.edid info.monitorName).2
        serialNumer :=
          if (edidGetSerialNumber info.edid info.serialNumer).1 ≠ 0 then unknow
          else (edidGetSerialNumber info.edid info.serialNumer).2 }) := by
  rcases hname : edidGetMonitorName info.edid info.monitorName with ⟨ret, name⟩
  rcases hserial : edidGetSerialNumber info.edid info.serialNumer with ⟨ret', serial⟩
  unfold parseEDIDInfo edidGetDate edidGetManufacturer
  rw [if_neg hlen]
  by_cases h : ret = 0 <;> by_cases h' : ret' = 0 <;> simp [h, h', hname, hserial]

theorem parseEDIDInfo_frame (info : DisplayInfo) : ParseFrame info (parseEDIDInfo info).2 := by
  by_cases hlen : info.edidLen = 0
  · rw [parseEDIDInfo_zero hlen]
    constructor <;> rfl
  · rw [parseEDIDInfo_eq hlen]
    constructor <;> rfl

theorem parseEDIDInfo_ret (hq : info.Queried) : (parseEDIDInfo info).1 = 0 ↔ info.HasSerial := by
  by_cases hlen : info.edidLen = 0
  · rw [parseEDIDInfo_zero hlen]
    exact iff_of_true rfl (Or.inl hlen)
  · rw [parseEDIDInfo_eq hlen, hq.serialNumer, DisplayInfo.HasSerial, or_iff_right hlen]
    exact getText_ret tagSerialNumber info.edid

theorem parseEDIDInfo_texts (hq : info.Queried) (hlen : info.edidLen ≠ 0) :
    (parseEDIDInfo info).2.monitorName = (descriptorText tagMonitorName info.edid).getD unknow
      ∧ (parseEDIDInfo info).2.serialNumer
        = (descriptorText tagSerialNumber info.edid).getD unknow := by
  rw [← getText_text, ← getText_text, parseEDIDInfo_eq hlen, hq.monitorName, hq.serialNumer]
  exact ⟨rfl, rfl⟩

end Parse

section Update

namespace ParseFrame

variable {info info' info'' : DisplayInfo}

theorem refl (info : DisplayInfo) : ParseFrame info info := by
  constructor <;> rfl

theorem trans (h : ParseFrame info info') (h' : ParseFrame info' info'') :
    ParseFrame info info'' where
  present := h'.present.trans h.present
  connectorType := h'.connectorType.trans h.connectorType
  connectorTypeId := h'.connectorTypeId.trans h.connectorTypeId
  encoderType := h'.encoderType.trans h.encoderType
  mmWidth := h'.mmWidth.trans h.mmWidth
  mmHeight := h'.mmHeight.trans h.mmHeight
  inSize := h'.inSize.trans h.inSize
  dpmsState := h'.dpmsState.trans h.dpmsState
  dpmsValue := h'.dpmsValue.trans h.dpmsValue
  startx := h'.startx.trans h.startx
  starty := h'.starty.trans h.starty
  width := h'.width.trans h.width
  height := h'.height.trans h.height

end ParseFrame

theorem setNames_frame (info : DisplayInfo) : ParseFrame info info.setNames := by
  unfold DisplayInfo.setNames
  dsimp only
  split_ifs <;> constructor <;> rfl

theorem updateInfos_frame : ∀ infos : List DisplayInfo,
    List.Forall₂ ParseFrame infos (updateInfos infos).2
  | [] => .nil
  | info :: infos => by
    unfold updateInfos
    dsimp only
    split_ifs
    · exact .cons (parseEDIDInfo_frame info) (List.forall₂_same.2 fun info _ => ParseFrame.refl info)
    · exact .cons ((parseEDIDInfo_frame info).trans (setNames_frame _)) (updateInfos_frame infos)

/-- The first entry without a serial number ends the loop. -/
theorem updateInfos_ret : ∀ {infos : List DisplayInfo}, (∀ info ∈ infos, info.Queried) →
    ((updateInfos infos).1 = 0 ↔ ∀ info ∈ infos, info.HasSerial)
  | [], _ => iff_of_true rfl fun _ h => nomatch h
  | info :: infos, hq => by
    obtain ⟨hinfo, hinfos⟩ := List.forall_mem_cons.1 hq
    unfold updateInfos
    dsimp only
    rw [List.forall_mem_cons, ← parseEDIDInfo_ret hinfo, ← updateInfos_ret hinfos]
    split_ifs with h
    · exact iff_of_false h fun hc => h hc.1
    · rw [and_iff_right (not_not.1 h)]

theorem completed_setNames {info : DisplayInfo} (hq : info.Queried) :
    Completed info (parseEDIDInfo info).2.setNames := by
  have hframe := parseEDIDInfo_frame info
  have htexts := parseEDIDInfo_texts hq
  refine ⟨?_, ?_, fun hlen => ?_, fun hlen => ?_⟩
  · rw [← hframe.connectorType, ← hframe.connectorTypeId]
    unfold DisplayInfo.setNames
    dsimp only
    split_ifs <;> rfl
  · intro hpresent
    rw [← hframe.encoderType, DisplayInfo.setNames]
    rw [← hframe.present] at hpresent
    rw [if_pos hpresent]
  · rw [← (htexts hlen).1]
    unfold DisplayInfo.setNames
    dsimp only
    split_ifs <;> rfl
  · rw [← (htexts hlen).2]
    unfold DisplayInfo.setNames
    dsimp only
    split_ifs <;> rfl

theorem updateInfos_completed : ∀ {infos : List DisplayInfo}, (∀ info ∈ infos, info.Queried) →
    (∀ info ∈ infos, info.HasSerial) → List.Forall₂ Completed infos (updateInfos infos).2
  | [], _, _ => .nil
  | info :: infos, hq, hserial => by
    obtain ⟨hinfo, hinfos⟩ := List.forall_mem_cons.1 hq
    obtain ⟨hserial, hrest⟩ := List.forall_mem_cons.1 hserial
    unfold updateInfos
    dsimp only
    rw [if_neg (not_not.2 ((parseEDIDInfo_ret hinfo).2 hserial))]
    exact .cons (completed_setNames hinfo) (updateInfos_completed hinfos hrest)

end Update

/-- `update_display_info` returns 0 and completes every entry. -/
def Completes (state : DisplayState) : Prop :=
  (updateDisplayInfo state).1 = 0
    ∧ List.Forall₂ Completed state.displayinfo (updateDisplayInfo state).2.displayinfo

/-- A queried state is completed just if every EDID in it has a serial number. -/
theorem update_display_info_iff {resource : Option ResourceView} {call : DisplayAnswers}
    {m : Ledger} {q : DisplayQuery} (h : queryDisplayInfo resource call m = some q) :
    Completes q.displayState ↔ ∀ info ∈ q.displayState.displayinfo, info.HasSerial := by
  have hq := queryDisplayInfo_queried h
  exact ⟨fun hc => (updateInfos_ret hq).1 hc.1, fun hserial =>
    ⟨(updateInfos_ret hq).2 hserial, updateInfos_completed hq hserial⟩⟩

section Example

/-- The EDID of a monitor with the letter as its serial number, or with no descriptor. -/
def monitorEdid (serial : Option UInt8) : List UInt8 :=
  List.replicate 57 0 ++ serial.elim [] (fun c => [0xff, 0, c, 10]) ++ List.replicate 67 0

/-- One connected connector, with that monitor. -/
def oneMonitor (serial : Option UInt8) : DisplayAnswers where
  resource := ⟨0, some { connectorCount := 1, encoderCount := 1, crtcsCount := 1, fbCount := 0 }⟩
  connectors _ :=
    let prop := ⟨0, some
      { flags := 16, name := "EDID".toList, countEnums := 0, enumName := fun _ => [] }⟩
    ⟨0, some { plainConnector with
      props := [{ value := 1, blobProp := prop, blob := ⟨0, some (monitorEdid serial)⟩
                  enumProp := prop }] }⟩

def oneMonitorState (serial : Option UInt8) : DisplayState where
  valid := true
  displayinfo := [plainConnector.entry (BlobBuffer.copy (monitorEdid serial) {}) {}]
  connectorCount := 1
  encoderCount := 1
  crtcCount := 1

theorem query_oneMonitor (resource : Option ResourceView) (serial : Option UInt8) (m : Ledger) :
    ∃ q, queryDisplayInfo resource (oneMonitor serial) m = some q
      ∧ q.displayState = oneMonitorState serial :=
  ⟨_, rfl, rfl⟩

theorem update_display_info_no_serial :
    ∃ q, queryDisplayInfo none (oneMonitor none) {} = some q ∧ ¬ Completes q.displayState := by
  obtain ⟨q, h, hstate⟩ := query_oneMonitor none none {}
  refine ⟨q, h, fun hc => ?_⟩
  have hret := hc.1
  rw [hstate] at hret
  exact absurd hret (by decide +kernel)

theorem update_display_info_iff_no_serial :
    ∃ q, queryDisplayInfo none (oneMonitor none) {} = some q ∧ (Completes q.displayState
      ↔ ∀ info ∈ q.displayState.displayinfo, info.HasSerial) := by
  obtain ⟨q, h, -⟩ := query_oneMonitor none none {}
  exact ⟨q, h, update_display_info_iff h⟩

end Example

end Amdtop
