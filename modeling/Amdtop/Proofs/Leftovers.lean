import Amdtop.GpuCap
import Amdtop.GpuMode
import Amdtop.Proofs.ByteString
import Amdtop.Proofs.PciInfo

/-!
# What a query leaves of the contents before it

Two calls on the same answers, from different structures. What differs afterwards is what the call
did not write: an address or an id its format does not match, the text before the one appended,
and the size of the gamma table (`queries_alike_iff`).
-/

namespace Amdtop

open Stdio

/-! ## Addresses and ids -/

/-- The numbers of a `PCI_ID` or a `PCI_SUBSYS_ID`, if the format matches it. -/
def idNumbers (value : List Char) : Option (UInt32 × UInt32) :=
  match (sscanf value "%04x:%04x").vals with
  | [.num vid, .num did] => some (vid, did)
  | _ => none

def GpuPciInfo.ids (pciInfo : GpuPciInfo) : UInt32 × UInt32 := (pciInfo.vid, pciInfo.did)

def GpuPciInfo.subIds (pciInfo : GpuPciInfo) : UInt32 × UInt32 := (pciInfo.subVid, pciInfo.subDid)

theorem GpuPciInfo.eq_iff (p q : GpuPciInfo) :
    p = q ↔ p.address = q.address ∧ p.ids = q.ids ∧ p.subIds = q.subIds := by
  constructor
  · rintro rfl
    exact ⟨rfl, rfl, rfl⟩
  · rintro ⟨h1, h2, h3⟩
    obtain ⟨_, _, _, _, _, _, _, _⟩ := p
    obtain ⟨_, _, _, _, _, _, _, _⟩ := q
    simp only [GpuPciInfo.address, GpuPciInfo.ids, GpuPciInfo.subIds, Prod.mk.injEq] at h1 h2 h3
    simp [h1, h2, h3]

section Scan

variable (pciInfo : GpuPciInfo) (value : List Char)

theorem scanSlot_ids : (pciInfo.scanSlot value).ids = pciInfo.ids
    ∧ (pciInfo.scanSlot value).subIds = pciInfo.subIds := by
  unfold GpuPciInfo.scanSlot
  split <;> exact ⟨rfl, rfl⟩

theorem scanId_ids : (pciInfo.scanId value).ids = (idNumbers value).getD pciInfo.ids
    ∧ (pciInfo.scanId value).subIds = pciInfo.subIds := by
  unfold GpuPciInfo.scanId idNumbers
  generalize (sscanf value "%04x:%04x").vals = vals
  rcases vals with _ | ⟨_ | _ | _, _ | ⟨_ | _ | _, _ | ⟨_, _⟩⟩⟩ <;> exact ⟨rfl, rfl⟩

theorem scanSubsysId_ids : (pciInfo.scanSubsysId value).ids = pciInfo.ids
    ∧ (pciInfo.scanSubsysId value).subIds = (idNumbers value).getD pciInfo.subIds := by
  unfold GpuPciInfo.scanSubsysId idNumbers
  generalize (sscanf value "%04x:%04x").vals = vals
  rcases vals with _ | ⟨_ | _ | _, _ | ⟨_ | _ | _, _ | ⟨_, _⟩⟩⟩ <;> exact ⟨rfl, rfl⟩

end Scan

theorem getD_alike_iff {α : Type} (o : Option α) (a b : α) :
    o.getD a = o.getD b ↔ o.isSome = true ∨ a = b := by
  rcases o with _ | x <;> simp

/-- Each part is read, or is what it was. -/
theorem scan_parts (slot ids subs : List Char) (pciInfo : GpuPciInfo) :
    let scanned := ((pciInfo.scanSlot slot).scanId ids).scanSubsysId subs
    scanned.address = (slotAddress slot).getD pciInfo.address
      ∧ scanned.ids = (idNumbers ids).getD pciInfo.ids
      ∧ scanned.subIds = (idNumbers subs).getD pciInfo.subIds := by
  dsimp only
  refine ⟨?_, ?_, ?_⟩
  · rw [scanSubsysId_address, scanId_address, scanSlot_address]
  · rw [(scanSubsysId_ids _ _).1, (scanId_ids _ _).1, (scanSlot_ids _ _).1]
  · rw [(scanSubsysId_ids _ _).2, (scanId_ids _ _).2, (scanSlot_ids _ _).2]

/-- The ids of a node's own `uevent`. -/
def Dri.ownIds (dri : Dri) (major minor : ℕ) (key : String) : Option (UInt32 × UInt32) :=
  (dri.value major minor key).bind idNumbers

/-- What the call does not read is the same before. -/
def Dri.UnreadAlike (dri : Dri) (device : GpuDevice) (old old' : GpuPciInfo) : Prop :=
  ((dri.ownAddress device.major device.minor).isSome = true ∨ old.address = old'.address)
    ∧ ((dri.ownIds device.major device.minor "PCI_ID").isSome = true ∨ old.ids = old'.ids)
    ∧ ((dri.ownIds device.major device.minor "PCI_SUBSYS_ID").isSome = true
      ∨ old.subIds = old'.subIds)

theorem hasKeys_of_ok {dri : Dri} {device : GpuDevice} {pciInfo : GpuPciInfo}
    (h : (gpuQueryPciInfo dri device pciInfo).1 = 0) :
    dri.hasKeys device.major device.minor = true := by
  by_contra hkeys
  exact gpuQueryPciInfo_fails pciInfo (Bool.eq_false_of_not_eq_true hkeys) h

theorem gpuQueryPciInfo_alike_iff {dri : Dri} {device : GpuDevice} {old old' : GpuPciInfo}
    (h : (gpuQueryPciInfo dri device old).1 = 0) :
    (gpuQueryPciInfo dri device old).2 = (gpuQueryPciInfo dri device old').2
      ↔ dri.UnreadAlike device old old' := by
  have hkeys := hasKeys_of_ok h
  simp only [Dri.hasKeys, Bool.and_eq_true, Option.isSome_iff_exists] at hkeys
  obtain ⟨⟨⟨slot, h1⟩, ids, h2⟩, subs, h3⟩ := hkeys
  obtain ⟨haddr, hids, hsubs⟩ := scan_parts slot ids subs old
  obtain ⟨haddr', hids', hsubs'⟩ := scan_parts slot ids subs old'
  rw [gpuQueryPciInfo_values h1 h2 h3, gpuQueryPciInfo_values h1 h2 h3, GpuPciInfo.eq_iff, haddr,
    haddr', hids, hids', hsubs, hsubs', getD_alike_iff, getD_alike_iff, getD_alike_iff]
  unfold Dri.UnreadAlike Dri.ownAddress Dri.ownIds
  rw [h1, h2, h3]
  rfl

/-! ## Capabilities -/

/-- The texts of the flags that are appended. -/
def capTexts (flag : UInt32) : List UInt8 :=
  (if flag &&& capabilitySsgFlag ≠ 0 then bytesOf "SSG " else [])
    ++ if flag &&& capabilityPinMemFlag ≠ 0 then bytesOf "Pin-MEM " else []

/-- The call reports the string. -/
def CapReported (device : ℕ) (cap : DrmAmdgpuCapability) (old : GpuCapInfo) (s : List UInt8) :
    Prop :=
  ∃ new, gpuQueryGpuCap device (some cap) (some old) = some (0, some new)
    ∧ cString new.capStr.1 = some s

theorem append_reports_iff (capInfo : GpuCapInfo) (flag : Bool) {text : String}
    (htext : ∀ b ∈ bytesOf text, b ≠ 0) {s : List UInt8} :
    (∃ new, capInfo.append flag text = some new ∧ cString new.capStr.1 = some s)
      ↔ ∃ t, cString capInfo.capStr.1 = some t
        ∧ t.length + (if flag then bytesOf text else []).length < gpucapStringSize
        ∧ s = t ++ if flag then bytesOf text else [] := by
  unfold GpuCapInfo.append
  rcases flag
  · simp only [Bool.false_eq_true, if_false, Option.some.injEq, exists_eq_left', List.length_nil,
      List.append_nil, Nat.add_zero]
    constructor
    · intro hs
      exact ⟨s, hs, length_cString_lt hs, rfl⟩
    · rintro ⟨t, ht, -, rfl⟩
      exact ht
  · simp only [if_true]
    rcases ht : cString capInfo.capStr.1 with _ | t
    · have hfull := strlen_of_none _ ht
      rw [strcat_overflow _ (by rw [hfull]; omega)]
      simp
    · by_cases hfit : t.length + (bytesOf text).length < gpucapStringSize
      · obtain ⟨buf, hbuf, hstr⟩ := strcat_fits _ ht htext hfit
        rw [hbuf]
        simp [hstr, hfit, eq_comm]
      · have hlen : strlen capInfo.capStr.1 = t.length :=
          congrArg List.length (cString_eq_some.1 ht).2
        rw [strcat_overflow _ (by rw [hlen]; omega)]
        simp [hfit]

theorem bytesOf_ssg : ∀ b ∈ bytesOf "SSG ", b ≠ 0 := forall_mem_of_all (by decide)

theorem bytesOf_pinMem : ∀ b ∈ bytesOf "Pin-MEM ", b ≠ 0 := forall_mem_of_all (by decide)

/-- Two texts in turn. -/
theorem append_append_reports_iff (capInfo : GpuCapInfo) (ssg pin : Bool) {s : List UInt8} :
    (∃ new, ((capInfo.append ssg "SSG ").bind (·.append pin "Pin-MEM ")) = some new
        ∧ cString new.capStr.1 = some s)
      ↔ ∃ t, cString capInfo.capStr.1 = some t
        ∧ t.length + ((if ssg then bytesOf "SSG " else []) ++
          if pin then bytesOf "Pin-MEM " else []).length < gpucapStringSize
        ∧ s = t ++ ((if ssg then bytesOf "SSG " else []) ++
          if pin then bytesOf "Pin-MEM " else []) := by
  constructor
  · rintro ⟨new, hnew, hs⟩
    obtain ⟨mid, hmid, hnew⟩ := Option.bind_eq_some_iff.1 hnew
    obtain ⟨u, hu, hfit, rfl⟩ := (append_reports_iff mid pin bytesOf_pinMem).1 ⟨new, hnew, hs⟩
    obtain ⟨t, ht, -, rfl⟩ := (append_reports_iff capInfo ssg bytesOf_ssg).1 ⟨mid, hmid, hu⟩
    rw [List.length_append] at hfit
    exact ⟨t, ht, by rw [List.length_append]; omega, by rw [List.append_assoc]⟩
  · rintro ⟨t, ht, hfit, rfl⟩
    rw [List.length_append] at hfit
    obtain ⟨mid, hmid, hu⟩ := (append_reports_iff capInfo ssg bytesOf_ssg).2
      ⟨t, ht, by omega, rfl⟩
    obtain ⟨new, hnew, hs⟩ := (append_reports_iff mid pin bytesOf_pinMem).2
      ⟨_, hu, by rw [List.length_append]; omega, rfl⟩
    exact ⟨new, by rw [hmid]; exact hnew, by rw [hs, List.append_assoc]⟩

theorem write_none (buf : Buffer gpucapStringSize) :
    ∃ buf', buf.write 0 (bytesOf "none") = some buf' ∧ cString buf'.1 = some (bytesOf "none") := by
  have hfit : 0 + (bytesOf "none").length < gpucapStringSize := by decide
  unfold Buffer.write
  rw [dif_pos hfit]
  exact ⟨_, rfl, cString_append (forall_mem_of_all (by decide)) _⟩

/-- The string reported is that of the flags alone only if there are none. -/
theorem capReported_iff {device : ℕ} {cap : DrmAmdgpuCapability} {old : GpuCapInfo}
    {s : List UInt8} :
    CapReported device cap old s ↔ cap.flag = 0 ∧ s = bytesOf "none"
      ∨ cap.flag ≠ 0 ∧ cap.flag &&& capabilityDirectGmaFlag = 0 ∧ ∃ t, cString old.capStr.1 = some t
        ∧ t.length + (capTexts cap.flag).length < gpucapStringSize ∧ s = t ++ capTexts cap.flag := by
  unfold CapReported gpuQueryGpuCap
  simp only [queryAmdGpuInfo, ne_eq, not_true_eq_false, if_false, Option.map_eq_some_iff,
    Prod.mk.injEq, true_and, Option.some.injEq]
  set capInfo : GpuCapInfo := { old with
    device := some device, flags := cap.flag, dgmaSize := cap.directGmaSize, dgmaSupport := false }
  by_cases hzero : cap.flag = 0
  · obtain ⟨buf, hbuf, hstr⟩ := write_none capInfo.capStr
    unfold GpuCapInfo.setCapStr
    rw [if_pos hzero, hbuf]
    simp [hzero, hstr, eq_comm]
  · by_cases hdgma : cap.flag &&& capabilityDirectGmaFlag = 0
    · have hset : capInfo.setCapStr cap.flag
          = (capInfo.append (cap.flag &&& capabilitySsgFlag ≠ 0) "SSG ").bind
            (·.append (cap.flag &&& capabilityPinMemFlag ≠ 0) "Pin-MEM ") := by
        unfold GpuCapInfo.setCapStr
        simp [hzero, hdgma]
      have hiff := append_append_reports_iff capInfo (cap.flag &&& capabilitySsgFlag ≠ 0)
        (cap.flag &&& capabilityPinMemFlag ≠ 0) (s := s)
      rw [hset]
      simp only [hzero, hdgma, not_false_eq_true, false_and, false_or, true_and, exists_eq_right]
      rw [hiff]
      simp only [capTexts, decide_eq_true_eq]
      rfl
    · unfold GpuCapInfo.setCapStr
      simp [hzero, hdgma]

/-- There are no flags, or no text is printed into itself and the texts follow the same string, with
room for them. -/
def CapAlike (flag : UInt32) (old old' : GpuCapInfo) : Prop :=
  flag = 0 ∨ flag &&& capabilityDirectGmaFlag = 0 ∧ ∃ t, cString old.capStr.1 = some t
    ∧ cString old'.capStr.1 = some t ∧ t.length + (capTexts flag).length < gpucapStringSize

theorem gpuQueryGpuCap_alike_iff {device : ℕ} {cap : DrmAmdgpuCapability} {old old' : GpuCapInfo} :
    (∃ s, CapReported device cap old s ∧ CapReported device cap old' s)
      ↔ CapAlike cap.flag old old' := by
  simp only [capReported_iff]
  constructor
  · rintro ⟨s, ⟨hzero, -⟩ | ⟨hflag, hdgma, t, ht, hfit, rfl⟩, h'⟩
    · exact Or.inl hzero
    · rcases h' with ⟨hzero, -⟩ | ⟨-, -, t', ht', -, heq⟩
      · exact absurd hzero hflag
      · obtain rfl := List.append_cancel_right heq
        exact Or.inr ⟨hdgma, t, ht, ht', hfit⟩
  · rintro (hzero | ⟨hdgma, t, ht, ht', hfit⟩)
    · exact ⟨_, Or.inl ⟨hzero, rfl⟩, Or.inl ⟨hzero, rfl⟩⟩
    · by_cases hzero : cap.flag = 0
      · exact ⟨_, Or.inl ⟨hzero, rfl⟩, Or.inl ⟨hzero, rfl⟩⟩
      · exact ⟨_, Or.inr ⟨hzero, hdgma, t, ht, hfit, rfl⟩, Or.inr ⟨hzero, hdgma, t, ht', hfit, rfl⟩⟩

/-! ## Crtcs -/

/-- The fields that are reported. -/
def GpuCrtc.reported (crtc : GpuCrtc) : UInt32 × UInt32 × UInt32 × UInt32 × UInt32 × UInt32 × UInt32
    × UInt32 × GpuModeInfo :=
  (crtc.id, crtc.fbId, crtc.x, crtc.y, crtc.width, crtc.height, crtc.gammaSize, crtc.modeValid,
    crtc.modeInfo)

theorem gpuGetCrtc_alike_iff (drmCrtc : DrmModeCrtc) (old old' : GpuCrtc) :
    (gpuGetCrtc (some drmCrtc) old).2.reported = (gpuGetCrtc (some drmCrtc) old').2.reported
      ↔ old.gammaSize = old'.gammaSize := by
  simp [gpuGetCrtc, GpuCrtc.reported]

/-! ## The three queries -/

/-- Two calls on the same answers, both with status 0, report the same just if what they do not
write was the same before. -/
theorem queries_alike_iff (dri : Dri) (device : GpuDevice) (pci pci' : GpuPciInfo) (gpu : ℕ)
    (cap : DrmAmdgpuCapability) (capInfo capInfo' : GpuCapInfo) (drmCrtc : DrmModeCrtc)
    (crtc crtc' : GpuCrtc) :
    ((gpuQueryPciInfo dri device pci).1 = 0 → (gpuQueryPciInfo dri device pci').1 = 0 →
      ((gpuQueryPciInfo dri device pci).2 = (gpuQueryPciInfo dri device pci').2
        ↔ dri.UnreadAlike device pci pci'))
    ∧ ((∃ s, CapReported gpu cap capInfo s ∧ CapReported gpu cap capInfo' s)
        ↔ CapAlike cap.flag capInfo capInfo')
    ∧ ((gpuGetCrtc (some drmCrtc) crtc).2.reported = (gpuGetCrtc (some drmCrtc) crtc').2.reported
        ↔ crtc.gammaSize = crtc'.gammaSize) :=
  ⟨fun h _ => gpuQueryPciInfo_alike_iff h, gpuQueryGpuCap_alike_iff,
    gpuGetCrtc_alike_iff drmCrtc crtc crtc'⟩

/-- A card whose `uevent` is read whole. -/
def cardUevent : Dri where
  dents := []
  uevent := fun _ _ => some (joinLines someUevent [])
  alloc := true

theorem queries_alike_card :
    (gpuQueryPciInfo cardUevent ⟨3, 0, 226, 0, .card⟩ {}).2
      = (gpuQueryPciInfo cardUevent ⟨3, 0, 226, 0, .card⟩ { bus := 9, vid := 7 }).2 :=
  ((queries_alike_iff cardUevent ⟨3, 0, 226, 0, .card⟩ {} { bus := 9, vid := 7 } 3 {} {} {}
    { crtcId := 1 } {} {}).1 (by decide) (by decide)).2
    ⟨Or.inl (by decide), Or.inl (by decide), Or.inl (by decide)⟩

/-- A crtc with a gamma table of 256 entries keeps the size it had, and the text of a device with
`SSG` grows with each call. -/
theorem queries_leave_leftovers :
    (gpuGetCrtc (some { crtcId := 1, gammaSize := 256 }) { gammaSize := 1 }).2.gammaSize = 1
      ∧ (gpuGetCrtc (some { crtcId := 1, gammaSize := 256 }) { gammaSize := 2 }).2.gammaSize = 2
      ∧ ∃ first second, gpuQueryGpuCap 3 (some { flag := 4 }) (some {}) = some (0, some first)
        ∧ gpuQueryGpuCap 3 (some { flag := 4 }) (some first) = some (0, some second)
        ∧ cString first.capStr.1 = some (bytesOf "SSG ")
        ∧ cString second.capStr.1 = some (bytesOf "SSG SSG ") := by
  refine ⟨rfl, rfl, ?_⟩
  have hreport : ∀ (old : GpuCapInfo) (t : List UInt8), cString old.capStr.1 = some t →
      t.length + 4 < gpucapStringSize → CapReported 3 { flag := 4 } old (t ++ bytesOf "SSG ") :=
    fun old t ht hfit => capReported_iff.2 (Or.inr ⟨by decide, by decide, t, ht, hfit, rfl⟩)
  obtain ⟨first, hfirst, hs⟩ := hreport {} [] (by decide) (by decide)
  obtain ⟨second, hsecond, hs'⟩ := hreport first _ hs (by decide)
  exact ⟨first, second, hfirst, hsecond, hs, hs'⟩

end Amdtop
