import Amdtop.Command
import Amdtop.RingInfo
import Mathlib.Data.List.Range

/-!
# What the Ring tab reads

The filling loop stops at the array's end, the drawing loop at the count the kernel reports. So a
visit reads what it has filled just if it fills nothing to the end, or no count is over 4
(`ring_info_iff`).
-/

namespace Amdtop

open Cmd RingTab

/-! ## The queries of a row -/

/-- The count and the instances asked for of a type are answered. -/
def RingVisit.Answers (v : RingVisit) (ipType : GpuHwIpType) : Prop :=
  ∃ count, v.count ipType = some count
    ∧ ∀ j < min count.toNat maxIpInstance, (v.info ipType (.ofNat j)).isSome = true

theorem drawnInstances_eq (count : UInt32) :
    drawnInstances count = List.range count.toNat := by
  unfold drawnInstances
  split_ifs with h
  · rw [h]
    rfl
  · rfl

variable {v : RingVisit} (device : ℕ)

theorem RingTab.queryInstances_cons (row : ℕ) (ipType : GpuHwIpType) (j : ℕ) (js : List ℕ)
    (hwIpInfos : Vector GpuHwIPInfo maxIpInstance) (fills : List IpFill) :
    ((v.info ipType (.ofNat j)).isSome = true ∧ ∃ hwIpInfos',
        queryInstances v device row ipType (j :: js) hwIpInfos fills
          = queryInstances v device row ipType js hwIpInfos' (⟨row, device, ipType, j⟩ :: fills))
      ∨ ((v.info ipType (.ofNat j)).isSome = false ∧
        (queryInstances v device row ipType (j :: js) hwIpInfos fills).1 ≠ 0) := by
  rw [queryInstances]
  unfold gpuQueryHwIpInfo
  rcases v.info ipType (.ofNat j) with _ | info
  · exact Or.inr ⟨rfl, by simp [ioctlFailed]⟩
  · exact Or.inl ⟨rfl, _, rfl⟩

theorem RingTab.queryInstances_ret (row : ℕ) (ipType : GpuHwIpType) : ∀ (js : List ℕ)
    (hwIpInfos : Vector GpuHwIPInfo maxIpInstance) (fills : List IpFill),
    (queryInstances v device row ipType js hwIpInfos fills).1 = 0
      ↔ ∀ j ∈ js, (v.info ipType (.ofNat j)).isSome = true
  | [], _, _ => iff_of_true rfl fun _ hj => absurd hj List.not_mem_nil
  | j :: js, hwIpInfos, fills => by
    rw [List.forall_mem_cons]
    obtain ⟨hsome, hwIpInfos', heq⟩ | ⟨hnone, hret⟩ :=
      queryInstances_cons device row ipType j js hwIpInfos fills
    · rw [heq, queryInstances_ret row ipType js]
      exact (and_iff_right hsome).symm
    · exact iff_of_false hret fun hall => Bool.false_ne_true (hnone.symm.trans hall.1)

/-- A loop that comes to its end fills all instances. -/
theorem RingTab.queryInstances_fills (row : ℕ) (ipType : GpuHwIpType) : ∀ (js : List ℕ)
    (hwIpInfos : Vector GpuHwIPInfo maxIpInstance) (fills : List IpFill),
    (∀ j ∈ js, (v.info ipType (.ofNat j)).isSome = true) → ∀ fill,
      fill ∈ fills ∨ (∃ j ∈ js, fill = ⟨row, device, ipType, j⟩) →
      fill ∈ (queryInstances v device row ipType js hwIpInfos fills).2.2
  | [], _, _, _, fill, hfill => by
    obtain hold | ⟨j, hj, -⟩ := hfill
    · exact hold
    · exact absurd hj List.not_mem_nil
  | j :: js, hwIpInfos, fills, hall, fill, hfill => by
    rw [List.forall_mem_cons] at hall
    obtain ⟨-, hwIpInfos', heq⟩ | ⟨hnone, -⟩ :=
      queryInstances_cons device row ipType j js hwIpInfos fills
    · rw [heq]
      refine queryInstances_fills row ipType js hwIpInfos' _ hall.2 fill ?_
      obtain hold | ⟨k, hk, hfill⟩ := hfill
      · exact Or.inl (List.mem_cons_of_mem _ hold)
      obtain rfl | hk := List.mem_cons.1 hk
      · exact Or.inl (hfill ▸ List.mem_cons_self)
      · exact Or.inr ⟨k, hk, hfill⟩
    · exact absurd (hnone.symm.trans hall.1) Bool.false_ne_true

theorem answers_iff {ipType : GpuHwIpType} {count : UInt32} (h : v.count ipType = some count) :
    v.Answers ipType ↔ ∀ j ∈ List.range (min count.toNat maxIpInstance),
      (v.info ipType (.ofNat j)).isSome = true := by
  constructor
  · rintro ⟨count', hcount', hall⟩ j hj
    obtain rfl := Option.some.inj (h.symm.trans hcount')
    exact hall j (List.mem_range.1 hj)
  · exact fun hall => ⟨count, h, fun j hj => hall j (List.mem_range.2 hj)⟩

/-! ## The rows -/

/-- A row that is answered is filled, and the loop goes on. -/
theorem RingTab.queryRows_answered {ipinfo : IpInfo} (h : v.Answers ipinfo.ipType) (i : ℕ)
    (rows : List IpInfo) (fills : List IpFill) : ∃ count hwIpInfos fills',
    v.count ipinfo.ipType = some count
      ∧ queryRows v device i (ipinfo :: rows) fills
        = ((queryRows v device (i + 1) rows fills').1,
          { ipinfo with count, hwIpInfos } :: (queryRows v device (i + 1) rows fills').2.1,
          (queryRows v device (i + 1) rows fills').2.2)
      ∧ (∀ fill ∈ fills, fill ∈ fills')
      ∧ ∀ j < min count.toNat maxIpInstance, ⟨i, device, ipinfo.ipType, j⟩ ∈ fills' := by
  obtain ⟨count, hcount, -⟩ := id h
  have hall := (answers_iff hcount).1 h
  have hret := (queryInstances_ret device i ipinfo.ipType _ ipinfo.hwIpInfos fills).2 hall
  have hfills := queryInstances_fills device i ipinfo.ipType _ ipinfo.hwIpInfos fills hall
  rcases hquery : queryInstances v device i ipinfo.ipType
    (List.range (min count.toNat maxIpInstance)) ipinfo.hwIpInfos fills with ⟨ret, infos, fills'⟩
  rw [hquery] at hret hfills
  refine ⟨count, infos, fills', hcount, ?_, fun fill hfill => hfills fill (Or.inl hfill), fun j hj =>
    hfills _ (Or.inr ⟨j, List.mem_range.2 hj, rfl⟩)⟩
  rw [queryRows, hcount, gpuQueryHwIpCount]
  dsimp only
  rw [if_neg (by decide), hquery]
  exact if_neg (not_not.2 hret)

theorem RingTab.queryRows_unanswered {ipinfo : IpInfo} (h : ¬ v.Answers ipinfo.ipType) (i : ℕ)
    (rows : List IpInfo) (fills : List IpFill) :
    (queryRows v device i (ipinfo :: rows) fills).1 ≠ 0
      ∧ (queryRows v device i (ipinfo :: rows) fills).2.1.map (·.ipType)
        = (ipinfo :: rows).map (·.ipType) := by
  rw [queryRows]
  unfold gpuQueryHwIpCount
  rcases hcount : v.count ipinfo.ipType with _ | count
  · exact ⟨by simp [ioctlFailed], rfl⟩
  dsimp only
  have hret := mt (queryInstances_ret device i ipinfo.ipType _ ipinfo.hwIpInfos
    fills).1 (mt (answers_iff hcount).2 h)
  rw [if_neg (by decide), if_pos hret]
  exact ⟨hret, rfl⟩

theorem RingTab.queryRows_ret : ∀ (i : ℕ) (rows : List IpInfo) (fills : List IpFill),
    (queryRows v device i rows fills).1 = 0 ↔ ∀ row ∈ rows, v.Answers row.ipType
  | _, [], _ => iff_of_true rfl fun _ hrow => absurd hrow List.not_mem_nil
  | i, ipinfo :: rows, fills => by
    rw [List.forall_mem_cons]
    by_cases h : v.Answers ipinfo.ipType
    · obtain ⟨count, hwIpInfos, fills', -, heq, -⟩ := queryRows_answered device h i rows fills
      rw [heq]
      exact (queryRows_ret (i + 1) rows fills').trans (and_iff_right h).symm
    · exact iff_of_false (queryRows_unanswered device h i rows fills).1 fun hall => h hall.1

/-- The table's types stay. -/
theorem RingTab.queryRows_types : ∀ (i : ℕ) (rows : List IpInfo) (fills : List IpFill),
    (queryRows v device i rows fills).2.1.map (·.ipType) = rows.map (·.ipType)
  | _, [], _ => rfl
  | i, ipinfo :: rows, fills => by
    by_cases h : v.Answers ipinfo.ipType
    · obtain ⟨count, hwIpInfos, fills', -, heq, -⟩ := queryRows_answered device h i rows fills
      rw [heq, List.map_cons, List.map_cons, queryRows_types (i + 1) rows fills']
    · exact (queryRows_unanswered device h i rows fills).2

theorem RingTab.queryRows_keeps : ∀ (i : ℕ) (rows : List IpInfo) (fills : List IpFill),
    (∀ row ∈ rows, v.Answers row.ipType) →
    ∀ fill ∈ fills, fill ∈ (queryRows v device i rows fills).2.2
  | _, [], _, _, _, hfill => hfill
  | i, ipinfo :: rows, fills, h, fill, hfill => by
    rw [List.forall_mem_cons] at h
    obtain ⟨count, hwIpInfos, fills', -, heq, hsub, -⟩ :=
      queryRows_answered device h.1 i rows fills
    rw [heq]
    exact queryRows_keeps (i + 1) rows fills' h.2 fill (hsub fill hfill)

/-- What is read inside the array has been filled. -/
theorem RingTab.queryRows_filled : ∀ (i : ℕ) (rows : List IpInfo) (fills : List IpFill),
    (∀ row ∈ rows, v.Answers row.ipType) →
    ∀ r ∈ drawRows i (queryRows v device i rows fills).2.1, r.inst < maxIpInstance →
      ⟨r.row, device, r.ipType, r.inst⟩ ∈ (queryRows v device i rows fills).2.2
  | _, [], _, _, _, hr, _ => absurd hr List.not_mem_nil
  | i, ipinfo :: rows, fills, h, r, hr, hinst => by
    rw [List.forall_mem_cons] at h
    obtain ⟨count, hwIpInfos, fills', -, heq, -, hfilled⟩ :=
      queryRows_answered device h.1 i rows fills
    rw [heq] at hr ⊢
    obtain hrow | hrest := List.mem_append.1 hr
    · obtain ⟨j, hj, rfl⟩ := List.mem_map.1 hrow
      rw [drawnInstances_eq, List.mem_range] at hj
      exact queryRows_keeps device (i + 1) rows fills' h.2 _ (hfilled j (lt_min hj hinst))
    · exact queryRows_filled (i + 1) rows fills' h.2 r hrest hinst

/-- Counts over 4 are read to their end. -/
theorem RingTab.queryRows_inside : ∀ (i : ℕ) (rows : List IpInfo) (fills : List IpFill),
    (∀ row ∈ rows, v.Answers row.ipType) →
    ((∀ r ∈ drawRows i (queryRows v device i rows fills).2.1, r.inst < maxIpInstance)
      ↔ ∀ row ∈ rows, ∀ count, v.count row.ipType = some count → count.toNat ≤ maxIpInstance)
  | _, [], _, _ => iff_of_true (fun _ hr => absurd hr List.not_mem_nil)
    fun _ hrow => absurd hrow List.not_mem_nil
  | i, ipinfo :: rows, fills, h => by
    rw [List.forall_mem_cons] at h
    obtain ⟨count, hwIpInfos, fills', hcount, heq, -⟩ :=
      queryRows_answered device h.1 i rows fills
    rw [heq, drawRows, List.forall_mem_append, List.forall_mem_cons,
      queryRows_inside (i + 1) rows fills' h.2, drawnInstances_eq, List.forall_mem_map]
    refine and_congr_left' ⟨fun hall count' hcount' => ?_, fun hle j hj => ?_⟩
    · obtain rfl := Option.some.inj (hcount.symm.trans hcount')
      by_contra hlt
      exact absurd (hall maxIpInstance (List.mem_range.2 (not_le.1 hlt))) (lt_irrefl _)
    · exact (List.mem_range.1 hj).trans_le (hle count hcount)

/-! ## A run -/

/-- Where the visit is to a device whose driver is loaded. -/
def RingVisit.Reaches (v : RingVisit) : Prop := v.driverisLoaded = true ∧ v.device.isSome = true

/-- Each entry read is in the array and was filled before, from the active device. -/
def RingTab.ReadsFilled (tab : RingTab) (v : RingVisit) : Prop :=
  v.Reaches → ∀ r ∈ (tabRingInfoInit v tab).2.1, r.inst < maxIpInstance
    ∧ ∃ device, v.device = some device
      ∧ ⟨r.row, device, r.ipType, r.inst⟩ ∈ (tabRingInfoInit v tab).2.2.1

/-- No type has more instances than the array, if all queries of the visit are answered. -/
def RingVisit.Fits (v : RingVisit) : Prop :=
  v.Reaches → (∀ row ∈ ipinfos, v.Answers row.ipType) →
    ∀ row ∈ ipinfos, ∀ count, v.count row.ipType = some count → count.toNat ≤ maxIpInstance

/-- The tab has no device of its own, and the types of its table. -/
structure RingTab.Sound (tab : RingTab) : Prop where
  noDevice : tab.currentDevice = none
  types : tab.ipinfos.map (·.ipType) = Amdtop.ipinfos.map (·.ipType)

theorem RingTab.Sound.forall_types {tab : RingTab} (h : tab.Sound) (p : GpuHwIpType → Prop) :
    (∀ row ∈ tab.ipinfos, p row.ipType) ↔ ∀ row ∈ Amdtop.ipinfos, p row.ipType := by
  have hmem := congrArg (fun l => ∀ t ∈ l, p t) h.types
  rw [List.forall_mem_map, List.forall_mem_map] at hmem
  exact iff_of_eq hmem

theorem RingTab.getRingInfo_some {tab : RingTab} (h : tab.Sound)
    (hdevice : v.device = some device) :
    getRingInfo v tab = ((queryRows v device 0 tab.ipinfos []).1,
      { tab with ipinfos := (queryRows v device 0 tab.ipinfos []).2.1 },
      (queryRows v device 0 tab.ipinfos []).2.2) := by
  rw [getRingInfo, hdevice, h.noDevice, if_neg (Option.some_ne_none device)]

theorem RingTab.tabRingInfoInit_tab (tab : RingTab) :
    (tabRingInfoInit v tab).2.2.2 = (getRingInfo v tab).2.1 := by
  unfold tabRingInfoInit
  dsimp only
  split_ifs <;> rfl

theorem RingTab.visit_sound (tab : RingTab) (v : RingVisit) (h : tab.Sound) :
    (tab.visit v).Sound := by
  unfold RingTab.visit
  split_ifs with hloaded
  · rw [tabRingInfoInit_tab]
    rcases hdevice : v.device with _ | device
    · rw [getRingInfo, hdevice, h.noDevice, if_pos rfl]
      exact h
    · rw [getRingInfo_some device h hdevice]
      exact ⟨h.noDevice, (queryRows_types device 0 tab.ipinfos []).trans h.types⟩
  · exact h

theorem readsFilled_iff {tab : RingTab} (h : tab.Sound) (v : RingVisit) :
    tab.ReadsFilled v ↔ v.Fits := by
  refine forall_congr' fun hv => ?_
  obtain ⟨device, hdevice⟩ := Option.isSome_iff_exists.1 hv.2
  rw [← h.forall_types, ← h.forall_types fun t => ∀ count, v.count t = some count →
    count.toNat ≤ maxIpInstance, tabRingInfoInit, getRingInfo_some device h hdevice]
  dsimp only
  split_ifs with hret
  · exact iff_of_true (fun _ hr => absurd hr List.not_mem_nil)
      fun hall => absurd ((queryRows_ret device 0 tab.ipinfos []).2 hall) hret
  · have hall := (queryRows_ret device 0 tab.ipinfos []).1 (not_not.1 hret)
    refine Iff.trans ?_ (forall_prop_of_true hall).symm
    rw [← queryRows_inside device 0 tab.ipinfos [] hall]
    refine ⟨fun hfilled r hr => (hfilled r hr).1, fun hinside r hr => ?_⟩
    have hr' := queryRows_filled device 0 tab.ipinfos [] hall r hr (hinside r hr)
    exact ⟨hinside r hr, device, hdevice, hr'⟩

/-- All visits of a run read what they have filled just if no device that answers all queries has
more instances of a type than the array. -/
theorem ring_info_iff (visits : List RingVisit) :
    Meets RingTab.visit RingTab.ReadsFilled {} visits ↔ ∀ v ∈ visits, v.Fits := by
  have hsound : ∀ earlier, (run RingTab.visit {} earlier).Sound :=
    fun earlier => run_keeps visit_sound earlier ⟨rfl, rfl⟩
  rw [meets_iff_forall]
  constructor
  · intro h v hv
    obtain ⟨earlier, later, heq⟩ := List.append_of_mem hv
    exact (readsFilled_iff (hsound earlier) v).1 (h earlier v later heq)
  · rintro h earlier v later rfl
    exact (readsFilled_iff (hsound earlier) v).2 (h v (by simp))

/-- A card with five blocks for the same work. -/
def manyBlocks : RingVisit := ⟨some 0, true, fun _ => some 5, fun _ _ => some {}⟩

theorem ring_info_manyBlocks : ¬ ∀ visits : List RingVisit,
    Meets RingTab.visit RingTab.ReadsFilled {} visits := by
  intro h
  have hfits := (readsFilled_iff ⟨rfl, rfl⟩ manyBlocks).1 (h [manyBlocks]).1 ⟨rfl, rfl⟩
    fun _ _ => ⟨5, rfl, fun _ _ => rfl⟩
  exact absurd (hfits _ List.mem_cons_self 5 rfl) (by decide)

end Amdtop
