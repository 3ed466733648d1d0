import Amdtop.GpuInfo

/-!
# The cache of the Device tab

The tab keeps four answers under one key, which is written last. A visit to another device that
fails in between leaves its answers under the key of the device before.
-/

namespace Amdtop

open Cmd

namespace DeviceTab

variable {δ : Type}

/-- What is kept for a type of memory was answered for the device. -/
structure MemHolds (tab : DeviceTab δ) (device : ℕ) (type : GpuMemType) : Prop where
  named : (tab.memInfo type).device = some device
  typed : (tab.memInfo type).type = type
  total : ∃ vramGtt, .vramGtt device vramGtt ∈ tab.log
    ∧ (tab.memInfo type).total = vramGtt.total type
  used : .usage device type (tab.memInfo type).used ∈ tab.log

/-- All that the tab keeps was answered for the device. -/
structure Holds (tab : DeviceTab δ) (device : ℕ) : Prop where
  named : tab.gpuDeviceInfo.device = some device
  devInfo : .devInfo device tab.gpuDeviceInfo.amdgpu ∈ tab.log
  memInfo : ∀ type, MemHolds tab device type

/-! ## One query -/

section Query

variable (v : DeviceVisit δ) (device : ℕ) (type : GpuMemType) (tab : DeviceTab δ)

theorem queryDeviceInfo_none (h : v.devInfo = none) :
    queryDeviceInfo v device tab = (ioctlFailed, tab) := by
  unfold queryDeviceInfo gpuQueryDeviceInfo queryAmdGpuInfo
  rw [h]
  rfl

theorem queryDeviceInfo_some {info : δ} (h : v.devInfo = some info) :
    queryDeviceInfo v device tab = (0, { tab with
      gpuDeviceInfo := ⟨some device, info⟩, log := .devInfo device info :: tab.log }) := by
  unfold queryDeviceInfo gpuQueryDeviceInfo queryAmdGpuInfo
  rw [h]
  rfl

/-- What a query for one type of memory leaves as it was. -/
structure MemFrame (tab tab' : DeviceTab δ) (type : GpuMemType) : Prop where
  gpuDeviceInfo : tab'.gpuDeviceInfo = tab.gpuDeviceInfo
  currentDevice : tab'.currentDevice = tab.currentDevice
  memInfo : ∀ other, other ≠ type → tab'.memInfo other = tab.memInfo other
  log : tab.log ⊆ tab'.log

theorem queryMemInfo_frame : MemFrame tab (queryMemInfo v device type tab).2 type :=
  ⟨rfl, rfl, fun _ h => Function.update_of_ne h _ _, List.subset_append_right _ _⟩

/-- Either both answers are kept, or the name of the device is not written. -/
theorem gpuQueryMemInfo_cases (vramGtt : Option DrmAmdgpuInfoVramGtt) (usage : Option UInt64)
    (memInfo : GpuMemInfo) :
    (∃ sizes used, vramGtt = some sizes ∧ usage = some used
      ∧ gpuQueryMemInfo device type vramGtt usage memInfo
        = (0, ⟨some device, type, sizes.total type, used⟩))
      ∨ (gpuQueryMemInfo device type vramGtt usage memInfo).1 ≠ 0
        ∧ (gpuQueryMemInfo device type vramGtt usage memInfo).2.device = memInfo.device := by
  rcases vramGtt with _ | sizes
  · exact Or.inr ⟨(by decide : ioctlFailed ≠ 0), rfl⟩
  rcases usage with _ | used
  · exact Or.inr ⟨(by decide : ioctlFailed ≠ 0), rfl⟩
  · exact Or.inl ⟨sizes, used, rfl, rfl, rfl⟩

theorem queryMemInfo_cases :
    (queryMemInfo v device type tab).1 = 0 ∧ MemHolds (queryMemInfo v device type tab).2 device type
      ∨ (queryMemInfo v device type tab).1 ≠ 0
        ∧ ((queryMemInfo v device type tab).2.memInfo type).device = (tab.memInfo type).device := by
  have hself : (queryMemInfo v device type tab).2.memInfo type
      = (gpuQueryMemInfo device type (v.vramGtt type) (v.usage type) (tab.memInfo type)).2 :=
    Function.update_self _ _ _
  obtain ⟨sizes, used, hsizes, hused, hquery⟩ | ⟨hret, hdevice⟩ :=
    gpuQueryMemInfo_cases device type (v.vramGtt type) (v.usage type) (tab.memInfo type)
  · have hlog : (queryMemInfo v device type tab).2.log
        = .usage device type used :: .vramGtt device sizes :: tab.log := by
      unfold queryMemInfo memAnswers
      rw [hsizes, hused]
      rfl
    rw [hquery] at hself
    refine Or.inl ⟨congrArg Prod.fst hquery, ?_, ?_, ⟨sizes, ?_, ?_⟩, ?_⟩
    · rw [hself]
    · rw [hself]
    · rw [hlog]
      exact List.mem_cons_of_mem _ List.mem_cons_self
    · rw [hself]
    · rw [hself, hlog]
      exact List.mem_cons_self
  · exact Or.inr ⟨hret, by rw [hself, hdevice]⟩

theorem MemHolds.frame {tab tab' : DeviceTab δ} {type other : GpuMemType}
    (h : MemHolds tab device other) (hne : other ≠ type) (hf : MemFrame tab tab' type) :
    MemHolds tab' device other := by
  obtain ⟨vramGtt, hlog, htotal⟩ := h.total
  have heq := hf.memInfo other hne
  refine ⟨?_, ?_, ⟨vramGtt, hf.log hlog, ?_⟩, ?_⟩ <;> rw [heq]
  · exact h.named
  · exact h.typed
  · exact htotal
  · exact hf.log h.used

end Query

/-! ## One visit -/

section Visit

variable {v : DeviceVisit δ} {device : ℕ} {tab : DeviceTab δ}

/-- A visit that has not come to its end: the key, and the name in `visibleInfo`, which are written
last, are as they were. -/
structure Mixed (tab tab' : DeviceTab δ) (device : ℕ) : Prop where
  gpuDeviceInfo : tab'.gpuDeviceInfo.device = some device
  currentDevice : tab'.currentDevice = tab.currentDevice
  visible : (tab'.memInfo .visible).device = (tab.memInfo .visible).device

theorem Mixed.query {tab₀ : DeviceTab δ} (h : Mixed tab₀ tab device) (type : GpuMemType)
    (hv : ((queryMemInfo v device type tab).2.memInfo .visible).device
      = (tab.memInfo .visible).device) :
    Mixed tab₀ (queryMemInfo v device type tab).2 device :=
  ⟨h.gpuDeviceInfo, h.currentDevice, hv.trans h.visible⟩

theorem Mixed.query_ne {tab₀ : DeviceTab δ} (h : Mixed tab₀ tab device) {type : GpuMemType}
    (hne : .visible ≠ type) : Mixed tab₀ (queryMemInfo v device type tab).2 device :=
  h.query type (congrArg _ ((queryMemInfo_frame v device type tab).memInfo .visible hne))

/-- A visit whose first query succeeds either returns an error or keeps all four answers. -/
def Ends (tab₀ : DeviceTab δ) (device : ℕ) (r : ℤ × DeviceTab δ) : Prop :=
  r.1 ≠ 0 ∧ Mixed tab₀ r.2 device ∨ r.1 = 0 ∧ r.2.currentDevice = some device ∧ Holds r.2 device

theorem memInfos_ends {tab₀ : DeviceTab δ} (h : Mixed tab₀ tab device)
    (hinfo : .devInfo device tab.gpuDeviceInfo.amdgpu ∈ tab.log) :
    Ends tab₀ device (block [queryMemInfo v device .vram, queryMemInfo v device .gtt,
      queryMemInfo v device .visible,
      act fun tab => { tab with currentDevice := some device }] tab) := by
  have hframe := queryMemInfo_frame v device
  set tab₁ := (queryMemInfo v device .vram tab).2
  set tab₂ := (queryMemInfo v device .gtt tab₁).2
  set tab₃ := (queryMemInfo v device .visible tab₂).2
  have h₁ : Mixed tab₀ tab₁ device := h.query_ne (by decide)
  have h₂ : Mixed tab₀ tab₂ device := h₁.query_ne (by decide)
  rw [block]
  obtain ⟨hret, hvram⟩ | ⟨hret, -⟩ := queryMemInfo_cases v device .vram tab
  swap
  · rw [andThen_error hret]
    exact Or.inl ⟨hret, h₁⟩
  rw [andThen_ok hret, block]
  obtain ⟨hret, hgtt⟩ | ⟨hret, -⟩ := queryMemInfo_cases v device .gtt tab₁
  swap
  · rw [andThen_error hret]
    exact Or.inl ⟨hret, h₂⟩
  rw [andThen_ok hret, block]
  obtain ⟨hret, hvisible⟩ | ⟨hret, hname⟩ := queryMemInfo_cases v device .visible tab₂
  swap
  · rw [andThen_error hret]
    exact Or.inl ⟨hret, h₂.query .visible hname⟩
  rw [andThen_ok hret, block, andThen_ok rfl]
  have hvram₃ : MemHolds tab₃ device .vram :=
    (hvram.frame device (by decide) (hframe .gtt tab₁)).frame device (by decide)
      (hframe .visible tab₂)
  have hgtt₃ : MemHolds tab₃ device .gtt := hgtt.frame device (by decide) (hframe .visible tab₂)
  have hlog : tab.log ⊆ tab₃.log :=
    List.Subset.trans (List.Subset.trans (hframe .vram tab).log (hframe .gtt tab₁).log)
      (hframe .visible tab₂).log
  refine Or.inr ⟨rfl, rfl, h₂.gpuDeviceInfo, hlog hinfo, fun type => ?_⟩
  rcases type with _ | _ | _
  · exact { hvram₃ with }
  · exact { hvisible with }
  · exact { hgtt₃ with }

theorem getAllInfo_cases (hd : v.device = some device) (hl : v.driverisLoaded = true)
    (hne : tab.currentDevice ≠ some device) :
    v.devInfo = none ∧ getAllInfo v tab = (0, tab)
      ∨ v.devInfo ≠ none ∧ Ends tab device (getAllInfo v tab) := by
  have hfail : ioctlFailed ≠ 0 := by decide
  unfold getAllInfo
  rw [hd, if_neg hne.symm, hl]
  dsimp only
  rw [if_neg (by decide)]
  rcases hinfo : v.devInfo with _ | info
  · rw [queryDeviceInfo_none v device tab hinfo, if_pos hfail]
    exact Or.inl ⟨rfl, rfl⟩
  · rw [queryDeviceInfo_some v device tab hinfo, if_neg (not_not.2 rfl)]
    have hmixed : Mixed tab { tab with
        gpuDeviceInfo := ⟨some device, info⟩, log := .devInfo device info :: tab.log } device :=
      ⟨rfl, rfl, rfl⟩
    exact Or.inr ⟨Option.some_ne_none _, memInfos_ends hmixed List.mem_cons_self⟩

end Visit

/-! ## Runs -/

/-- The key is the name in `visibleInfo`; the names in the other structures are right if the one in
`gpuDeviceInfo` is. -/
structure Known (tab : DeviceTab δ) : Prop where
  visible : tab.currentDevice = (tab.memInfo .visible).device
  holds : ∀ device, tab.currentDevice = some device → tab.gpuDeviceInfo.device = some device →
    Holds tab device

/-- What the tab shows after a visit without an error was answered for the device. -/
def Shows (tab : DeviceTab δ) (v : DeviceVisit δ) : Prop :=
  ∀ device, v.device = some device → v.driverisLoaded = true → (getAllInfo v tab).1 = 0 →
    Holds (visit tab v) device

/-- The device is the cached one and `gpuDeviceInfo` has not been overwritten for another device, or
it is not the cached one and the first query succeeds. -/
def QueryOk (tab : DeviceTab δ) (v : DeviceVisit δ) : Prop :=
  ∀ device, v.device = some device → v.driverisLoaded = true →
    if tab.currentDevice = some device then tab.gpuDeviceInfo.device = some device
    else v.devInfo ≠ none

section Runs

variable {v : DeviceVisit δ} {device : ℕ} {tab : DeviceTab δ}

theorem getAllInfo_cached (h : v.device = tab.currentDevice) : getAllInfo v tab = (0, tab) := by
  unfold getAllInfo
  rw [if_pos h]

theorem known_visit (v : DeviceVisit δ) (h : Known tab) : Known (visit tab v) := by
  unfold visit
  by_cases hc : v.device = tab.currentDevice
  · rwa [getAllInfo_cached hc]
  rcases hd : v.device with _ | device
  · unfold getAllInfo
    rwa [if_neg hc, hd]
  rcases hl : v.driverisLoaded with _ | _
  · unfold getAllInfo
    rwa [if_neg hc, hd, hl]
  rw [hd] at hc
  obtain ⟨-, hsame⟩ | ⟨-, ⟨-, hmixed⟩ | ⟨-, hcurrent, hholds⟩⟩ := getAllInfo_cases hd hl (Ne.symm hc)
  · rwa [hsame]
  · refine ⟨hmixed.currentDevice.trans (h.visible.trans hmixed.visible.symm), fun other ho hg => ?_⟩
    rw [hmixed.currentDevice] at ho
    exact absurd (hmixed.gpuDeviceInfo.symm.trans (hg.trans ho.symm)) hc
  · refine ⟨hcurrent.trans (hholds.memInfo .visible).named.symm, fun other ho _ => ?_⟩
    obtain rfl := Option.some.inj (hcurrent.symm.trans ho)
    exact hholds

theorem shows_iff (h : Known tab) (v : DeviceVisit δ) : Shows tab v ↔ QueryOk tab v := by
  unfold Shows QueryOk visit
  refine forall_congr' fun device => forall_congr' fun hd => forall_congr' fun hl => ?_
  by_cases hc : tab.currentDevice = some device
  · rw [getAllInfo_cached (hd.trans hc.symm), if_pos hc]
    exact ⟨fun hholds => (hholds rfl).named, fun hg _ => h.holds device hc hg⟩
  rw [if_neg hc]
  obtain ⟨hnone, hsame⟩ | ⟨hsome, hends⟩ := getAllInfo_cases hd hl hc
  · rw [hsame]
    refine iff_of_false (fun hholds => ?_) (not_not.2 hnone)
    exact hc (h.visible.trans ((hholds rfl).memInfo .visible).named)
  · refine iff_of_true (fun hret => ?_) hsome
    obtain ⟨hne, -⟩ | ⟨-, -, hholds⟩ := hends
    · exact absurd hret hne
    · exact hholds

end Runs

/-- At every visit of a run the tab shows what was answered for the device just if at every visit
the first query is not lost. -/
theorem device_info_iff (zero : δ) (visits : List (DeviceVisit δ)) :
    Meets visit Shows { gpuDeviceInfo := { amdgpu := zero } } visits
      ↔ Meets visit QueryOk { gpuDeviceInfo := { amdgpu := zero } } visits :=
  meets_congr (I := Known) (fun _ v h => known_visit v h) (fun _ v h => shows_iff h v) visits
    ⟨rfl, fun _ h => nomatch h⟩

section Example

def answeredVisit : DeviceVisit ℕ where
  device := some 1
  driverisLoaded := true
  devInfo := some 10
  vramGtt _ := some { vramSize := 16, vramCpuAccessibleSize := 8, gttSize := 4 }
  usage _ := some 2

/-- The sizes of another device cannot be read. -/
def failedVisit : DeviceVisit ℕ where
  device := some 2
  driverisLoaded := true
  devInfo := some 20
  vramGtt _ := none
  usage _ := none

/-- Back at the first device, the tab shows the information of the second. -/
theorem device_info_leftovers :
    (getAllInfo answeredVisit (run visit { gpuDeviceInfo := { amdgpu := 0 } }
        [answeredVisit, failedVisit])).1 = 0
      ∧ (run visit { gpuDeviceInfo := { amdgpu := 0 } }
        [answeredVisit, failedVisit, answeredVisit]).gpuDeviceInfo = ⟨some 2, 20⟩
      ∧ ¬ Meets visit Shows { gpuDeviceInfo := { amdgpu := 0 } }
        [answeredVisit, failedVisit, answeredVisit] :=
  ⟨rfl, rfl, fun h => absurd (h.2.2.1 1 rfl rfl rfl).named (by decide)⟩

end Example

end DeviceTab

end Amdtop
