import Amdtop.MainLoop
import Amdtop.Proofs.DeviceContext
import Amdtop.Proofs.Window

/-!
# What holds throughout the main loop

`Inv` keeps the selected tab and device inside their tables, so that no read of `devs` goes outside
it, and says of every loaded device, and of the device of every call into a tab, what `Scene.good`
says. Each command of the loop keeps it; `deviceUpdate` does if the devices it loads are good.
-/

namespace Amdtop

open Cmd Heap

/-- What a run does not change, but for the tick: what a loaded device should be, the number of
devices, the PCI device of each slot, the tick, and the number of tabs. -/
structure Scene where
  good : Device → Prop
  count : ℕ
  pdevs : ℕ → Option PciDevice
  tick : ℕ
  tabs : ℕ

/-- A tab other than System and About is called only with a good loaded device, and so is the
device itself. -/
def Call.Allowed (good : Device → Prop) : Call → Prop
  | .tabInit tab device | .tabUpdate tab device => tab = .system ∨ tab = .about ∨
      ∃ d, device = some d ∧ d.driverisLoaded = true ∧ good d
  | .tabExit _ _ => True
  | .sensor device => device.driverisLoaded = true ∧ good device

theorem Call.Allowed.mono {good good' : Device → Prop} (hgood : ∀ device, good device → good' device) :
    ∀ {call : Call}, call.Allowed good → call.Allowed good'
  | .tabInit _ _, h | .tabUpdate _ _, h => h.imp_right (Or.imp_right fun ⟨d, hd, hl, hg⟩ =>
      ⟨d, hd, hl, hgood d hg⟩)
  | .tabExit _ _, _ => trivial
  | .sensor device, h => ⟨h.1, hgood device h.2⟩

structure Inv (S : Scene) (ui : Ui) : Prop where
  size : ui.dctx.deviceCount = S.count
  count : S.count ≤ gpuMaxCardSupport
  slot : ∀ i < ui.dctx.deviceCount, ∃ device, ui.dctx.slot i = some device
  loaded : ∀ i device, ui.dctx.slot i = some device → device.driverisLoaded = true → S.good device
  pdevs : ∀ i, (ui.dctx.slot i).map (·.pdev) = S.pdevs i
  tab : 0 ≤ ui.activeTabID ∧ ui.activeTabID < getTabInfoCount
  device : 0 ≤ ui.activeDeviceID
    ∧ (ui.activeDeviceID < ui.dctx.deviceCount ∨ ui.activeDeviceID = 0)
  calls : ∀ call ∈ ui.calls, call.Allowed S.good
  tick : ui.tick = S.tick
  tabs : ui.gTabCount = S.tabs
  fault : ui.fault = false

/-! ## Reading the state -/

section Read

variable {S : Scene} {ui : Ui} (h : Inv S ui)

include h in
theorem Inv.activeSlot : u32 ui.activeDeviceID = ui.activeDeviceID.toNat
    ∧ u32 ui.activeDeviceID < gpuMaxCardSupport := by
  obtain ⟨h0, hlt⟩ := h.device
  have hcount := h.count
  have hsize := h.size
  have hmax : gpuMaxCardSupport = 8 := rfl
  have hu : u32 ui.activeDeviceID = ui.activeDeviceID.toNat :=
    u32_eq (n := 8) h0 (by omega) (by omega)
  exact ⟨hu, by omega⟩

include h in
theorem Inv.readActive : ui.readActive = ui := by
  unfold Ui.readActive
  rw [if_neg]
  rintro ⟨-, hle⟩
  exact absurd h.activeSlot.2 (Nat.not_lt.2 hle)

include h in
theorem Inv.tabInfo : ∃ tabInfo, getTabInfoByIndex (u32 ui.activeTabID) = some tabInfo := by
  obtain ⟨h0, hlt⟩ := h.tab
  have hcount : getTabInfoCount = 10 := rfl
  have hu : u32 ui.activeTabID = ui.activeTabID.toNat := u32_eq (n := 10) h0 (by omega) (by omega)
  have hlen : u32 ui.activeTabID < tabinfoList.length := by
    have : tabinfoList.length = 10 := rfl
    omega
  exact ⟨_, List.getElem?_eq_getElem hlen⟩

include h in
theorem Inv.active {device : Device} (hd : getAcitveDevice ui = some device)
    (hl : device.driverisLoaded = true) : S.good device := by
  unfold getAcitveDevice at hd
  split_ifs at hd
  exact h.loaded _ device hd hl

end Read

theorem driverisLoaded_iff (device : Option Device) :
    DeviceDriverisLoaded device = true ↔ ∃ d, device = some d ∧ d.driverisLoaded = true := by
  rcases device with _ | d <;> simp [DeviceDriverisLoaded]

/-! ## Which slots an update comes to -/

section Reaches

/-- The init of the selected tab is called, with these devices loaded. -/
def initCalled (ui : Ui) (loaded : ℕ → Bool) : Bool :=
  (getTabInfoByIndex (u32 ui.activeTabID)).any fun tabInfo =>
    tabInfo.id = .system || tabInfo.id = .about
      || (!(ui.dctx.deviceCount < u32 ui.activeDeviceID : Bool) && loaded (u32 ui.activeDeviceID))

/-- No slot ends the loop of `deviceUpdate`: each device that has a driver and is not loaded can be
opened, and the init of the tab that follows returns 0. So many questions have been asked before. -/
def Passes (w : World) (tick : ℕ) (called : (ℕ → Bool) → Bool) :
    List ℕ → ℕ → (ℕ → Bool) → Prop
  | [], _, _ => True
  | i :: slots, asked, loaded =>
    if loaded i || !w.hasKernelDriver tick i then Passes w tick called slots asked loaded
    else
      let loaded := Function.update loaded i true
      (w.probe tick i).succeeds = true
        ∧ if called loaded then w.tabInit asked = 0 ∧ Passes w tick called slots (asked + 1) loaded
          else Passes w tick called slots asked loaded

/-- The loop of `deviceUpdate` comes to slot `i`. -/
def Reaches (w : World) (ui : Ui) (i : ℕ) : Prop :=
  i < ui.dctx.deviceCount
    ∧ Passes w ui.tick (initCalled ui) (List.range i) ui.asked ui.dctx.loaded

variable (w : World)

theorem driverisLoaded_active (ui : Ui) : DeviceDriverisLoaded (getAcitveDevice ui)
    = (!(ui.dctx.deviceCount < u32 ui.activeDeviceID : Bool)
      && ui.dctx.loaded (u32 ui.activeDeviceID)) := by
  unfold getAcitveDevice DeviceDriverisLoaded DeviceContext.loaded
  split_ifs with hlt
  · rw [decide_eq_true hlt]
    rfl
  · rw [decide_eq_false hlt]
    rfl

/-- What `mainInit` answers, and what it leaves of the state for the next slot. -/
theorem mainInit_answer (ui : Ui) : (mainInit w ui).1
      = (if initCalled ui ui.dctx.loaded then w.tabInit ui.asked else 0)
    ∧ (mainInit w ui).2.asked = (if initCalled ui ui.dctx.loaded then ui.asked + 1 else ui.asked)
    ∧ (mainInit w ui).2.dctx = ui.dctx ∧ (mainInit w ui).2.tick = ui.tick
    ∧ initCalled (mainInit w ui).2 = initCalled ui := by
  obtain ⟨fault, hread⟩ : ∃ fault, ui.readActive = { ui with fault } := by
    unfold Ui.readActive
    split_ifs
    · exact ⟨true, rfl⟩
    · exact ⟨ui.fault, rfl⟩
  unfold mainInit
  dsimp only
  rw [hread]
  rcases htab : getTabInfoByIndex (u32 ui.activeTabID) with _ | tabInfo
  · have hcalled : initCalled ui ui.dctx.loaded = false := by
      unfold initCalled
      rw [htab]
      rfl
    rw [hcalled]
    exact ⟨rfl, rfl, rfl, rfl, rfl⟩
  · have hcalled : initCalled ui ui.dctx.loaded = true
        ↔ tabInfo.id = .system ∨ tabInfo.id = .about
          ∨ DeviceDriverisLoaded (getAcitveDevice ui) = true := by
      unfold initCalled
      rw [htab, driverisLoaded_active]
      simp [or_assoc]
    dsimp only
    by_cases hc : initCalled ui ui.dctx.loaded = true
    · rw [if_pos (hcalled.1 hc), if_pos hc, if_pos hc]
      exact ⟨rfl, rfl, rfl, rfl, rfl⟩
    · rw [if_neg (mt hcalled.2 hc), if_neg hc, if_neg hc]
      exact ⟨rfl, rfl, rfl, rfl, rfl⟩

/-- The status of the loop over the slots, from what the world answers. -/
theorem deviceUpdateLoop_passes {tick : ℕ} {called : (ℕ → Bool) → Bool} :
    ∀ (slots : List ℕ) {ui : Ui}, (∀ i ∈ slots, getDeviceByIndex ui.dctx i ≠ none) →
      ui.tick = tick → initCalled ui = called → ((deviceUpdateLoop w slots ui).1 = 0
        ↔ Passes w tick called slots ui.asked ui.dctx.loaded)
  | [], ui, _, _, _ => iff_of_true rfl trivial
  | i :: slots, ui, hslots, htick, hcalled => by
    rw [List.forall_mem_cons] at hslots
    obtain ⟨device, hi⟩ := Option.ne_none_iff_exists'.1 hslots.1
    have hd := slot_of_index hi
    have hloaded : ui.dctx.loaded i = device.driverisLoaded := by
      unfold DeviceContext.loaded
      rw [hd]
      rfl
    unfold deviceUpdateLoop Passes
    rw [hi, hloaded]
    subst htick
    dsimp only
    by_cases hskip : (device.driverisLoaded || !w.hasKernelDriver ui.tick i) = true
    · rw [if_pos hskip, if_pos hskip]
      exact deviceUpdateLoop_passes slots hslots.2 rfl hcalled
    rw [if_neg hskip, if_neg hskip]
    rw [Bool.or_eq_true, not_or, Bool.not_eq_true] at hskip
    have hstatus := UpdateDeviceInfo_fst_iff (w.probe ui.tick i) device
    by_cases hgood : (w.probe ui.tick i).succeeds = true
    · rw [if_neg (not_not.2 (hstatus.2 hgood)), and_iff_right hgood]
      set device' := (UpdateDeviceInfo (w.probe ui.tick i) device).2
      set ui₁ : Ui := { ui with dctx := ui.dctx.put i device' }
      have hput : ui₁.dctx.loaded = Function.update ui.dctx.loaded i true := by
        rw [loaded_put (lt_of_slot hd), UpdateDeviceInfo_isLoaded hskip.1, hgood]
      obtain ⟨hret, hasked, hdctx, htick', hcalled'⟩ := mainInit_answer w ui₁
      have hcalled₁ : initCalled ui₁ = called := hcalled
      have hslots' : ∀ j ∈ slots, getDeviceByIndex (mainInit w ui₁).2.dctx j ≠ none := by
        intro j hj
        rw [hdctx]
        exact getDeviceByIndex_put (lt_of_slot hd) device' (hslots.2 j hj)
      have hrest := deviceUpdateLoop_passes slots hslots' htick'
        (hcalled'.trans hcalled₁)
      rw [hasked, hdctx, hput, hcalled₁] at hrest
      rw [hput, hcalled₁] at hret
      rw [andThen_fst, hret, hrest]
      by_cases hc : called (Function.update ui.dctx.loaded i true) = true
      · rw [if_pos hc, if_pos hc, if_pos hc]
      · rw [if_neg hc, if_neg hc, if_neg hc]
        exact and_iff_right rfl
    · rw [if_pos (mt hstatus.1 hgood)]
      exact iff_of_false (mt hstatus.1 hgood) fun h => hgood h.1

end Reaches

/-! ## The commands of a window -/

section Commands

variable {S : Scene} (w : World)

theorem Inv.record {ui : Ui} (h : Inv S ui) {call : Call} (hc : call.Allowed S.good) :
    Inv S (ui.record call) :=
  { h with calls := List.forall_mem_cons.2 ⟨hc, h.calls⟩ }

theorem Inv.draw {ui : Ui} (h : Inv S ui) (win : WindowType) (f : TextWindow → TextWindow) :
    Inv S (ui.draw win f) := { h with }

theorem TabinfoInit_keeps {ui : Ui} (h : Inv S ui) (tabInfo : TabInfo)
    (hc : (Call.tabInit tabInfo.id (getAcitveDevice ui)).Allowed S.good) :
    Inv S (TabinfoInit w tabInfo ui).2 :=
  { h.record hc with }

theorem TabinfoUpdate_keeps {ui : Ui} (h : Inv S ui) (tabInfo : TabInfo)
    (hc : (Call.tabUpdate tabInfo.id (getAcitveDevice ui)).Allowed S.good) :
    Inv S (TabinfoUpdate w tabInfo ui).2 := by
  unfold TabinfoUpdate
  split_ifs
  · exact { h.record hc with }
  · exact h

theorem mainInit_keeps : Keeps (Inv S) (mainInit w) := by
  intro ui h
  unfold mainInit
  dsimp only
  rw [h.readActive]
  obtain ⟨tabInfo, htab⟩ := h.tabInfo
  rw [htab]
  dsimp only
  split_ifs with hc
  · refine TabinfoInit_keeps w h tabInfo (hc.imp_right (Or.imp_right fun hl => ?_))
    obtain ⟨device, hd, hload⟩ := (driverisLoaded_iff _).1 hl
    exact ⟨device, hd, hload, h.active hd hload⟩
  · exact h

theorem mainExit_keeps : Keeps (Inv S) mainExit := by
  intro ui h
  unfold mainExit
  obtain ⟨tabInfo, htab⟩ := h.tabInfo
  rw [htab]
  exact h.record trivial

theorem mainUpdate_keeps : Keeps (Inv S) (mainUpdate w) := by
  intro ui h
  have hask : Inv S ui.ask := { h with }
  unfold mainUpdate
  dsimp only
  rw [hask.readActive]
  split_ifs with hl
  · obtain ⟨device, hd, hload⟩ := (driverisLoaded_iff _).1 hl
    obtain ⟨tabInfo, htab⟩ := hask.tabInfo
    rw [htab]
    dsimp only
    split_ifs
    · refine andThen_of ?_ (keeps_act fun ui h => { h with })
      exact TabinfoUpdate_keeps w hask tabInfo
        (Or.inr (Or.inr ⟨device, hd, hload, hask.active hd hload⟩))
    · exact hask
  · exact hask

variable (hgood : ∀ device, S.good device → device.gpuDevice ≠ none)

include hgood in
theorem updateStatus_keeps : Keeps (Inv S) (updateStatus w) := by
  intro ui h
  unfold updateStatus
  dsimp only
  rw [h.readActive]
  rcases hd : getAcitveDevice ui with _ | device
  · exact h
  dsimp only
  rcases hl : device.driverisLoaded with _ | _
  · exact h
  have hdev := h.active hd hl
  rw [if_neg (by simp), if_neg (by simpa using hgood device hdev)]
  have hask : Inv S ui.ask := { h with }
  have hcall : Inv S (ui.ask.record (.sensor device)) := hask.record ⟨hl, hdev⟩
  split_ifs
  · exact hcall
  · exact { hcall with }

include hgood in
theorem statusInit_keeps : Keeps (Inv S) (statusInit w) := by
  intro ui h
  unfold statusInit
  dsimp only
  rw [h.readActive]
  rcases getAcitveDevice ui with _ | device
  · exact h
  have hprint : Inv S (printDeviceInfo device ui) := { h with }
  dsimp only
  split_ifs
  · exact updateStatus_keeps w hgood _ hprint
  · exact hprint

theorem updateActiveDevice_keeps (index : ℤ) {ui : Ui} (h : Inv S ui) :
    Inv S (updateActiveDevice index ui) := h.draw .device _

theorem updateActiveTab_keeps (index : ℤ) {ui : Ui} (h : Inv S ui) :
    Inv S (updateActiveTab index ui) := h.draw .tab _

theorem deviceInit_keeps : Keeps (Inv S) deviceInit := by
  intro ui h
  unfold deviceInit
  dsimp only
  split_ifs
  · exact updateActiveDevice_keeps _ (h.draw .device _)
  · exact { h with }

theorem deviceInit_fst (ui : Ui) : (deviceInit ui).1 = 0 := by
  unfold deviceInit
  dsimp only
  split_ifs <;> rfl

/-- Also where the number of tabs was not known before. -/
theorem tabInit_known {n : ℕ} (htabs : S.tabs = getTabInfoCount) {ui : Ui}
    (h : Inv { S with tabs := n } ui) : Inv S (tabInit ui).2 := by
  have hknown : Inv S { ui with gTabCount := getTabInfoCount } := { h with tabs := htabs.symm }
  exact updateActiveTab_keeps _ (hknown.draw .tab _)

theorem tabInit_keeps (htabs : S.tabs = getTabInfoCount) : Keeps (Inv S) tabInit :=
  fun _ h => tabInit_known (n := S.tabs) htabs h

/-- What is loaded into slot `i` should be good. -/
def Scene.Loads (S : Scene) (w : World) (i : ℕ) : Prop :=
  ∀ device, S.pdevs i = some device.pdev → w.hasKernelDriver S.tick i = true →
    device.driverisLoaded = false →
      (UpdateDeviceInfo (w.probe S.tick i) device).2.driverisLoaded = true →
        S.good (UpdateDeviceInfo (w.probe S.tick i) device).2

theorem Inv.put {ui : Ui} (h : Inv S ui) {i : ℕ} {device device' : Device}
    (hd : ui.dctx.slot i = some device) (hpdev : device'.pdev = device.pdev)
    (hloaded : device'.driverisLoaded = true → S.good device') :
    Inv S { ui with dctx := ui.dctx.put i device' } := by
  have hslot := slot_put ui.dctx (lt_of_slot hd) device'
  refine { h with slot := fun j hj => ?_, loaded := fun j d hj hl => ?_, pdevs := fun j => ?_ }
  · rw [hslot]
    split_ifs
    · exact ⟨device', rfl⟩
    · exact h.slot j hj
  · rw [hslot] at hj
    split_ifs at hj
    · obtain rfl := Option.some.inj hj
      exact hloaded hl
    · exact h.loaded j d hj hl
  · rw [hslot]
    split_ifs with hij
    · rw [← h.pdevs, ← hij, hd, Option.map_some, Option.map_some, hpdev]
    · exact h.pdevs j

/-- A slot of the loop, where what it loads is good: the rest of the loop starts from its state
unless it returns an error. -/
theorem deviceUpdateLoop_cons {ui : Ui} (h : Inv S ui) {i : ℕ} {device : Device}
    (hi : getDeviceByIndex ui.dctx i = some device) (hload : S.Loads w i) :
    ∃ ret ui', Inv S ui' ∧ ∀ slots, deviceUpdateLoop w (i :: slots) ui
      = if ret ≠ 0 then (ret, ui') else deviceUpdateLoop w slots ui' := by
  have hd := slot_of_index hi
  simp only [deviceUpdateLoop, hi]
  split_ifs with hskip hret
  · exact ⟨0, ui, h, fun slots => rfl⟩
  all_goals
    rw [Bool.or_eq_true, not_or, Bool.not_eq_true, Bool.not_eq_true', Bool.not_eq_false] at hskip
    have hput := h.put hd (UpdateDeviceInfo_frame (w.probe ui.tick i) device).2.2 fun hl => by
      rw [h.tick] at hl hskip ⊢
      refine hload device ?_ hskip.2 hskip.1 hl
      rw [← h.pdevs, hd]
      rfl
  · exact ⟨_, _, hput, fun slots => (if_pos hret).symm⟩
  · have hmain := mainInit_keeps w _ hput
    exact ⟨_, _, hmain, fun slots => rfl⟩

theorem deviceUpdateLoop_keeps :
    ∀ (slots : List ℕ) {ui : Ui}, Inv S ui → (∀ pre i, pre ++ [i] <+: slots →
      (deviceUpdateLoop w pre ui).1 = 0 → S.Loads w i) → Inv S (deviceUpdateLoop w slots ui).2
  | [], _, h, _ => h
  | i :: slots, ui, h, hload => by
    rcases hi : getDeviceByIndex ui.dctx i with _ | device
    · unfold deviceUpdateLoop
      rw [hi]
      exact h
    obtain ⟨ret, ui', h', hcons⟩ := deviceUpdateLoop_cons w h hi
      (hload [] i (List.prefix_cons_iff.2 (Or.inr ⟨[], rfl, List.nil_prefix⟩)) rfl)
    rw [hcons]
    split_ifs with hret
    · exact h'
    · refine deviceUpdateLoop_keeps slots h' fun pre j hpre hj => ?_
      refine hload (i :: pre) j (List.cons_prefix_cons.2 ⟨rfl, hpre⟩) ?_
      rw [hcons, if_neg hret]
      exact hj

theorem range_of_initial {pre : List ℕ} {i n : ℕ} (h : pre ++ [i] <+: List.range n) :
    pre = List.range i ∧ i < n := by
  have hle := h.length_le
  rw [List.length_append, List.length_singleton, List.length_range] at hle
  have htake := List.prefix_iff_eq_take.1 h
  rw [List.take_range, List.length_append, List.length_singleton, Nat.min_eq_left hle,
    List.range_succ] at htake
  obtain ⟨hpre, hi⟩ := List.append_inj' htake rfl
  obtain rfl := List.singleton_inj.1 hi
  exact ⟨hpre, hle⟩

theorem Inv.range_passes {ui : Ui} (h : Inv S ui) {n : ℕ} (hn : n ≤ ui.dctx.deviceCount) :
    (deviceUpdateLoop w (List.range n) ui).1 = 0
      ↔ Passes w ui.tick (initCalled ui) (List.range n) ui.asked ui.dctx.loaded := by
  refine deviceUpdateLoop_passes w _ (fun i hi => ?_) rfl rfl
  rw [List.mem_range] at hi
  obtain ⟨device, hd⟩ := h.slot i (hi.trans_le hn)
  rw [getDeviceByIndex, if_neg (by omega), hd]
  exact Option.some_ne_none device

theorem deviceUpdate_keeps {ui : Ui} (h : Inv S ui) (hload : ∀ i, Reaches w ui i → S.Loads w i) :
    Inv S (deviceUpdate w ui).2 := by
  unfold deviceUpdate
  rw [h.readActive]
  refine deviceUpdateLoop_keeps w _ h fun pre i hpre hi => ?_
  obtain ⟨rfl, hlt⟩ := range_of_initial hpre
  exact hload i ⟨hlt, (h.range_passes w hlt.le).1 hi⟩

include hgood in
theorem WindowInit_keeps (htabs : S.tabs = getTabInfoCount) :
    ∀ win, Keeps (Inv S) (WindowInit w win)
  | .device => deviceInit_keeps
  | .tab => tabInit_keeps htabs
  | .main => mainInit_keeps w
  | .status => statusInit_keeps w hgood

theorem WindowExit_keeps : ∀ win, Keeps (Inv S) (WindowExit win)
  | .device => keeps_give 0
  | .tab => keeps_give 0
  | .main => mainExit_keeps
  | .status => keeps_give 0

theorem WindowClear_keeps : ∀ win, Keeps (Inv S) (WindowClear win)
  | .device => keeps_act fun _ h => h.draw .device _
  | .tab => keeps_act fun _ h => h.draw .tab _
  | .main => keeps_give 0
  | .status => keeps_act fun _ h => h.draw .status _

include hgood in
theorem WindowUpdate_keeps {ui : Ui} (h : Inv S ui) :
    ∀ win, (win = .device → ∀ i, Reaches w ui i → S.Loads w i) → Inv S (WindowUpdate w win ui).2
  | .device, hload => deviceUpdate_keeps w h (hload rfl)
  | .tab, _ => h
  | .main, _ => mainUpdate_keeps w ui h
  | .status, _ => updateStatus_keeps w hgood ui h

include hgood in
theorem reinit_keeps (htabs : S.tabs = getTabInfoCount) (win : WindowType) :
    Keeps (Inv S) (reinit w win) := by
  refine keeps_block _ ?_
  simp only [List.forall_mem_cons]
  exact ⟨WindowExit_keeps win, WindowClear_keeps win, WindowInit_keeps w hgood htabs win, by simp⟩

end Commands

/-! ## Keys -/

section Keys

variable {S : Scene} (w : World) (ch : ℤ)
  (hgood : ∀ device, S.good device → device.gpuDevice ≠ none)
  (htabs : S.tabs = getTabInfoCount)

theorem selectDevice_bounds {ui : Ui} (h : Inv S ui) (hn : 1 < ui.dctx.deviceCount) :
    0 ≤ selectDevice ch ui ∧ selectDevice ch ui < ui.dctx.deviceCount := by
  obtain ⟨h0, hlt⟩ := h.device
  have hcount := h.count
  have hsize := h.size
  have hmax : gpuMaxCardSupport = 8 := rfl
  have hnext : u32 (ui.activeDeviceID + 1) = (ui.activeDeviceID + 1).toNat :=
    u32_eq (n := 9) (by omega) (by omega) (by omega)
  have hlast : i32 ((ui.dctx.deviceCount : ℤ) - 1) = (ui.dctx.deviceCount : ℤ) - 1 :=
    i32_eq (by omega) (by omega)
  unfold selectDevice
  rw [hnext, hlast]
  split_ifs <;> omega

theorem selectTab_bounds {ui : Ui} (h : Inv S ui) (htabs : S.tabs = getTabInfoCount) :
    0 ≤ selectTab ch ui ∧ selectTab ch ui < getTabInfoCount := by
  obtain ⟨h0, hlt⟩ := h.tab
  have hcount : getTabInfoCount = 10 := rfl
  have htab := h.tabs.trans htabs
  have hnext : u32 (ui.activeTabID + 1) = (ui.activeTabID + 1).toNat :=
    u32_eq (n := 11) (by omega) (by omega) (by omega)
  have hlast : i32 ((ui.gTabCount : ℤ) - 1) = (ui.gTabCount : ℤ) - 1 :=
    i32_eq (by omega) (by omega)
  unfold selectTab
  rw [hnext, hlast]
  split_ifs <;> omega

include hgood htabs in
theorem deviceHandleInput_keeps : Keeps (Inv S) (deviceHandleInput w ch) := by
  intro ui h
  unfold deviceHandleInput
  dsimp only
  by_cases hn : ui.dctx.deviceCount ≤ 1
  · rwa [if_pos hn]
  rw [if_neg hn]
  obtain ⟨h0, hlt⟩ := selectDevice_bounds ch h (Nat.not_le.1 hn)
  by_cases hd : selectDevice ch ui = ui.activeDeviceID
  · rwa [if_neg (not_not.2 hd)]
  rw [if_pos hd]
  refine keeps_block _ ?_ ui h
  simp only [List.forall_mem_cons]
  refine ⟨keeps_act fun _ => updateActiveDevice_keeps _, keeps_act fun ui' h' => ?_,
    reinit_keeps w hgood htabs _, reinit_keeps w hgood htabs _, keeps_give _, by simp⟩
  rw [h.size, ← h'.size] at hlt
  exact { h' with device := ⟨h0, Or.inl hlt⟩ }

include hgood htabs in
theorem tabHandleInput_keeps : Keeps (Inv S) (tabHandleInput w ch) := by
  intro ui h
  unfold tabHandleInput
  dsimp only
  by_cases ht : selectTab ch ui = ui.activeTabID
  · rwa [if_neg (not_not.2 ht)]
  rw [if_pos ht]
  refine keeps_block _ ?_ ui h
  simp only [List.forall_mem_cons]
  exact ⟨WindowExit_keeps _, keeps_act fun _ h' => { h' with tab := selectTab_bounds ch h htabs },
    WindowClear_keeps _, WindowInit_keeps w hgood htabs _,
    keeps_act fun _ => updateActiveTab_keeps _, keeps_give _, by simp⟩

theorem setTimeout_keeps (delay : ℤ) : Keeps (Inv S) (act (Ui.setTimeout delay)) :=
  keeps_act fun _ h => { h with }

include hgood htabs in
theorem exitProgram_keeps : Keeps (Inv S) (exitProgram w) := by
  intro ui h
  have hask : Inv S (ui.setTimeout (-1)).ask := { h with }
  unfold exitProgram
  dsimp only
  by_cases hy : w.key ui.asked = 'y'.toNat
  · rw [if_pos hy]
    exact { hask with }
  · rw [if_neg hy]
    refine keeps_block _ ?_ _ hask
    simp only [List.forall_mem_cons]
    exact ⟨setTimeout_keeps _, reinit_keeps w hgood htabs _, by simp⟩

include hgood htabs in
theorem helperHandler_keeps : Keeps (Inv S) (helperHandler w) := by
  intro ui h
  unfold helperHandler
  split_ifs
  · exact h
  · refine keeps_block _ ?_ ui h
    simp only [List.forall_mem_cons]
    exact ⟨WindowClear_keeps _, setTimeout_keeps _, keeps_act fun _ h => { h with },
      reinit_keeps w hgood htabs _, setTimeout_keeps _, by simp⟩

include hgood htabs in
theorem mainHandleInput_keeps : Keeps (Inv S) (mainHandleInput w ch) := by
  unfold mainHandleInput
  split_ifs
  · exact (exitProgram_keeps w hgood htabs).andThen (keeps_give _)
  · exact (helperHandler_keeps w hgood htabs).andThen (keeps_give _)
  · exact keeps_give _

include hgood htabs in
theorem WindowInput_keeps : ∀ win, Keeps (Inv S) (WindowInput w ch win)
  | .device => deviceHandleInput_keeps w ch hgood htabs
  | .tab => tabHandleInput_keeps w ch hgood htabs
  | .main => mainHandleInput_keeps w ch hgood htabs
  | .status => keeps_give _

include hgood htabs in
theorem dispatchInput_keeps : ∀ wins, Keeps (Inv S) (dispatchInput w ch wins)
  | [], _, h => h
  | win :: wins, ui, h => by
    have hwin := WindowInput_keeps w ch hgood htabs win ui h
    unfold dispatchInput
    dsimp only
    split_ifs
    · exact hwin
    · exact dispatchInput_keeps wins _ hwin

end Keys

/-! ## The loop -/

section Loop

variable {S : Scene} (w : World) (hgood : ∀ device, S.good device → device.gpuDevice ≠ none)
  (htabs : S.tabs = getTabInfoCount)

theorem Inv.resetWindow {ui : Ui} (h : Inv S ui) (win : WindowType) :
    Inv S { ui with winUpdated := Function.update ui.winUpdated win 0 } := { h with }

include hgood htabs in
/-- The windows before the main one cannot fail, so they are both initialised, and then the number
of tabs is known. -/
theorem WindowsInit_known {n : ℕ} {ui : Ui} (h : Inv { S with tabs := n } ui) :
    Inv S (WindowsInit w ui).2 := by
  have hdevice : Inv { S with tabs := n } (initWindow w .device ui).2 :=
    deviceInit_keeps _ (h.resetWindow .device)
  have htab : Inv S (initWindow w .tab (initWindow w .device ui).2).2 :=
    tabInit_known htabs (hdevice.resetWindow .tab)
  have hrest : Keeps (Inv S) (block ([WindowType.main, .status].map (initWindow w))) :=
    keeps_map _ fun win _ _ hui => WindowInit_keeps w hgood htabs win _ (hui.resetWindow win)
  have hfirst : (initWindow w .device ui).1 = 0 := deviceInit_fst _
  unfold WindowsInit windows
  rw [List.map_cons, block, andThen_ok hfirst, List.map_cons, block, andThen_ok rfl]
  exact hrest _ htab

theorem InitMainWindow_keeps : Keeps (Inv S) InitMainWindow :=
  keeps_map _ fun win _ => WindowClear_keeps win

include hgood htabs in
theorem WindowsUpdateUi_known (cols lines : ℤ) {n : ℕ} {ui : Ui}
    (h : Inv { S with tabs := n } ui) : Inv S (WindowsUpdateUi w cols lines ui).2 := by
  have hlayout : Inv { S with tabs := n } (ui.layout cols lines) := { h with }
  have hclear := InitMainWindow_keeps _ hlayout
  unfold WindowsUpdateUi
  rw [block, andThen_ok rfl, block, andThen_ok rfl]
  exact andThen_of (WindowsInit_known w hgood htabs hclear) (keeps_give 0)

/-- The device window is updated in the step. -/
def UpdatesDevices (w : World) (ui : Ui) : Event → Prop
  | .getch ch _ _ => ui.requesetExit = false ∧ ui.returned = false ∧ ch = err
    ∧ ui.winUpdated .device + WindowType.device.period ≤ w.clock ui.asked
  | .signal => False

include hgood in
theorem updateWindow_keeps {now : ℕ} {ui : Ui} (h : Inv S ui) (win : WindowType)
    (hload : win = .device → ui.winUpdated .device + WindowType.device.period ≤ now →
      ∀ i, Reaches w ui i → S.Loads w i) :
    Inv S (updateWindow w now win ui).2 := by
  unfold updateWindow
  split_ifs with hdue
  · refine andThen_of (WindowUpdate_keeps w hgood h win ?_) (keeps_act fun _ h => { h with })
    rintro rfl
    exact hload rfl hdue.2
  · exact h

include hgood in
theorem WindowsUpdate_keeps {ui : Ui} (h : Inv S ui)
    (hload : ui.winUpdated .device + WindowType.device.period ≤ w.clock ui.asked →
      ∀ i, Reaches w ui.ask i → S.Loads w i) :
    Inv S (WindowsUpdate w ui).2 := by
  have hask : Inv S ui.ask := { h with }
  have hrest : Keeps (Inv S)
      (block ([WindowType.tab, .main, .status].map (updateWindow w (w.clock ui.asked)))) := by
    refine keeps_map _ fun win hwin ui' h' => updateWindow_keeps w hgood h' win ?_
    rintro rfl
    simp at hwin
  exact andThen_of (updateWindow_keeps w hgood hask .device fun _ => hload) hrest

include hgood htabs in
theorem turn_keeps {ui : Ui} (h : Inv S ui) (ch cols lines : ℤ)
    (hload : ch = err → ui.winUpdated .device + WindowType.device.period ≤ w.clock ui.asked →
      ∀ i, Reaches w ui.ask i → S.Loads w i) :
    Inv S (turn w ch cols lines ui) := by
  unfold turn
  dsimp only
  split_ifs with hresize hret hidle
  · exact { WindowsUpdateUi_known w hgood htabs cols lines (n := S.tabs) h with }
  · exact WindowsUpdateUi_known w hgood htabs cols lines (n := S.tabs) h
  · exact WindowsUpdate_keeps w hgood h (hload hidle)
  · exact dispatchInput_keeps w ch hgood htabs windows ui h

include hgood htabs in
theorem step_keeps {ui : Ui} (h : Inv S ui) (e : Event)
    (hload : UpdatesDevices w ui e → ∀ i, Reaches w ui.ask i → S.Loads w i) :
    Inv { S with tick := (step w ui e).tick } (step w ui e) := by
  rcases e with ⟨ch, cols, lines⟩ | _
  · unfold step
    dsimp only
    split_ifs with hexit
    · exact { h with tick := rfl }
    · rw [Bool.or_eq_true, not_or, Bool.not_eq_true, Bool.not_eq_true] at hexit
      have hturn := turn_keeps w hgood htabs h ch cols lines fun hch hdue =>
        hload ⟨hexit.1, hexit.2, hch, hdue⟩
      exact { hturn with tick := rfl }
  · exact { h with tick := rfl }

end Loop

/-! ## Runs -/

/-- The scene of a run that starts with `dctx`. -/
def scene (good : Device → Prop) (dctx : DeviceContext) (tick : ℕ) : Scene where
  good
  count := dctx.deviceCount
  pdevs i := (dctx.slot i).map (·.pdev)
  tick
  tabs := getTabInfoCount

section Run

variable {good : Device → Prop} (hgood : ∀ device, good device → device.gpuDevice ≠ none)
  (w : World) {dctx : DeviceContext}

/-- Before the windows are initialised the number of tabs is not known. -/
theorem init_inv {recorded : List PciDevice} (h : Slots recorded dctx)
    (hl : ∀ i device, dctx.slot i = some device → device.driverisLoaded = true → good device) :
    Inv { scene good dctx 0 with tabs := 0 } { dctx, timeout := 100 } := by
  refine ⟨rfl, ?_, fun i hi => ?_, hl, fun _ => rfl, ?_, ⟨le_rfl, Or.inr rfl⟩, by simp, rfl, rfl,
    rfl⟩
  · exact h.count.trans_le h.fits
  · have hslot := h.slot i
    rw [List.getElem?_eq_getElem (hi.trans_eq h.count), Option.map_some,
      Option.map_eq_some_iff] at hslot
    obtain ⟨device, hdevice, -⟩ := hslot
    exact ⟨device, hdevice⟩
  · exact ⟨le_rfl, Int.natCast_pos.2 (by decide : 0 < getTabInfoCount)⟩

include hgood in
theorem start_inv {recorded : List PciDevice} (h : Slots recorded dctx)
    (hl : ∀ i device, dctx.slot i = some device → device.driverisLoaded = true → good device)
    (cols lines : ℤ) :
    Inv (scene good dctx (start w dctx cols lines).tick) (start w dctx cols lines) :=
  { WindowsUpdateUi_known (S := scene good dctx 0) w hgood rfl cols lines (init_inv h hl) with
    tick := rfl }

end Run

/-- What is promised of every state of the loop. -/
structure Sound (ui : Ui) : Prop where
  tab : 0 ≤ ui.activeTabID ∧ ui.activeTabID < getTabInfoCount
  device : 0 ≤ ui.activeDeviceID ∧ (ui.activeDeviceID < ui.dctx.deviceCount
    ∨ ui.activeDeviceID = 0 ∧ ui.dctx.deviceCount = 0)
  loaded : ∀ i device, ui.dctx.slot i = some device → device.driverisLoaded = true →
    device.gpuDevice ≠ none
  calls : ∀ call ∈ ui.calls, call.Allowed fun device => device.gpuDevice ≠ none
  fault : ui.fault = false

theorem Inv.sound {S : Scene} {ui : Ui} (h : Inv S ui)
    (hgood : S.good = fun device => device.gpuDevice ≠ none) : Sound ui := by
  obtain ⟨h0, hlt⟩ := h.device
  refine ⟨h.tab, ⟨h0, by omega⟩, fun i device hi hl => ?_, fun call hcall => ?_, h.fault⟩
  · have hg := h.loaded i device hi hl
    rwa [hgood] at hg
  · have hc := h.calls call hcall
    rwa [hgood] at hc

/-- A step of a run in which a device is good once it is open. -/
theorem step_open (w : World) {dctx : DeviceContext} (ui : Ui) (e : Event)
    (h : Inv (scene (fun device => device.gpuDevice ≠ none) dctx ui.tick) ui) :
    Inv (scene (fun device => device.gpuDevice ≠ none) dctx (step w ui e).tick) (step w ui e) :=
  step_keeps w (fun _ hopen => hopen) rfl h e fun _ i _ device _ _ hl hl' => by
    obtain ⟨-, -, hgpu, hcard⟩ := UpdateDeviceInfo_loaded hl' hl
    exact hgpu.trans_ne hcard

theorem InitDeviceContext_slots {ok : ℕ → Bool} {pciSystemInit : ℤ}
    {pdevs : List (PciDevice × InitAnswer)} {addr : ℕ} {m m' : Ledger} {ret : ℤ}
    {dctx : DeviceContext}
    (hinit : InitDeviceContext ok pciSystemInit pdevs { addr } m = some (ret, dctx, m')) :
    ∃ recorded, Slots recorded dctx ∧ LoadedReady dctx := by
  obtain ⟨hnone, -⟩ | ⟨ret', d, m1, hsome, ⟨recorded, hslots⟩, hready⟩ :=
    InitDeviceContext_ready ok pciSystemInit pdevs addr m
  · cases hinit.symm.trans hnone
  obtain ⟨-, hd⟩ := Prod.mk.inj (Option.some.inj (hinit.symm.trans hsome))
  obtain ⟨rfl, -⟩ := Prod.mk.inj hd
  exact ⟨recorded, hslots, hready⟩

/-- With no more display devices than slots, every run of the loop is sound. -/
theorem main_loop_sound (w : World) (ok : ℕ → Bool) (pciSystemInit : ℤ)
    (pdevs : List (PciDevice × InitAnswer)) (addr : ℕ) (m : Ledger) (cols lines : ℤ)
    (hfit : (displays pdevs).length ≤ gpuMaxCardSupport) :
    ∃ ret dctx m', InitDeviceContext ok pciSystemInit pdevs { addr } m = some (ret, dctx, m')
      ∧ ∀ events, Sound (run (step w) (start w dctx cols lines) events) := by
  obtain ⟨ret, dctx, m', hinit, ⟨recorded, hslots⟩, hready⟩ :=
    (InitDeviceContext_ready ok pciSystemInit pdevs addr m).resolve_left fun h =>
      absurd h.2 (Nat.not_lt.2 hfit)
  refine ⟨ret, dctx, m', hinit, fun events => ?_⟩
  have hstart := start_inv (fun _ h => h) w hslots (fun i d hi hl => (hready i d hi hl).1) cols lines
  have hrun := run_keeps (I := fun ui => Inv (scene (fun device => device.gpuDevice ≠ none) dctx
    ui.tick) ui) (step_open w) events hstart
  exact hrun.sound rfl

section Example

def unbound : InitAnswer := ⟨(0, 41), [], [], false, ⟨(0, []), none⟩⟩

def intelCard : PciDevice := ⟨0, 0, 2, 0, 0x8086, 0x3e92, 0, 0, 0x030000, 2⟩

def i915Link : DriverLink := ⟨true, some "../../../bus/pci/drivers/i915".toList⟩

def intelDri : Dri where
  dents := [⟨"card0".toList, 3, 0, true, 226, 0⟩]
  uevent _ _ := some
    "PCI_ID=8086:3E92\nPCI_SUBSYS_ID=8086:0B37\nPCI_SLOT_NAME=0000:00:02.0\n".toList
  alloc := true

/-- Slot `i` has a driver, once the loop has begun. -/
def boundWorld (i : ℕ) : World where
  hasKernelDriver _ j := i = j
  probe _ _ := ⟨(0, "i915".toList), some ⟨3, 0, 226, 0, .card⟩⟩
  tabInit _ := 0
  tabUpdate _ := 0
  sensor _ := (0, 7)
  clock _ := ms2ns 1000
  key _ := err

theorem main_loop_sound_two_cards :
    (displays [(amdCard, unbound), (amdCard, unbound)]).length ≤ gpuMaxCardSupport
      ∧ ∃ ret dctx m', InitDeviceContext (fun _ => true) 0 [(amdCard, unbound), (amdCard, unbound)]
          { addr := 0 } {} = some (ret, dctx, m')
        ∧ ∀ events, Sound (run (step (boundWorld 1)) (start (boundWorld 1) dctx 80 24) events) :=
  ⟨by decide, main_loop_sound (boundWorld 1) (fun _ => true) 0
    [(amdCard, unbound), (amdCard, unbound)] 0 {} 80 24 (by decide)⟩

end Example

/-- The step updates the device window, and `deviceUpdate` comes to a device of another vendor that
has a kernel driver, a readable driver link and a card node. -/
def LoadsOther (w : World) (ui : Ui) (e : Event) : Prop :=
  UpdatesDevices w ui e ∧ ∃ i device, Reaches w ui.ask i ∧ ui.dctx.slot i = some device
    ∧ device.pdev.vendorId ≠ vendorAmd ∧ w.hasKernelDriver ui.tick i = true
    ∧ (w.probe ui.tick i).driver.1 = 0 ∧ (w.probe ui.tick i).card ≠ none

theorem loads_of_not_loadsOther {w : World} {dctx : DeviceContext} {ui : Ui} {e : Event}
    (h : Inv (scene Device.Ready dctx ui.tick) ui) (hnot : ¬ LoadsOther w ui e)
    (hupdate : UpdatesDevices w ui e) {i : ℕ} (hi : Reaches w ui.ask i) :
    (scene Device.Ready dctx ui.tick).Loads w i := by
  intro device hpdev hbound hl hl'
  obtain ⟨-, hdriver, hgpu, hcard⟩ := UpdateDeviceInfo_loaded hl' hl
  refine ⟨hgpu.trans_ne hcard, ?_⟩
  rw [(UpdateDeviceInfo_frame _ device).2.2]
  by_contra hv
  rw [← h.pdevs, Option.map_eq_some_iff] at hpdev
  obtain ⟨d, hd, hdev⟩ := hpdev
  exact hnot ⟨hupdate, i, d, hi, hd, hdev ▸ hv, hbound, hdriver, hcard⟩

/-- Every loaded device is of AMD, and so is the device of every call. -/
structure OnlyAmd (ui : Ui) : Prop where
  loaded : ∀ i device, ui.dctx.slot i = some device → device.driverisLoaded = true →
    device.pdev.vendorId = vendorAmd
  calls : ∀ call ∈ ui.calls, call.Allowed fun device => device.pdev.vendorId = vendorAmd

/-- In a run that never comes to load a device of another vendor, only those of AMD are loaded. -/
theorem main_loop_only_amd (w : World) (ok : ℕ → Bool) (pciSystemInit : ℤ)
    (pdevs : List (PciDevice × InitAnswer)) (addr : ℕ) (m : Ledger) (cols lines : ℤ)
    {ret : ℤ} {dctx : DeviceContext} {m' : Ledger}
    (hinit : InitDeviceContext ok pciSystemInit pdevs { addr } m = some (ret, dctx, m'))
    (events : List Event)
    (hmeets : Meets (step w) (fun ui e => ¬ LoadsOther w ui e) (start w dctx cols lines) events) :
    OnlyAmd (run (step w) (start w dctx cols lines) events) := by
  obtain ⟨recorded, hslots, hready⟩ := InitDeviceContext_slots hinit
  have hgood : ∀ device, Device.Ready device → device.gpuDevice ≠ none := fun _ h => h.1
  have hstart := start_inv hgood w hslots hready cols lines
  have hrun := run_keeps_of_meets (I := fun ui => Inv (scene Device.Ready dctx ui.tick) ui)
    (fun ui e h hnot => step_keeps w hgood rfl h e fun hupdate i hi =>
      loads_of_not_loadsOther h hnot hupdate hi) events hmeets hstart
  exact ⟨fun i device hi hl => (hrun.loaded i device hi hl).2,
    fun call hcall => (hrun.calls call hcall).mono fun _ h => h.2⟩

section Example

/-- An AMD card first and then an Intel card. -/
def mixedContext : DeviceContext :=
  (({ addr := 0, deviceCount := 2 } : DeviceContext).put 0
    (InitDevice unbound { addr := 1, id := 0, pdev := amdCard }).2).put 1
      (InitDevice unbound { addr := 2, id := 1, pdev := intelCard }).2

/-- Only the AMD card has a driver. -/
theorem main_loop_only_amd_mixed :
    ∃ m', InitDeviceContext (fun _ => true) 0 [(amdCard, unbound), (intelCard, unbound)]
        { addr := 0 } { calls := 1 } = some (0, mixedContext, m')
      ∧ OnlyAmd (run (step (boundWorld 0)) (start (boundWorld 0) mixedContext 80 24)
        [.getch err 80 24]) := by
  have hnot : ¬ LoadsOther (boundWorld 0) (start (boundWorld 0) mixedContext 80 24)
      (.getch err 80 24) := by
    intro h
    obtain ⟨i, device, -, hd, hv, hbound, -⟩ := h.2
    obtain rfl : 0 = i := of_decide_eq_true hbound
    have hpdev : some amdCard = some device.pdev := congrArg (Option.map Device.pdev) hd
    exact hv (Option.some.inj hpdev ▸ rfl)
  exact ⟨_, rfl, main_loop_only_amd (boundWorld 0) (fun _ => true) 0
    [(amdCard, unbound), (intelCard, unbound)] 0 { calls := 1 } 80 24 rfl _ ⟨hnot, trivial⟩⟩

set_option maxRecDepth 4000 in
/-- An Intel card whose driver is bound after the start is loaded at the next tick. -/
theorem main_loop_loads_intel :
    probe i915Link intelDri intelCard = some ((boundWorld 0).probe 0 0)
      ∧ ∃ ret dctx m', InitDeviceContext (fun _ => true) 0 [(intelCard, unbound)] { addr := 0 } {}
          = some (ret, dctx, m')
        ∧ ¬ OnlyAmd (run (step (boundWorld 0)) (start (boundWorld 0) dctx 80 24)
          [.getch err 80 24]) :=
  ⟨by decide, _, _, _, rfl, fun h => absurd (h.loaded 0 _ rfl rfl) (by decide)⟩

end Example

end Amdtop
