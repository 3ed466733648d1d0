import Amdtop.Navigation
import Amdtop.Proofs.Screen

/-!
# The keys select what they are for

`Ui.course` is the two indices, what ends the loop, and the devices. But for `deviceUpdate`, which
changes the devices, only a key that selects and the dialog that exits change it, before anything
that can fail, so the tab and the device depend on the keys alone.
-/

namespace Amdtop

open Cmd Heap

structure Course where
  activeTabID : ℤ
  activeDeviceID : ℤ
  requesetExit : Bool
  returned : Bool
  dctx : DeviceContext

def Ui.course (ui : Ui) : Course :=
  ⟨ui.activeTabID, ui.activeDeviceID, ui.requesetExit, ui.returned, ui.dctx⟩

/-! ## What leaves the course alone -/

section Course

variable (w : World)

theorem readActive_course (ui : Ui) : ui.readActive.course = ui.course := by
  unfold Ui.readActive
  split_ifs <;> rfl

theorem mainInit_course : Leaves Ui.course (mainInit w) := by
  intro ui
  have hread := readActive_course ui
  unfold mainInit
  dsimp only
  generalize ui.readActive = read at hread ⊢
  split
  · exact hread
  · split_ifs
    · exact hread
    · exact hread

theorem mainExit_course : Leaves Ui.course mainExit := by
  intro ui
  unfold mainExit
  split <;> rfl

theorem TabinfoUpdate_course (tabInfo : TabInfo) : Leaves Ui.course (TabinfoUpdate w tabInfo) := by
  intro ui
  unfold TabinfoUpdate
  split_ifs <;> rfl

theorem mainUpdate_course : Leaves Ui.course (mainUpdate w) := by
  intro ui
  have hread : ui.ask.readActive.course = ui.course := readActive_course ui.ask
  rw [← hread]
  unfold mainUpdate
  dsimp only
  split_ifs
  · split
    · rfl
    · split_ifs
      · exact (TabinfoUpdate_course w _).andThen (fun _ => rfl) _
      · rfl
  · rfl

theorem updateStatus_course : Leaves Ui.course (updateStatus w) := by
  intro ui
  rw [← readActive_course ui]
  unfold updateStatus
  dsimp only
  split
  · rfl
  · split_ifs <;> rfl

theorem statusInit_course : Leaves Ui.course (statusInit w) := by
  intro ui
  rw [← readActive_course ui]
  unfold statusInit
  dsimp only
  split
  · rfl
  · split_ifs
    · exact updateStatus_course w _
    · rfl

theorem updateActiveDevice_course (index : ℤ) (ui : Ui) :
    (updateActiveDevice index ui).course = ui.course := rfl

theorem updateActiveTab_course (index : ℤ) (ui : Ui) :
    (updateActiveTab index ui).course = ui.course := rfl

theorem deviceInit_course : Leaves Ui.course deviceInit := by
  intro ui
  unfold deviceInit
  dsimp only
  split_ifs <;> rfl

theorem tabInit_course : Leaves Ui.course tabInit := by
  intro ui
  obtain ⟨f, -, hdraws⟩ := tabInit_draws ui
  rw [hdraws]
  rfl

/-- Of the course, `deviceUpdate` changes the devices. -/
theorem deviceUpdateLoop_course : ∀ slots (ui : Ui), (deviceUpdateLoop w slots ui).2.course
    = { ui.course with dctx := (deviceUpdateLoop w slots ui).2.dctx }
  | [], _ => rfl
  | i :: slots, ui => by
    unfold deviceUpdateLoop
    split
    · rfl
    next device _ =>
    dsimp only
    split_ifs
    · exact deviceUpdateLoop_course slots ui
    · rfl
    · set ui₁ : Ui := { ui with
        dctx := ui.dctx.put i (UpdateDeviceInfo (w.probe ui.tick i) device).2 }
      have hmain := mainInit_course w ui₁
      unfold andThen
      split_ifs
      · have hdctx : (mainInit w ui₁).2.dctx = ui₁.dctx := congrArg Course.dctx hmain
        rw [hmain, hdctx]
        rfl
      · rw [deviceUpdateLoop_course slots, hmain]
        rfl

theorem WindowInit_course : ∀ win, Leaves Ui.course (WindowInit w win)
  | .device => deviceInit_course
  | .tab => tabInit_course
  | .main => mainInit_course w
  | .status => statusInit_course w

theorem WindowExit_course : ∀ win, Leaves Ui.course (WindowExit win)
  | .main => mainExit_course
  | .device | .tab | .status => fun _ => rfl

theorem WindowUpdate_course : ∀ win, win ≠ .device → Leaves Ui.course (WindowUpdate w win)
  | .device, h => absurd rfl h
  | .tab, _ => fun _ => rfl
  | .main, _ => mainUpdate_course w
  | .status, _ => updateStatus_course w

theorem WindowClear_course : ∀ win, Leaves Ui.course (WindowClear win)
  | .device | .tab | .main | .status => fun _ => rfl

theorem reinit_course (win : WindowType) : Leaves Ui.course (reinit w win) :=
  (WindowExit_course win).cons ((WindowClear_course win).cons ((WindowInit_course w win).cons
    leaves_nil))

theorem WindowsUpdateUi_course (cols lines : ℤ) :
    Leaves Ui.course (WindowsUpdateUi w cols lines) := by
  refine Leaves.cons (fun _ => rfl) (Leaves.cons ?_ (Leaves.cons ?_ leaves_nil))
  · exact leaves_iff.2 fun _ => keeps_map _ fun win _ => leaves_iff.1 (WindowClear_course win) _
  · exact leaves_iff.2 fun _ => keeps_map _ fun win _ ui h => (WindowInit_course w win _).trans h

theorem updateWindow_course (now : ℕ) {win : WindowType} (h : win ≠ .device) :
    Leaves Ui.course (updateWindow w now win) := fun ui => by
  unfold updateWindow
  split_ifs
  · exact (WindowUpdate_course w win h).andThen (fun _ => rfl) ui
  · rfl

/-- The devices after an idle tick. -/
def ticked (ui : Ui) : DeviceContext :=
  if ui.winUpdated .device + WindowType.device.period ≤ w.clock ui.asked then
    (deviceUpdate w ui.ask).2.dctx
  else ui.dctx

theorem WindowsUpdate_course (ui : Ui) :
    (WindowsUpdate w ui).2.course = { ui.course with dctx := ticked w ui } := by
  have hrest : Leaves Ui.course
      (block ([WindowType.tab, .main, .status].map (updateWindow w (w.clock ui.asked)))) :=
    (updateWindow_course w _ (by decide)).cons ((updateWindow_course w _ (by decide)).cons
      ((updateWindow_course w _ (by decide)).cons leaves_nil))
  refine (hrest.after (updateWindow w (w.clock ui.asked) .device) ui.ask).trans ?_
  have hperiod : 0 < WindowType.device.period := by decide
  unfold updateWindow ticked
  by_cases hdue : ui.winUpdated .device + WindowType.device.period ≤ w.clock ui.asked
  · rw [if_pos hdue, if_pos ⟨hperiod, hdue⟩]
    refine (Leaves.after (fun _ => rfl) (WindowUpdate w .device) ui.ask).trans ?_
    refine (deviceUpdateLoop_course w _ _).trans ?_
    exact congrArg (fun course : Course => { course with dctx := (deviceUpdate w ui.ask).2.dctx })
      (readActive_course ui.ask)
  · rw [if_neg hdue, if_neg fun h => hdue h.2]
    rfl

end Course

/-! ## Keys -/

section Keys

variable {w : World} {ch : ℤ} {ui : Ui}

/-- The index is set before the windows are initialised again. -/
theorem deviceHandleInput_course : (deviceHandleInput w ch ui).2.course
    = { ui.course with activeDeviceID :=
        if ui.dctx.deviceCount ≤ 1 then ui.activeDeviceID else selectDevice ch ui } := by
  unfold deviceHandleInput
  by_cases hn : ui.dctx.deviceCount ≤ 1
  · rw [if_pos hn, if_pos hn]
    rfl
  rw [if_neg hn, if_neg hn]
  dsimp only
  by_cases hd : selectDevice ch ui = ui.activeDeviceID
  · rw [if_neg (not_not.2 hd), hd]
    rfl
  rw [if_pos hd, block, andThen_ok rfl, block, andThen_ok rfl]
  refine ((reinit_course w .main).cons ((reinit_course w .status).cons
    (Leaves.cons (fun _ => rfl) leaves_nil)) _).trans ?_
  have hmark := updateActiveDevice_course (selectDevice ch ui) ui
  exact congrArg (fun course : Course => { course with activeDeviceID := selectDevice ch ui }) hmark

theorem mainExit_fst (ui : Ui) : (mainExit ui).1 = 0 := by
  unfold mainExit
  split <;> rfl

theorem tabHandleInput_course : (tabHandleInput w ch ui).2.course
    = { ui.course with activeTabID := selectTab ch ui } := by
  unfold tabHandleInput
  dsimp only
  by_cases ht : selectTab ch ui = ui.activeTabID
  · rw [if_neg (not_not.2 ht), ht]
    rfl
  rw [if_pos ht, block, WindowExit, andThen_ok (mainExit_fst ui), block, andThen_ok rfl]
  refine ((WindowClear_course .main).cons ((WindowInit_course w .main).cons
    (Leaves.cons (fun _ => updateActiveTab_course _ _) (Leaves.cons (fun _ => rfl) leaves_nil)))
    _).trans ?_
  exact congrArg (fun course : Course => { course with activeTabID := selectTab ch ui })
    (mainExit_course ui)

theorem exitProgram_course : (exitProgram w ui).2.course = { ui.course with
    requesetExit := ui.requesetExit || decide (w.key ui.asked = 'y'.toNat) } := by
  unfold exitProgram
  dsimp only
  by_cases hy : w.key ui.asked = 'y'.toNat
  · rw [if_pos hy, decide_eq_true hy, Bool.or_true]
    rfl
  · rw [if_neg hy, decide_eq_false hy, Bool.or_false]
    exact Leaves.cons (f := act (Ui.setTimeout 100)) (fun _ => rfl)
      ((reinit_course w .main).cons leaves_nil) _

theorem helperHandler_course : Leaves Ui.course (helperHandler w) := by
  intro ui
  unfold helperHandler
  split_ifs
  · rfl
  · exact (WindowClear_course .main).cons (Leaves.cons (fun _ => rfl) (Leaves.cons (fun _ => rfl)
      ((reinit_course w .main).cons (Leaves.cons (fun _ => rfl) leaves_nil)))) ui

theorem mainHandleInput_course : (mainHandleInput w ch ui).2.course = { ui.course with
    requesetExit := ui.requesetExit
      || decide (ch = 'q'.toNat ∧ w.key ui.asked = 'y'.toNat) } := by
  unfold mainHandleInput
  by_cases hq : ch = 'q'.toNat
  · rw [if_pos hq]
    refine (Leaves.after (fun _ => rfl) (exitProgram w) ui).trans (exitProgram_course.trans ?_)
    simp only [hq, true_and]
  · have hno : decide (ch = 'q'.toNat ∧ w.key ui.asked = 'y'.toNat) = false :=
      decide_eq_false fun h => hq h.1
    rw [if_neg hq, hno, Bool.or_false]
    split_ifs
    · exact helperHandler_course.andThen (fun _ => rfl) ui
    · rfl

/-- A window that does nothing with the key. -/
theorem dispatchInput_pass {win : WindowType} (h : WindowInput w ch win ui = (handleNone, ui))
    (wins : List WindowType) :
    dispatchInput w ch (win :: wins) ui = dispatchInput w ch wins ui := by
  rw [dispatchInput, h]
  exact if_neg (by decide)

theorem deviceHandleInput_pass (h3 : ch ≠ keyF 3) (h4 : ch ≠ keyF 4) :
    WindowInput w ch .device ui = (handleNone, ui) := by
  unfold WindowInput deviceHandleInput
  dsimp only
  rw [selectDevice_of_ne h3 h4, if_neg (not_not.2 rfl), if_neg (not_or.2 ⟨h3, h4⟩), ite_self]

theorem tabHandleInput_pass (hnext : ¬ (ch = keyNpage ∨ ch = 14))
    (hprev : ¬ (ch = keyPpage ∨ ch = 16)) : WindowInput w ch .tab ui = (handleNone, ui) := by
  unfold WindowInput tabHandleInput
  dsimp only
  rw [selectTab_of_ne hnext hprev, if_neg (not_not.2 rfl), if_neg]
  tauto

/-- What a key makes of the course: no two windows do something with the same key. -/
theorem WindowsDispatchInput_course : (WindowsDispatchInput w ch ui).2.course =
    { activeTabID := selectTab ch ui
      activeDeviceID :=
        if ui.dctx.deviceCount ≤ 1 then ui.activeDeviceID else selectDevice ch ui
      requesetExit := ui.requesetExit || decide (ch = 'q'.toNat ∧ w.key ui.asked = 'y'.toNat)
      returned := ui.returned
      dctx := ui.dctx } := by
  have hmain : ch ≠ 'q'.toNat → ∀ ui' : Ui, (mainHandleInput w ch ui').2.course = ui'.course := by
    intro hq ui'
    rw [mainHandleInput_course, decide_eq_false fun h => hq h.1, Bool.or_false]
    rfl
  have hquit : ch ≠ 'q'.toNat →
      (ui.requesetExit || decide (ch = 'q'.toNat ∧ w.key ui.asked = 'y'.toNat))
        = ui.requesetExit := fun hq => by rw [decide_eq_false fun h => hq h.1, Bool.or_false]
  unfold WindowsDispatchInput windows
  by_cases hdevice : ch = keyF 3 ∨ ch = keyF 4
  · have hq : ch ≠ 'q'.toNat := by rcases hdevice with rfl | rfl <;> decide
    have hidle : ∀ ui', selectTab ch ui' = ui'.activeTabID := fun ui' => by
      rw [selectTab_of_ne] <;> rcases hdevice with rfl | rfl <;> decide
    have htab : ∀ ui', (tabHandleInput w ch ui').2 = ui' := fun ui' =>
      tabHandleInput_idle (hidle ui')
    rw [hidle, hquit hq]
    let P : Ui → Prop := fun ui' => ui'.course = { ui.course with
      activeDeviceID := if ui.dctx.deviceCount ≤ 1 then ui.activeDeviceID else selectDevice ch ui }
    have hfirst : P (deviceHandleInput w ch ui).2 := deviceHandleInput_course
    have hsecond : P (tabHandleInput w ch (deviceHandleInput w ch ui).2).2 := by rwa [htab]
    have hthird :
        P (mainHandleInput w ch (tabHandleInput w ch (deviceHandleInput w ch ui).2).2).2 :=
      (hmain hq _).trans hsecond
    exact dispatchInput_cons P hfirst (dispatchInput_cons P hsecond
      (dispatchInput_cons P hthird hthird))
  obtain ⟨h3, h4⟩ := not_or.1 hdevice
  rw [dispatchInput_pass (deviceHandleInput_pass h3 h4), selectDevice_of_ne h3 h4, ite_self]
  by_cases htab : (ch = keyNpage ∨ ch = 14) ∨ ch = keyPpage ∨ ch = 16
  · have hq : ch ≠ 'q'.toNat := by rcases htab with (rfl | rfl) | rfl | rfl <;> decide
    rw [hquit hq]
    let P : Ui → Prop := fun ui' => ui'.course = { ui.course with activeTabID := selectTab ch ui }
    have hfirst : P (tabHandleInput w ch ui).2 := tabHandleInput_course
    have hsecond : P (mainHandleInput w ch (tabHandleInput w ch ui).2).2 :=
      (hmain hq _).trans hfirst
    exact dispatchInput_cons P hfirst (dispatchInput_cons P hsecond hsecond)
  · obtain ⟨hnext, hprev⟩ := not_or.1 htab
    rw [dispatchInput_pass (tabHandleInput_pass hnext hprev), selectTab_of_ne hnext hprev]
    let P : Ui → Prop := fun ui' => ui'.course = { ui.course with
      requesetExit := ui.requesetExit || decide (ch = 'q'.toNat ∧ w.key ui.asked = 'y'.toNat) }
    have hfirst : P (mainHandleInput w ch ui).2 := mainHandleInput_course
    exact dispatchInput_cons P hfirst hfirst

end Keys

/-! ## A resize -/

section Resize

variable {S : Scene} {w : World} {ui : Ui}

theorem mainInit_fst_iff (h : Inv S ui) : (mainInit w ui).1 ≠ 0 ↔ InitFails w ui := by
  obtain ⟨tabInfo, htab⟩ := h.tabInfo
  unfold mainInit InitFails
  dsimp only
  rw [h.readActive, htab]
  dsimp only
  simp only [Option.some.injEq, exists_eq_left']
  split_ifs with hc
  · exact (and_iff_right hc).symm
  · exact iff_of_false (not_not.2 rfl) fun hfail => hc hfail.1

theorem deviceInit_window (ui : Ui) : ∃ window, deviceInit ui = (0, { ui with window }) := by
  unfold deviceInit updateActiveDevice
  dsimp only
  split_ifs <;> exact ⟨_, rfl⟩

theorem tabInit_window (ui : Ui) :
    ∃ window, tabInit ui = (0, { ui with gTabCount := getTabInfoCount, window }) := ⟨_, rfl⟩

/-- Only the init of the selected tab can fail. -/
theorem WindowsInit_fst_iff (h : Inv S ui) : (WindowsInit w ui).1 ≠ 0 ↔ InitFails w ui := by
  obtain ⟨window, hdevice⟩ : ∃ window, initWindow w .device ui = (0, { ui with
      winUpdated := Function.update ui.winUpdated .device 0, window }) := deviceInit_window _
  set ui₁ : Ui := { ui with winUpdated := Function.update ui.winUpdated .device 0, window }
  obtain ⟨window', htab⟩ : ∃ window', initWindow w .tab ui₁ = (0, { ui₁ with
      winUpdated := Function.update ui₁.winUpdated .tab 0, gTabCount := getTabInfoCount
      window := window' }) := tabInit_window _
  set ui₂ : Ui := { ui₁ with
    winUpdated := Function.update ui₁.winUpdated .tab 0, gTabCount := getTabInfoCount
    window := window' }
  have hinv : Inv { S with tabs := getTabInfoCount } ui₂ := { h with tabs := rfl }
  have hmain : (initWindow w .main ui₂).1 ≠ 0 ↔ InitFails w ui :=
    mainInit_fst_iff (hinv.resetWindow .main)
  unfold WindowsInit windows
  rw [List.map_cons, block, andThen_ok (congrArg Prod.fst hdevice), hdevice, List.map_cons, block,
    andThen_ok (congrArg Prod.fst htab), htab, List.map_cons, block, List.map_singleton,
    block_singleton, Ne, andThen_fst, and_iff_left (initWindow_status_fst _)]
  exact hmain

theorem InitMainWindow_initFails : InitFails w (InitMainWindow ui).2 ↔ InitFails w ui := Iff.rfl

theorem WindowsUpdateUi_fst_iff (h : Inv S ui) (cols lines : ℤ) :
    (WindowsUpdateUi w cols lines ui).1 ≠ 0 ↔ InitFails w ui := by
  have hinit : InitFails w (ui.layout cols lines) ↔ InitFails w ui := Iff.rfl
  rw [WindowsUpdateUi_eq, WindowsInit_fst_iff (InitMainWindow_keeps _ (layout_inv h cols lines)),
    InitMainWindow_initFails, hinit]

end Resize

/-! ## The selection -/

section Selection

variable {S : Scene} {ui : Ui} {v : Selection} (ch cols lines : ℤ)

theorem take_tab (count : ℕ) (v : Selection) (ch cols lines : ℤ) :
    ((v.take count (.getch ch cols lines)).tab : ℕ) =
      if ch = keyNpage ∨ ch = 14 then ((v.tab : ℕ) + 1) % 10
      else if ch = keyPpage ∨ ch = 16 then ((v.tab : ℕ) + 9) % 10 else v.tab := by
  unfold Selection.take Event.moves keyMove
  dsimp only
  split_ifs
  · rfl
  · exact congrArg (· % 10) (Nat.add_comm 9 _)
  all_goals rfl

theorem take_device (count : ℕ) (v : Selection) (ch cols lines : ℤ) :
    (v.take count (.getch ch cols lines)).device =
      if ch = keyF 4 then min (v.device + 1) (count - 1)
      else if ch = keyF 3 then v.device - 1 else v.device := by
  unfold Selection.take Event.moves keyMove
  dsimp only
  by_cases htab : (ch = keyNpage ∨ ch = 14) ∨ ch = keyPpage ∨ ch = 16
  · have h4 : ch ≠ keyF 4 := by rcases htab with (rfl | rfl) | rfl | rfl <;> decide
    have h3 : ch ≠ keyF 3 := by rcases htab with (rfl | rfl) | rfl | rfl <;> decide
    rw [if_neg h4, if_neg h3]
    split_ifs <;> rfl
  · obtain ⟨hnext, hprev⟩ := not_or.1 htab
    rw [if_neg hnext, if_neg hprev]
    split_ifs <;> rfl

theorem selectTab_is (h : Inv S ui) (htabs : S.tabs = getTabInfoCount) (hv : v.Is ui) :
    selectTab ch ui = ((v.take S.count (.getch ch cols lines)).tab : ℕ) := by
  have hlt : (v.tab : ℕ) < 10 := v.tab.isLt
  have hcount : getTabInfoCount = 10 := rfl
  have htab := h.tabs.trans htabs
  have hv := hv.1
  have hnext : u32 (ui.activeTabID + 1) = (ui.activeTabID + 1).toNat :=
    u32_eq (n := 11) (by omega) (by omega) (by omega)
  have hlast : i32 ((ui.gTabCount : ℤ) - 1) = (ui.gTabCount : ℤ) - 1 :=
    i32_eq (by omega) (by omega)
  rw [take_tab]
  unfold selectTab
  rw [hnext, hlast]
  split_ifs <;> omega

theorem selectDevice_is (h : Inv S ui) (hv : v.Is ui) :
    (if ui.dctx.deviceCount ≤ 1 then ui.activeDeviceID else selectDevice ch ui)
      = ((v.take S.count (.getch ch cols lines)).device : ℕ) := by
  obtain ⟨h0, hlt⟩ := h.device
  have hcount := h.count
  have hsize := h.size
  have hmax : gpuMaxCardSupport = 8 := rfl
  have hv := hv.2
  have hkeys : keyF 3 ≠ keyF 4 := by decide
  rw [take_device]
  split_ifs with hone hnext hprev hnext
  · omega
  · omega
  · omega
  all_goals
    have hnext : u32 (ui.activeDeviceID + 1) = (ui.activeDeviceID + 1).toNat :=
      u32_eq (n := 9) (by omega) (by omega) (by omega)
    have hlast : i32 ((ui.dctx.deviceCount : ℤ) - 1) = (ui.dctx.deviceCount : ℤ) - 1 :=
      i32_eq (by omega) (by omega)
    unfold selectDevice
    rw [hnext, hlast]
    split_ifs <;> omega

end Selection

/-! ## Steps and runs -/

section Run

variable {S : Scene} {w : World} {ui : Ui} {v : Selection}

theorem ended_iff (ui : Ui) :
    ui.Ended ↔ ui.course.requesetExit = true ∨ ui.course.returned = true := Iff.rfl

/-- Where only the devices change. -/
theorem Selection.is_of_course {ui' : Ui} {dctx : DeviceContext} (hv : v.Is ui)
    (h : ui'.course = { ui.course with dctx }) : v.Is ui' ∧ (ui'.Ended ↔ ui.Ended) := by
  refine ⟨⟨(congrArg Course.activeTabID h).trans hv.1,
    (congrArg Course.activeDeviceID h).trans hv.2⟩, ?_⟩
  rw [ended_iff, h, ended_iff]

/-- An ended program takes no more events. -/
theorem step_ended (hended : ui.Ended) (hv : v.Is ui) (e : Event) :
    v.Is (step w ui e) ∧ (step w ui e).Ended := by
  rcases e with ⟨ch, cols, lines⟩ | _
  · unfold step
    dsimp only
    rw [if_pos (by rwa [Bool.or_eq_true])]
    exact ⟨hv, hended⟩
  · exact ⟨hv, Or.inl rfl⟩

theorem resize_selects (h : Inv S ui) (hlive : ¬ ui.Ended) (cols lines : ℤ) :
    (turn w keyResize cols lines ui).activeTabID = ui.activeTabID
      ∧ (turn w keyResize cols lines ui).activeDeviceID = ui.activeDeviceID
      ∧ ((turn w keyResize cols lines ui).Ended ↔ InitFails w ui) := by
  have hcourse := WindowsUpdateUi_course w cols lines ui
  have hfails := WindowsUpdateUi_fst_iff (w := w) h cols lines
  have hsame : (WindowsUpdateUi w cols lines ui).2.Ended ↔ ui.Ended := by
    rw [ended_iff, hcourse, ended_iff]
  unfold turn
  dsimp only
  rw [if_pos rfl]
  by_cases hret : (WindowsUpdateUi w cols lines ui).1 = 0
  · rw [if_neg (not_not.2 hret)]
    exact ⟨congrArg Course.activeTabID hcourse, congrArg Course.activeDeviceID hcourse,
      iff_of_false (mt hsame.1 hlive) fun hfail => hfails.2 hfail hret⟩
  · rw [if_pos hret]
    exact ⟨congrArg Course.activeTabID hcourse, congrArg Course.activeDeviceID hcourse,
      iff_of_true (Or.inr rfl) (hfails.1 hret)⟩

theorem key_selects (h : Inv S ui) (htabs : S.tabs = getTabInfoCount) (hv : v.Is ui)
    (hlive : ¬ ui.Ended) (ch cols lines : ℤ) :
    (v.take S.count (.getch ch cols lines)).Is (WindowsDispatchInput w ch ui).2
      ∧ ((WindowsDispatchInput w ch ui).2.Ended ↔ ch = 'q'.toNat ∧ w.key ui.asked = 'y'.toNat) := by
  have hcourse : (WindowsDispatchInput w ch ui).2.course = _ := WindowsDispatchInput_course
  rw [Ui.Ended, not_or, Bool.not_eq_true, Bool.not_eq_true] at hlive
  refine ⟨⟨(congrArg Course.activeTabID hcourse).trans (selectTab_is ch cols lines h htabs hv),
    (congrArg Course.activeDeviceID hcourse).trans (selectDevice_is ch cols lines h hv)⟩, ?_⟩
  rw [ended_iff, hcourse]
  dsimp only
  rw [hlive.1, hlive.2, Bool.false_or, decide_eq_true_iff]
  exact or_iff_left Bool.false_ne_true

theorem turn_selects (h : Inv S ui) (htabs : S.tabs = getTabInfoCount) (hv : v.Is ui)
    (hlive : ¬ ui.Ended) (ch cols lines : ℤ) :
    (v.take S.count (.getch ch cols lines)).Is (turn w ch cols lines ui)
      ∧ ((turn w ch cols lines ui).Ended ↔ Ends w ui (.getch ch cols lines)) := by
  rcases eq_or_ne ch keyResize with rfl | hresize
  · obtain ⟨htab, hdevice, hended⟩ := resize_selects (w := w) h hlive cols lines
    have hno : keyResize ≠ 'q'.toNat := by decide
    have hend : Ends w ui (.getch keyResize cols lines) ↔ InitFails w ui :=
      ⟨fun he => (he.resolve_left fun hq => hno hq.1).2, fun hfail => Or.inr ⟨rfl, hfail⟩⟩
    exact ⟨⟨htab.trans hv.1, hdevice.trans hv.2⟩, hended.trans hend.symm⟩
  have hends : Ends w ui (.getch ch cols lines)
      ↔ ch = 'q'.toNat ∧ w.key ui.asked = 'y'.toNat := or_iff_left fun he => hresize he.1
  rw [hends]
  unfold turn
  rw [if_neg hresize]
  rcases eq_or_ne ch err with rfl | hidle
  · obtain ⟨his, hended⟩ := Selection.is_of_course hv (WindowsUpdate_course w ui)
    have hno : err ≠ 'q'.toNat := by decide
    rw [if_pos rfl]
    exact ⟨his, hended.trans (iff_of_false hlive fun hq => hno hq.1)⟩
  · rw [if_neg hidle]
    exact key_selects h htabs hv hlive ch cols lines

theorem tick_selects (ui : Ui) (v : Selection) (tick : ℕ) :
    (v.Is { ui with tick } ↔ v.Is ui) ∧ (Ui.Ended { ui with tick } ↔ ui.Ended) :=
  ⟨Iff.rfl, Iff.rfl⟩

/-- A step selects what its key is for, and ends the program just if the event does. -/
theorem step_selects (h : Inv S ui) (htabs : S.tabs = getTabInfoCount) (hv : v.Is ui)
    (hlive : ¬ ui.Ended) (e : Event) :
    (v.take S.count e).Is (step w ui e) ∧ ((step w ui e).Ended ↔ Ends w ui e) := by
  rcases e with ⟨ch, cols, lines⟩ | _
  · have hstep : step w ui (.getch ch cols lines)
        = { turn w ch cols lines ui with tick := (turn w ch cols lines ui).tick + 1 } := by
      unfold step
      dsimp only
      rw [if_neg (by rwa [Bool.or_eq_true])]
    rw [hstep, (tick_selects _ _ _).1, (tick_selects _ v _).2]
    exact turn_selects h htabs hv hlive ch cols lines
  · exact ⟨hv, iff_of_true (Or.inl rfl) trivial⟩

theorem take_of_ends {e : Event} (h : Ends w ui e) (count : ℕ) (v : Selection) :
    v.take count e = v := by
  rcases e with ⟨ch, cols, lines⟩ | _
  · obtain ⟨rfl, -⟩ | ⟨rfl, -⟩ := h <;> rfl
  · rfl

end Run

/-- The invariant of the loop, with the selection the keys have made. -/
def Selection.Tracks (dctx : DeviceContext) (v : Selection) (ui : Ui) : Prop :=
  Inv (scene (fun device => device.gpuDevice ≠ none) dctx ui.tick) ui ∧ v.Is ui

/-- A run follows the selection up to the first event that ends the program. -/
theorem main_loop_tracks (w : World) {ok : ℕ → Bool} {pciSystemInit : ℤ}
    {pdevs : List (PciDevice × InitAnswer)} {addr : ℕ} {m m' : Ledger} {ret : ℤ}
    {dctx : DeviceContext}
    (hinit : InitDeviceContext ok pciSystemInit pdevs { addr } m = some (ret, dctx, m'))
    (cols lines : ℤ) (events : List Event) :
    Meets (step w) (fun ui e => ¬ Ends w ui e) (start w dctx cols lines) events
        ∧ ¬ (run (step w) (start w dctx cols lines) events).Ended
        ∧ (run (Selection.take dctx.deviceCount) .first events).Tracks dctx
          (run (step w) (start w dctx cols lines) events)
      ∨ ∃ earlier e later, events = earlier ++ e :: later
        ∧ Meets (step w) (fun ui e => ¬ Ends w ui e) (start w dctx cols lines) earlier
        ∧ Ends w (run (step w) (start w dctx cols lines) earlier) e
        ∧ (run (step w) (start w dctx cols lines) events).Ended
        ∧ (run (Selection.take dctx.deviceCount) .first earlier).Tracks dctx
          (run (step w) (start w dctx cols lines) events) := by
  obtain ⟨recorded, hslots, hready⟩ := InitDeviceContext_slots hinit
  have hnew : Selection.first.Is { dctx, timeout := 100 } := ⟨rfl, rfl⟩
  have hcourse : (start w dctx cols lines).course = Ui.course { dctx, timeout := 100 } :=
    WindowsUpdateUi_course w cols lines _
  have hfirst : Selection.first.Tracks dctx (start w dctx cols lines) :=
    ⟨start_inv (fun _ h => h) w hslots (fun i d hi hl => (hready i d hi hl).1) cols lines,
      (Selection.is_of_course hnew hcourse).1⟩
  have hstart : ¬ (start w dctx cols lines).Ended := by
    rw [ended_iff, hcourse]
    simp [Ui.course]
  have hgo : ∀ ui (v : Selection) e, v.Tracks dctx ui → ¬ ui.Ended → ¬ Ends w ui e →
      (v.take dctx.deviceCount e).Tracks dctx (step w ui e) ∧ ¬ (step w ui e).Ended :=
    fun ui v e h hlive he =>
      have hstep := step_selects (w := w) h.1 rfl h.2 hlive e
      ⟨⟨step_open w ui e h.1, hstep.1⟩, mt hstep.2.1 he⟩
  have hend : ∀ ui (v : Selection) e, v.Tracks dctx ui → ¬ ui.Ended → Ends w ui e →
      v.Tracks dctx (step w ui e) ∧ (step w ui e).Ended := fun ui v e h hlive he => by
    have hstep := step_selects (w := w) h.1 rfl h.2 hlive e
    rw [take_of_ends he] at hstep
    exact ⟨⟨step_open w ui e h.1, hstep.1⟩, hstep.2.2 he⟩
  have hstay : ∀ ui (v : Selection) e, v.Tracks dctx ui → ui.Ended →
      v.Tracks dctx (step w ui e) ∧ (step w ui e).Ended := fun ui v e h hended =>
    have hstep := step_ended (w := w) hended h.2 e
    ⟨⟨step_open w ui e h.1, hstep.1⟩, hstep.2⟩
  exact run_until hgo hend hstay events hfirst hstart

/-- In every world, the keys handled until the program ends select the tab and the device, and the
program ends with the first event that `Ends` says, at the latest. -/
theorem main_loop_selects (w : World) (ok : ℕ → Bool) (pciSystemInit : ℤ)
    (pdevs : List (PciDevice × InitAnswer)) (addr : ℕ) (m : Ledger) (cols lines : ℤ)
    {ret : ℤ} {dctx : DeviceContext} {m' : Ledger}
    (hinit : InitDeviceContext ok pciSystemInit pdevs { addr } m = some (ret, dctx, m'))
    (events : List Event) :
    Meets (step w) (fun ui e => ¬ Ends w ui e) (start w dctx cols lines) events
        ∧ ¬ (run (step w) (start w dctx cols lines) events).Ended
        ∧ (run (Selection.take dctx.deviceCount) .first events).Is
          (run (step w) (start w dctx cols lines) events)
      ∨ ∃ earlier e later, events = earlier ++ e :: later
        ∧ Meets (step w) (fun ui e => ¬ Ends w ui e) (start w dctx cols lines) earlier
        ∧ Ends w (run (step w) (start w dctx cols lines) earlier) e
        ∧ (run (step w) (start w dctx cols lines) events).Ended
        ∧ (run (Selection.take dctx.deviceCount) .first earlier).Is
          (run (step w) (start w dctx cols lines) events) := by
  rcases main_loop_tracks w hinit cols lines events with ⟨hmeets, hlive, -, his⟩ | hcut
  · exact Or.inl ⟨hmeets, hlive, his⟩
  · obtain ⟨earlier, e, later, heq, hmeets, hends, hended, -, his⟩ := hcut
    exact Or.inr ⟨earlier, e, later, heq, hmeets, hends, hended, his⟩

section Example

/-- Back from the first tab to the last, and on past the last device. -/
def someKeys : List Event :=
  [.getch keyPpage 80 24, .getch (keyF 4) 80 24, .getch (keyF 4) 80 24]

theorem main_loop_selects_mixed :
    Meets (step (boundWorld 0)) (fun ui e => ¬ Ends (boundWorld 0) ui e)
        (start (boundWorld 0) mixedContext 80 24) someKeys
      ∧ (⟨⟨9, by decide⟩, 1⟩ : Selection).Is
        (run (step (boundWorld 0)) (start (boundWorld 0) mixedContext 80 24) someKeys) := by
  have hlive : ¬ (run (step (boundWorld 0)) (start (boundWorld 0) mixedContext 80 24)
      someKeys).Ended := by
    unfold Ui.Ended
    decide
  have hinit : InitDeviceContext (fun _ => true) 0 [(amdCard, unbound), (intelCard, unbound)]
      { addr := 0 } { calls := 1 } = some (0, mixedContext, _) := rfl
  rcases main_loop_selects (boundWorld 0) (fun _ => true) 0
      [(amdCard, unbound), (intelCard, unbound)] 0 { calls := 1 } 80 24 hinit someKeys with
    ⟨hmeets, -, his⟩ | ⟨-, -, -, -, -, -, hended, -⟩
  · exact ⟨hmeets, his⟩
  · exact absurd hended hlive

end Example

/-! ## How far the tabs have turned -/

theorem take_tab_moves (count : ℕ) (v : Selection) (e : Event) :
    ((v.take count e).tab : ℕ) =
      if e.moves = some .nextTab then ((v.tab : ℕ) + 1) % 10
      else if e.moves = some .previousTab then ((v.tab : ℕ) + 9) % 10 else v.tab := by
  unfold Selection.take
  rcases e.moves with _ | _ | _ | _ | _
  · rfl
  · rfl
  · exact congrArg (· % 10) (Nat.add_comm 9 _)
  all_goals rfl

theorem run_tab (count : ℕ) : ∀ (events : List Event) (v : Selection),
    (((run (Selection.take count) v events).tab : ℕ) : ℤ)
      = ((v.tab : ℕ) + pressed .nextTab events - pressed .previousTab events) % getTabInfoCount
  | [], v => by
    have hlt : (v.tab : ℕ) < getTabInfoCount := v.tab.isLt
    have hrun : run (Selection.take count) v [] = v := rfl
    rw [hrun, pressed, pressed, List.countP_nil, List.countP_nil, Nat.cast_zero, add_zero, sub_zero,
      Int.emod_eq_of_lt (by omega) (by omega)]
  | e :: events, v => by
    have hrun : run (Selection.take count) v (e :: events)
        = run (Selection.take count) (v.take count e) events := rfl
    rw [hrun, run_tab count events, take_tab_moves, pressed, pressed, pressed, pressed,
      List.countP_cons, List.countP_cons]
    change (_ : ℤ) % ((10 : ℕ) : ℤ) = _ % ((10 : ℕ) : ℤ)
    simp only [decide_eq_true_eq]
    split_ifs with hnext hprev hprev
    · exact absurd (hnext.symm.trans hprev) (by decide)
    all_goals omega

/-- While the program runs, the tab is as many places on as the keys for the next are more than
those for the previous, around the circle. -/
theorem main_loop_tab (w : World) (ok : ℕ → Bool) (pciSystemInit : ℤ)
    (pdevs : List (PciDevice × InitAnswer)) (addr : ℕ) (m : Ledger) (cols lines : ℤ)
    {ret : ℤ} {dctx : DeviceContext} {m' : Ledger}
    (hinit : InitDeviceContext ok pciSystemInit pdevs { addr } m = some (ret, dctx, m'))
    (events : List Event)
    (hlive : ¬ (run (step w) (start w dctx cols lines) events).Ended) :
    (run (step w) (start w dctx cols lines) events).activeTabID
      = ((pressed .nextTab events : ℤ) - pressed .previousTab events) % getTabInfoCount := by
  rcases main_loop_tracks w hinit cols lines events with
    ⟨-, -, -, his⟩ | ⟨-, -, -, -, -, -, hended, -⟩
  · rw [his.1, run_tab]
    exact congrArg (· % _) (congrArg (· - _) (zero_add _))
  · exact absurd hended hlive

section Example

theorem main_loop_tab_mixed :
    (run (step (boundWorld 0)) (start (boundWorld 0) mixedContext 80 24) someKeys).activeTabID
      = ((pressed .nextTab someKeys : ℤ) - pressed .previousTab someKeys) % getTabInfoCount := by
  have hinit : InitDeviceContext (fun _ => true) 0 [(amdCard, unbound), (intelCard, unbound)]
      { addr := 0 } { calls := 1 } = some (0, mixedContext, _) := rfl
  refine main_loop_tab (boundWorld 0) (fun _ => true) 0
    [(amdCard, unbound), (intelCard, unbound)] 0 { calls := 1 } 80 24 hinit someKeys ?_
  unfold Ui.Ended
  decide

end Example

end Amdtop
