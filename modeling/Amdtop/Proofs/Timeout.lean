import Amdtop.Proofs.Screen

/-!
# The input timeout

Two dialogs set the timeout of `getch` to −1, which is to wait forever. The one sets it back before
it calls anything that can fail, the other after.
-/

namespace Amdtop

open Cmd Heap

/-- Unless the loop is about to end, `getch` does not wait forever. -/
def Ui.Waits (ui : Ui) : Prop := ui.requesetExit = false → 0 ≤ ui.timeout

/-- If the key opens the help, then the init of the selected tab succeeds when the help is left. -/
def HelpOk (w : World) (ui : Ui) : Event → Prop
  | .getch ch _ _ => ui.requesetExit = false → ui.returned = false →
    ch = 'h'.toNat ∨ ch = '?'.toNat → 0 ≤ helperStartx (ui.wctx.layout .main) →
      0 ≤ helperStarty (ui.wctx.layout .main) → InitOk w ui.ask
  | .signal => True

section Windows

variable (w : World)

theorem waits_of_screen {f : Cmd Ui} (h : ∀ ui, (f ui).2.screen = ui.screen) :
    Keeps Ui.Waits f :=
  keeps_of_screen (fun s => s.requesetExit = false → 0 ≤ s.timeout) h

theorem LoadPrinted.waits {s s' : Screen} (h : LoadPrinted w s s')
    (hw : s.requesetExit = false → 0 ≤ s.timeout) : s'.requesetExit = false → 0 ≤ s'.timeout := by
  obtain rfl | ⟨-, _, _, -, rfl⟩ := h
  · exact hw
  · exact hw

theorem Loads.waits {s s' : Screen} (h : Loads w s s')
    (hw : s.requesetExit = false → 0 ≤ s.timeout) : s'.requesetExit = false → 0 ≤ s'.timeout := by
  obtain ⟨_, rfl, -⟩ := h
  exact hw

theorem updateStatus_waits : Keeps Ui.Waits (updateStatus w) := fun ui h =>
  (updateStatus_screen w ui).waits w h

theorem statusInit_waits : Keeps Ui.Waits (statusInit w) := by
  intro ui h
  rcases hactive : getAcitveDevice ui with _ | device
  · have hnone : (statusInit w ui).2.screen.requesetExit = false →
        0 ≤ (statusInit w ui).2.screen.timeout := by rwa [statusInit_none w ui hactive]
    exact hnone
  · exact (statusInit_some w ui hactive).waits w h

theorem draw_waits (win : WindowType) (f : Ui → TextWindow → TextWindow) :
    Keeps Ui.Waits (act fun ui => ui.draw win (f ui)) := keeps_act fun _ h => h

theorem deviceInit_waits : Keeps Ui.Waits deviceInit := by
  intro ui h
  unfold deviceInit
  dsimp only
  split_ifs
  · exact h
  · exact h

theorem tabInit_waits : Keeps Ui.Waits tabInit := by
  intro ui h
  obtain ⟨f, -, hdraws⟩ := tabInit_draws ui
  rw [hdraws]
  exact h

theorem WindowInit_waits : ∀ win, Keeps Ui.Waits (WindowInit w win)
  | .device => deviceInit_waits
  | .tab => tabInit_waits
  | .main => waits_of_screen (mainInit_screen w)
  | .status => statusInit_waits w

theorem WindowUpdate_waits : ∀ win, Keeps Ui.Waits (WindowUpdate w win)
  | .device => fun ui h => (deviceUpdate_screen w ui).waits w h
  | .tab => keeps_give 0
  | .main => waits_of_screen (mainUpdate_screen w)
  | .status => updateStatus_waits w

theorem WindowsUpdate_waits : Keeps Ui.Waits (WindowsUpdate w) := by
  intro ui h
  refine keeps_map (I := Ui.Waits) windows (fun win _ ui' h' => ?_) _ h
  unfold updateWindow
  split_ifs
  · exact andThen_of (I := Ui.Waits) (WindowUpdate_waits w win ui' h') (keeps_act fun _ h => h)
  · exact h'

theorem WindowExit_waits : ∀ win, Keeps Ui.Waits (WindowExit win)
  | .device => keeps_give 0
  | .tab => keeps_give 0
  | .main => waits_of_screen mainExit_screen
  | .status => keeps_give 0

theorem WindowClear_waits : ∀ win, Keeps Ui.Waits (WindowClear win)
  | .device => keeps_act fun _ h => h
  | .tab => keeps_act fun _ h => h
  | .main => keeps_give 0
  | .status => keeps_act fun _ h => h

theorem reinit_waits (win : WindowType) : Keeps Ui.Waits (reinit w win) := by
  refine keeps_block _ ?_
  simp only [List.forall_mem_cons]
  exact ⟨WindowExit_waits win, WindowClear_waits win, WindowInit_waits w win, by simp⟩

theorem WindowsUpdateUi_waits (cols lines : ℤ) : Keeps Ui.Waits (WindowsUpdateUi w cols lines) := by
  refine keeps_block _ ?_
  simp only [List.forall_mem_cons]
  exact ⟨keeps_act fun _ h => h, keeps_map _ fun win _ => WindowClear_waits win,
    keeps_map _ fun win _ ui h => WindowInit_waits w win _ h, by simp⟩

end Windows

/-! ## Keys -/

section Keys

variable {S : Scene} {w : World} (ch : ℤ)

theorem deviceHandleInput_waits : Keeps Ui.Waits (deviceHandleInput w ch) := by
  intro ui h
  unfold deviceHandleInput
  by_cases hn : ui.dctx.deviceCount ≤ 1
  · rwa [if_pos hn]
  rw [if_neg hn]
  dsimp only
  by_cases hd : selectDevice ch ui = ui.activeDeviceID
  · rwa [if_neg (not_not.2 hd)]
  rw [if_pos hd]
  refine keeps_block _ ?_ ui h
  simp only [List.forall_mem_cons]
  exact ⟨draw_waits _ _, keeps_act fun _ h => h, reinit_waits w _, reinit_waits w _,
    keeps_give _, by simp⟩

theorem tabHandleInput_waits : Keeps Ui.Waits (tabHandleInput w ch) := by
  intro ui h
  unfold tabHandleInput
  dsimp only
  by_cases ht : selectTab ch ui = ui.activeTabID
  · rwa [if_neg (not_not.2 ht)]
  rw [if_pos ht]
  refine keeps_block _ ?_ ui h
  simp only [List.forall_mem_cons]
  exact ⟨WindowExit_waits _, keeps_act fun _ h => h, WindowClear_waits _, WindowInit_waits w _,
    draw_waits _ _, keeps_give _, by simp⟩

/-- The timeout is set back first. -/
theorem exitProgram_waits : Keeps Ui.Waits (exitProgram w) := by
  intro ui h
  have hset : (act (Ui.setTimeout 100) (ui.setTimeout (-1)).ask).2.Waits :=
    fun _ => (by decide : (0 : ℤ) ≤ 100)
  unfold exitProgram
  dsimp only
  split_ifs
  · exact fun hexit => Bool.noConfusion hexit
  · rw [block, andThen_ok rfl]
    refine keeps_block _ ?_ _ hset
    simp only [List.forall_mem_cons]
    exact ⟨reinit_waits w _, by simp⟩

/-- The timeout is set back last. -/
theorem helperHandler_waits {ui : Ui} (h : Inv S ui) (hw : ui.Waits)
    (hok : 0 ≤ helperStartx (ui.wctx.layout .main) → 0 ≤ helperStarty (ui.wctx.layout .main) →
      InitOk w ui.ask) :
    (helperHandler w ui).2.Waits := by
  unfold helperHandler
  split_ifs with hsmall
  · exact hw
  · rw [not_or, not_lt, not_lt] at hsmall
    have hinv : Inv S (ui.setTimeout (-1)).ask := { h with }
    have hmain := reinit_main_fst hinv (hok hsmall.1 hsmall.2)
    rw [block, andThen_ok rfl, block, andThen_ok rfl, block, andThen_ok rfl]
    change (andThen (reinit w .main) (block [act (Ui.setTimeout 200)])
      (ui.setTimeout (-1)).ask).2.Waits
    rw [andThen_ok hmain, block, andThen_ok rfl]
    exact fun _ => (by decide : (0 : ℤ) ≤ 200)

theorem mainHandleInput_waits {ui : Ui} (h : Inv S ui) (hw : ui.Waits)
    (hok : ch = 'h'.toNat ∨ ch = '?'.toNat → 0 ≤ helperStartx (ui.wctx.layout .main) →
      0 ≤ helperStarty (ui.wctx.layout .main) → InitOk w ui.ask) :
    (mainHandleInput w ch ui).2.Waits := by
  unfold mainHandleInput
  split_ifs with hq hhelp
  · exact andThen_of (exitProgram_waits ui hw) (keeps_give _)
  · exact andThen_of (helperHandler_waits h hw (hok hhelp)) (keeps_give _)
  · exact hw

/-- The key for the help selects nothing. -/
theorem help_idle {ui : Ui} (hhelp : ch = 'h'.toNat ∨ ch = '?'.toNat) :
    (tabHandleInput w ch (deviceHandleInput w ch ui).2).2 = ui := by
  rw [deviceHandleInput_idle, tabHandleInput_idle]
  · rw [selectTab_of_ne] <;> rcases hhelp with rfl | rfl <;> decide
  · intro _
    rw [selectDevice_of_ne] <;> rcases hhelp with rfl | rfl <;> decide

variable (hgood : ∀ device, S.good device → device.gpuDevice ≠ none)
  (htabs : S.tabs = getTabInfoCount)

include hgood htabs in
theorem WindowsDispatchInput_waits {ui : Ui} (h : Inv S ui) (hw : ui.Waits)
    (hok : ch = 'h'.toNat ∨ ch = '?'.toNat → 0 ≤ helperStartx (ui.wctx.layout .main) →
      0 ≤ helperStarty (ui.wctx.layout .main) → InitOk w ui.ask) :
    (WindowsDispatchInput w ch ui).2.Waits := by
  have hdevice := deviceHandleInput_waits (w := w) ch ui hw
  have htab := tabHandleInput_waits (w := w) ch _ hdevice
  have hinv := tabHandleInput_keeps w ch hgood htabs _ (deviceHandleInput_keeps w ch hgood htabs ui h)
  have hmain := mainHandleInput_waits ch hinv htab fun hhelp => by
    rw [help_idle ch hhelp]
    exact hok hhelp
  exact dispatchInput_cons Ui.Waits hdevice
    (dispatchInput_cons Ui.Waits htab (dispatchInput_cons Ui.Waits hmain hmain))

end Keys

/-! ## Runs -/

section Run

variable {S : Scene} {w : World} {ui : Ui}
  (hgood : ∀ device, S.good device → device.gpuDevice ≠ none)
  (htabs : S.tabs = getTabInfoCount)

include hgood htabs in
theorem turn_waits (h : Inv S ui) (hw : ui.Waits) (ch cols lines : ℤ)
    (hok : ch = 'h'.toNat ∨ ch = '?'.toNat → 0 ≤ helperStartx (ui.wctx.layout .main) →
      0 ≤ helperStarty (ui.wctx.layout .main) → InitOk w ui.ask) :
    (turn w ch cols lines ui).Waits := by
  unfold turn
  dsimp only
  split_ifs
  · exact WindowsUpdateUi_waits w cols lines ui hw
  · exact WindowsUpdateUi_waits w cols lines ui hw
  · exact WindowsUpdate_waits w ui hw
  · exact WindowsDispatchInput_waits ch hgood htabs h hw hok

include hgood htabs in
theorem step_waits (h : Inv S ui) (hw : ui.Waits) (e : Event) (hok : HelpOk w ui e) :
    (step w ui e).Waits := by
  rcases e with ⟨ch, cols, lines⟩ | _
  · unfold step
    dsimp only
    split_ifs with hexit
    · exact hw
    · rw [Bool.or_eq_true, not_or, Bool.not_eq_true, Bool.not_eq_true] at hexit
      exact turn_waits hgood htabs h hw ch cols lines (hok hexit.1 hexit.2)
  · exact fun hexit => Bool.noConfusion hexit

end Run

/-- The timeout stays finite in a run in which the tab can be initialised whenever the help is
left. -/
theorem main_loop_timeout (w : World) (ok : ℕ → Bool) (pciSystemInit : ℤ)
    (pdevs : List (PciDevice × InitAnswer)) (addr : ℕ) (m : Ledger) (cols lines : ℤ)
    {ret : ℤ} {dctx : DeviceContext} {m' : Ledger}
    (hinit : InitDeviceContext ok pciSystemInit pdevs { addr } m = some (ret, dctx, m'))
    (events : List Event)
    (hmeets : Meets (step w) (HelpOk w) (start w dctx cols lines) events) :
    (run (step w) (start w dctx cols lines) events).Waits := by
  obtain ⟨recorded, hslots, hready⟩ := InitDeviceContext_slots hinit
  set good : Device → Prop := fun device => device.gpuDevice ≠ none
  have hopen : ∀ i device, dctx.slot i = some device → device.driverisLoaded = true →
      good device := fun i d hi hl => (hready i d hi hl).1
  have hwaits : (start w dctx cols lines).Waits :=
    WindowsUpdateUi_waits w cols lines _ fun _ => (by decide : (0 : ℤ) ≤ 100)
  have hrun := run_keeps_of_meets
    (I := fun ui => Inv (scene good dctx ui.tick) ui ∧ ui.Waits)
    (fun ui e h hok => ⟨step_open w ui e h.1, step_waits (fun _ h => h) rfl h.1 h.2 e hok⟩)
    events hmeets ⟨start_inv (fun _ h => h) w hslots hopen cols lines, hwaits⟩
  exact hrun.2

section Example

theorem boundWorld_helpOk (i : ℕ) (ui : Ui) : ∀ e, HelpOk (boundWorld i) ui e
  | .getch _ _ _ => fun _ _ _ _ _ => boundWorld_initOk i _
  | .signal => trivial

theorem main_loop_timeout_mixed :
    (run (step (boundWorld 0)) (start (boundWorld 0) mixedContext 120 50)
      [.getch keyNpage 120 50, .getch 'h'.toNat 120 50]).Waits :=
  main_loop_timeout (boundWorld 0) (fun _ => true) 0 [(amdCard, unbound), (intelCard, unbound)] 0
    { calls := 1 } 120 50 rfl _ (meets_of_forall (boundWorld_helpOk 0) _ _)

/-- A card with its driver, opened from the start. -/
def boundCard : InitAnswer :=
  { unbound with
    hasKernelDriver := true, update := ⟨(0, "amdgpu".toList), some ⟨3, 0, 226, 0, .card⟩⟩ }

def boundContext : DeviceContext :=
  ({ addr := 0, deviceCount := 1 } : DeviceContext).put 0
    (InitDevice boundCard { addr := 1, id := 0, pdev := amdCard }).2

/-- Ring is selected; its init, which asks the kernel each time, fails when the help is left. -/
theorem main_loop_waits_forever :
    ∃ m', InitDeviceContext (fun _ => true) 0 [(amdCard, boundCard)] { addr := 0 } { calls := 1 }
        = some (0, boundContext, m')
      ∧ ¬ (run (step (failingWorld 7)) (start (failingWorld 7) boundContext 120 50)
          [.getch keyNpage 120 50, .getch keyNpage 120 50, .getch keyNpage 120 50,
            .getch keyNpage 120 50, .getch 'h'.toNat 120 50]).Waits :=
  ⟨_, rfl, fun h => absurd (h (by decide +kernel)) (by decide +kernel)⟩

end Example

end Amdtop
