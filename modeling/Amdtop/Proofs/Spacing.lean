import Amdtop.Proofs.Isolation
import Amdtop.Proofs.Screen
import Mathlib.Data.List.Nodup
import Mathlib.Order.Monotone.Basic

/-!
# The periods of the windows and the tabs

A window and a tab keep the time at which their last update ended, which an init sets back to 0.
`Since` says of a question to the world what the marks are from then on, and every command of the
loop keeps it, but for the init of a window whose mark it holds.
-/

namespace Amdtop

open Cmd

/-! ## What a run keeps -/

/-- A call of a tab's update is one of a tab with a period. -/
def Call.Timed : Call → Prop
  | .tabUpdate tab _ => ∃ tabInfo ∈ tabinfoList, tabInfo.id = tab ∧ 0 < tabInfo.period
  | _ => True

/-- Since question `n`, where the calls were `before`: the windows of `wins` have been updated
then or later, and the tabs of `tabs` too unless they were initialised. -/
structure Since (w : World) (n : ℕ) (wins : WindowType → Prop) (tabs : TabID → Prop)
    (before : List Call) (ui : Ui) : Prop where
  asked : n ≤ ui.asked
  windows : ∀ win, wins win → w.clock n ≤ ui.winUpdated win
  calls : ∃ made, ui.calls = made ++ before ∧ (∀ call ∈ made, call.Timed)
    ∧ ∀ tab, tabs tab → w.clock n ≤ ui.tabUpdated tab ∨ ∃ device, Call.tabInit tab device ∈ made

section Since

variable {w : World} {n : ℕ} {wins : WindowType → Prop} {tabs : TabID → Prop}
  {before : List Call} {ui : Ui}

theorem since_now (w : World) (ui : Ui) :
    Since w ui.asked (fun _ => False) (fun _ => False) ui.calls ui :=
  ⟨le_rfl, fun _ => False.elim, [], rfl, List.forall_mem_nil _, fun _ => False.elim⟩

variable (h : Since w n wins tabs before ui)

include h

theorem Since.ask : Since w n wins tabs before ui.ask := { h with asked := Nat.le_succ_of_le h.asked }

theorem Since.readActive : Since w n wins tabs before ui.readActive := by
  unfold Ui.readActive
  split_ifs
  · exact { h with }
  · exact h

theorem Since.record {call : Call} (hcall : call.Timed) :
    Since w n wins tabs before (ui.record call) := by
  obtain ⟨made, hmade, htimed, htabs⟩ := h.calls
  refine { h with calls := ⟨call :: made, ?_, List.forall_mem_cons.2 ⟨hcall, htimed⟩, ?_⟩ }
  · exact congrArg (call :: ·) hmade
  · exact fun tab htab => (htabs tab htab).imp_right fun ⟨device, hmem⟩ =>
      ⟨device, List.mem_cons_of_mem _ hmem⟩

/-- The mark of a window that has been updated. -/
theorem Since.setWindow (hclock : Monotone w.clock) (win : WindowType) :
    Since w n (fun win' => win' = win ∨ wins win') tabs before { ui.ask with
      winUpdated := Function.update ui.winUpdated win (w.clock ui.asked) } := by
  refine { h.ask with windows := fun win' hwin => ?_ }
  dsimp only
  rw [Function.update_apply]
  split_ifs with heq
  · exact hclock h.asked
  · exact h.windows win' (hwin.resolve_left heq)

theorem Since.setTab (hclock : Monotone w.clock) (tab : TabID) :
    Since w n wins (fun tab' => tab' = tab ∨ tabs tab') before { ui.ask with
      tabUpdated := Function.update ui.tabUpdated tab (w.clock ui.asked) } := by
  obtain ⟨made, hmade, htimed, htabs⟩ := h.calls
  refine { h.ask with calls := ⟨made, hmade, htimed, fun tab' htab => ?_⟩ }
  dsimp only
  rw [Function.update_apply]
  split_ifs with heq
  · exact .inl (hclock h.asked)
  · exact htabs tab' (htab.resolve_left heq)

omit h in
theorem Since.mono {wins' : WindowType → Prop} {tabs' : TabID → Prop}
    (h : Since w n wins' tabs' before ui) (hwins : ∀ win, wins win → wins' win)
    (htabs : ∀ tab, tabs tab → tabs' tab) : Since w n wins tabs before ui := by
  obtain ⟨made, hmade, htimed, hkept⟩ := h.calls
  exact ⟨h.asked, fun win hwin => h.windows win (hwins win hwin), made, hmade, htimed,
    fun tab htab => hkept tab (htabs tab htab)⟩

theorem Since.tabInit (tabInfo : TabInfo) :
    Since w n wins tabs before (TabinfoInit w tabInfo ui).2 := by
  obtain ⟨made, hmade, htimed, htabs⟩ := h.calls
  refine { h.ask with calls := ⟨.tabInit tabInfo.id (getAcitveDevice ui) :: made,
    congrArg (_ :: ·) hmade, List.forall_mem_cons.2 ⟨trivial, htimed⟩, fun tab htab => ?_⟩ }
  unfold TabinfoInit
  dsimp only
  rw [Function.update_apply]
  split_ifs with heq
  · rw [heq]
    exact .inr ⟨_, List.mem_cons_self⟩
  · exact (htabs tab htab).imp_right fun ⟨device, hmem⟩ => ⟨device, List.mem_cons_of_mem _ hmem⟩

end Since

/-! ## The commands -/

section Commands

variable {w : World} {n : ℕ} {wins : WindowType → Prop} {tabs : TabID → Prop}
  {before : List Call}

theorem mainInit_since : Keeps (Since w n wins tabs before) (mainInit w) := by
  intro ui h
  have hread := h.readActive
  unfold mainInit
  dsimp only
  split
  · exact { hread with }
  · split_ifs
    · exact hread.tabInit _
    · exact hread

theorem mainExit_since : Keeps (Since w n wins tabs before) mainExit := by
  intro ui h
  unfold mainExit
  split
  · exact h
  · exact h.record trivial

theorem mem_of_index {index : ℕ} {tabInfo : TabInfo}
    (h : getTabInfoByIndex index = some tabInfo) : tabInfo ∈ tabinfoList :=
  List.mem_of_getElem? h

theorem tabinfoList_id {tabInfo tabInfo' : TabInfo} (h : tabInfo ∈ tabinfoList)
    (h' : tabInfo' ∈ tabinfoList) (hid : tabInfo.id = tabInfo'.id) : tabInfo = tabInfo' :=
  List.inj_on_of_nodup_map (f := TabInfo.id) (by decide) h h' hid

theorem TabinfoUpdate_since {tabInfo : TabInfo} (htab : tabInfo ∈ tabinfoList)
    (hperiod : 0 < tabInfo.period) :
    Keeps (Since w n wins tabs before) (TabinfoUpdate w tabInfo) := by
  intro ui h
  unfold TabinfoUpdate
  split_ifs
  · exact h.ask.record ⟨tabInfo, htab, rfl, hperiod⟩
  · exact h

theorem mainUpdate_since (hclock : Monotone w.clock) :
    Keeps (Since w n wins tabs before) (mainUpdate w) := by
  intro ui h
  have hread := h.ask.readActive
  unfold mainUpdate
  dsimp only
  split_ifs
  · split
    · exact { hread with }
    · next tabInfo htab =>
      split_ifs with hdue
      · exact andThen_of (TabinfoUpdate_since (mem_of_index htab) hdue.1 _ hread)
          (keeps_act fun _ h => (h.setTab hclock tabInfo.id).mono (fun _ => id) fun _ => .inr)
      · exact hread
  · exact hread

theorem updateStatus_since : Keeps (Since w n wins tabs before) (updateStatus w) := by
  intro ui h
  have hread := h.readActive
  unfold updateStatus
  dsimp only
  split
  · exact hread
  · next device _ =>
    have hcall : Since w n wins tabs before (ui.readActive.ask.record (.sensor device)) :=
      hread.ask.record trivial
    split_ifs
    · exact hread
    · exact { hread with }
    · exact hcall
    · exact { hcall with }

theorem statusInit_since : Keeps (Since w n wins tabs before) (statusInit w) := by
  intro ui h
  have hread := h.readActive
  unfold statusInit
  dsimp only
  split
  · exact hread
  · next device _ =>
    have hprint : Since w n wins tabs before (printDeviceInfo device ui.readActive) :=
      { hread with }
    split_ifs
    · exact updateStatus_since _ hprint
    · exact hprint

theorem draw_since (win : WindowType) (f : Ui → TextWindow → TextWindow) :
    Keeps (Since w n wins tabs before) (act fun ui => ui.draw win (f ui)) :=
  keeps_act fun _ h => { h with }

theorem deviceInit_since : Keeps (Since w n wins tabs before) deviceInit := by
  intro ui h
  unfold deviceInit
  dsimp only
  split_ifs
  · exact { h with }
  · exact { h with }

theorem tabInit_since : Keeps (Since w n wins tabs before) tabInit := by
  intro ui h
  obtain ⟨f, -, hdraws⟩ := tabInit_draws ui
  rw [hdraws]
  exact { h with }

theorem deviceUpdateLoop_since : ∀ slots : List ℕ,
    Keeps (Since w n wins tabs before) (deviceUpdateLoop w slots)
  | [], _, h => h
  | i :: slots, ui, h => by
    unfold deviceUpdateLoop
    split
    · exact h
    · dsimp only
      split_ifs
      · exact deviceUpdateLoop_since slots ui h
      · exact { h with }
      · exact andThen_of (mainInit_since _ { h with }) (deviceUpdateLoop_since slots)

theorem WindowInit_since : ∀ win, Keeps (Since w n wins tabs before) (WindowInit w win)
  | .device => deviceInit_since
  | .tab => tabInit_since
  | .main => mainInit_since
  | .status => statusInit_since

theorem WindowExit_since : ∀ win, Keeps (Since w n wins tabs before) (WindowExit win)
  | .device => keeps_give 0
  | .tab => keeps_give 0
  | .main => mainExit_since
  | .status => keeps_give 0

theorem WindowUpdate_since (hclock : Monotone w.clock) :
    ∀ win, Keeps (Since w n wins tabs before) (WindowUpdate w win)
  | .device => fun _ h => deviceUpdateLoop_since _ _ h.readActive
  | .tab => keeps_give 0
  | .main => mainUpdate_since hclock
  | .status => updateStatus_since

theorem WindowClear_since : ∀ win, Keeps (Since w n wins tabs before) (WindowClear win)
  | .device => keeps_act fun _ h => { h with }
  | .tab => keeps_act fun _ h => { h with }
  | .main => keeps_give 0
  | .status => keeps_act fun _ h => { h with }

theorem reinit_since (win : WindowType) : Keeps (Since w n wins tabs before) (reinit w win) :=
  (WindowExit_since win).cons ((WindowClear_since win).cons ((WindowInit_since win).cons keeps_nil))

end Commands

/-! ## Keys -/

section Keys

variable {w : World} {n : ℕ} {wins : WindowType → Prop} {tabs : TabID → Prop}
  {before : List Call} (ch : ℤ)

theorem deviceHandleInput_since :
    Keeps (Since w n wins tabs before) (deviceHandleInput w ch) := by
  intro ui h
  unfold deviceHandleInput
  by_cases hn : ui.dctx.deviceCount ≤ 1
  · rwa [if_pos hn]
  rw [if_neg hn]
  dsimp only
  by_cases hd : selectDevice ch ui = ui.activeDeviceID
  · rwa [if_neg (not_not.2 hd)]
  rw [if_pos hd]
  refine keeps_block _ ?_ ui h
  simp only [List.forall_mem_cons]
  exact ⟨draw_since _ _, keeps_act fun _ h => { h with }, reinit_since _,
    reinit_since _, keeps_give _, by simp⟩

theorem tabHandleInput_since : Keeps (Since w n wins tabs before) (tabHandleInput w ch) := by
  intro ui h
  unfold tabHandleInput
  dsimp only
  by_cases ht : selectTab ch ui = ui.activeTabID
  · rwa [if_neg (not_not.2 ht)]
  rw [if_pos ht]
  refine keeps_block _ ?_ ui h
  simp only [List.forall_mem_cons]
  exact ⟨WindowExit_since _, keeps_act fun _ h => { h with }, WindowClear_since _,
    WindowInit_since _, draw_since _ _, keeps_give _, by simp⟩

theorem setTimeout_since (delay : ℤ) :
    Keeps (Since w n wins tabs before) (act (Ui.setTimeout delay)) :=
  keeps_act fun _ h => { h with }

theorem exitProgram_since : Keeps (Since w n wins tabs before) (exitProgram w) := by
  intro ui h
  have hask : Since w n wins tabs before (ui.setTimeout (-1)).ask := (setTimeout_since _ ui h).ask
  unfold exitProgram
  dsimp only
  split_ifs
  · exact { hask with }
  · exact (setTimeout_since _).cons ((reinit_since _).cons keeps_nil) _ hask

theorem helperHandler_since : Keeps (Since w n wins tabs before) (helperHandler w) := by
  intro ui h
  unfold helperHandler
  split_ifs
  · exact h
  · refine Keeps.cons (WindowClear_since _) (Keeps.cons (setTimeout_since _) ?_) ui h
    exact (keeps_act fun _ h => h.ask).cons
      ((reinit_since _).cons ((setTimeout_since _).cons keeps_nil))

theorem WindowInput_since : ∀ win, Keeps (Since w n wins tabs before) (WindowInput w ch win)
  | .device => deviceHandleInput_since ch
  | .tab => tabHandleInput_since ch
  | .main => by
    unfold WindowInput mainHandleInput
    split_ifs
    · exact exitProgram_since.andThen (keeps_give _)
    · exact helperHandler_since.andThen (keeps_give _)
    · exact keeps_give _
  | .status => keeps_give _

theorem dispatchInput_since : ∀ ws : List WindowType,
    Keeps (Since w n wins tabs before) (dispatchInput w ch ws)
  | [], _, h => h
  | win :: ws, ui, h =>
    have hwin := WindowInput_since ch win ui h
    dispatchInput_cons _ hwin (dispatchInput_since ws _ hwin)

end Keys

/-! ## Steps -/

section Steps

variable {w : World} {n : ℕ} {wins : WindowType → Prop} {tabs : TabID → Prop}
  {before : List Call} {ui : Ui}

theorem initWindow_since (win : WindowType) :
    Keeps (Since w n (fun _ => False) tabs before) (initWindow w win) :=
  fun _ h => WindowInit_since win _ { h with windows := fun _ => False.elim }

theorem WindowsUpdateUi_since (cols lines : ℤ) :
    Keeps (Since w n (fun _ => False) tabs before) (WindowsUpdateUi w cols lines) := by
  refine keeps_block _ ?_
  simp only [List.forall_mem_cons]
  exact ⟨keeps_act fun _ h => { h with }, keeps_map _ fun win _ => WindowClear_since win,
    keeps_map _ fun win _ => initWindow_since win, by simp⟩

theorem updateWindow_since (hclock : Monotone w.clock) (currentTime : ℕ) (win : WindowType) :
    Keeps (Since w n wins tabs before) (updateWindow w currentTime win) := by
  intro ui h
  unfold updateWindow
  split_ifs
  · exact andThen_of (WindowUpdate_since hclock win ui h)
      (keeps_act fun _ h => (h.setWindow hclock win).mono (fun _ => .inr) fun _ => id)
  · exact h

/-- The step comes to `WindowsInit`. -/
def InitsWindows (ui : Ui) (e : Event) : Prop :=
  ∃ cols lines, e = .getch keyResize cols lines ∧ ui.requesetExit = false ∧ ui.returned = false

theorem WindowsUpdate_since (hclock : Monotone w.clock) :
    Keeps (Since w n wins tabs before) (WindowsUpdate w) :=
  fun _ h => keeps_map windows (fun win _ => updateWindow_since hclock _ win) _ h.ask

theorem turn_since (hclock : Monotone w.clock) (h : Since w n wins tabs before ui)
    (ch cols lines : ℤ) (hresize : ch = keyResize → ∀ win, ¬ wins win) :
    Since w n wins tabs before (turn w ch cols lines ui) := by
  unfold turn
  by_cases hch : ch = keyResize
  · rw [if_pos hch]
    obtain ⟨ret, ui', hui'⟩ : ∃ ret ui', WindowsUpdateUi w cols lines ui = (ret, ui') :=
      ⟨_, _, rfl⟩
    have hinit := WindowsUpdateUi_since cols lines ui (h.mono (fun _ => False.elim) fun _ => id)
    rw [hui'] at hinit ⊢
    have hend : Since w n wins tabs before ui' :=
      { hinit with windows := fun win hwin => absurd hwin (hresize hch win) }
    dsimp only
    split_ifs
    · exact { hend with }
    · exact hend
  · rw [if_neg hch]
    split_ifs
    · exact WindowsUpdate_since hclock ui h
    · exact dispatchInput_since ch windows ui h

theorem Since.tick (h : Since w n wins tabs before ui) :
    Since w n wins tabs before { ui with tick := ui.tick + 1 } := { h with }

theorem step_since (hclock : Monotone w.clock) (h : Since w n wins tabs before ui) (e : Event)
    (hinit : InitsWindows ui e → ∀ win, ¬ wins win) : Since w n wins tabs before (step w ui e) := by
  rcases e with ⟨ch, cols, lines⟩ | _
  · unfold step
    dsimp only
    by_cases hexit : (ui.requesetExit || ui.returned) = true
    · rwa [if_pos hexit]
    rw [if_neg hexit]
    rw [Bool.or_eq_true, not_or, Bool.not_eq_true, Bool.not_eq_true] at hexit
    exact (turn_since hclock h ch cols lines fun hch => hinit ⟨cols, lines, by rw [hch], hexit⟩).tick
  · exact { h with }

end Steps

/-! ## Updates -/

/-- The clock shows `t` in a state: no less than at the last question, and no more than at the
next. -/
def World.Shows (w : World) (ui : Ui) (t : ℕ) : Prop :=
  w.clock (ui.asked - 1) ≤ t ∧ t ≤ w.clock ui.asked

/-- The tick `e` comes from `ui` to the update of `win`, in the state `now`. -/
structure CallsUpdate (w : World) (win : WindowType) (ui : Ui) (e : Event) (now : Ui) : Prop where
  idle : ∃ cols lines, e = .getch err cols lines
  live : ui.requesetExit = false ∧ ui.returned = false
  comes : ∃ earlier later, windows = earlier ++ win :: later
    ∧ block (earlier.map (updateWindow w (w.clock ui.asked))) ui.ask = (0, now)
  due : 0 < win.period ∧ now.winUpdated win + win.period ≤ w.clock ui.asked

/-- The update of `win` begins in the state `now` and succeeds. -/
def UpdatesWindow (w : World) (win : WindowType) (ui : Ui) (e : Event) (now : Ui) : Prop :=
  CallsUpdate w win ui e now ∧ (WindowUpdate w win now).1 = 0

/-- The update of the main window comes to that of the tab, which begins in the state `now` and
succeeds. -/
structure UpdatesTab (w : World) (tabInfo : TabInfo) (ui : Ui) (e : Event) (now : Ui) : Prop where
  main : ∃ ui', CallsUpdate w .main ui e ui' ∧ now = ui'.ask.readActive
    ∧ now.tabUpdated tabInfo.id + tabInfo.period ≤ w.clock ui'.asked
  loaded : DeviceDriverisLoaded (getAcitveDevice now) = true
  tab : getTabInfoByIndex (u32 now.activeTabID) = some tabInfo
  period : 0 < tabInfo.period
  ok : (TabinfoUpdate w tabInfo now).1 = 0

section Updates

variable {w : World} {n : ℕ} {wins : WindowType → Prop} {tabs : TabID → Prop}
  {before : List Call} {ui now : Ui} {e : Event} {win : WindowType}

/-- What holds before a tick holds when it comes to an update. -/
theorem CallsUpdate.since (hclock : Monotone w.clock) (hcall : CallsUpdate w win ui e now)
    (h : Since w n wins tabs before ui.ask) : Since w n wins tabs before now := by
  obtain ⟨earlier, later, -, hblock⟩ := hcall.comes
  have hkeep := keeps_map (I := Since w n wins tabs before) earlier
    (fun win _ => updateWindow_since hclock (w.clock ui.asked) win) _ h
  rwa [hblock] at hkeep

theorem CallsUpdate.asked (hclock : Monotone w.clock) (hcall : CallsUpdate w win ui e now) :
    ui.asked < now.asked :=
  (hcall.since hclock (since_now w ui.ask)).asked

/-- What holds after the update of a window holds at the end of the tick. -/
theorem CallsUpdate.step_since (hclock : Monotone w.clock) (hcall : CallsUpdate w win ui e now)
    (h : Since w n wins tabs before (updateWindow w (w.clock ui.asked) win now).2) :
    Since w n wins tabs before (step w ui e) := by
  obtain ⟨cols, lines, rfl⟩ := hcall.idle
  obtain ⟨earlier, later, hwindows, hblock⟩ := hcall.comes
  have hend : Since w n wins tabs before (WindowsUpdate w ui).2 := by
    unfold WindowsUpdate
    rw [hwindows, List.map_append, List.map_cons, block_append, andThen_ok (by rw [hblock]), hblock]
    exact andThen_of h (keeps_map _ fun win _ => updateWindow_since hclock _ win)
  have hturn : turn w err cols lines ui = (WindowsUpdate w ui).2 := by
    unfold turn
    rw [if_neg (by decide), if_pos rfl]
  have hstep : step w ui (.getch err cols lines)
      = { turn w err cols lines ui with tick := (turn w err cols lines ui).tick + 1 } := by
    unfold step
    dsimp only
    rw [hcall.live.1, hcall.live.2, if_neg (by decide)]
  rw [hstep, hturn]
  exact hend.tick

/-- A tick comes to the update of a window once. -/
theorem CallsUpdate.unique {now' : Ui} (h : CallsUpdate w win ui e now)
    (h' : CallsUpdate w win ui e now') : now = now' := by
  obtain ⟨earlier, later, hwindows, hblock⟩ := h.comes
  obtain ⟨earlier', later', hwindows', hblock'⟩ := h'.comes
  have hnodup : (earlier ++ win :: later).Nodup := hwindows ▸ (by decide : windows.Nodup)
  rw [List.nodup_middle, List.nodup_cons, List.mem_append, not_or] at hnodup
  obtain ⟨rfl, -⟩ := (List.append_cons_inj_of_notMem hnodup.1.1 hnodup.1.2).1
    (hwindows.symm.trans hwindows')
  exact congrArg Prod.snd (hblock.symm.trans hblock')

/-- From the start of the update on, the mark of the window is no less. -/
theorem UpdatesWindow.since (hclock : Monotone w.clock) (h : UpdatesWindow w win ui e now) :
    Since w now.asked (· = win) (fun _ => False) now.calls (step w ui e) := by
  obtain ⟨hcall, hok⟩ := h
  refine hcall.step_since hclock ?_
  have hupdate := WindowUpdate_since hclock win now (since_now w now)
  rw [updateWindow, if_pos hcall.due, andThen_ok hok]
  exact (hupdate.setWindow hclock win).mono (fun _ => .inl) fun _ => id

theorem UpdatesTab.since {tabInfo : TabInfo} (hclock : Monotone w.clock)
    (h : UpdatesTab w tabInfo ui e now) :
    Since w now.asked (fun _ => False) (· = tabInfo.id) now.calls (step w ui e) := by
  obtain ⟨ui', hcall, hnow, hdue⟩ := h.main
  refine hcall.step_since hclock ?_
  have hupdate := TabinfoUpdate_since (mem_of_index h.tab) h.period now (since_now w now)
  have hmain : mainUpdate w ui' = (0, { (TabinfoUpdate w tabInfo now).2.ask with
      tabUpdated := Function.update (TabinfoUpdate w tabInfo now).2.tabUpdated tabInfo.id
        (w.clock (TabinfoUpdate w tabInfo now).2.asked) }) := by
    unfold mainUpdate
    dsimp only
    rw [← hnow, if_pos h.loaded, h.tab]
    dsimp only
    rw [if_pos ⟨h.period, hdue⟩, andThen_ok h.ok]
    rfl
  rw [updateWindow, if_pos hcall.due]
  refine andThen_of ?_
    (keeps_act fun _ h => (h.setWindow hclock .main).mono (fun _ => .inr) fun _ => id)
  change Since _ _ _ _ _ (mainUpdate w ui').2
  rw [hmain]
  exact (hupdate.setTab hclock tabInfo.id).mono (fun _ => id) fun _ => .inl

end Updates

/-! ## Runs -/

/-- For every run and every two updates in it: those of a window are its period apart unless a
step between them comes to `WindowsInit`, and those of a tab unless the calls between them have one
of `TabinfoInit`. Without a period a window is not updated, and no call of a step updates a tab. -/
theorem update_spacing {w : World} (hclock : Monotone w.clock) (ui : Ui)
    (earlier between : List Event) (e e' : Event) :
    (∀ win now now' t t', UpdatesWindow w win (run (step w) ui earlier) e now →
      UpdatesWindow w win (run (step w) ui (earlier ++ e :: between)) e' now' →
      w.Shows now t → w.Shows now' t' →
      Meets (step w) (fun ui e => ¬ InitsWindows ui e) (run (step w) ui (earlier ++ [e])) between →
      t + win.period ≤ t')
    ∧ (∀ tabInfo now now' t t', UpdatesTab w tabInfo (run (step w) ui earlier) e now →
      UpdatesTab w tabInfo (run (step w) ui (earlier ++ e :: between)) e' now' →
      w.Shows now t → w.Shows now' t' → ∃ made, now'.calls = made ++ now.calls
        ∧ ((∃ device, Call.tabInit tabInfo.id device ∈ made) ∨ t + tabInfo.period ≤ t'))
    ∧ (∀ win : WindowType, win.period = 0 → ∀ t, updateWindow w t win = give 0)
    ∧ ∃ made, (step w ui e).calls = made ++ ui.calls
        ∧ ∀ tabInfo ∈ tabinfoList, tabInfo.period = 0 →
          ∀ device, Call.tabUpdate tabInfo.id device ∉ made := by
  have hrun : run (step w) ui (earlier ++ e :: between)
      = run (step w) (step w (run (step w) ui earlier) e) between := by
    simp only [run, List.foldl_append, List.foldl_cons]
  have hrun' : run (step w) ui (earlier ++ [e]) = step w (run (step w) ui earlier) e := by
    simp only [run, List.foldl_append, List.foldl_cons, List.foldl_nil]
  rw [hrun, hrun']
  refine ⟨fun win now now' t t' h h' ht ht' hmeets => ?_,
    fun tabInfo now now' t t' h h' ht ht' => ?_, fun win hperiod t => ?_, ?_⟩
  · have hlater := run_keeps_of_meets (I := Since w now.asked (· = win) (fun _ => False) now.calls)
      (fun ui e hs hnot => step_since hclock hs e fun hinit => absurd hinit hnot)
      between hmeets (h.since hclock)
    have hmark := (h'.1.since hclock hlater.ask).windows win rfl
    calc t + win.period ≤ w.clock now.asked + win.period := Nat.add_le_add_right ht.2 _
      _ ≤ now'.winUpdated win + win.period := Nat.add_le_add_right hmark _
      _ ≤ w.clock _ := h'.1.due.2
      _ ≤ w.clock (now'.asked - 1) := hclock (Nat.le_sub_one_of_lt (h'.1.asked hclock))
      _ ≤ t' := ht'.1
  · have hlater := run_keeps
      (I := Since w now.asked (fun _ => False) (· = tabInfo.id) now.calls)
      (fun ui e hs => step_since hclock hs e fun _ _ => id) between (h.since hclock)
    obtain ⟨ui', hcall, hnow, hdue⟩ := h'.main
    have hsince : Since w now.asked (fun _ => False) (· = tabInfo.id) now.calls now' :=
      hnow ▸ (hcall.since hclock hlater.ask).ask.readActive
    have hasked := ((since_now w ui'.ask).readActive).asked
    rw [← hnow] at hasked
    obtain ⟨made, hmade, -, htabs⟩ := hsince.calls
    refine ⟨made, hmade, (htabs _ rfl).symm.imp_right fun hmark => ?_⟩
    calc t + tabInfo.period ≤ w.clock now.asked + tabInfo.period := Nat.add_le_add_right ht.2 _
      _ ≤ now'.tabUpdated tabInfo.id + tabInfo.period := Nat.add_le_add_right hmark _
      _ ≤ w.clock ui'.asked := hdue
      _ ≤ w.clock (now'.asked - 1) := hclock (Nat.le_sub_one_of_lt hasked)
      _ ≤ t' := ht'.1
  · funext ui
    exact if_neg fun hdue => absurd hdue.1 (by rw [hperiod]; exact lt_irrefl 0)
  · obtain ⟨made, hmade, htimed, -⟩ := (step_since hclock (since_now w ui) e fun _ _ => id).calls
    refine ⟨made, hmade, fun tabInfo htab hperiod device hmem => ?_⟩
    obtain ⟨tabInfo', htab', hid, hpos⟩ := htimed _ hmem
    obtain rfl := tabinfoList_id htab' htab hid
    omega

section Example

/-- The device window in two ticks, one after the other. -/
theorem update_spacing_device :
    slowWorld.clock (start slowWorld mixedContext 80 24).asked + WindowType.device.period
      ≤ slowWorld.clock (step slowWorld (start slowWorld mixedContext 80 24)
        (.getch err 80 24)).asked :=
  have hclock : Monotone slowWorld.clock := fun m n h =>
    Nat.mul_le_mul_right _ (Nat.mul_le_mul_right _ (Nat.mul_le_mul_left _ (Nat.succ_le_succ h)))
  have hcall : ∀ ui : Ui, ui.requesetExit = false → ui.returned = false →
      ui.winUpdated .device + WindowType.device.period ≤ slowWorld.clock ui.asked →
      CallsUpdate slowWorld .device ui (.getch err 80 24) ui.ask := fun _ hexit hreturned hdue =>
    ⟨⟨80, 24, rfl⟩, ⟨hexit, hreturned⟩, ⟨[], _, rfl, rfl⟩, by decide, hdue⟩
  (update_spacing hclock (start slowWorld mixedContext 80 24) [] [] (.getch err 80 24)
    (.getch err 80 24)).1 .device _ _ _ _
    ⟨hcall _ (by decide) (by decide) (by decide), by decide⟩
    ⟨hcall _ (by decide) (by decide) (by decide), by decide⟩
    ⟨le_rfl, hclock (Nat.le_succ _)⟩ ⟨le_rfl, hclock (Nat.le_succ _)⟩ trivial

end Example

end Amdtop
