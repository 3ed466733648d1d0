import Amdtop.Proofs.MainLoop

/-!
# What the screen says in the main loop

`Ui.screen` is what the windows and the input timeout depend on: most commands leave it as it was,
and each of the others changes one part of it. So the windows agree with the two indices, as long as
the init of the selected tab succeeds where a handler would return early, the selected device is
filled in, and what is printed fits (`main_loop_views`).
-/

namespace Amdtop

open Cmd Heap TextWindow

/-- The address and the name of a device. -/
structure Label where
  domain : UInt8
  bus : UInt8
  dev : UInt8
  func : UInt8
  deviceName : List Char
deriving DecidableEq, Repr

def Device.label (device : Device) : Label :=
  ⟨device.domain, device.bus, device.dev, device.func, device.deviceName⟩

/-- The layout, the two indices, the devices, the windows, and the mode of the input. -/
structure Screen where
  cols : ℤ
  lines : ℤ
  wctx : WindowContext
  activeDeviceID : ℤ
  activeTabID : ℤ
  deviceCount : ℕ
  device : ℕ → Option Label
  loaded : ℕ → Bool
  window : WindowType → TextWindow
  timeout : ℤ
  requesetExit : Bool
  tick : ℕ

def Ui.screen (ui : Ui) : Screen where
  cols := ui.cols
  lines := ui.lines
  wctx := ui.wctx
  activeDeviceID := ui.activeDeviceID
  activeTabID := ui.activeTabID
  deviceCount := ui.dctx.deviceCount
  device i := (ui.dctx.slot i).map Device.label
  loaded := ui.dctx.loaded
  window := ui.window
  timeout := ui.timeout
  requesetExit := ui.requesetExit
  tick := ui.tick

namespace Screen

variable (s : Screen)

/-- The device `activeDeviceID` points to. -/
def active : Option Label :=
  if s.deviceCount < u32 s.activeDeviceID then none else s.device (u32 s.activeDeviceID)

def draw (win : WindowType) (f : TextWindow → TextWindow) : Screen :=
  { s with window := Function.update s.window win (f (s.window win)) }

theorem draw_self (win : WindowType) (f : TextWindow → TextWindow) :
    (s.draw win f).window win = f (s.window win) := Function.update_self ..

end Screen

theorem loaded_screen {ui : Ui} {device : Device} (h : getAcitveDevice ui = some device) :
    ui.screen.loaded (u32 ui.activeDeviceID) = device.driverisLoaded := by
  unfold getAcitveDevice at h
  split_ifs at h
  exact (congrArg (Option.any (·.driverisLoaded)) h).trans rfl

theorem active_screen (ui : Ui) : ui.screen.active = (getAcitveDevice ui).map Device.label := by
  unfold Screen.active getAcitveDevice Ui.screen
  split_ifs <;> rfl

/-- The line of a display device that was found, with its own address and name. -/
def statusPlace (index : ℤ) (x : PciDevice × InitAnswer) : Placed :=
  ⟨1, 1, statusText index x.1.domain.toNat x.1.bus.toNat x.1.dev.toNat x.1.func.toNat
    x.2.deviceName⟩

/-- Each `*` stands beside its index and nowhere else. -/
structure Screen.Starred (s : Screen) : Prop where
  device : Marked (s.window .device) s.deviceCount s.activeDeviceID
  tab : Marked (s.window .tab) getTabInfoCount s.activeTabID

/-- The status window shows the device that was found for the active one, too. -/
structure Screen.Views (found : List (PciDevice × InitAnswer)) (s : Screen) : Prop
    extends Screen.Starred s where
  status : ∀ label, s.active = some label → ∃ x, found[u32 s.activeDeviceID]? = some x
    ∧ (statusPlace s.activeDeviceID x).Shown (s.window .status)

/-! ## What the commands do to it -/

section Screen

variable (w : World) (ui : Ui)

theorem readActive_screen : ui.readActive.screen = ui.screen := by
  unfold Ui.readActive
  split_ifs <;> rfl

theorem TabinfoUpdate_screen (tabInfo : TabInfo) :
    (TabinfoUpdate w tabInfo ui).2.screen = ui.screen := by
  unfold TabinfoUpdate
  split_ifs <;> rfl

theorem TabinfoInit_screen (tabInfo : TabInfo) :
    (TabinfoInit w tabInfo ui).2.screen = ui.screen := rfl

theorem mainInit_screen : (mainInit w ui).2.screen = ui.screen := by
  unfold mainInit
  dsimp only
  split
  · exact readActive_screen ui
  · split_ifs
    · exact (TabinfoInit_screen w _ _).trans (readActive_screen ui)
    · exact readActive_screen ui

theorem mainExit_screen : (mainExit ui).2.screen = ui.screen := by
  unfold mainExit
  split <;> rfl

theorem andThen_screen {f g : Cmd Ui} {ui : Ui} {s : Screen} (hf : (f ui).2.screen = s)
    (hg : Keeps (fun ui => ui.screen = s) g) : (andThen f g ui).2.screen = s :=
  andThen_of hf hg

theorem mainUpdate_screen : (mainUpdate w ui).2.screen = ui.screen := by
  have hread : ui.ask.readActive.screen = ui.screen := readActive_screen ui.ask
  unfold mainUpdate
  dsimp only
  split_ifs
  · split
    · exact hread
    · split_ifs
      · exact andThen_screen ((TabinfoUpdate_screen w _ _).trans hread)
          (keeps_act fun _ h => h)
      · exact hread
  · exact hread

theorem getAcitveDevice_readActive : getAcitveDevice ui.readActive = getAcitveDevice ui := by
  unfold Ui.readActive
  split_ifs <;> rfl

/-- The load of a loaded device may have been printed. -/
def LoadPrinted (w : World) (s s' : Screen) : Prop :=
  s' = s ∨ s.loaded (u32 s.activeDeviceID) = true ∧ ∃ k value, w.sensor k = (0, value)
    ∧ s' = s.draw .status (printLoad (s.wctx.layout .status).width value)

theorem updateStatus_screen : LoadPrinted w ui.screen (updateStatus w ui).2.screen := by
  have hread := readActive_screen ui
  unfold updateStatus
  dsimp only
  split
  · exact Or.inl hread
  · rename_i device hd
    split_ifs with hloaded hnone hret
    · exact Or.inl hread
    · exact Or.inl hread
    · exact Or.inl hread
    · rw [getAcitveDevice_readActive] at hd
      rw [Bool.not_eq_true, Bool.not_eq_false'] at hloaded
      refine Or.inr ⟨(loaded_screen hd).trans hloaded, ui.readActive.asked, _,
        Prod.ext (not_not.1 hret) rfl, ?_⟩
      have hrecord : (ui.readActive.ask.record (.sensor device)).screen = ui.screen := hread
      rw [← hrecord]
      rfl

theorem TabinfoInit_device (tabInfo : TabInfo) :
    getAcitveDevice (TabinfoInit w tabInfo ui).2 = getAcitveDevice ui := by
  unfold getAcitveDevice
  rfl

theorem mainInit_device : getAcitveDevice (mainInit w ui).2 = getAcitveDevice ui := by
  have hread := getAcitveDevice_readActive ui
  unfold mainInit
  dsimp only
  split
  · exact hread
  · split_ifs
    · exact (TabinfoInit_device w _ _).trans hread
    · exact hread

theorem reinit_main_device : getAcitveDevice (reinit w .main ui).2 = getAcitveDevice ui := by
  have hexit : getAcitveDevice (mainExit ui).2 = getAcitveDevice ui := by
    unfold mainExit
    split <;> rfl
  have hinit : Keeps (fun ui' => getAcitveDevice ui' = getAcitveDevice ui) (mainInit w) :=
    fun ui' h' => (mainInit_device w ui').trans h'
  exact andThen_of hexit (Keeps.andThen (keeps_give 0) (hinit.andThen (keeps_give 0)))

theorem statusInit_none (h : getAcitveDevice ui = none) :
    (statusInit w ui).2.screen = ui.screen := by
  unfold statusInit
  dsimp only
  rw [getAcitveDevice_readActive, h]
  exact readActive_screen ui

theorem statusInit_some {device : Device} (h : getAcitveDevice ui = some device) :
    LoadPrinted w (ui.screen.draw .status (printStatus ui.activeDeviceID device))
      (statusInit w ui).2.screen := by
  have hread := readActive_screen ui
  have hprint : (printDeviceInfo device ui.readActive).screen
      = ui.screen.draw .status (printStatus ui.activeDeviceID device) := by
    rw [← hread]
    exact congrArg (fun index => ui.readActive.screen.draw .status (printStatus index device))
      (congrArg Screen.activeDeviceID hread)
  unfold statusInit
  dsimp only
  rw [getAcitveDevice_readActive, h, ← hprint]
  dsimp only
  split_ifs
  · exact updateStatus_screen w _
  · exact Or.inl rfl

theorem UpdateDeviceInfo_label (answer : Probe) (device : Device) :
    (UpdateDeviceInfo answer device).2.label = device.label := by
  unfold UpdateDeviceInfo
  dsimp only
  split_ifs <;> rfl

/-- Devices that have a driver may have been loaded. -/
def Loads (w : World) (s s' : Screen) : Prop :=
  ∃ loaded, s' = { s with loaded }
    ∧ ∀ i, loaded i = true → s.loaded i = true ∨ w.hasKernelDriver s.tick i = true

theorem Loads.refl {w : World} (s : Screen) : Loads w s s := ⟨s.loaded, rfl, fun _ => Or.inl⟩

theorem Loads.trans {w : World} {s s' s'' : Screen} (h : Loads w s s') (h' : Loads w s' s'') :
    Loads w s s'' := by
  obtain ⟨loaded, rfl, hloaded⟩ := h
  obtain ⟨loaded', rfl, hloaded'⟩ := h'
  exact ⟨loaded', rfl, fun i hi => (hloaded' i hi).elim (hloaded i) Or.inr⟩

theorem put_screen {i : ℕ} {device device' : Device} (hd : ui.dctx.slot i = some device)
    (hlabel : device'.label = device.label) (hdriver : w.hasKernelDriver ui.tick i = true) :
    Loads w ui.screen { ui with dctx := ui.dctx.put i device' }.screen := by
  have hslot : (fun j => ((ui.dctx.put i device').slot j).map Device.label)
      = fun j => (ui.dctx.slot j).map Device.label := by
    funext j
    rw [slot_put _ (lt_of_slot hd)]
    split_ifs with hij
    · rw [← hij, hd, Option.map_some, Option.map_some, hlabel]
    · rfl
  refine ⟨(ui.dctx.put i device').loaded, congrArg (fun device =>
    { ui.screen with device, loaded := (ui.dctx.put i device').loaded }) hslot, fun j hj => ?_⟩
  rw [loaded_put (lt_of_slot hd), Function.update_apply] at hj
  split_ifs at hj with hij
  · rw [hij]
    exact Or.inr hdriver
  · exact Or.inl hj

theorem deviceUpdateLoop_screen :
    ∀ (slots : List ℕ) (ui : Ui), Loads w ui.screen (deviceUpdateLoop w slots ui).2.screen
  | [], _ => Loads.refl _
  | i :: slots, ui => by
    unfold deviceUpdateLoop
    split
    · exact Loads.refl _
    rename_i device hi
    dsimp only
    by_cases hskip : (device.driverisLoaded || !w.hasKernelDriver ui.tick i) = true
    · rw [if_pos hskip]
      exact deviceUpdateLoop_screen slots ui
    rw [if_neg hskip]
    rw [Bool.or_eq_true, not_or, Bool.not_eq_true', Bool.not_eq_false] at hskip
    have hput := put_screen w ui (slot_of_index hi)
      (UpdateDeviceInfo_label (w.probe ui.tick i) device) hskip.2
    set ui₁ : Ui := { ui with
      dctx := ui.dctx.put i (UpdateDeviceInfo (w.probe ui.tick i) device).2 }
    have hmain : Loads w ui.screen (mainInit w ui₁).2.screen := by rwa [mainInit_screen]
    let I : Ui → Prop := fun ui' => Loads w ui.screen ui'.screen
    split_ifs
    · exact hput
    · exact andThen_of (I := I) hmain fun ui' h' => h'.trans (deviceUpdateLoop_screen slots ui')

theorem deviceUpdate_screen : Loads w ui.screen (deviceUpdate w ui).2.screen := by
  have hloads := deviceUpdateLoop_screen w (List.range ui.dctx.deviceCount) ui.readActive
  rwa [readActive_screen] at hloads

theorem reinit_main_screen : (reinit w .main ui).2.screen = ui.screen := by
  refine andThen_screen (mainExit_screen ui) (Keeps.andThen (keeps_give 0) ?_)
  exact Keeps.andThen (fun ui' h' => (mainInit_screen w ui').trans h') (keeps_give 0)

theorem statusInit_fst : (statusInit w ui).1 = 0 := by
  unfold statusInit
  dsimp only
  split
  · rfl
  · split_ifs <;> rfl

theorem reinit_status :
    reinit w .status ui = (0, (statusInit w (ui.draw .status windowClear)).2) :=
  andThen_ok (statusInit_fst w (ui.draw .status windowClear)) (give 0)

end Screen

/-! ## What has to fit -/

/-- The device is one whose fields `InitDevice` fills in. -/
structure FilledIn (x : PciDevice × InitAnswer) : Prop where
  vendor : x.1.vendorId = vendorAmd
  domain : x.1.domain.toNat < 256
  irq : x.2.irq.1 = 0

def Label.of (x : PciDevice × InitAnswer) : Label :=
  ⟨x.1.domain.toUInt8, x.1.bus, x.1.dev, x.1.func, x.2.deviceName⟩

/-- The window has the row of the index, and more columns than that of the marks. -/
structure MarkFits (cols lines : ℤ) (ctx : WindowContext) (win : WindowType) (index : ℤ) :
    Prop where
  columns : 2 < windowCols cols ctx (ctx.layout win)
  row : 1 + index < windowRows lines ctx (ctx.layout win)

/-- The window has the row of the line, and more columns. -/
structure LineFits (lines : ℤ) (ctx : WindowContext) (p : Placed) : Prop where
  row : 1 < windowRows lines ctx (ctx.layout .status)
  plain : ∀ c ∈ p.text, isPlain c = true
  stop : p.stop < (ctx.layout .status).width.toNat

/-- The line ends where the load begins. -/
def LoadFits (ctx : WindowContext) (p : Placed) : Prop :=
  p.stop + 12 ≤ (ctx.layout .status).width.toNat

/-- There is room for the load, if it may be printed before the next tick: the active device is
loaded, or has a driver. -/
def Screen.Room (found : List (PciDevice × InitAnswer)) (w : World) (s : Screen) : Prop :=
  s.loaded (u32 s.activeDeviceID) = true
      ∨ w.hasKernelDriver s.tick (u32 s.activeDeviceID) = true →
    ∀ x, found[u32 s.activeDeviceID]? = some x → LoadFits s.wctx (statusPlace s.activeDeviceID x)

/-- What the marks and the status window need of the screen: windows of the size of the layout, and
devices with the fields of those that were found. -/
structure Screen.Prepared (found : List (PciDevice × InitAnswer)) (s : Screen) : Prop where
  sized : ∀ win, (s.window win).maxy = windowRows s.lines s.wctx (s.wctx.layout win)
    ∧ (s.window win).maxx = windowCols s.cols s.wctx (s.wctx.layout win)
  named : ∀ i label, s.device i = some label →
    ∃ x, found[i]? = some x ∧ (FilledIn x → label = .of x)

/-- The windows agree, and the line fits. -/
structure Screen.Agrees (found : List (PciDevice × InitAnswer)) (s : Screen) : Prop
    extends Screen.Prepared found s, Screen.Views found s where
  line : ∀ label, s.active = some label → ∀ x, found[u32 s.activeDeviceID]? = some x →
    LineFits s.lines s.wctx (statusPlace s.activeDeviceID x)

/-- The active device is filled in, and its line fits. -/
def StatusOk (found : List (PciDevice × InitAnswer)) (ui : Ui) : Prop :=
  ∀ device, getAcitveDevice ui = some device → ∀ x, found[u32 ui.activeDeviceID]? = some x →
    FilledIn x ∧ LineFits ui.lines ui.wctx (statusPlace ui.activeDeviceID x)
      ∧ (device.driverisLoaded = true → (∀ c ∈ device.driverName, isPlain c = true)
        ∧ LoadFits ui.wctx (statusPlace ui.activeDeviceID x))

theorem StatusOk.of_screen {found : List (PciDevice × InitAnswer)} {ui ui' : Ui}
    (h : StatusOk found ui) (hscreen : ui'.screen = ui.screen)
    (hdevice : getAcitveDevice ui' = getAcitveDevice ui) : StatusOk found ui' := by
  have hindex : ui'.activeDeviceID = ui.activeDeviceID := congrArg Screen.activeDeviceID hscreen
  have hlines : ui'.lines = ui.lines := congrArg Screen.lines hscreen
  have hwctx : ui'.wctx = ui.wctx := congrArg Screen.wctx hscreen
  unfold StatusOk
  rwa [hdevice, hindex, hlines, hwctx]

/-- What the sensor says of the load has at most four digits. -/
def LoadsFit (w : World) : Prop := ∀ k value, w.sensor k = (0, value) → value.toNat < 10000

section Agrees

variable {found : List (PciDevice × InitAnswer)} {s s' : Screen} {w : World} {ui : Ui}

theorem Screen.Prepared.draw (h : s.Prepared found) (win : WindowType)
    {f : TextWindow → TextWindow} (hf : ∀ w, SameSize w (f w)) : (s.draw win f).Prepared found where
  sized win' := by
    unfold Screen.draw
    dsimp only
    rw [Function.update_apply]
    split_ifs with hwin
    · subst hwin
      exact ⟨(hf _).1.trans (h.sized win').1, (hf _).2.trans (h.sized win').2⟩
    · exact h.sized win'
  named := h.named

theorem LineFits.inside (h : s.Prepared found) {text : List Char}
    (hline : LineFits s.lines s.wctx ⟨1, 1, text⟩) :
    (⟨1, 1, text⟩ : Placed).Inside (s.window .status)
      ∧ (s.window .status).maxx = (s.wctx.layout .status).width.toNat
      ∧ (s.wctx.layout .status).width.toNat < 2 ^ 31 := by
  have hstop := hline.stop
  obtain ⟨hrows, hcols⟩ := h.sized .status
  obtain ⟨hwidth, hlt⟩ : windowCols s.cols s.wctx (s.wctx.layout .status) = _ ∧ _ :=
    windowCols_eq (Nat.zero_lt_of_lt hline.row) (by omega)
  rw [hwidth] at hcols
  refine ⟨⟨hrows ▸ hline.row, hline.plain, ?_⟩, hcols, hlt⟩
  rw [hcols]
  exact hstop

theorem Label.of_text (index : ℤ) {x : PciDevice × InitAnswer} (h : FilledIn x) :
    statusText index (Label.of x).domain.toNat (Label.of x).bus.toNat (Label.of x).dev.toNat
      (Label.of x).func.toNat (Label.of x).deviceName = (statusPlace index x).text := by
  have hdomain : x.1.domain.toUInt8.toNat = x.1.domain.toNat := by
    rw [UInt32.toNat_toUInt8, Nat.mod_eq_of_lt h.domain]
  unfold Label.of
  dsimp only
  rw [hdomain]
  rfl

/-- The load is printed behind the line. -/
theorem Screen.Agrees.loadPrinted (h : s.Agrees found) (hload : LoadsFit w)
    (hroom : s.loaded (u32 s.activeDeviceID) = true →
      ∀ x, found[u32 s.activeDeviceID]? = some x →
        LoadFits s.wctx (statusPlace s.activeDeviceID x))
    (hs : LoadPrinted w s s') : s'.Agrees found := by
  obtain rfl | ⟨hloaded, k, value, hvalue, rfl⟩ := hs
  · exact h
  have hprepared := h.toPrepared.draw .status
    (printLoad_size (s.wctx.layout .status).width value)
  refine { hprepared with device := h.device, tab := h.tab, status := ?_, line := ?_ }
  · intro label hlabel
    obtain ⟨x, hx, hshown⟩ := h.status label hlabel
    have hline := h.line label hlabel x hx
    obtain ⟨-, hwidth, hlt⟩ := hline.inside h.toPrepared
    refine ⟨x, hx, ?_⟩
    rw [Screen.draw_self]
    exact printLoad_shown hwidth hlt (hload k value hvalue) (hroom hloaded x hx) hshown
  · exact h.line

theorem Screen.Agrees.loads (h : s.Agrees found) (hs : Loads w s s') : s'.Agrees found := by
  obtain ⟨loaded, rfl, -⟩ := hs
  exact { h with }

theorem Screen.Room.loads (h : s.Room found w) (hs : Loads w s s') : s'.Room found w := by
  obtain ⟨loaded, rfl, hloaded⟩ := hs
  exact fun hl => h (hl.elim (hloaded _) Or.inr)

theorem Screen.Room.loadPrinted (h : s.Room found w) (hs : LoadPrinted w s s') :
    s'.Room found w := by
  obtain rfl | ⟨-, _, _, -, rfl⟩ := hs
  · exact h
  · exact h

/-- The status window shows the active device, if there is one. -/
theorem statusInit_agrees (h : ui.screen.Prepared found) (hstar : ui.screen.Starred)
    (hok : StatusOk found ui) (hload : LoadsFit w) : (statusInit w ui).2.screen.Agrees found := by
  rcases hactive : getAcitveDevice ui with _ | device
  · have hnone : ui.screen.active = none := by rw [active_screen, hactive]; rfl
    rw [statusInit_none w ui hactive]
    exact { h, hstar with
      status := fun label hlabel => absurd (hlabel.symm.trans hnone) (Option.some_ne_none _)
      line := fun label hlabel => absurd (hlabel.symm.trans hnone) (Option.some_ne_none _) }
  have hlabel : ui.screen.active = some device.label := by rw [active_screen, hactive]; rfl
  have hslot : ui.screen.device (u32 ui.activeDeviceID) = some device.label := by
    unfold Screen.active at hlabel
    split_ifs at hlabel
    exact hlabel
  obtain ⟨x, hx, hnamed⟩ := h.named _ _ hslot
  obtain ⟨hfilled, hline, hdriver⟩ := hok device hactive x hx
  have htext := Label.of_text ui.activeDeviceID hfilled
  rw [← hnamed hfilled] at htext
  obtain ⟨hin, -, -⟩ := hline.inside h
  have hshown := printStatus_shown htext hin fun hl => (hdriver hl).1
  have hprepared := h.draw .status (printStatus_size ui.activeDeviceID device)
  have honly : ∀ x', found[u32 ui.activeDeviceID]? = some x' → x' = x := fun x' hx' =>
    Option.some.inj (hx'.symm.trans hx)
  have hagrees : (ui.screen.draw .status (printStatus ui.activeDeviceID device)).Agrees found := by
    refine { hprepared with device := hstar.device, tab := hstar.tab, status := ?_, line := ?_ }
    · intro label _
      exact ⟨x, hx, hshown⟩
    · intro label _ x' hx'
      rwa [honly x' hx']
  refine hagrees.loadPrinted hload (fun hl x' hx' => ?_) (statusInit_some w ui hactive)
  rw [honly x' hx']
  exact (hdriver ((loaded_screen hactive).symm.trans hl)).2

end Agrees

/-! ## The init of the selected tab -/

/-- The init of the selected tab succeeds, if it is called. -/
def InitOk (w : World) (ui : Ui) : Prop :=
  ∀ tabInfo, getTabInfoByIndex (u32 ui.activeTabID) = some tabInfo →
    tabInfo.id = .system ∨ tabInfo.id = .about ∨ DeviceDriverisLoaded (getAcitveDevice ui) →
      w.tabInit ui.asked = 0

section Init

variable {S : Scene} {w : World} {ui : Ui}

theorem mainInit_fst (h : Inv S ui) (hok : InitOk w ui) : (mainInit w ui).1 = 0 := by
  obtain ⟨tabInfo, htab⟩ := h.tabInfo
  unfold mainInit
  dsimp only
  rw [h.readActive, htab]
  dsimp only
  split_ifs with hc
  · exact hok tabInfo htab hc
  · rfl

theorem reinit_main_fst (h : Inv S ui) (hok : InitOk w ui) : (reinit w .main ui).1 = 0 := by
  obtain ⟨tabInfo, htab⟩ := h.tabInfo
  have hexit : mainExit ui = (0, ui.record (.tabExit tabInfo.id (getAcitveDevice ui))) := by
    unfold mainExit
    rw [htab]
  have hmain : (mainInit w (mainExit ui).2).1 = 0 := by
    rw [hexit]
    exact mainInit_fst (h.record trivial) hok
  unfold reinit
  rw [block, andThen_ok (by rw [WindowExit, hexit]), block, andThen_ok rfl, block]
  exact congrArg Prod.fst (andThen_ok hmain _)

theorem deviceInit_draws (h : Inv S ui) :
    ∃ f : TextWindow → TextWindow, (∀ w, SameSize w (f w)) ∧ deviceInit ui
      = (0, ui.draw .device fun w => printMarks ui.dctx.deviceCount ui.activeDeviceID (f w)) := by
  have hall :
      (printDevices ui.dctx (List.range ui.dctx.deviceCount) (ui.window .device)).1 = true := by
    refine printDevices_fst _ fun i hi => ?_
    rw [List.mem_range] at hi
    obtain ⟨device, hd⟩ := h.slot i hi
    rw [getDeviceByIndex, if_neg (by omega), hd]
    exact Option.some_ne_none device
  refine ⟨fun w => (printDevices ui.dctx (List.range ui.dctx.deviceCount) w).2,
    printDevices_size _ _, ?_⟩
  unfold deviceInit
  dsimp only
  rw [if_pos hall]
  unfold updateActiveDevice Ui.draw
  simp only [Function.update_self, Function.update_idem]

theorem tabInit_draws (ui : Ui) :
    ∃ f : TextWindow → TextWindow, (∀ w, SameSize w (f w)) ∧ tabInit ui
      = (0, { ui with gTabCount := getTabInfoCount }.draw .tab fun w =>
        printMarks getTabInfoCount ui.activeTabID (f w)) := by
  refine ⟨_, printLabels_size (tabinfoList.map TabInfo.labelName) (ui.wctx.layout .tab).height, ?_⟩
  unfold tabInit act updateActiveTab Ui.draw
  simp only [Function.update_self, Function.update_idem]

/-- The marks of a window whose rows fit. -/
theorem Screen.Prepared.marked {found : List (PciDevice × InitAnswer)} {s : Screen}
    (h : s.Prepared found) {win : WindowType} {count : ℕ} {index : ℤ} (h0 : 0 ≤ index)
    (hrow : 0 < count → MarkFits s.cols s.lines s.wctx win index) {f : TextWindow → TextWindow}
    (hf : ∀ w, SameSize w (f w)) :
    Marked (printMarks count index (f (s.window win))) count index := by
  rcases Nat.eq_zero_or_pos count with rfl | hcount
  · exact fun i hi => absurd hi (Nat.not_lt_zero i)
  obtain ⟨hcolumns, hrow⟩ := hrow hcount
  refine printMarks_marked ?_ h0 ?_
  · rwa [(hf _).2, (h.sized win).2]
  · rwa [(hf _).1, (h.sized win).1]

/-- The rows of the marks fit, and so does the line of the active device. -/
structure DrawFits (found : List (PciDevice × InitAnswer)) (ui : Ui) : Prop where
  device : 0 < ui.dctx.deviceCount →
    MarkFits ui.cols ui.lines ui.wctx .device ui.activeDeviceID
  tab : MarkFits ui.cols ui.lines ui.wctx .tab ui.activeTabID
  status : StatusOk found ui

section WindowsInit

variable {found : List (PciDevice × InitAnswer)}

/-- The state the main window is initialised in. -/
theorem WindowsInit_marks {n : ℕ} (h : Inv { S with tabs := n } ui)
    (hprepared : ui.screen.Prepared found) (hfits : DrawFits found ui) :
    ∃ ui', Inv { S with tabs := getTabInfoCount } ui' ∧ ui'.screen.Prepared found
      ∧ ui'.screen.Starred ∧ StatusOk found ui'
      ∧ getAcitveDevice ui' = getAcitveDevice ui ∧ (InitOk w ui → InitOk w ui')
      ∧ WindowsInit w ui = block ([WindowType.main, .status].map (initWindow w)) ui' := by
  have h₁ := h.resetWindow .device
  set ui₁ : Ui := { ui with winUpdated := Function.update ui.winUpdated .device 0 }
  obtain ⟨f, hf, hdevice⟩ := deviceInit_draws h₁
  have hmarks : ∀ w, SameSize w (printMarks ui₁.dctx.deviceCount ui₁.activeDeviceID (f w)) :=
    fun w => (hf w).trans (printMarks_size _ _ _)
  have h₂ := deviceInit_keeps _ h₁
  rw [hdevice] at h₂
  have hprepared₂ := hprepared.draw .device hmarks
  have h₃ := h₂.resetWindow .tab
  set ui₂ : Ui := ui₁.draw .device fun w => printMarks ui₁.dctx.deviceCount ui₁.activeDeviceID (f w)
  set ui₃ : Ui := { ui₂ with winUpdated := Function.update ui₂.winUpdated .tab 0 }
  obtain ⟨g, hg, htab⟩ := tabInit_draws ui₃
  have h₄ := tabInit_known (S := { S with tabs := getTabInfoCount }) rfl h₃
  rw [htab] at h₄
  have hprepared₄ := hprepared₂.draw .tab fun w =>
    (hg w).trans (printMarks_size getTabInfoCount ui₃.activeTabID _)
  refine ⟨_, h₄, hprepared₄, ⟨?_, ?_⟩, hfits.status, rfl, id, ?_⟩
  · exact hprepared.marked h.device.1 hfits.device hf
  · have hmarked : Marked (printMarks getTabInfoCount ui₃.activeTabID (g (ui₃.window .tab)))
        getTabInfoCount ui₃.activeTabID := hprepared₂.marked h.tab.1 (fun _ => hfits.tab) hg
    exact hmarked
  have hfirst : initWindow w .device ui = (0, ui₂) := hdevice
  have hsecond : initWindow w .tab ui₂ = (0, _) := htab
  unfold WindowsInit windows
  rw [List.map_cons, block, andThen_ok (congrArg Prod.fst hfirst), hfirst, List.map_cons, block,
    andThen_ok (congrArg Prod.fst hsecond), hsecond]

theorem initWindow_main_screen (ui : Ui) : (initWindow w .main ui).2.screen = ui.screen :=
  mainInit_screen w _

theorem initWindow_main_fst (h : Inv S ui) (hok : InitOk w ui) : (initWindow w .main ui).1 = 0 :=
  mainInit_fst (h.resetWindow .main) hok

theorem initWindow_status_fst (ui : Ui) : (initWindow w .status ui).1 = 0 := statusInit_fst w _

theorem WindowsInit_fst {n : ℕ} (h : Inv { S with tabs := n } ui)
    (hprepared : ui.screen.Prepared found) (hfits : DrawFits found ui) (hok : InitOk w ui) :
    (WindowsInit w ui).1 = 0 := by
  obtain ⟨ui', hinv, -, -, -, -, hok', heq⟩ := WindowsInit_marks (w := w) h hprepared hfits
  rw [heq, List.map_cons, block, andThen_ok (initWindow_main_fst hinv (hok' hok)), List.map_cons,
    block, andThen_ok (initWindow_status_fst _)]
  rfl

/-- The status window is left out only if the main window cannot be initialised. -/
theorem WindowsInit_agrees {n : ℕ} (h : Inv { S with tabs := n } ui)
    (hprepared : ui.screen.Prepared found) (hfits : DrawFits found ui) (hload : LoadsFit w)
    (hok : getAcitveDevice ui ≠ none → (WindowsInit w ui).1 = 0) :
    (WindowsInit w ui).2.screen.Agrees found := by
  obtain ⟨ui', -, hprepared', hstar, hstatus, hactive, -, heq⟩ :=
    WindowsInit_marks (w := w) h hprepared hfits
  have hmain := initWindow_main_screen (w := w) ui'
  have hdevice : getAcitveDevice (initWindow w .main ui').2 = getAcitveDevice ui' :=
    mainInit_device w _
  rw [heq, List.map_cons, block] at hok ⊢
  by_cases hret : (initWindow w .main ui').1 = 0
  · rw [andThen_ok hret, List.map_singleton, block, andThen_ok (initWindow_status_fst _)]
    have hstatus' := hstatus.of_screen hmain hdevice
    rw [← hmain] at hprepared' hstar
    exact statusInit_agrees hprepared' hstar hstatus' hload
  · rw [andThen_error hret] at hok ⊢
    rw [← hactive] at hok
    have hnone : ui'.screen.active = none := by
      rw [active_screen, not_ne_iff.1 (mt hok hret)]
      rfl
    rw [hmain]
    exact { hprepared', hstar with
      status := fun label hlabel => absurd (hlabel.symm.trans hnone) (Option.some_ne_none _)
      line := fun label hlabel => absurd (hlabel.symm.trans hnone) (Option.some_ne_none _) }

end WindowsInit

/-- The status window is drawn anew. -/
theorem reinit_status_agrees {found : List (PciDevice × InitAnswer)}
    (h : ui.screen.Prepared found) (hstar : ui.screen.Starred) (hok : StatusOk found ui)
    (hload : LoadsFit w) : (reinit w .status ui).2.screen.Agrees found := by
  rw [reinit_status]
  have hprepared : (ui.draw .status windowClear).screen.Prepared found :=
    h.draw .status windowClear_size
  exact statusInit_agrees hprepared ⟨hstar.device, hstar.tab⟩ hok hload

end Init

/-! ## Keys -/

section Keys

variable {S : Scene} {w : World} {ch : ℤ} {ui : Ui}

theorem selectDevice_of_ne (h3 : ch ≠ keyF 3) (h4 : ch ≠ keyF 4) :
    selectDevice ch ui = ui.activeDeviceID := by
  unfold selectDevice
  rw [if_neg h3, if_neg h4]

theorem selectTab_of_ne (hnext : ¬ (ch = keyNpage ∨ ch = 14)) (hprev : ¬ (ch = keyPpage ∨ ch = 16)) :
    selectTab ch ui = ui.activeTabID := by
  unfold selectTab
  rw [if_neg hnext, if_neg hprev]

theorem deviceHandleInput_idle
    (h : 1 < ui.dctx.deviceCount → selectDevice ch ui = ui.activeDeviceID) :
    (deviceHandleInput w ch ui).2 = ui := by
  unfold deviceHandleInput
  by_cases hn : ui.dctx.deviceCount ≤ 1
  · rw [if_pos hn]
  · rw [if_neg hn]
    dsimp only
    rw [if_neg (not_not.2 (h (Nat.not_le.1 hn)))]

theorem tabHandleInput_idle (h : selectTab ch ui = ui.activeTabID) :
    (tabHandleInput w ch ui).2 = ui := by
  unfold tabHandleInput
  dsimp only
  rw [if_neg (not_not.2 h)]

/-- The key selects another device. -/
def SwitchesDevice (ch : ℤ) (ui : Ui) : Prop :=
  1 < ui.dctx.deviceCount ∧ selectDevice ch ui ≠ ui.activeDeviceID

def SwitchesTab (ch : ℤ) (ui : Ui) : Prop := selectTab ch ui ≠ ui.activeTabID

/-- A key that selects a device selects no tab. -/
theorem SwitchesDevice.not_tab (h : SwitchesDevice ch ui) (ui' : Ui) : ¬ SwitchesTab ch ui' := by
  have hkey : ch = keyF 3 ∨ ch = keyF 4 := by
    by_contra hne
    rw [not_or] at hne
    exact h.2 (selectDevice_of_ne hne.1 hne.2)
  unfold SwitchesTab
  rw [not_not, selectTab_of_ne]
  · rcases hkey with rfl | rfl <;> decide
  · rcases hkey with rfl | rfl <;> decide

section Found

variable (found : List (PciDevice × InitAnswer))

/-- The selected device has a row for its mark and a line that fits, and the init of the tab
succeeds for it. -/
structure DeviceOk (w : World) (ch : ℤ) (ui : Ui) : Prop where
  init : InitOk w { ui with activeDeviceID := selectDevice ch ui }
  row : MarkFits ui.cols ui.lines ui.wctx .device (selectDevice ch ui)
  status : StatusOk found { ui with activeDeviceID := selectDevice ch ui }

structure TabOk (w : World) (ch : ℤ) (ui : Ui) : Prop where
  init : InitOk w { ui with activeTabID := selectTab ch ui }
  row : MarkFits ui.cols ui.lines ui.wctx .tab (selectTab ch ui)

variable {found}

theorem deviceHandleInput_agrees (h : Inv S ui) (hs : ui.screen.Agrees found) (hload : LoadsFit w)
    (hok : SwitchesDevice ch ui → DeviceOk found w ch ui) :
    (deviceHandleInput w ch ui).2.screen.Agrees found := by
  by_cases hidle : 1 < ui.dctx.deviceCount → selectDevice ch ui = ui.activeDeviceID
  · rwa [deviceHandleInput_idle hidle]
  obtain ⟨hn, hd⟩ := Classical.not_imp.1 hidle
  obtain ⟨hinit, hrow, hstatus⟩ := hok ⟨hn, hd⟩
  obtain ⟨h0, hlt⟩ := selectDevice_bounds ch h hn
  set ui' : Ui := { updateActiveDevice (selectDevice ch ui) ui with
    activeDeviceID := selectDevice ch ui }
  have hinv : Inv S ui' := { h with device := ⟨h0, Or.inl hlt⟩ }
  have hmain : (reinit w .main ui').1 = 0 := reinit_main_fst hinv hinit
  have hmarked : Marked (printMarks ui.dctx.deviceCount (selectDevice ch ui) (ui.window .device))
      ui.dctx.deviceCount (selectDevice ch ui) :=
    hs.marked (f := id) h0 (fun _ => hrow) fun _ => ⟨rfl, rfl⟩
  have hstar : ui'.screen.Starred := ⟨hmarked, hs.tab⟩
  have hprepared : ui'.screen.Prepared found :=
    { hs.draw .device (printMarks_size ui.dctx.deviceCount (selectDevice ch ui)) with }
  have hscreen := reinit_main_screen w ui'
  have hstatus' : StatusOk found (reinit w .main ui').2 :=
    StatusOk.of_screen (show StatusOk found ui' from hstatus) hscreen (reinit_main_device w ui')
  rw [← hscreen] at hstar hprepared
  have hagrees := reinit_status_agrees hprepared hstar hstatus' hload
  have hlast : (reinit w .status (reinit w .main ui').2).1 = 0 := by rw [reinit_status]
  unfold deviceHandleInput
  dsimp only
  rw [if_neg (Nat.not_le.2 hn), if_pos hd, block, andThen_ok rfl, block, andThen_ok rfl, act, act,
    block, andThen_ok hmain, block, andThen_ok hlast, block_singleton, give]
  exact hagrees

theorem tabHandleInput_agrees (h : Inv S ui) (htabs : S.tabs = getTabInfoCount)
    (hs : ui.screen.Agrees found) (hok : SwitchesTab ch ui → TabOk w ch ui) :
    (tabHandleInput w ch ui).2.screen.Agrees found := by
  by_cases ht : selectTab ch ui = ui.activeTabID
  · rwa [tabHandleInput_idle ht]
  obtain ⟨hinit, hrow⟩ := hok ht
  obtain ⟨h0, hlt⟩ := selectTab_bounds ch h htabs
  obtain ⟨tabInfo, htab⟩ := h.tabInfo
  have hexit : mainExit ui = (0, ui.record (.tabExit tabInfo.id (getAcitveDevice ui))) := by
    unfold mainExit
    rw [htab]
  have hrecord : Inv S (ui.record (.tabExit tabInfo.id (getAcitveDevice ui))) := h.record trivial
  set ui' : Ui := { ui.record (.tabExit tabInfo.id (getAcitveDevice ui)) with
    activeTabID := selectTab ch ui }
  have hinv : Inv S ui' := { hrecord with tab := ⟨h0, hlt⟩ }
  have hmain : (mainInit w ui').1 = 0 := mainInit_fst hinv hinit
  have hcount : (mainInit w ui').2.gTabCount = getTabInfoCount := by
    rw [(mainInit_keeps w ui' hinv).tabs, htabs]
  have hscreen : (updateActiveTab (selectTab ch ui) (mainInit w ui').2).screen
      = ui'.screen.draw .tab (printMarks getTabInfoCount (selectTab ch ui)) := by
    rw [← mainInit_screen w ui', ← hcount]
    rfl
  have hprepared : (ui'.screen.draw .tab (printMarks getTabInfoCount (selectTab ch ui))).Prepared
      found := { hs.draw .tab (printMarks_size getTabInfoCount (selectTab ch ui)) with }
  have hmarked : Marked (printMarks getTabInfoCount (selectTab ch ui) (ui.window .tab))
      getTabInfoCount (selectTab ch ui) :=
    hs.marked (f := id) h0 (fun _ => hrow) fun _ => ⟨rfl, rfl⟩
  have hagrees : (ui'.screen.draw .tab
      (printMarks getTabInfoCount (selectTab ch ui))).Agrees found :=
    { hprepared with device := hs.device, tab := hmarked, status := hs.status, line := hs.line }
  rw [← hscreen] at hagrees
  unfold tabHandleInput
  dsimp only
  rw [if_pos ht, block, WindowExit, andThen_ok (congrArg Prod.fst hexit), hexit, block,
    andThen_ok rfl, block, andThen_ok rfl, block, WindowInit, WindowClear, give, act,
    andThen_ok hmain, block, andThen_ok rfl, block_singleton]
  exact hagrees

end Found

theorem dispatchInput_cons (P : Ui → Prop) {win : WindowType} {wins : List WindowType}
    (hwin : P (WindowInput w ch win ui).2)
    (hwins : P (dispatchInput w ch wins (WindowInput w ch win ui).2).2) :
    P (dispatchInput w ch (win :: wins) ui).2 := by
  unfold dispatchInput
  dsimp only
  split_ifs
  · exact hwin
  · exact hwins

end Keys

section Others

variable {S : Scene} {w : World} {ch : ℤ} {found : List (PciDevice × InitAnswer)}

theorem keeps_of_screen {f : Cmd Ui} (P : Screen → Prop) (h : ∀ ui, (f ui).2.screen = ui.screen) :
    Keeps (fun ui => P ui.screen) f := fun ui hP => (congrArg P (h ui)).mpr hP

theorem setTimeout_agrees (delay : ℤ) :
    Keeps (fun ui => ui.screen.Agrees found) (act (Ui.setTimeout delay)) :=
  keeps_act fun _ h => { h with }

theorem mainHandleInput_agrees :
    Keeps (fun ui => ui.screen.Agrees found) (mainHandleInput w ch) := by
  have hreinit := keeps_of_screen (Screen.Agrees found) (reinit_main_screen w)
  unfold mainHandleInput
  split_ifs
  · refine Keeps.andThen (fun ui h => ?_) (keeps_give _)
    unfold exitProgram
    dsimp only
    have hask : (ui.setTimeout (-1)).ask.screen.Agrees found := { h with }
    have hback : Keeps (fun ui => ui.screen.Agrees found)
        (block [act (Ui.setTimeout 100), reinit w .main]) :=
      (setTimeout_agrees _).cons (hreinit.cons keeps_nil)
    split_ifs
    · exact { hask with }
    · exact hback _ hask
  · refine Keeps.andThen (fun ui h => ?_) (keeps_give _)
    have hhelp : Keeps (fun ui => ui.screen.Agrees found) (block [WindowClear .main,
        act (Ui.setTimeout (-1)), act Ui.ask, reinit w .main, act (Ui.setTimeout 200)]) :=
      Keeps.cons (keeps_give 0) ((setTimeout_agrees _).cons (Keeps.cons (keeps_act fun _ h => h)
        (hreinit.cons ((setTimeout_agrees _).cons keeps_nil))))
    unfold helperHandler
    split_ifs
    · exact h
    · exact hhelp ui h
  · exact keeps_give _

theorem WindowUpdate_agrees (hload : LoadsFit w) : ∀ win,
    Keeps (fun ui => ui.screen.Agrees found ∧ ui.screen.Room found w) (WindowUpdate w win)
  | .device => fun ui h =>
    have hloads := deviceUpdate_screen w ui
    ⟨h.1.loads hloads, h.2.loads hloads⟩
  | .tab => keeps_give 0
  | .main => keeps_of_screen (fun s => s.Agrees found ∧ s.Room found w) (mainUpdate_screen w)
  | .status => fun ui h =>
    have hprinted := updateStatus_screen w ui
    ⟨h.1.loadPrinted hload (fun hl => h.2 (Or.inl hl)) hprinted, h.2.loadPrinted hprinted⟩

theorem WindowsUpdate_agrees (hload : LoadsFit w) {ui : Ui} (h : ui.screen.Agrees found)
    (hroom : ui.screen.Room found w) : (WindowsUpdate w ui).2.screen.Agrees found := by
  let I : Ui → Prop := fun ui => ui.screen.Agrees found ∧ ui.screen.Room found w
  have hwindows : Keeps I (block (windows.map (updateWindow w (w.clock ui.asked)))) := by
    refine keeps_map windows fun win _ ui' h' => ?_
    unfold updateWindow
    split_ifs
    · exact andThen_of (I := I) (WindowUpdate_agrees hload win ui' h') (keeps_act fun _ h => h)
    · exact h'
  exact (hwindows ui.ask ⟨h, hroom⟩).1

variable {ui : Ui} (hgood : ∀ device, S.good device → device.gpuDevice ≠ none)
  (htabs : S.tabs = getTabInfoCount)

include hgood htabs in
theorem WindowsDispatchInput_agrees (h : Inv S ui) (hs : ui.screen.Agrees found)
    (hload : LoadsFit w) (hdevice : SwitchesDevice ch ui → DeviceOk found w ch ui)
    (htab : SwitchesTab ch ui → TabOk w ch ui) :
    (WindowsDispatchInput w ch ui).2.screen.Agrees found := by
  have hdeviceAgrees := deviceHandleInput_agrees h hs hload hdevice
  have hinv := deviceHandleInput_keeps w ch hgood htabs ui h
  have htabAgrees := tabHandleInput_agrees (w := w) hinv htabs hdeviceAgrees fun ht => by
    by_cases hswitch : SwitchesDevice ch ui
    · exact absurd ht (hswitch.not_tab _)
    · rw [deviceHandleInput_idle fun hn => by_contra fun hd => hswitch ⟨hn, hd⟩] at ht ⊢
      exact htab ht
  have hmain : (mainHandleInput w ch _).2.screen.Agrees found := mainHandleInput_agrees _ htabAgrees
  let P : Ui → Prop := fun ui => ui.screen.Agrees found
  exact dispatchInput_cons P hdeviceAgrees
    (dispatchInput_cons P htabAgrees (dispatchInput_cons P hmain hmain))

end Others

/-! ## Runs -/

section Run

variable {S : Scene} {w : World} {ui : Ui} {found : List (PciDevice × InitAnswer)}

theorem WindowsUpdateUi_eq (cols lines : ℤ) (ui : Ui) : WindowsUpdateUi w cols lines ui
    = WindowsInit w (InitMainWindow (ui.layout cols lines)).2 := by
  unfold WindowsUpdateUi
  rw [block, andThen_ok rfl, act]
  generalize ui.layout cols lines = ui'
  rw [block, andThen_ok rfl, block_singleton]

theorem InitMainWindow_prepared (h : ui.screen.Prepared found) :
    (InitMainWindow ui).2.screen.Prepared found :=
  ((h.draw .device windowClear_size).draw .tab windowClear_size).draw .status windowClear_size

theorem InitMainWindow_fits (h : DrawFits found ui) : DrawFits found (InitMainWindow ui).2 :=
  ⟨h.device, h.tab, h.status⟩

theorem InitMainWindow_initOk (h : InitOk w ui) : InitOk w (InitMainWindow ui).2 := h

theorem InitMainWindow_device (ui : Ui) :
    getAcitveDevice (InitMainWindow ui).2 = getAcitveDevice ui := rfl

theorem layout_inv (h : Inv S ui) (cols lines : ℤ) : Inv S (ui.layout cols lines) :=
  { h with }

theorem layout_prepared (cols lines : ℤ)
    (hnamed : ∀ i label, ui.screen.device i = some label →
      ∃ x, found[i]? = some x ∧ (FilledIn x → label = .of x)) :
    (ui.layout cols lines).screen.Prepared found :=
  ⟨newwin_size cols lines (InitWinLayout cols lines), hnamed⟩

theorem WindowsUpdateUi_fst {n : ℕ} (h : Inv { S with tabs := n } ui) (cols lines : ℤ)
    (hnamed : ∀ i label, ui.screen.device i = some label →
      ∃ x, found[i]? = some x ∧ (FilledIn x → label = .of x))
    (hfits : DrawFits found (ui.layout cols lines)) (hok : InitOk w (ui.layout cols lines)) :
    (WindowsUpdateUi w cols lines ui).1 = 0 := by
  rw [WindowsUpdateUi_eq]
  exact WindowsInit_fst (InitMainWindow_keeps _ (layout_inv h cols lines))
    (InitMainWindow_prepared (layout_prepared cols lines hnamed)) (InitMainWindow_fits hfits)
    (InitMainWindow_initOk hok)

theorem WindowsUpdateUi_agrees {n : ℕ} (h : Inv { S with tabs := n } ui) (cols lines : ℤ)
    (hnamed : ∀ i label, ui.screen.device i = some label →
      ∃ x, found[i]? = some x ∧ (FilledIn x → label = .of x))
    (hfits : DrawFits found (ui.layout cols lines)) (hload : LoadsFit w)
    (hok : getAcitveDevice (ui.layout cols lines) ≠ none →
      (WindowsUpdateUi w cols lines ui).1 = 0) :
    (WindowsUpdateUi w cols lines ui).2.screen.Agrees found := by
  rw [WindowsUpdateUi_eq] at hok ⊢
  refine WindowsInit_agrees (InitMainWindow_keeps _ (layout_inv h cols lines))
    (InitMainWindow_prepared (layout_prepared cols lines hnamed)) (InitMainWindow_fits hfits)
    hload ?_
  rwa [InitMainWindow_device]

/-- What the step draws fits: all of it after a resize, the load at a tick, else what the key
selects. -/
def DrawsOk (found : List (PciDevice × InitAnswer)) (w : World) (ui : Ui) : Event → Prop
  | .getch ch cols lines => ui.requesetExit = false → ui.returned = false →
    (ch = keyResize → DrawFits found (ui.layout cols lines))
      ∧ (ch = err → ui.screen.Room found w)
      ∧ (SwitchesDevice ch ui → DeviceOk found w ch ui) ∧ (SwitchesTab ch ui → TabOk w ch ui)
  | .signal => True

variable (hgood : ∀ device, S.good device → device.gpuDevice ≠ none)
  (htabs : S.tabs = getTabInfoCount)

include hgood htabs in
theorem turn_agrees (h : Inv S ui) (hs : ui.screen.Agrees found) (hload : LoadsFit w)
    {ch cols lines : ℤ} (hfits : ch = keyResize → DrawFits found (ui.layout cols lines))
    (hroom : ch = err → ui.screen.Room found w)
    (hdevice : SwitchesDevice ch ui → DeviceOk found w ch ui)
    (htab : SwitchesTab ch ui → TabOk w ch ui) (hr : (turn w ch cols lines ui).returned = false) :
    (turn w ch cols lines ui).screen.Agrees found := by
  unfold turn at hr ⊢
  dsimp only at hr ⊢
  split_ifs at hr ⊢ with hresize hret hidle
  · exact WindowsUpdateUi_agrees (S := S) (n := S.tabs) h cols lines hs.named (hfits hresize) hload
      fun _ => not_not.1 hret
  · exact WindowsUpdate_agrees hload hs (hroom hidle)
  · exact WindowsDispatchInput_agrees hgood htabs h hs hload hdevice htab

include hgood htabs in
theorem step_agrees (h : Inv S ui) (hs : ui.returned = false → ui.screen.Agrees found)
    (hload : LoadsFit w) (e : Event) (hok : DrawsOk found w ui e)
    (hr : (step w ui e).returned = false) : (step w ui e).screen.Agrees found := by
  rcases e with ⟨ch, cols, lines⟩ | _
  · unfold step at hr ⊢
    dsimp only at hr ⊢
    by_cases hexit : (ui.requesetExit || ui.returned) = true
    · rw [if_pos hexit] at hr ⊢
      exact hs hr
    · rw [if_neg hexit] at hr ⊢
      rw [Bool.or_eq_true, not_or, Bool.not_eq_true, Bool.not_eq_true] at hexit
      obtain ⟨hfits, hroom, hdevice, htab⟩ := hok hexit.1 hexit.2
      exact { turn_agrees hgood htabs h (hs hexit.2) hload hfits hroom hdevice htab hr with }
  · exact { hs hr with }

end Run

theorem InitDevice_label {x : PciDevice × InitAnswer} (h : FilledIn x) (addr id : ℕ) :
    (InitDevice x.2 { addr, id, pdev := x.1 }).2.label = .of x := by
  rw [InitDevice_amd x.2 h.vendor, if_neg (not_not.2 h.irq)]
  split_ifs
  · rw [UpdateDeviceInfo_label]
    rfl
  · rfl

theorem start_agrees {w : World} {ok : ℕ → Bool} {pciSystemInit : ℤ}
    {pdevs : List (PciDevice × InitAnswer)} {addr : ℕ} {m : Ledger} {cols lines : ℤ}
    {ret : ℤ} {dctx : DeviceContext} {m' : Ledger}
    (hinit : InitDeviceContext ok pciSystemInit pdevs { addr } m = some (ret, dctx, m'))
    (hload : LoadsFit w)
    (hfits : DrawFits (displays pdevs) (Ui.layout cols lines { dctx, timeout := 100 }))
    (hstart : getAcitveDevice { dctx, timeout := 100 } ≠ none →
      InitOk w { dctx, timeout := 100 }) :
    (start w dctx cols lines).screen.Agrees (displays pdevs) := by
  obtain ⟨recorded, hslots, hready⟩ := InitDeviceContext_slots hinit
  have hempty := init_inv hslots fun i d hi hl => (hready i d hi hl).1
  have hnamed : ∀ i label, (Ui.screen { dctx, timeout := 100 }).device i = some label →
      ∃ x, (displays pdevs)[i]? = some x ∧ (FilledIn x → label = .of x) := fun i label hi => by
    obtain ⟨device, hslot, hlabel⟩ := Option.map_eq_some_iff.1 hi
    obtain ⟨x, addr, hx, rfl⟩ := InitDeviceContext_found hinit i device hslot
    exact ⟨x, hx, fun hfilled => hlabel.symm.trans (InitDevice_label hfilled addr i)⟩
  exact WindowsUpdateUi_agrees hempty cols lines hnamed hfits hload fun hactive =>
    WindowsUpdateUi_fst hempty cols lines hnamed hfits (hstart hactive)

section Example

theorem boundWorld_initOk (i : ℕ) (ui : Ui) : InitOk (boundWorld i) ui := fun _ _ _ => rfl

/-- A card that has its driver from the start. -/
def radeon : InitAnswer :=
  { unbound with
    deviceName := "AMD Radeon RX 9070 XT".toList, hasKernelDriver := true
    update := ⟨(0, "amdgpu".toList), some ⟨3, 0, 226, 0, .card⟩⟩ }

/-- Two AMD cards. -/
def amdContext : DeviceContext :=
  (({ addr := 0, deviceCount := 2 } : DeviceContext).put 0
    (InitDevice radeon { addr := 1, id := 0, pdev := amdCard }).2).put 1
      (InitDevice unbound { addr := 2, id := 1, pdev := amdCard }).2

theorem boundWorld_loadsFit (i : ℕ) : LoadsFit (boundWorld i) := fun _ value h => by
  obtain ⟨-, rfl⟩ := Prod.mk.inj h
  decide

/-- The init of a tab fails, but for the first time. -/
def failingWorld (failFrom : ℕ) : World :=
  { boundWorld 0 with tabInit := fun asked => if asked < failFrom then 0 else -eio }

end Example

end Amdtop
