import Amdtop.Window

/-!
# The main loop

The four windows, the tabs of the main window, and the loop that hands them keys, resizes and idle
ticks. What the world answers comes from `World`: a driver and its probe by tick and slot, the rest
by the number of the question. What a tab draws in the main window is left out.
-/

namespace Amdtop

open Cmd

/-! ## Tabs -/

inductive TabID
  | system | device | driver | stat | firmware | ring | fence | vbios | display | about
deriving DecidableEq, Repr

structure TabInfo where
  id : TabID
  labelName : String
  hasUpdate : Bool
  period : ℕ
deriving DecidableEq, Repr

def tabinfoList : List TabInfo :=
  [⟨.stat, "Stat", true, ms2ns 500⟩, ⟨.system, "System", true, 0⟩, ⟨.device, "Device", false, 0⟩,
    ⟨.driver, "Driver", true, 0⟩, ⟨.ring, "Ring", false, 0⟩, ⟨.firmware, "Firmware", false, 0⟩,
    ⟨.vbios, "Bios", true, 0⟩, ⟨.display, "Display", true, ms2ns 500⟩,
    ⟨.fence, "Fence", true, ms2ns 500⟩, ⟨.about, "About", false, 0⟩]

def getTabInfoByIndex (index : ℕ) : Option TabInfo := tabinfoList[index]?

def getTabInfoCount : ℕ := tabinfoList.length

/-! ## The state -/

/-- A call into a tab or a query for the status window, with the active device at the time. -/
inductive Call
  | tabInit (tab : TabID) (device : Option Device)
  | tabExit (tab : TabID) (device : Option Device)
  | tabUpdate (tab : TabID) (device : Option Device)
  | sensor (device : Device)
deriving DecidableEq

structure World where
  hasKernelDriver : ℕ → ℕ → Bool
  probe : ℕ → ℕ → Probe
  tabInit : ℕ → ℤ
  tabUpdate : ℕ → ℤ
  sensor : ℕ → ℤ × UInt32
  clock : ℕ → ℕ
  key : ℕ → ℤ

/-- The globals, and the windows but for the main one. `fault` is set by an access through `NULL` or
outside `devs`. -/
structure Ui where
  cols : ℤ := 0
  lines : ℤ := 0
  wctx : WindowContext := {}
  dctx : DeviceContext
  activeDeviceID : ℤ := 0
  activeTabID : ℤ := 0
  gTabCount : ℕ := 0
  window : WindowType → TextWindow := newwin 0 0 {}
  timeout : ℤ
  requesetExit : Bool := false
  returned : Bool := false
  winUpdated : WindowType → ℕ := fun _ => 0
  tabUpdated : TabID → ℕ := fun _ => 0
  tick : ℕ := 0
  asked : ℕ := 0
  calls : List Call := []
  fault : Bool := false

/-- Another question to the world. -/
def Ui.ask (ui : Ui) : Ui := { ui with asked := ui.asked + 1 }

def Ui.crash (ui : Ui) : Ui := { ui with fault := true }

/-- A window changes. -/
def Ui.draw (win : WindowType) (f : TextWindow → TextWindow) (ui : Ui) : Ui :=
  { ui with window := Function.update ui.window win (f (ui.window win)) }

def Ui.record (ui : Ui) (call : Call) : Ui := { ui with calls := call :: ui.calls }

def getAcitveDevice (ui : Ui) : Option Device :=
  if ui.dctx.deviceCount < u32 ui.activeDeviceID then none else ui.dctx.slot (u32 ui.activeDeviceID)

/-- The read of `devs` by `getAcitveDevice`. -/
def Ui.readActive (ui : Ui) : Ui :=
  if ¬ ui.dctx.deviceCount < u32 ui.activeDeviceID ∧ gpuMaxCardSupport ≤ u32 ui.activeDeviceID then
    ui.crash
  else ui

/-! ## The main window -/

section Main

variable (w : World)

def TabinfoInit (tabInfo : TabInfo) : Cmd Ui := fun ui =>
  (w.tabInit ui.asked,
    { (ui.ask.record (.tabInit tabInfo.id (getAcitveDevice ui))) with
      tabUpdated := Function.update ui.tabUpdated tabInfo.id 0 })

def TabinfoUpdate (tabInfo : TabInfo) : Cmd Ui := fun ui =>
  if tabInfo.hasUpdate then
    (w.tabUpdate ui.asked, ui.ask.record (.tabUpdate tabInfo.id (getAcitveDevice ui)))
  else (0, ui)

def mainInit : Cmd Ui := fun ui =>
  let device := getAcitveDevice ui
  let ui := ui.readActive
  match getTabInfoByIndex (u32 ui.activeTabID) with
  | none => (0, ui.crash)
  | some tabInfo =>
    if tabInfo.id = .system ∨ tabInfo.id = .about ∨ DeviceDriverisLoaded device then
      TabinfoInit w tabInfo ui
    else (0, ui)

/-- The status of the tab is not looked at. -/
def mainExit : Cmd Ui := fun ui =>
  match getTabInfoByIndex (u32 ui.activeTabID) with
  | none => (0, ui)
  | some tabInfo => (0, ui.record (.tabExit tabInfo.id (getAcitveDevice ui)))

def mainUpdate : Cmd Ui := fun ui =>
  let currnetNs := w.clock ui.asked
  let ui := ui.ask.readActive
  if DeviceDriverisLoaded (getAcitveDevice ui) then
    match getTabInfoByIndex (u32 ui.activeTabID) with
    | none => (0, ui.crash)
    | some tabInfo =>
      if 0 < tabInfo.period ∧ ui.tabUpdated tabInfo.id + tabInfo.period ≤ currnetNs then
        andThen (TabinfoUpdate w tabInfo) (act fun ui =>
          { ui.ask with
            tabUpdated := Function.update ui.tabUpdated tabInfo.id (w.clock ui.asked) }) ui
      else (0, ui)
  else (0, ui)

end Main

/-! ## The status window -/

section Status

variable (w : World)

def updateStatus : Cmd Ui := fun ui =>
  let ui := ui.readActive
  match getAcitveDevice ui with
  | none => (0, ui)
  | some device =>
    if !device.driverisLoaded then (0, ui)
    else if device.gpuDevice.isNone then (0, ui.crash)
    else
      let (ret, value) := w.sensor ui.asked
      let ui := ui.ask.record (.sensor device)
      if ret ≠ 0 then (ret, ui)
      else (ret, ui.draw .status (printLoad (ui.wctx.layout .status).width value))

def printDeviceInfo (device : Device) (ui : Ui) : Ui :=
  ui.draw .status (printStatus ui.activeDeviceID device)

def statusInit : Cmd Ui := fun ui =>
  let ui := ui.readActive
  match getAcitveDevice ui with
  | none => (0, ui)
  | some device =>
    let ui := printDeviceInfo device ui
    if device.driverisLoaded then (0, (updateStatus w ui).2) else (0, ui)

end Status

/-! ## The device window -/

def updateActiveDevice (index : ℤ) (ui : Ui) : Ui :=
  ui.draw .device (printMarks ui.dctx.deviceCount index)

def deviceInit : Cmd Ui := fun ui =>
  let devices := printDevices ui.dctx (List.range ui.dctx.deviceCount)
  let all := (devices (ui.window .device)).1
  let ui := ui.draw .device fun window => (devices window).2
  if all then (0, updateActiveDevice ui.activeDeviceID ui) else (0, ui)

/-- The loop of `deviceUpdate` over the slots. -/
def deviceUpdateLoop (w : World) : List ℕ → Cmd Ui
  | [], ui => (0, ui)
  | i :: slots, ui =>
    match getDeviceByIndex ui.dctx i with
    | none => (0, ui)
    | some device =>
      if device.driverisLoaded || !w.hasKernelDriver ui.tick i then deviceUpdateLoop w slots ui
      else
        let (ret, device) := UpdateDeviceInfo (w.probe ui.tick i) device
        let ui := { ui with dctx := ui.dctx.put i device }
        if ret ≠ 0 then (ret, ui)
        else andThen (mainInit w) (deviceUpdateLoop w slots) ui

def deviceUpdate (w : World) : Cmd Ui := fun ui =>
  deviceUpdateLoop w (List.range ui.dctx.deviceCount) ui.readActive

/-! ## The tab window -/

def updateActiveTab (index : ℤ) (ui : Ui) : Ui := ui.draw .tab (printMarks ui.gTabCount index)

def tabInit : Cmd Ui :=
  act fun ui =>
    let ui := { ui with gTabCount := getTabInfoCount }
    let height := (ui.wctx.layout .tab).height
    updateActiveTab ui.activeTabID
      (ui.draw .tab (printLabels (tabinfoList.map TabInfo.labelName) height))

/-! ## Any window -/

section Windows

variable (w : World)

def WindowInit : WindowType → Cmd Ui
  | .device => deviceInit
  | .tab => tabInit
  | .main => mainInit w
  | .status => statusInit w

def WindowExit : WindowType → Cmd Ui
  | .main => mainExit
  | _ => give 0

def WindowUpdate : WindowType → Cmd Ui
  | .device => deviceUpdate w
  | .tab => give 0
  | .main => mainUpdate w
  | .status => updateStatus w

def WindowClear : WindowType → Cmd Ui
  | .main => give 0
  | win => act (Ui.draw win windowClear)

/-- `WindowExit`, `WindowClear` and `WindowInit` of a window. -/
def reinit (win : WindowType) : Cmd Ui := block [WindowExit win, WindowClear win, WindowInit w win]

end Windows

/-! ## Keys -/

def handleNone : ℤ := 0
def handleHandled : ℤ := 1

def keyF (n : ℤ) : ℤ := 264 + n
def keyNpage : ℤ := 338
def keyPpage : ℤ := 339
def keyResize : ℤ := 410
def err : ℤ := -1

def Ui.setTimeout (delay : ℤ) (ui : Ui) : Ui := { ui with timeout := delay }

section Keys

variable (w : World) (ch : ℤ)

/-- The device the key selects. -/
def selectDevice (ui : Ui) : ℤ :=
  if ch = keyF 3 then
    if ui.activeDeviceID - 1 ≤ 0 then 0 else ui.activeDeviceID - 1
  else if ch = keyF 4 then
    if ui.dctx.deviceCount ≤ u32 (ui.activeDeviceID + 1) then i32 (ui.dctx.deviceCount - 1)
    else ui.activeDeviceID + 1
  else ui.activeDeviceID

def deviceHandleInput : Cmd Ui := fun ui =>
  if ui.dctx.deviceCount ≤ 1 then (handleNone, ui)
  else
    let deviceId := selectDevice ch ui
    let handleType := if ch = keyF 3 ∨ ch = keyF 4 then handleHandled else handleNone
    if deviceId ≠ ui.activeDeviceID then
      block [act (updateActiveDevice deviceId),
        act fun ui => { ui with activeDeviceID := deviceId },
        reinit w .main, reinit w .status, give handleType] ui
    else (handleType, ui)

/-- The tab the key selects: page down or Ctrl-N, page up or Ctrl-P. -/
def selectTab (ui : Ui) : ℤ :=
  if ch = keyNpage ∨ ch = 14 then
    if ui.gTabCount ≤ u32 (ui.activeTabID + 1) then 0 else ui.activeTabID + 1
  else if ch = keyPpage ∨ ch = 16 then
    if ui.activeTabID - 1 < 0 then i32 (ui.gTabCount - 1) else ui.activeTabID - 1
  else ui.activeTabID

def tabHandleInput : Cmd Ui := fun ui =>
  let tabid := selectTab ch ui
  let handleType :=
    if ch = keyNpage ∨ ch = 14 ∨ ch = keyPpage ∨ ch = 16 then handleHandled else handleNone
  if tabid ≠ ui.activeTabID then
    block [WindowExit .main, act fun ui => { ui with activeTabID := tabid }, WindowClear .main,
      WindowInit w .main, act (updateActiveTab tabid), give handleType] ui
  else (handleType, ui)

def exitProgram : Cmd Ui := fun ui =>
  let ch := w.key ui.asked
  let ui := (ui.setTimeout (-1)).ask
  if ch = 'y'.toNat then (0, { ui with requesetExit := true })
  else block [act (Ui.setTimeout 100), reinit w .main] ui

def helperStr : List String :=
  ["Help:", "F3:", "   switch previous device", "F4:", "   switch next device",
    "Ctrl-P / PageUP:", "   switch previous tabpage", "Ctrl-N / PageDown:",
    "   switch next tabpage", "? / h :", "   show this information", "q: ", "   exit program", "",
    "", "type any key exit this help!"]

/-- The first row of the help, computed as a `size_t`. -/
def helperStarty (layout : WindowLayout) : ℤ :=
  i32 ((((layout.height.toNat : ℤ) - helperStr.length) % 18446744073709551616) / 2)

def helperStartx (layout : WindowLayout) : ℤ :=
  let maxLen := (helperStr.map String.length).foldl max 0
  i32 (((layout.width - UInt32.ofNat maxLen - 2).toNat : ℤ) / 2)

def helperHandler : Cmd Ui := fun ui =>
  if helperStartx (ui.wctx.layout .main) < 0 ∨ helperStarty (ui.wctx.layout .main) < 0 then (0, ui)
  else
    block [WindowClear .main, act (Ui.setTimeout (-1)), act Ui.ask, reinit w .main,
      act (Ui.setTimeout 200)] ui

def mainHandleInput : Cmd Ui :=
  if ch = 'q'.toNat then andThen (exitProgram w) (give handleNone)
  else if ch = 'h'.toNat ∨ ch = '?'.toNat then andThen (helperHandler w) (give handleNone)
  else give handleNone

def WindowInput : WindowType → Cmd Ui
  | .device => deviceHandleInput w ch
  | .tab => tabHandleInput w ch
  | .main => mainHandleInput w ch
  | .status => give handleNone

/-- The windows in turn, until one has handled the key. -/
def dispatchInput : List WindowType → Cmd Ui
  | [], ui => (handleNone, ui)
  | win :: wins, ui =>
    let (ret, ui) := WindowInput w ch win ui
    if ret = handleHandled then (ret, ui) else dispatchInput wins ui

def WindowsDispatchInput : Cmd Ui := dispatchInput w ch windows

end Keys

/-! ## All windows -/

section All

variable (w : World)

/-- The body of the loop of `WindowsInit`. -/
def initWindow (win : WindowType) : Cmd Ui := fun ui =>
  WindowInit w win { ui with winUpdated := Function.update ui.winUpdated win 0 }

def WindowsInit : Cmd Ui := block (windows.map (initWindow w))

def InitMainWindow : Cmd Ui := block (windows.map WindowClear)

/-- `InitWinLayout`, in a terminal of that size. -/
def Ui.layout (cols lines : ℤ) (ui : Ui) : Ui :=
  let wctx := InitWinLayout cols lines
  { ui with cols, lines, wctx, window := newwin cols lines wctx }

def WindowsUpdateUi (cols lines : ℤ) : Cmd Ui :=
  block [act (Ui.layout cols lines), InitMainWindow, WindowsInit w]

/-- The update of one window, if it is due at `currentTime`. -/
def updateWindow (currentTime : ℕ) (win : WindowType) : Cmd Ui := fun ui =>
  if 0 < win.period ∧ ui.winUpdated win + win.period ≤ currentTime then
    andThen (WindowUpdate w win) (act fun ui =>
      { ui.ask with winUpdated := Function.update ui.winUpdated win (w.clock ui.asked) }) ui
  else (0, ui)

def WindowsUpdate : Cmd Ui := fun ui =>
  block (windows.map (updateWindow w (w.clock ui.asked))) ui.ask

end All

/-! ## The program -/

/-- What `getch` returns, with the size of the terminal, or a signal that asks to exit. -/
inductive Event
  | getch (ch cols lines : ℤ)
  | signal
deriving DecidableEq, Repr

/-- The state `main` enters the loop with. -/
def start (w : World) (dctx : DeviceContext) (cols lines : ℤ) : Ui :=
  (WindowsUpdateUi w cols lines { dctx, timeout := 100 }).2

/-- A turn of the loop; after an error of a resize `main` has returned. -/
def turn (w : World) (ch cols lines : ℤ) (ui : Ui) : Ui :=
  if ch = keyResize then
    let (ret, ui) := WindowsUpdateUi w cols lines ui
    if ret ≠ 0 then { ui with returned := true } else ui
  else if ch = err then (WindowsUpdate w ui).2
  else (WindowsDispatchInput w ch ui).2

def step (w : World) (ui : Ui) : Event → Ui
  | .signal => { ui with requesetExit := true }
  | .getch ch cols lines =>
    if ui.requesetExit || ui.returned then ui
    else
      let ui := turn w ch cols lines ui
      { ui with tick := ui.tick + 1 }

end Amdtop
