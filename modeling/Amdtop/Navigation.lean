import Amdtop.MainLoop

/-!
# Which tab and device are selected

What the keys are for: the tabs stand on a circle and the devices in a row, and a key goes one
further on the one or the other, or one back. Nothing here is known of windows, drivers or errors.
-/

namespace Amdtop

structure Selection where
  tab : Fin getTabInfoCount
  device : ℕ
deriving DecidableEq

inductive Move
  | nextTab | previousTab | nextDevice | previousDevice
deriving DecidableEq

def Selection.move (count : ℕ) (v : Selection) : Move → Selection
  | .nextTab => { v with tab := v.tab + ⟨1, by decide⟩ }
  | .previousTab => { v with tab := v.tab - ⟨1, by decide⟩ }
  | .nextDevice => { v with device := min (v.device + 1) (count - 1) }
  | .previousDevice => { v with device := v.device - 1 }

/-- The first tab and the first device. -/
def Selection.first : Selection := ⟨⟨0, by decide⟩, 0⟩

def keyMove (ch : ℤ) : Option Move :=
  if ch = keyNpage ∨ ch = 14 then some .nextTab
  else if ch = keyPpage ∨ ch = 16 then some .previousTab
  else if ch = keyF 4 then some .nextDevice
  else if ch = keyF 3 then some .previousDevice
  else none

def Event.moves : Event → Option Move
  | .getch ch _ _ => keyMove ch
  | .signal => none

def Selection.take (count : ℕ) (v : Selection) (e : Event) : Selection :=
  e.moves.elim v (v.move count)

/-- The keys of the list that make the move. -/
def pressed (m : Move) (events : List Event) : ℕ := events.countP fun e => e.moves = some m

/-! ## Where the program stands -/

/-- The indices the program holds are those of the selection. -/
def Selection.Is (v : Selection) (ui : Ui) : Prop :=
  ui.activeTabID = (v.tab : ℕ) ∧ ui.activeDeviceID = v.device

def Ui.Ended (ui : Ui) : Prop := ui.requesetExit = true ∨ ui.returned = true

/-- The init of the selected tab, which System and About have without a driver, fails. -/
def InitFails (w : World) (ui : Ui) : Prop :=
  ∃ tabInfo, getTabInfoByIndex (u32 ui.activeTabID) = some tabInfo
    ∧ (tabInfo.id = .system ∨ tabInfo.id = .about ∨ DeviceDriverisLoaded (getAcitveDevice ui))
    ∧ w.tabInit ui.asked ≠ 0

/-- The events the program does not survive. -/
def Ends (w : World) (ui : Ui) : Event → Prop
  | .signal => True
  | .getch ch _ _ => ch = 'q'.toNat ∧ w.key ui.asked = 'y'.toNat ∨ ch = keyResize ∧ InitFails w ui

end Amdtop
