import Amdtop.DisplayQuery

/-!
# The visits of the Display tab

The tab keeps the state it has completed, and completes a new one only if `needUpdateDisplayInfo`
says so. A result is `none` where a query follows a pointer that is `NULL`, or was freed, or writes
outside `display_state`.
-/

namespace Amdtop

open Heap

/-- The statics of the tab, and the lines drawn since its window was cleared. `log` has the device
and the state of every query that returned 0. -/
structure DisplayTab where
  currentDevice : Option ℕ := none
  resource : Option ResourceView := none
  displayState : DisplayState := {}
  currentDisplayState : DisplayState := {}
  m : Ledger := {}
  drawn : List Line := []
  log : List (ℕ × DisplayState) := []

namespace DisplayTab

variable (maxy device : ℕ) (call : DisplayAnswers)

def queryDisplayInfo (tab : DisplayTab) : Option (ℤ × DisplayTab) :=
  (Amdtop.queryDisplayInfo tab.resource call tab.m).bind fun q =>
    if q.m.overrun then none
    else some (q.ret, { tab with
      resource := q.resource, displayState := q.displayState, m := q.m
      log := if q.ret = 0 then tab.log ++ [(device, q.displayState)] else tab.log })

/-- The state is copied before it is completed. -/
def updateDisplayInfo (tab : DisplayTab) : ℤ × DisplayTab :=
  let (ret, currentDisplayState) := Amdtop.updateDisplayInfo tab.displayState
  (ret, { tab with currentDisplayState })

def refreshDisplayUi (tab : DisplayTab) : DisplayTab :=
  { tab with drawn := tab.drawn ++ Amdtop.refreshDisplayUi maxy tab.currentDisplayState }

def WindowClear (tab : DisplayTab) : DisplayTab := { tab with drawn := [] }

/-- The device is noted before it is queried. -/
def getAllInfo (tab : DisplayTab) : Option (ℤ × DisplayTab) :=
  if tab.currentDevice = some device then some (0, tab)
  else (queryDisplayInfo device call { tab with currentDevice := some device }).map
    fun (ret, tab) =>
      if ret ≠ 0 then (ret, tab)
      else if needUpdateDisplayInfo tab.currentDisplayState tab.displayState then
        tab.updateDisplayInfo
      else (0, tab)

def tabDisplayInfoInit (tab : DisplayTab) : Option (ℤ × DisplayTab) :=
  (getAllInfo device call tab).map fun (ret, tab) =>
    if ret ≠ 0 then (ret, tab) else (0, tab.refreshDisplayUi maxy)

def tabDisplayInfoUpdate (tab : DisplayTab) : Option (ℤ × DisplayTab) :=
  (queryDisplayInfo device call tab).map fun (ret, tab) =>
    if ret ≠ 0 then (ret, tab)
    else if needUpdateDisplayInfo tab.currentDisplayState tab.displayState then
      let (ret, tab) := tab.updateDisplayInfo
      if ret ≠ 0 then (ret, tab) else (0, tab.WindowClear.refreshDisplayUi maxy)
    else (ret, tab)

end DisplayTab

/-- What happens to the tab: its window is cleared, it is opened, or its period is over. The device
is the active one, and the window has `maxy` rows. -/
inductive DisplayVisit
  | clear
  | init (maxy device : ℕ) (call : DisplayAnswers)
  | update (maxy device : ℕ) (call : DisplayAnswers)

def DisplayTab.visit (tab : DisplayTab) : DisplayVisit → Option DisplayTab
  | .clear => some tab.WindowClear
  | .init maxy device call => (tabDisplayInfoInit maxy device call tab).map (·.2)
  | .update maxy device call => (tabDisplayInfoUpdate maxy device call tab).map (·.2)

/-- A run of visits, whatever each of them returns. -/
def DisplayTab.visits : List DisplayVisit → DisplayTab → Option DisplayTab
  | [], tab => some tab
  | v :: vs, tab => (tab.visit v).bind (DisplayTab.visits vs)

end Amdtop
