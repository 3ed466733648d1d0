import Amdtop.DebugTabs
import Amdtop.TextWindow

/-!
# The table of the clients

What `update_client_info` prints on each of the rows it has: a client with the name of its user, or
blanks. `none` is a user without an entry, whose name is read through a null pointer. The window has
what was printed there before, and a row with a client is not cleared.
-/

namespace Amdtop

open Stdio

/-- A text printed at a place of the window. -/
structure Print where
  y : UInt32
  x : ℕ
  text : List Char
deriving DecidableEq, Repr

/-- `"%s-%d"` -/
def clientDev (dev : UInt32) : List Char :=
  (if dev < 128 then "Card" else "Render").toList ++ '-' :: decimalInt dev

/-- `"%-5d %-15s\t %-10d\t %-10s\t %-10s\t %-10s\t %s"` -/
def clientText (i : ℕ) (info : AmdGpuClientInfo) (pwName : List Char) (master a : String) :
    List Char :=
  padRight 5 (decimal i) ++ ' ' :: padRight 15 info.command
    ++ '\t' :: ' ' :: padRight 10 (decimalInt info.pid)
    ++ '\t' :: ' ' :: padRight 10 pwName
    ++ '\t' :: ' ' :: padRight 10 (clientDev info.dev)
    ++ '\t' :: ' ' :: padRight 10 master.toList
    ++ '\t' :: ' ' :: a.toList

def isUnknow (info : AmdGpuClientInfo) : Bool := (strstr info.command "unknow".toList).isSome

section Table

variable (passwd : UInt32 → Option (List Char)) (starty : UInt32) (uiClientsCount maxx : ℕ)

/-- Blanks from the third column to the last but three. -/
def blankRow (i : ℕ) : List Print :=
  (List.range (maxx - 3 - 2)).map fun j => ⟨starty + .ofNat i, 2 + j, [' ']⟩

/-- The client on a row. -/
def clientAt (clientInfos : List AmdGpuClientInfo) (count i : ℕ) : Option AmdGpuClientInfo :=
  if i < count then clientInfos[i]?.filter (!isUnknow ·) else none

def clientRow (clientInfos : List AmdGpuClientInfo) (count i : ℕ) : Option (List Print) :=
  match clientAt clientInfos count i with
  | none => some (blankRow starty maxx i)
  | some info => (passwd info.uid).map fun pwName =>
    [⟨starty + .ofNat i, maxx / 20, clientText i info pwName
      (if info.master = 'y' then "master" else "normal") (if info.a = 'a' then "y" else "n")⟩]

/-- The round of `update_client_info` with what it prints on each row. -/
def updateClientTable (files : Files) (device : GpuDevice) (hasRootPermission : Bool)
    (clientInfos : List AmdGpuClientInfo) : Option (TabRound AmdGpuClientInfo × List (List Print)) :=
  let round := updateClientInfo files device hasRootPermission uiClientsCount clientInfos
  if !hasRootPermission || round.ret ≠ 0 then some (round, [])
  else
    ((List.range uiClientsCount).mapM
      (clientRow passwd starty maxx round.records round.count)).map (round, ·)

/-- `mvwprintwc`, of the text its format gives. -/
def mvwprintwc (window : TextWindow) (print : Print) : TextWindow :=
  window.mvprint print.y.toNat print.x print.text

/-- `update_client_info` and the window after it. -/
def updateClientWindow (files : Files) (device : GpuDevice) (hasRootPermission : Bool)
    (clientInfos : List AmdGpuClientInfo) (window : TextWindow) :
    Option (TabRound AmdGpuClientInfo × TextWindow) :=
  (updateClientTable passwd starty uiClientsCount window.maxx files device hasRootPermission
    clientInfos).map fun (round, rows) => (round, rows.flatten.foldl mvwprintwc window)

end Table

end Amdtop
