import Amdtop.DeviceContext
import Amdtop.GpuRings

/-!
# The tabs that show debugfs

The Stat tab and the Fence tab have the files of `debugfs` read into a static array each, and go
through it with the number of records they are told. A list of records is the memory from the array
on, with what is behind it.
-/

namespace Amdtop

variable {α : Type}

/-- A round of a tab: the status, the memory afterwards, the number of records reported to the tab,
and the indices of those it reads. -/
structure TabRound (α : Type) where
  ret : ℤ
  records : List α
  count : ℕ
  reads : List ℕ

/-! ## The Stat tab -/

/-- The length of `clientInfos`. -/
def maxClientCount : ℕ := 40

/-- `update_client_info`. The number of records the array is said to have is that of the characters
in a name. -/
def updateClientInfo (files : Files) (device : GpuDevice) (hasRootPermission : Bool)
    (uiClientsCount : ℕ) (clientInfos : List AmdGpuClientInfo) : TabRound AmdGpuClientInfo :=
  if !hasRootPermission then ⟨0, clientInfos, 0, []⟩
  else
    let (ret, clientInfos, count) := amdGpuQueryClientInfo files device clientInfos maxNameSize
    if ret ≠ 0 then ⟨ret, clientInfos, count, []⟩
    else ⟨0, clientInfos, count, (List.range uiClientsCount).filter (· < count)⟩

/-! ## The Fence tab -/

/-- The length of `gpuRings`. -/
def maxRingCount : ℕ := 20

/-- `getRingInfo` and the loop of `update_fence_info`, which queries the fences of each ring. -/
def updateFenceInfo (dirs : Dirs) (device : GpuDevice) (hasRootPermission : Bool)
    (gpuRings : List AmdGpuRingInfo) : Option (TabRound AmdGpuRingInfo) :=
  if !hasRootPermission then some ⟨0, gpuRings, 0, []⟩
  else
    (amdGpuRingInfo dirs device gpuRings).map fun (ret, gpuRings, ringCount) =>
      if ret ≠ 0 then ⟨ret, gpuRings, ringCount, []⟩
      else ⟨0, gpuRings, ringCount, List.range ringCount⟩

end Amdtop
