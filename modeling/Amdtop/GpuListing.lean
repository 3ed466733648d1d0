import Amdtop.GpuDevice

/-!
# What `gpuGetDevices` hands out

The out parameters of `gpuGetDevices`, either of which the caller may leave out, and
`gpuGetDeviceCount`, which leaves out the array.
-/

namespace Amdtop

/-- The status, `*deviceCount`, `*gpuDevices`, and the descriptors opened. -/
structure DeviceListing where
  ret : ℤ
  deviceCount : ℕ
  gpuDevices : Option (List GpuDevice)
  fds : List ℤ
deriving DecidableEq, Repr

/-- `gpuGetDevices`, where `wanted` says that `gpuDevices` is not `NULL`. -/
def gpuListDevices (dri : Dri) (type : DeviceType) (wanted : Bool) : Option DeviceListing :=
  match gpuGetDevicesLoop type dri.dents 0 [] [] with
  | none => none
  | some (ret, devices, fds) =>
    if wanted then
      if !dri.alloc then some ⟨-enomem, devices.length, none, fds⟩
      else some ⟨ret, devices.length, some devices, fds⟩
    else some ⟨ret, devices.length, none, fds⟩

theorem gpuGetDevices_eq_listing (dri : Dri) (type : DeviceType) : gpuGetDevices dri type
    = (gpuListDevices dri type true).map fun l => (l.ret, l.gpuDevices.getD [], l.fds) := by
  unfold gpuGetDevices gpuListDevices
  rcases gpuGetDevicesLoop type dri.dents 0 [] [] with _ | ⟨ret, devices, fds⟩
  · rfl
  · rcases dri.alloc with _ | _ <;> rfl

/-- The count or an error, and the descriptors left open. -/
def gpuGetDeviceCount (dri : Dri) (type : DeviceType) : Option (ℤ × List ℤ) :=
  (gpuListDevices dri type false).map fun l => (if l.ret ≠ 0 then l.ret else l.deviceCount, l.fds)

end Amdtop
