import Mathlib.Data.List.Forall2
import Amdtop.GpuListing
import Amdtop.Proofs.DeviceByBus

/-!
# The descriptors left open

A node that fails a check after `open` keeps its descriptor, `gpuGetDeviceCount` closes none, and
`gpuGetDeviceByBus` closes those it passes over, one at a time, unless it returns before. What is
left open is compared up to the order.
-/

namespace Amdtop

open List Carry

/-- An error leaves the descriptors as they were, and a success adds the node's. -/
def OpenBalanced (e : Dirent) (fds : List ℤ) : Prop :=
  match gpuOpenDevice e fds with
  | (.error _, fds') => fds' = fds
  | (.ok (fd, _, _), fds') => fds' = fd :: fds

/-- None is left open. -/
def CountBalanced (dri : Dri) (type : DeviceType) : Prop :=
  ∃ ret, gpuGetDeviceCount dri type = some (ret, [])

/-- The returned device's is left open, and no other. -/
def ByBusBalanced (dri : Dri) (type : DeviceType) (domain bus dev func : UInt8) : Prop :=
  ∃ found fds, gpuGetDeviceByBus dri type domain bus dev func = some (found, fds)
    ∧ fds.Perm (found.toList.map (·.fd))

/-! ## The condition of the search -/

def Dri.nodeAddress (dri : Dri) (e : Dirent) : Option Address := dri.ownAddress e.major e.minor

/-- No node of the type can be opened; or all that can are devices, each is asked for its address
with success, at most one compares equal, and the others have descriptors other than 0. -/
def ByBusClean (dri : Dri) (type : DeviceType) (t : Address) : Prop :=
  (∀ e ∈ dri.dents, ¬ e.opened type = true)
    ∨ ¬ dri.Aborts type ∧ (dri.nodes type).length ≤ gpuMaxCardSupport
      ∧ (∀ e ∈ dri.dents, e.opened type = true → e.opens = true)
      ∧ (hits dri.nodeAddress t (dri.nodes type) (0, 0, 0, 0)).length ≤ 1
      ∧ ∀ e ∈ misses dri.nodeAddress t (dri.nodes type) (0, 0, 0, 0), 0 < e.fd

theorem fds_eq : ∀ {devices : List GpuDevice} {nodes : List Dirent},
    Forall₂ GpuDevice.Of devices nodes → devices.map (·.fd) = nodes.map (·.fd)
  | [], [], .nil => rfl
  | _ :: _, _ :: _, .cons hd h => by rw [map_cons, map_cons, hd.1, fds_eq h]

/-! ## `gpuOpenDevice` and `gpuGetDeviceCount` -/

theorem openBalanced_iff (e : Dirent) (fds : List ℤ) :
    OpenBalanced e fds ↔ (0 ≤ e.fd → e.opens = true) := by
  unfold OpenBalanced
  by_cases ho : e.opens = true
  · rw [gpuOpenDevice_ok ho]
    exact iff_of_true rfl fun _ => ho
  · obtain ⟨ret, hopen, -⟩ := gpuOpenDevice_error (Bool.not_eq_true _ ▸ ho) fds
    rw [hopen]
    by_cases hfd : 0 ≤ e.fd
    · rw [if_pos hfd]
      exact iff_of_false (cons_ne_self e.fd fds) fun h => ho (h hfd)
    · rw [if_neg hfd]
      exact iff_of_true rfl fun h => absurd h hfd

theorem openedFds_eq_nil_iff (type : DeviceType) (dents : List Dirent) :
    openedFds type dents = [] ↔ ∀ e ∈ dents, ¬ e.opened type = true := by
  simp [openedFds]

/-- A device has a descriptor. -/
theorem opened_of_usable {type : DeviceType} {e : Dirent} (h : e.usable type = true) :
    e.opened type = true := by
  simp only [Dirent.usable, Dirent.opens, Bool.and_eq_true] at h
  simp only [Dirent.opened, h.1, h.2.1.1.1, Bool.and_self]

theorem nodes_eq_nil {dri : Dri} {type : DeviceType}
    (h : ∀ e ∈ dri.dents, ¬ e.opened type = true) : dri.nodes type = [] :=
  filter_eq_nil_iff.2 fun e he hu => h e he (opened_of_usable hu)

theorem countBalanced_iff (dri : Dri) (type : DeviceType) :
    CountBalanced dri type ↔ ∀ e ∈ dri.dents, ¬ e.opened type = true := by
  unfold CountBalanced gpuGetDeviceCount gpuListDevices
  by_cases hfit : (dri.nodes type).length ≤ gpuMaxCardSupport
  · obtain ⟨ret, hloop, -⟩ := gpuGetDevicesLoop_start hfit
    rw [hloop, ← openedFds_eq_nil_iff]
    simp
  · rw [gpuGetDevicesLoop_none type dri.dents 0 [] [] (Nat.zero_le _)
      (by simpa [Dri.nodes] using not_le.1 hfit)]
    refine iff_of_false (by simp) fun h => ?_
    rw [nodes_eq_nil h] at hfit
    exact hfit (Nat.zero_le _)

/-! ## The search -/

section Loop

variable {dri : Dri} {domain bus dev func : UInt8}

def deviceAddress (dri : Dri) (d : GpuDevice) : Option Address := dri.ownAddress d.major d.minor

/-- With all keys there, the descriptors of the devices that compare equal stay open, and so do
those the close does not take for one. -/
theorem byBusLoop_open : ∀ {devices : List GpuDevice} (pciInfo : GpuPciInfo)
    (found : Option GpuDevice) {fds rest : List ℤ},
    (∀ device ∈ devices, dri.hasKeys device.major device.minor = true) →
    fds.Perm (devices.map (·.fd) ++ rest) →
      (byBusLoop dri domain bus dev func devices pciInfo found fds).2.Perm
        ((hits (deviceAddress dri) (busAddress domain.toUInt32 bus dev func) devices
            pciInfo.address).map (·.fd)
          ++ (((misses (deviceAddress dri) (busAddress domain.toUInt32 bus dev func) devices
            pciInfo.address).map (·.fd)).filter (· ≤ 0) ++ rest))
  | [], _, _, _, _, _, hfds => hfds
  | device :: devices, pciInfo, found, fds, rest, h, hfds => by
    obtain ⟨hret, haddr⟩ := gpuQueryPciInfo_ok pciInfo (h device (by simp))
    have h' : ∀ device ∈ devices, dri.hasKeys device.major device.minor = true :=
      fun d hd => h d (mem_cons_of_mem _ hd)
    have hkeep : fds.Perm (devices.map (·.fd) ++ device.fd :: rest) :=
      hfds.trans perm_middle.symm
    rw [byBusLoop_cons, if_neg (by simp [hret]), hits, misses, deviceAddress, ← haddr]
    by_cases hm : (gpuQueryPciInfo dri device pciInfo).2.address
        = busAddress domain.toUInt32 bus dev func
    · rw [if_pos hm, if_pos hm, if_pos hm]
      refine (byBusLoop_open _ _ h' hkeep).trans ?_
      rw [nil_append, singleton_append, map_cons, cons_append]
      exact ((perm_middle.append_left _).trans perm_middle)
    · rw [if_neg hm, if_neg hm, if_neg hm, nil_append, singleton_append, map_cons, gpuCloseDevice]
      dsimp only
      split_ifs with hpos
      · rw [filter_cons_of_neg (by simpa using hpos)]
        refine byBusLoop_open _ _ h' ?_
        have := hfds.erase device.fd
        rwa [map_cons, cons_append, erase_cons_head] at this
      · rw [filter_cons_of_pos (by simpa using hpos)]
        refine (byBusLoop_open _ _ h' hkeep).trans ?_
        exact perm_middle.append_left _

/-- A device that cannot be asked is left open. -/
theorem byBusLoop_fails_open : ∀ {devices : List GpuDevice} (pciInfo : GpuPciInfo)
    (found : Option GpuDevice) {fds rest : List ℤ},
    (∃ device ∈ devices, dri.hasKeys device.major device.minor = false) →
    fds.Perm (devices.map (·.fd) ++ rest) →
      (byBusLoop dri domain bus dev func devices pciInfo found fds).2 ≠ []
  | [], _, _, _, _, h, _ => by simp at h
  | device :: devices, pciInfo, found, fds, rest, h, hfds => by
    have hkeep : fds.Perm (devices.map (·.fd) ++ device.fd :: rest) :=
      hfds.trans perm_middle.symm
    rw [byBusLoop_cons]
    by_cases hk : dri.hasKeys device.major device.minor = false
    · rw [if_pos (gpuQueryPciInfo_fails pciInfo hk)]
      rintro rfl
      exact absurd hfds.length_eq (by simp)
    · have h' : ∃ device ∈ devices, dri.hasKeys device.major device.minor = false := by
        obtain ⟨d, hd, hkd⟩ := h
        rcases mem_cons.1 hd with rfl | hd
        · exact absurd hkd hk
        · exact ⟨d, hd, hkd⟩
      rw [if_neg (by simp [(gpuQueryPciInfo_ok pciInfo (Bool.not_eq_false _ ▸ hk)).1])]
      split_ifs
      · exact byBusLoop_fails_open _ _ h' hkeep
      · unfold gpuCloseDevice
        dsimp only
        split_ifs
        · have := hfds.erase device.fd
          rw [map_cons, cons_append, erase_cons_head] at this
          exact byBusLoop_fails_open _ _ h' this
        · exact byBusLoop_fails_open _ _ h' hkeep

end Loop

/-! ## What the search leaves open -/

section Search

variable {dri : Dri} {type : DeviceType}

/-- What the nodes that are no devices leave open. -/
def leakedFds (type : DeviceType) (dents : List Dirent) : List ℤ :=
  ((dents.filter (Dirent.opened type)).filter fun e => !e.usable type).map (·.fd)

theorem leakedFds_eq_nil_iff (dents : List Dirent) :
    leakedFds type dents = [] ↔ ∀ e ∈ dents, e.opened type = true → e.opens = true := by
  simp only [leakedFds, map_eq_nil_iff, filter_eq_nil_iff, mem_filter, and_imp, Bool.not_eq_true',
    Bool.not_eq_false]
  refine forall₂_congr fun e _ => imp_congr_right fun ho => ?_
  simp only [Dirent.opened, Bool.and_eq_true] at ho
  simp [Dirent.usable, ho.1]

theorem openedFds_perm (dri : Dri) (type : DeviceType) : (openedFds type dri.dents).Perm
    ((nodeDevices type 0 (dri.nodes type)).map (·.fd) ++ leakedFds type dri.dents) := by
  have hdevices : (nodeDevices type 0 (dri.nodes type)).map (·.fd)
      = ((dri.dents.filter (Dirent.opened type)).filter (Dirent.usable type)).map (·.fd) := by
    rw [filter_filter, fds_eq (nodeDevices_of type 0 _)]
    refine congrArg _ (filter_congr fun e _ => ?_)
    rcases hu : e.usable type with _ | _
    · rfl
    · rw [opened_of_usable hu]
      rfl
  rw [hdevices, leakedFds, ← map_append]
  exact (reverse_perm _).trans ((filter_append_perm _ _).map _).symm

variable {domain bus dev func : UInt8}

theorem byBus_aborts_open (hfit : (dri.nodes type).length ≤ gpuMaxCardSupport)
    (h : dri.Aborts type) (hopen : openedFds type dri.dents ≠ []) :
    ∃ fds, gpuGetDeviceByBus dri type domain bus dev func = some (none, fds) ∧ fds ≠ [] := by
  by_cases hlist : dri.alloc = true ∧ LastOpens type dri.dents 0
  · have hfail := h.device hlist
    rw [gpuGetDeviceByBus_listed hfit hlist]
    refine ⟨_, congrArg some (Prod.ext (byBusLoop_fails {} none _ hfail) rfl), ?_⟩
    exact byBusLoop_fails_open {} none hfail (openedFds_perm dri type)
  · exact ⟨_, gpuGetDeviceByBus_not_listed hfit hlist domain bus dev func, hopen⟩

theorem byBusBalanced_of_some {r : Option GpuDevice × List ℤ}
    (h : gpuGetDeviceByBus dri type domain bus dev func = some r) :
    ByBusBalanced dri type domain bus dev func ↔ r.2.Perm (r.1.toList.map (·.fd)) := by
  unfold ByBusBalanced
  rw [h]
  exact ⟨fun ⟨_, _, hr, hperm⟩ => Option.some.inj hr ▸ hperm, fun hperm => ⟨_, _, rfl, hperm⟩⟩

theorem byBus_nothing (h : ∀ e ∈ dri.dents, ¬ e.opened type = true) :
    gpuGetDeviceByBus dri type domain bus dev func = some (none, []) := by
  have hnodes := nodes_eq_nil h
  have hfit : (dri.nodes type).length ≤ gpuMaxCardSupport := by
    rw [hnodes]
    exact Nat.zero_le _
  rw [← (openedFds_eq_nil_iff type dri.dents).2 h]
  by_cases hlist : dri.alloc = true ∧ LastOpens type dri.dents 0
  · rw [gpuGetDeviceByBus_listed hfit hlist, hnodes]
    rfl
  · exact gpuGetDeviceByBus_not_listed hfit hlist domain bus dev func

/-- A list whose last element is left has no other. -/
theorem perm_getLast?_iff {δ : Type*} (f : δ → ℤ) (l : List δ) (m : List ℤ) :
    (l.map f ++ m).Perm (l.getLast?.toList.map f) ↔ l.length ≤ 1 ∧ m = [] := by
  constructor
  · intro h
    have hlength := h.length_eq
    rw [length_append, length_map, length_map] at hlength
    rcases l with _ | ⟨d, l⟩
    · exact ⟨Nat.zero_le 1, length_eq_zero_iff.1 (by simpa using hlength)⟩
    · rw [getLast?_cons] at hlength
      simp only [length_cons, Option.toList_some, length_nil] at hlength ⊢
      exact ⟨by omega, length_eq_zero_iff.1 (by omega)⟩
  · rintro ⟨hle, rfl⟩
    rw [append_nil]
    match l, hle with
    | [], _ => exact Perm.nil
    | [d], _ => exact Perm.refl _

/-- A search that does not fail leaves open just the device it returns exactly if there was no
other to leave open. -/
theorem byBus_listed_iff (hfit : (dri.nodes type).length ≤ gpuMaxCardSupport)
    (h : ¬ dri.Aborts type) : ByBusBalanced dri type domain bus dev func ↔
      (∀ e ∈ dri.dents, e.opened type = true → e.opens = true)
      ∧ (hits dri.nodeAddress (busAddress domain.toUInt32 bus dev func) (dri.nodes type)
          (0, 0, 0, 0)).length ≤ 1
      ∧ ∀ e ∈ misses dri.nodeAddress (busAddress domain.toUInt32 bus dev func) (dri.nodes type)
          (0, 0, 0, 0), 0 < e.fd := by
  simp only [Dri.Aborts, not_or, not_not, Bool.not_eq_false, not_exists, not_and] at h
  obtain ⟨ha, hl, hk⟩ := h
  have hkeys := (nodeDevices_keys type (dri.nodes type)).2 hk
  have hfound : (byBusLoop dri domain bus dev func (nodeDevices type 0 (dri.nodes type)) {} none
      (openedFds type dri.dents)).1 = _ := byBusLoop_eq {} none _ hkeys
  have hfds : (byBusLoop dri domain bus dev func (nodeDevices type 0 (dri.nodes type)) {} none
      (openedFds type dri.dents)).2.Perm _ := byBusLoop_open {} none hkeys (openedFds_perm dri type)
  have hrel : Forall₂ GpuDevice.Of
      (hits (deviceAddress dri) (busAddress domain.toUInt32 bus dev func)
        (nodeDevices type 0 (dri.nodes type)) (0, 0, 0, 0))
      (hits dri.nodeAddress (busAddress domain.toUInt32 bus dev func) (dri.nodes type) (0, 0, 0, 0))
      ∧ Forall₂ GpuDevice.Of _ _ := hits_forall₂ (fun d e hde => by
        rw [deviceAddress, Dri.nodeAddress, hde.2.1, hde.2.2]) _ (nodeDevices_of type 0 _)
  obtain ⟨hhits, hmisses⟩ := hrel
  have hstart : ({} : GpuPciInfo).address = (0, 0, 0, 0) := rfl
  rw [Option.or_none, lastMatch_eq_getLast?, hstart] at hfound
  rw [hstart] at hfds
  rw [byBusBalanced_of_some (gpuGetDeviceByBus_listed hfit ⟨ha, hl⟩ domain bus dev func), hfound,
    hfds.congr_left]
  refine (perm_getLast?_iff _ _ _).trans ?_
  rw [append_eq_nil_iff, leakedFds_eq_nil_iff, fds_eq hmisses, hhits.length_eq, filter_eq_nil_iff]
  simp only [mem_map, forall_exists_index, and_imp, forall_apply_eq_imp_iff₂, decide_eq_true_eq,
    not_le]
  constructor
  · rintro ⟨hone, hzero, hall⟩
    exact ⟨hall, hone, hzero⟩
  · rintro ⟨hall, hone, hzero⟩
    exact ⟨hone, hzero, hall⟩

/-- The search leaves open just the device it returns, exactly if `ByBusClean`. -/
theorem byBusBalanced_iff (dri : Dri) (type : DeviceType) (domain bus dev func : UInt8) :
    ByBusBalanced dri type domain bus dev func
      ↔ ByBusClean dri type (busAddress domain.toUInt32 bus dev func) := by
  unfold ByBusClean
  by_cases hopen : ∀ e ∈ dri.dents, ¬ e.opened type = true
  · rw [byBusBalanced_of_some (byBus_nothing hopen)]
    exact iff_of_true Perm.nil (Or.inl hopen)
  rw [or_iff_right hopen]
  by_cases hfit : (dri.nodes type).length ≤ gpuMaxCardSupport
  · by_cases habort : dri.Aborts type
    · refine iff_of_false (fun h => ?_) fun h => h.1 habort
      have hne : openedFds type dri.dents ≠ [] := fun h => hopen ((openedFds_eq_nil_iff _ _).1 h)
      obtain ⟨fds, hres, hfds⟩ := byBus_aborts_open hfit habort hne
      rw [byBusBalanced_of_some hres] at h
      exact hfds (perm_nil.1 h)
    · rw [byBus_listed_iff hfit habort, and_iff_right habort, and_iff_right hfit]
  · refine iff_of_false (fun ⟨found, fds, hres, _⟩ => ?_) fun h => hfit h.2.1
    unfold gpuGetDeviceByBus gpuGetDevices at hres
    rw [gpuGetDevicesLoop_none type dri.dents 0 [] [] (Nat.zero_le _)
      (by simpa [Dri.nodes] using not_le.1 hfit)] at hres
    cases hres

end Search

/-- Each of the three keeps the descriptors balanced exactly under its condition. -/
theorem descriptors_balanced_iff (dri : Dri) (type : DeviceType) (domain bus dev func : UInt8) :
    (∀ e fds, OpenBalanced e fds ↔ (0 ≤ e.fd → e.opens = true))
      ∧ (CountBalanced dri type ↔ ∀ e ∈ dri.dents, ¬ e.opened type = true)
      ∧ (ByBusBalanced dri type domain bus dev func
        ↔ ByBusClean dri type (busAddress domain.toUInt32 bus dev func)) :=
  ⟨openBalanced_iff, countBalanced_iff dri type, byBusBalanced_iff dri type domain bus dev func⟩

section Example

/-- A node that opens, on which `fstat` fails, and two cards at one address. -/
theorem descriptors_unbalanced :
    ¬ OpenBalanced { cardDent 0 with fstat := -1 } []
      ∧ ¬ CountBalanced (twoCards amdUevent) .card
      ∧ ¬ ByBusBalanced (twoCards amdUevent) .card 0 1 0 0 := by
  refine ⟨?_, ?_, ?_⟩
  · rw [openBalanced_iff]
    decide
  · rintro ⟨ret, h⟩
    have hcount : gpuGetDeviceCount (twoCards amdUevent) .card = some (2, [4, 3]) := by decide
    rw [hcount] at h
    cases h
  · rintro ⟨found, fds, h, hperm⟩
    have hfds : (gpuGetDeviceByBus (twoCards amdUevent) .card 0 1 0 0).map (·.2) = some [4, 3] := by
      decide
    rw [h] at hfds
    obtain rfl := Option.some.inj hfds
    rcases found with _ | device
    · exact absurd hperm.length_eq (by decide)
    · exact absurd hperm.length_eq (by simp)

end Example

end Amdtop
