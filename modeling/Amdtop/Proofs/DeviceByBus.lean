import Mathlib.Tactic.Linarith
import Amdtop.Carry
import Amdtop.GpuDevice

/-!
# The device at an address

`gpuGetDevices` lists the nodes that open, and fails when the last node of the type does not
(`gpuGetDevices_eq`). The search over them is a search with one record (`byBusLoop_eq`): a node
without an address of its own is compared by the address of the node before it, and the domain
looked for is the low byte of the one meant.
-/

namespace Amdtop

open Stdio Carry

/-! ## The nodes -/

/-- An entry the listing takes for a node of the type. -/
def Dirent.named (type : DeviceType) (e : Dirent) : Bool :=
  e.name.head? ≠ some '.' && type = getDeviceTypebyName e.name

def Dirent.opens (e : Dirent) : Bool := 0 ≤ e.fd && 0 ≤ e.fstat && e.isChr && drmMajor = e.major

def Dirent.usable (type : DeviceType) (e : Dirent) : Bool := e.named type && e.opens

/-- The nodes of the type that can be opened. -/
def Dri.nodes (dri : Dri) (type : DeviceType) : List Dirent := dri.dents.filter (Dirent.usable type)

/-- The device is the node's. -/
def GpuDevice.Of (device : GpuDevice) (e : Dirent) : Prop :=
  device.fd = e.fd ∧ device.major = e.major ∧ device.minor = e.minor

theorem gpuOpenDevice_ok {e : Dirent} (h : e.opens = true) (fds : List ℤ) :
    gpuOpenDevice e fds = (.ok (e.fd, e.major, e.minor), e.fd :: fds) := by
  simp only [Dirent.opens, Bool.and_eq_true, decide_eq_true_eq] at h
  obtain ⟨⟨⟨h1, h2⟩, h3⟩, h4⟩ := h
  unfold gpuOpenDevice
  rw [if_neg (by omega), if_neg (by omega), if_neg (by simp [h3]), if_neg (by simp [h4])]

/-- A node of the type for which `open` hands out a descriptor. -/
def Dirent.opened (type : DeviceType) (e : Dirent) : Bool := e.named type && 0 ≤ e.fd

/-- Whatever the checks after it say, a descriptor handed out stays open. -/
theorem gpuOpenDevice_error {e : Dirent} (h : e.opens = false) (fds : List ℤ) :
    ∃ ret, gpuOpenDevice e fds = (.error ret, if 0 ≤ e.fd then e.fd :: fds else fds) ∧ ret ≠ 0 := by
  unfold gpuOpenDevice
  by_cases hfd : 0 ≤ e.fd
  · rw [if_neg (not_lt.2 hfd), if_pos hfd]
    split_ifs with h2 h3 h4
    · exact ⟨_, rfl, by omega⟩
    · exact ⟨_, rfl, by decide⟩
    · exact ⟨_, rfl, by decide⟩
    · simp only [Bool.not_eq_true', Bool.not_eq_false, ne_eq, not_not] at h3 h4
      simp [Dirent.opens, h3, ← h4, hfd, not_lt.1 h2] at h
  · rw [if_pos (not_le.1 hfd), if_neg hfd]
    exact ⟨_, rfl, by omega⟩

theorem gpuGetDevicesLoop_skip {type : DeviceType} {e : Dirent} (h : e.named type = false)
    (dents : List Dirent) (ret : ℤ) (devices : List GpuDevice) (fds : List ℤ) :
    gpuGetDevicesLoop type (e :: dents) ret devices fds
      = gpuGetDevicesLoop type dents ret devices fds := by
  rw [gpuGetDevicesLoop]
  by_cases h1 : e.name.head? = some '.'
  · rw [if_pos h1]
  · rw [if_neg h1, if_pos (by simpa [Dirent.named, h1] using h)]

section Named

variable {type : DeviceType} {e : Dirent} (h : e.named type = true) (dents : List Dirent) (ret : ℤ)
  (devices : List GpuDevice) (fds : List ℤ)

include h in
theorem gpuGetDevicesLoop_opens (ho : e.opens = true) (hroom : devices.length < gpuMaxCardSupport) :
    gpuGetDevicesLoop type (e :: dents) ret devices fds = gpuGetDevicesLoop type dents 0
      (devices ++ [⟨e.fd, devices.length, e.major, e.minor, type⟩]) (e.fd :: fds) := by
  simp only [Dirent.named, Bool.and_eq_true, decide_eq_true_eq] at h
  rw [gpuGetDevicesLoop, if_neg h.1, if_neg (by simp [h.2]), gpuOpenDevice_ok ho]
  dsimp only
  rw [if_neg (not_le.2 hroom)]

include h in
theorem gpuGetDevicesLoop_full (ho : e.opens = true) (hfull : gpuMaxCardSupport ≤ devices.length) :
    gpuGetDevicesLoop type (e :: dents) ret devices fds = none := by
  simp only [Dirent.named, Bool.and_eq_true, decide_eq_true_eq] at h
  rw [gpuGetDevicesLoop, if_neg h.1, if_neg (by simp [h.2]), gpuOpenDevice_ok ho]
  exact if_pos hfull

include h in
theorem gpuGetDevicesLoop_error (ho : e.opens = false) :
    ∃ ret' ≠ 0, gpuGetDevicesLoop type (e :: dents) ret devices fds
      = gpuGetDevicesLoop type dents ret' devices (if 0 ≤ e.fd then e.fd :: fds else fds) := by
  simp only [Dirent.named, Bool.and_eq_true, decide_eq_true_eq] at h
  obtain ⟨ret', hopen, hret⟩ := gpuOpenDevice_error ho fds
  rw [gpuGetDevicesLoop, if_neg h.1, if_neg (by simp [h.2]), hopen]
  exact ⟨ret', hret, rfl⟩

end Named

/-- The status of the last node of the type, 0 if there is none. -/
def LastOpens (type : DeviceType) (dents : List Dirent) (ret : ℤ) : Prop :=
  (dents.filter (Dirent.named type)).getLast?.elim (ret = 0) fun e => e.opens = true

theorem lastOpens_cons (type : DeviceType) (e : Dirent) (dents : List Dirent) (ret : ℤ) :
    LastOpens type (e :: dents) ret ↔
      LastOpens type dents (if e.named type then if e.opens then 0 else 1 else ret) := by
  unfold LastOpens
  by_cases h : e.named type = true
  · rw [List.filter_cons_of_pos h, List.getLast?_cons, if_pos h]
    rcases (dents.filter (Dirent.named type)).getLast? with _ | l
    · by_cases ho : e.opens = true <;> simp [ho]
    · simp
  · rw [List.filter_cons_of_neg h, if_neg h]

theorem lastOpens_congr (type : DeviceType) (dents : List Dirent) {r r' : ℤ} (h : r = 0 ↔ r' = 0) :
    LastOpens type dents r ↔ LastOpens type dents r' := by
  unfold LastOpens
  rcases (dents.filter (Dirent.named type)).getLast? with _ | l
  · exact h
  · exact Iff.rfl

/-- The devices of the nodes, numbered from `n` on. -/
def nodeDevices (type : DeviceType) : ℕ → List Dirent → List GpuDevice
  | _, [] => []
  | n, e :: nodes => ⟨e.fd, n, e.major, e.minor, type⟩ :: nodeDevices type (n + 1) nodes

theorem nodeDevices_of (type : DeviceType) : ∀ (n : ℕ) (nodes : List Dirent),
    List.Forall₂ GpuDevice.Of (nodeDevices type n nodes) nodes
  | _, [] => .nil
  | n, _ :: nodes => .cons ⟨rfl, rfl, rfl⟩ (nodeDevices_of type (n + 1) nodes)

/-- The descriptors the nodes of the type leave open, the last first. -/
def openedFds (type : DeviceType) (dents : List Dirent) : List ℤ :=
  ((dents.filter (Dirent.opened type)).map (·.fd)).reverse

theorem openedFds_cons (type : DeviceType) (e : Dirent) (dents : List Dirent) (fds : List ℤ) :
    openedFds type (e :: dents) ++ fds
      = openedFds type dents ++ if e.opened type then e.fd :: fds else fds := by
  unfold openedFds
  by_cases h : e.opened type = true
  · rw [List.filter_cons_of_pos h, if_pos h, List.map_cons, List.reverse_cons, List.append_assoc,
      List.singleton_append]
  · rw [List.filter_cons_of_neg h, if_neg h]

/-- The listing: the nodes that open, in order, the descriptors handed out on the way, and the
status of the last node of the type. -/
theorem gpuGetDevicesLoop_eq (type : DeviceType) :
    ∀ (dents : List Dirent) (ret : ℤ) (devices : List GpuDevice) (fds : List ℤ),
      devices.length + (dents.filter (Dirent.usable type)).length
        ≤ gpuMaxCardSupport →
      ∃ ret', gpuGetDevicesLoop type dents ret devices fds
          = some (ret', devices ++ nodeDevices type devices.length
              (dents.filter (Dirent.usable type)), openedFds type dents ++ fds)
        ∧ (ret' = 0 ↔ LastOpens type dents ret)
  | [], ret, devices, fds, _ =>
    ⟨ret, by simp [gpuGetDevicesLoop, nodeDevices, openedFds], Iff.rfl⟩
  | e :: dents, ret, devices, fds, hfit => by
    rw [openedFds_cons]
    by_cases hn : e.named type = true
    · rw [lastOpens_cons, if_pos hn]
      by_cases ho : e.opens = true
      · have hp : e.usable type = true := by simp [Dirent.usable, hn, ho]
        have hopened : e.opened type = true := by
          simp only [Dirent.opens, Bool.and_eq_true] at ho
          simp only [Dirent.opened, hn, ho.1.1.1, Bool.and_self]
        rw [List.filter_cons_of_pos hp, List.length_cons] at hfit
        rw [gpuGetDevicesLoop_opens hn dents ret devices fds ho (by omega),
          List.filter_cons_of_pos hp, if_pos ho, if_pos hopened]
        obtain ⟨ret', h1, h2⟩ := gpuGetDevicesLoop_eq type dents 0
          (devices ++ [⟨e.fd, devices.length, e.major, e.minor, type⟩]) (e.fd :: fds)
          (by rw [List.length_append, List.length_singleton]; omega)
        rw [List.append_assoc, List.singleton_append, List.length_append,
          List.length_singleton] at h1
        exact ⟨ret', h1, h2⟩
      · have hp : ¬ e.usable type = true := by simp [Dirent.usable, ho]
        rw [List.filter_cons_of_neg hp] at hfit
        obtain ⟨ret₁, hret, hstep⟩ := gpuGetDevicesLoop_error hn dents ret devices fds
          (Bool.not_eq_true _ ▸ ho)
        rw [hstep, List.filter_cons_of_neg hp, if_neg ho]
        obtain ⟨ret', h1, h2⟩ := gpuGetDevicesLoop_eq type dents ret₁ devices
          (if 0 ≤ e.fd then e.fd :: fds else fds) hfit
        refine ⟨ret', ?_, h2.trans (lastOpens_congr type dents (by simp [hret]))⟩
        rw [h1]
        simp only [Dirent.opened, hn, Bool.true_and, decide_eq_true_eq]
    · have hp : ¬ e.usable type = true := by simp [Dirent.usable, hn]
      have hopened : ¬ e.opened type = true := by simp [Dirent.opened, hn]
      rw [List.filter_cons_of_neg hp] at hfit
      rw [gpuGetDevicesLoop_skip (Bool.not_eq_true _ ▸ hn), List.filter_cons_of_neg hp,
        lastOpens_cons, if_neg hn, if_neg hopened]
      exact gpuGetDevicesLoop_eq type dents ret devices fds hfit

/-- A ninth node that opens is written behind the array. -/
theorem gpuGetDevicesLoop_none (type : DeviceType) :
    ∀ (dents : List Dirent) (ret : ℤ) (devices : List GpuDevice) (fds : List ℤ),
      devices.length ≤ gpuMaxCardSupport →
      gpuMaxCardSupport < devices.length + (dents.filter (Dirent.usable type)).length →
      gpuGetDevicesLoop type dents ret devices fds = none
  | [], _, _, _, hle, hover => by
    rw [List.filter_nil, List.length_nil] at hover
    omega
  | e :: dents, ret, devices, fds, hle, hover => by
    by_cases hn : e.named type = true
    · by_cases ho : e.opens = true
      · have hp : e.usable type = true := by simp [Dirent.usable, hn, ho]
        rw [List.filter_cons_of_pos hp, List.length_cons] at hover
        by_cases hfull : gpuMaxCardSupport ≤ devices.length
        · exact gpuGetDevicesLoop_full hn dents ret devices fds ho hfull
        · rw [gpuGetDevicesLoop_opens hn dents ret devices fds ho (not_le.1 hfull)]
          apply gpuGetDevicesLoop_none
          · rw [List.length_append, List.length_singleton]
            omega
          · rw [List.length_append, List.length_singleton]
            omega
      · have hp : ¬ e.usable type = true := by simp [Dirent.usable, ho]
        rw [List.filter_cons_of_neg hp] at hover
        obtain ⟨ret₁, -, hstep⟩ := gpuGetDevicesLoop_error hn dents ret devices fds
          (Bool.not_eq_true _ ▸ ho)
        rw [hstep]
        exact gpuGetDevicesLoop_none type dents ret₁ devices _ hle hover
    · have hp : ¬ e.usable type = true := by simp [Dirent.usable, hn]
      rw [List.filter_cons_of_neg hp] at hover
      rw [gpuGetDevicesLoop_skip (Bool.not_eq_true _ ▸ hn)]
      exact gpuGetDevicesLoop_none type dents ret devices fds hle hover

/-- The loop from the start. -/
theorem gpuGetDevicesLoop_start {dri : Dri} {type : DeviceType}
    (hfit : (dri.nodes type).length ≤ gpuMaxCardSupport) :
    ∃ ret, gpuGetDevicesLoop type dri.dents 0 [] [] = some (ret,
        nodeDevices type 0 (dri.nodes type), openedFds type dri.dents)
      ∧ (ret = 0 ↔ LastOpens type dri.dents 0) := by
  obtain ⟨ret, h1, h2⟩ := gpuGetDevicesLoop_eq type dri.dents 0 [] []
    (by simpa [Dri.nodes] using hfit)
  rw [List.nil_append, List.append_nil] at h1
  exact ⟨ret, h1, h2⟩

theorem gpuGetDevices_eq {dri : Dri} {type : DeviceType}
    (hfit : (dri.nodes type).length ≤ gpuMaxCardSupport) :
    ∃ ret devices, gpuGetDevices dri type = some (ret, devices, openedFds type dri.dents)
      ∧ (ret = 0 ↔ dri.alloc = true ∧ LastOpens type dri.dents 0)
      ∧ (ret = 0 → devices = nodeDevices type 0 (dri.nodes type)) := by
  obtain ⟨ret, h1, h2⟩ := gpuGetDevicesLoop_start hfit
  unfold gpuGetDevices
  rw [h1]
  by_cases ha : dri.alloc = true
  · exact ⟨ret, _, by simp [ha], by simp [ha, h2], fun _ => rfl⟩
  · exact ⟨-enomem, [], by simp [ha], by simp [ha, enomem], fun h => absurd h (by decide)⟩

/-! ## Addresses -/

def GpuPciInfo.address (pciInfo : GpuPciInfo) : Address :=
  (pciInfo.domain, pciInfo.bus, pciInfo.dev, pciInfo.func)

/-- The value of a key in a node's own `uevent`. -/
def Dri.value (dri : Dri) (major minor : ℕ) (key : String) : Option (List Char) :=
  (dri.uevent major minor).bind (ueventValue key.toList)

def Dri.ownAddress (dri : Dri) (major minor : ℕ) : Option Address :=
  (dri.value major minor "PCI_SLOT_NAME").bind slotAddress

/-- The keys a query asks for are all there. -/
def Dri.hasKeys (dri : Dri) (major minor : ℕ) : Bool :=
  (dri.value major minor "PCI_SLOT_NAME").isSome && (dri.value major minor "PCI_ID").isSome
    && (dri.value major minor "PCI_SUBSYS_ID").isSome

theorem sysfsGetUevent_some {dri : Dri} {device : GpuDevice} {key : String} {value : List Char}
    (h : dri.value device.major device.minor key = some value) :
    sysfsGetUevent dri device key = .ok value := by
  obtain ⟨text, htext, hvalue⟩ := Option.bind_eq_some_iff.1 h
  unfold sysfsGetUevent
  rw [htext]
  dsimp only
  rw [hvalue]

theorem sysfsGetUevent_none {dri : Dri} {device : GpuDevice} {key : String}
    (h : dri.value device.major device.minor key = none) :
    ∃ ret, sysfsGetUevent dri device key = .error ret ∧ ret ≠ 0 := by
  unfold Dri.value at h
  unfold sysfsGetUevent
  rcases htext : dri.uevent device.major device.minor with _ | text
  · exact ⟨-eio, rfl, by decide⟩
  · rw [htext, Option.bind_some] at h
    dsimp only
    rw [h]
    exact ⟨-einval, rfl, by decide⟩

theorem scanSlot_address (pciInfo : GpuPciInfo) (value : List Char) :
    (pciInfo.scanSlot value).address = (slotAddress value).getD pciInfo.address := by
  unfold GpuPciInfo.scanSlot
  rcases slotAddress value with _ | ⟨domain, bus, dev, func⟩ <;> rfl

theorem scanId_address (pciInfo : GpuPciInfo) (value : List Char) :
    (pciInfo.scanId value).address = pciInfo.address := by
  unfold GpuPciInfo.scanId
  split <;> rfl

theorem scanSubsysId_address (pciInfo : GpuPciInfo) (value : List Char) :
    (pciInfo.scanSubsysId value).address = pciInfo.address := by
  unfold GpuPciInfo.scanSubsysId
  split <;> rfl

theorem gpuQueryPciInfo_fails {dri : Dri} {device : GpuDevice} (pciInfo : GpuPciInfo)
    (h : dri.hasKeys device.major device.minor = false) :
    (gpuQueryPciInfo dri device pciInfo).1 ≠ 0 := by
  unfold Dri.hasKeys at h
  unfold gpuQueryPciInfo
  rcases h1 : dri.value device.major device.minor "PCI_SLOT_NAME" with _ | slot
  · obtain ⟨ret, hs, hret⟩ := sysfsGetUevent_none h1
    rw [hs]
    exact hret
  rw [sysfsGetUevent_some h1]
  rcases h2 : dri.value device.major device.minor "PCI_ID" with _ | ids
  · obtain ⟨ret, hs, hret⟩ := sysfsGetUevent_none h2
    rw [hs]
    exact hret
  rw [sysfsGetUevent_some h2]
  rcases h3 : dri.value device.major device.minor "PCI_SUBSYS_ID" with _ | subs
  · obtain ⟨ret, hs, hret⟩ := sysfsGetUevent_none h3
    rw [hs]
    exact hret
  · rw [h1, h2, h3] at h
    cases h

theorem gpuQueryPciInfo_ok {dri : Dri} {device : GpuDevice} (pciInfo : GpuPciInfo)
    (h : dri.hasKeys device.major device.minor = true) :
    (gpuQueryPciInfo dri device pciInfo).1 = 0 ∧ (gpuQueryPciInfo dri device pciInfo).2.address
      = (dri.ownAddress device.major device.minor).getD pciInfo.address := by
  simp only [Dri.hasKeys, Bool.and_eq_true, Option.isSome_iff_exists] at h
  obtain ⟨⟨⟨slot, h1⟩, ids, h2⟩, subs, h3⟩ := h
  unfold gpuQueryPciInfo Dri.ownAddress
  rw [sysfsGetUevent_some h1, sysfsGetUevent_some h2, sysfsGetUevent_some h3, h1]
  exact ⟨rfl, by rw [scanSubsysId_address, scanId_address, scanSlot_address, Option.bind_some]⟩

/-! ## The search -/

/-- The four numbers a search compares. -/
def busAddress (domain : UInt32) (bus dev func : UInt8) : Address :=
  (domain, bus.toUInt32, dev.toUInt32, func.toUInt32)

/-- The search passes over the low byte of the domain. -/
theorem narrow_eq_iff {domain : UInt16} {bus dev func : UInt8} :
    busAddress domain.toUInt8.toUInt32 bus dev func = busAddress domain.toUInt32 bus dev func
      ↔ domain.toNat < 256 := by
  simp only [busAddress, Prod.mk.injEq, and_true, ← UInt32.toNat_inj, UInt8.toNat_toUInt32,
    UInt16.toNat_toUInt8, UInt16.toNat_toUInt32]
  omega

section Loop

variable {dri : Dri} {domain bus dev func : UInt8}

/-- One pass of the search. -/
theorem byBusLoop_cons (device : GpuDevice) (devices : List GpuDevice) (pciInfo : GpuPciInfo)
    (found : Option GpuDevice) (fds : List ℤ) :
    byBusLoop dri domain bus dev func (device :: devices) pciInfo found fds =
      if (gpuQueryPciInfo dri device pciInfo).1 ≠ 0 then (none, fds)
      else if (gpuQueryPciInfo dri device pciInfo).2.address
          = busAddress domain.toUInt32 bus dev func then
        byBusLoop dri domain bus dev func devices (gpuQueryPciInfo dri device pciInfo).2
          (some device) fds
      else byBusLoop dri domain bus dev func devices (gpuQueryPciInfo dri device pciInfo).2 found
        (gpuCloseDevice device fds).2 := by
  rw [byBusLoop]
  simp only [GpuPciInfo.address, busAddress, Prod.mk.injEq]
  rfl

theorem byBusLoop_fails : ∀ {devices : List GpuDevice} (pciInfo : GpuPciInfo)
    (found : Option GpuDevice) (fds : List ℤ),
    (∃ device ∈ devices, dri.hasKeys device.major device.minor = false) →
      (byBusLoop dri domain bus dev func devices pciInfo found fds).1 = none
  | [], _, _, _, h => by simp at h
  | device :: devices, pciInfo, found, fds, h => by
    rw [byBusLoop_cons]
    by_cases hk : dri.hasKeys device.major device.minor = false
    · rw [if_pos (gpuQueryPciInfo_fails pciInfo hk)]
    · have h' : ∃ device ∈ devices, dri.hasKeys device.major device.minor = false := by
        obtain ⟨d, hd, hkd⟩ := h
        rcases List.mem_cons.1 hd with rfl | hd
        · exact absurd hkd hk
        · exact ⟨d, hd, hkd⟩
      split_ifs
      · rfl
      · exact byBusLoop_fails _ _ _ h'
      · exact byBusLoop_fails _ _ _ h'

/-- With all keys there, the search is the one with a single record. -/
theorem byBusLoop_eq : ∀ {devices : List GpuDevice} (pciInfo : GpuPciInfo)
    (found : Option GpuDevice) (fds : List ℤ),
    (∀ device ∈ devices, dri.hasKeys device.major device.minor = true) →
      (byBusLoop dri domain bus dev func devices pciInfo found fds).1
        = (lastMatch (fun d : GpuDevice => dri.ownAddress d.major d.minor)
            (busAddress domain.toUInt32 bus dev func) devices pciInfo.address).or found
  | [], _, _, _, _ => by simp [byBusLoop, lastMatch]
  | device :: devices, pciInfo, found, fds, h => by
    obtain ⟨hret, haddr⟩ := gpuQueryPciInfo_ok pciInfo (h device (by simp))
    have h' : ∀ device ∈ devices, dri.hasKeys device.major device.minor = true :=
      fun d hd => h d (List.mem_cons_of_mem _ hd)
    rw [byBusLoop_cons, lastMatch, if_neg (by simp [hret]), ← haddr]
    by_cases hm : (gpuQueryPciInfo dri device pciInfo).2.address
        = busAddress domain.toUInt32 bus dev func
    · rw [if_pos hm, byBusLoop_eq _ _ _ h', if_pos hm, Option.or_assoc, Option.some_or]
    · rw [if_neg hm, byBusLoop_eq _ _ _ h', if_neg hm, Option.or_none]

end Loop

/-! ## What is found -/

section Found

variable {dri : Dri} {type : DeviceType}

def Dri.addresses (dri : Dri) (type : DeviceType) : List (Option Address) :=
  (dri.nodes type).map fun e => dri.ownAddress e.major e.minor

/-- The search ends with nothing: the array cannot be had, the last node of the type does not
open, or a node that does lacks a key. -/
def Dri.Aborts (dri : Dri) (type : DeviceType) : Prop :=
  dri.alloc = false ∨ ¬ LastOpens type dri.dents 0
    ∨ ∃ e ∈ dri.nodes type, dri.hasKeys e.major e.minor = false

/-- A device is returned exactly when a node has the address, and it is such a node's. -/
def FoundByBus (dri : Dri) (type : DeviceType) (a : Address)
    (r : Option (Option GpuDevice × List ℤ)) : Prop :=
  ∃ found fds, r = some (found, fds) ∧ (found.isSome = true ↔ some a ∈ dri.addresses type)
    ∧ ∀ device ∈ found, ∃ e ∈ dri.nodes type,
        device.Of e ∧ dri.ownAddress e.major e.minor = some a

/-- What it takes for the search to find the node at an address, or to find none. -/
def SearchRight (dri : Dri) (type : DeviceType) (domain : UInt16) (bus dev func : UInt8) : Prop :=
  if some (busAddress domain.toUInt32 bus dev func) ∈ dri.addresses type then
    domain.toNat < 256 ∧ ¬ dri.Aborts type ∧ ((dri.addresses type).rtakeWhile
      (· ≠ some (busAddress domain.toUInt32 bus dev func))).head? ≠ some none
  else dri.Aborts type ∨ some (busAddress domain.toUInt8.toUInt32 bus dev func) ∉ dri.addresses type
    ∧ ¬ ((0, 0, 0, 0) = busAddress domain.toUInt8.toUInt32 bus dev func
      ∧ (dri.addresses type).head? = some none)

theorem of_forall₂ (dri : Dri) : ∀ {devices : List GpuDevice} {nodes : List Dirent},
    List.Forall₂ GpuDevice.Of devices nodes →
      (devices.map fun d => dri.ownAddress d.major d.minor)
          = (nodes.map fun e => dri.ownAddress e.major e.minor)
        ∧ (∀ d ∈ devices, ∃ e ∈ nodes, d.Of e) ∧ ∀ e ∈ nodes, ∃ d ∈ devices, d.Of e
  | [], [], .nil => by simp
  | d :: devices, e :: nodes, .cons hd h => by
    obtain ⟨h1, h2, h3⟩ := of_forall₂ dri h
    refine ⟨by rw [List.map_cons, List.map_cons, h1, hd.2.1, hd.2.2], ?_, ?_⟩
    · intro d' hd'
      rcases List.mem_cons.1 hd' with rfl | hd'
      · exact ⟨e, by simp, hd⟩
      · obtain ⟨e', he', hof⟩ := h2 d' hd'
        exact ⟨e', List.mem_cons_of_mem _ he', hof⟩
    · intro e' he'
      rcases List.mem_cons.1 he' with rfl | he'
      · exact ⟨d, by simp, hd⟩
      · obtain ⟨d', hd', hof⟩ := h3 e' he'
        exact ⟨d', List.mem_cons_of_mem _ hd', hof⟩

/-- Where the listing fails, nothing is found, and what was opened stays open. -/
theorem gpuGetDeviceByBus_not_listed (hfit : (dri.nodes type).length ≤ gpuMaxCardSupport)
    (h : ¬ (dri.alloc = true ∧ LastOpens type dri.dents 0)) (domain bus dev func : UInt8) :
    gpuGetDeviceByBus dri type domain bus dev func = some (none, openedFds type dri.dents) := by
  obtain ⟨ret, devices, hget, hret, -⟩ := gpuGetDevices_eq hfit
  unfold gpuGetDeviceByBus
  rw [hget]
  exact if_pos fun h0 => h (hret.1 h0)

theorem gpuGetDeviceByBus_listed (hfit : (dri.nodes type).length ≤ gpuMaxCardSupport)
    (h : dri.alloc = true ∧ LastOpens type dri.dents 0) (domain bus dev func : UInt8) :
    gpuGetDeviceByBus dri type domain bus dev func
      = some (byBusLoop dri domain bus dev func (nodeDevices type 0 (dri.nodes type)) {} none
          (openedFds type dri.dents)) := by
  obtain ⟨ret, devices, hget, hret, hdevices⟩ := gpuGetDevices_eq hfit
  unfold gpuGetDeviceByBus
  rw [hget, hdevices (hret.2 h)]
  exact if_neg (not_not.2 (hret.2 h))

theorem nodeDevices_keys (type : DeviceType) (nodes : List Dirent) :
    (∀ d ∈ nodeDevices type 0 nodes, dri.hasKeys d.major d.minor = true)
      ↔ ∀ e ∈ nodes, dri.hasKeys e.major e.minor = true := by
  obtain ⟨-, hof, hnode⟩ := of_forall₂ dri (nodeDevices_of type 0 nodes)
  constructor
  · intro h e he
    obtain ⟨d, hd, hde⟩ := hnode e he
    rw [← hde.2.1, ← hde.2.2]
    exact h d hd
  · intro h d hd
    obtain ⟨e, he, hde⟩ := hof d hd
    rw [hde.2.1, hde.2.2]
    exact h e he

theorem nodeDevices_fails {type : DeviceType} {nodes : List Dirent} {e : Dirent} (he : e ∈ nodes)
    (hk : dri.hasKeys e.major e.minor = false) :
    ∃ d ∈ nodeDevices type 0 nodes, dri.hasKeys d.major d.minor = false := by
  obtain ⟨-, -, hnode⟩ := of_forall₂ dri (nodeDevices_of type 0 nodes)
  obtain ⟨d, hd, hde⟩ := hnode e he
  rw [← hde.2.1, ← hde.2.2] at hk
  exact ⟨d, hd, hk⟩

/-- Where the listing succeeds, it is a device without its keys that ends the search. -/
theorem Dri.Aborts.device (h : dri.Aborts type)
    (hlist : dri.alloc = true ∧ LastOpens type dri.dents 0) :
    ∃ d ∈ nodeDevices type 0 (dri.nodes type), dri.hasKeys d.major d.minor = false := by
  rcases h with h | h | ⟨e, he, hk⟩
  · rw [hlist.1] at h
    cases h
  · exact absurd hlist.2 h
  · exact nodeDevices_fails he hk

theorem gpuGetDeviceByBus_aborts (hfit : (dri.nodes type).length ≤ gpuMaxCardSupport)
    (h : dri.Aborts type) (domain bus dev func : UInt8) :
    ∃ fds, gpuGetDeviceByBus dri type domain bus dev func = some (none, fds) := by
  by_cases hlist : dri.alloc = true ∧ LastOpens type dri.dents 0
  · rw [gpuGetDeviceByBus_listed hfit hlist]
    exact ⟨_, congrArg some (Prod.ext (byBusLoop_fails {} none _ (h.device hlist)) rfl)⟩
  · exact ⟨_, gpuGetDeviceByBus_not_listed hfit hlist domain bus dev func⟩

theorem gpuGetDeviceByBus_eq (hfit : (dri.nodes type).length ≤ gpuMaxCardSupport)
    (h : ¬ dri.Aborts type) (domain bus dev func : UInt8) :
    ∃ devices fds, List.Forall₂ GpuDevice.Of devices (dri.nodes type)
      ∧ gpuGetDeviceByBus dri type domain bus dev func
        = some (lastMatch (fun d : GpuDevice => dri.ownAddress d.major d.minor)
            (busAddress domain.toUInt32 bus dev func) devices (0, 0, 0, 0), fds) := by
  simp only [Dri.Aborts, not_or, not_not, Bool.not_eq_false, not_exists, not_and] at h
  obtain ⟨ha, hl, hk⟩ := h
  have hloop : (byBusLoop dri domain bus dev func (nodeDevices type 0 (dri.nodes type)) {} none
      (openedFds type dri.dents)).1 = _ := byBusLoop_eq {} none _ ((nodeDevices_keys type _).2 hk)
  rw [Option.or_none] at hloop
  rw [gpuGetDeviceByBus_listed hfit ⟨ha, hl⟩]
  exact ⟨_, _, nodeDevices_of type 0 _, congrArg some (Prod.ext hloop rfl)⟩

theorem foundByBus_iff {devices : List GpuDevice} {a t : Address} {fds : List ℤ}
    (h : List.Forall₂ GpuDevice.Of devices (dri.nodes type)) (b : Address) :
    FoundByBus dri type a (some (lastMatch (fun d : GpuDevice => dri.ownAddress d.major d.minor) t
        devices b, fds)) ↔
      ((lastMatch (fun d : GpuDevice => dri.ownAddress d.major d.minor) t devices b).isSome = true
        ↔ some a ∈ dri.addresses type) ∧
      ∀ d, lastMatch (fun d : GpuDevice => dri.ownAddress d.major d.minor) t devices b = some d →
        dri.ownAddress d.major d.minor = some a := by
  obtain ⟨-, hof, -⟩ := of_forall₂ dri h
  unfold FoundByBus
  constructor
  · rintro ⟨found, fds', hres, hsome, hown⟩
    obtain ⟨rfl, rfl⟩ := Prod.mk.injEq .. ▸ Option.some.inj hres
    refine ⟨hsome, fun d hd => ?_⟩
    obtain ⟨e, -, hde, he⟩ := hown d hd
    rwa [hde.2.1, hde.2.2]
  · rintro ⟨hsome, hown⟩
    refine ⟨_, fds, rfl, hsome, fun d hd => ?_⟩
    obtain ⟨e, he, hde⟩ := hof d (lastMatch_mem hd)
    have := hown d hd
    rw [hde.2.1, hde.2.2] at this
    exact ⟨e, he, hde, this⟩

section Answer

variable {devices : List GpuDevice} (hof : List.Forall₂ GpuDevice.Of devices (dri.nodes type))
  {domain : UInt16} {bus dev func : UInt8} (fds : List ℤ)

include hof in
/-- Where a node has the address: the last match must be one that has it. -/
theorem found_of_mem
    (hmem : some (busAddress domain.toUInt32 bus dev func) ∈ dri.addresses type) :
    FoundByBus dri type (busAddress domain.toUInt32 bus dev func)
        (some (lastMatch (fun d : GpuDevice => dri.ownAddress d.major d.minor)
          (busAddress domain.toUInt8.toUInt32 bus dev func) devices (0, 0, 0, 0), fds))
      ↔ domain.toNat < 256 ∧ ((dri.addresses type).rtakeWhile
        (· ≠ some (busAddress domain.toUInt32 bus dev func))).head? ≠ some none := by
  have haddr : _ = dri.addresses type := (of_forall₂ dri hof).1
  have hfound : some (busAddress domain.toUInt32 bus dev func)
      ∈ devices.map fun d => dri.ownAddress d.major d.minor := by
    rwa [haddr]
  rw [foundByBus_iff hof]
  simp only [hmem, iff_true]
  by_cases hdom : domain.toNat < 256
  · have hlast := own_lastMatch_iff (a := (0, 0, 0, 0)) hfound
    rw [haddr] at hlast
    rw [narrow_eq_iff.2 hdom, and_iff_right hdom]
    refine Iff.trans ⟨?_, ?_⟩ hlast
    · rintro ⟨hsome, hown⟩
      obtain ⟨d, hd⟩ := Option.isSome_iff_exists.1 hsome
      exact ⟨d, hd, hown d hd⟩
    · rintro ⟨d, hd, hown⟩
      refine ⟨by rw [hd]; rfl, fun d' hd' => ?_⟩
      rw [hd] at hd'
      rwa [← Option.some.inj hd']
  · refine iff_of_false ?_ fun h => hdom h.1
    rintro ⟨hsome, hown⟩
    obtain ⟨d, hd⟩ := Option.isSome_iff_exists.1 hsome
    rcases own_of_lastMatch hd with h | h
    · exact hdom (narrow_eq_iff.1 (Option.some.inj (h.symm.trans (hown d hd))))
    · have := hown d hd
      rw [h] at this
      cases this

include hof in
/-- Where none has it: nothing must match the narrowed address. -/
theorem found_of_not_mem
    (hmem : some (busAddress domain.toUInt32 bus dev func) ∉ dri.addresses type) :
    FoundByBus dri type (busAddress domain.toUInt32 bus dev func)
        (some (lastMatch (fun d : GpuDevice => dri.ownAddress d.major d.minor)
          (busAddress domain.toUInt8.toUInt32 bus dev func) devices (0, 0, 0, 0), fds))
      ↔ some (busAddress domain.toUInt8.toUInt32 bus dev func) ∉ dri.addresses type
        ∧ ¬ ((0, 0, 0, 0) = busAddress domain.toUInt8.toUInt32 bus dev func
          ∧ (dri.addresses type).head? = some none) := by
  have hnone : lastMatch (fun d : GpuDevice => dri.ownAddress d.major d.minor)
      (busAddress domain.toUInt8.toUInt32 bus dev func) devices (0, 0, 0, 0) = none ↔ _ :=
    lastMatch_eq_none_iff
  rw [(of_forall₂ dri hof).1] at hnone
  rw [foundByBus_iff hof]
  simp only [hmem, iff_false]
  refine Iff.trans ⟨?_, ?_⟩ hnone
  · rintro ⟨hsome, -⟩
    exact Option.not_isSome_iff_eq_none.1 hsome
  · intro h
    rw [h]
    simp

end Answer

/-- The search returns the node at the address, or none, exactly under `SearchRight`. -/
theorem device_by_bus_iff (dri : Dri) (domain : UInt16) (bus dev func : UInt8)
    (hfit : (dri.nodes .card).length ≤ gpuMaxCardSupport) :
    FoundByBus dri .card (busAddress domain.toUInt32 bus dev func)
        (gpuGetDeviceByBus dri .card domain.toUInt8 bus dev func)
      ↔ SearchRight dri .card domain bus dev func := by
  unfold SearchRight
  by_cases habort : dri.Aborts .card
  · obtain ⟨fds, hres⟩ := gpuGetDeviceByBus_aborts hfit habort domain.toUInt8 bus dev func
    simp only [FoundByBus, hres, habort, not_true_eq_false, false_and, and_false, true_or]
    split_ifs with hmem <;> simp [hmem]
  obtain ⟨devices, fds, hof, hres⟩ := gpuGetDeviceByBus_eq hfit habort domain.toUInt8 bus dev func
  rw [hres]
  split_ifs with hmem
  · rw [found_of_mem hof fds hmem, and_iff_right habort]
  · rw [found_of_not_mem hof fds hmem, or_iff_right habort]

end Found

section Example

def amdUevent : List Char :=
  "PCI_ID=1002:67DF\nPCI_SUBSYS_ID=1002:0B37\nPCI_SLOT_NAME=0000:01:00.0\n".toList

def cardDent (n : ℕ) : Dirent := ⟨"card".toList ++ decimal n, 3 + n, 0, true, 226, n⟩

/-- Two cards, of which the first is no PCI device or both are. -/
def twoCards (first : List Char) : Dri where
  dents := [cardDent 0, cardDent 1]
  uevent _ minor := if minor = 0 then some first else some amdUevent
  alloc := true

theorem device_by_bus_two :
    FoundByBus (twoCards amdUevent) .card (busAddress 0 1 0 0)
        (gpuGetDeviceByBus (twoCards amdUevent) .card 0 1 0 0)
      ↔ SearchRight (twoCards amdUevent) .card 0 1 0 0 :=
  device_by_bus_iff (twoCards amdUevent) 0 1 0 0 (by decide)

set_option maxRecDepth 4000 in
/-- The first card has no `PCI_SLOT_NAME`, and the second, at the address, is not looked at. -/
theorem device_by_bus_platform_card :
    ((twoCards "DRIVER=vgem\n".toList).nodes .card).length ≤ gpuMaxCardSupport ∧
      ¬ FoundByBus (twoCards "DRIVER=vgem\n".toList) .card (busAddress 0 1 0 0)
        (gpuGetDeviceByBus (twoCards "DRIVER=vgem\n".toList) .card 0 1 0 0) := by
  refine ⟨by decide, ?_⟩
  have hres : gpuGetDeviceByBus (twoCards "DRIVER=vgem\n".toList) .card 0 1 0 0
      = some (none, [4, 3]) := by decide
  have haddr : (twoCards "DRIVER=vgem\n".toList).addresses .card = [none, some (0, 1, 0, 0)] := by
    decide
  have hmem : some (busAddress 0 1 0 0) ∈ (twoCards "DRIVER=vgem\n".toList).addresses .card := by
    rw [haddr]
    exact List.mem_cons_of_mem _ (List.mem_singleton.2 rfl)
  rintro ⟨found, fds, h, hsome, -⟩
  rw [hres] at h
  obtain rfl : none = found := congrArg Prod.fst (Option.some.inj h)
  exact absurd (hsome.2 hmem) (by simp)

end Example

end Amdtop
