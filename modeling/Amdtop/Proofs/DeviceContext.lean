import Amdtop.DeviceContext
import Amdtop.Proofs.Heap

/-!
# Which devices are recorded and freed

`initDevices` records the display devices up to the first that fails (`upToFailure`), if there are
slots for them (`initDevices_fits`), and otherwise writes outside `devs`. `FreeDevice` lowers the
bound of the loop that calls it, so about half of the devices are freed (`freeDevices_frees`).
-/

namespace Amdtop

open Heap

/-! ## Slots -/

section Slots

variable {dctx dctx' : DeviceContext} {i : ℕ} {device : Option Device}

theorem store_some (dctx : DeviceContext) (device : Option Device) (h : i < gpuMaxCardSupport) :
    dctx.store i device = some { dctx with devs := dctx.devs.set i device h } := dif_pos h

theorem store_none (dctx : DeviceContext) (device : Option Device) (h : gpuMaxCardSupport ≤ i) :
    dctx.store i device = none := dif_neg (Nat.not_lt.2 h)

theorem slot_store (h : dctx.store i device = some dctx') (j : ℕ) :
    dctx'.slot j = if i = j then device else dctx.slot j := by
  unfold DeviceContext.store at h
  split_ifs at h with hi
  obtain rfl := Option.some.inj h
  unfold DeviceContext.slot
  rw [Vector.getElem?_set hi]
  split_ifs <;> rfl

theorem slot_put (dctx : DeviceContext) {i : ℕ} (h : i < gpuMaxCardSupport) (device : Device)
    (j : ℕ) : (dctx.put i device).slot j = if i = j then some device else dctx.slot j := by
  unfold DeviceContext.put DeviceContext.slot
  rw [Vector.getElem?_setIfInBounds, if_pos h]
  split_ifs <;> rfl

theorem slot_of_le (dctx : DeviceContext) (h : gpuMaxCardSupport ≤ i) : dctx.slot i = none := by
  unfold DeviceContext.slot
  rw [Vector.getElem?_eq_none h]
  rfl

theorem lt_of_slot {dctx : DeviceContext} {i : ℕ} {device : Device}
    (h : dctx.slot i = some device) : i < gpuMaxCardSupport := by
  by_contra hle
  rw [slot_of_le _ (Nat.not_lt.1 hle)] at h
  cases h

theorem slot_of_index {dctx : DeviceContext} {i : ℕ} {device : Device}
    (h : getDeviceByIndex dctx i = some device) : dctx.slot i = some device := by
  unfold getDeviceByIndex at h
  split_ifs at h
  exact h

theorem getDeviceByIndex_put {dctx : DeviceContext} {i j : ℕ} (h : i < gpuMaxCardSupport)
    (device : Device) (hj : getDeviceByIndex dctx j ≠ none) :
    getDeviceByIndex (dctx.put i device) j ≠ none := by
  unfold getDeviceByIndex at hj ⊢
  rw [slot_put dctx h]
  change (if dctx.deviceCount = 0 ∨ dctx.deviceCount ≤ j then none else _) ≠ none
  by_cases hout : dctx.deviceCount = 0 ∨ dctx.deviceCount ≤ j
  · exact absurd (if_pos hout) hj
  · rw [if_neg hout] at hj ⊢
    split_ifs
    · exact Option.some_ne_none device
    · exact hj

theorem slot_start (addr i : ℕ) : ({ addr } : DeviceContext).slot i = none := by
  unfold DeviceContext.slot
  rw [Vector.getElem?_replicate]
  split_ifs <;> rfl

/-- Which slots have a loaded device. -/
def DeviceContext.loaded (dctx : DeviceContext) (i : ℕ) : Bool :=
  (dctx.slot i).any (·.driverisLoaded)

theorem loaded_put {dctx : DeviceContext} {i : ℕ} (h : i < gpuMaxCardSupport) (device : Device) :
    (dctx.put i device).loaded = Function.update dctx.loaded i device.driverisLoaded := by
  funext j
  unfold DeviceContext.loaded
  rw [slot_put dctx h, Function.update_apply]
  rcases eq_or_ne i j with rfl | hij
  · simp
  · simp [hij, hij.symm]

end Slots

/-! ## Devices -/

theorem UpdateDeviceInfo_frame (answer : Probe) (device : Device) :
    (UpdateDeviceInfo answer device).2.addr = device.addr
      ∧ (UpdateDeviceInfo answer device).2.id = device.id
      ∧ (UpdateDeviceInfo answer device).2.pdev = device.pdev := by
  unfold UpdateDeviceInfo
  dsimp only
  split_ifs <;> exact ⟨rfl, rfl, rfl⟩

/-- The device `InitDevice` has when it looks for a driver. -/
def Device.named (device : Device) (answer : InitAnswer) : Device :=
  { ({ device with vendorType := .amd } : Device).copyPci with
    irq := answer.irq.2, deviceName := answer.deviceName, vendorName := answer.vendorName }

section InitDevice

variable (answer : InitAnswer) {device : Device}

theorem InitDevice_other (h : device.pdev.vendorId ≠ vendorAmd) :
    InitDevice answer device = (0, { device with vendorType := .unknow }) := by
  simp [InitDevice, h]

theorem InitDevice_amd (h : device.pdev.vendorId = vendorAmd) :
    InitDevice answer device = if answer.irq.1 ≠ 0 then
        (answer.irq.1, ({ device with vendorType := .amd } : Device).copyPci)
      else if answer.hasKernelDriver then UpdateDeviceInfo answer.update (device.named answer)
      else (0, device.named answer) := by
  simp [InitDevice, h, Device.named]

variable (device) in
theorem InitDevice_frame :
    (InitDevice answer device).2.addr = device.addr ∧ (InitDevice answer device).2.id = device.id
      ∧ (InitDevice answer device).2.pdev = device.pdev := by
  by_cases h : device.pdev.vendorId = vendorAmd
  · rw [InitDevice_amd answer h]
    split_ifs
    · exact ⟨rfl, rfl, rfl⟩
    · exact UpdateDeviceInfo_frame _ _
    · exact ⟨rfl, rfl, rfl⟩
  · rw [InitDevice_other answer h]
    exact ⟨rfl, rfl, rfl⟩

end InitDevice

theorem UpdateDeviceInfo_fst (answer : Probe) (device : Device) :
    (UpdateDeviceInfo answer device).1 = if answer.driver.1 ≠ 0 then answer.driver.1
      else if answer.card.isNone then -eacces else answer.driver.1 := by
  unfold UpdateDeviceInfo
  dsimp only
  split_ifs <;> rfl

/-- The driver's name can be read, and the card is found. -/
def Probe.succeeds (answer : Probe) : Bool := answer.driver.1 = 0 && answer.card.isSome

section Update

variable {answer : Probe} {device : Device}

theorem UpdateDeviceInfo_fst_iff (answer : Probe) (device : Device) :
    (UpdateDeviceInfo answer device).1 = 0 ↔ answer.succeeds = true := by
  rw [UpdateDeviceInfo_fst, Probe.succeeds, Bool.and_eq_true, decide_eq_true_iff]
  rcases hcard : answer.card with _ | card
  · split_ifs with hret
    · exact iff_of_false hret fun h => hret h.1
    · exact iff_of_false (show (-eacces : ℤ) ≠ 0 by decide) fun h => nomatch h.2
    · exact absurd rfl ‹_›
  · split_ifs with hret
    · exact iff_of_false hret fun h => hret h.1
    · exact absurd ‹_› (by simp)
    · exact iff_of_true (not_not.1 hret) ⟨not_not.1 hret, rfl⟩

theorem UpdateDeviceInfo_isLoaded (h : device.driverisLoaded = false) :
    (UpdateDeviceInfo answer device).2.driverisLoaded = answer.succeeds := by
  rcases answer with ⟨⟨ret, name⟩, card⟩
  by_cases hret : ret = 0
  · rcases card with _ | card
    · simp [UpdateDeviceInfo, Probe.succeeds, hret, h]
    · simp [UpdateDeviceInfo, Probe.succeeds, hret]
  · simp [UpdateDeviceInfo, Probe.succeeds, hret]

end Update

/-- What `InitDevice` returns for a new device. -/
def initStatus (x : PciDevice × InitAnswer) : ℤ :=
  (InitDevice x.2 { addr := 0, id := 0, pdev := x.1 }).1

theorem InitDevice_fst (addr id : ℕ) (x : PciDevice × InitAnswer) :
    (InitDevice x.2 { addr, id, pdev := x.1 }).1 = initStatus x := by
  unfold initStatus
  by_cases h : x.1.vendorId = vendorAmd
  · rw [InitDevice_amd x.2 h, InitDevice_amd x.2 h]
    split_ifs
    · rfl
    · rw [UpdateDeviceInfo_fst, UpdateDeviceInfo_fst]
    · rfl
  · rw [InitDevice_other x.2 h, InitDevice_other x.2 h]

/-- A device comes out loaded only when its driver and its card were found. -/
theorem UpdateDeviceInfo_loaded {answer : Probe} {device : Device}
    (h : (UpdateDeviceInfo answer device).2.driverisLoaded = true)
    (hl : device.driverisLoaded = false) :
    (UpdateDeviceInfo answer device).1 = 0 ∧ answer.driver.1 = 0
      ∧ (UpdateDeviceInfo answer device).2.gpuDevice = answer.card ∧ answer.card ≠ none := by
  unfold UpdateDeviceInfo at h ⊢
  dsimp only at h ⊢
  split_ifs at h ⊢ with hret hcard
  · cases hl.symm.trans h
  · exact ⟨not_not.1 hret, not_not.1 hret, rfl, by simpa using hcard⟩

/-- What a device loaded by `InitDevice` is. -/
def Device.Ready (device : Device) : Prop :=
  device.gpuDevice ≠ none ∧ device.pdev.vendorId = vendorAmd

theorem InitDevice_loaded {answer : InitAnswer} {device : Device}
    (hl : device.driverisLoaded = false)
    (h : (InitDevice answer device).2.driverisLoaded = true) :
    (InitDevice answer device).2.Ready := by
  by_cases hv : device.pdev.vendorId = vendorAmd
  · refine ⟨?_, by rwa [(InitDevice_frame answer device).2.2]⟩
    rw [InitDevice_amd answer hv] at h ⊢
    split_ifs at h ⊢
    · cases h
    · obtain ⟨-, -, hgpu, hcard⟩ := UpdateDeviceInfo_loaded h rfl
      rwa [hgpu]
    · cases h
  · rw [InitDevice_other answer hv] at h
    cases hl.symm.trans h

/-! ## The enumeration -/

/-- The devices up to the first that cannot be initialised. -/
def upToFailure : List (PciDevice × InitAnswer) → List (PciDevice × InitAnswer)
  | [] => []
  | x :: l => if initStatus x = 0 then x :: upToFailure l else [x]

theorem initial_upToFailure : ∀ l, upToFailure l <+: l
  | [] => List.prefix_rfl
  | x :: l => by
    rw [upToFailure]
    split_ifs
    · exact List.cons_prefix_cons.2 ⟨rfl, initial_upToFailure l⟩
    · exact List.cons_prefix_cons.2 ⟨rfl, List.nil_prefix⟩

theorem upToFailure_length_eq_iff :
    ∀ l, (upToFailure l).length = l.length ↔ ∀ x ∈ l.dropLast, initStatus x = 0
  | [] => by simp [upToFailure]
  | [x] => by
    rw [upToFailure]
    split_ifs <;> simp [upToFailure]
  | x :: y :: l => by
    rw [upToFailure, List.dropLast_cons_cons, List.forall_mem_cons]
    split_ifs with hx
    · rw [List.length_cons, List.length_cons, Nat.add_right_cancel_iff,
        upToFailure_length_eq_iff (y :: l), and_iff_right hx]
    · simp [hx]

theorem upToFailure_length_le_iff :
    ∀ (k : ℕ) (l : List (PciDevice × InitAnswer)), (upToFailure l).length ≤ k
      ↔ l.length ≤ k ∨ ∃ x ∈ l.take k, initStatus x ≠ 0
  | _, [] => by simp [upToFailure]
  | 0, x :: l => by
    rw [upToFailure]
    split_ifs <;> simp
  | k + 1, x :: l => by
    rw [upToFailure, List.take_succ_cons]
    simp only [List.mem_cons, exists_eq_or_imp]
    split_ifs with hx
    · rw [List.length_cons, List.length_cons, Nat.add_le_add_iff_right, Nat.add_le_add_iff_right,
        upToFailure_length_le_iff k l]
      simp [hx]
    · simp [hx]

/-- The slots hold the devices of the list, and nothing else. -/
structure Slots (pdevs : List PciDevice) (dctx : DeviceContext) : Prop where
  count : dctx.deviceCount = pdevs.length
  fits : pdevs.length ≤ gpuMaxCardSupport
  slot : ∀ i, (dctx.slot i).map (fun d => (d.id, d.pdev)) = pdevs[i]?.map fun pdev => (i, pdev)

theorem slots_start (addr : ℕ) : Slots [] { addr } :=
  ⟨rfl, Nat.zero_le _, fun i => by rw [slot_start]; rfl⟩

/-- Every loaded device is ready. -/
def LoadedReady (dctx : DeviceContext) : Prop :=
  ∀ i device, dctx.slot i = some device → device.driverisLoaded = true → device.Ready

theorem initDevices_filter (ok : ℕ → Bool) :
    ∀ (l : List (PciDevice × InitAnswer)) (dctx : DeviceContext) (m : Ledger),
      initDevices ok l dctx m = initDevices ok (l.filter (·.1.isDisplay)) dctx m
  | [], _, _ => rfl
  | (pdev, answer) :: l, dctx, m => by
    rw [initDevices, List.filter_cons]
    dsimp only
    split_ifs with h
    · rw [initDevices, if_pos h]
      simp only [initDevices_filter ok l]
    · exact initDevices_filter ok l dctx m

section Step

variable {ok : ℕ → Bool} {dctx : DeviceContext} {m : Ledger} {done : List PciDevice}
  {x : PciDevice × InitAnswer} (l : List (PciDevice × InitAnswer)) (hx : x.1.isDisplay = true)
  (h : Slots done dctx)

variable (dctx) in
include hx in
theorem initDevices_unallocated (hok : ok m.calls = false) :
    ∃ m', initDevices ok (x :: l) dctx m = some (-eagain, dctx, m') := by
  rw [initDevices, if_pos hx, AllocDevice, calloc_none 368 1 () hok]
  exact ⟨_, rfl⟩

variable (ok) in
include hx h in
/-- The next device takes the next slot. -/
theorem initDevices_cons (hok : ok m.calls = true) (hlt : done.length < gpuMaxCardSupport) :
    ∃ addr dctx' m',
      initDevices ok (x :: l) dctx m = (if initStatus x ≠ 0 then some (initStatus x, dctx', m')
        else initDevices ok l dctx' m')
      ∧ Slots (done ++ [x.1]) dctx'
      ∧ ∀ i, dctx'.slot i = if dctx.deviceCount = i then
          some (InitDevice x.2 { addr, id := dctx.deviceCount, pdev := x.1 }).2
        else dctx.slot i := by
  obtain ⟨b, m1, e, -, -, -⟩ := calloc_some 368 1 () hok
  set device : Device := { addr := b.id, id := dctx.deviceCount, pdev := x.1 } with hdevice
  obtain ⟨-, hid, hpdev⟩ := InitDevice_frame x.2 device
  rw [← h.count] at hlt
  obtain ⟨dctx1, hdctx1⟩ := Option.isSome_iff_exists.1 (Option.isSome_of_eq_some
    (store_some { dctx with deviceCount := dctx.deviceCount + 1 } (some device) hlt))
  have hcount := store_count hdctx1
  have hslot : ∀ i, (dctx1.put dctx.deviceCount (InitDevice x.2 device).2).slot i
      = if dctx.deviceCount = i then some (InitDevice x.2 device).2 else dctx.slot i := fun i => by
    rw [slot_put _ hlt, slot_store hdctx1]
    split_ifs <;> rfl
  refine ⟨b.id, _, m1, ?_, ⟨?_, ?_, fun i => ?_⟩, hslot⟩
  · rw [initDevices, if_pos hx, AllocDevice, e]
    dsimp only [Option.bind_eq_bind]
    rw [← hdevice, hdctx1]
    dsimp only [Option.bind_some]
    rw [hdevice, InitDevice_fst b.id dctx.deviceCount x, ← hdevice, hid]
  · rw [List.length_append, List.length_singleton, ← h.count]
    exact hcount
  · rw [List.length_append, List.length_singleton, ← h.count]
    exact hlt
  · rw [hslot, h.count]
    split_ifs with hi
    · rw [← hi, Option.map_some, hid, hpdev, List.getElem?_concat_length, ← h.count]
      rfl
    · rcases Nat.lt_or_gt_of_ne hi with hi | hi
      · have hnone := h.slot i
        rw [List.getElem?_eq_none hi.le] at hnone
        rwa [List.getElem?_eq_none (by rw [List.length_append, List.length_singleton]; omega)]
      · rw [List.getElem?_append_left hi]
        exact h.slot i

include hx h in
/-- There is no slot for a ninth. -/
theorem initDevices_full (hok : ok m.calls = true) (hlt : done.length = gpuMaxCardSupport) :
    initDevices ok (x :: l) dctx m = none := by
  obtain ⟨b, m1, e, -, -, -⟩ := calloc_some 368 1 () hok
  rw [initDevices, if_pos hx, AllocDevice, e]
  dsimp only
  rw [store_none _ _ (h.count.trans hlt).ge]
  rfl

end Step

/-- Where no write goes outside the slots, what is loaded is ready; and none does if there are
slots for all. -/
theorem initDevices_ready (ok : ℕ → Bool) :
    ∀ (l : List (PciDevice × InitAnswer)) {done : List PciDevice} {dctx : DeviceContext}
      {m : Ledger}, (∀ x ∈ l, x.1.isDisplay = true) → Slots done dctx → LoadedReady dctx →
      (initDevices ok l dctx m = none ∧ gpuMaxCardSupport < done.length + l.length)
        ∨ ∃ ret dctx' m', initDevices ok l dctx m = some (ret, dctx', m')
          ∧ (∃ recorded, Slots recorded dctx') ∧ LoadedReady dctx'
  | [], done, dctx, m, _, h, hr => Or.inr ⟨0, dctx, m, rfl, ⟨done, h⟩, hr⟩
  | x :: l, done, dctx, m, hx, h, hr => by
    rw [List.forall_mem_cons] at hx
    rcases hok : ok m.calls with _ | _
    · obtain ⟨m', hinit⟩ := initDevices_unallocated dctx l hx.1 hok
      exact Or.inr ⟨_, dctx, m', hinit, ⟨done, h⟩, hr⟩
    rcases h.fits.lt_or_eq with hlt | hfull
    · obtain ⟨addr, dctx', m', hstep, hslots, hslot⟩ := initDevices_cons ok l hx.1 h hok hlt
      have hr' : LoadedReady dctx' := fun i device hi hl => by
        rw [hslot] at hi
        split_ifs at hi
        · obtain rfl := Option.some.inj hi
          exact InitDevice_loaded rfl hl
        · exact hr i device hi hl
      rw [hstep]
      split_ifs
      · exact Or.inr ⟨_, dctx', m', rfl, ⟨_, hslots⟩, hr'⟩
      · refine (initDevices_ready ok l hx.2 hslots hr').imp_left (And.imp_right fun hover => ?_)
        rw [List.length_append, List.length_singleton] at hover
        rw [List.length_cons]
        omega
    · refine Or.inl ⟨initDevices_full l hx.1 h hok hfull, ?_⟩
      rw [List.length_cons]
      omega

/-- Each slot holds what `InitDevice` makes of the entry of the list with its index. -/
def HoldsFound (found : List (PciDevice × InitAnswer)) (dctx : DeviceContext) : Prop :=
  ∀ i device, dctx.slot i = some device → ∃ x addr, found[i]? = some x
    ∧ device = (InitDevice x.2 { addr, id := i, pdev := x.1 }).2

theorem initDevices_found {ok : ℕ → Bool} :
    ∀ (l : List (PciDevice × InitAnswer)) {done : List (PciDevice × InitAnswer)}
      {dctx dctx' : DeviceContext} {m m' : Ledger} {ret : ℤ}, (∀ x ∈ l, x.1.isDisplay = true) →
      Slots (done.map (·.1)) dctx → HoldsFound (done ++ l) dctx →
      initDevices ok l dctx m = some (ret, dctx', m') → HoldsFound (done ++ l) dctx'
  | [], done, dctx, dctx', m, m', ret, _, _, hfound, hinit => by
    obtain ⟨-, hd⟩ := Prod.mk.inj (Option.some.inj hinit)
    obtain ⟨rfl, -⟩ := Prod.mk.inj hd
    exact hfound
  | x :: l, done, dctx, dctx', m, m', ret, hx, h, hfound, hinit => by
    rw [List.forall_mem_cons] at hx
    rcases hok : ok m.calls with _ | _
    · obtain ⟨m1, hnone⟩ := initDevices_unallocated dctx l hx.1 hok
      obtain ⟨-, hd⟩ := Prod.mk.inj (Option.some.inj (hinit.symm.trans hnone))
      obtain ⟨rfl, -⟩ := Prod.mk.inj hd
      exact hfound
    rcases h.fits.lt_or_eq with hlt | hfull
    · obtain ⟨addr, dctx1, m1, hstep, hslots, hslot⟩ := initDevices_cons ok l hx.1 h hok hlt
      have hcount : dctx.deviceCount = done.length := h.count.trans (List.length_map _)
      have hfound' : HoldsFound (done ++ x :: l) dctx1 := fun i device hi => by
        rw [hslot] at hi
        split_ifs at hi with hlast
        · subst hlast
          exact ⟨x, addr, by rw [hcount, List.getElem?_append_right le_rfl, Nat.sub_self,
            List.getElem?_cons_zero], (Option.some.inj hi).symm⟩
        · exact hfound i device hi
      rw [hstep] at hinit
      split_ifs at hinit
      · obtain ⟨-, hd⟩ := Prod.mk.inj (Option.some.inj hinit)
        obtain ⟨rfl, -⟩ := Prod.mk.inj hd
        exact hfound'
      · rw [List.append_cons] at hfound' ⊢
        refine initDevices_found l hx.2 ?_ hfound' hinit
        rwa [List.map_append]
    · exact nomatch hinit.symm.trans (initDevices_full l hx.1 h hok hfull)

section Enumeration

variable {l : List (PciDevice × InitAnswer)} {dctx : DeviceContext} {m : Ledger}

/-- With slots enough, the devices up to the first failure are recorded. -/
theorem initDevices_fits :
    ∀ (l : List (PciDevice × InitAnswer)) {done : List PciDevice} {dctx : DeviceContext}
      {m : Ledger}, (∀ x ∈ l, x.1.isDisplay = true) → Slots done dctx →
      done.length + (upToFailure l).length ≤ gpuMaxCardSupport →
      ∃ ret dctx' m', initDevices (fun _ => true) l dctx m = some (ret, dctx', m')
        ∧ Slots (done ++ (upToFailure l).map (·.1)) dctx'
  | [], done, dctx, m, _, h, _ => ⟨0, dctx, m, rfl, by rwa [upToFailure, List.map_nil,
      List.append_nil]⟩
  | x :: l, done, dctx, m, hx, h, hfit => by
    rw [List.forall_mem_cons] at hx
    have hlen : 0 < (upToFailure (x :: l)).length := by
      rw [upToFailure]
      split_ifs <;> exact Nat.succ_pos _
    obtain ⟨addr, dctx', m', hstep, hslots, -⟩ :=
      initDevices_cons (m := m) (fun _ => true) l hx.1 h rfl (by omega)
    rw [hstep]
    rw [upToFailure] at hfit ⊢
    by_cases hst : initStatus x = 0
    · rw [if_pos hst] at hfit ⊢
      rw [if_neg (not_not.2 hst)]
      have hle : (done ++ [x.1]).length + (upToFailure l).length ≤ gpuMaxCardSupport := by
        rw [List.length_append, List.length_singleton]
        rw [List.length_cons] at hfit
        omega
      obtain ⟨ret, d, m1, hrun, hd⟩ := initDevices_fits l hx.2 hslots hle
      rw [List.append_assoc] at hd
      exact ⟨ret, d, m1, hrun, hd⟩
    · rw [if_neg hst, if_pos hst]
      exact ⟨_, dctx', m', rfl, hslots⟩

/-- And otherwise one of them is written outside the slots. -/
theorem initDevices_overflows :
    ∀ (l : List (PciDevice × InitAnswer)) {done : List PciDevice} {dctx : DeviceContext}
      {m : Ledger}, (∀ x ∈ l, x.1.isDisplay = true) → Slots done dctx →
      gpuMaxCardSupport < done.length + (upToFailure l).length →
      initDevices (fun _ => true) l dctx m = none
  | [], done, dctx, m, _, h, hover => absurd h.fits (by simpa [upToFailure] using hover)
  | x :: l, done, dctx, m, hx, h, hover => by
    rw [List.forall_mem_cons] at hx
    rcases h.fits.lt_or_eq with hlt | hfull
    · obtain ⟨addr, dctx', m', hstep, hslots, -⟩ :=
        initDevices_cons (m := m) (fun _ => true) l hx.1 h rfl hlt
      rw [upToFailure] at hover
      by_cases hst : initStatus x = 0
      · rw [if_pos hst, List.length_cons] at hover
        rw [hstep, if_neg (not_not.2 hst)]
        refine initDevices_overflows l hx.2 hslots ?_
        rw [List.length_append, List.length_singleton]
        omega
      · rw [if_neg hst, List.length_singleton] at hover
        omega
    · exact initDevices_full l hx.1 h rfl hfull

/-- The display devices of an enumeration, with what `InitDevice` is told of each. -/
def displays (pdevs : List (PciDevice × InitAnswer)) : List (PciDevice × InitAnswer) :=
  pdevs.filter (·.1.isDisplay)

theorem isDisplay_of_mem_displays (pdevs : List (PciDevice × InitAnswer)) :
    ∀ x ∈ displays pdevs, x.1.isDisplay = true := fun _ hx => (List.mem_filter.1 hx).2

/-- The state `InitDeviceContext` leaves, if it writes to slots only. -/
theorem InitDeviceContext_ready (ok : ℕ → Bool) (pciSystemInit : ℤ)
    (pdevs : List (PciDevice × InitAnswer)) (addr : ℕ) (m : Ledger) :
    (InitDeviceContext ok pciSystemInit pdevs { addr } m = none
        ∧ gpuMaxCardSupport < (displays pdevs).length)
      ∨ ∃ ret dctx m', InitDeviceContext ok pciSystemInit pdevs { addr } m = some (ret, dctx, m')
        ∧ (∃ recorded, Slots recorded dctx) ∧ LoadedReady dctx := by
  have hstart : LoadedReady { addr } := fun i device hi _ => by
    rw [slot_start] at hi
    cases hi
  unfold InitDeviceContext
  dsimp only
  split_ifs
  · exact Or.inr ⟨_, _, m, rfl, ⟨[], slots_start addr⟩, hstart⟩
  · rw [initDevices_filter ok pdevs]
    have hready := initDevices_ready ok (m := m) (displays pdevs)
      (isDisplay_of_mem_displays pdevs) (slots_start addr) hstart
    rwa [List.length_nil, Nat.zero_add] at hready

theorem InitDeviceContext_found {ok : ℕ → Bool} {pciSystemInit : ℤ}
    {pdevs : List (PciDevice × InitAnswer)} {addr : ℕ} {m m' : Ledger} {ret : ℤ}
    (hinit : InitDeviceContext ok pciSystemInit pdevs { addr } m = some (ret, dctx, m')) :
    HoldsFound (displays pdevs) dctx := by
  have hstart : HoldsFound (displays pdevs) { addr } := fun i device hi =>
    nomatch (slot_start addr i).symm.trans hi
  unfold InitDeviceContext at hinit
  dsimp only at hinit
  split_ifs at hinit
  · obtain ⟨-, hd⟩ := Prod.mk.inj (Option.some.inj hinit)
    obtain ⟨rfl, -⟩ := Prod.mk.inj hd
    exact hstart
  · rw [initDevices_filter ok pdevs] at hinit
    exact @initDevices_found ok _ [] _ _ _ _ _ (isDisplay_of_mem_displays pdevs)
      (slots_start addr) hstart hinit

/-- The slots below the count hold the devices in order, all of them if there is room, and those
above it nothing. -/
structure Recorded (pdevs : List PciDevice) (dctx : DeviceContext) : Prop where
  count : dctx.deviceCount ≤ gpuMaxCardSupport
  all : pdevs.length ≤ gpuMaxCardSupport → dctx.deviceCount = pdevs.length
  slot : ∀ i < dctx.deviceCount, ∃ device, dctx.slot i = some device ∧ device.id = i
    ∧ pdevs[i]? = some device.pdev
  later : ∀ i, dctx.deviceCount ≤ i → dctx.slot i = none

theorem Slots.recorded_iff {pdevs recorded : List PciDevice} (hpre : recorded <+: pdevs)
    (h : Slots recorded dctx) : Recorded pdevs dctx
      ↔ (pdevs.length ≤ gpuMaxCardSupport → recorded.length = pdevs.length) := by
  refine ⟨fun hr hle => h.count ▸ hr.all hle, fun hall => ⟨?_, ?_, fun i hi => ?_, fun i hi => ?_⟩⟩
  · rw [h.count]
    exact h.fits
  · rw [h.count]
    exact hall
  · rw [h.count] at hi
    have hslot := h.slot i
    rw [List.getElem?_eq_getElem hi, Option.map_some, Option.map_eq_some_iff] at hslot
    obtain ⟨device, hdevice, hpair⟩ := hslot
    obtain ⟨hid, hpdev⟩ := Prod.mk.inj hpair
    refine ⟨device, hdevice, hid, ?_⟩
    rw [hpdev, List.IsPrefix.getElem hpre hi]
    exact List.getElem?_eq_getElem (hi.trans_le hpre.length_le)
  · have hslot := h.slot i
    rw [List.getElem?_eq_none (h.count ▸ hi), Option.map_none, Option.map_eq_none_iff] at hslot
    exact hslot

end Enumeration

/-- `InitDeviceContext` records the display devices exactly when there are no more than slots and
none but the last fails, or there are more and one of the first eight stops it. -/
theorem device_context_recorded_iff (pdevs : List (PciDevice × InitAnswer)) (addr : ℕ)
    (m : Ledger) :
    (∃ ret dctx m', InitDeviceContext (fun _ => true) 0 pdevs { addr } m = some (ret, dctx, m')
      ∧ Recorded ((displays pdevs).map (·.1)) dctx)
      ↔ ((displays pdevs).length ≤ gpuMaxCardSupport
          ∧ ∀ x ∈ (displays pdevs).dropLast, initStatus x = 0)
        ∨ (gpuMaxCardSupport < (displays pdevs).length
          ∧ ∃ x ∈ (displays pdevs).take gpuMaxCardSupport, initStatus x ≠ 0) := by
  have hall := isDisplay_of_mem_displays pdevs
  have hrun : InitDeviceContext (fun _ => true) 0 pdevs { addr } m
      = initDevices (fun _ => true) (displays pdevs) { addr } m :=
    initDevices_filter (fun _ => true) pdevs { addr } m
  have hle := upToFailure_length_le_iff gpuMaxCardSupport (displays pdevs)
  have heq := upToFailure_length_eq_iff (displays pdevs)
  have hpre : (upToFailure (displays pdevs)).map (·.1) <+: (displays pdevs).map (·.1) :=
    (initial_upToFailure _).map _
  have hlen := (initial_upToFailure (displays pdevs)).length_le
  rw [hrun]
  by_cases hfit : (upToFailure (displays pdevs)).length ≤ gpuMaxCardSupport
  · obtain ⟨ret, dctx, m', hinit, hslots⟩ := initDevices_fits (displays pdevs) (m := m) hall
      (slots_start addr) (by simpa using hfit)
    rw [List.nil_append] at hslots
    have hiff := hslots.recorded_iff hpre
    simp only [List.length_map] at hiff
    rw [hinit]
    constructor
    · rintro ⟨ret', d, m1, h, hr⟩
      obtain ⟨rfl, hd⟩ := Prod.mk.inj (Option.some.inj h)
      obtain ⟨rfl, rfl⟩ := Prod.mk.inj hd
      by_cases hn : (displays pdevs).length ≤ gpuMaxCardSupport
      · exact Or.inl ⟨hn, heq.1 (hiff.1 hr hn)⟩
      · exact Or.inr ⟨Nat.not_le.1 hn, (hle.1 hfit).resolve_left hn⟩
    · intro h
      refine ⟨ret, dctx, m', rfl, hiff.2 fun hn => ?_⟩
      rcases h with h | h
      · exact heq.2 h.2
      · omega
  · rw [initDevices_overflows (displays pdevs) hall (slots_start addr)
      (by simpa using Nat.not_le.1 hfit)]
    refine iff_of_false ?_ ?_
    · rintro ⟨ret, dctx, m', h, -⟩
      cases h
    · rintro (h | h)
      · omega
      · exact hfit (hle.2 (Or.inr h.2))

section Example

def amdCard : PciDevice := ⟨0, 3, 0, 0, vendorAmd, 0x7550, 0, 0, 0x030000, 0xc0⟩

/-- The interrupt number of the first card cannot be read, so the second is not recorded. -/
theorem device_context_first_fails :
    ¬ ∃ ret dctx m', InitDeviceContext (fun _ => true) 0
        [(amdCard, ⟨(-eacces, 0), [], [], false, ⟨(0, []), none⟩⟩),
          (amdCard, ⟨(0, 41), [], [], false, ⟨(0, []), none⟩⟩)] { addr := 0 } {}
        = some (ret, dctx, m')
      ∧ Recorded [amdCard, amdCard] dctx := by
  rintro ⟨ret, dctx, m', h, hr⟩
  obtain ⟨-, hd⟩ := Prod.mk.inj (Option.some.inj h)
  obtain ⟨rfl, -⟩ := Prod.mk.inj hd
  exact absurd (hr.all (by decide)) (by decide)

end Example

/-! ## Freeing -/

theorem free_length {i : ℕ} {dctx dctx' : DeviceContext} {m m' : Ledger}
    (h : freeSlot i dctx m = some (dctx', m')) :
    m'.frees.length = m.frees.length ∧ dctx'.deviceCount = dctx.deviceCount
      ∨ m'.frees.length = m.frees.length + 1 ∧ dctx'.deviceCount = dctx.deviceCount - 1 := by
  unfold freeSlot at h
  rcases hslot : dctx.slot i with _ | device <;>
    simp only [hslot, FreeDevice, Option.bind_eq_bind, Option.bind_some, Option.bind_eq_some_iff,
      Option.some.injEq, Prod.mk.injEq] at h
  · obtain ⟨d, hd, rfl, rfl⟩ := h
    exact Or.inl ⟨rfl, store_count hd⟩
  · obtain ⟨⟨d, m1⟩, ⟨d1, hd1, rfl, rfl⟩, d2, hd2, rfl, rfl⟩ := h
    exact Or.inr ⟨rfl, (store_count hd2).trans (store_count hd1)⟩

/-- Each turn that frees a device also takes one off the bound, so half of them are reached. -/
theorem freeDevices_frees :
    ∀ (k i : ℕ) {dctx dctx' : DeviceContext} {m m' : Ledger}, dctx.deviceCount - i ≤ k →
      freeDevices i dctx m = some (dctx', m') →
      m'.frees.length ≤ m.frees.length + (dctx.deviceCount - i + 1) / 2
  | k, i, dctx, dctx', m, m', hk, h => by
    rw [freeDevices] at h
    split_ifs at h with hi
    · split at h
      next => cases h
      next d m1 hslot =>
        rcases k with _ | k
        · omega
        have hcount := freeSlot_count hslot
        have hlen := free_length hslot
        have hrest := freeDevices_frees k (i + 1) (by omega) h
        omega
    · obtain ⟨rfl, rfl⟩ := Prod.mk.inj (Option.some.inj h)
      omega

/-- The ledger has the blocks of the context and of its devices, none of them freed. -/
structure Allocated (dctx : DeviceContext) (m : Ledger) : Prop where
  frees : m.frees = []
  nodup : m.allocs.Nodup
  lt : ∀ i ∈ m.allocs, i < m.calls
  length : m.allocs.length = dctx.deviceCount + 1
  ctx : dctx.addr ∈ m.allocs
  slot : ∀ i < dctx.deviceCount, ∃ device, dctx.slot i = some device ∧ device.addr ∈ m.allocs
    ∧ device.addr ≠ dctx.addr

theorem allocDeviceContext_allocated {ok : ℕ → Bool} {dctx : DeviceContext} {m : Ledger}
    (h : AllocDeviceContext ok {} = (some dctx, m)) : Allocated dctx m := by
  unfold AllocDeviceContext calloc at h
  split_ifs at h
  · obtain ⟨hd, rfl⟩ := Prod.mk.inj h
    obtain rfl := Option.some.inj hd
    exact ⟨rfl, by simp, by simp, rfl, by simp, fun i hi => absurd hi (Nat.not_lt_zero i)⟩
  · cases (Prod.mk.inj h).1

theorem store_addr {dctx dctx' : DeviceContext} {i : ℕ} {device : Option Device}
    (h : dctx.store i device = some dctx') : dctx'.addr = dctx.addr := by
  unfold DeviceContext.store at h
  split_ifs at h
  obtain rfl := Option.some.inj h
  rfl

theorem allocDevice_allocated {ok : ℕ → Bool} {pdev : PciDevice} {device : Option Device}
    {dctx dctx' : DeviceContext} {m m' : Ledger} (hinv : Allocated dctx m)
    (h : AllocDevice ok dctx pdev m = some (device, dctx', m')) : Allocated dctx' m' := by
  unfold AllocDevice at h
  rcases hok : ok m.calls with _ | _
  · rw [calloc_none 368 1 () hok] at h
    obtain ⟨-, hd⟩ := Prod.mk.inj (Option.some.inj h)
    obtain ⟨rfl, rfl⟩ := Prod.mk.inj hd
    exact ⟨hinv.frees, hinv.nodup, fun i hi => (hinv.lt i hi).trans (Nat.lt_succ_self _),
      hinv.length, hinv.ctx, hinv.slot⟩
  · rw [calloc, if_pos hok] at h
    dsimp only at h
    rw [Option.bind_eq_bind, Option.bind_eq_some_iff] at h
    obtain ⟨d, hstore, hd⟩ := h
    obtain ⟨-, hd⟩ := Prod.mk.inj (Option.some.inj hd)
    obtain ⟨rfl, rfl⟩ := Prod.mk.inj hd
    have hcount : d.deviceCount = dctx.deviceCount + 1 := store_count hstore
    have haddr := store_addr hstore
    dsimp only at haddr
    have hnew : m.calls ∉ m.allocs := fun hm => absurd (hinv.lt _ hm) (lt_irrefl _)
    refine ⟨hinv.frees, List.nodup_cons.2 ⟨hnew, hinv.nodup⟩, ?_, ?_, ?_, fun i hi => ?_⟩
    · intro i hi
      rcases List.mem_cons.1 hi with rfl | hi
      · exact Nat.lt_succ_self _
      · exact (hinv.lt i hi).trans (Nat.lt_succ_self _)
    · rw [List.length_cons, hinv.length, hcount]
    · rw [haddr]
      exact List.mem_cons_of_mem _ hinv.ctx
    · rw [slot_store hstore]
      split_ifs with hii
      · refine ⟨_, rfl, List.mem_cons_self, ?_⟩
        rintro (heq : m.calls = d.addr)
        rw [heq, haddr] at hnew
        exact hnew hinv.ctx
      · obtain ⟨device, hdevice, hmem, hne⟩ := hinv.slot i (by omega)
        exact ⟨device, hdevice, List.mem_cons_of_mem _ hmem, haddr ▸ hne⟩

theorem allocDevices_allocated {ok : ℕ → Bool} :
    ∀ (pdevs : List PciDevice) {dctx dctx' : DeviceContext} {m m' : Ledger}, Allocated dctx m →
      allocDevices ok pdevs dctx m = some (dctx', m') → Allocated dctx' m'
  | [], _, _, _, _, hinv, h => by
    obtain ⟨rfl, rfl⟩ := Prod.mk.inj (Option.some.inj h)
    exact hinv
  | pdev :: pdevs, dctx, dctx', m, m', hinv, h => by
    rw [allocDevices, Option.bind_eq_bind, Option.bind_eq_some_iff] at h
    obtain ⟨⟨device, d, m1⟩, halloc, hrest⟩ := h
    exact allocDevices_allocated pdevs (allocDevice_allocated hinv halloc) hrest

/-- After any calls of `AllocDevice` that stay inside `devs`. -/
theorem allocDevices_run (ok : ℕ → Bool) (pdevs : List PciDevice) {start dctx : DeviceContext}
    {m0 m : Ledger} (h0 : AllocDeviceContext ok {} = (some start, m0))
    (h : allocDevices ok pdevs start m0 = some (dctx, m)) : Allocated dctx m :=
  allocDevices_allocated pdevs (allocDeviceContext_allocated h0) h

/-- Every write is to a slot, and every block but that of the context, which is every device, is
freed exactly once. -/
def FreesAll (dctx : DeviceContext) (m : Ledger) : Prop :=
  ∃ m', FreeDeviceContext dctx m = some m'
    ∧ ∀ i ∈ m.allocs, i ≠ dctx.addr → m'.frees.count i = 1

section FreesAll

variable {dctx : DeviceContext} {m : Ledger} (h : Allocated dctx m)

include h in
/-- Of `n + 1` blocks at most `(n + 1) / 2` and that of the context are freed. -/
theorem count_le_one_of_freesAll (hfrees : FreesAll dctx m) : dctx.deviceCount ≤ 1 := by
  obtain ⟨m', hfree, hall⟩ := hfrees
  unfold FreeDeviceContext at hfree
  rw [Option.bind_eq_bind, Option.bind_eq_some_iff] at hfree
  obtain ⟨⟨d, m1⟩, hloop, hm'⟩ := hfree
  obtain rfl := Option.some.inj hm'
  have hsub : m.allocs ⊆ (xFree dctx.addr m1).frees := fun i hi => by
    by_cases hctx : i = dctx.addr
    · rw [hctx]
      exact List.mem_cons_self
    · exact List.count_pos_iff.1 (by rw [hall i hi hctx]; exact Nat.one_pos)
  have hlen := h.length
  have hle := freeDevices_frees _ 0 le_rfl hloop
  rw [h.frees, List.length_nil] at hle
  have hsubperm := (h.nodup.subperm hsub).length_le
  have hcons : (xFree dctx.addr m1).frees.length = m1.frees.length + 1 := rfl
  omega

include h in
theorem freesAll_zero (h0 : dctx.deviceCount = 0) : FreesAll dctx m := by
  have hlen := h.length
  rw [h0] at hlen
  obtain ⟨a, ha⟩ := List.length_eq_one_iff.1 hlen
  have hctx := h.ctx
  rw [ha, List.mem_singleton] at hctx
  refine ⟨xFree dctx.addr m, ?_, fun i hi hne => ?_⟩
  · unfold FreeDeviceContext
    rw [freeDevices, if_neg (by omega)]
    rfl
  · rw [ha, List.mem_singleton, ← hctx] at hi
    exact absurd hi hne

theorem freeDevices_one {device : Device} (h1 : dctx.deviceCount = 1)
    (hdevice : dctx.slot 0 = some device) :
    ∃ d, freeDevices 0 dctx m = some (d, xFree device.addr m) := by
  rw [freeDevices, if_pos (by omega)]
  obtain ⟨d0, hstep⟩ : ∃ d, freeSlot 0 dctx m = some (d, xFree device.addr m) := by
    unfold freeSlot FreeDevice
    rw [hdevice, h1]
    exact ⟨_, rfl⟩
  split
  next hnone => rw [hstep] at hnone; cases hnone
  next d m1 hsome =>
    obtain ⟨-, rfl⟩ := Prod.mk.inj (Option.some.inj (hstep.symm.trans hsome))
    have hcount := free_length hsome
    have hfree : (xFree device.addr m).frees.length = m.frees.length + 1 := rfl
    rw [freeDevices, if_neg (by omega)]
    exact ⟨d, rfl⟩

include h in
theorem freesAll_one (h1 : dctx.deviceCount = 1) : FreesAll dctx m := by
  obtain ⟨device, hdevice, hmem, hne⟩ := h.slot 0 (by omega)
  obtain ⟨d, hloop⟩ := freeDevices_one (m := m) h1 hdevice
  refine ⟨xFree dctx.addr (xFree device.addr m), ?_, fun i hi _ => ?_⟩
  · unfold FreeDeviceContext
    rw [hloop]
    rfl
  -- the two blocks of the ledger are the two that are freed
  · have hsub : [dctx.addr, device.addr] ⊆ m.allocs := by
      simp [h.ctx, hmem]
    have hpair : [dctx.addr, device.addr].Nodup := by simp [hne.symm]
    have hperm := (hpair.subperm hsub).perm_of_length_le (by rw [h.length, h1]; rfl)
    have hmem' : i ∈ [dctx.addr, device.addr] := hperm.symm.subset hi
    show (dctx.addr :: device.addr :: m.frees).count i = 1
    rw [h.frees]
    exact List.count_eq_one_of_mem hpair hmem'

include h in
theorem freesAll_iff : FreesAll dctx m ↔ dctx.deviceCount ≤ 1 := by
  refine ⟨count_le_one_of_freesAll h, fun hle => ?_⟩
  rcases Nat.le_one_iff_eq_zero_or_eq_one.1 hle with h0 | h1
  · exact freesAll_zero h h0
  · exact freesAll_one h h1

end FreesAll

/-- After any calls of `AllocDevice` that stay inside `devs`, `FreeDeviceContext` frees every
device once, with writes to slots only, exactly when at most one device was allocated. -/
theorem device_context_freed_iff (ok : ℕ → Bool) (pdevs : List PciDevice)
    {start dctx : DeviceContext} {m0 m : Ledger} (h0 : AllocDeviceContext ok {} = (some start, m0))
    (h : allocDevices ok pdevs start m0 = some (dctx, m)) :
    FreesAll dctx m ↔ dctx.deviceCount ≤ 1 :=
  freesAll_iff (allocDevices_run ok pdevs h0 h)

section Example

theorem device_context_freed_two :
    ∃ start dctx m0 m, AllocDeviceContext (fun _ => true) {} = (some start, m0)
      ∧ allocDevices (fun _ => true) [amdCard, amdCard] start m0 = some (dctx, m)
      ∧ (FreesAll dctx m ↔ dctx.deviceCount ≤ 1) :=
  ⟨_, _, _, _, rfl, rfl, device_context_freed_iff (fun _ => true) [amdCard, amdCard] rfl rfl⟩

/-- Of two devices the second is not freed. -/
theorem device_context_second_leaks :
    ∃ start dctx m0 m, AllocDeviceContext (fun _ => true) {} = (some start, m0)
      ∧ allocDevices (fun _ => true) [amdCard, amdCard] start m0 = some (dctx, m)
      ∧ ¬ FreesAll dctx m :=
  ⟨_, _, _, _, rfl, rfl, fun h => absurd ((freesAll_iff
    (allocDevices_run (fun _ => true) [amdCard, amdCard] rfl rfl)).1 h) (by decide)⟩

end Example

end Amdtop
