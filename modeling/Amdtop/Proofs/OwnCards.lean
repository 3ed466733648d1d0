import Amdtop.Proofs.DeviceByBus
import Amdtop.Proofs.MainLoop

/-!
# Every loaded device holds its own card

The card of a probe is the node whose `uevent` has the address of the PCI device, if every card
node has an address and the domain fits a byte (`card_owned`). A slot keeps its PCI device, so in
every run the loaded devices hold their own cards, no two of them the same, and no tab or sensor is
asked for another (`main_loop_own_cards`).
-/

namespace Amdtop

open Carry Cmd Heap

def PciDevice.busAddress (pdev : PciDevice) : Address :=
  Amdtop.busAddress pdev.domain pdev.bus pdev.dev pdev.func

/-- The address in the `uevent` of a device number. -/
def cardAddress (uevent : ℕ → ℕ → Option (List Char)) (major minor : ℕ) : Option Address :=
  Dri.ownAddress ⟨[], uevent, true⟩ major minor

section Probes

variable {uevent : ℕ → ℕ → Option (List Char)} {dri : Dri} {pdev : PciDevice}

variable (uevent) in
/-- The probe of a driver link and a listing whose card nodes all have an address. -/
def FromFiles (pdev : PciDevice) (answer : Probe) : Prop :=
  ∃ driver dri, dri.uevent = uevent
    ∧ (∀ e ∈ dri.nodes .card, (dri.ownAddress e.major e.minor).isSome = true)
    ∧ probe driver dri pdev = some answer

variable (uevent) in
/-- The device holds the card at its address. -/
def Device.Owns (device : Device) : Prop :=
  ∃ card, device.gpuDevice = some card
    ∧ cardAddress uevent card.major card.minor = some device.pdev.busAddress

theorem searched_address (h : pdev.domain.toNat < 256) :
    busAddress pdev.domain.toUInt8.toUInt32 pdev.bus pdev.dev pdev.func = pdev.busAddress := by
  have hdomain : pdev.domain.toUInt8.toUInt32 = pdev.domain := by
    rw [← UInt32.toNat_inj, UInt8.toNat_toUInt32, UInt32.toNat_toUInt8]
    omega
  rw [hdomain, PciDevice.busAddress]

/-- A search that ends has room for the nodes it lists. -/
theorem nodes_fit {type : DeviceType} {domain bus dev func : UInt8}
    {answer : Option GpuDevice × List ℤ}
    (h : gpuGetDeviceByBus dri type domain bus dev func = some answer) :
    (dri.nodes type).length ≤ gpuMaxCardSupport := by
  by_contra hover
  have hnone := gpuGetDevicesLoop_none type dri.dents 0 [] [] (Nat.zero_le _) (by
    rw [List.length_nil, Nat.zero_add]
    exact Nat.not_le.1 hover)
  unfold gpuGetDeviceByBus gpuGetDevices at h
  rw [hnone] at h
  cases h

/-- What a search finds among nodes that all have an address is at the address looked for. -/
theorem found_own {domain bus dev func : UInt8} {card : GpuDevice} {fds : List ℤ}
    (hown : ∀ e ∈ dri.nodes .card, (dri.ownAddress e.major e.minor).isSome = true)
    (h : gpuGetDeviceByBus dri .card domain bus dev func = some (some card, fds)) :
    dri.ownAddress card.major card.minor = some (busAddress domain.toUInt32 bus dev func) := by
  have hfit := nodes_fit h
  by_cases habort : dri.Aborts .card
  · obtain ⟨fds', hnone⟩ := gpuGetDeviceByBus_aborts hfit habort domain bus dev func
    cases hnone.symm.trans h
  obtain ⟨devices, fds', hof, hsearch⟩ := gpuGetDeviceByBus_eq hfit habort domain bus dev func
  have hlast := congrArg Prod.fst (Option.some.inj (hsearch.symm.trans h))
  rcases own_of_lastMatch hlast with hcard | hnone
  · exact hcard
  · obtain ⟨e, he, -, hmajor, hminor⟩ := (of_forall₂ dri hof).2.1 card (lastMatch_mem hlast)
    have hsome := hown e he
    rw [← hmajor, ← hminor, hnone] at hsome
    cases hsome

theorem card_owned {answer : Probe} (h : FromFiles uevent pdev answer)
    (hdomain : pdev.domain.toNat < 256) {card : GpuDevice} (hcard : answer.card = some card) :
    cardAddress uevent card.major card.minor = some pdev.busAddress := by
  obtain ⟨driver, dri, rfl, hown, hprobe⟩ := h
  simp only [probe, Option.bind_eq_bind, Option.bind_eq_some_iff, Option.some.injEq] at hprobe
  obtain ⟨name, -, ⟨found, fds⟩, hsearch, rfl⟩ := hprobe
  obtain rfl : found = some card := hcard
  have hfound := found_own hown hsearch
  rwa [searched_address hdomain] at hfound

/-- A device that is loaded now holds its own card. -/
theorem UpdateDeviceInfo_owns {device : Device} {answer : Probe}
    (hfiles : FromFiles uevent device.pdev answer) (hdomain : device.pdev.domain.toNat < 256)
    (hl : device.driverisLoaded = false)
    (h : (UpdateDeviceInfo answer device).2.driverisLoaded = true) :
    (UpdateDeviceInfo answer device).2.Owns uevent := by
  obtain ⟨-, -, hgpu, hsome⟩ := UpdateDeviceInfo_loaded h hl
  obtain ⟨card, hcard⟩ := Option.ne_none_iff_exists'.1 hsome
  refine ⟨card, hgpu.trans hcard, ?_⟩
  rw [(UpdateDeviceInfo_frame answer device).2.2]
  exact card_owned hfiles hdomain hcard

theorem InitDevice_owns {device : Device} {answer : InitAnswer}
    (hfiles : answer.hasKernelDriver = true → FromFiles uevent device.pdev answer.update)
    (hdomain : device.pdev.domain.toNat < 256) (hl : device.driverisLoaded = false)
    (h : (InitDevice answer device).2.driverisLoaded = true) :
    (InitDevice answer device).2.Owns uevent := by
  by_cases hv : device.pdev.vendorId = vendorAmd
  · rw [InitDevice_amd answer hv] at h ⊢
    split_ifs at h ⊢ with hirq hbound
    · cases h
    · have hnamed : (device.named answer).driverisLoaded = false := rfl
      exact UpdateDeviceInfo_owns (hfiles hbound) hdomain hnamed h
    · cases h
  · rw [InitDevice_other answer hv] at h
    cases hl.symm.trans h

end Probes

/-! ## The enumeration -/

/-- Every loaded device is good. -/
def LoadedGood (good : Device → Prop) (dctx : DeviceContext) : Prop :=
  ∀ i device, dctx.slot i = some device → device.driverisLoaded = true → good device

section Enumeration

variable {good : Device → Prop} {ok : ℕ → Bool}

/-- What is recorded is the first devices of the list, and what is loaded of them is good. -/
theorem initDevices_good : ∀ (l : List (PciDevice × InitAnswer)) {done : List PciDevice}
    {dctx dctx' : DeviceContext} {m m' : Ledger} {ret : ℤ},
    (∀ x ∈ l, x.1.isDisplay = true) →
    (∀ x ∈ l, ∀ addr id, (InitDevice x.2 { addr, id, pdev := x.1 }).2.driverisLoaded = true →
      good (InitDevice x.2 { addr, id, pdev := x.1 }).2) →
    Slots done dctx → LoadedGood good dctx →
    initDevices ok l dctx m = some (ret, dctx', m') →
      ∃ recorded, recorded <+: l ∧ Slots (done ++ recorded.map (·.1)) dctx' ∧ LoadedGood good dctx'
  | [], done, dctx, dctx', m, m', ret, _, _, h, hg, hinit => by
    obtain ⟨-, hd⟩ := Prod.mk.inj (Option.some.inj hinit)
    obtain ⟨rfl, -⟩ := Prod.mk.inj hd
    exact ⟨[], List.nil_prefix, by rwa [List.map_nil, List.append_nil], hg⟩
  | x :: l, done, dctx, dctx', m, m', ret, hx, hload, h, hg, hinit => by
    rw [List.forall_mem_cons] at hx hload
    rcases hok : ok m.calls with _ | _
    · obtain ⟨m1, hstop⟩ := initDevices_unallocated dctx l hx.1 hok
      obtain ⟨-, hd⟩ := Prod.mk.inj (Option.some.inj (hinit.symm.trans hstop))
      obtain ⟨rfl, -⟩ := Prod.mk.inj hd
      exact ⟨[], List.nil_prefix, by rwa [List.map_nil, List.append_nil], hg⟩
    rcases h.fits.lt_or_eq with hlt | hfull
    · obtain ⟨addr, d, m1, hstep, hslots, hslot⟩ := initDevices_cons ok l hx.1 h hok hlt
      have hg' : LoadedGood good d := fun i device hi hl => by
        rw [hslot] at hi
        split_ifs at hi
        · obtain rfl := Option.some.inj hi
          exact hload.1 addr dctx.deviceCount hl
        · exact hg i device hi hl
      rw [hstep] at hinit
      split_ifs at hinit
      · obtain ⟨-, hd⟩ := Prod.mk.inj (Option.some.inj hinit)
        obtain ⟨rfl, -⟩ := Prod.mk.inj hd
        exact ⟨[x], List.cons_prefix_cons.2 ⟨rfl, List.nil_prefix⟩, hslots, hg'⟩
      · obtain ⟨recorded, hpre, hslots', hgood⟩ :=
          initDevices_good l hx.2 hload.2 hslots hg' hinit
        refine ⟨x :: recorded, List.cons_prefix_cons.2 ⟨rfl, hpre⟩, ?_, hgood⟩
        rwa [List.map_cons, ← List.singleton_append, ← List.append_assoc]
    · rw [initDevices_full l hx.1 h hok hfull] at hinit
      cases hinit

end Enumeration

section Init

variable {uevent : ℕ → ℕ → Option (List Char)} {pdevs : List (PciDevice × InitAnswer)}

variable (uevent pdevs) in
/-- The enumeration lists every address once, with a domain that fits a byte, and probes files. -/
structure Enumerated : Prop where
  apart : pdevs.Pairwise (·.1.busAddress ≠ ·.1.busAddress)
  domain : ∀ x ∈ pdevs, x.1.domain.toNat < 256
  probed : ∀ x ∈ pdevs, x.2.hasKernelDriver = true → FromFiles uevent x.1 x.2.update

theorem InitDeviceContext_owns {ok : ℕ → Bool} {pciSystemInit : ℤ} {addr : ℕ} {m m' : Ledger}
    {ret : ℤ} {dctx : DeviceContext} (henum : Enumerated uevent pdevs)
    (hinit : InitDeviceContext ok pciSystemInit pdevs { addr } m = some (ret, dctx, m')) :
    ∃ recorded, recorded <+: displays pdevs ∧ Slots (recorded.map (·.1)) dctx
      ∧ LoadedGood (Device.Owns uevent) dctx := by
  have hstart : LoadedGood (Device.Owns uevent) { addr } := fun i device hi _ => by
    rw [slot_start] at hi
    cases hi
  unfold InitDeviceContext at hinit
  dsimp only at hinit
  split_ifs at hinit
  · obtain ⟨-, hd⟩ := Prod.mk.inj (Option.some.inj hinit)
    obtain ⟨rfl, -⟩ := Prod.mk.inj hd
    exact ⟨[], List.nil_prefix, slots_start addr, hstart⟩
  · rw [initDevices_filter ok pdevs] at hinit
    refine initDevices_good (displays pdevs) (isDisplay_of_mem_displays pdevs)
      (fun x hx addr id hl => ?_) (slots_start addr) hstart hinit
    have hmem : x ∈ pdevs := (List.mem_filter.1 hx).1
    exact InitDevice_owns (henum.probed x hmem) (henum.domain x hmem) rfl hl

theorem slot_pdev {recorded : List PciDevice} {dctx : DeviceContext} (h : Slots recorded dctx)
    {i : ℕ} {pdev : PciDevice} (hi : (dctx.slot i).map (·.pdev) = some pdev) :
    recorded[i]? = some pdev := by
  have hslot := congrArg (Option.map Prod.snd) (h.slot i)
  rw [Option.map_map, Option.map_map] at hslot
  have hpdev : recorded[i]?.map id = some pdev := hslot.symm.trans hi
  rwa [Option.map_id] at hpdev

/-- The devices of two slots have different addresses. -/
theorem slots_apart (henum : Enumerated uevent pdevs) {recorded : List (PciDevice × InitAnswer)}
    (hpre : recorded <+: displays pdevs) {dctx : DeviceContext}
    (h : Slots (recorded.map (·.1)) dctx) {i j : ℕ} (hij : i ≠ j) {p q : PciDevice}
    (hp : (dctx.slot i).map (·.pdev) = some p) (hq : (dctx.slot j).map (·.pdev) = some q) :
    p.busAddress ≠ q.busAddress := by
  have hsub : List.Sublist recorded pdevs := hpre.sublist.trans List.filter_sublist
  have hpairs : (recorded.map (·.1)).Pairwise (PciDevice.busAddress · ≠ PciDevice.busAddress ·) :=
    List.pairwise_map.2 (henum.apart.sublist hsub)
  obtain ⟨hi, hp⟩ := List.getElem?_eq_some_iff.1 (slot_pdev h hp)
  obtain ⟨hj, hq⟩ := List.getElem?_eq_some_iff.1 (slot_pdev h hq)
  rw [← hp, ← hq]
  rcases Nat.lt_or_gt_of_ne hij with hlt | hgt
  · exact List.pairwise_iff_getElem.1 hpairs i j hi hj hlt
  · exact (List.pairwise_iff_getElem.1 hpairs j i hj hi hgt).symm

end Init

/-! ## Runs -/

section Run

variable (uevent : ℕ → ℕ → Option (List Char))

/-- Every loaded device holds its own card, which no other one holds, and so does the device of
every call. -/
structure OwnCards (ui : Ui) : Prop where
  loaded : ∀ i device, ui.dctx.slot i = some device → device.driverisLoaded = true →
    device.Owns uevent
  apart : ∀ i j d e, ui.dctx.slot i = some d → ui.dctx.slot j = some e → d.driverisLoaded = true →
    e.driverisLoaded = true → i ≠ j →
      d.gpuDevice.map (fun card => (card.major, card.minor))
        ≠ e.gpuDevice.map fun card => (card.major, card.minor)
  calls : ∀ call ∈ ui.calls, call.Allowed (Device.Owns uevent)

variable {uevent}

theorem Device.Owns.opened {device : Device} (h : device.Owns uevent) :
    device.gpuDevice ≠ none := by
  obtain ⟨card, hcard, -⟩ := h
  rw [hcard]
  exact Option.some_ne_none card

/-- Two devices with the same card have the same address. -/
theorem Device.Owns.inj {d e : Device} (hd : d.Owns uevent) (he : e.Owns uevent)
    (h : d.gpuDevice.map (fun card => (card.major, card.minor))
      = e.gpuDevice.map fun card => (card.major, card.minor)) :
    d.pdev.busAddress = e.pdev.busAddress := by
  obtain ⟨c, hc, hown⟩ := hd
  obtain ⟨c', hc', hown'⟩ := he
  rw [hc, hc', Option.map_some, Option.map_some, Option.some.injEq, Prod.mk.injEq] at h
  rw [h.1, h.2, hown'] at hown
  exact (Option.some.inj hown).symm

section Step

variable {w : World} {dctx : DeviceContext}
  (hworld : ∀ tick i device, dctx.slot i = some device → w.hasKernelDriver tick i = true →
    FromFiles uevent device.pdev (w.probe tick i))
  (hdomain : ∀ i device, dctx.slot i = some device → device.pdev.domain.toNat < 256)

include hworld hdomain in
theorem step_owns (ui : Ui) (e : Event)
    (h : Inv (scene (Device.Owns uevent) dctx ui.tick) ui) :
    Inv (scene (Device.Owns uevent) dctx (step w ui e).tick) (step w ui e) := by
  refine step_keeps w (fun _ => Device.Owns.opened) rfl h e
    fun _ i _ device hpdev hbound hl hl' => ?_
  obtain ⟨d, hd, heq⟩ := Option.map_eq_some_iff.1 hpdev
  have hfiles := hworld ui.tick i d hd hbound
  have hd256 := hdomain i d hd
  rw [heq] at hfiles hd256
  exact UpdateDeviceInfo_owns hfiles hd256 hl hl'

end Step

/-- In every run on a machine whose card nodes all have an address, every loaded device holds the
card at its own address, no two hold the same, and no tab or sensor is asked for another. -/
theorem main_loop_own_cards (w : World) (ok : ℕ → Bool) (pciSystemInit : ℤ)
    (pdevs : List (PciDevice × InitAnswer)) (addr : ℕ) (m : Ledger) (cols lines : ℤ)
    {ret : ℤ} {dctx : DeviceContext} {m' : Ledger}
    (hinit : InitDeviceContext ok pciSystemInit pdevs { addr } m = some (ret, dctx, m'))
    (henum : Enumerated uevent pdevs)
    (hworld : ∀ tick i device, dctx.slot i = some device → w.hasKernelDriver tick i = true →
      FromFiles uevent device.pdev (w.probe tick i)) (events : List Event) :
    OwnCards uevent (run (step w) (start w dctx cols lines) events) := by
  obtain ⟨recorded, hpre, hslots, hgood⟩ := InitDeviceContext_owns henum hinit
  have hdomain : ∀ i device, dctx.slot i = some device → device.pdev.domain.toNat < 256 := by
    intro i device hi
    have hmem := List.mem_of_getElem? (slot_pdev hslots (i := i) (by rw [hi]; rfl))
    obtain ⟨x, hx, hpdev⟩ := List.mem_map.1 hmem
    refine lt_of_eq_of_lt (congrArg (·.domain.toNat) hpdev.symm) ?_
    exact henum.domain x (List.mem_filter.1 (hpre.subset hx)).1
  have hstart := start_inv (fun _ => Device.Owns.opened) w hslots hgood cols lines
  have hrun := run_keeps (I := fun ui => Inv (scene (Device.Owns uevent) dctx ui.tick) ui)
    (step_owns hworld hdomain) events hstart
  refine ⟨hrun.loaded, fun i j d e hd he hld hle hij heq => ?_, hrun.calls⟩
  have hpdev : ∀ k device, (run (step w) (start w dctx cols lines) events).dctx.slot k
      = some device → (dctx.slot k).map (·.pdev) = some device.pdev := fun k device hk => by
    rw [← show _ = (dctx.slot k).map (·.pdev) from hrun.pdevs k, hk, Option.map_some]
  exact slots_apart henum hpre hslots hij (hpdev i d hd) (hpdev j e he)
    ((hrun.loaded i d hd hld).inj (hrun.loaded j e he hle) heq)

end Run

section Example

def slotUevent (slot : String) : List Char :=
  ("PCI_ID=1002:7550\nPCI_SUBSYS_ID=1002:0B37\nPCI_SLOT_NAME=" ++ slot ++ "\n").toList

def pairUevent (_ minor : ℕ) : Option (List Char) :=
  some (slotUevent (if minor = 0 then "0000:03:00.0" else "0000:04:00.0"))

def pairDri : Dri := ⟨[cardDent 0, cardDent 1], pairUevent, true⟩

def amdgpuLink : DriverLink := ⟨true, some "../../../../bus/pci/drivers/amdgpu".toList⟩

def secondCard : PciDevice := { amdCard with bus := 4 }

/-- Both cards have the driver, and each probe finds its own. -/
def pairWorld : World :=
  { boundWorld 0 with
    hasKernelDriver := fun _ _ => true
    probe := fun _ i => ⟨(0, "amdgpu".toList), some ⟨3 + i, i, 226, i, .card⟩⟩ }

def pairContext : DeviceContext :=
  (({ addr := 0, deviceCount := 2 } : DeviceContext).put 0
    (InitDevice unbound { addr := 1, id := 0, pdev := amdCard }).2).put 1
      (InitDevice unbound { addr := 2, id := 1, pdev := secondCard }).2

theorem pairEnumerated : Enumerated pairUevent [(amdCard, unbound), (secondCard, unbound)] :=
  ⟨by decide, by decide, by simp [unbound]⟩

set_option maxRecDepth 4000 in
theorem pairDri_addresses :
    ∀ e ∈ pairDri.nodes .card, (pairDri.ownAddress e.major e.minor).isSome = true := by
  decide

set_option maxRecDepth 4000 in
theorem pairWorld_files (tick i : ℕ) (device : Device) (h : pairContext.slot i = some device) :
    FromFiles pairUevent device.pdev (pairWorld.probe tick i) := by
  have hpdev := congrArg (Option.map Device.pdev) h
  have hnone : ∀ j < gpuMaxCardSupport, 2 ≤ j → pairContext.slot j = none := by decide
  refine ⟨amdgpuLink, pairDri, rfl, pairDri_addresses, ?_⟩
  match i with
  | 0 =>
    have hdevice : amdCard = device.pdev := Option.some.inj hpdev
    rw [← hdevice]
    exact (by decide : probe amdgpuLink pairDri amdCard = some (pairWorld.probe 0 0))
  | 1 =>
    have hdevice : secondCard = device.pdev := Option.some.inj hpdev
    rw [← hdevice]
    exact (by decide : probe amdgpuLink pairDri secondCard = some (pairWorld.probe 0 1))
  | i + 2 => cases (hnone (i + 2) (lt_of_slot h) (by omega)).symm.trans h

theorem main_loop_own_cards_pair :
    ∃ m', InitDeviceContext (fun _ => true) 0 [(amdCard, unbound), (secondCard, unbound)]
        { addr := 0 } { calls := 1 } = some (0, pairContext, m')
      ∧ OwnCards pairUevent (run (step pairWorld) (start pairWorld pairContext 80 24)
        [.getch err 80 24]) :=
  ⟨_, rfl, main_loop_own_cards pairWorld (fun _ => true) 0
    [(amdCard, unbound), (secondCard, unbound)] 0 { calls := 1 } 80 24 rfl pairEnumerated
    (fun tick i device h _ => pairWorld_files tick i device h) _⟩

end Example

end Amdtop
