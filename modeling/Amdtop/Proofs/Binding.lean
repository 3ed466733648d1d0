import Amdtop.Retry
import Amdtop.Proofs.Navigation

/-!
# Which devices are loaded after the start

Each update of the device window is a scan of the slots (`deviceUpdateLoop_scan`): it ends with the
first device that has a driver and cannot be loaded, and with an error of the main window after one
that was. Nothing else changes the devices (`step_dctx`), so they are loaded in the order of the
slots, and none behind one that cannot be (`main_loop_binds`).
-/

namespace Amdtop

open Cmd Heap Retry

/-- The slots below the count have a device. -/
structure DeviceContext.Filled (dctx : DeviceContext) : Prop where
  fits : dctx.deviceCount ≤ gpuMaxCardSupport
  slot : ∀ i < dctx.deviceCount, ∃ device, dctx.slot i = some device

theorem Slots.filled {recorded : List PciDevice} {dctx : DeviceContext} (h : Slots recorded dctx) :
    dctx.Filled := by
  refine ⟨h.count.trans_le h.fits, fun i hi => ?_⟩
  have hslot := h.slot i
  rw [List.getElem?_eq_getElem (hi.trans_eq h.count), Option.map_some,
    Option.map_eq_some_iff] at hslot
  obtain ⟨device, hdevice, -⟩ := hslot
  exact ⟨device, hdevice⟩

section Put

variable {dctx : DeviceContext} {i : ℕ} {device : Device}

theorem DeviceContext.Filled.put (h : dctx.Filled) (hi : i < gpuMaxCardSupport) (device : Device) :
    (dctx.put i device).Filled := by
  refine ⟨h.fits, fun j hj => ?_⟩
  rw [slot_put dctx hi]
  split_ifs
  · exact ⟨device, rfl⟩
  · exact h.slot j hj

theorem DeviceContext.Filled.index (h : dctx.Filled) (hi : i < dctx.deviceCount) :
    ∃ device, getDeviceByIndex dctx i = some device ∧ dctx.slot i = some device
      ∧ dctx.loaded i = device.driverisLoaded := by
  obtain ⟨device, hdevice⟩ := h.slot i hi
  refine ⟨device, ?_, hdevice, ?_⟩
  · unfold getDeviceByIndex
    rwa [if_neg (by omega)]
  · unfold DeviceContext.loaded
    rw [hdevice]
    rfl

end Put

/-! ## One update -/

theorem dctx_of_course {ui : Ui} {course : Course} (h : ui.course = course) :
    ui.dctx = course.dctx := congrArg Course.dctx h

section Scan

variable {w : World} {bound good : ℕ → Bool} (hbound : ∀ tick i, w.hasKernelDriver tick i = bound i)
  (hgood : ∀ tick i, (w.probe tick i).succeeds = good i)

include hbound hgood in
theorem deviceUpdateLoop_scan : ∀ (slots : List ℕ) (ui : Ui), ui.dctx.Filled →
    (∀ i ∈ slots, i < ui.dctx.deviceCount) → Scan bound good slots ui.dctx.loaded
      (deviceUpdateLoop w slots ui).2.dctx.loaded
      ∧ (deviceUpdateLoop w slots ui).2.dctx.Filled
      ∧ (deviceUpdateLoop w slots ui).2.dctx.deviceCount = ui.dctx.deviceCount
  | [], ui, hf, _ => ⟨.nil _, hf, rfl⟩
  | i :: slots, ui, hf, hslots => by
    obtain ⟨hi, hslots⟩ := List.forall_mem_cons.1 hslots
    obtain ⟨device, hindex, hslot, hloaded⟩ := hf.index hi
    have hlt := lt_of_slot hslot
    unfold deviceUpdateLoop
    rw [hindex]
    dsimp only
    split_ifs with hskip hret
    · rw [Bool.or_eq_true, Bool.not_eq_true', hbound, ← hloaded] at hskip
      obtain ⟨hscan, hrest⟩ := deviceUpdateLoop_scan slots ui hf hslots
      exact ⟨.skip hskip hscan, hrest⟩
    all_goals
      rw [Bool.or_eq_true, not_or, Bool.not_eq_true, Bool.not_eq_true', Bool.not_eq_false,
        hbound] at hskip
      have hdone := hloaded.trans hskip.1
      have hput : (ui.dctx.put i (UpdateDeviceInfo (w.probe ui.tick i) device).2).loaded = _ :=
        loaded_put hlt _
      have hfilled := hf.put hlt (UpdateDeviceInfo (w.probe ui.tick i) device).2
      rw [UpdateDeviceInfo_isLoaded hskip.1, hgood] at hput
      rw [Ne, UpdateDeviceInfo_fst_iff, hgood] at hret
    · rw [Bool.not_eq_true] at hret
      rw [hret, ← hdone, Function.update_eq_self] at hput
      refine ⟨?_, hfilled, rfl⟩
      rw [hput]
      exact .fail slots hdone hskip.2 hret
    · rw [not_not] at hret
      rw [hret] at hput
      set ui₁ : Ui := { ui with
        dctx := ui.dctx.put i (UpdateDeviceInfo (w.probe ui.tick i) device).2 }
      have hdctx : (mainInit w ui₁).2.dctx = ui₁.dctx := dctx_of_course (mainInit_course w ui₁)
      unfold andThen
      split_ifs
      · rw [hdctx]
        refine ⟨?_, hfilled, rfl⟩
        rw [hput]
        exact .stop slots hdone hskip.2 hret
      · obtain ⟨hscan, hrest, hcount⟩ := deviceUpdateLoop_scan slots (mainInit w ui₁).2
          (hdctx ▸ hfilled) (hdctx ▸ hslots)
        rw [hdctx, hput] at hscan
        rw [hdctx] at hcount
        exact ⟨.next hdone hskip.2 hret hscan, hrest, hcount⟩

end Scan

/-! ## Runs -/

instance (w : World) (ui : Ui) : ∀ e, Decidable (UpdatesDevices w ui e)
  | .getch ch _ _ => inferInstanceAs (Decidable (ui.requesetExit = false ∧ ui.returned = false
      ∧ ch = err ∧ ui.winUpdated .device + WindowType.device.period ≤ w.clock ui.asked))
  | .signal => inferInstanceAs (Decidable False)

/-- How many steps of the run update the device window. -/
def updates (w : World) : Ui → List Event → ℕ
  | _, [] => 0
  | ui, e :: events =>
    (if UpdatesDevices w ui e then 1 else 0) + updates w (step w ui e) events

section Step

variable (w : World)

theorem turn_dctx (ch cols lines : ℤ) (ui : Ui) :
    (turn w ch cols lines ui).dctx = if ch = err then ticked w ui else ui.dctx := by
  unfold turn
  split_ifs with hresize hidle hidle
  · exact absurd (hresize.symm.trans hidle) (by decide)
  · have hdctx : (WindowsUpdateUi w cols lines ui).2.dctx = ui.dctx :=
      dctx_of_course (WindowsUpdateUi_course w cols lines ui)
    dsimp only
    split_ifs
    · exact hdctx
    · exact hdctx
  · exact dctx_of_course (WindowsUpdate_course w ui)
  · exact dctx_of_course WindowsDispatchInput_course

/-- Only an update of the device window changes the devices. -/
theorem step_dctx (ui : Ui) (e : Event) : (step w ui e).dctx
    = if UpdatesDevices w ui e then (deviceUpdate w ui.ask).2.dctx else ui.dctx := by
  rcases e with ⟨ch, cols, lines⟩ | _
  · unfold step
    by_cases hexit : (ui.requesetExit || ui.returned) = true
    · dsimp only
      rw [if_pos hexit, if_neg]
      rintro ⟨h1, h2, -⟩
      rw [h1, h2] at hexit
      cases hexit
    · dsimp only
      rw [if_neg hexit, turn_dctx, ticked]
      rw [Bool.or_eq_true, not_or, Bool.not_eq_true, Bool.not_eq_true] at hexit
      unfold UpdatesDevices
      by_cases hidle : ch = err
      · simp [hidle, hexit]
      · simp [hidle]
  · exact (if_neg fun h : False => h).symm

end Step

section Run

variable {w : World} {bound good : ℕ → Bool} {dctx : DeviceContext}

variable (bound good dctx) in
/-- The devices that are to be loaded, in the order of the slots. -/
def loadOrder : List ℕ := reach bound good (List.range dctx.deviceCount) dctx.loaded

variable (bound good dctx) in
/-- After `n` updates. -/
structure Bound (ui : Ui) (n : ℕ) : Prop where
  filled : ui.dctx.Filled
  count : ui.dctx.deviceCount = dctx.deviceCount
  served : Served bound good (List.range dctx.deviceCount) dctx.loaded ui.dctx.loaded n

variable (hbound : ∀ tick i, w.hasKernelDriver tick i = bound i)
  (hgood : ∀ tick i, (w.probe tick i).succeeds = good i)

include hbound hgood in
theorem step_binds {ui : Ui} {n : ℕ} (h : Bound bound good dctx ui n) (e : Event) :
    Bound bound good dctx (step w ui e) (n + if UpdatesDevices w ui e then 1 else 0) := by
  have hdctx := step_dctx w ui e
  split_ifs with hupdate
  · rw [if_pos hupdate] at hdctx
    have hread : ui.ask.readActive.dctx = ui.dctx :=
      dctx_of_course (readActive_course ui.ask)
    obtain ⟨hscan, hfilled, hcount⟩ := deviceUpdateLoop_scan hbound hgood
      (List.range ui.ask.dctx.deviceCount) ui.ask.readActive (hread ▸ h.filled)
      (fun i hi => (List.mem_range.1 hi).trans_eq (congrArg (·.deviceCount) hread.symm))
    rw [hread] at hscan hcount
    have hrange : List.range ui.ask.dctx.deviceCount = List.range dctx.deviceCount :=
      congrArg List.range h.count
    refine ⟨?_, ?_, ?_⟩
    · rw [hdctx]
      exact hfilled
    · rw [hdctx]
      exact hcount.trans h.count
    · rw [hdctx]
      exact h.served.scan List.nodup_range (hrange ▸ hscan)
  · rw [if_neg hupdate] at hdctx
    refine ⟨?_, ?_, ?_⟩
    · rw [hdctx]
      exact h.filled
    · rw [hdctx]
      exact h.count
    · rw [hdctx]
      exact h.served

include hbound hgood in
theorem run_binds : ∀ (events : List Event) {ui : Ui} {n : ℕ}, Bound bound good dctx ui n →
    Bound bound good dctx (run (step w) ui events) (n + updates w ui events)
  | [], _, _, h => h
  | e :: events, ui, n, h => by
    have hrun := run_binds events (step_binds hbound hgood h e)
    rwa [add_assoc] at hrun

variable (bound good dctx) in
/-- The device waits for a driver that is there, and no device in a slot before it waits in vain. -/
def Loadable (i : ℕ) : Prop :=
  i < dctx.deviceCount ∧ (dctx.loaded i = false ∧ bound i = true ∧ good i = true)
    ∧ ∀ j < i, dctx.loaded j = false → bound j = true → good j = true

theorem mem_loadOrder (i : ℕ) : i ∈ loadOrder bound good dctx ↔ Loadable bound good dctx i := by
  rw [loadOrder, mem_reach_iff]
  constructor
  · rintro ⟨hi, pre, hpre, hall⟩
    obtain ⟨rfl, hlt⟩ := range_of_initial hpre
    exact ⟨hlt, hi, fun j hj => hall j (List.mem_range.2 hj)⟩
  · rintro ⟨hlt, hi, hall⟩
    have hpre : List.range i ++ [i] <+: List.range dctx.deviceCount := by
      rw [← List.range_succ, List.prefix_iff_eq_take, List.take_range, List.length_range,
        Nat.min_eq_left hlt]
    exact ⟨hi, List.range i, hpre, fun j hj => hall j (List.mem_range.1 hj)⟩

/-- Where drivers are there or not throughout, and each probe turns out the same throughout, the
devices are loaded in order, one an update at least; and after as many updates as there are devices,
all are that can be, and no device behind one that waits in vain. -/
theorem main_loop_binds (w : World) (ok : ℕ → Bool) (pciSystemInit : ℤ)
    (pdevs : List (PciDevice × InitAnswer)) (addr : ℕ) (m : Ledger) (cols lines : ℤ)
    {ret : ℤ} {dctx : DeviceContext} {m' : Ledger}
    (hinit : InitDeviceContext ok pciSystemInit pdevs { addr } m = some (ret, dctx, m'))
    {bound good : ℕ → Bool} (hbound : ∀ tick i, w.hasKernelDriver tick i = bound i)
    (hgood : ∀ tick i, (w.probe tick i).succeeds = good i) (events : List Event) :
    (∃ k, min (updates w (start w dctx cols lines) events) (loadOrder bound good dctx).length ≤ k
        ∧ ∀ i, (run (step w) (start w dctx cols lines) events).dctx.loaded i = true
          ↔ dctx.loaded i = true ∨ i ∈ (loadOrder bound good dctx).take k)
      ∧ (dctx.deviceCount ≤ updates w (start w dctx cols lines) events →
        ∀ i, (run (step w) (start w dctx cols lines) events).dctx.loaded i = true
          ↔ dctx.loaded i = true ∨ Loadable bound good dctx i) := by
  obtain ⟨recorded, hslots, -⟩ := InitDeviceContext_slots hinit
  have hdctx : (start w dctx cols lines).dctx = dctx :=
    dctx_of_course (WindowsUpdateUi_course w cols lines _)
  have hstart : Bound bound good dctx (start w dctx cols lines) 0 := by
    refine ⟨?_, ?_, ?_⟩
    · rw [hdctx]
      exact hslots.filled
    · rw [hdctx]
    · rw [hdctx]
      exact served_zero _ _
  have hrun := (run_binds hbound hgood events hstart).served
  rw [zero_add] at hrun
  refine ⟨?_, fun hmany i => ?_⟩
  · obtain ⟨k, hk, hloaded⟩ := hrun
    refine ⟨k, hk, fun i => ?_⟩
    rw [hloaded, serve, Bool.or_eq_true, decide_eq_true_iff]
    rfl
  · have hall := hrun.all (by rwa [List.length_range]) (length_reach_le _ _)
    rw [hall, serve, Bool.or_eq_true, decide_eq_true_iff, ← mem_loadOrder]
    rfl

end Run

section Example

/-- Both devices have a driver, but the first has no card. -/
def blockedWorld : World :=
  { boundWorld 0 with
    hasKernelDriver := fun _ _ => true
    probe := fun _ i => ⟨(0, "amdgpu".toList), if i = 0 then none else some ⟨3, 0, 226, 0, .card⟩⟩
    clock := fun asked => ms2ns (1000 * (asked + 1)) }

/-- The second device is not loaded, though nothing is amiss with it. -/
theorem main_loop_binds_blocked :
    updates blockedWorld (start blockedWorld mixedContext 80 24)
        [.getch err 80 24, .getch err 80 24] = 2
      ∧ (run (step blockedWorld) (start blockedWorld mixedContext 80 24)
        [.getch err 80 24, .getch err 80 24]).dctx.loaded 1 = false := by
  have hupdates : updates blockedWorld (start blockedWorld mixedContext 80 24)
      [.getch err 80 24, .getch err 80 24] = 2 := by decide
  have hinit : InitDeviceContext (fun _ => true) 0 [(amdCard, unbound), (intelCard, unbound)]
      { addr := 0 } { calls := 1 } = some (0, mixedContext, _) := rfl
  have hgood : ∀ tick i, (blockedWorld.probe tick i).succeeds = decide (i ≠ 0) := fun tick i => by
    rcases i with _ | i
    · rfl
    · rfl
  obtain ⟨-, hall⟩ := main_loop_binds blockedWorld (fun _ => true) 0
    [(amdCard, unbound), (intelCard, unbound)] 0 { calls := 1 } 80 24 hinit
    (fun _ _ => rfl) hgood [.getch err 80 24, .getch err 80 24]
  refine ⟨hupdates, Bool.eq_false_iff.2 fun hloaded => ?_⟩
  rcases (hall (by rw [hupdates]; decide) 1).1 hloaded with h | ⟨-, -, hbefore⟩
  · exact absurd h (by decide)
  · exact absurd (hbefore 0 Nat.one_pos (by decide) rfl) (by decide)

end Example

end Amdtop
