import Amdtop.Proofs.MainLoop

/-!
# A device that cannot be opened

Two worlds that differ only in slot `k`: nothing is bound to it, or a driver is. Only the loop of
`deviceUpdate` looks at that, so the runs are the same as long as it does not come to `k`.
-/

namespace Amdtop

open Cmd Heap

/-- No kernel driver is bound to slot `k`. -/
def World.unbind (w : World) (k : ℕ) : World :=
  { w with hasKernelDriver := fun tick i => !(i = k) && w.hasKernelDriver tick i }

/-- A kernel driver is bound to slot `k`, and this is what opening it gives. -/
def World.bind (w : World) (k : ℕ) (probe : ℕ → Probe) : World :=
  { w with
    hasKernelDriver := fun tick i => i = k || w.hasKernelDriver tick i
    probe := fun tick i => if i = k then probe tick else w.probe tick i }

/-- The update of a tab or of the status window. -/
def Call.isUpdate : Call → Bool
  | .tabUpdate _ _ | .sensor _ => true
  | .tabInit _ _ | .tabExit _ _ => false

def Ui.updates (ui : Ui) : List Call := ui.calls.filter Call.isUpdate

/-- The step comes to open slot `k`. -/
def ComesTo (w : World) (k : ℕ) (ui : Ui) (e : Event) : Prop :=
  UpdatesDevices w ui e ∧ Reaches w ui.ask k

section Loop

variable (w : World) {k : ℕ} (probe : ℕ → Probe)

theorem deviceUpdateLoop_congr : ∀ (slots : List ℕ) (ui : Ui), k ∉ slots →
    deviceUpdateLoop (w.unbind k) slots ui = deviceUpdateLoop (w.bind k probe) slots ui
  | [], _, _ => rfl
  | i :: slots, ui, hk => by
    obtain ⟨hi, hslots⟩ := not_or.1 (List.mem_cons.not.1 hk)
    have hdriver : (w.unbind k).hasKernelDriver ui.tick i
        = (w.bind k probe).hasKernelDriver ui.tick i := by
      unfold World.unbind World.bind
      simp [Ne.symm hi]
    have hprobe : (w.unbind k).probe ui.tick i = (w.bind k probe).probe ui.tick i :=
      (if_neg (Ne.symm hi)).symm
    have hrest : deviceUpdateLoop (w.unbind k) slots = deviceUpdateLoop (w.bind k probe) slots :=
      funext fun ui => deviceUpdateLoop_congr slots ui hslots
    unfold deviceUpdateLoop
    rw [hdriver, hprobe, hrest]
    rfl

/-- An error ends the loop. -/
theorem deviceUpdateLoop_append (rest : List ℕ) : ∀ (slots : List ℕ) (ui : Ui),
    (deviceUpdateLoop w slots ui).1 ≠ 0 →
      deviceUpdateLoop w (slots ++ rest) ui = deviceUpdateLoop w slots ui
  | [], _, h => absurd rfl h
  | i :: slots, ui, h => by
    rw [List.cons_append]
    unfold deviceUpdateLoop at h ⊢
    split at h
    · exact absurd rfl h
    dsimp only at h ⊢
    split_ifs at h ⊢ with hskip hret
    · exact deviceUpdateLoop_append rest slots ui h
    · rfl
    · unfold andThen at h ⊢
      split_ifs at h ⊢
      · rfl
      · exact deviceUpdateLoop_append rest slots _ h

theorem deviceUpdate_congr {S : Scene} {ui : Ui} (h : Inv S ui)
    (hk : ¬ Reaches (w.bind k probe) ui k) :
    deviceUpdate (w.unbind k) ui = deviceUpdate (w.bind k probe) ui := by
  unfold deviceUpdate
  rw [h.readActive]
  by_cases hlt : k < ui.dctx.deviceCount
  · have hbefore := deviceUpdateLoop_congr w probe (List.range k) ui List.not_mem_range_self
    have hfail : (deviceUpdateLoop (w.bind k probe) (List.range k) ui).1 ≠ 0 :=
      fun hret => hk ⟨hlt, (h.range_passes _ hlt.le).1 hret⟩
    obtain ⟨n, hn⟩ := Nat.exists_eq_add_of_le hlt.le
    rw [hn, List.range_add, deviceUpdateLoop_append _ _ _ ui hfail,
      deviceUpdateLoop_append _ _ _ ui (by rwa [hbefore]), hbefore]
  · exact deviceUpdateLoop_congr w probe _ ui (by rwa [List.mem_range])

theorem WindowUpdate_same : ∀ win, win ≠ .device →
    WindowUpdate (w.unbind k) win = WindowUpdate (w.bind k probe) win
  | .device, h => absurd rfl h
  | .tab, _ => rfl
  | .main, _ => (rfl : mainUpdate (w.unbind k) = mainUpdate (w.bind k probe))
  | .status, _ => (rfl : updateStatus (w.unbind k) = updateStatus (w.bind k probe))

/-- The other windows do not look at the slot. -/
theorem WindowsUpdate_congr {S : Scene} {ui : Ui} (h : Inv S ui)
    (hk : ui.winUpdated .device + WindowType.device.period ≤ w.clock ui.asked →
      ¬ Reaches (w.bind k probe) ui.ask k) :
    WindowsUpdate (w.unbind k) ui = WindowsUpdate (w.bind k probe) ui := by
  have hask : Inv S ui.ask := { h with }
  have hdevice : updateWindow (w.unbind k) (w.clock ui.asked) .device ui.ask
      = updateWindow (w.bind k probe) (w.clock ui.asked) .device ui.ask := by
    unfold updateWindow
    split_ifs with hdue
    · exact andThen_congr (deviceUpdate_congr w probe hask (hk hdue.2)) rfl
    · rfl
  have hrest : [WindowType.tab, .main, .status].map
        (updateWindow (w.unbind k) (w.clock ui.asked))
      = [WindowType.tab, .main, .status].map
        (updateWindow (w.bind k probe) (w.clock ui.asked)) := by
    refine List.map_congr_left fun win hwin => ?_
    unfold updateWindow
    rw [WindowUpdate_same w probe win (by rintro rfl; simp at hwin)]
    rfl
  exact andThen_congr hdevice (congrArg block hrest)

/-! The commands that do not look at the slot are the same. -/

theorem statusInit_same : statusInit (w.unbind k) = statusInit (w.bind k probe) := by
  have hupdate : updateStatus (w.unbind k) = updateStatus (w.bind k probe) := rfl
  unfold statusInit
  rw [hupdate]

theorem WindowInit_same : WindowInit (w.unbind k) = WindowInit (w.bind k probe) := by
  funext win
  rcases win with _ | _ | _ | _
  · rfl
  · rfl
  · rfl
  · exact statusInit_same w probe

theorem reinit_same : reinit (w.unbind k) = reinit (w.bind k probe) := by
  unfold reinit
  rw [WindowInit_same]

theorem WindowInput_same (ch : ℤ) :
    WindowInput (w.unbind k) ch = WindowInput (w.bind k probe) ch := by
  funext win
  rcases win with _ | _ | _ | _
  · unfold WindowInput deviceHandleInput
    rw [reinit_same]
  · unfold WindowInput tabHandleInput
    rw [WindowInit_same]
  · unfold WindowInput mainHandleInput exitProgram helperHandler
    rw [reinit_same]
    rfl
  · rfl

theorem dispatchInput_same (ch : ℤ) : ∀ wins,
    dispatchInput (w.unbind k) ch wins = dispatchInput (w.bind k probe) ch wins
  | [] => rfl
  | win :: wins => by
    funext ui
    unfold dispatchInput
    rw [WindowInput_same w probe, dispatchInput_same ch wins]

theorem WindowsUpdateUi_same : WindowsUpdateUi (w.unbind k) = WindowsUpdateUi (w.bind k probe) := by
  unfold WindowsUpdateUi WindowsInit initWindow
  rw [WindowInit_same]

theorem step_congr {S : Scene} {ui : Ui} (h : Inv S ui) (e : Event)
    (hk : ¬ ComesTo (w.bind k probe) k ui e) :
    step (w.unbind k) ui e = step (w.bind k probe) ui e := by
  rcases e with ⟨ch, cols, lines⟩ | _
  · unfold step turn WindowsDispatchInput
    dsimp only
    rw [WindowsUpdateUi_same w probe, dispatchInput_same w probe]
    split_ifs with hexit hch hret hidle
    · rfl
    · rfl
    · rfl
    · rw [Bool.or_eq_true, not_or, Bool.not_eq_true, Bool.not_eq_true] at hexit
      rw [WindowsUpdate_congr w probe h fun hdue hreach =>
        hk ⟨⟨hexit.1, hexit.2, hidle, hdue⟩, hreach⟩]
    · rfl
  · rfl

end Loop

/-- From a state of a run of `w₀`: a driver on slot `k` changes no update if no step comes to open
the slot. -/
theorem updates_isolated (w₀ w : World) (ok : ℕ → Bool) (pciSystemInit : ℤ)
    (pdevs : List (PciDevice × InitAnswer)) (addr : ℕ) (m : Ledger) (cols lines : ℤ)
    {ret : ℤ} {dctx : DeviceContext} {m' : Ledger}
    (hinit : InitDeviceContext ok pciSystemInit pdevs { addr } m = some (ret, dctx, m'))
    (before events : List Event) (k : ℕ) (probe : ℕ → Probe)
    (hmeets : Meets (step (w.bind k probe)) (fun ui e => ¬ ComesTo (w.bind k probe) k ui e)
      (run (step w₀) (start w₀ dctx cols lines) before) events) :
    (run (step (w.unbind k)) (run (step w₀) (start w₀ dctx cols lines) before) events).updates
      = (run (step (w.bind k probe)) (run (step w₀) (start w₀ dctx cols lines) before)
        events).updates := by
  obtain ⟨recorded, hslots, hready⟩ := InitDeviceContext_slots hinit
  have hstart := start_inv (fun _ h => h) w₀ hslots (fun i d hi hl => (hready i d hi hl).1)
    cols lines
  have hbefore := run_keeps (I := fun ui => Inv (scene (fun device => device.gpuDevice ≠ none) dctx
    ui.tick) ui) (step_open w₀) before hstart
  exact congrArg Ui.updates (run_congr_of_meets (step_open (w.bind k probe))
    (fun ui e h hk => step_congr w probe h e hk) events hbefore hmeets)

section Example

/-- A second passes with each look at the clock. -/
def slowWorld : World := { boundWorld 0 with clock := fun asked => ms2ns (1000 * (asked + 1)) }

/-- A driver without a card node. -/
def noCard : Probe := ⟨(0, "vfio-pci".toList), none⟩

theorem updates_isolated_mixed :
    (run (step ((boundWorld 0).unbind 1))
        (run (step (boundWorld 0)) (start (boundWorld 0) mixedContext 80 24) [.getch err 80 24])
        [.getch err 80 24]).updates
      = (run (step ((boundWorld 0).bind 1 fun _ => noCard))
        (run (step (boundWorld 0)) (start (boundWorld 0) mixedContext 80 24) [.getch err 80 24])
        [.getch err 80 24]).updates := by
  have hnot : ¬ ComesTo ((boundWorld 0).bind 1 fun _ => noCard) 1
      (run (step (boundWorld 0)) (start (boundWorld 0) mixedContext 80 24) [.getch err 80 24])
      (.getch err 80 24) := fun h => absurd h.1.2.2.2 (by decide)
  exact updates_isolated (boundWorld 0) (boundWorld 0) (fun _ => true) 0
    [(amdCard, unbound), (intelCard, unbound)] 0 { calls := 1 } 80 24 rfl [.getch err 80 24] _ 1
    (fun _ => noCard) ⟨hnot, trivial⟩

/-- The AMD card is active and loaded, and the other card has a driver but no card node: its tab
and the status window are not updated any more. -/
theorem updates_not_isolated :
    ∃ m' ui, InitDeviceContext (fun _ => true) 0 [(amdCard, unbound), (intelCard, unbound)]
        { addr := 0 } { calls := 1 } = some (0, mixedContext, m')
      ∧ ui = run (step slowWorld) (start slowWorld mixedContext 80 24) [.getch err 80 24]
      ∧ DeviceDriverisLoaded (getAcitveDevice ui) = true ∧ ui.activeDeviceID = 0
      ∧ DeviceDriverisLoaded (ui.dctx.slot 1) = false
      ∧ (∀ tick device, (UpdateDeviceInfo ((slowWorld.bind 1 fun _ => noCard).probe tick 1)
          device).1 ≠ 0)
      ∧ (run (step (slowWorld.unbind 1)) ui [.getch err 80 24]).updates
        ≠ (run (step (slowWorld.bind 1 fun _ => noCard)) ui [.getch err 80 24]).updates := by
  refine ⟨_, _, rfl, rfl, by decide, by decide, by decide,
    fun _ _ => (by decide : -eacces ≠ 0), fun h => ?_⟩
  exact absurd (congrArg List.length h) (by decide)

end Example

end Amdtop
