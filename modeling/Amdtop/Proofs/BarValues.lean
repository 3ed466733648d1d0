import Amdtop.Proofs.StateBars

/-!
# Percentages over a run

All calls of `barSetValue` in a run are as they should be exactly if 32 bits are enough for what
each of its steps shows (`bar_values_iff`).
-/

namespace Amdtop

open Stdio Cmd

namespace StateInfo

/-- The width of the bars the init sets up. -/
def initWidth (layout : WindowLayout) : ℕ := (UInt32.ofInt (innerWidth layout)).toNat

section Runs

variable (readings : ℕ → Option (List Char))

/-- 32 bits are enough for the refresh of an init. -/
def InitFits (tab : StateInfo) (layout : WindowLayout) (a : InitAnswers) : Prop :=
  RefreshFits (initWidth layout) (fun type => (initMaxima a type).number)
    (fun type => (initMaxima a type).reads) (minCpuLoad readings tab.load).1.toNat a.refresh

/-- 32 bits are enough for the refresh of an event, if there is one and the bars are drawn. -/
def EventFits (tab : StateInfo) : Event → Prop
  | .init layout a => tab.fault = false → tooSmall layout = false → InitAnswered a →
    4 ≤ initWidth layout → InitFits readings tab layout a
  | .update r => tab.fault = false → tab.needRefresh = true → 4 ≤ tab.view.bars.width →
    RefreshFits tab.view.bars.width tab.barMax tab.maxReads (minCpuLoad readings tab.load).1.toNat r

theorem updateClientInfo_log (r : Refresh) : Leaves AllRight (updateClientInfo r) := fun tab => by
  unfold updateClientInfo
  split
  · rfl
  · rfl

theorem init_adds {tab : StateInfo} (layout : WindowLayout) (a : InitAnswers)
    (hsize : tooSmall layout = false) :
    AllRight (tabStateInfoInit layout readings a tab).2 ↔ AllRight tab ∧ (InitAnswered a →
      4 ≤ initWidth layout → InitFits readings tab layout a) := by
  obtain ⟨m', hprepare⟩ := prepare_adds (b := tab.view.bars) (x := tab.sensorInfo)
    (m := tab.memInfo) (d := tab.deviceInfo.amdgpu) (l := tab.load) layout a
  obtain ⟨w, S, hrefresh⟩ := updateSensorValue_adds
    ((created_sound _ _).withMaxima (initMaxima a)) a.refresh readings
  have hchain := hprepare.cons (hrefresh.cons adds_nil)
  rw [tabStateInfoInit, hsize, if_neg Bool.false_ne_true]
  have hclient := ((updateClientInfo_log a.refresh).cons leaves_nil).after
    (block [prepare layout a, updateSensorValue readings a.refresh]) tab
  rw [← block_append] at hclient
  refine (iff_of_eq hclient).trans ((hchain.adds tab rfl).trans (and_congr_right fun _ => ?_))
  exact ⟨fun h hall => (h.2 hall).1, fun h => ⟨trivial, fun hall => ⟨h hall, fun _ => trivial⟩⟩⟩

theorem update_adds {tab : StateInfo} (h : Sound tab) (r : Refresh)
    (hrefresh : tab.needRefresh = true) :
    AllRight (tabStateInfoUpdate readings r tab).2 ↔ AllRight tab ∧ (4 ≤ tab.view.bars.width →
      RefreshFits tab.view.bars.width tab.barMax tab.maxReads
        (minCpuLoad readings tab.load).1.toNat r) := by
  obtain ⟨w, S, hadds⟩ := updateSensorValue_adds h.bars r readings
  have hclient :=
    ((updateClientInfo_log r).cons leaves_nil).after (updateSensorValue readings r) tab
  rw [tabStateInfoUpdate, hrefresh, if_neg (by decide)]
  exact (iff_of_eq hclient).trans (hadds.adds tab rfl)

/-- What an event adds. -/
theorem step_adds (tab : StateInfo) : ∀ e : Event, Sound tab →
    (AllRight (step readings tab e) ↔ AllRight tab ∧ EventFits readings tab e)
  | .init layout a, h => by
    rcases hrun : tab.fault
    · rw [step_init readings hrun]
      rcases hsize : tooSmall layout
      · rw [init_adds readings layout a hsize]
        exact and_congr_right fun _ => ⟨fun hfits _ _ => hfits, fun hfits => hfits hrun hsize⟩
      · rw [init_small layout readings a tab hsize]
        exact (and_iff_left fun _ hlarge => absurd (hsize.symm.trans hlarge) (by decide)).symm
    · rw [step, hrun, if_pos rfl]
      exact (and_iff_left fun hnot => absurd (hrun.symm.trans hnot) (by decide)).symm
  | .update r, h => by
    rcases hrun : tab.fault
    · rw [step_update readings hrun]
      rcases hrefresh : tab.needRefresh
      · rw [tabStateInfoUpdate, hrefresh, if_pos (by decide)]
        exact (and_iff_left fun _ hnot => absurd (hrefresh.symm.trans hnot) (by decide)).symm
      · rw [update_adds readings h r hrefresh]
        exact and_congr_right fun _ => ⟨fun hfits _ _ => hfits, fun hfits => hfits hrun hrefresh⟩
    · rw [step, hrun, if_pos rfl]
      exact (and_iff_left fun hnot => absurd (hrun.symm.trans hnot) (by decide)).symm

/-- All calls of a run are as they should be exactly if 32 bits are enough in each of its steps. -/
theorem bar_values_iff (events : List Event) :
    (∀ c ∈ (run (step readings) {} events).log, c.Right)
      ↔ Meets (step readings) (EventFits readings) {} events := by
  refine (run_iff_meets (I := AllRight) (step_sound readings) (step_adds readings) events
    start_sound).trans (and_iff_right fun c hc => ?_)
  exact absurd hc List.not_mem_nil

end Runs

/-- What is available is at most what there is. -/
def Event.MemOrdered : Event → Prop
  | .init _ a => (memAvailable a.refresh.freeMem).number ≤ (memTotal a.refresh.totalMem).number
  | .update r => (memAvailable r.freeMem).number ≤ (memTotal r.totalMem).number

/-- The card, where `/proc/meminfo` cannot be read. -/
def unreadable : InitAnswers :=
  { cardAnswers with
    totalMem := none
    refresh := { cardRefresh with totalMem := none, freeMem := none } }

theorem bar_values_unreadable : ¬ ∀ (readings : ℕ → Option (List Char)) (events : List Event),
    (∀ e ∈ events, e.MemOrdered) → ∀ c ∈ (run (step readings) {} events).log, c.Right := by
  intro h
  have hright := h busyReadings [.init wideLayout unreadable] fun e he => by
    obtain rfl := List.mem_singleton.1 he
    exact show (0 : ℤ) ≤ 0 from le_rfl
  obtain ⟨hfits, -⟩ := (bar_values_iff busyReadings _).1 hright
  have hsysMem := (hfits rfl (by decide) ⟨rfl, fun _ => ⟨rfl, rfl⟩⟩ (by decide)).sysMem
    ⟨rfl, rfl, rfl, fun _ => ⟨rfl, rfl⟩⟩
  exact absurd hsysMem.max_pos (by decide)

end StateInfo

end Amdtop
