import Amdtop.Proofs.BarCalls
import Amdtop.Proofs.CpuLoad

/-!
# What the bars are set to

The value of the processors' bar is asked for twice, since the load is always less than 1000
(`cpu_bar_iff`).
-/

namespace Amdtop

open Stdio Cmd

namespace StateInfo

/-! ## The processors' bar -/

theorem beforeCpu_fst (tab : StateInfo) (hbars : tab.view.bars.Sound) (r : Refresh) :
    (block (beforeCpu r) tab).1 = 0 ↔ ReachesCpu tab.view.bars r := by
  obtain ⟨x', m', hadds⟩ := beforeCpu_adds hbars r
  exact hadds.ok tab rfl

/-- The load is kept, and the calls so far were for other bars. -/
def NoCpu (load : CpuLoad) (tab : StateInfo) : Prop :=
  tab.load = load ∧ ∀ c ∈ tab.log, c.type ≠ .cpuLoad

theorem setValue_noCpu {load : CpuLoad} {type : BarType} (htype : type ≠ .cpuLoad) (value : ℤ)
    (arg : UInt32) (reads : List MemRead) :
    Keeps (NoCpu load) (setValue type value arg reads) := fun tab h => by
  unfold setValue
  rcases (tab.sensorBar type).setValue arg with _ | bar
  · exact ⟨h.1, List.forall_mem_cons.2 ⟨htype, h.2⟩⟩
  · exact ⟨h.1, List.forall_mem_cons.2 ⟨htype, h.2⟩⟩

theorem beforeCpu_noCpu (load : CpuLoad) (r : Refresh) :
    Keeps (NoCpu load) (block (beforeCpu r)) :=
  beforeCpu_keeps (fun _ _ _ h => h) (fun _ _ h => h) fun _ htype => setValue_noCpu htype

theorem afterCpu_leaves (r : Refresh) :
    Leaves (fun tab : StateInfo => (tab.load, tab.log)) (block (afterCpu r)) :=
  leaves_iff.2 fun _ => afterCpu_keeps fun _ _ _ h => h

section Cpu

variable (readings : ℕ → Option (List Char))

theorem setCpuLoad_state (tab : StateInfo) :
    (setCpuLoad readings tab).2.load = (minCpuLoad readings tab.load).2
      ∧ ∃ c ∈ (setCpuLoad readings tab).2.log, c.type = .cpuLoad
        ∧ c.arg = (minCpuLoad readings tab.load).1 := by
  unfold setCpuLoad setValue
  dsimp only
  rcases (tab.sensorBar .cpuLoad).setValue (minCpuLoad readings tab.load).1 with _ | bar
  · exact ⟨rfl, _, List.mem_cons_self, rfl, rfl⟩
  · exact ⟨rfl, _, List.mem_cons_self, rfl, rfl⟩

theorem start_kept (load : CpuLoad) : (load.start readings).lastPercent = load.lastPercent
    ∧ (load.start readings).first = false := by
  unfold CpuLoad.start
  split_ifs with hfirst
  · exact ⟨rfl, rfl⟩
  · exact ⟨rfl, Bool.not_eq_true _ ▸ hfirst⟩

theorem getCpuLoad_kept (load : CpuLoad) :
    (getCpuLoad readings load).2.lastPercent = (getCpuLoad readings load).1
      ∧ (getCpuLoad readings load).2.first = false
      ∧ (getCpuLoad readings load).2.taken = (load.start readings).taken + 1 := by
  obtain ⟨-, hfirst⟩ := start_kept readings load
  unfold getCpuLoad
  dsimp only
  split_ifs
  · exact ⟨rfl, hfirst, rfl⟩
  · exact ⟨rfl, hfirst, rfl⟩

theorem getCpuLoad_lt {load : CpuLoad} (h : load.lastPercent.toNat < 1000) :
    (getCpuLoad readings load).1.toNat < 1000 := by
  unfold getCpuLoad
  dsimp only
  split_ifs
  · rw [(start_kept readings load).1]
    exact h
  · dsimp only
    generalize (1000 - _ : UInt64) = avg
    rw [UInt64.toNat_toUInt32, UInt64.toNat_mod]
    exact (Nat.mod_le _ _).trans_lt (Nat.mod_lt _ (by decide))

/-- The load is less than 1000, so the macro asks for it again. -/
theorem minCpuLoad_eq {load : CpuLoad} (h : load.lastPercent.toNat < 1000) :
    minCpuLoad readings load = ((getCpuLoad readings (getCpuLoad readings load).2).1 / 10,
      (getCpuLoad readings (getCpuLoad readings load).2).2) := by
  have hlt := getCpuLoad_lt readings h
  refine if_pos (UInt32.lt_iff_toNat_lt.2 ?_)
  rw [UInt32.toNat_div]
  exact Nat.div_lt_of_lt_mul hlt

/-- Asking twice takes a reading more. -/
theorem minCpuLoad_taken {load : CpuLoad} (h : load.lastPercent.toNat < 1000) :
    (minCpuLoad readings load).2.taken = (getCpuLoad readings load).2.taken + 1 := by
  obtain ⟨-, hfirst, -⟩ := getCpuLoad_kept readings load
  rw [minCpuLoad_eq readings h]
  dsimp only
  rw [(getCpuLoad_kept readings _).2.2, CpuLoad.start_of_first readings hfirst]

/-- The state after a refresh, with only its own calls in the log. -/
def refreshed (tab : StateInfo) (r : Refresh) : StateInfo :=
  (updateSensorValue readings r { tab with log := [] }).2

/-- What a refresh should do: set the bar to a tenth of one load, and take the reading for that. -/
def CpuRight (tab : StateInfo) (r : Refresh) : Prop :=
  ∀ c ∈ (refreshed readings tab r).log, c.type = .cpuLoad →
    c.arg = MIN ((getCpuLoad readings tab.load).1 / 10) 100
      ∧ (refreshed readings tab r).load = (getCpuLoad readings tab.load).2

section Refreshed

variable {tab : StateInfo} (hbars : tab.view.bars.Sound) (r : Refresh)

include hbars in
theorem refreshed_reaches (hreach : ReachesCpu tab.view.bars r) :
    (refreshed readings tab r).load = (minCpuLoad readings tab.load).2
      ∧ ∃ c ∈ (refreshed readings tab r).log, c.type = .cpuLoad := by
  obtain ⟨hload, -⟩ := beforeCpu_noCpu tab.load r { tab with log := [] }
    ⟨rfl, fun _ hc => absurd hc List.not_mem_nil⟩
  have hbefore : (block (beforeCpu r) { tab with log := [] }).1 = 0 :=
    (beforeCpu_fst { tab with log := [] } hbars r).2 hreach
  have hafter := (afterCpu_leaves r).after (setCpuLoad readings)
    (block (beforeCpu r) { tab with log := [] }).2
  obtain ⟨hstate, c, hc, htype, -⟩ :=
    setCpuLoad_state readings (block (beforeCpu r) { tab with log := [] }).2
  obtain ⟨hload', hlog⟩ := Prod.mk.inj hafter
  rw [refreshed, updateSensorValue_eq, andThen_ok hbefore, hload', hlog, hstate, hload]
  exact ⟨rfl, c, hc, htype⟩

include hbars in
theorem refreshed_stops (hreach : ¬ ReachesCpu tab.view.bars r) :
    ∀ c ∈ (refreshed readings tab r).log, c.type ≠ .cpuLoad := by
  have hbefore : (block (beforeCpu r) { tab with log := [] }).1 ≠ 0 :=
    mt (beforeCpu_fst { tab with log := [] } hbars r).1 hreach
  rw [refreshed, updateSensorValue_eq, andThen_error hbefore]
  exact (beforeCpu_noCpu tab.load r { tab with log := [] }
    ⟨rfl, fun _ hc => absurd hc List.not_mem_nil⟩).2

include hbars in
theorem cpuRight_iff (hload : tab.load.lastPercent.toNat < 1000) :
    CpuRight readings tab r ↔ ¬ ReachesCpu tab.view.bars r := by
  constructor
  · intro hright hreach
    obtain ⟨htwice, c, hc, htype⟩ := refreshed_reaches readings hbars r hreach
    have htaken := congrArg CpuLoad.taken (htwice.symm.trans (hright c hc htype).2)
    rw [minCpuLoad_taken readings hload] at htaken
    exact absurd htaken (Nat.succ_ne_self _)
  · exact fun hreach c hc htype => absurd htype (refreshed_stops readings hbars r hreach c hc)

end Refreshed

end Cpu

/-! ## Runs -/

/-- What holds between the calls of the tab. -/
structure Sound (tab : StateInfo) : Prop where
  bars : tab.view.bars.Sound
  load : tab.load.lastPercent.toNat < 1000

theorem Sound.of_eq {tab tab' : StateInfo} (h : Sound tab) (hbars : tab'.view.bars = tab.view.bars)
    (hload : tab'.load = tab.load) : Sound tab' := ⟨hbars ▸ h.bars, hload ▸ h.load⟩

theorem setValue_sound (type : BarType) (value : ℤ) (arg : UInt32) (reads : List MemRead) :
    Keeps Sound (setValue type value arg reads) := fun tab h =>
  h.of_eq (congrArg View.bars (setValue_view type value arg reads tab))
    (congrArg View.load (setValue_view type value arg reads tab))

theorem querySensor_sound (r : Refresh) (type : GpuSensorType) (n : ℕ) :
    Keeps Sound (querySensor r type n) := fun _ h => h.of_eq rfl rfl

theorem queryMem_sound (device : ℕ) (memory : MemAnswers) (type : GpuMemType) :
    Keeps Sound (queryMem device memory type) := fun _ h => h.of_eq rfl rfl

theorem queryDevice_sound (device : ℕ) (devInfo : Option DeviceClocks) :
    Keeps Sound (queryDevice device devInfo) := fun _ h => h.of_eq rfl rfl

theorem updateClientInfo_sound (r : Refresh) : Keeps Sound (updateClientInfo r) := fun tab h => by
  unfold updateClientInfo
  split
  · exact h.of_eq rfl rfl
  · exact h.of_eq rfl rfl

theorem setMaxima_sound (a : InitAnswers) : Keeps Sound (setMaxima a) := fun tab h => by
  have hbars : (setMaxima a tab).2.view.bars = tab.view.bars.withMaxima _ :=
    congrArg View.bars ((setMaxima_adds a).next tab rfl trivial)
  exact ⟨hbars ▸ h.bars.withMaxima _, h.load⟩

/-- Setting up the bars makes them sound, whatever they were. -/
theorem Sound.of_created {tab created : StateInfo} {width : UInt32} (h : Sound tab)
    (hview : created.view = { tab.view with bars := tab.view.bars.created width }) :
    Sound created := by
  have hbars : created.view.bars = tab.view.bars.created width := congrArg View.bars hview
  have hload : created.load = tab.load := congrArg View.load hview
  exact ⟨hbars ▸ created_sound _ _, hload ▸ h.load⟩

theorem created_tab (layout : WindowLayout) {tab : StateInfo} (h : Sound tab) :
    Sound (createBars layout (start2x layout) firstLine rightBars
      (createBars layout (startx layout) firstLine leftBars tab).2).2 := by
  have hleft := (createBars_adds layout (startx layout) firstLine leftBars leftBars_short).next tab
    rfl trivial
  exact h.of_created ((createBars_adds layout (start2x layout) firstLine rightBars
    rightBars_short).next _ hleft trivial)

theorem prepare_sound (layout : WindowLayout) (a : InitAnswers) : Keeps Sound (prepare layout a) :=
  fun tab h => by
  rw [prepare, block, andThen_ok (createBars_ok layout _ _ _ leftBars_short), block,
    andThen_ok (createBars_ok layout _ _ _ rightBars_short)]
  exact (Keeps.cons (fun _ h => h.of_eq rfl rfl) <| Keeps.cons (fun _ h => h.of_eq rfl rfl) <|
    (queryDevice_sound _ _).cons <| (queryMem_sound _ _ _).cons <| (queryMem_sound _ _ _).cons <|
    (queryMem_sound _ _ _).cons <| (setMaxima_sound a).cons keeps_nil) _ (created_tab layout h)

section Runs

variable (readings : ℕ → Option (List Char))

theorem setCpuLoad_sound : Keeps Sound (setCpuLoad readings) := fun tab h => by
  have hload : (minCpuLoad readings tab.load).2.lastPercent.toNat < 1000 := by
    rw [minCpuLoad_eq readings h.load]
    dsimp only
    rw [(getCpuLoad_kept readings _).1]
    refine getCpuLoad_lt readings ?_
    rw [(getCpuLoad_kept readings _).1]
    exact getCpuLoad_lt readings h.load
  exact setValue_sound .cpuLoad (minCpuLoad readings tab.load).1.toNat
    (minCpuLoad readings tab.load).1 [] { tab with load := (minCpuLoad readings tab.load).2 }
    ⟨h.bars, hload⟩

theorem updateSensorValue_sound (r : Refresh) : Keeps Sound (updateSensorValue readings r) :=
  updateSensorValue_keeps (querySensor_sound r) (queryMem_sound r.device r.memory) setValue_sound
    (setCpuLoad_sound readings)

theorem step_sound (tab : StateInfo) : ∀ e : Event, Sound tab → Sound (step readings tab e)
  | .init layout a, h => by
    rw [step, tabStateInfoInit]
    split_ifs
    · exact h
    · exact h.of_eq rfl rfl
    · exact ((prepare_sound layout a).cons <| (updateSensorValue_sound readings a.refresh).cons <|
        (updateClientInfo_sound a.refresh).cons keeps_nil) tab h
  | .update r, h => by
    rw [step, tabStateInfoUpdate]
    split_ifs
    · exact h
    · exact h
    · exact ((updateSensorValue_sound readings r).cons <|
        (updateClientInfo_sound r).cons keeps_nil) tab h

/-- The calls of `update_sensor_value` of an event: the state each is made in, and what it is
answered. -/
def callsOf (tab : StateInfo) : Event → List (StateInfo × Refresh)
  | .init layout a =>
    if tab.fault || tooSmall layout || (prepare layout a tab).1 ≠ 0 then []
    else [((prepare layout a tab).2, a.refresh)]
  | .update r => if tab.fault || !tab.needRefresh then [] else [(tab, r)]

/-- Those of a run, in their order. -/
def sensorCalls : StateInfo → List Event → List (StateInfo × Refresh)
  | _, [] => []
  | tab, e :: events => callsOf tab e ++ sensorCalls (step readings tab e) events

theorem sound_singleton {tab : StateInfo} (h : Sound tab) (r : Refresh) :
    ∀ c ∈ [(tab, r)], Sound c.1 := by
  rintro c hc
  obtain rfl := List.mem_singleton.1 hc
  exact h

theorem callsOf_sound {tab : StateInfo} (h : Sound tab) :
    ∀ e : Event, ∀ c ∈ callsOf tab e, Sound c.1
  | .init layout a, c, hc => by
    rw [callsOf] at hc
    split_ifs at hc
    · exact absurd hc List.not_mem_nil
    · exact sound_singleton (prepare_sound layout a tab h) a.refresh c hc
  | .update r, c, hc => by
    rw [callsOf] at hc
    split_ifs at hc
    · exact absurd hc List.not_mem_nil
    · exact sound_singleton h r c hc

theorem sensorCalls_sound : ∀ (events : List Event) {tab : StateInfo}, Sound tab →
    ∀ c ∈ sensorCalls readings tab events, Sound c.1
  | [], _, _, _, hc => absurd hc List.not_mem_nil
  | e :: events, tab, h, c, hc => by
    rcases List.mem_append.1 hc with hc | hc
    · exact callsOf_sound h e c hc
    · exact sensorCalls_sound events (step_sound readings tab e h) c hc

theorem start_sound : Sound {} := ⟨⟨fun _ => Nat.zero_le _, fun _ => rfl, fun _ _ => rfl⟩, by decide⟩

/-- The refreshes of a run after the first set the processors' bar as they should exactly if none
of them comes to it. -/
theorem cpu_bar_iff (events : List Event) :
    (∀ c ∈ (sensorCalls readings {} events).tail, CpuRight readings c.1 c.2)
      ↔ ∀ c ∈ (sensorCalls readings {} events).tail, ¬ ReachesCpu c.1.view.bars c.2 := by
  refine forall₂_congr fun c hc => ?_
  have hsound := sensorCalls_sound readings events start_sound c (List.mem_of_mem_tail hc)
  exact cpuRight_iff readings hsound.bars c.2 hsound.load

end Runs

theorem cpu_bar_twice : ¬ ∀ (readings : ℕ → Option (List Char)) (events : List Event),
    ∀ c ∈ (sensorCalls readings {} events).tail, CpuRight readings c.1 c.2 := by
  intro h
  have hcalls : (sensorCalls busyReadings {}
      [.init wideLayout cardAnswers, .update cardRefresh]).tail.map (fun c =>
        ((refreshed busyReadings c.1 c.2).log.any (·.type = .cpuLoad),
          (refreshed busyReadings c.1 c.2).load.taken, (getCpuLoad busyReadings c.1.load).2.taken))
      = [(true, 5, 4)] := by decide +kernel
  obtain ⟨c, htail, hsummary⟩ := List.map_eq_singleton_iff.1 hcalls
  obtain ⟨hany, htwice⟩ := Prod.mk.inj hsummary
  obtain ⟨htaken, hone⟩ := Prod.mk.inj htwice
  obtain ⟨s, hs, htype⟩ := List.any_eq_true.1 hany
  have hright := h busyReadings _ c (by rw [htail]; exact List.mem_singleton_self c) s hs
    (of_decide_eq_true htype)
  rw [hright.2, hone] at htaken
  exact absurd htaken (by decide)

end StateInfo

end Amdtop
