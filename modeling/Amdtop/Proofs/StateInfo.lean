import Amdtop.Proofs.ClientTable
import Amdtop.Proofs.CpuLoad
import Amdtop.Proofs.WindowBar
import Amdtop.StateInfo

/-!
# The runs of the Stat tab

No call but an init of a window too small touches `needRefresh` (`need_refresh_iff`), and the rows of
the table are what is left of the height below the bars, modulo `2 ^ 32` (`clients_inside_iff`).
-/

namespace Amdtop

open Stdio Cmd

/-! ## Labels fit -/

theorem length_decimalInt_le (v : UInt32) : (decimalInt v).length ≤ 11 := by
  have hlen : ∀ n < 10 ^ 10, (decimal n).length ≤ 10 := fun n hn =>
    (length_decimal_le (by decide)).2 hn
  have hv := v.toNat_lt
  unfold decimalInt
  split_ifs
  · exact (hlen _ (by omega)).trans (by decide)
  · exact Nat.succ_le_succ (hlen _ (by omega))

/-- The units of the tab are of three characters at most. -/
theorem label_fits {bar : WindowBar} (hunit : bar.unit.length ≤ 3) :
    bar.label.length < labelBuffer := by
  have hvalue := length_decimalInt_le bar.value
  have hmax := length_decimalInt_le bar.max
  unfold WindowBar.label labelBuffer
  simp only [List.length_append, List.length_cons, padLeft, padRight, List.length_leftpad,
    List.length_rightpad]
  omega

theorem setValue_isSome {bar : WindowBar} (hunit : bar.unit.length ≤ 3) (arg : UInt32) :
    (bar.setValue arg).isSome ↔ bar.max ≠ 0 := by
  unfold WindowBar.setValue
  by_cases hmax : bar.max = 0
  · rw [if_pos hmax]
    exact iff_of_false (by decide) (not_not.2 hmax)
  rw [if_neg hmax]
  refine iff_of_true ?_ hmax
  dsimp only
  split_ifs with hnarrow hlong
  · rfl
  · exact absurd hlong (not_le.2 (label_fits hunit))
  · rfl

namespace StateInfo

/-! ## The parts of a refresh -/

/-- The refresh up to the processors' bar. -/
def beforeCpu (r : Refresh) : List (Cmd StateInfo) :=
  [querySensor r .gfxClock 0, setSensor .gfxClock,
    querySensor r .memClock 0, setSensor .memClock,
    querySensor r .gpuLoad 0, setSensor .gpuLoad,
    queryMem r.device r.memory .vram, queryMem r.device r.memory .gtt,
    queryMem r.device r.memory .visible,
    setUsed .vram .vram, setUsed .visible .visible, setUsed .gtt .gtt, setSysMem r]

/-- The refresh from there on. -/
def afterCpu (r : Refresh) : List (Cmd StateInfo) :=
  [querySensor r .gpuTemp 0, querySensor r .gpuPower 0, querySensor r .pstateGfxClock 0,
    querySensor r .pstateGfxClock 1]

theorem updateSensorValue_eq (readings : ℕ → Option (List Char)) (r : Refresh) :
    updateSensorValue readings r
      = andThen (block (beforeCpu r)) (andThen (setCpuLoad readings) (block (afterCpu r))) :=
  block_append (beforeCpu r) (setCpuLoad readings :: afterCpu r)

section Keeps

variable {I : StateInfo → Prop} {r : Refresh}
  (hsensor : ∀ type n, Keeps I (querySensor r type n))
  (hmem : ∀ type, Keeps I (queryMem r.device r.memory type))

include hsensor hmem in
theorem beforeCpu_keeps (hset : ∀ type : BarType, type ≠ .cpuLoad → ∀ value arg reads,
    Keeps I (setValue type value arg reads)) : Keeps I (block (beforeCpu r)) := by
  have hvalue : ∀ {type : BarType}, type ≠ .cpuLoad → Keeps I (setSensor type) := fun htype =>
    keeps_look fun _ => hset _ htype _ _ _
  have hused : ∀ {type : BarType} (mem : GpuMemType), type ≠ .cpuLoad →
      Keeps I (setUsed type mem) := fun _ htype => keeps_look fun _ => hset _ htype _ _ _
  exact (hsensor .gfxClock 0).cons <| (hvalue (by decide)).cons <|
    (hsensor .memClock 0).cons <| (hvalue (by decide)).cons <|
    (hsensor .gpuLoad 0).cons <| (hvalue (by decide)).cons <|
    (hmem .vram).cons <| (hmem .gtt).cons <| (hmem .visible).cons <|
    (hused .vram (by decide)).cons <| (hused .visible (by decide)).cons <|
    (hused .gtt (by decide)).cons <| (hset .sysMem (by decide) _ _ _).cons keeps_nil

include hsensor in
theorem afterCpu_keeps : Keeps I (block (afterCpu r)) :=
  (hsensor .gpuTemp 0).cons <| (hsensor .gpuPower 0).cons <| (hsensor .pstateGfxClock 0).cons <|
    (hsensor .pstateGfxClock 1).cons keeps_nil

include hsensor hmem in
theorem updateSensorValue_keeps {readings : ℕ → Option (List Char)}
    (hset : ∀ type value arg reads, Keeps I (setValue type value arg reads))
    (hcpu : Keeps I (setCpuLoad readings)) : Keeps I (updateSensorValue readings r) := by
  rw [updateSensorValue_eq]
  exact (beforeCpu_keeps hsensor hmem fun type _ => hset type).andThen
    (hcpu.andThen (afterCpu_keeps hsensor))

end Keeps

/-! ## What the commands leave alone -/

/-- The variables that only the init sets. -/
def frame (tab : StateInfo) : Bool × UInt32 × UInt32 × Bool :=
  (tab.needRefresh, tab.uiClientsStarty, tab.uiClientsCount, tab.hasRootPermission)

theorem frame_fst (tab : StateInfo) : tab.frame.1 = tab.needRefresh := rfl

theorem leaves_setMax (type : BarType) (max : ℕ) (arg : UInt32) (reads : List MemRead) :
    Leaves frame (setMax type max arg reads) := fun _ => rfl

theorem leaves_setValue (type : BarType) (value : ℤ) (arg : UInt32) (reads : List MemRead) :
    Leaves frame (setValue type value arg reads) := fun tab => by
  unfold setValue
  rcases (tab.sensorBar type).setValue arg with _ | bar
  · rfl
  · rfl

theorem leaves_createBar (type : BarType) (name unit : String) (line : ℕ) (x width : UInt32) :
    Leaves frame (createBar type name unit line x width) := fun tab => by
  unfold createBar
  rcases barFrame name.toList unit.toList (.ofNat line) x width ⟨fun _ => ' ', 0⟩
    with _ | ⟨bar, row⟩
  · rfl
  · have hstore : Leaves frame (act fun tab : StateInfo =>
        { tab with sensorBar := Function.update tab.sensorBar type bar }) := fun _ => rfl
    exact (hstore.cons ((leaves_setMax type 100 100 []).cons ((leaves_setValue type 0 0 []).cons
      leaves_nil))) tab

theorem leaves_createBars (layout : WindowLayout) (x : UInt32) :
    ∀ (line : ℕ) (bars : List (BarType × String × String)),
      Leaves frame (createBars layout x line bars)
  | _, [] => fun _ => rfl
  | line, (type, name, unit) :: bars =>
    (leaves_createBar type name unit line x _).andThen (leaves_createBars layout x (line + 1) bars)

theorem leaves_queryMem (device : ℕ) (memory : MemAnswers) (type : GpuMemType) :
    Leaves frame (queryMem device memory type) := fun _ => rfl

theorem leaves_queryDevice (device : ℕ) (devInfo : Option DeviceClocks) :
    Leaves frame (queryDevice device devInfo) := fun _ => rfl

theorem leaves_querySensor (r : Refresh) (type : GpuSensorType) (n : ℕ) :
    Leaves frame (querySensor r type n) := fun _ => rfl

theorem leaves_setCpuLoad (readings : ℕ → Option (List Char)) :
    Leaves frame (setCpuLoad readings) := fun tab =>
  leaves_setValue .cpuLoad _ _ _ { tab with load := (minCpuLoad readings tab.load).2 }

theorem leaves_updateSensorValue (readings : ℕ → Option (List Char)) (r : Refresh) :
    Leaves frame (updateSensorValue readings r) :=
  leaves_iff.2 fun a => updateSensorValue_keeps
    (fun type n => leaves_iff.1 (leaves_querySensor r type n) a)
    (fun type => leaves_iff.1 (leaves_queryMem r.device r.memory type) a)
    (fun type value arg reads => leaves_iff.1 (leaves_setValue type value arg reads) a)
    (leaves_iff.1 (leaves_setCpuLoad readings) a)

theorem leaves_updateClientInfo (r : Refresh) : Leaves frame (updateClientInfo r) := fun tab => by
  unfold updateClientInfo
  split
  · rfl
  · rfl

theorem leaves_setMaxima (a : InitAnswers) : Leaves frame (setMaxima a) :=
  leaves_look fun _ => (leaves_setMax _ _ _ _).cons <| (leaves_setMax _ _ _ _).cons <|
    (leaves_setMax _ _ _ _).cons <| (leaves_setMax _ _ _ _).cons <| (leaves_setMax _ _ _ _).cons <|
    (leaves_setMax _ _ _ _).cons <| (leaves_setMax _ _ _ _).cons <|
    (leaves_setMax _ _ _ _).cons leaves_nil

/-! ## The init -/

section Init

variable (layout : WindowLayout) (readings : ℕ → Option (List Char)) (a : InitAnswers)
  (tab : StateInfo)

theorem setValue_fst (type : BarType) (value : ℤ) (arg : UInt32) (reads : List MemRead)
    (hunit : (tab.sensorBar type).unit.length ≤ 3) :
    (setValue type value arg reads tab).1 = 0 ↔ (tab.sensorBar type).max ≠ 0 := by
  rw [← setValue_isSome hunit arg]
  unfold setValue
  rcases (tab.sensorBar type).setValue arg with _ | bar
  · exact iff_of_false (show crashed ≠ 0 by decide) (by decide)
  · exact iff_of_true rfl rfl

/-- A name and a unit of the tab's bars. -/
def Short (name unit : String) : Prop := name.toList.length < barNameSize ∧ unit.toList.length ≤ 3

/-- The bar is there, with its first maximum, before its first value. -/
theorem createBar_eq {name unit : String} (hshort : Short name unit) (type : BarType) (line : ℕ)
    (x width : UInt32) : ∃ bar : WindowBar, bar.unit = unit.toList ∧ bar.width = width
      ∧ createBar type name unit line x width tab = setValue type 0 0 []
        (setMax type 100 100 []
          { tab with sensorBar := Function.update tab.sensorBar type bar }).2 := by
  obtain ⟨bar, row, hframe, hframed, -⟩ :=
    barFrame_eq hshort.1 (hshort.2.trans_lt (by decide)) ⟨fun _ => ' ', 0⟩
  refine ⟨bar, hframed.unit_eq, UInt32.toNat_inj.1 hframed.width_eq, ?_⟩
  unfold createBar
  rw [hframe]
  dsimp only
  rw [block, andThen_ok rfl, block, andThen_ok rfl, block_singleton]
  rfl

variable {tab}

theorem createBar_ok {name unit : String} (hshort : Short name unit) (type : BarType) (line : ℕ)
    (x width : UInt32) : (createBar type name unit line x width tab).1 = 0 := by
  obtain ⟨bar, hunit, -, hcreate⟩ := createBar_eq tab hshort type line x width
  rw [hcreate, setValue_fst]
  · simp only [setMax, act, Function.update_self]
    exact show (100 : UInt32) ≠ 0 by decide
  · simp only [setMax, act, Function.update_self]
    exact (congrArg List.length hunit).le.trans hshort.2

theorem createBars_ok (x : UInt32) : ∀ (line : ℕ) (bars : List (BarType × String × String))
    {tab : StateInfo}, (∀ b ∈ bars, Short b.2.1 b.2.2) → (createBars layout x line bars tab).1 = 0
  | _, [], _, _ => rfl
  | line, (type, name, unit) :: bars, tab, hshort => by
    rw [List.forall_mem_cons] at hshort
    rw [createBars, andThen_ok (createBar_ok hshort.1 type line x _)]
    exact createBars_ok x (line + 1) bars hshort.2

theorem leftBars_short : ∀ b ∈ leftBars, Short b.2.1 b.2.2 := by
  simp only [leftBars, List.forall_mem_cons, Short]
  decide

theorem rightBars_short : ∀ b ∈ rightBars, Short b.2.1 b.2.2 := by
  simp only [rightBars, List.forall_mem_cons, Short]
  decide

variable (tab)

theorem prepare_frame : (prepare layout a tab).2.frame
    = (tab.needRefresh, .ofNat (clientsLine + 1), layout.height - 2 - .ofNat (clientsLine + 1),
      a.root) := by
  have hrest : Leaves frame (block [queryDevice a.refresh.device a.devInfo,
      queryMem a.refresh.device a.memory .vram, queryMem a.refresh.device a.memory .gtt,
      queryMem a.refresh.device a.memory .visible, setMaxima a]) :=
    (leaves_queryDevice _ _).cons <| (leaves_queryMem _ _ _).cons <| (leaves_queryMem _ _ _).cons <|
      (leaves_queryMem _ _ _).cons <| (leaves_setMaxima a).cons leaves_nil
  have hplaced : ∀ s : StateInfo, ((act fun tab : StateInfo =>
      { tab with hasRootPermission := a.root }) (placeClients layout s).2).2.frame
      = (s.needRefresh, .ofNat (clientsLine + 1), layout.height - 2 - .ofNat (clientsLine + 1),
        a.root) := fun _ => rfl
  have hbars : ∀ x bars (s : StateInfo),
      (createBars layout x firstLine bars s).2.needRefresh = s.needRefresh := fun x bars s =>
    congrArg Prod.fst (leaves_createBars layout x firstLine bars s)
  rw [prepare, block, andThen_ok (createBars_ok layout _ _ _ leftBars_short), block,
    andThen_ok (createBars_ok layout _ _ _ rightBars_short), block, andThen_ok rfl, block,
    andThen_ok rfl, hrest, hplaced, hbars, hbars]

theorem init_frame (hsize : tooSmall layout = false) :
    (tabStateInfoInit layout readings a tab).2.frame
      = (tab.needRefresh, .ofNat (clientsLine + 1), layout.height - 2 - .ofNat (clientsLine + 1),
        a.root) := by
  have hrest : Leaves frame (block [updateSensorValue readings a.refresh,
      updateClientInfo a.refresh]) :=
    (leaves_updateSensorValue readings a.refresh).cons
      ((leaves_updateClientInfo a.refresh).cons leaves_nil)
  rw [tabStateInfoInit, hsize, if_neg (by decide), block, hrest.after, prepare_frame]

theorem init_small (hsize : tooSmall layout = true) :
    tabStateInfoInit layout readings a tab = (0, { tab with needRefresh := false }) :=
  if_pos hsize

theorem update_frame (r : Refresh) : (tabStateInfoUpdate readings r tab).2.frame = tab.frame := by
  unfold tabStateInfoUpdate
  split_ifs
  · rfl
  · exact ((leaves_updateSensorValue readings r).cons
      ((leaves_updateClientInfo r).cons leaves_nil)) tab

end Init

/-! ## The table's rows -/

/-- The table is inside the window, and its loop goes through no more rows than that has. -/
structure ClientsInside (layout : WindowLayout) (tab : StateInfo) : Prop where
  table : tab.uiClientsStarty.toNat + tab.uiClientsCount.toNat ≤ layout.height.toNat - 2
  count : tab.uiClientsCount.toNat ≤ layout.height.toNat
  rows : ∀ (r : Refresh) (round : TabRound AmdGpuClientInfo) (rows : List (List Print)),
    updateClientTable r.passwd tab.uiClientsStarty tab.uiClientsCount.toNat r.maxx r.files
      r.gpuDevice tab.hasRootPermission tab.clientInfos = some (round, rows) →
    rows.length ≤ layout.height.toNat

theorem length_clientRows {passwd : UInt32 → Option (List Char)} {starty : UInt32}
    {uiClientsCount maxx : ℕ} {files : Files} {device : GpuDevice} {root : Bool}
    {clientInfos : List AmdGpuClientInfo} {round : TabRound AmdGpuClientInfo}
    {rows : List (List Print)}
    (h : updateClientTable passwd starty uiClientsCount maxx files device root clientInfos
      = some (round, rows)) : rows.length ≤ uiClientsCount := by
  unfold updateClientTable at h
  dsimp only at h
  split_ifs at h
  · obtain ⟨-, rfl⟩ := Prod.mk.inj (Option.some.inj h)
    exact Nat.zero_le _
  · obtain ⟨rows', hrows, heq⟩ := Option.map_eq_some_iff.1 h
    obtain ⟨-, rfl⟩ := Prod.mk.inj heq
    rw [← (mapM_eq_some.1 hrows).length_eq, List.length_range]

section Clients

variable (readings : ℕ → Option (List Char)) (layout : WindowLayout) (a : InitAnswers)
  (tab : StateInfo)

/-- In a window that is wide enough, the table is inside exactly if there are 15 rows. -/
theorem clients_inside_iff (hsize : tooSmall layout = false) :
    ClientsInside layout (tabStateInfoInit layout readings a tab).2 ↔ 15 ≤ layout.height.toNat := by
  have hframe := init_frame layout readings a tab hsize
  rw [show UInt32.ofNat (clientsLine + 1) = 13 by decide, frame] at hframe
  obtain ⟨-, hframe⟩ := Prod.mk.inj hframe
  obtain ⟨hstarty, hframe⟩ := Prod.mk.inj hframe
  obtain ⟨hcount, -⟩ := Prod.mk.inj hframe
  have hheight := layout.height.toNat_lt
  have hdiff : (layout.height - 2 - 13).toNat = (layout.height.toNat + (2 ^ 32 - 15)) % 2 ^ 32 := by
    rw [UInt32.toNat_sub, UInt32.toNat_sub]
    simp only [UInt32.reduceToNat]
    omega
  constructor
  · intro hinside
    have htable := hinside.table
    rw [hstarty, hcount, hdiff] at htable
    simp only [UInt32.reduceToNat] at htable
    omega
  · intro hhigh
    have hfits : (layout.height - 2 - 13).toNat ≤ layout.height.toNat := by omega
    refine ⟨?_, ?_, fun r round rows hrows => ?_⟩
    · rw [hstarty, hcount, hdiff]
      simp only [UInt32.reduceToNat]
      omega
    · rw [hcount]
      exact hfits
    · rw [hcount] at hrows
      exact (length_clientRows hrows).trans hfits

end Clients

/-- A kernel that answers nothing. -/
def silent : InitAnswers where
  root := false
  devInfo := none
  memory := ⟨fun _ => none, fun _ => none⟩
  totalMem := none
  refresh :=
    { device := 0
      gpuDevice := card0
      sensor := fun _ _ => none
      memory := ⟨fun _ => none, fun _ => none⟩
      totalMem := none
      freeMem := none
      files := fun _ => none
      passwd := fun _ => none
      maxx := 110 }

/-- The main window of terminals of 160 columns and 50 lines, of 100 and 24, and of 80 and 24. -/
def wideLayout : WindowLayout := (InitWinLayout 160 50).layout .main

def lowLayout : WindowLayout := (InitWinLayout 100 24).layout .main

def narrowLayout : WindowLayout := (InitWinLayout 80 24).layout .main

/-- A card of 4 GiB, 128 MiB of each memory used. -/
def cardMemory : MemAnswers where
  vramGtt := fun _ => some ⟨4294967296, 268435456, 8589934592⟩
  usage := fun _ => some 134217728

def memInfoText : List Char := "MemTotal:       16318480 kB\nMemAvailable:   15000000 kB\n".toList

def cardRefresh : Refresh where
  device := 0
  gpuDevice := card0
  sensor := fun _ _ => some 30
  memory := cardMemory
  totalMem := some memInfoText
  freeMem := some memInfoText
  files := fun _ => none
  passwd := rootOnly
  maxx := 110

def cardAnswers : InitAnswers where
  root := false
  devInfo := some ⟨1500000, 1000000⟩
  memory := cardMemory
  totalMem := some memInfoText
  refresh := cardRefresh

/-- With the permission to read the clients of two users. -/
def rootAnswers : InitAnswers :=
  { cardAnswers with
    root := true
    refresh :=
      { cardRefresh with
        files := clientsFile [shyXorg, shyShell], passwd := rootAndUser, maxx := 108 } }

/-- Every row of the table is drawn, two of them with a client. -/
theorem clients_inside_iff_wide :
    ClientsInside wideLayout (tabStateInfoInit wideLayout busyReadings rootAnswers {}).2
      ∧ (let tab := (tabStateInfoInit wideLayout busyReadings rootAnswers {}).2
        updateClientTable rootAndUser tab.uiClientsStarty tab.uiClientsCount.toNat 108
          rootAnswers.refresh.files card0 tab.hasRootPermission tab.clientInfos).map
            (fun r => (r.1.count, r.2.length)) = some (2, 24) :=
  ⟨(clients_inside_iff busyReadings wideLayout rootAnswers {} (by decide)).2 (by decide),
    by decide +kernel⟩

theorem clients_outside : ¬ ∀ (readings : ℕ → Option (List Char)) (layout : WindowLayout)
    (a : InitAnswers) (tab : StateInfo), tooSmall layout = false →
    ClientsInside layout (tabStateInfoInit layout readings a tab).2 := by
  intro h
  have hcount := (h (fun _ => none) lowLayout silent {} (by decide)).count
  have hframe := init_frame lowLayout (fun _ => none) silent {} (by decide)
  rw [frame] at hframe
  rw [(Prod.mk.inj (Prod.mk.inj (Prod.mk.inj hframe).2).2).1] at hcount
  exact absurd hcount (by decide)

/-! ## `needRefresh` -/

section NeedRefresh

variable (readings : ℕ → Option (List Char))

/-- The windows of the inits of a run. -/
def initLayouts : List Event → List WindowLayout
  | [] => []
  | .init layout _ :: events => layout :: initLayouts events
  | .update _ :: events => initLayouts events

variable {tab : StateInfo} (hrun : tab.fault = false)

include hrun in
theorem step_init (layout : WindowLayout) (a : InitAnswers) :
    step readings tab (.init layout a) = (tabStateInfoInit layout readings a tab).2 := by
  rw [step, hrun, if_neg Bool.false_ne_true]

include hrun in
theorem step_update (r : Refresh) :
    step readings tab (.update r) = (tabStateInfoUpdate readings r tab).2 := by
  rw [step, hrun, if_neg Bool.false_ne_true]

include hrun in
theorem step_needRefresh : ∀ e : Event, (step readings tab e).needRefresh
    = (tab.needRefresh && (initLayouts [e]).all fun layout => !tooSmall layout)
  | .init layout a => by
    rw [step_init readings hrun, initLayouts, initLayouts, List.all_cons, List.all_nil,
      Bool.and_true]
    rcases hsize : tooSmall layout
    · rw [← frame_fst, init_frame layout readings a tab hsize, Bool.not_false, Bool.and_true]
    · rw [init_small layout readings a tab hsize, Bool.not_true, Bool.and_false]
  | .update r => by
    rw [step_update readings hrun, initLayouts, initLayouts, List.all_nil, Bool.and_true,
      ← frame_fst, update_frame, frame_fst]

/-- A program that has ended stays so. -/
theorem run_fault : ∀ (events : List Event) {tab : StateInfo}, tab.fault = true →
    run (step readings) tab events = tab
  | [], _, _ => rfl
  | e :: events, tab, hfault => by
    have hstep : step readings tab e = tab := by
      rcases e with ⟨layout, a⟩ | r
      · rw [step, hfault, if_pos rfl]
      · rw [step, hfault, if_pos rfl]
    change run (step readings) (step readings tab e) events = tab
    rw [hstep]
    exact run_fault events hfault

theorem initLayouts_cons (e : Event) (events : List Event) :
    initLayouts (e :: events) = initLayouts [e] ++ initLayouts events := by
  rcases e with ⟨layout, a⟩ | r
  · rfl
  · rfl

/-- Each init of a run that goes on has left its mark. -/
theorem run_needRefresh : ∀ (events : List Event) (tab : StateInfo),
    (run (step readings) tab events).fault = false →
    (run (step readings) tab events).needRefresh
      = (tab.needRefresh && (initLayouts events).all fun layout => !tooSmall layout)
  | [], tab, _ => by
    rw [initLayouts, List.all_nil, Bool.and_true]
    rfl
  | e :: events, tab, hrun => by
    have htab : tab.fault = false := by
      by_contra hfault
      rw [run_fault readings _ (Bool.not_eq_false _ ▸ hfault)] at hrun
      exact hfault hrun
    change (run (step readings) (step readings tab e) events).needRefresh = _
    rw [run_needRefresh events _ hrun, step_needRefresh readings htab e,
      initLayouts_cons e events, List.all_append, Bool.and_assoc]

/-- What the updates after an init should do: refresh, if its window was large enough, and nothing
if it was not. -/
structure RefreshRight (tab : StateInfo) (layout : WindowLayout) : Prop where
  flag : tab.needRefresh = !tooSmall layout
  large : tooSmall layout = false → ∀ r, tabStateInfoUpdate readings r tab
    = block [updateSensorValue readings r, updateClientInfo r] tab
  small : tooSmall layout = true → ∀ r, tabStateInfoUpdate readings r tab = (0, tab)

theorem refreshRight_iff (tab : StateInfo) (layout : WindowLayout) :
    RefreshRight readings tab layout ↔ tab.needRefresh = !tooSmall layout := by
  refine ⟨fun h => h.flag, fun hflag => ⟨hflag, fun hlarge r => ?_, fun hsmall r => ?_⟩⟩
  · rw [hlarge] at hflag
    exact if_neg (by rw [hflag]; decide)
  · rw [hsmall] at hflag
    exact if_pos (by rw [hflag]; decide)

/-- In a run that goes on, the updates after the latest init are right exactly if its window was too
small, or no window before it was. -/
theorem need_refresh_iff (events : List Event)
    (hrun : (run (step readings) {} events).fault = false) :
    (∀ layout, (initLayouts events).getLast? = some layout →
        RefreshRight readings (run (step readings) {} events) layout)
      ↔ ∀ layout, (initLayouts events).getLast? = some layout → tooSmall layout = false →
        ∀ before ∈ initLayouts events, tooSmall before = false := by
  simp only [refreshRight_iff, run_needRefresh readings events {} hrun, Bool.true_and]
  refine forall₂_congr fun layout hlast => ?_
  constructor
  · intro hflag hlarge before hbefore
    rw [hlarge] at hflag
    exact (Bool.not_eq_true' _).mp (List.all_eq_true.1 hflag before hbefore)
  · intro hall
    rcases hsize : tooSmall layout
    · exact List.all_eq_true.2 fun before hbefore =>
        (Bool.not_eq_true' _).mpr (hall hsize before hbefore)
    · refine Bool.eq_false_iff.2 fun hbig => ?_
      have hlayout := List.all_eq_true.1 hbig layout (List.mem_of_getLast? hlast)
      rw [hsize] at hlayout
      exact absurd hlayout (by decide)

end NeedRefresh

theorem need_refresh_iff_wide : RefreshRight busyReadings
    (run (step busyReadings) {} [.init wideLayout cardAnswers]) wideLayout := by
  refine (need_refresh_iff busyReadings _ (by decide +kernel)).2
    (fun layout hlast hlarge before h => ?_) wideLayout rfl
  obtain rfl := Option.some.inj hlast
  obtain rfl := List.mem_singleton.1 h
  exact hlarge

theorem need_refresh_lost : ¬ ∀ (readings : ℕ → Option (List Char)) (events : List Event),
    (run (step readings) {} events).fault = false → ∀ layout,
    (initLayouts events).getLast? = some layout →
    RefreshRight readings (run (step readings) {} events) layout := by
  intro h
  have hflag := (h busyReadings [.init narrowLayout cardAnswers, .init wideLayout cardAnswers]
    (by decide +kernel) wideLayout rfl).flag
  exact absurd hflag (by decide +kernel)

end StateInfo

end Amdtop
