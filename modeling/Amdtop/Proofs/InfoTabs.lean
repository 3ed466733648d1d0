import Amdtop.InfoTabs
import Amdtop.Proofs.DriverInfo
import Amdtop.Proofs.SysFile

/-!
# Answers that stay

A failed first visit to the System tab is never repeated: the later ones succeed, with what it left
(`system_tab_run`, `system_tab_missing`). The Driver tab asks up to its first success, which stays
for every device from there on, and leaves a directory open wherever it finds the module
(`driver_tab_run`).
-/

namespace Amdtop

open Stdio Heap Latch

/-- What a tab's init gives: its status, and the lines it drew. -/
abbrev TabResult := ℤ × Option (List (List Char))

/-! ## The System tab -/

namespace SystemTab

def init : CallRel SystemVisit (Latch SystemInfo) TabResult := fun v tab r tab' =>
  tabSystemInfoInit v tab = .done (r, tab')

def result (v : SystemVisit) (ret : ℤ) (info : SystemInfo) : TabResult :=
  (ret, if ret ≠ 0 then none else some (systemTexts v.device info))

def query : CallRel SystemVisit SystemInfo TabResult := fun v info r info' =>
  ∃ ret, queryInfo v info = .done (ret, info') ∧ r = result v ret info'

def again (v : SystemVisit) (info : SystemInfo) : TabResult :=
  (0, some (systemTexts v.device info))

theorem tabSystemInfoInit_first (v : SystemVisit) (info : SystemInfo) :
    tabSystemInfoInit v ⟨true, info⟩
      = (queryInfo v info).bind fun r => .done (result v r.1 r.2, ⟨false, r.2⟩) := by
  rcases h : queryInfo v info with ⟨ret, info'⟩ | _ | _
  · simp only [tabSystemInfoInit, getInfo, h, Outcome.bind, result, Bool.not_true,
      Bool.false_eq_true, if_false]
    split_ifs <;> rfl
  · simp [tabSystemInfoInit, getInfo, h, Outcome.bind]
  · simp [tabSystemInfoInit, getInfo, h, Outcome.bind]

theorem keepsFirst : KeepsFirst query again init where
  asked {v data r l} := by
    rw [init, tabSystemInfoInit_first]
    rcases h : queryInfo v data with ⟨ret, info⟩ | _ | _
    · simp [Outcome.bind, query, h, and_comm, eq_comm]
    · simp [Outcome.bind, query, h]
    · simp [Outcome.bind, query, h]
  kept {v data r l} := by
    simp [init, tabSystemInfoInit, getInfo, again, Outcome.bind, eq_comm]

end SystemTab

/-- In every run of visits the first asks, and the others give what it has left. -/
theorem system_tab_run {v : SystemVisit} {vs : List SystemVisit} {rs : List TabResult}
    {tab : Latch SystemInfo} : Visits SystemTab.init (v :: vs) ⟨true, {}⟩ rs tab ↔
      ∃ ret info, SystemTab.queryInfo v {} = .done (ret, info)
        ∧ rs = SystemTab.result v ret info :: vs.map (SystemTab.again · info)
        ∧ tab = ⟨false, info⟩ := by
  rw [SystemTab.keepsFirst.visits_iff]
  constructor
  · rintro ⟨-, info, ⟨ret, hquery, rfl⟩, rfl, rfl⟩
    exact ⟨ret, info, hquery, rfl, rfl⟩
  · rintro ⟨ret, info, hquery, rfl, rfl⟩
    exact ⟨_, info, ⟨ret, hquery, rfl⟩, rfl, rfl⟩

def dmiPath (idInfo : DmiIdInfo) : List Char := (dmiIdSysPath ++ '/' :: idInfo.fname).take 99

/-- The file of entry `k` cannot be opened, and those before it hold something. -/
structure FirstMissing (files : Texts) (idInfos : List DmiIdInfo) (k : ℕ) : Prop where
  lt : k < idInfos.length
  before : ∀ idInfo ∈ idInfos.take k, ∃ text, files (dmiPath idInfo) = some text ∧ text ≠ []
  missing : ∀ idInfo ∈ idInfos[k]?, files (dmiPath idInfo) = none

/-- The row of a file of the board. -/
def infoLine (idInfo : DmiIdInfo) : List Char :=
  SystemTab.systemLine idInfo.label (arrayText idInfo.value.1)

theorem getDmiInfo_line {files : Texts} {idInfo : DmiIdInfo} {text : List Char}
    (hfile : files (dmiPath idInfo) = some text) (hne : text ≠ []) :
    ∃ idInfo', getDmiInfo files idInfo = some (0, idInfo')
      ∧ infoLine idInfo'
        = SystemTab.systemLine idInfo.label (attributeText maxNameSize text) := by
  obtain ⟨idInfo', hread, hvalue⟩ := (getDmiInfo_cutsLast idInfo hfile).whole hne
  have hlabel : idInfo'.label = idInfo.label := by
    rw [dmiPath] at hfile
    rw [getDmiInfo, hfile] at hread
    obtain ⟨value, -, heq⟩ := Option.map_eq_some_iff.1 hread
    rw [← (Prod.mk.inj heq).2]
  refine ⟨idInfo', hread, ?_⟩
  rw [infoLine, hlabel, arrayText]
  unfold arrayString at hvalue
  split_ifs at hvalue
  rw [Option.some.inj hvalue]

/-- The rows are filled with the files before the missing one. -/
theorem getDmiInfos_missing {files : Texts} : ∀ {idInfos : List DmiIdInfo} {k : ℕ},
    FirstMissing files idInfos k → ∃ (read : List DmiIdInfo) (texts : List (List Char)),
      (idInfos.take k).map (fun idInfo => files (dmiPath idInfo)) = texts.map some
      ∧ read.map infoLine = List.zipWith (fun idInfo text =>
          SystemTab.systemLine idInfo.label (attributeText maxNameSize text)) idInfos texts
      ∧ getDmiInfos files idInfos = some (-eio, read ++ idInfos.drop k)
  | [], k, h => absurd h.lt (Nat.not_lt_zero k)
  | idInfo :: rest, 0, h => by
    have hmissing := h.missing idInfo rfl
    rw [dmiPath] at hmissing
    refine ⟨[], [], rfl, rfl, ?_⟩
    rw [getDmiInfos, getDmiInfo, hmissing]
    rfl
  | idInfo :: rest, k + 1, h => by
    obtain ⟨text, hfile, hne⟩ := h.before idInfo (by simp)
    obtain ⟨idInfo', hread, hline⟩ := getDmiInfo_line hfile hne
    have hlater : FirstMissing files rest k :=
      ⟨Nat.lt_of_succ_lt_succ h.lt, fun i hi => h.before i (by simp [hi]), h.missing⟩
    obtain ⟨read, texts, htexts, hlines, hrest⟩ := getDmiInfos_missing hlater
    refine ⟨idInfo' :: read, text :: texts, ?_, ?_, ?_⟩
    · rw [List.take_succ_cons, List.map_cons, List.map_cons, hfile, htexts]
    · rw [List.map_cons, List.zipWith_cons_cons, hline, hlines]
    · rw [getDmiInfos, hread, Option.bind_some]
      dsimp only
      rw [if_neg (by decide), hrest]
      rfl

/-- The rows of a tab that read a name, and these texts of the board's files. -/
def SystemTab.partTexts (utsname : Utsname) (prettyName : List Char) (texts : List (List Char))
    (device : Option Device) : List (List Char) :=
  [systemLine "Distro".toList (arrayText prettyName),
    systemLine "OS".toList utsname.sysname,
    systemLine "Release".toList utsname.release,
    systemLine "HostName".toList utsname.nodename,
    systemLine "Arch".toList utsname.machine,
    systemLine "CPU".toList [],
    systemLine "Cores".toList "0 ".toList,
    systemLine "Threads".toList "0 ".toList]
  ++ List.zipWith (fun idInfo text =>
      systemLine idInfo.label (attributeText maxNameSize text)) idInfos texts
  ++ (idInfos.drop texts.length).map (fun idInfo => systemLine idInfo.label "unknow".toList)
  ++ [systemLine "Driver".toList
    (match device with
      | some device => if device.driverisLoaded then device.driverName else "Un-loaded".toList
      | none => "Un-loaded".toList)]

theorem systemTexts_part {utsname : Utsname} {prettyName : List Char} {read : List DmiIdInfo}
    {texts : List (List Char)} (hlines : read.map infoLine = List.zipWith (fun idInfo text =>
      SystemTab.systemLine idInfo.label (attributeText maxNameSize text)) idInfos texts)
    (device : Option Device) : SystemTab.systemTexts device
        { utsname, prettyName, idInfos := read ++ idInfos.drop texts.length }
      = SystemTab.partTexts utsname prettyName texts device := by
  have hunknow : ∀ idInfo ∈ idInfos, infoLine idInfo
      = SystemTab.systemLine idInfo.label "unknow".toList := by decide
  have hcpu : arrayText (List.replicate 1024 '\x00') = [] := by simp [arrayText]
  have hzero : padRight 2 (decimalInt 0) = "0 ".toList := by decide
  unfold SystemTab.systemTexts SystemTab.partTexts
  dsimp only
  rw [show (fun idInfo : DmiIdInfo => SystemTab.systemLine idInfo.label (arrayText idInfo.value.1))
      = infoLine from rfl, List.map_append, hlines,
    List.map_congr_left fun idInfo h => hunknow idInfo (List.mem_of_mem_drop h), hcpu, hzero]
  exact congrArg (· ++ _) (List.append_assoc _ _ _).symm

section Example

/-- A board whose vendor's file is missing; a path is told by its length. -/
def boardVisit (vendor : Option (List Char)) : SystemVisit :=
  { uname := some { sysname := "Linux".toList }
    osRelease := some ⟨"PRETTY_NAME=\x22Debian 12\x22\n".toList, false, false⟩
    dmi := fun path => if path.length = 30 then vendor else some "X570\n".toList
    cpuInfo := none, nameBuf := [], coresBuf := [], threadsBuf := [], fuel := 1, device := none }

end Example

/-! ## The Driver tab -/

namespace DriverTab

variable (ok : ℕ → Bool)

def init : CallRel DriverVisit (Latch DriverInfo) TabResult := fun v tab r tab' =>
  tabDriverInfoInit ok v tab = some (r, tab')

def result (ret : ℤ) (info : DriverInfo) : TabResult :=
  (ret, if ret ≠ 0 then none else some (driverTexts info))

def query : CallRel DriverVisit DriverInfo TabResult := fun v info r info' =>
  ∃ ret, queryAllInfo ok v info = some (ret, info') ∧ r = result ret info'

def again (_ : DriverVisit) (info : DriverInfo) : TabResult := (0, some (driverTexts info))

def Good (r : TabResult) : Prop := r.1 = 0

theorem tabDriverInfoInit_first (v : DriverVisit) (info : DriverInfo) :
    tabDriverInfoInit ok v ⟨true, info⟩
      = (queryAllInfo ok v info).map fun r => (result r.1 r.2, ⟨decide (r.1 ≠ 0), r.2⟩) := by
  rcases h : queryAllInfo ok v info with _ | ⟨ret, info'⟩
  · simp [tabDriverInfoInit, getAllInfo, h]
  · by_cases hret : ret = 0 <;>
      simp [tabDriverInfoInit, getAllInfo, h, result, hret]

theorem init_first {v : DriverVisit} {info : DriverInfo} {r : TabResult} {l : Latch DriverInfo} :
    init ok v ⟨true, info⟩ r l
      ↔ ∃ info', query ok v info r info' ∧ l = ⟨decide (r.1 ≠ 0), info'⟩ := by
  rw [init, tabDriverInfoInit_first, Option.map_eq_some_iff]
  constructor
  · rintro ⟨⟨ret, info'⟩, hquery, heq⟩
    obtain ⟨rfl, rfl⟩ := Prod.mk.inj heq
    exact ⟨info', ⟨ret, hquery, rfl⟩, rfl⟩
  · rintro ⟨info', ⟨ret, hquery, rfl⟩, rfl⟩
    exact ⟨(ret, info'), hquery, rfl⟩

theorem keepsGood : KeepsGood (query ok) Good again (init ok) where
  set {v data r l} hr := by
    have hfirst : decide (r.1 ≠ 0) = false := decide_eq_false (not_not_intro hr)
    rw [init_first, hfirst]
  unset {v data r l} hr := by
    have hfirst : decide (r.1 ≠ 0) = true := decide_eq_true hr
    rw [init_first, hfirst]
  kept {v data r l} := by
    simp [init, tabDriverInfoInit, getAllInfo, again, eq_comm]

/-! ## The answers -/

/-- A copy of a text and of the bytes behind it up to a null, or `NULL` if there was no memory. -/
def CopyOf (text behind : List UInt8) (p : Ptr UInt8) : Prop :=
  p = none ∨ ∃ s, cString (text ++ behind) = some s
    ∧ heapText p = s.map fun c => Char.ofNat c.toNat

/-- What the driver's query stores when both its calls succeed. -/
structure DriverAnswered (s : VersionState) (behind : Behind) (device : ℕ) (info : GpuDriverInfo) :
    Prop where
  device : info.device = some device
  major : info.versionMajor = s.versionMajor
  minor : info.versionMinor = s.versionMinor
  name : CopyOf s.name behind.name info.driverName
  desc : CopyOf s.desc behind.desc info.desc
  date : CopyOf s.date behind.date info.date

def paramFile (files : Texts) (module filed : String) : Option (List Char) :=
  files ((sysModulePath ++ '/' :: (module.toList ++ '/' :: filed.toList)).take 99)

def ReadParam (files : Texts) (module filed : String) (value : CharArray maxNameSize) : Prop :=
  ∃ text, paramFile files module filed = some text
    ∧ arrayString value.1 = some (attributeText (maxNameSize - 1) text)

def ReadParams (files : Texts) (module : String) (info : ModuleInfo) : Prop :=
  ReadParam files module "version" info.version ∧ ReadParam files module "srcversion" info.srcversion

/-- What the tab keeps of a visit that got all it asked for. -/
structure DriverRead (v : DriverVisit) (info : DriverInfo) : Prop where
  driver : DriverAnswered v.version v.behind v.device info.gpuDriverInfo
  isDkms : info.isDkms = (isDkmsDriver v.modules).any (·.1)
  modAmdgpu : ReadParams v.files "amdgpu" info.modAmdgpu
  modAmdkcl : info.isDkms = true → ReadParams v.files "amdkcl" info.modAmdkcl

/-- The visit gets as far as finding the module. -/
def Finds (v : DriverVisit) : Bool :=
  v.first && v.second && (paramFile v.files "amdgpu" "version").isSome
    && (paramFile v.files "amdgpu" "srcversion").isSome
    && (isDkmsDriver v.modules).any (·.1)

theorem strdup_copyOf {behind text : List UInt8} {q : Ptr UInt8} {m m' m₀ : Ledger}
    (h : strdup ok behind (copyField text text.length (calloc ok 1 text.length 0 m₀).1) m
      = some (q, m')) : CopyOf text behind q := by
  rcases copyField_calloc ok text m₀ with hcells | hnone
  · obtain ⟨src, hsrc, h⟩ := Option.bind_eq_some_iff.1 h
    obtain ⟨s, hs, h⟩ := Option.map_eq_some_iff.1 h
    rw [hsrc] at hcells
    change src.data = text at hcells
    rw [hcells] at hs
    dsimp only at h
    split at h
    · exact Or.inl (Prod.mk.inj h).1.symm
    · obtain ⟨rfl, -⟩ := Prod.mk.inj h
      refine Or.inr ⟨s, hs, ?_⟩
      have hplain : ∀ b ∈ s, b ≠ 0 := by
        rw [cString] at hs
        split_ifs at hs
        rw [← Option.some.inj hs]
        exact mem_takeWhile_ne_zero
      rw [heapText]
      exact congrArg _ (takeWhile_nulls hplain 1)
  · rw [hnone] at h
    cases h

theorem getModuleParam_ret {files : Texts} {module filed : String} {value : CharArray maxNameSize}
    {outsize : Option ℕ} {r : ℤ × CharArray maxNameSize × Option ℕ}
    (h : getModuleParam files module.toList filed.toList value outsize = some r) :
    r.1 = 0 ↔ (paramFile files module filed).isSome = true := by
  unfold getModuleParam at h
  rw [paramFile]
  rcases hfile : files ((sysModulePath ++ '/' :: (module.toList ++ '/' :: filed.toList)).take 99)
    with _ | text <;> rw [hfile] at h
  · obtain rfl := Option.some.inj h
    exact iff_of_false (show ¬ -eio = 0 from by decide) (by simp)
  · obtain ⟨value', -, rfl⟩ := Option.map_eq_some_iff.1 h
    exact iff_of_true rfl rfl

theorem getModuleParam_read {files : Texts} {module filed : String} {value : CharArray maxNameSize}
    {outsize : Option ℕ} {r : ℤ × CharArray maxNameSize × Option ℕ}
    (h : getModuleParam files module.toList filed.toList value outsize = some r) (hret : r.1 = 0) :
    ReadParam files module filed r.2.1 := by
  obtain ⟨text, hfile⟩ := Option.isSome_iff_exists.1 ((getModuleParam_ret h).1 hret)
  have hcuts := getModuleParam_cutsLast module.toList filed.toList value outsize hfile
  have hne : text ≠ [] := fun hnil => by cases (hcuts.empty hnil).symm.trans h
  obtain ⟨b, hb, hvalue⟩ := hcuts.whole hne
  obtain rfl := Option.some.inj (hb.symm.trans h)
  exact ⟨text, hfile, hvalue⟩

theorem getModuleInfo_ret {files : Texts} {module : String} {info : ModuleInfo}
    {r : ℤ × ModuleInfo} (h : getModuleInfo files module info = some r) :
    r.1 = 0 ↔ (paramFile files module "version").isSome = true
      ∧ (paramFile files module "srcversion").isSome = true := by
  obtain ⟨s, hs, h⟩ := Option.bind_eq_some_iff.1 h
  rw [← getModuleParam_ret hs]
  dsimp only at h
  split_ifs at h with hret
  · obtain rfl := Option.some.inj h
    exact iff_of_false hret fun h0 => hret h0.1
  · obtain ⟨t, ht, rfl⟩ := Option.map_eq_some_iff.1 h
    rw [← getModuleParam_ret ht, and_iff_right (not_not.1 hret)]

theorem getModuleInfo_read {files : Texts} {module : String} {info : ModuleInfo}
    {r : ℤ × ModuleInfo} (h : getModuleInfo files module info = some r) (hret : r.1 = 0) :
    ReadParams files module r.2 := by
  obtain ⟨s, hs, h⟩ := Option.bind_eq_some_iff.1 h
  dsimp only at h
  split_ifs at h with hfailed
  · obtain rfl := Option.some.inj h
    exact absurd hret hfailed
  · obtain ⟨t, ht, rfl⟩ := Option.map_eq_some_iff.1 h
    exact ⟨getModuleParam_read hs (not_not.1 hfailed), getModuleParam_read ht hret⟩

theorem gpuQueryDriverInfo_ret {behind : Behind} {s : VersionState} {first second : Bool}
    {device : ℕ} {driverInfo : GpuDriverInfo} {m : Ledger} {r : ℤ × Option GpuDriverInfo × Ledger}
    (h : gpuQueryDriverInfo ok behind s first second device (some driverInfo) m = some r) :
    (r.1 = 0 ↔ (first && second) = true)
      ∧ (r.1 = 0 → ∃ info, r.2.1 = some info ∧ DriverAnswered s behind device info) := by
  unfold gpuQueryDriverInfo at h
  dsimp only at h
  split_ifs at h with hfirst hsecond
  · obtain rfl := Option.some.inj h
    simp only [Bool.not_eq_true'] at hfirst
    simp [hfirst, ioctlFailed]
  · obtain rfl := Option.some.inj h
    simp only [Bool.not_eq_true'] at hsecond
    simp [hsecond, ioctlFailed]
  · obtain ⟨⟨name, m1⟩, hname, h⟩ := Option.bind_eq_some_iff.1 h
    obtain ⟨⟨desc, m2⟩, hdesc, h⟩ := Option.bind_eq_some_iff.1 h
    obtain ⟨⟨date, m3⟩, hdate, rfl⟩ := Option.map_eq_some_iff.1 h
    simp only [Bool.not_eq_true, Bool.not_eq_false'] at hfirst hsecond
    exact ⟨iff_of_true rfl (by simp [hfirst, hsecond]), fun _ => ⟨_, rfl, rfl, rfl, rfl,
      strdup_copyOf ok hname, strdup_copyOf ok hdesc, strdup_copyOf ok hdate⟩⟩

/-- What a query leaves of the directories, and what it keeps when it succeeds. -/
theorem queryAllInfo_some {v : DriverVisit} {info : DriverInfo} {r : ℤ × DriverInfo}
    (h : queryAllInfo ok v info = some r) :
    r.2.dirs = info.dirs + (Finds v).toNat ∧ (r.1 = 0 → DriverRead v r.2) := by
  obtain ⟨⟨ret, driver, m⟩, hdriver, h⟩ := Option.bind_eq_some_iff.1 h
  obtain ⟨hret, hanswer⟩ := gpuQueryDriverInfo_ret ok hdriver
  dsimp only at h hret hanswer
  split_ifs at h with hfailed
  · obtain rfl := Option.some.inj h
    refine ⟨?_, fun h0 => absurd h0 hfailed⟩
    rw [Finds, Bool.eq_false_iff.2 fun h0 => hfailed (hret.2 h0)]
    rfl
  obtain ⟨driverInfo, hinfo, hanswered⟩ := hanswer (not_not.1 hfailed)
  obtain ⟨⟨ret', modAmdgpu⟩, hmod, h⟩ := Option.bind_eq_some_iff.1 h
  have hmodret := getModuleInfo_ret hmod
  dsimp only at h hmodret
  split_ifs at h with hfailed'
  · obtain rfl := Option.some.inj h
    refine ⟨?_, fun h0 => absurd h0 hfailed'⟩
    have hno : ((paramFile v.files "amdgpu" "version").isSome
        && (paramFile v.files "amdgpu" "srcversion").isSome) = false := by
      rw [Bool.eq_false_iff, Ne, Bool.and_eq_true, ← hmodret]
      exact hfailed'
    rw [Finds, Bool.and_assoc (v.first && v.second), hno]
    simp
  have hread := getModuleInfo_read hmod (not_not.1 hfailed')
  obtain ⟨⟨isDkms, left⟩, hdkms, h⟩ := Option.bind_eq_some_iff.1 h
  have hisDkms : isDkms = (isDkmsDriver v.modules).any (·.1) := by
    rw [hdkms]
    rfl
  have hfinds : Finds v = isDkms := by
    rw [Finds, hret.1 (not_not.1 hfailed), (hmodret.1 (not_not.1 hfailed')).1,
      (hmodret.1 (not_not.1 hfailed')).2, hisDkms]
    rfl
  have hleft : left = isDkms.toNat := by
    obtain ⟨names, -, hnames⟩ := Option.map_eq_some_iff.1 hdkms
    split_ifs at hnames <;> (obtain ⟨rfl, rfl⟩ := Prod.mk.inj hnames; rfl)
  dsimp only at h
  rw [hinfo] at h
  split_ifs at h with hkcl
  · obtain rfl := Option.some.inj h
    simp only [Bool.not_eq_true'] at hkcl
    refine ⟨by rw [hfinds, hleft], fun _ => ⟨?_, hisDkms, hread, fun hfound => ?_⟩⟩
    · exact hanswered
    · cases hkcl.symm.trans hfound
  · obtain ⟨⟨ret'', modAmdkcl⟩, hkclmod, rfl⟩ := Option.map_eq_some_iff.1 h
    refine ⟨by rw [hfinds, hleft], fun h0 =>
      ⟨?_, hisDkms, hread, fun _ => getModuleInfo_read hkclmod h0⟩⟩
    exact hanswered

theorem query_dirs {v : DriverVisit} {info info' : DriverInfo} {r : TabResult}
    (h : query ok v info r info') : info'.dirs = info.dirs + (Finds v).toNat := by
  obtain ⟨ret, hquery, rfl⟩ := h
  exact (queryAllInfo_some ok hquery).1

theorem queries_dirs : ∀ {vs : List DriverVisit} {info info' : DriverInfo} {rs : List TabResult},
    Visits (query ok) vs info rs info' → info'.dirs = info.dirs + vs.countP Finds
  | [], info, info', rs, h => by
    obtain ⟨-, rfl⟩ := visits_nil.1 h
    rfl
  | v :: vs, info, info', rs, h => by
    obtain ⟨r, mid, rs', rfl, hquery, hrest⟩ := visits_cons.1 h
    rw [queries_dirs hrest, query_dirs ok hquery, List.countP_cons]
    rcases Finds v
    · rfl
    · show info.dirs + 1 + _ = info.dirs + (_ + 1)
      omega

/-- A query that fails draws nothing. -/
theorem queries_failed : ∀ {vs : List DriverVisit} {info info' : DriverInfo} {rs : List TabResult},
    Visits (query ok) vs info rs info' → (∀ r ∈ rs, ¬ Good r) → ∀ r ∈ rs, r.1 ≠ 0 ∧ r.2 = none
  | [], _, _, _, h, _ => by
    obtain ⟨rfl, -⟩ := visits_nil.1 h
    exact List.forall_mem_nil _
  | v :: vs, _, _, _, h, hbad => by
    obtain ⟨r, mid, rs', rfl, ⟨ret, -, rfl⟩, hrest⟩ := visits_cons.1 h
    rw [List.forall_mem_cons] at hbad ⊢
    exact ⟨⟨hbad.1, if_pos hbad.1⟩, queries_failed hrest hbad.2⟩

theorem visits_length {W σ R : Type*} {call : CallRel W σ R} :
    ∀ {ws : List W} {s s' : σ} {rs : List R}, Visits call ws s rs s' → rs.length = ws.length
  | [], _, _, _, h => by
    obtain ⟨rfl, -⟩ := visits_nil.1 h
    rfl
  | _ :: _, _, _, _, h => by
    obtain ⟨r, mid, rs', rfl, -, hrest⟩ := visits_cons.1 h
    rw [List.length_cons, visits_length hrest, List.length_cons]

end DriverTab

open DriverTab in
/-- In every run of visits all up to the first success fail and draw nothing; from there on each
shows what that one read, of the device that was active then. A directory stays open for each visit
that got as far as finding the module. -/
theorem driver_tab_run (ok : ℕ → Bool) {vs : List DriverVisit} {rs : List TabResult}
    {tab : Latch DriverInfo} (h : Visits (DriverTab.init ok) vs ⟨true, {}⟩ rs tab) :
    ∃ asked later, vs = asked ++ later ∧ tab.data.dirs = asked.countP Finds
      ∧ ((later = [] ∧ tab.first = true ∧ ∀ r ∈ rs, r.1 ≠ 0 ∧ r.2 = none)
        ∨ ∃ bad v badrs, asked = bad ++ [v] ∧ tab.first = false
          ∧ tab.data.gpuDriverInfo.device = some v.device ∧ DriverRead v tab.data
          ∧ badrs.length = bad.length ∧ (∀ r ∈ badrs, r.1 ≠ 0 ∧ r.2 = none)
          ∧ rs = badrs ++ List.replicate (later.length + 1) (0, some (driverTexts tab.data))) := by
  rcases (keepsGood ok).visits_iff.1 h with ⟨info, hvisits, hbad, rfl⟩ |
    ⟨bad, v, later, rfl, badrs, mid, r, info, hvisits, hbad, hquery, hgood, rfl, rfl⟩
  · refine ⟨vs, [], (List.append_nil vs).symm, ?_, Or.inl ⟨rfl, rfl, queries_failed ok hvisits hbad⟩⟩
    rw [queries_dirs ok hvisits, Nat.zero_add]
  · have hanswered : DriverRead v info := by
      obtain ⟨ret, hrun, rfl⟩ := hquery
      exact (queryAllInfo_some ok hrun).2 hgood
    refine ⟨bad ++ [v], later, by rw [List.append_assoc]; rfl, ?_, Or.inr ⟨bad, v, badrs, rfl, rfl,
      hanswered.driver.device, hanswered, visits_length hvisits, queries_failed ok hvisits hbad,
      ?_⟩⟩
    · rw [query_dirs ok hquery, queries_dirs ok hvisits, List.countP_append, List.countP_singleton]
      rcases Finds v <;> simp
    · obtain ⟨ret, hrun, rfl⟩ := hquery
      obtain rfl : ret = 0 := hgood
      have hagain : later.map (again · info)
          = List.replicate later.length (0, some (driverTexts info)) := List.map_const'
      rw [hagain, List.replicate_succ]
      rfl

section Example

def driverVisit (device : ℕ) (first : Bool) : DriverVisit :=
  { device, behind := ⟨[0], [0], [0]⟩, version := ⟨3, 57, [97], [48], [65]⟩, first, second := true
    files := fun _ => some "6.7\n".toList, modules := some ["amdkcl".toList] }

/-- The first visit fails, the second asks device 0, the third shows its answers for device 1. -/
theorem driver_tab_run_stays : ∃ rs tab, Visits (DriverTab.init fun _ => true)
      [driverVisit 0 false, driverVisit 0 true, driverVisit 1 true] ⟨true, {}⟩ rs tab
    ∧ ∃ asked later, [driverVisit 0 false, driverVisit 0 true, driverVisit 1 true] = asked ++ later
      ∧ tab.data.dirs = asked.countP DriverTab.Finds
      ∧ ((later = [] ∧ tab.first = true ∧ ∀ r ∈ rs, r.1 ≠ 0 ∧ r.2 = none)
        ∨ ∃ bad v badrs, asked = bad ++ [v] ∧ tab.first = false
          ∧ tab.data.gpuDriverInfo.device = some v.device ∧ DriverTab.DriverRead v tab.data
          ∧ badrs.length = bad.length ∧ (∀ r ∈ badrs, r.1 ≠ 0 ∧ r.2 = none)
          ∧ rs = badrs ++ List.replicate (later.length + 1)
            (0, some (DriverTab.driverTexts tab.data))) :=
  have h := .cons rfl (.cons rfl (.cons rfl (.nil _)))
  ⟨_, _, h, driver_tab_run _ h⟩

end Example

end Amdtop
