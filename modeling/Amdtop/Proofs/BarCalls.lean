import Amdtop.Proofs.StateInfo

/-!
# The calls of `barSetValue`

A call stores the percentage it should just if 32 bits are enough for the numbers it begins with,
the maximum, the value and the two products, and the maximum is not 0 (`BarSet.right_iff`). A
refresh makes its calls in turn, up to the first query that fails or maximum that is 0
(`updateSensorValue_adds`).
-/

namespace Amdtop

open Stdio Cmd

/-! ## One call -/

/-- The call stores in `bar` the percentage of the value in the maximum, and nothing is cut or wraps
on the way. -/
structure BarSet.Stores (c : BarSet) (bar : WindowBar) : Prop where
  result : c.result = some bar
  reads : ∀ read ∈ c.reads, (read.value.toNat : ℤ) = read.number
  max_ne : c.bar.max ≠ 0
  max_eq : c.bar.max.toNat = c.max
  arg_eq : (c.arg.toNat : ℤ) = c.value
  product : 100 * min c.arg.toNat c.bar.max.toNat < 2 ^ 32
  percent_eq : (bar.percent.toNat : ℤ) = 100 * min c.value c.max / c.max
  percent_le : bar.percent.toNat ≤ 100
  fill : c.bar.width.toNat * bar.percent.toNat < 2 ^ 32
  count_le : (c.bar.count bar.percent).toNat ≤ c.bar.width.toNat

/-- What a call should do. A bar of less than four cells is not drawn. -/
def BarSet.Right (c : BarSet) : Prop := 4 ≤ c.bar.width.toNat → ∃ bar, c.Stores bar

/-- 32 bits are enough for a maximum and a value on a bar of `width` cells, for the numbers of
`/proc/meminfo` they come from, and for what is computed from them. -/
structure Fits (width max : ℕ) (value : ℤ) (reads : List MemRead) : Prop where
  reads : ∀ read ∈ reads, read.Held
  max_pos : 0 < max
  max_lt : max < 2 ^ 32
  value_nonneg : 0 ≤ value
  value_lt : value < 2 ^ 32
  product : 100 * min value max < 2 ^ 32
  fill : width * (100 * min value max / max) < 2 ^ 32

/-- The argument is the value, cut to 32 bits. -/
def Cut (value : ℤ) (arg : UInt32) : Prop := 0 ≤ value → (arg.toNat : ℤ) = value % 2 ^ 32

theorem cut_toNat (arg : UInt32) : Cut arg.toNat arg := fun _ =>
  (Int.emod_eq_of_lt (Int.natCast_nonneg _) (mod_cast arg.toNat_lt)).symm

theorem cut_toUInt32 (v : UInt64) : Cut v.toNat v.toUInt32 := fun _ => by
  rw [UInt64.toNat_toUInt32, Int.natCast_mod]
  rfl

/-- A difference of numbers that 32 bits hold is cut to itself if it is not negative. -/
theorem cut_sub {total free : MemRead} (h : ∀ read ∈ [total, free], read.Held) :
    Cut ((total.number - free.number) / 1024) ((total.value - free.value) >>> 10) := by
  rw [List.forall_mem_cons, List.forall_mem_singleton] at h
  have htotal := (MemRead.held_iff total).2 h.1
  have hfree := (MemRead.held_iff free).2 h.2
  have hshift : ((total.value - free.value) >>> 10).toNat
      = (2 ^ 32 - free.value.toNat + total.value.toNat) % 2 ^ 32 / 2 ^ 10 := by
    rw [UInt32.toNat_shiftRight, UInt32.toNat_sub, Nat.shiftRight_eq_div_pow]
    rfl
  have hltTotal := total.value.toNat_lt
  have hltFree := free.value.toNat_lt
  intro hnonneg
  rw [hshift]
  omega

theorem toNat_count_le {bar : WindowBar} {percent : UInt32} (hpercent : percent.toNat ≤ 100)
    (hfill : bar.width.toNat * percent.toNat < 2 ^ 32) :
    (bar.count percent).toNat ≤ bar.width.toNat := by
  rw [WindowBar.count, UInt32.toNat_div, UInt32.toNat_mul, Nat.mod_eq_of_lt hfill]
  exact Nat.div_le_of_le_mul (Nat.mul_comm _ 100 ▸ Nat.mul_le_mul_left _ hpercent)

namespace BarSet

theorem Stores.fits {c : BarSet} {bar : WindowBar} (h : c.Stores bar) :
    Fits c.bar.width.toNat c.max c.value c.reads := by
  have hpos : 0 < c.bar.max.toNat := Nat.pos_of_ne_zero fun h0 => h.max_ne (UInt32.toNat_inj.1 h0)
  have hlt := c.bar.max.toNat_lt
  have harg := c.arg.toNat_lt
  have hproduct := h.product
  rw [h.max_eq] at hpos hlt hproduct
  rw [← h.arg_eq]
  refine ⟨fun read hread => read.held_iff.1 (h.reads read hread), hpos, hlt, Int.natCast_nonneg _,
    mod_cast harg, mod_cast hproduct, ?_⟩
  rw [h.arg_eq, ← h.percent_eq]
  exact_mod_cast h.fill

section Right

variable {c : BarSet} (hresult : c.result = c.bar.setValue c.arg) (hunit : c.bar.unit.length ≤ 3)
  (hmax : (∀ read ∈ c.reads, read.Held) → c.bar.max = .ofNat c.max)
  (hcut : (∀ read ∈ c.reads, read.Held) → Cut c.value c.arg)

include hresult hunit hmax hcut in
theorem stores_of_fits (hwidth : 4 ≤ c.bar.width.toNat)
    (hfits : Fits c.bar.width.toNat c.max c.value c.reads) :
    c.Stores (BarCall.after (c.bar.max, c.arg) c.bar) := by
  have hmax_eq : c.bar.max.toNat = c.max := by
    rw [hmax hfits.reads, UInt32.toNat_ofNat_of_lt' hfits.max_lt]
  have harg_eq : (c.arg.toNat : ℤ) = c.value :=
    (hcut hfits.reads hfits.value_nonneg).trans
      (Int.emod_eq_of_lt hfits.value_nonneg hfits.value_lt)
  have hne : c.bar.max ≠ 0 := fun h0 => by
    rw [h0] at hmax_eq
    exact hfits.max_pos.ne hmax_eq
  have hproduct : 100 * min c.arg.toNat c.bar.max.toNat < 2 ^ 32 := by
    have hproduct := hfits.product
    rw [← harg_eq, ← hmax_eq] at hproduct
    exact_mod_cast hproduct
  -- the percentage is the one computed, as the product does not wrap
  have hpercent : (BarCall.after (c.bar.max, c.arg) c.bar).percent.toNat
      = 100 * min c.arg.toNat c.bar.max.toNat / c.bar.max.toNat :=
    (toNat_percent (c.bar.max, c.arg)).trans ((BarCall.drawn_eq_iff hne).2 hproduct)
  have hpercent_eq : ((BarCall.after (c.bar.max, c.arg) c.bar).percent.toNat : ℤ)
      = 100 * min c.value c.max / c.max := by
    rw [hpercent, ← harg_eq, ← hmax_eq]
    push_cast
    rfl
  have hle : (BarCall.after (c.bar.max, c.arg) c.bar).percent.toNat ≤ 100 :=
    hpercent.le.trans (BarCall.percent_le (c.bar.max, c.arg))
  have hfill : c.bar.width.toNat * (BarCall.after (c.bar.max, c.arg) c.bar).percent.toNat
      < 2 ^ 32 := by
    have hfill := hfits.fill
    rw [← hpercent_eq] at hfill
    exact_mod_cast hfill
  have hlabel : (BarCall.label c.bar.unit (c.bar.max, c.arg)).length < labelBuffer :=
    label_fits hunit
  have hstored := setValue_eq (c.bar.max, c.arg) hne hwidth
  rw [if_neg (not_le.2 hlabel)] at hstored
  exact ⟨hresult.trans hstored, fun read hread => read.held_iff.2 (hfits.reads read hread), hne,
    hmax_eq, harg_eq, hproduct, hpercent_eq, hle, hfill, toNat_count_le hle hfill⟩

include hresult hunit hmax hcut in
theorem right_iff :
    c.Right ↔ (4 ≤ c.bar.width.toNat → Fits c.bar.width.toNat c.max c.value c.reads) := by
  refine forall_congr' fun hwidth => ⟨?_, fun hfits => ?_⟩
  · rintro ⟨bar, hstores⟩
    exact hstores.fits
  · exact ⟨_, stores_of_fits hresult hunit hmax hcut hwidth hfits⟩

end Right

end BarSet

/-! ## What a refresh reads -/

/-- The queries of a type are answered. -/
def MemAnswers.Answers (memory : MemAnswers) (type : GpuMemType) : Prop :=
  (memory.vramGtt type).isSome ∧ (memory.usage type).isSome

def MemAnswers.total (memory : MemAnswers) (type : GpuMemType) : UInt64 :=
  ((memory.vramGtt type).getD {}).total type

def MemAnswers.used (memory : MemAnswers) (type : GpuMemType) : UInt64 :=
  (memory.usage type).getD 0

/-- What is kept of the answers. -/
def MemAnswers.info (memory : MemAnswers) (device : ℕ) (type : GpuMemType) : GpuMemInfo where
  device := some device
  type
  total := memory.total type
  used := memory.used type

/-- What a call of `barSetValue` does not change of a bar. -/
structure BarShape where
  max : UInt32
  unit : List Char
  width : UInt32

def WindowBar.shape (bar : WindowBar) : BarShape := ⟨bar.max, bar.unit, bar.width⟩

theorem setValue_shape {bar bar' : WindowBar} {arg : UInt32} (h : bar.setValue arg = some bar') :
    bar'.shape = bar.shape := by
  unfold WindowBar.setValue at h
  dsimp only at h
  split_ifs at h
  · obtain rfl := Option.some.inj h
    rfl
  · obtain rfl := Option.some.inj h
    rfl

namespace StateInfo

/-- The bars, with their maxima before they are cut and what those come from. -/
structure Bars where
  shape : BarType → BarShape
  barMax : BarType → ℕ
  maxReads : BarType → List MemRead

/-- The bars are of one width, and of the tab's units. -/
structure Bars.Sound (b : Bars) : Prop where
  units : ∀ type, (b.shape type).unit.length ≤ 3
  widths : ∀ type, (b.shape type).width = (b.shape .gfxClock).width
  maxima : ∀ type, (∀ read ∈ b.maxReads type, read.Held) →
    (b.shape type).max = .ofNat (b.barMax type)

def Bars.width (b : Bars) : ℕ := (b.shape .gfxClock).width.toNat

/-- 32 bits are enough for a call, if the bars are drawn. -/
def Bars.Takes (b : Bars) (type : BarType) (value : ℤ) (reads : List MemRead) : Prop :=
  4 ≤ b.width → Fits b.width (b.barMax type) value (reads ++ b.maxReads type)

/-- What the commands read of the tab. -/
structure View where
  bars : Bars
  sensorInfo : UInt32
  memInfo : GpuMemType → GpuMemInfo
  clocks : DeviceClocks
  load : CpuLoad

def view (tab : StateInfo) : View where
  bars := ⟨fun type => (tab.sensorBar type).shape, tab.barMax, tab.maxReads⟩
  sensorInfo := tab.sensorInfo
  memInfo := tab.memInfo
  clocks := tab.deviceInfo.amdgpu
  load := tab.load

/-- The calls so far are as they should be. -/
def AllRight (tab : StateInfo) : Prop := ∀ c ∈ tab.log, c.Right

theorem setValue_log (tab : StateInfo) (type : BarType) (value : ℤ) (arg : UInt32)
    (reads : List MemRead) :
    (setValue type value arg reads tab).2.log = ⟨type, tab.barMax type, value,
      reads ++ tab.maxReads type, tab.sensorBar type, arg, (tab.sensorBar type).setValue arg⟩
        :: tab.log := by
  unfold setValue
  rcases (tab.sensorBar type).setValue arg with _ | bar
  · rfl
  · rfl

theorem setValue_view (type : BarType) (value : ℤ) (arg : UInt32) (reads : List MemRead) :
    Leaves view (setValue type value arg reads) := fun tab => by
  unfold setValue
  rcases hset : (tab.sensorBar type).setValue arg with _ | bar
  · rfl
  · have hshape : (fun type' => (Function.update tab.sensorBar type bar type').shape)
        = fun type' => (tab.sensorBar type').shape := funext fun type' => by
      by_cases htype : type' = type
      · rw [htype, Function.update_self, setValue_shape hset]
      · rw [Function.update_of_ne htype]
    simp only [view, hshape]

section Adds

variable {b : Bars} {x : UInt32} {m : GpuMemType → GpuMemInfo} {d : DeviceClocks} {l : CpuLoad}

section Bars

variable (hb : b.Sound)

include hb in
theorem setValue_adds (type : BarType) {value : ℤ} {arg : UInt32} {reads : List MemRead}
    (hcut : (∀ read ∈ reads, read.Held) → Cut value arg) :
    Adds view AllRight ⟨b, x, m, d, l⟩ ⟨b, x, m, d, l⟩ (setValue type value arg reads)
      ((b.shape type).max ≠ 0) (b.Takes type value reads) := by
  refine ⟨fun tab htab => ?_, fun tab htab _ => (setValue_view type value arg reads tab).trans htab,
    fun tab htab => ?_⟩
  · obtain ⟨rfl, -⟩ := View.mk.inj htab
    exact setValue_fst tab type value arg reads (hb.units type)
  · obtain ⟨rfl, -⟩ := View.mk.inj htab
    have hwidth : (tab.sensorBar type).width.toNat = tab.view.bars.width :=
      congrArg UInt32.toNat (hb.widths type)
    have hright := BarSet.right_iff (c := ⟨type, tab.barMax type, value, reads ++ tab.maxReads type,
      tab.sensorBar type, arg, (tab.sensorBar type).setValue arg⟩) rfl (hb.units type)
      (fun h => hb.maxima type (List.forall_mem_append.1 h).2)
      fun h => hcut (List.forall_mem_append.1 h).1
    rw [AllRight, setValue_log, List.forall_mem_cons, hright, hwidth, and_comm]
    rfl

include hb in
theorem setSensor_adds (type : BarType) :
    Adds view AllRight ⟨b, x, m, d, l⟩ ⟨b, x, m, d, l⟩ (setSensor type)
      ((b.shape type).max ≠ 0) (b.Takes type x.toNat []) :=
  adds_look fun tab htab => by
    obtain ⟨-, rfl, -⟩ := View.mk.inj htab
    exact setValue_adds hb type fun _ => cut_toNat tab.sensorInfo

include hb in
theorem setUsed_adds (type : BarType) (mem : GpuMemType) :
    Adds view AllRight ⟨b, x, m, d, l⟩ ⟨b, x, m, d, l⟩ (setUsed type mem)
      ((b.shape type).max ≠ 0) (b.Takes type ((m mem).used >>> 20).toNat []) :=
  adds_look fun tab htab => by
    obtain ⟨-, -, rfl, -⟩ := View.mk.inj htab
    exact setValue_adds hb type fun _ => cut_toUInt32 ((tab.memInfo mem).used >>> 20)

include hb in
theorem setSysMem_adds (r : Refresh) :
    Adds view AllRight ⟨b, x, m, d, l⟩ ⟨b, x, m, d, l⟩ (setSysMem r)
      ((b.shape .sysMem).max ≠ 0)
      (b.Takes .sysMem (((memTotal r.totalMem).number - (memAvailable r.freeMem).number) / 1024)
        [memTotal r.totalMem, memAvailable r.freeMem]) :=
  setValue_adds hb .sysMem fun hheld => by
    rw [← memTotal_value, ← memAvailable_value]
    exact cut_sub hheld

include hb in
theorem setCpuLoad_adds (readings : ℕ → Option (List Char)) :
    Adds view AllRight ⟨b, x, m, d, l⟩ ⟨b, x, m, d, (minCpuLoad readings l).2⟩
      (setCpuLoad readings) ((b.shape .cpuLoad).max ≠ 0)
      (b.Takes .cpuLoad (minCpuLoad readings l).1.toNat []) := by
  have hset : Adds view AllRight ⟨b, x, m, d, (minCpuLoad readings l).2⟩
      ⟨b, x, m, d, (minCpuLoad readings l).2⟩ _ _ _ :=
    setValue_adds hb .cpuLoad fun _ : ∀ read ∈ ([] : List MemRead), read.Held =>
      cut_toNat (minCpuLoad readings l).1
  refine ⟨fun tab htab => ?_, fun tab htab => ?_, fun tab htab => ?_⟩
  · obtain ⟨rfl, rfl, rfl, rfl, rfl⟩ := View.mk.inj htab
    exact hset.ok { tab with load := (minCpuLoad readings tab.load).2 } rfl
  · obtain ⟨rfl, rfl, rfl, rfl, rfl⟩ := View.mk.inj htab
    exact hset.next { tab with load := (minCpuLoad readings tab.load).2 } rfl
  · obtain ⟨rfl, rfl, rfl, rfl, rfl⟩ := View.mk.inj htab
    exact hset.adds { tab with load := (minCpuLoad readings tab.load).2 } rfl

end Bars

theorem querySensor_adds (r : Refresh) (type : GpuSensorType) (n : ℕ) :
    Adds view AllRight ⟨b, x, m, d, l⟩ ⟨b, (r.sensor type n).getD 0, m, d, l⟩
      (querySensor r type n) (r.sensor type n).isSome True := by
  refine ⟨fun tab _ => ?_, fun tab htab hsome => ?_, fun tab _ => (and_iff_left trivial).symm⟩
  · unfold querySensor queryAmdGpuInfo
    rcases r.sensor type n with _ | value
    · exact iff_of_false (show ioctlFailed ≠ 0 by decide) (by decide)
    · exact iff_of_true rfl rfl
  · obtain ⟨rfl, -, rfl, rfl, rfl⟩ := View.mk.inj htab
    obtain ⟨value, hvalue⟩ := Option.isSome_iff_exists.1 hsome
    unfold querySensor
    rw [hvalue]
    rfl

theorem queryMem_adds (device : ℕ) (memory : MemAnswers) (type : GpuMemType) :
    Adds view AllRight ⟨b, x, m, d, l⟩
      ⟨b, x, Function.update m type (memory.info device type), d, l⟩
      (queryMem device memory type) (memory.Answers type) True := by
  refine ⟨fun tab _ => ?_, fun tab htab hall => ?_, fun tab _ => (and_iff_left trivial).symm⟩
  · unfold queryMem gpuQueryMemInfo queryAmdGpuInfo MemAnswers.Answers
    rcases memory.vramGtt type with _ | vramGtt
    · exact iff_of_false (show ioctlFailed ≠ 0 by decide) fun h => nomatch h.1
    rcases memory.usage type with _ | used
    · exact iff_of_false (show ioctlFailed ≠ 0 by decide) fun h => nomatch h.2
    · exact iff_of_true rfl ⟨rfl, rfl⟩
  · obtain ⟨rfl, rfl, rfl, rfl, rfl⟩ := View.mk.inj htab
    obtain ⟨vramGtt, hvramGtt⟩ := Option.isSome_iff_exists.1 hall.1
    obtain ⟨used, hused⟩ := Option.isSome_iff_exists.1 hall.2
    unfold queryMem MemAnswers.info MemAnswers.total MemAnswers.used
    rw [hvramGtt, hused]
    rfl

end Adds

/-! ## A refresh -/

/-- The queries before the processors' bar are answered. -/
structure Answered (r : Refresh) : Prop where
  gfxClock : (r.sensor .gfxClock 0).isSome
  memClock : (r.sensor .memClock 0).isSome
  gpuLoad : (r.sensor .gpuLoad 0).isSome
  memory : ∀ type, r.memory.Answers type

/-- They are, and no bar before it has the maximum 0. -/
structure ReachesCpu (b : Bars) (r : Refresh) : Prop where
  answered : Answered r
  max_ne : ∀ type ≠ .cpuLoad, (b.shape type).max ≠ 0

section BarsFit

variable (width : ℕ) (max : BarType → ℕ) (reads : BarType → List MemRead)

/-- 32 bits are enough for each bar up to the processors' that the refresh comes to. -/
structure BarsFit (r : Refresh) : Prop where
  gfxClock : (r.sensor .gfxClock 0).isSome →
    Fits width (max .gfxClock) ((r.sensor .gfxClock 0).getD 0).toNat (reads .gfxClock)
  memClock : (r.sensor .gfxClock 0).isSome → (r.sensor .memClock 0).isSome →
    Fits width (max .memClock) ((r.sensor .memClock 0).getD 0).toNat (reads .memClock)
  gpuLoad : (r.sensor .gfxClock 0).isSome → (r.sensor .memClock 0).isSome →
    (r.sensor .gpuLoad 0).isSome →
    Fits width (max .gpuLoad) ((r.sensor .gpuLoad 0).getD 0).toNat (reads .gpuLoad)
  vram : Answered r →
    Fits width (max .vram) (r.memory.used .vram >>> 20).toNat (reads .vram)
  visible : Answered r →
    Fits width (max .visible) (r.memory.used .visible >>> 20).toNat (reads .visible)
  gtt : Answered r → Fits width (max .gtt) (r.memory.used .gtt >>> 20).toNat (reads .gtt)
  sysMem : Answered r → Fits width (max .sysMem)
    (((memTotal r.totalMem).number - (memAvailable r.freeMem).number) / 1024)
    (memTotal r.totalMem :: memAvailable r.freeMem :: reads .sysMem)

/-- Also for the processors' bar, with the value `cpu`. -/
structure RefreshFits (cpu : ℕ) (r : Refresh) : Prop extends BarsFit width max reads r where
  cpuLoad : Answered r → Fits width (max .cpuLoad) cpu (reads .cpuLoad)

end BarsFit

section Refresh

variable {b : Bars} {x : UInt32} {m : GpuMemType → GpuMemInfo} {d : DeviceClocks} {l : CpuLoad}
  (hb : b.Sound) (r : Refresh)

include hb in
theorem max_ne_of_takes (hwidth : 4 ≤ b.width) {type : BarType} {value : ℤ}
    {reads : List MemRead} (htakes : b.Takes type value reads) : (b.shape type).max ≠ 0 := by
  obtain ⟨hreads, hpos, hlt, -⟩ := htakes hwidth
  intro hmax
  have hmaxima := hb.maxima type (List.forall_mem_append.1 hreads).2
  have hzero := congrArg UInt32.toNat (hmaxima.symm.trans hmax)
  rw [UInt32.toNat_ofNat_of_lt' hlt] at hzero
  exact hpos.ne' hzero

include hb in
theorem beforeCpu_adds : ∃ x' m', Adds view AllRight ⟨b, x, m, d, l⟩ ⟨b, x', m', d, l⟩
    (block (beforeCpu r)) (ReachesCpu b r)
    (4 ≤ b.width → BarsFit b.width b.barMax b.maxReads r) := by
  have hchain : Adds view AllRight ⟨b, x, m, d, l⟩ _ (block (beforeCpu r)) _ _ :=
    (querySensor_adds r .gfxClock 0).cons <| (setSensor_adds hb .gfxClock).cons <|
    (querySensor_adds r .memClock 0).cons <| (setSensor_adds hb .memClock).cons <|
    (querySensor_adds r .gpuLoad 0).cons <| (setSensor_adds hb .gpuLoad).cons <|
    (queryMem_adds r.device r.memory .vram).cons <| (queryMem_adds r.device r.memory .gtt).cons <|
    (queryMem_adds r.device r.memory .visible).cons <| (setUsed_adds hb .vram .vram).cons <|
    (setUsed_adds hb .visible .visible).cons <| (setUsed_adds hb .gtt .gtt).cons <|
    (setSysMem_adds hb r).cons adds_nil
  refine ⟨_, _, hchain.congr ⟨?_, fun h => ?_⟩ ⟨?_, fun h => ?_⟩⟩
  · rintro ⟨h1, h2, h3, h4, h5, h6, h7, h8, h9, h10, h11, h12, h13, -⟩
    refine ⟨⟨h1, h3, h5, fun type => ?_⟩, fun type htype => ?_⟩
    · rcases type
      exacts [h7, h9, h8]
    · rcases type
      exacts [h2, h4, h6, absurd rfl htype, h10, h12, h11, h13]
  · exact ⟨h.answered.gfxClock, h.max_ne _ (by decide), h.answered.memClock,
      h.max_ne _ (by decide), h.answered.gpuLoad, h.max_ne _ (by decide), h.answered.memory _,
      h.answered.memory _, h.answered.memory _, h.max_ne _ (by decide), h.max_ne _ (by decide),
      h.max_ne _ (by decide), h.max_ne _ (by decide), trivial⟩
  · rintro ⟨-, hgfx⟩ hwidth
    have hne : ∀ {type : BarType} {value : ℤ} {reads : List MemRead},
        b.Takes type value reads → (b.shape type).max ≠ 0 := max_ne_of_takes hb hwidth
    -- what each bar adds, once the one before it has not ended the refresh
    have hmem := fun h0 => ((hgfx h0).2 (hne (hgfx h0).1)).2
    have hload := fun h0 h1 => ((hmem h0 h1).2 (hne (hmem h0 h1).1)).2
    have hmemory := fun h : Answered r => (hload h.gfxClock h.memClock h.gpuLoad).2
      (hne (hload h.gfxClock h.memClock h.gpuLoad).1)
    have hvram := fun h : Answered r => (((hmemory h).2 (h.memory .vram)).2 (h.memory .gtt)).2
      (h.memory .visible)
    have hvisible := fun h : Answered r => (hvram h).2 (hne (hvram h).1)
    have hgtt := fun h : Answered r => (hvisible h).2 (hne (hvisible h).1)
    have hsysMem := fun h : Answered r => (hgtt h).2 (hne (hgtt h).1)
    exact ⟨fun h0 => (hgfx h0).1 hwidth, fun h0 h1 => (hmem h0 h1).1 hwidth,
      fun h0 h1 h2 => (hload h0 h1 h2).1 hwidth, fun h => (hvram h).1 hwidth,
      fun h => (hvisible h).1 hwidth, fun h => (hgtt h).1 hwidth, fun h => (hsysMem h).1 hwidth⟩
  · refine ⟨trivial, fun h0 => ⟨fun hw => (h hw).gfxClock h0, fun _ => ⟨trivial, fun h1 =>
      ⟨fun hw => (h hw).memClock h0 h1, fun _ => ⟨trivial, fun h2 =>
      ⟨fun hw => (h hw).gpuLoad h0 h1 h2, fun _ => ⟨trivial, fun h3 => ⟨trivial, fun h4 =>
      ⟨trivial, fun h5 => ?_⟩⟩⟩⟩⟩⟩⟩⟩⟩
    have hall : Answered r := ⟨h0, h1, h2, fun type => by
      rcases type
      exacts [h3, h5, h4]⟩
    exact ⟨fun hw => (h hw).vram hall, fun _ => ⟨fun hw => (h hw).visible hall, fun _ =>
      ⟨fun hw => (h hw).gtt hall, fun _ => ⟨fun hw => (h hw).sysMem hall, fun _ => trivial⟩⟩⟩⟩

include hb in
/-- What a refresh adds, from any state. -/
theorem updateSensorValue_adds (readings : ℕ → Option (List Char)) :
    ∃ w S, Adds view AllRight ⟨b, x, m, d, l⟩ w (updateSensorValue readings r) S
      (4 ≤ b.width →
        RefreshFits b.width b.barMax b.maxReads (minCpuLoad readings l).1.toNat r) := by
  obtain ⟨x', m', hbefore⟩ := beforeCpu_adds (x := x) (m := m) (d := d) (l := l) hb r
  have hchain := hbefore.andThen ((setCpuLoad_adds hb readings).andThen
    ((querySensor_adds r .gpuTemp 0).cons <| (querySensor_adds r .gpuPower 0).cons <|
    (querySensor_adds r .pstateGfxClock 0).cons <|
    (querySensor_adds r .pstateGfxClock 1).cons adds_nil))
  rw [updateSensorValue_eq]
  refine ⟨_, _, hchain.congr Iff.rfl ⟨?_, fun h => ?_⟩⟩
  · rintro ⟨hbars, hcpu⟩ hwidth
    refine ⟨hbars hwidth, fun hall => (hcpu ⟨hall, fun type htype => ?_⟩).1 hwidth⟩
    have hne : ∀ {type : BarType} {value : ℤ},
        Fits b.width (b.barMax type) value (b.maxReads type) → (b.shape type).max ≠ 0 :=
      fun {type value} h =>
      max_ne_of_takes hb hwidth (show b.Takes type value [] from fun _ => h)
    rcases type
    · exact hne ((hbars hwidth).gfxClock hall.gfxClock)
    · exact hne ((hbars hwidth).memClock hall.gfxClock hall.memClock)
    · exact hne ((hbars hwidth).gpuLoad hall.gfxClock hall.memClock hall.gpuLoad)
    · exact absurd rfl htype
    · exact hne ((hbars hwidth).vram hall)
    · exact hne ((hbars hwidth).gtt hall)
    · exact hne ((hbars hwidth).visible hall)
    · exact max_ne_of_takes hb hwidth (show b.Takes .sysMem _ [_, _] from fun hw =>
        (hbars hw).sysMem hall)
  · refine ⟨fun hw => (h hw).toBarsFit, fun hreach =>
      ⟨fun hw => (h hw).cpuLoad hreach.answered, fun _ => ?_⟩⟩
    simp only [implies_true, and_self]

end Refresh

/-! ## The init -/

/-- The bars after one has been set up. -/
def Bars.create (b : Bars) (type : BarType) (unit : String) (width : UInt32) : Bars where
  shape := Function.update b.shape type ⟨100, unit.toList, width⟩
  barMax := Function.update b.barMax type 100
  maxReads := Function.update b.maxReads type []

def Bars.createAll (width : UInt32) : List (BarType × String × String) → Bars → Bars
  | [], b => b
  | (type, _, unit) :: bars, b => createAll width bars (b.create type unit width)

/-- The bars after all have been set up. -/
def Bars.created (b : Bars) (width : UInt32) : Bars :=
  createAll width rightBars (createAll width leftBars b)

/-- A maximum: before it is cut, the numbers it comes from, and after. -/
structure Maximum where
  number : ℕ
  reads : List MemRead
  cut : UInt32
  exact : (∀ read ∈ reads, read.Held) → cut = .ofNat number

/-- The bars with their maxima set. -/
def Bars.withMaxima (b : Bars) (max : BarType → Maximum) : Bars where
  shape := fun type => { b.shape type with max := (max type).cut }
  barMax := fun type => (max type).number
  maxReads := fun type => (max type).reads

theorem created_sound (b : Bars) (width : UInt32) : (b.created width).Sound := by
  refine ⟨fun type => ?_, fun type => ?_, fun type => ?_⟩
  · rcases type
    iterate 2 exact show "MHz".toList.length ≤ 3 by decide
    iterate 2 exact show "%".toList.length ≤ 3 by decide
    iterate 4 exact show "MB".toList.length ≤ 3 by decide
  · rcases type <;> rfl
  · rcases type <;> exact fun _ => rfl

theorem Bars.Sound.withMaxima {b : Bars} (hb : b.Sound) (max : BarType → Maximum) :
    (b.withMaxima max).Sound := ⟨hb.units, hb.widths, fun type => (max type).exact⟩

/-- A number that is aligned in 32 bits as it is. -/
theorem align32_eq {val : UInt32} {n : ℕ} (hval : val.toNat = n) (hlt : n + 1023 < 2 ^ 32) :
    align32 val 1024 = .ofNat (alignUp n 1024) := by
  have hsum : (val + (1024 - 1)).toNat = n + 1023 := by
    rw [UInt32.toNat_add, hval, show (1024 - 1 : UInt32).toNat = 1023 by decide,
      Nat.mod_eq_of_lt hlt]
  have hmask : (~~~(1024 - 1) : UInt32).toNat = (2 ^ 22 - 1) * 2 ^ 10 := by decide
  have hle : (n + 1023) / 1024 * 1024 ≤ n + 1023 := Nat.div_mul_le_self _ _
  refine UInt32.toNat_inj.1 ?_
  rw [align32, alignUp, UInt32.toNat_and, hsum, hmask,
    UInt32.toNat_ofNat_of_lt' (show (n + (1024 - 1)) / 1024 * 1024 < 2 ^ 32 by omega)]
  refine Nat.eq_of_testBit_eq fun i => ?_
  rw [Nat.testBit_and, show 1024 - 1 = 1023 from rfl, show 1024 = 2 ^ 10 from rfl,
    Nat.testBit_mul_two_pow, Nat.testBit_mul_two_pow, Nat.testBit_div_two_pow,
    Nat.testBit_two_pow_sub_one]
  by_cases hlow : 10 ≤ i
  · rw [Nat.sub_add_cancel hlow]
    by_cases hhigh : i - 10 < 22
    · simp [hlow, hhigh]
    · have hbit : (n + 1023).testBit i = false :=
        Nat.testBit_lt_two_pow (hlt.trans_le (Nat.pow_le_pow_right (by decide) (by omega)))
      simp [hbit]
  · simp [hlow]

/-- A maximum of 64 bits. -/
def Maximum.of64 (max : UInt64) : Maximum := ⟨max.toNat, [], max.toUInt32, fun _ => rfl⟩

/-- The memory of the machine in MiB, aligned. -/
def Maximum.ofMem (total : MemRead) : Maximum where
  number := alignUp (total.number.toNat / 1024) 1024
  reads := [total]
  cut := align32 (total.value >>> 10) 1024
  exact h := by
    have hheld := List.forall_mem_singleton.1 h
    have hvalue := (MemRead.held_iff total).2 hheld
    unfold MemRead.Held at hheld
    refine align32_eq ?_ (by omega)
    rw [UInt32.toNat_shiftRight, Nat.shiftRight_eq_div_pow]
    change total.value.toNat / 1024 = _
    omega

/-- The maxima the init sets. -/
def maxima (clocks : DeviceClocks) (total : GpuMemType → UInt64) (totalMem : MemRead) :
    BarType → Maximum
  | .gfxClock => .of64 (clocks.maxEngineClock / 1000)
  | .memClock => .of64 (clocks.maxMemoryClock / 1000)
  | .gpuLoad => .of64 100
  | .cpuLoad => .of64 100
  | .vram => .of64 (align64 (total .vram >>> 20) 1024)
  | .gtt => .of64 (align64 (total .gtt >>> 20) 1024)
  | .visible => .of64 (total .visible >>> 20)
  | .sysMem => .ofMem totalMem

/-- The queries of the init are answered. -/
structure InitAnswered (a : InitAnswers) : Prop where
  devInfo : a.devInfo.isSome
  memory : ∀ type, a.memory.Answers type

/-- The maxima that the answers lead to. -/
def initMaxima (a : InitAnswers) : BarType → Maximum :=
  maxima (a.devInfo.getD {}) a.memory.total (memTotal a.totalMem)

theorem fits_zero (width : ℕ) : Fits width 100 0 [] :=
  ⟨by decide, by decide, by decide, le_rfl, by decide, by decide, by simp⟩

/-- The first value of a bar fits. -/
theorem setValue_zero {tab : StateInfo} {type : BarType} (hmax : (tab.sensorBar type).max = 100)
    (hbarMax : tab.barMax type = 100) (hreads : tab.maxReads type = [])
    (hunit : (tab.sensorBar type).unit.length ≤ 3) :
    AllRight (setValue type 0 0 [] tab).2 ↔ AllRight tab := by
  rw [AllRight, setValue_log, List.forall_mem_cons,
    BarSet.right_iff rfl hunit (fun _ => by rw [hmax, hbarMax]; rfl) fun _ => cut_toNat 0]
  refine and_iff_right fun _ => ?_
  rw [hbarMax, hreads]
  exact fits_zero _

section Init

variable {b : Bars} {x : UInt32} {m : GpuMemType → GpuMemInfo} {d : DeviceClocks} {l : CpuLoad}

theorem act_adds {v w : View} {f : StateInfo → StateInfo}
    (hview : ∀ tab, view tab = v → view (f tab) = w) (hlog : ∀ tab, (f tab).log = tab.log) :
    Adds view AllRight v w (act f) True True := by
  refine ⟨fun _ _ => iff_of_true rfl trivial, fun tab htab _ => hview tab htab, fun tab _ => ?_⟩
  rw [AllRight, act, hlog]
  exact (and_iff_left trivial).symm

theorem createBar_adds {name unit : String} (hshort : Short name unit) (type : BarType) (line : ℕ)
    (column width : UInt32) :
    Adds view AllRight ⟨b, x, m, d, l⟩ ⟨b.create type unit width, x, m, d, l⟩
      (createBar type name unit line column width) True True := by
  refine ⟨fun tab _ => iff_of_true (createBar_ok hshort type line column width) trivial,
    fun tab htab _ => ?_, fun tab _ => ?_⟩
  · obtain ⟨bar, hunit, hwidth, hcreate⟩ := createBar_eq tab hshort type line column width
    obtain ⟨rfl, rfl, rfl, rfl, rfl⟩ := View.mk.inj htab
    have hshape : (fun type' => (Function.update (Function.update tab.sensorBar type bar) type
        (bar.setMaxValue 100) type').shape) = Function.update (fun type' =>
          (tab.sensorBar type').shape) type ⟨100, unit.toList, width⟩ := funext fun type' => by
      by_cases htype : type' = type
      · rw [htype, Function.update_self, Function.update_self, ← hunit, ← hwidth]
        rfl
      · rw [Function.update_of_ne htype, Function.update_of_ne htype, Function.update_of_ne htype]
    rw [hcreate, setValue_view]
    simp only [setMax, act, view, Function.update_self, hshape, Bars.create]
  · obtain ⟨bar, hunit, hwidth, hcreate⟩ := createBar_eq tab hshort type line column width
    rw [hcreate]
    refine (setValue_zero ?_ ?_ ?_ ?_).trans (and_iff_left trivial).symm
    · simp only [setMax, act, Function.update_self, WindowBar.setMaxValue]
    · simp only [setMax, act, Function.update_self]
    · simp only [setMax, act, Function.update_self]
    · simp only [setMax, act, Function.update_self, WindowBar.setMaxValue]
      exact (congrArg List.length hunit).le.trans hshort.2

theorem createBars_adds (layout : WindowLayout) (column : UInt32) :
    ∀ (line : ℕ) (bars : List (BarType × String × String)) {b : Bars},
      (∀ bar ∈ bars, Short bar.2.1 bar.2.2) →
      Adds view AllRight ⟨b, x, m, d, l⟩
        ⟨b.createAll (.ofInt (innerWidth layout)) bars, x, m, d, l⟩
        (createBars layout column line bars) True True
  | _, [], _, _ => adds_nil
  | line, (type, name, unit) :: bars, b, hshort => by
    rw [List.forall_mem_cons] at hshort
    exact ((createBar_adds hshort.1 type line column _).andThen
      (createBars_adds layout column (line + 1) bars hshort.2)).congr (and_self_iff)
        ⟨fun _ => trivial, fun _ => ⟨trivial, fun _ => trivial⟩⟩

theorem queryDevice_adds (device : ℕ) (devInfo : Option DeviceClocks) :
    Adds view AllRight ⟨b, x, m, d, l⟩ ⟨b, x, m, devInfo.getD {}, l⟩ (queryDevice device devInfo)
      devInfo.isSome True := by
  refine ⟨fun tab _ => ?_, fun tab htab hsome => ?_, fun tab _ => (and_iff_left trivial).symm⟩
  · unfold queryDevice gpuQueryDeviceInfo queryAmdGpuInfo
    rcases devInfo with _ | clocks
    · exact iff_of_false (show ioctlFailed ≠ 0 by decide) (by decide)
    · exact iff_of_true rfl rfl
  · obtain ⟨rfl, rfl, rfl, -, rfl⟩ := View.mk.inj htab
    obtain ⟨clocks, rfl⟩ := Option.isSome_iff_exists.1 hsome
    rfl

theorem setMaxima_adds (a : InitAnswers) :
    Adds view AllRight ⟨b, x, m, d, l⟩
      ⟨b.withMaxima (maxima d (fun type => (m type).total) (memTotal a.totalMem)), x, m, d, l⟩
      (setMaxima a) True True := by
  refine ⟨fun _ _ => iff_of_true rfl trivial, fun tab htab _ => ?_,
    fun _ _ => (and_iff_left trivial).symm⟩
  obtain ⟨rfl, rfl, rfl, rfl, rfl⟩ := View.mk.inj htab
  have hcut : (Maximum.ofMem (memTotal a.totalMem)).cut
      = align32 (getTotalMem a.totalMem >>> 10) 1024 := by
    rw [← memTotal_value]
    rfl
  have hshape : ∀ type, ((setMaxima a tab).2.sensorBar type).shape
      = { (tab.sensorBar type).shape with
          max := (maxima tab.deviceInfo.amdgpu (fun type => (tab.memInfo type).total)
            (memTotal a.totalMem) type).cut }
    | .gfxClock | .memClock | .gpuLoad | .cpuLoad | .vram | .gtt | .visible => rfl
    | .sysMem => congrArg (BarShape.mk · _ _) hcut.symm
  have hbarMax : ∀ type, (setMaxima a tab).2.barMax type = (maxima tab.deviceInfo.amdgpu
      (fun type => (tab.memInfo type).total) (memTotal a.totalMem) type).number := fun type => by
    rcases type <;> rfl
  have hreads : ∀ type, (setMaxima a tab).2.maxReads type = (maxima tab.deviceInfo.amdgpu
      (fun type => (tab.memInfo type).total) (memTotal a.totalMem) type).reads := fun type => by
    rcases type <;> rfl
  have hbars : (setMaxima a tab).2.view.bars = tab.view.bars.withMaxima (maxima
      tab.deviceInfo.amdgpu (fun type => (tab.memInfo type).total) (memTotal a.totalMem)) := by
    unfold view Bars.withMaxima
    rw [Bars.mk.injEq]
    exact ⟨funext hshape, funext hbarMax, funext hreads⟩
  exact congrArg (View.mk · _ _ _ _) hbars

/-- The totals after the three queries. -/
theorem totals_eq (m : GpuMemType → GpuMemInfo) (device : ℕ) (memory : MemAnswers) :
    (fun type => (Function.update (Function.update (Function.update m .vram
      (memory.info device .vram)) .gtt (memory.info device .gtt)) .visible
      (memory.info device .visible) type).total) = memory.total := funext fun type => by
  rcases type <;> rfl

theorem prepare_adds (layout : WindowLayout) (a : InitAnswers) :
    ∃ m', Adds view AllRight ⟨b, x, m, d, l⟩
      ⟨(b.created (.ofInt (innerWidth layout))).withMaxima (initMaxima a), x, m',
        a.devInfo.getD {}, l⟩ (prepare layout a) (InitAnswered a) True := by
  have hmaxima := setMaxima_adds (b := b.created (.ofInt (innerWidth layout))) (x := x)
    (d := a.devInfo.getD {}) (l := l) (m := Function.update (Function.update (Function.update m
      .vram (a.memory.info a.refresh.device .vram)) .gtt (a.memory.info a.refresh.device .gtt))
      .visible (a.memory.info a.refresh.device .visible)) a
  rw [totals_eq] at hmaxima
  have hplace : ∀ v : View, Adds view AllRight v v (placeClients layout) True True := fun _ =>
    act_adds (fun _ h => h) fun _ => rfl
  have hroot : ∀ v : View, Adds view AllRight v v
      (act fun tab : StateInfo => { tab with hasRootPermission := a.root }) True True := fun _ =>
    act_adds (fun _ h => h) fun _ => rfl
  have hchain : Adds view AllRight ⟨b, x, m, d, l⟩ _ (prepare layout a) _ _ :=
    (createBars_adds layout (startx layout) firstLine leftBars leftBars_short).cons <|
    (createBars_adds layout (start2x layout) firstLine rightBars rightBars_short).cons <|
    (hplace _).cons <| (hroot _).cons <| (queryDevice_adds a.refresh.device a.devInfo).cons <|
    (queryMem_adds a.refresh.device a.memory .vram).cons <|
    (queryMem_adds a.refresh.device a.memory .gtt).cons <|
    (queryMem_adds a.refresh.device a.memory .visible).cons <| hmaxima.cons adds_nil
  refine ⟨_, hchain.congr ⟨?_, fun h => ?_⟩ ⟨fun _ => trivial, fun _ => ?_⟩⟩
  · rintro ⟨-, -, -, -, hdev, hvram, hgtt, hvisible, -⟩
    refine ⟨hdev, fun type => ?_⟩
    rcases type
    exacts [hvram, hvisible, hgtt]
  · exact ⟨trivial, trivial, trivial, trivial, h.devInfo, h.memory _, h.memory _, h.memory _,
      trivial, trivial⟩
  · simp only [implies_true, and_self]

end Init

end StateInfo

end Amdtop
