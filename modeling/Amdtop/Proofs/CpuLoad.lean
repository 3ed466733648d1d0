import Amdtop.CpuLoad
import Amdtop.Proofs.Stdio

/-!
# The load in tenths of a percent

Over counters that grow, the complement of the idle share is taken modulo 1000, so a share that
rounds to 0 gives 0 and not 1000 (`cpu_load_iff`).
-/

namespace Amdtop

open Stdio

/-! ## Snapshots -/

def CpuStat.counters (s : CpuStat) : List UInt64 :=
  [s.user, s.nice, s.system, s.idle, s.iowait, s.irq, s.softIrq]

/-- The true sum of the counters. -/
def CpuStat.sum (s : CpuStat) : ℕ := (s.counters.map UInt64.toNat).sum

/-- The time spent idle. -/
def CpuStat.idleTime (s : CpuStat) : ℕ := s.idle.toNat + s.iowait.toNat

/-- The total is that of the counters, and fits. -/
structure CpuStat.Snapshot (s : CpuStat) : Prop where
  total : s.total = s.user + s.nice + s.system + s.idle + s.iowait + s.irq + s.softIrq
  fits : s.sum < 2 ^ 64

/-- Two snapshots, the counters of the second none less than those of the first. -/
structure Grown (last cur : CpuStat) : Prop where
  kept : last.Snapshot
  taken : cur.Snapshot
  counters : List.Forall₂ (· ≤ ·) last.counters cur.counters
  idle : (cur.idleTime - last.idleTime) * 1000 < 2 ^ 64

theorem CpuStat.Snapshot.total_toNat {s : CpuStat} (h : s.Snapshot) : s.total.toNat = s.sum := by
  have hfits := h.fits
  simp only [CpuStat.sum, CpuStat.counters, List.map_cons, List.map_nil, List.sum_cons,
    List.sum_nil] at hfits ⊢
  rw [h.total]
  simp only [UInt64.toNat_add]
  omega

theorem CpuStat.Snapshot.idle_toNat {s : CpuStat} (h : s.Snapshot) :
    (s.idle + s.iowait).toNat = s.idleTime := by
  have hfits := h.fits
  simp only [CpuStat.sum, CpuStat.counters, List.map_cons, List.map_nil, List.sum_cons,
    List.sum_nil] at hfits
  rw [UInt64.toNat_add, CpuStat.idleTime]
  omega

section Grown

variable {last cur : CpuStat} (h : Grown last cur)

include h in
/-- No counter has fallen, so idle time is part of the whole. -/
theorem Grown.deltas : last.idleTime ≤ cur.idleTime
    ∧ cur.idleTime - last.idleTime ≤ cur.sum - last.sum ∧ last.sum ≤ cur.sum := by
  have hc := h.counters
  simp only [CpuStat.counters, List.forall₂_cons, UInt64.le_iff_toNat_le] at hc
  simp only [CpuStat.sum, CpuStat.counters, CpuStat.idleTime, List.map_cons, List.map_nil,
    List.sum_cons, List.sum_nil]
  omega

include h in
theorem Grown.total_eq_iff : cur.total = last.total ↔ cur.sum = last.sum := by
  rw [← UInt64.toNat_inj, h.taken.total_toNat, h.kept.total_toNat]

include h in
theorem Grown.sum_pos (hne : cur.total ≠ last.total) : 0 < cur.sum - last.sum := by
  have hle := h.deltas.2.2
  have hsum := mt h.total_eq_iff.2 hne
  omega

include h in
/-- Without growth, nothing has changed. -/
theorem Grown.counters_eq (hsum : cur.sum = last.sum) : cur.counters = last.counters := by
  have hc := h.counters
  simp only [CpuStat.counters, List.forall₂_cons, UInt64.le_iff_toNat_le] at hc
  simp only [CpuStat.sum, CpuStat.counters, List.map_cons, List.map_nil, List.sum_cons,
    List.sum_nil] at hsum
  simp only [CpuStat.counters, List.cons.injEq, ← UInt64.toNat_inj, and_true]
  omega

end Grown

/-- The share of idle time, in thousandths. -/
def idleShare (last cur : CpuStat) : ℕ :=
  1000 * (cur.idleTime - last.idleTime) / (cur.sum - last.sum)

theorem Grown.idleShare_le {last cur : CpuStat} (h : Grown last cur) : idleShare last cur ≤ 1000 :=
  Nat.div_le_of_le_mul (by
    rw [Nat.mul_comm (cur.sum - last.sum)]
    exact Nat.mul_le_mul_left 1000 h.deltas.2.1)

/-! ## One call -/

section Call

variable (readings : ℕ → Option (List Char)) (load : CpuLoad)

/-- The snapshot the next call takes. -/
def CpuLoad.next : CpuStat := getCpuStat (readings load.taken) load.stat

theorem getCpuStat_steal (reading : Option (List Char)) (stat : CpuStat) :
    (getCpuStat reading stat).steal = stat.steal := by
  unfold getCpuStat
  split <;> rfl

theorem CpuLoad.start_of_first {load : CpuLoad} (hfirst : load.first = false) :
    load.start readings = load := by
  rw [CpuLoad.start, hfirst]
  rfl

variable {load}

theorem getCpuLoad_same (hfirst : load.first = false)
    (h : (load.next readings).total = load.lastStat.total) :
    getCpuLoad readings load
      = (load.lastPercent, { load with stat := load.next readings, taken := load.taken + 1 }) := by
  rw [getCpuLoad, load.start_of_first readings hfirst]
  exact if_pos h

theorem getCpuLoad_differ (hfirst : load.first = false)
    (h : (load.next readings).total ≠ load.lastStat.total) :
    ∃ percent, getCpuLoad readings load
        = (percent, { load with
          stat := load.next readings, taken := load.taken + 1, lastStat := load.next readings
          lastPercent := percent })
      ∧ percent = ((1000 - (((load.next readings).idle + (load.next readings).iowait)
          - (load.lastStat.idle + load.lastStat.iowait)) * 1000
          / ((load.next readings).total - load.lastStat.total)) % 1000).toUInt32 := by
  rw [getCpuLoad, load.start_of_first readings hfirst]
  exact ⟨_, if_neg h, rfl⟩

/-- A reading that leaves the total alone leaves everything alone. -/
theorem CpuLoad.next_eq (hsteal : load.stat.steal = load.lastStat.steal)
    (h : Grown load.lastStat (load.next readings))
    (htotal : (load.next readings).total = load.lastStat.total) :
    load.next readings = load.lastStat := by
  have hcounters := h.counters_eq (h.total_eq_iff.1 htotal)
  have hsteal := (getCpuStat_steal (readings load.taken) load.stat).trans hsteal
  change (load.next readings).steal = load.lastStat.steal at hsteal
  simp only [CpuStat.counters, List.cons.injEq, and_true] at hcounters
  obtain ⟨h1, h2, h3, h4, h5, h6, h7⟩ := hcounters
  generalize load.next readings = cur at *
  generalize load.lastStat = last at *
  rcases cur
  rcases last
  simp_all

end Call

/-! ## Runs -/

/-- The variables after a number of calls. -/
def CpuLoad.after (readings : ℕ → Option (List Char)) : ℕ → CpuLoad
  | 0 => {}
  | n + 1 => (getCpuLoad readings (after readings n)).2

/-- Between the calls, the snapshot taken last is the one kept. -/
structure CpuLoad.Settled (load : CpuLoad) : Prop where
  first : load.first = false
  stat : load.stat = load.lastStat

section Runs

variable (readings : ℕ → Option (List Char))

theorem getCpuLoad_settled {load : CpuLoad} (hfirst : load.first = false)
    (hsteal : load.stat.steal = load.lastStat.steal)
    (h : Grown load.lastStat (load.next readings)) : (getCpuLoad readings load).2.Settled := by
  by_cases htotal : (load.next readings).total = load.lastStat.total
  · rw [getCpuLoad_same readings hfirst htotal]
    exact ⟨hfirst, load.next_eq readings hsteal h htotal⟩
  · obtain ⟨percent, hcall, -⟩ := getCpuLoad_differ readings hfirst htotal
    rw [hcall]
    exact ⟨hfirst, rfl⟩

theorem CpuLoad.start_ready {load : CpuLoad} (h : load = {} ∨ load.Settled) :
    (load.start readings).first = false
      ∧ (load.start readings).stat.steal = (load.start readings).lastStat.steal := by
  rcases h with rfl | h
  · exact ⟨rfl, (getCpuStat_steal (readings 0) {}).symm⟩
  · rw [load.start_of_first readings h.first]
    exact ⟨h.first, congrArg CpuStat.steal h.stat⟩

theorem getCpuLoad_start (load : CpuLoad) (hfirst : (load.start readings).first = false) :
    getCpuLoad readings load = getCpuLoad readings (load.start readings) := by
  rw [getCpuLoad, getCpuLoad, (load.start readings).start_of_first readings hfirst]

/-- Where each call finds counters that have grown, the variables are settled after each. -/
theorem CpuLoad.after_settled
    (h : ∀ n, Grown ((after readings n).start readings).lastStat
      (((after readings n).start readings).next readings)) :
    ∀ n, (after readings (n + 1)).Settled
  | 0 => by
    obtain ⟨hfirst, hsteal⟩ := CpuLoad.start_ready readings (Or.inl rfl)
    have hafter : after readings 1 = (getCpuLoad readings {}).2 := rfl
    rw [hafter, getCpuLoad_start _ _ hfirst]
    exact getCpuLoad_settled _ hfirst hsteal (h 0)
  | n + 1 => by
    obtain ⟨hfirst, hsteal⟩ := CpuLoad.start_ready readings (Or.inr (after_settled h n))
    rw [after, getCpuLoad_start _ _ hfirst]
    exact getCpuLoad_settled _ hfirst hsteal (h (n + 1))

end Runs

/-! ## The load -/

/-- The value of a call over counters that have grown. -/
theorem load_toNat {last cur : CpuStat} (h : Grown last cur) :
    (((1000 - ((cur.idle + cur.iowait) - (last.idle + last.iowait)) * 1000
      / (cur.total - last.total)) % 1000).toUInt32).toNat = (1000 - idleShare last cur) % 1000 := by
  obtain ⟨hidle, -, hle⟩ := h.deltas
  have hshare := h.idleShare_le
  have hi : ((cur.idle + cur.iowait) - (last.idle + last.iowait)).toNat
      = cur.idleTime - last.idleTime := by
    rw [UInt64.toNat_sub_of_le, h.taken.idle_toNat, h.kept.idle_toNat]
    rw [UInt64.le_iff_toNat_le, h.taken.idle_toNat, h.kept.idle_toNat]
    exact hidle
  have ht : (cur.total - last.total).toNat = cur.sum - last.sum := by
    rw [UInt64.toNat_sub_of_le, h.taken.total_toNat, h.kept.total_toNat]
    rw [UInt64.le_iff_toNat_le, h.taken.total_toNat, h.kept.total_toNat]
    exact hle
  have hq : (((cur.idle + cur.iowait) - (last.idle + last.iowait)) * 1000
      / (cur.total - last.total)).toNat = idleShare last cur := by
    rw [UInt64.toNat_div, UInt64.toNat_mul, hi, ht, idleShare, Nat.mul_comm 1000]
    exact congrArg (· / _) (Nat.mod_eq_of_lt h.idle)
  rw [UInt64.toNat_toUInt32, UInt64.toNat_mod, UInt64.toNat_sub_of_le, hq]
  · change (1000 - idleShare last cur) % 1000 % 2 ^ 32 = _
    omega
  · rw [UInt64.le_iff_toNat_le, hq]
    exact hshare

section Right

variable (readings : ℕ → Option (List Char)) (load : CpuLoad)

/-- The load a call returns. -/
def loadAfter : UInt32 := (getCpuLoad readings load).1

/-- The growth of the idle time and of the total that a call finds. -/
def CpuLoad.idleDelta : ℕ := (load.next readings).idleTime - load.lastStat.idleTime

def CpuLoad.totalDelta : ℕ := (load.next readings).sum - load.lastStat.sum

/-- What a call should do: give the share that was not idle, which is 1000 at most, is 1000 and 0 at
the ends, and is not less than with more idle time; and without growth, nothing. -/
structure LoadRight : Prop where
  value : (load.next readings).total ≠ load.lastStat.total →
    (loadAfter readings load).toNat
      = 1000 - 1000 * load.idleDelta readings / load.totalDelta readings
  range : (load.next readings).total ≠ load.lastStat.total → (loadAfter readings load).toNat ≤ 1000
  busy : (load.next readings).total ≠ load.lastStat.total → load.idleDelta readings = 0 →
    (loadAfter readings load).toNat = 1000
  idle : (load.next readings).total ≠ load.lastStat.total →
    load.idleDelta readings = load.totalDelta readings → (loadAfter readings load).toNat = 0
  antitone : (load.next readings).total ≠ load.lastStat.total → ∀ readings' load',
    load'.first = false → Grown load'.lastStat (load'.next readings') →
    load'.totalDelta readings' = load.totalDelta readings →
    load.idleDelta readings ≤ load'.idleDelta readings' →
    loadAfter readings' load' ≤ loadAfter readings load
  same : (load.next readings).total = load.lastStat.total →
    getCpuLoad readings load
        = (load.lastPercent, { load with stat := load.next readings, taken := load.taken + 1 })
      ∧ (load.stat = load.lastStat → load.next readings = load.stat)

variable {readings load} (hfirst : load.first = false)
  (h : Grown load.lastStat (load.next readings))

include hfirst h in
theorem loadAfter_toNat (hne : (load.next readings).total ≠ load.lastStat.total) :
    (loadAfter readings load).toNat
      = (1000 - idleShare load.lastStat (load.next readings)) % 1000 := by
  obtain ⟨percent, hcall, hpercent⟩ := getCpuLoad_differ readings hfirst hne
  rw [loadAfter, hcall, hpercent, load_toNat h]

include hfirst h in
/-- A call over snapshots that have grown is right exactly if the total has not grown to more than
a thousand times the idle time. -/
theorem cpu_load_iff :
    LoadRight readings load ↔ ((load.next readings).total ≠ load.lastStat.total →
      load.totalDelta readings ≤ 1000 * load.idleDelta readings) := by
  have hshare := h.idleShare_le
  constructor
  · intro hright hne
    have hvalue := (loadAfter_toNat hfirst h hne).symm.trans (hright.value hne)
    by_contra hlt
    have hzero : 1000 * load.idleDelta readings / load.totalDelta readings = 0 :=
      Nat.div_eq_of_lt (not_le.1 hlt)
    rw [show idleShare load.lastStat (load.next readings) = 0 from hzero, hzero] at hvalue
    exact absurd hvalue (by decide)
  · intro hbig
    by_cases htotal : (load.next readings).total = load.lastStat.total
    · refine ⟨?_, ?_, ?_, ?_, ?_, fun _ => ⟨getCpuLoad_same readings hfirst htotal, fun hstat => ?_⟩⟩
        <;> try exact fun hne => absurd htotal hne
      rw [load.next_eq readings (congrArg CpuStat.steal hstat) h htotal, hstat]
    have hpos : 0 < load.totalDelta readings := h.sum_pos htotal
    have hbig := hbig htotal
    have hload : (loadAfter readings load).toNat
        = 1000 - idleShare load.lastStat (load.next readings) := by
      have hone : 1 ≤ idleShare load.lastStat (load.next readings) :=
        (Nat.le_div_iff_mul_le hpos).2 (by rwa [Nat.one_mul])
      rw [loadAfter_toNat hfirst h htotal]
      exact Nat.mod_eq_of_lt (by omega)
    refine ⟨fun _ => hload, fun _ => by omega, fun _ hidle => ?_, fun _ hall => ?_, fun _ => ?_,
      fun heq => absurd heq htotal⟩
    · omega
    · rw [hload, show idleShare load.lastStat (load.next readings)
        = 1000 * load.idleDelta readings / load.totalDelta readings from rfl, hall,
        Nat.mul_div_cancel _ hpos]
    · intro readings' load' hfirst' h' hsum hidle
      have htotal' : (load'.next readings').total ≠ load'.lastStat.total := fun heq => by
        rw [CpuLoad.totalDelta, h'.total_eq_iff.1 heq, Nat.sub_self] at hsum
        omega
      have hmore : idleShare load.lastStat (load.next readings)
          ≤ idleShare load'.lastStat (load'.next readings') := by
        change 1000 * load.idleDelta readings / load.totalDelta readings
          ≤ 1000 * load'.idleDelta readings' / load'.totalDelta readings'
        rw [hsum]
        exact Nat.div_le_div_right (Nat.mul_le_mul_left 1000 hidle)
      rw [UInt32.le_iff_toNat_le, hload, loadAfter_toNat hfirst' h' htotal']
      exact (Nat.mod_le _ _).trans (Nat.sub_le_sub_left hmore 1000)

end Right

/-- Idle, idle, idle for half of the time, and then all busy. -/
def busyReadings : ℕ → Option (List Char)
  | 0 => some "cpu  0 0 0 50 0 0 0 0 0 0\n".toList
  | 1 => some "cpu  0 0 0 90 10 0 0 0 0 0\n".toList
  | 2 => some "cpu  30 0 20 140 10 0 0 0 0 0\n".toList
  | _ => some "cpu  80 0 70 140 10 0 0 0 0 0\n".toList

theorem cpu_load_iff_half : (loadAfter busyReadings (.after busyReadings 1)).toNat = 500
    ∧ LoadRight busyReadings (.after busyReadings 1) :=
  ⟨by decide, (cpu_load_iff (by decide)
    ⟨⟨by decide, by decide⟩, ⟨by decide, by decide⟩, by decide, by decide⟩).2 (by decide)⟩

theorem cpu_load_busy : ¬ ∀ (readings : ℕ → Option (List Char)) (load : CpuLoad),
    load.first = false → Grown load.lastStat (load.next readings) → LoadRight readings load := by
  intro h
  have hright := h busyReadings (.after busyReadings 2) (by decide)
    ⟨⟨by decide, by decide⟩, ⟨by decide, by decide⟩, by decide, by decide⟩
  exact absurd (hright.busy (by decide) (by decide)) (by decide)

/-! ## Memory -/

section MemInfo

variable {α β : Type}

/-- The loop is at its end before the passes run out. -/
theorem memInfoLoop_eq (read : List Char → α) (name : List Char) :
    ∀ {fuel fuel' : ℕ} {fp : File} (buf : List Char) (value : α), fp.rest.length < fuel →
      fp.rest.length < fuel' →
      memInfoLoop read name fuel fp buf value = memInfoLoop read name fuel' fp buf value
  | fuel + 1, fuel' + 1, fp, buf, value, h, h' => by
    unfold memInfoLoop
    split_ifs
    · rfl
    rcases hget : fgets 100 fp with ⟨_ | line, fp'⟩
    · rfl
    · have hless := length_rest_of_fgets hget
      exact memInfoLoop_eq read name _ _ (by omega) (by omega)

/-- What is made of the text read last is made of each text read. -/
theorem memInfoLoop_map (f : α → β) (read : List Char → α) (name : List Char) :
    ∀ (fuel : ℕ) (fp : File) (buf : List Char) (value : α),
      f (memInfoLoop read name fuel fp buf value)
        = memInfoLoop (f ∘ read) name fuel fp buf (f value)
  | 0, _, _, _ => rfl
  | fuel + 1, fp, buf, value => by
    unfold memInfoLoop
    split_ifs
    · rfl
    rcases fgets 100 fp with ⟨_ | line, fp'⟩
    · rfl
    · dsimp only
      rw [memInfoLoop_map f read name fuel]
      unfold memInfoLine
      rcases strstr line name with _ | p <;> rfl

theorem procMemInfo_map (f : α → β) (read : List Char → α) (value : α)
    (reading : Option (List Char)) (name : String) :
    f (procMemInfo read value reading name) = procMemInfo (f ∘ read) (f value) reading name := by
  rcases reading with _ | text
  · rfl
  · exact memInfoLoop_map f read name.toList _ _ _ _

end MemInfo

theorem memTotal_value (reading : Option (List Char)) :
    (memTotal reading).value = getTotalMem reading :=
  procMemInfo_map MemRead.value MemRead.ofText {} reading "MemTotal"

theorem memAvailable_value (reading : Option (List Char)) :
    (memAvailable reading).value = getFreeMem reading :=
  procMemInfo_map MemRead.value MemRead.ofText {} reading "MemAvailable"

/-- 32 bits hold the number. -/
def MemRead.Held (read : MemRead) : Prop := 0 ≤ read.number ∧ read.number < 2 ^ 32

instance (read : MemRead) : Decidable read.Held := inferInstanceAs (Decidable (_ ∧ _))

/-- The program has the number of the file just if 32 bits hold it. -/
theorem MemRead.held_iff (read : MemRead) :
    (read.value.toNat : ℤ) = read.number ↔ read.Held := by
  have hlt := read.value.toNat_lt
  unfold MemRead.Held
  exact ⟨fun h => by omega, fun h => read.exact h.1 h.2⟩

end Amdtop
