import Amdtop.GpuCap
import Amdtop.Proofs.ByteString

/-!
# The strings of the driver are read without an end

`gpuQueryDriverInfo` makes buffers of just the lengths, the kernel fills them without a terminator,
and `strdup` searches for one: a call that succeeds reads behind its buffers
(`gpuQueryDriverInfo_iff`).
-/

namespace Amdtop

open Heap Stdio

/-! ## `strdup` -/

theorem calloc_overrun {α : Type} (ok : ℕ → Bool) (width n : ℕ) (zero : α) (m : Ledger) :
    (calloc ok width n zero m).2.overrun = m.overrun := by
  unfold calloc
  split_ifs <;> rfl

theorem free_overrun {α : Type} (p : Ptr α) (m : Ledger) : (free p m).overrun = m.overrun := by
  rcases p with _ | b <;> rfl

/-- The search for the end leaves the array just if there is no null in it. -/
theorem strdup_overrun {ok : ℕ → Bool} {behind : List UInt8} {p q : Ptr UInt8} {m m' : Ledger}
    (h : strdup ok behind p m = some (q, m')) :
    m'.overrun = (m.overrun || 0 ∉ p.cells) := by
  unfold strdup at h
  obtain ⟨src, rfl, h⟩ := Option.bind_eq_some_iff.1 h
  obtain ⟨text, -, h⟩ := Option.map_eq_some_iff.1 h
  have hcalloc := calloc_overrun ok 1 (text.length + 1) (0 : UInt8)
    { m with overrun := m.overrun || 0 ∉ src.data }
  dsimp only at h
  split at h
  · rename_i heq
    obtain ⟨-, rfl⟩ := Prod.mk.inj h
    rw [heq] at hcalloc
    exact hcalloc
  · rename_i heq
    obtain ⟨-, rfl⟩ := Prod.mk.inj h
    rw [heq] at hcalloc
    exact hcalloc

/-! ## The buffers -/

/-- The kernel fills a buffer of the text's length with the text. -/
theorem copyField_calloc (ok : ℕ → Bool) (text : List UInt8) (m : Ledger) :
    (copyField text text.length (calloc ok 1 text.length 0 m).1).cells = text
      ∨ copyField text text.length (calloc ok 1 text.length 0 m).1 = none := by
  unfold calloc
  split_ifs
  · exact Or.inl (by simp [copyField, Ptr.cells])
  · exact Or.inr rfl

/-- The call returns, and with status 0 its strings are the kernel's and it has not read behind its
buffers. -/
def DriverInfoRight (s : VersionState) (result : Option (ℤ × Option GpuDriverInfo × Ledger)) :
    Prop :=
  ∃ ret info m, result = some (ret, info, m) ∧ (ret = 0 → ∃ driverInfo, info = some driverInfo
    ∧ cString driverInfo.driverName.cells = some s.name
    ∧ cString driverInfo.date.cells = some s.date
    ∧ cString driverInfo.desc.cells = some s.desc ∧ m.overrun = false)

section Query

variable (ok : ℕ → Bool) (behind : Behind) {s : VersionState} (device : ℕ) (m : Ledger)

/-- A call that gets to the copies does not return, or has read behind a buffer. -/
theorem gpuQueryDriverInfo_overrun (hname : 0 ∉ s.name) (driverInfo : GpuDriverInfo) :
    ∀ ret info m', gpuQueryDriverInfo ok behind s true true device (some driverInfo) m
      = some (ret, info, m') → ret = 0 ∧ m'.overrun = true := by
  intro ret info m' h
  unfold gpuQueryDriverInfo at h
  simp only [Bool.not_true, Bool.false_eq_true, if_false] at h
  obtain ⟨⟨name, m1⟩, h1, h⟩ := Option.bind_eq_some_iff.1 h
  obtain ⟨⟨desc, m2⟩, h2, h⟩ := Option.bind_eq_some_iff.1 h
  obtain ⟨⟨date, m3⟩, h3, h⟩ := Option.map_eq_some_iff.1 h
  simp only [Prod.mk.injEq] at h
  obtain ⟨rfl, -, rfl⟩ := h
  refine ⟨rfl, ?_⟩
  have hcells := copyField_calloc ok s.name m
  rw [free_overrun, free_overrun, free_overrun, strdup_overrun h3, strdup_overrun h2,
    strdup_overrun h1]
  rcases hcells with hcells | hnone
  · have hmem : decide (0 ∉ (copyField s.name s.name.length
        (calloc ok 1 s.name.length 0 m).1).cells) = true :=
      decide_eq_true (by rw [hcells]; exact hname)
    change (((_ || decide (0 ∉ (copyField s.name s.name.length
      (calloc ok 1 s.name.length 0 m).1).cells)) || _) || _) = true
    rw [hmem]
    simp
  · have hnull : strdup ok behind.name (copyField s.name s.name.length
        (calloc ok 1 s.name.length 0 m).1) _ = some (name, m1) := h1
    rw [hnone] at hnull
    cases hnull

/-- The strings are right, and read inside the buffers, only on a call that fails. -/
theorem gpuQueryDriverInfo_iff (hname : 0 ∉ s.name) (driverInfo : Option GpuDriverInfo)
    (first second : Bool) :
    DriverInfoRight s (gpuQueryDriverInfo ok behind s first second device driverInfo m)
      ↔ driverInfo = none ∨ first = false ∨ second = false := by
  constructor
  · rintro ⟨ret, info, m', heq, hright⟩
    by_contra hcall
    simp only [not_or, Bool.not_eq_false] at hcall
    obtain ⟨hinfo, rfl, rfl⟩ := hcall
    obtain ⟨i, rfl⟩ := Option.ne_none_iff_exists'.1 hinfo
    obtain ⟨hret, hover⟩ := gpuQueryDriverInfo_overrun ok behind device m hname i ret info m' heq
    obtain ⟨_, -, -, -, -, hinside⟩ := hright hret
    rw [hover] at hinside
    cases hinside
  · intro hfail
    rcases driverInfo with _ | i
    · exact ⟨-einval, none, m, rfl, fun h => absurd h (by decide)⟩
    · rcases first
      · exact ⟨ioctlFailed, some i, m, rfl, fun h => absurd h (by decide)⟩
      · rcases second
        · exact ⟨ioctlFailed, some i, _, rfl, fun h => absurd h (by decide)⟩
        · simp at hfail

end Query

/-- A driver named `amdgpu`, the date and the description. -/
def amdgpuVersion : VersionState where
  versionMajor := 3
  versionMinor := 40
  name := bytesOf "amdgpu"
  date := bytesOf "20150101"
  desc := bytesOf "AMD GPU"

theorem gpuQueryDriverInfo_amdgpu_fails :
    DriverInfoRight amdgpuVersion (gpuQueryDriverInfo (fun _ => true) ⟨[], [], []⟩ amdgpuVersion
      true false 3 (some {}) {}) :=
  (gpuQueryDriverInfo_iff _ _ 3 {} (by decide) (some {}) true false).2 (Or.inr (Or.inr rfl))

/-- With a byte other than null behind the name, that byte is part of it. -/
theorem gpuQueryDriverInfo_amdgpu :
    ∃ driverInfo m, gpuQueryDriverInfo (fun _ => true) ⟨bytesOf "X" ++ [0], [0], [0]⟩ amdgpuVersion
        true true 3 (some {}) {} = some (0, some driverInfo, m)
      ∧ cString driverInfo.driverName.cells = some (bytesOf "amdgpuX") ∧ m.overrun = true :=
  ⟨_, _, rfl, by decide, by decide⟩

end Amdtop
