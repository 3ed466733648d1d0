import Amdtop.GpuMode
import Amdtop.Proofs.Heap

/-!
# The resources of one kernel state

An attempt allocates the arrays for one answer and has them filled by the next (`resourceTemps_ok`).
If the counts have not changed the kernel has copied every list, so `resourceFill` stores that
answer's lists (`resourceFill_ok`); if they have, the arrays are freed, and the next attempt starts
with nothing allocated but not freed.
-/

namespace Amdtop

open Heap

/-! ## The arrays of an attempt -/

/-- The calls of `xAlloc` for the arrays. -/
def DrmModeCardRes.need (c : DrmModeCardRes) : ℕ :=
  used c.countConnectors + used c.countEncoders + used c.countCrtcs + used c.countFbs

def DrmModeCardRes.ids (c : DrmModeCardRes) : Multiset ℕ :=
  c.connectorIdPtr.ids + (c.encoderIdPtr.ids + (c.crtcIdPtr.ids + c.fbIdPtr.ids))

/-- Each array has as many elements as the count says. -/
structure DrmModeCardRes.Sized (c : DrmModeCardRes) : Prop where
  connectors : c.connectorIdPtr.cells.length = c.countConnectors
  encoders : c.encoderIdPtr.cells.length = c.countEncoders
  crtcs : c.crtcIdPtr.cells.length = c.countCrtcs
  fbs : c.fbIdPtr.cells.length = c.countFbs

theorem jump_iff {β : Type*} {b : Bool} {x y : Bool × β} (hx : x.1 = false) :
    (if b = true then x else y).1 = true ↔ b = false ∧ y.1 = true := by
  rcases b with _ | _ <;> simp [hx]

theorem resourceTemps_fst (ok : ℕ → Bool) (c : DrmModeCardRes) (m : Ledger) :
    (resourceTemps ok c m).1 = true ↔ AllocOk ok m.calls c.need := by
  unfold resourceTemps DrmModeCardRes.need
  rw [jump_iff rfl, jump_iff rfl, jump_iff rfl, jump_iff rfl]
  simp only [lost_callocFor, callocFor_calls, allocOk_add, and_true, Nat.add_assoc]

/-- What an attempt has when all its arrays are there. -/
structure Attempt (c c' : DrmModeCardRes) (m m' : Ledger) : Prop where
  connectors : c'.countConnectors = c.countConnectors
  encoders : c'.countEncoders = c.countEncoders
  crtcs : c'.countCrtcs = c.countCrtcs
  fbs : c'.countFbs = c.countFbs
  sized : c'.Sized
  calls : m'.calls = m.calls + c.need
  overrun : m'.overrun = m.overrun
  owned : ∀ {live}, Owned m live → Owned m' (c'.ids + live)

theorem resourceTemps_ok {ok : ℕ → Bool} {c : DrmModeCardRes} {m : Ledger}
    (h : AllocOk ok m.calls c.need) :
    ∃ c' m', resourceTemps ok c m = (true, c', m') ∧ Attempt c c' m m' := by
  simp only [DrmModeCardRes.need, allocOk_add] at h
  obtain ⟨⟨⟨h1, h2⟩, h3⟩, h4⟩ := h
  obtain ⟨p1, m1, e1, g1⟩ := callocFor_got 4 c.countConnectors (0 : UInt32) h1
  obtain ⟨p2, m2, e2, g2⟩ := callocFor_got 4 c.countEncoders (0 : UInt32) (g1.calls ▸ h2)
  obtain ⟨p3, m3, e3, g3⟩ := callocFor_got 4 c.countCrtcs (0 : UInt32)
    (by rwa [g2.calls, g1.calls, Nat.add_assoc])
  obtain ⟨p4, m4, e4, g4⟩ := callocFor_got 4 c.countFbs (0 : UInt32)
    (by rwa [g3.calls, g2.calls, g1.calls, Nat.add_assoc m.calls, Nat.add_assoc m.calls])
  refine ⟨{ c with connectorIdPtr := p1, encoderIdPtr := p2, crtcIdPtr := p3, fbIdPtr := p4 }, m4,
    ?_, rfl, rfl, rfl, rfl, ⟨g1.length, g2.length, g3.length, g4.length⟩, ?_, ?_, ?_⟩
  · simp only [resourceTemps, e1, e2, e3, e4, g1.there, g2.there, g3.there, g4.there,
      Bool.false_eq_true, if_false]
  · rw [g4.calls, g3.calls, g2.calls, g1.calls, DrmModeCardRes.need]
    omega
  · rw [g4.overrun, g3.overrun, g2.overrun, g1.overrun]
  · intro live h
    have h' := g4.owned (g3.owned (g2.owned (g1.owned h)))
    rw [DrmModeCardRes.ids]
    dsimp only
    convert h' using 1
    abel

/-! ## The second answer -/

theorem ids_ioctl (s : CardResState) (c : DrmModeCardRes) : (s.ioctl c).ids = c.ids := by
  simp only [CardResState.ioctl, DrmModeCardRes.ids, ids_copyOut]

theorem owned_freeCardRes {c : DrmModeCardRes} {m : Ledger} {live : Multiset ℕ}
    (h : Owned m (c.ids + live)) : Owned (c.free m) live := by
  unfold DrmModeCardRes.free
  refine Owned.free (Owned.free (Owned.free (Owned.free ?_)))
  convert h using 1
  rw [DrmModeCardRes.ids]
  abel

theorem freeCardRes_calls (c : DrmModeCardRes) (m : Ledger) : (c.free m).calls = m.calls := by
  simp only [DrmModeCardRes.free, free_calls]

/-! ## The object -/

def GpuModeResource.ids (res : GpuModeResource) : Multiset ℕ :=
  {res.addr} + (res.connectorIds.ids + (res.encoderIds.ids + (res.crtcIds.ids + res.fbIds.ids)))

/-- The object has the counts of `c` and copies of its arrays. -/
structure ResourceOf (c : DrmModeCardRes) (res : GpuModeResource) : Prop where
  connectorCount : res.connectorCount = c.countConnectors
  encoderCount : res.encoderCount = c.countEncoders
  crtcsCount : res.crtcsCount = c.countCrtcs
  fbCount : res.fbCount = c.countFbs
  connectors : Copied 4 c.countConnectors c.connectorIdPtr res.connectorIds
  encoders : Copied 4 c.countEncoders c.encoderIdPtr res.encoderIds
  crtcs : Copied 4 c.countCrtcs c.crtcIdPtr res.crtcIds
  fbs : Copied 4 c.countFbs c.fbIdPtr res.fbIds

theorem resourceFill_ok {ok : ℕ → Bool} {c : DrmModeCardRes} {m : Ledger} (device : GpuDevice)
    (h : AllocOk ok m.calls (1 + c.need)) :
    ∃ res m', resourceFill ok device c m = (0, some res, c.free m') ∧ ResourceOf c res
      ∧ ∀ {live}, Owned m live → Owned m' (res.ids + live) := by
  simp only [DrmModeCardRes.need, allocOk_add, allocOk_one] at h
  obtain ⟨h0, ⟨⟨h1, h2⟩, h3⟩, h4⟩ := h
  obtain ⟨obj, m0, e0, c0, -, o0⟩ := calloc_some 72 1 () h0
  obtain ⟨p1, m1, e1, g1⟩ := dupArray_dup 4 c.countConnectors (0 : UInt32) c.connectorIdPtr
    (c0 ▸ h1)
  obtain ⟨p2, m2, e2, g2⟩ := dupArray_dup 4 c.countEncoders (0 : UInt32) c.encoderIdPtr
    (by rwa [g1.calls, c0])
  obtain ⟨p3, m3, e3, g3⟩ := dupArray_dup 4 c.countCrtcs (0 : UInt32) c.crtcIdPtr
    (by rwa [g2.calls, g1.calls, c0, Nat.add_assoc (m.calls + 1)])
  obtain ⟨p4, m4, e4, g4⟩ := dupArray_dup 4 c.countFbs (0 : UInt32) c.fbIdPtr
    (by rwa [g3.calls, g2.calls, g1.calls, c0, Nat.add_assoc (m.calls + 1),
      Nat.add_assoc (m.calls + 1)])
  refine ⟨⟨obj.id, device, c.countConnectors, p1, c.countEncoders, p2, c.countCrtcs, p3,
    c.countFbs, p4⟩, m4, ?_, ⟨rfl, rfl, rfl, rfl, g1.copied, g2.copied, g3.copied, g4.copied⟩, ?_⟩
  · simp only [resourceFill, e0, e1, e2, e3, e4, g1.copied.there, g2.copied.there,
      g3.copied.there, g4.copied.there, Bool.or_self, Bool.false_eq_true, if_false]
  · intro live h
    have h' := g4.owned (g3.owned (g2.owned (g1.owned (o0 h))))
    convert h' using 1
    rw [GpuModeResource.ids]
    dsimp only
    abel

/-! ## The retries -/

/-- The object holds the lists of the state, with their lengths. -/
structure GpuModeResource.Holds (res : GpuModeResource) (s : CardResState) : Prop where
  connectors : res.connectorIds.cells = s.connectors ∧ res.connectorCount = s.connectors.length
  encoders : res.encoderIds.cells = s.encoders ∧ res.encoderCount = s.encoders.length
  crtcs : res.crtcIds.cells = s.crtcs ∧ res.crtcsCount = s.crtcs.length
  fbs : res.fbIds.cells = s.fbs ∧ res.fbCount = s.fbs.length

/-- The same, with the sizes of the arrays. -/
structure GpuModeResource.Filled (res : GpuModeResource) (s : CardResState) : Prop where
  connectors : res.connectorIds.Filled 4 s.connectors True
    ∧ res.connectorCount = s.connectors.length
  encoders : res.encoderIds.Filled 4 s.encoders True ∧ res.encoderCount = s.encoders.length
  crtcs : res.crtcIds.Filled 4 s.crtcs True ∧ res.crtcsCount = s.crtcs.length
  fbs : res.fbIds.Filled 4 s.fbs True ∧ res.fbCount = s.fbs.length

theorem GpuModeResource.Filled.holds {res : GpuModeResource} {s : CardResState}
    (h : res.Filled s) : res.Holds s :=
  ⟨h.connectors.imp_left (·.cells trivial), h.encoders.imp_left (·.cells trivial),
    h.crtcs.imp_left (·.cells trivial), h.fbs.imp_left (·.cells trivial)⟩

/-- With the counts as before, every list has been copied. -/
theorem ResourceOf.filled {s : CardResState} {c : DrmModeCardRes} {res : GpuModeResource}
    (hc : c.Sized) (hsame : c.sameCounts (s.ioctl c) = true) (h : ResourceOf (s.ioctl c) res) :
    res.Filled s := by
  simp only [DrmModeCardRes.sameCounts, Bool.and_eq_true, decide_eq_true_eq] at hsame
  obtain ⟨⟨⟨hfbs, hcrtcs⟩, hencoders⟩, hconnectors⟩ := hsame
  exact ⟨⟨h.connectors.filled rfl fun _ _ => ⟨hc.connectors, hconnectors.ge⟩, h.connectorCount⟩,
    ⟨h.encoders.filled rfl fun _ _ => ⟨hc.encoders, hencoders.ge⟩, h.encoderCount⟩,
    ⟨h.crtcs.filled rfl fun _ _ => ⟨hc.crtcs, hcrtcs.ge⟩, h.crtcsCount⟩,
    ⟨h.fbs.filled rfl fun _ _ => ⟨hc.fbs, hfbs.ge⟩, h.fbCount⟩⟩

theorem allocOk_all (a k : ℕ) : AllocOk (fun _ => true) a k := fun _ _ => rfl

def CardResState.lengths (s : CardResState) : ℕ × ℕ × ℕ × ℕ :=
  (s.connectors.length, s.encoders.length, s.crtcs.length, s.fbs.length)

theorem Attempt.sameCounts_iff {s s' : CardResState} {c : DrmModeCardRes} {m m' : Ledger}
    (h : Attempt (s.ioctl {}) c m m') :
    c.sameCounts (s'.ioctl c) = true ↔ s.lengths = s'.lengths := by
  simp only [DrmModeCardRes.sameCounts, Bool.and_eq_true, decide_eq_true_eq, h.connectors,
    h.encoders, h.crtcs, h.fbs]
  simp only [CardResState.ioctl, CardResState.lengths, Prod.mk.injEq]
  tauto

/-- The calls of `xAlloc` for the lists. -/
def CardResState.need (s : CardResState) : ℕ :=
  used s.connectors.length + used s.encoders.length + used s.crtcs.length + used s.fbs.length

section Attempts

variable {ok : ℕ → Bool} (device : GpuDevice) (s s' : CardResState)
  (answers : List (Option CardResState)) {m : Ledger} (hm : Owned m 0)

include hm in
/-- An attempt between whose answers a length has changed leaves nothing behind. -/
theorem gpuGetModeResouce_retry (hok : AllocOk ok m.calls s.need) (h : s.lengths ≠ s'.lengths) :
    ∃ m', Owned m' 0 ∧ m'.calls = m.calls + s.need
      ∧ gpuGetModeResouce ok device (some s :: some s' :: answers) m
        = gpuGetModeResouce ok device answers m' := by
  obtain ⟨c, m1, htemps, hc⟩ := resourceTemps_ok (c := s.ioctl {}) hok
  have hown := hc.owned hm
  rw [← ids_ioctl s' c] at hown
  rw [gpuGetModeResouce, htemps]
  have hne : c.sameCounts (s'.ioctl c) = false := by
    rw [← Bool.not_eq_true, hc.sameCounts_iff]
    exact h
  dsimp only
  rw [if_pos (by simp [hne])]
  exact ⟨_, owned_freeCardRes hown, (freeCardRes_calls _ _).trans hc.calls, rfl⟩

include hm in
/-- Otherwise it ends with the lists of the second answer, and only they are still allocated. -/
theorem gpuGetModeResouce_done (hok : AllocOk ok m.calls (s.need + (1 + s'.need)))
    (h : s.lengths = s'.lengths) :
    ∃ res m', gpuGetModeResouce ok device (some s :: some s' :: answers) m
      = some ((0, some res, m'), answers) ∧ res.Filled s' ∧ Owned m' res.ids := by
  rw [allocOk_add] at hok
  obtain ⟨c, m1, htemps, hc⟩ := resourceTemps_ok (c := s.ioctl {}) hok.1
  have hown := hc.owned hm
  have hsame : c.sameCounts (s'.ioctl c) = true := hc.sameCounts_iff.2 h
  rw [← ids_ioctl s' c] at hown
  rw [gpuGetModeResouce, htemps]
  obtain ⟨res, m2, hfill, hres, hown2⟩ :=
    resourceFill_ok (c := s'.ioctl c) device (hc.calls ▸ hok.2)
  dsimp only
  rw [if_neg (by simp [hsame]), hfill]
  refine ⟨res, _, rfl, hres.filled hc.sized hsame, owned_freeCardRes ?_⟩
  have h' := hown2 hown
  rwa [add_zero, add_comm] at h'

end Attempts

/-- The object of a call that returns has the lists of the last answer. -/
theorem gpuGetModeResouce_run (device : GpuDevice) :
    ∀ (states : List CardResState) {m m' : Ledger} {ret : ℤ} {out : Option GpuModeResource}
      {rest : List (Option CardResState)}, Owned m 0 →
      gpuGetModeResouce (fun _ => true) device (states.map some) m = some ((ret, out, m'), rest) →
        ∃ before s after, states = before ++ s :: after ∧ rest = after.map some ∧ ret = 0
          ∧ ∃ res, out = some res ∧ res.Holds s ∧ Owned m' res.ids
  | [], _, _, _, _, _, _, h => by simp [gpuGetModeResouce] at h
  | [s], m, _, _, _, _, hm, h => by
    obtain ⟨c, m1, htemps, -⟩ := resourceTemps_ok (c := s.ioctl {}) (allocOk_all m.calls _)
    rw [List.map_cons, List.map_nil, gpuGetModeResouce, htemps] at h
    cases h
  | s :: s' :: states, m, m', ret, out, rest, hm, h => by
    by_cases hl : s.lengths = s'.lengths
    · obtain ⟨res, m1, hstep, hres, hown⟩ :=
        gpuGetModeResouce_done device s s' (states.map some) hm (allocOk_all _ _) hl
      rw [List.map_cons, List.map_cons, hstep] at h
      simp only [Option.some.injEq, Prod.mk.injEq] at h
      obtain ⟨⟨rfl, rfl, rfl⟩, rfl⟩ := h
      exact ⟨[s], s', states, rfl, rfl, rfl, res, rfl, hres.holds, hown⟩
    · obtain ⟨m1, hm1, -, hstep⟩ :=
        gpuGetModeResouce_retry device s s' (states.map some) hm (allocOk_all _ _) hl
      rw [List.map_cons, List.map_cons, hstep] at h
      obtain ⟨before, last, after, rfl, hrest, hres⟩ := gpuGetModeResouce_run device states hm1 h
      exact ⟨s :: s' :: before, last, after, rfl, hrest, hres⟩

/-- The call returns once the two answers of an attempt agree in their lengths. -/
theorem gpuGetModeResouce_returns (device : GpuDevice) (s s' : CardResState)
    (answers : List CardResState) (h : s.lengths = s'.lengths) :
    ∀ (pairs : List (CardResState × CardResState)) {m : Ledger}, Owned m 0 →
      (gpuGetModeResouce (fun _ => true) device
        ((pairs.flatMap (fun p => [p.1, p.2]) ++ s :: s' :: answers).map some) m).isSome = true
  | [], m, hm => by
    obtain ⟨res, m1, hstep, -⟩ := gpuGetModeResouce_done device s s' (answers.map some) hm
      (allocOk_all _ _) h
    rw [List.flatMap_nil, List.nil_append, List.map_cons, List.map_cons, hstep]
    rfl
  | (t, t') :: pairs, m, hm => by
    simp only [List.flatMap_cons, List.cons_append, List.nil_append, List.map_cons]
    by_cases hl : t.lengths = t'.lengths
    · obtain ⟨res, m1, hstep, -⟩ := gpuGetModeResouce_done device t t' _ hm (allocOk_all _ _) hl
      rw [hstep]
      rfl
    · obtain ⟨m1, hm1, -, hstep⟩ :=
        gpuGetModeResouce_retry device t t' _ hm (allocOk_all _ _) hl
      rw [hstep]
      exact gpuGetModeResouce_returns device s s' answers h pairs hm1

/-- When the call returns, the object holds the four lists of the state its last `ioctl` saw, and
every array it allocated otherwise, in any attempt, was freed exactly once. -/
theorem mode_resource_snapshot (device : GpuDevice) (states : List CardResState) {ret : ℤ}
    {out : Option GpuModeResource} {m : Ledger} {rest : List (Option CardResState)}
    (h : gpuGetModeResouce (fun _ => true) device (states.map some) {}
      = some ((ret, out, m), rest)) :
    ∃ before s after, states = before ++ s :: after ∧ rest = after.map some
      ∧ ∃ res, out = some res ∧ res.Holds s
        ∧ (∀ i ∈ m.allocs, i ∉ res.ids → m.frees.count i = 1)
        ∧ (∀ i ∈ res.ids, i ∈ m.allocs ∧ i ∉ m.frees) ∧ ∀ i ∈ m.frees, i ∈ m.allocs := by
  obtain ⟨before, s, after, hstates, hrest, -, res, hout, hres, hown⟩ :=
    gpuGetModeResouce_run device states Owned.empty h
  exact ⟨before, s, after, hstates, hrest, res, hout, hres,
    fun i hi hlive => hown.freed_once hi hlive, fun i hi => hown.live_mem hi,
    fun i hi => hown.freed_mem hi⟩

section Example

def modeCard : GpuDevice := ⟨3, 0, 226, 0, .card⟩

def beforeHotplug : CardResState := ⟨[31], [41], [51, 52], []⟩

def afterHotplug : CardResState := ⟨[31, 32], [41], [51, 52], []⟩

/-- A connector appears between the first two answers. -/
theorem mode_resource_snapshot_hotplug :
    ∃ out m, gpuGetModeResouce (fun _ => true) modeCard
        ([beforeHotplug, afterHotplug, afterHotplug, afterHotplug].map some) {}
          = some ((0, out, m), []) ∧
      ∃ before s after, [beforeHotplug, afterHotplug, afterHotplug, afterHotplug]
          = before ++ s :: after ∧ [] = after.map some
        ∧ ∃ res, out = some res ∧ res.Holds s
          ∧ (∀ i ∈ m.allocs, i ∉ res.ids → m.frees.count i = 1)
          ∧ (∀ i ∈ res.ids, i ∈ m.allocs ∧ i ∉ m.frees) ∧ ∀ i ∈ m.frees, i ∈ m.allocs :=
  ⟨_, _, rfl, mode_resource_snapshot modeCard
    [beforeHotplug, afterHotplug, afterHotplug, afterHotplug] rfl⟩

end Example

end Amdtop
