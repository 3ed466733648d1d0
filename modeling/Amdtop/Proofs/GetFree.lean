import Amdtop.Proofs.GpuMode

/-!
# What a get and its free leave allocated

A call takes the kernel's arrays, an object and the object's arrays, and frees the kernel's; its
caller frees the object of a call that returns 0. A call that fails once the kernel has answered
returns without the free, and so loses the arrays, of which there are none only if the lists are
all empty.
-/

namespace Amdtop

open Heap

/-- The caller frees what is stored by a call that returns 0. -/
def released {β : Type} (free : β → Ledger → Ledger) (r : ℤ × Option β × Ledger) : Ledger :=
  if r.1 = 0 then r.2.1.elim r.2.2 fun b => free b r.2.2 else r.2.2

section Released

variable {β : Type} {free : β → Ledger → Ledger} {r : ℤ × Option β × Ledger} {b : β} {e : ℤ}
  {m m' m'' : Ledger} {temps live : Multiset ℕ}

@[simp] theorem released_none : released free (e, none, m) = m := by
  unfold released
  split_ifs <;> rfl

theorem released_error {o : Option β} (he : e ≠ 0) : released free (e, o, m) = m := if_neg he

/-- What is freed of the kernel's arrays, and of the object, once they are there. -/
structure Fills (free : β → Ledger → Ledger) (temps : Multiset ℕ) (m : Ledger)
    (r : ℤ × Option β × Ledger) : Prop where
  done : r.1 = 0 → ∀ {live}, Owned m (temps + live) → Owned (released free r) live
  failed : r.1 ≠ 0 → ∃ lost, Leaves m (released free r) lost ∧ (temps = 0 → lost = 0)

/-- Without the object, only the kernel's arrays are freed. -/
theorem Fills.missing {α : Type*} (hobj : Leaves m m' (Ptr.ids (none : Ptr α)))
    (hfree : ∀ live, Owned m' (temps + live) → Owned m'' live) :
    Fills free temps m (0, none, m'') :=
  ⟨fun _ live hm => by
    rw [released_none]
    have h := hobj hm
    rw [show Ptr.ids (none : Ptr α) = 0 from rfl, zero_add] at h
    exact hfree live h, fun h => absurd rfl h⟩

/-- With an array missing, the object is freed by the call. -/
theorem Fills.dropped (he : e ≠ 0) (h : Leaves m m' 0) : Fills free temps m (e, none, m') :=
  ⟨fun h0 => absurd h0 he, fun _ => ⟨0, by rwa [released_none], fun _ => rfl⟩⟩

theorem Fills.stored (h : ∀ live, Owned m (temps + live) → Owned (free b m') live) :
    Fills free temps m (0, some b, m') :=
  ⟨fun _ live => h live, fun h0 => absurd rfl h0⟩

theorem Fills.owned_iff (h : Fills free temps m' r) (htemps : Leaves m m' temps)
    (hm : Owned m live) : Owned (released free r) live ↔ r.1 = 0 ∨ temps = 0 := by
  by_cases hret : r.1 = 0
  · exact iff_of_true (h.done hret (htemps hm)) (Or.inl hret)
  · obtain ⟨lost, hlost, hnone⟩ := h.failed hret
    rw [(htemps.trans hlost).owned_iff hm, ids_add_eq_zero, or_iff_right hret]
    exact ⟨fun h0 => h0.2, fun h0 => ⟨hnone h0, h0⟩⟩

end Released

theorem used_eq_zero {n : ℕ} : used n = 0 ↔ n = 0 := by
  unfold used
  split_ifs with h <;> simp [h]

/-! ## Connectors -/

section Connectors

variable {ok : ℕ → Bool} {c c' : DrmModeGetConnector} {m m' : Ledger} {live : Multiset ℕ}

theorem owned_gpuFreeConnector {conn : GpuConnector} (h : Owned m (conn.ids + live)) :
    Owned (gpuFreeConnector conn m) live := by
  unfold gpuFreeConnector
  refine Owned.free (Owned.free (Owned.free (Owned.free (Owned.free ?_))))
  convert h using 1
  rw [GpuConnector.ids, show (objectPtr conn.addr 88).ids = {conn.addr} from rfl]
  abel

/-- With an array missing too, the others are the call's own. -/
theorem connectorTemps_leaves (hc : c.ids = 0) :
    Leaves m (connectorTemps ok c m).2.2 (connectorTemps ok c m).2.1.ids := by
  simp only [DrmModeGetConnector.ids, ids_add_eq_zero, ids_eq_zero] at hc
  obtain ⟨h1, h2, h3, h4⟩ := hc
  rcases e1 : callocFor ok 4 c.countEncoders (0 : UInt32) m with ⟨p1, m1⟩
  rcases e2 : callocFor ok 68 c.countModes ({} : DrmModeModeinfo) m1 with ⟨p2, m2⟩
  rcases e3 : callocFor ok 4 c.countProps (0 : UInt32) m2 with ⟨p3, m3⟩
  rcases e4 : callocFor ok 8 c.countProps (0 : UInt64) m3 with ⟨p4, m4⟩
  have l1 := callocFor_leaves e1
  have l2 := l1.trans (callocFor_leaves e2)
  have l3 := l2.trans (callocFor_leaves e3)
  have l4 := l3.trans (callocFor_leaves e4)
  simp only [connectorTemps, e1, e2, e3, e4]
  split_ifs
  · exact l1.congr (by simp [DrmModeGetConnector.ids, h2, h3, h4, Ptr.ids])
  · exact l2.congr (by simp [DrmModeGetConnector.ids, h3, h4, Ptr.ids, add_comm])
  · exact l3.congr (by simp only [DrmModeGetConnector.ids, h4, Ptr.ids]; abel)
  · exact l4.congr (by simp only [DrmModeGetConnector.ids]; abel)
  · exact l4.congr (by simp only [DrmModeGetConnector.ids]; abel)

theorem connectorTemps_none (hneed : c.need = 0) (hc : c.ids = 0) :
    connectorTemps ok c m = (true, c, m) := by
  simp only [DrmModeGetConnector.ids, ids_add_eq_zero, ids_eq_zero] at hc
  simp only [DrmModeGetConnector.need, Nat.add_eq_zero_iff, used_eq_zero] at hneed
  obtain ⟨h1, h2, h3, h4⟩ := hc
  obtain ⟨⟨⟨n1, n2⟩, n3⟩, -⟩ := hneed
  rcases c with ⟨⟩
  subst h1 h2 h3 h4 n1 n2 n3
  rfl

/-- There are arrays just for lists that are not empty. -/
theorem ConnectorTemps.ids_eq_zero (h : ConnectorTemps c c' m m') (hc : c.ids = 0)
    (htemps : connectorTemps ok c m = (true, c', m')) : c'.ids = 0 ↔ c.need = 0 := by
  constructor
  · intro h0
    simp only [DrmModeGetConnector.ids, ids_add_eq_zero, Heap.ids_eq_zero] at h0
    obtain ⟨h1, h2, h3, -⟩ := h0
    have n1 := h.encoders.2
    have n2 := h.modes.2
    have n3 := h.props.2
    rw [h1] at n1
    rw [h2] at n2
    rw [h3] at n3
    rw [DrmModeGetConnector.need, ← n1, ← n2, ← n3]
    rfl
  · intro hneed
    obtain ⟨-, rfl, -⟩ := Prod.mk.inj (htemps.symm.trans (connectorTemps_none hneed hc))
    exact hc

theorem connectorFill_fills : Fills gpuFreeConnector c.ids m (connectorFill ok c m) := by
  rcases e0 : calloc ok 88 1 () m with ⟨_ | obj, m0⟩
  · simp only [connectorFill, e0]
    exact Fills.missing (calloc_leaves e0) fun _ => owned_freeConnector
  rcases e1 : dupArray ok 4 c.countEncoders 0 c.encodersPtr m0 with ⟨p1, m1⟩
  rcases e2 : dupArray ok 4 c.countProps 0 c.propsPtr m1 with ⟨p2, m2⟩
  rcases e3 : dupArray ok 8 c.countProps 0 c.propValuesPtr m2 with ⟨p3, m3⟩
  rcases e4 : callocFor ok 68 c.countModes ({} : GpuModeInfo) m3 with ⟨p4, m4⟩
  have hids := ids_copyModeInfos c.countModes p4 c.modesPtr m4
  have hcopy : Leaves m4 (copyModeInfos c.countModes p4 c.modesPtr m4).2 0 := fun _ hm => by
    rw [zero_add]
    exact owned_copyModeInfos hm c.countModes p4 c.modesPtr
  rcases e5 : copyModeInfos c.countModes p4 c.modesPtr m4 with ⟨p5, m5⟩
  rw [e5] at hids hcopy
  have hleaves := (((((calloc_leaves e0).trans (dupArray_leaves e1)).trans
    (dupArray_leaves e2)).trans (dupArray_leaves e3)).trans (callocFor_leaves e4)).trans hcopy
  simp only [connectorFill, e0, e1, e2, e3, e4, e5]
  split_ifs
  · refine Fills.dropped enomem_ne
      (Leaves.free (Leaves.free (Leaves.free (Leaves.free (Leaves.free (hleaves.congr ?_))))))
    rw [hids]
    abel
  · refine Fills.stored fun live hm => owned_gpuFreeConnector (owned_freeConnector ?_)
    convert hleaves hm using 1
    rw [GpuConnector.ids, hids, show Ptr.ids (some obj) = {obj.id} from rfl]
    abel

/-- The blocks of a connector's call are lost just when it fails with lists announced. -/
theorem gpuGetConnector_owned_iff (connId : UInt32) (first second : Option ConnectorState)
    (hm : Owned m live) :
    Owned (released gpuFreeConnector (gpuGetConnector ok connId first second m)) live
      ↔ (gpuGetConnector ok connId first second m).1 = 0 ∨ ∀ s, first = some s → s.need = 0 := by
  rcases first with _ | s
  · exact iff_of_true hm (Or.inr fun _ h => by cases h)
  have hfirst : (∀ t, some s = some t → t.need = 0) ↔ s.need = 0 :=
    ⟨fun h => h s rfl, fun h t ht => Option.some.inj ht ▸ h⟩
  have hnull : (s.ioctl { connectorId := connId }).ids = 0 := ids_connector_ioctl s _
  rw [hfirst]
  by_cases htemp : AllocOk ok m.calls s.need
  · obtain ⟨c, m1, htemps, hc⟩ := connectorTemps_ok (c := s.ioctl { connectorId := connId }) htemp
    have hneed : c.ids = 0 ↔ s.need = 0 := hc.ids_eq_zero hnull htemps
    have hleaves : Leaves m m1 c.ids := fun _ hm => hc.owned hm
    rw [gpuGetConnector, htemps, ← hneed]
    rcases second with _ | s'
    · exact (Fills.dropped (by decide) (Leaves.refl m1)).owned_iff hleaves hm
    · rw [← ids_connector_ioctl s' c] at hleaves ⊢
      exact connectorFill_fills.owned_iff hleaves hm
  · have hfst : (connectorTemps ok (s.ioctl { connectorId := connId }) m).1 = false := by
      rw [← Bool.not_eq_true, connectorTemps_fst]
      exact htemp
    have hleaves : Owned (connectorTemps ok (s.ioctl { connectorId := connId }) m).2.2 _ :=
      connectorTemps_leaves hnull hm
    rcases htemps : connectorTemps ok (s.ioctl { connectorId := connId }) m with ⟨b, c, m1⟩
    rw [htemps] at hfst hleaves
    obtain rfl : b = false := hfst
    rw [gpuGetConnector, htemps]
    exact iff_of_true (owned_freeConnector hleaves) (Or.inl rfl)

end Connectors

/-! ## Resources -/

/-- What the kernel held at the first `ioctl` of the last attempt, if the second was reached. -/
def lastAttempt : List (Option CardResState) → Option CardResState
  | some s :: some s' :: answers => if s.lengths = s'.lengths then some s else lastAttempt answers
  | some s :: _ => some s
  | _ => none

section Resources

variable {ok : ℕ → Bool} {device : GpuDevice} {c c' : DrmModeCardRes} {m m' : Ledger}
  {live : Multiset ℕ}

theorem owned_gpuFreeModeResource {res : GpuModeResource} (h : Owned m (res.ids + live)) :
    Owned (gpuFreeModeResource res m) live := by
  unfold gpuFreeModeResource
  refine Owned.free (Owned.free (Owned.free (Owned.free (Owned.free ?_))))
  convert h using 1
  rw [GpuModeResource.ids, show (objectPtr res.addr 72).ids = {res.addr} from rfl]
  abel

theorem resourceTemps_leaves (hc : c.ids = 0) :
    Leaves m (resourceTemps ok c m).2.2 (resourceTemps ok c m).2.1.ids := by
  simp only [DrmModeCardRes.ids, ids_add_eq_zero, ids_eq_zero] at hc
  obtain ⟨h1, h2, h3, h4⟩ := hc
  rcases e1 : callocFor ok 4 c.countConnectors (0 : UInt32) m with ⟨p1, m1⟩
  rcases e2 : callocFor ok 4 c.countEncoders (0 : UInt32) m1 with ⟨p2, m2⟩
  rcases e3 : callocFor ok 4 c.countCrtcs (0 : UInt32) m2 with ⟨p3, m3⟩
  rcases e4 : callocFor ok 4 c.countFbs (0 : UInt32) m3 with ⟨p4, m4⟩
  have l1 := callocFor_leaves e1
  have l2 := l1.trans (callocFor_leaves e2)
  have l3 := l2.trans (callocFor_leaves e3)
  have l4 := l3.trans (callocFor_leaves e4)
  simp only [resourceTemps, e1, e2, e3, e4]
  split_ifs
  · exact l1.congr (by simp [DrmModeCardRes.ids, h2, h3, h4, Ptr.ids])
  · exact l2.congr (by simp [DrmModeCardRes.ids, h3, h4, Ptr.ids, add_comm])
  · exact l3.congr (by simp only [DrmModeCardRes.ids, h4, Ptr.ids]; abel)
  · exact l4.congr (by simp only [DrmModeCardRes.ids]; abel)
  · exact l4.congr (by simp only [DrmModeCardRes.ids]; abel)

theorem resourceTemps_none (hneed : c.need = 0) (hc : c.ids = 0) :
    resourceTemps ok c m = (true, c, m) := by
  simp only [DrmModeCardRes.ids, ids_add_eq_zero, ids_eq_zero] at hc
  simp only [DrmModeCardRes.need, Nat.add_eq_zero_iff, used_eq_zero] at hneed
  obtain ⟨h1, h2, h3, h4⟩ := hc
  obtain ⟨⟨⟨n1, n2⟩, n3⟩, n4⟩ := hneed
  rcases c with ⟨⟩
  subst h1 h2 h3 h4 n1 n2 n3 n4
  rfl

theorem Attempt.ids_eq_zero (h : Attempt c c' m m') (hc : c.ids = 0)
    (htemps : resourceTemps ok c m = (true, c', m')) : c'.ids = 0 ↔ c.need = 0 := by
  constructor
  · intro h0
    simp only [DrmModeCardRes.ids, ids_add_eq_zero, Heap.ids_eq_zero] at h0
    obtain ⟨h1, h2, h3, h4⟩ := h0
    have n1 := h.sized.connectors.trans h.connectors
    have n2 := h.sized.encoders.trans h.encoders
    have n3 := h.sized.crtcs.trans h.crtcs
    have n4 := h.sized.fbs.trans h.fbs
    rw [h1] at n1
    rw [h2] at n2
    rw [h3] at n3
    rw [h4] at n4
    rw [DrmModeCardRes.need, ← n1, ← n2, ← n3, ← n4]
    rfl
  · intro hneed
    obtain ⟨-, rfl, -⟩ := Prod.mk.inj (htemps.symm.trans (resourceTemps_none hneed hc))
    exact hc

theorem need_congr {s s' : CardResState} (h : s.lengths = s'.lengths) : s.need = s'.need := by
  simp only [CardResState.lengths, Prod.mk.injEq] at h
  obtain ⟨h1, h2, h3, h4⟩ := h
  rw [CardResState.need, h1, h2, h3, h4, CardResState.need]

/-- With an array missing the object itself is lost too. -/
theorem resourceFill_fills (hempty : c.ids = 0 → c.need = 0) :
    Fills gpuFreeModeResource c.ids m (resourceFill ok device c m) := by
  rcases e0 : calloc ok 72 1 () m with ⟨_ | obj, m0⟩
  · simp only [resourceFill, e0]
    exact Fills.missing (calloc_leaves e0) fun _ => owned_freeCardRes
  rcases e1 : dupArray ok 4 c.countConnectors 0 c.connectorIdPtr m0 with ⟨p1, m1⟩
  rcases e2 : dupArray ok 4 c.countEncoders 0 c.encoderIdPtr m1 with ⟨p2, m2⟩
  rcases e3 : dupArray ok 4 c.countCrtcs 0 c.crtcIdPtr m2 with ⟨p3, m3⟩
  rcases e4 : dupArray ok 4 c.countFbs 0 c.fbIdPtr m3 with ⟨p4, m4⟩
  have hleaves := ((((calloc_leaves e0).trans (dupArray_leaves e1)).trans
    (dupArray_leaves e2)).trans (dupArray_leaves e3)).trans (dupArray_leaves e4)
  simp only [resourceFill, e0, e1, e2, e3, e4]
  split_ifs with hlost
  · refine ⟨fun h0 => absurd h0 enomem_ne, fun _ => ⟨{obj.id}, ?_, fun h0 => ?_⟩⟩
    · rw [released_error enomem_ne]
      refine Leaves.free (Leaves.free (Leaves.free (Leaves.free (hleaves.congr ?_))))
      rw [show Ptr.ids (some obj) = {obj.id} from rfl]
      abel
    · have hneed := hempty h0
      simp only [DrmModeCardRes.need, Nat.add_eq_zero_iff, used_eq_zero] at hneed
      obtain ⟨⟨⟨n1, n2⟩, n3⟩, n4⟩ := hneed
      simp [lost, n1, n2, n3, n4] at hlost
  · refine Fills.stored fun live hm => owned_gpuFreeModeResource (owned_freeCardRes ?_)
    convert hleaves hm using 1
    rw [GpuModeResource.ids, show Ptr.ids (some obj) = {obj.id} from rfl]
    abel

/-- An attempt whose arrays could not be had ends the call, and frees those it has. -/
theorem gpuGetModeResouce_missing (device : GpuDevice) {s : CardResState}
    (answers : List (Option CardResState)) (htemp : ¬ AllocOk ok m.calls s.need)
    (hm : Owned m live) :
    ∃ m', gpuGetModeResouce ok device (some s :: answers) m = some ((0, none, m'), answers)
      ∧ Owned m' live := by
  have hfst : (resourceTemps ok (s.ioctl {}) m).1 = false := by
    rw [← Bool.not_eq_true, resourceTemps_fst]
    exact htemp
  have hleaves : Owned (resourceTemps ok (s.ioctl {}) m).2.2 _ :=
    resourceTemps_leaves (ids_ioctl s {}) hm
  rcases htemps : resourceTemps ok (s.ioctl {}) m with ⟨b, c, m1⟩
  rw [htemps] at hfst hleaves
  obtain rfl : b = false := hfst
  rw [gpuGetModeResouce, htemps]
  exact ⟨_, rfl, owned_freeCardRes hleaves⟩

theorem gpuGetModeResouce_owned_iff (device : GpuDevice) :
    ∀ (answers : List (Option CardResState)) {m : Ledger} {r : ℤ × Option GpuModeResource × Ledger}
      {rest : List (Option CardResState)}, Owned m live →
      gpuGetModeResouce ok device answers m = some (r, rest) →
        (Owned (released gpuFreeModeResource r) live
          ↔ r.1 = 0 ∨ ∀ s, lastAttempt answers = some s → s.need = 0)
  | [], _, _, _, _, h => by simp [gpuGetModeResouce] at h
  | none :: _, _, _, _, hm, h => by
    obtain ⟨rfl, -⟩ := Prod.mk.inj (Option.some.inj h)
    exact iff_of_true hm (Or.inr fun _ h => by cases h)
  | some s :: answers, m, r, rest, hm, h => by
    by_cases htemp : AllocOk ok m.calls s.need
    · obtain ⟨c, m1, htemps, hc⟩ := resourceTemps_ok (c := s.ioctl {}) htemp
      have hneed : c.ids = 0 ↔ s.need = 0 := hc.ids_eq_zero (ids_ioctl s {}) htemps
      have hleaves : Leaves m m1 c.ids := fun _ hm => hc.owned hm
      rw [gpuGetModeResouce, htemps] at h
      rcases answers with _ | ⟨_ | s', answers⟩
      · cases h
      · obtain ⟨rfl, -⟩ := Prod.mk.inj (Option.some.inj h)
        rw [(Fills.dropped (by decide) (Leaves.refl m1)).owned_iff hleaves hm, hneed]
        simp [lastAttempt]
      · dsimp only at h
        have hsame : c.sameCounts (s'.ioctl c) = true ↔ s.lengths = s'.lengths := hc.sameCounts_iff
        rw [← ids_ioctl s' c] at hleaves hneed
        split_ifs at h with hcounts
        · have hl : s.lengths ≠ s'.lengths := fun hl => by simp [hsame.2 hl] at hcounts
          rw [lastAttempt, if_neg hl]
          exact gpuGetModeResouce_owned_iff device answers (owned_freeCardRes (hleaves hm)) h
        · have hl : s.lengths = s'.lengths := hsame.1 (by simpa using hcounts)
          obtain ⟨rfl, -⟩ := Prod.mk.inj (Option.some.inj h)
          have hempty : (s'.ioctl c).ids = 0 → (s'.ioctl c).need = 0 := fun h0 =>
            (need_congr hl).symm.trans (hneed.1 h0)
          rw [(resourceFill_fills hempty).owned_iff hleaves hm, hneed, lastAttempt, if_pos hl]
          simp
    · obtain ⟨m', hrun, hm'⟩ := gpuGetModeResouce_missing device answers htemp hm
      obtain ⟨rfl, -⟩ := Prod.mk.inj (Option.some.inj (h.symm.trans hrun))
      exact iff_of_true (by rwa [released_none]) (Or.inl rfl)

end Resources

/-! ## Blobs -/

section Blobs

variable {ok : ℕ → Bool} {c : DrmModeGetBlob} {m : Ledger} {live : Multiset ℕ}

theorem owned_gpuFreePropBlob {blob : GpuPropBlob} (h : Owned m (blob.ids + live)) :
    Owned (gpuFreePropBlob blob m) live := by
  unfold gpuFreePropBlob
  refine Owned.free (Owned.free ?_)
  convert h using 1
  rw [GpuPropBlob.ids, show (objectPtr blob.addr 16).ids = {blob.addr} from rfl]
  abel

theorem ids_blobIoctl (bytes : List UInt8) (c : DrmModeGetBlob) :
    (blobIoctl bytes c).data.ids = c.data.ids := by
  simp only [blobIoctl]
  split_ifs
  · exact ids_copyOut _ _ _
  · rfl

theorem blobFill_fills : Fills gpuFreePropBlob c.data.ids m (blobFill ok c m) := by
  rcases e0 : calloc ok 16 1 () m with ⟨_ | obj, m0⟩
  · simp only [blobFill, e0]
    exact Fills.missing (calloc_leaves e0) fun _ hm => hm.free
  rcases e1 : dupArray ok 1 c.length 0 c.data m0 with ⟨p1, m1⟩
  have hleaves := (calloc_leaves e0).trans (dupArray_leaves e1)
  simp only [blobFill, e0, e1]
  split_ifs
  · refine Fills.dropped enomem_ne (Leaves.free (Leaves.free (hleaves.congr ?_)))
    abel
  · refine Fills.stored fun live hm => owned_gpuFreePropBlob (Owned.free ?_)
    convert hleaves hm using 1
    rw [GpuPropBlob.ids, show Ptr.ids (some obj) = {obj.id} from rfl]
    abel

theorem gpuGetPropBlob_owned_iff (blobId : UInt32) (first second : Option (List UInt8))
    (hm : Owned m live) :
    Owned (released gpuFreePropBlob (gpuGetPropBlob ok blobId first second m)) live
      ↔ (gpuGetPropBlob ok blobId first second m).1 = 0 ∨ ∀ s, first = some s → s = [] := by
  rcases first with _ | s
  · exact iff_of_true hm (Or.inr fun _ h => by cases h)
  have hfirst : (∀ t, some s = some t → t = []) ↔ s = [] :=
    ⟨fun h => h s rfl, fun h t ht => Option.some.inj ht ▸ h⟩
  rw [hfirst]
  unfold gpuGetPropBlob
  dsimp only
  rw [show (blobIoctl s { blobId }).length = s.length from rfl]
  rcases e : callocFor ok 1 s.length (0 : UInt8) m with ⟨p, m1⟩
  have hleaves := callocFor_leaves e
  dsimp only
  split_ifs with hlost
  · refine iff_of_true ?_ (Or.inl rfl)
    rw [released_none]
    exact (hleaves hm).free
  have hids : p.ids = 0 ↔ s = [] := ids_callocFor_eq_zero e (Bool.eq_false_iff.2 hlost) |>.trans
    List.length_eq_zero_iff
  rw [← hids]
  rcases second with _ | s'
  · exact (Fills.dropped (by decide) (Leaves.refl m1)).owned_iff hleaves hm
  · have hsame := ids_blobIoctl s' { blobIoctl s { blobId } with data := p }
    have hfills : Fills gpuFreePropBlob _ m1
        (blobFill ok (blobIoctl s' { blobIoctl s { blobId } with data := p }) m1) := blobFill_fills
    rw [hsame] at hfills
    exact hfills.owned_iff hleaves hm

end Blobs

/-! ## Properties -/

/-- A blob property is no enumeration and has no values, as the kernel makes it. -/
def PropertyState.Typed (s : PropertyState) : Prop :=
  isBlob s.flags = true → isEnum s.flags = false ∧ s.values = []

section Properties

variable {ok : ℕ → Bool} {c c' : DrmModeGetProperty} {prop : GpuProp} {m m' : Ledger}
  {live : Multiset ℕ}

theorem owned_gpuFreeProperty (h : Owned m (prop.ids + live)) :
    Owned (gpuFreeProperty prop m) live := by
  unfold gpuFreeProperty
  refine Owned.free (Owned.free (Owned.free (Owned.free ?_)))
  convert h using 1
  rw [GpuProp.ids, show (objectPtr prop.addr 80).ids = {prop.addr} from rfl]
  abel

/-- The arrays of a blob property take no other's place. -/
theorem blobTemps_leaves (h : Leaves m m' c.ids) (hblob : isBlob c.flags = true → c.ids = 0) :
    Leaves m (blobTemps ok c m').2.2 (blobTemps ok c m').2.1.ids := by
  unfold blobTemps
  split_ifs with hb
  · rw [Bool.and_eq_true] at hb
    rcases e1 : calloc ok 4 c.countEnumBlobs (PropCell.u32 0) m' with ⟨p1, m1⟩
    rcases e2 : calloc ok 4 c.countEnumBlobs (PropCell.u32 0) m1 with ⟨p2, m2⟩
    simp only [e2]
    refine ((h.trans (calloc_leaves e1)).trans (calloc_leaves e2)).congr ?_
    rw [hblob hb.2, add_zero, add_comm]
    rfl
  · exact h

theorem propertyTemps_leaves (hc : c.ids = 0)
    (htyped : isBlob c.flags = true → isEnum c.flags = false ∧ c.countValues = 0) :
    Leaves m (propertyTemps ok c m).2.2 (propertyTemps ok c m).2.1.ids := by
  simp only [DrmModeGetProperty.ids, ids_add_eq_zero, ids_eq_zero] at hc
  obtain ⟨h1, h2⟩ := hc
  rcases e1 : callocFor ok 8 c.countValues (PropCell.u64 0) m with ⟨p1, m1⟩
  rcases e2 : callocFor ok 40 c.countEnumBlobs (PropCell.enum 0 []) m1 with ⟨p2, m2⟩
  have l1 := callocFor_leaves e1
  have l2 := l1.trans (callocFor_leaves e2)
  have hp1 : Leaves m m1 (DrmModeGetProperty.ids { c with valuesPtr := p1 }) :=
    l1.congr (by simp [DrmModeGetProperty.ids, h2, Ptr.ids])
  have hp2 : Leaves m m2 (DrmModeGetProperty.ids { c with valuesPtr := p1, enumBlobPtr := p2 }) :=
    l2.congr (by rw [DrmModeGetProperty.ids, add_comm])
  have hnone : isBlob c.flags = true → p1 = none := fun hb => by
    rw [(htyped hb).2] at e1
    exact (Prod.mk.inj e1).1.symm
  simp only [propertyTemps, e1, e2]
  split_ifs with hlost he
  · exact hp1
  · exact hp2
  · refine blobTemps_leaves hp2 fun hb => ?_
    rw [(htyped hb).1] at he
    cases he
  · refine blobTemps_leaves hp1 fun hb => ?_
    simp [DrmModeGetProperty.ids, hnone hb, h2, Ptr.ids]

theorem propertyTemps_none (hneed : c.need = 0) (hc : c.ids = 0) :
    propertyTemps ok c m = (true, c, m) := by
  simp only [DrmModeGetProperty.ids, ids_add_eq_zero, ids_eq_zero] at hc
  simp only [DrmModeGetProperty.need, Nat.add_eq_zero_iff, used_eq_zero] at hneed
  obtain ⟨h1, h2⟩ := hc
  obtain ⟨n1, n2, n3⟩ := hneed
  have hblob : blobTemps ok c m = (true, c, m) := by
    refine blobTemps_keep ?_
    rcases hb : isBlob c.flags with _ | _
    · exact Or.inr rfl
    · rw [hb, if_pos rfl, Nat.add_eq_zero_iff, used_eq_zero] at n3
      exact Or.inl n3.1
  rcases c with ⟨vp, ep, propId, flags, name, k, n⟩
  subst h1 h2 n1
  rcases he : isEnum flags with _ | _
  · simpa [propertyTemps, callocFor, lost, he] using hblob
  · rw [he, if_pos rfl, used_eq_zero] at n2
    subst n2
    simpa [propertyTemps, callocFor, lost, he] using hblob

theorem PropertyTemps.ids_eq_zero (h : PropertyTemps c c' m m') (hc : c.ids = 0)
    (htyped : isBlob c.flags = true → isEnum c.flags = false ∧ c.countValues = 0)
    (htemps : propertyTemps ok c m = (true, c', m')) : c'.ids = 0 ↔ c.need = 0 := by
  constructor
  · intro h0
    simp only [DrmModeGetProperty.ids, ids_add_eq_zero, Heap.ids_eq_zero] at h0
    obtain ⟨h1, h2⟩ := h0
    rcases hb : isBlob c.flags with _ | _
    · have n1 := h.values hb
      rw [h1] at n1
      rcases he : isEnum c.flags with _ | _
      · rw [DrmModeGetProperty.need, ← n1, he, hb]
        rfl
      · have n2 := h.enums he hb
        rw [h2] at n2
        rw [DrmModeGetProperty.need, ← n1, ← n2, he, hb]
        rfl
    · have n2 : c.countEnumBlobs = 0 := by
        by_contra hn
        have n2 := (h.blobs hb hn).1
        rw [h1] at n2
        exact hn n2.symm
      rw [DrmModeGetProperty.need, n2, (htyped hb).1, (htyped hb).2, hb]
      rfl
  · intro hneed
    obtain ⟨-, rfl, -⟩ := Prod.mk.inj (htemps.symm.trans (propertyTemps_none hneed hc))
    exact hc

/-- The entries of the object, whose only array so far are values of no blob property. -/
theorem propertyEntries_leaves (h : Leaves m m' prop.ids) (henums : prop.enums = none)
    (hblobIds : prop.blobIds = none) (hvalues : isBlob c.flags = true → prop.values = none) :
    Leaves m (propertyEntries ok c prop m').2 (propertyEntries ok c prop m').1.ids := by
  simp only [propertyEntries]
  split_ifs with he hb
  · have hcopy := h.trans (calloc_memcpy_leaves ok 40 c.countEnumBlobs (PropCell.enum 0 [])
      c.enumBlobPtr m')
    refine hcopy.congr ?_
    simp only [GpuProp.ids, henums, show Ptr.ids (none : Ptr PropCell) = 0 from rfl]
    abel
  · have hcopy := (h.trans (calloc_memcpy_leaves ok 4 c.countEnumBlobs (PropCell.u32 0)
      c.valuesPtr m')).trans (calloc_memcpy_leaves ok 4 c.countEnumBlobs (PropCell.u32 0)
      c.enumBlobPtr _)
    refine hcopy.congr ?_
    simp only [GpuProp.ids, hblobIds, hvalues hb, show Ptr.ids (none : Ptr PropCell) = 0 from rfl]
    abel
  · exact h

theorem propertyFill_fills (htyped : isBlob c.flags = true → c.countValues = 0) :
    Fills gpuFreeProperty c.ids m (propertyFill ok c m) := by
  rcases e0 : calloc ok 80 1 () m with ⟨_ | obj, m0⟩
  · simp only [propertyFill, e0]
    exact Fills.missing (calloc_leaves e0) fun _ => owned_freeProperty
  rcases e1 : dupArray ok 8 c.countValues (PropCell.u64 0) c.valuesPtr m0 with ⟨p1, m1⟩
  have hstart := (calloc_leaves e0).trans (dupArray_leaves e1)
  set start : GpuProp :=
    { addr := obj.id, propId := c.propId, flags := c.flags, countValues := c.countValues,
      values := p1 } with hstart_def
  have hp1 : isBlob c.flags = true → p1 = none := fun hb => by
    rw [htyped hb] at e1
    exact (Prod.mk.inj e1).1.symm
  have hids : start.ids = p1.ids + Ptr.ids (some obj) := by
    simp [GpuProp.ids, hstart_def, Ptr.ids, add_comm]
  have hleaves : Leaves m (propertyEntries ok c start m1).2 _ :=
    propertyEntries_leaves (hstart.congr hids.symm) rfl rfl hp1
  have haddr : (propertyEntries ok c start m1).1.addr = obj.id := by
    unfold propertyEntries
    split_ifs <;> rfl
  simp only [propertyFill, e0, e1]
  rw [← hstart_def]
  rcases hentries : propertyEntries ok c start m1 with ⟨prop, m2⟩
  rw [hentries] at hleaves haddr
  dsimp only at haddr ⊢
  split_ifs
  · refine Fills.dropped enomem_ne (Leaves.free (Leaves.free (Leaves.free (Leaves.free
      (hleaves.congr ?_)))))
    rw [GpuProp.ids, haddr, show Ptr.ids (some obj) = {obj.id} from rfl]
    abel
  · refine Fills.stored fun live hm => owned_gpuFreeProperty (owned_freeProperty ?_)
    rw [add_left_comm]
    exact hleaves hm

theorem gpuGetProperty_owned_iff (propId : UInt32) (first second : Option PropertyState)
    (hfirst : ∀ s, first = some s → s.Typed) (hsecond : ∀ s, second = some s → s.Typed)
    (hm : Owned m live) :
    Owned (released gpuFreeProperty (gpuGetProperty ok propId first second m)) live
      ↔ (gpuGetProperty ok propId first second m).1 = 0 ∨ ∀ s, first = some s → s.need = 0 := by
  rcases first with _ | s
  · exact iff_of_true hm (Or.inr fun _ h => by cases h)
  have hneed0 : (∀ t, some s = some t → t.need = 0) ↔ s.need = 0 :=
    ⟨fun h => h s rfl, fun h t ht => Option.some.inj ht ▸ h⟩
  have hnull : (s.ioctl { propId }).ids = 0 := ids_property_ioctl s _
  have htyped : isBlob s.flags = true → isEnum s.flags = false ∧ s.values.length = 0 := fun hb =>
    ⟨(hfirst s rfl hb).1, List.length_eq_zero_iff.2 (hfirst s rfl hb).2⟩
  rw [hneed0]
  have hleaves : Leaves m (propertyTemps ok (s.ioctl { propId }) m).2.2 _ :=
    propertyTemps_leaves hnull htyped
  by_cases htemp : AllocOk ok m.calls s.need
  · have hptr : (s.ioctl { propId }).enumBlobPtr = none := by
      simp [PropertyState.ioctl, copyOut_none]
    obtain ⟨c, m1, htemps, hc⟩ := propertyTemps_ok hptr htemp
    have hneed : c.ids = 0 ↔ s.need = 0 := hc.ids_eq_zero hnull htyped htemps
    rw [htemps] at hleaves
    rw [gpuGetProperty, htemps, ← hneed]
    rcases second with _ | s'
    · exact (Fills.dropped (by decide) (Leaves.refl m1)).owned_iff hleaves hm
    · dsimp only at hleaves
      rw [← ids_property_ioctl s' c] at hleaves ⊢
      exact (propertyFill_fills fun hb =>
        List.length_eq_zero_iff.2 (hsecond s' rfl hb).2).owned_iff hleaves hm
  · have hfst : (propertyTemps ok (s.ioctl { propId }) m).1 = false := by
      rw [← Bool.not_eq_true, propertyTemps_fst]
      exact htemp
    rcases htemps : propertyTemps ok (s.ioctl { propId }) m with ⟨b, c, m1⟩
    rw [htemps] at hfst hleaves
    obtain rfl : b = false := hfst
    rw [gpuGetProperty, htemps]
    exact iff_of_true (owned_freeProperty (hleaves hm)) (Or.inl rfl)

end Properties

/-- A get and the free of what it stored leave nothing allocated just if the get returns 0, or had
no array to take when it was to be done again. -/
theorem mode_pairs_owned_iff (ok : ℕ → Bool) {m : Ledger} {live : Multiset ℕ} (hm : Owned m live) :
    (∀ device answers r rest, gpuGetModeResouce ok device answers m = some (r, rest) →
      (Owned (released gpuFreeModeResource r) live
        ↔ r.1 = 0 ∨ ∀ s, lastAttempt answers = some s → s.need = 0))
    ∧ (∀ connId first second,
      Owned (released gpuFreeConnector (gpuGetConnector ok connId first second m)) live
        ↔ (gpuGetConnector ok connId first second m).1 = 0 ∨ ∀ s, first = some s → s.need = 0)
    ∧ (∀ propId first second, (∀ s, first = some s → s.Typed) → (∀ s, second = some s → s.Typed) →
      (Owned (released gpuFreeProperty (gpuGetProperty ok propId first second m)) live
        ↔ (gpuGetProperty ok propId first second m).1 = 0 ∨ ∀ s, first = some s → s.need = 0))
    ∧ ∀ blobId first second,
      Owned (released gpuFreePropBlob (gpuGetPropBlob ok blobId first second m)) live
        ↔ (gpuGetPropBlob ok blobId first second m).1 = 0 ∨ ∀ s, first = some s → s = [] :=
  ⟨fun device answers _ _ h => gpuGetModeResouce_owned_iff device answers hm h,
    fun connId first second => gpuGetConnector_owned_iff connId first second hm,
    fun propId first second h h' => gpuGetProperty_owned_iff propId first second h h' hm,
    fun blobId first second => gpuGetPropBlob_owned_iff blobId first second hm⟩

/-- The second `ioctl` of a blob with two bytes fails: their array stays allocated. -/
theorem mode_pairs_owned_blob :
    ¬ Owned (released gpuFreePropBlob (gpuGetPropBlob (fun _ => true) 9 (some [1, 2]) none {})) 0 :=
  fun h => by
    rcases ((mode_pairs_owned_iff (fun _ => true) Owned.empty).2.2.2 9 (some [1, 2]) none).1 h
      with hret | hempty
    · exact absurd hret (by decide)
    · cases hempty _ rfl

end Amdtop
