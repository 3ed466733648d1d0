import Amdtop.Proofs.Connector
import Amdtop.Proofs.Property

/-!
# What a mode setting call returns and stores

A call is settled when it returns 0 with a filled object of its own stored, or an error with
nothing stored. The jump to `error` after a failed allocation returns the 0 of the `ioctl` before
it, so a call is settled only if the kernel's arrays and the object could be had. A missing array
of the object is an error, which `gpuGetModeResouce` finds after it has stored the object.
-/

namespace Amdtop

open Heap

/-! ## Outcomes -/

/-- A call that returns 0 stored something good, and one that fails stored nothing. -/
def Settled {β : Type} (good : β → Ledger → Prop) (r : ℤ × Option β × Ledger) : Prop :=
  (r.1 = 0 → ∃ b, r.2.1 = some b ∧ good b r.2.2) ∧ (r.1 ≠ 0 → r.2.1 = none)

section Outcomes

variable {β : Type} {good : β → Ledger → Prop} {e : ℤ} {b : β} {m : Ledger}

theorem settled_stored : Settled good (0, some b, m) ↔ good b m := by
  refine ⟨fun h => ?_, fun h => ⟨fun _ => ⟨b, rfl, h⟩, fun h0 => absurd rfl h0⟩⟩
  obtain ⟨b', hb, hgood⟩ := h.1 rfl
  rwa [Option.some.inj hb]

theorem settled_error (he : e ≠ 0) : Settled good (e, none, m) :=
  ⟨fun h => absurd h he, fun _ => rfl⟩

theorem not_settled_none : ¬ Settled good (0, none, m) := fun h => by
  obtain ⟨b, hb, -⟩ := h.1 rfl
  cases hb

theorem not_settled_error (he : e ≠ 0) : ¬ Settled good (e, some b, m) := fun h => by
  cases h.2 he

end Outcomes

theorem allocOk_rest {ok : ℕ → Bool} {a j k : ℕ} (h : AllocOk ok a j) :
    AllocOk ok (a + j) k ↔ AllocOk ok a (j + k) := by
  rw [allocOk_add, and_iff_right h]

theorem enomem_ne : -enomem ≠ 0 := by decide

/-! ## Resources -/

/-- If the call returns it is settled, and what it stores has the lists of the last answer. -/
def ResourceSettled (answers : List (Option CardResState))
    (x : Option ((ℤ × Option GpuModeResource × Ledger) × List (Option CardResState))) : Prop :=
  ∀ r rest, x = some (r, rest) → Settled (fun res m =>
    ∃ before s, answers = before ++ some s :: rest ∧ res.Filled s ∧ m.Live res.ids) r

theorem resourceSettled_none {answers : List (Option CardResState)} :
    ResourceSettled answers none := fun _ _ h => by cases h

theorem resourceSettled_error {answers rest : List (Option CardResState)} {m : Ledger} :
    ResourceSettled answers (some ((-1, none, m), rest)) := fun r rest' h => by
  obtain ⟨rfl, -⟩ := Prod.mk.inj (Option.some.inj h)
  exact settled_error (by decide)

/-- The calls of `xAlloc` of a call whose answers are these. -/
def resourceCalls : List (Option CardResState) → ℕ
  | [] => 0
  | none :: _ => 0
  | some s :: [] => s.need
  | some s :: none :: _ => s.need
  | some s :: some s' :: answers =>
    s.need + if s.lengths = s'.lengths then 1 + s'.need else resourceCalls answers

/-- With an array missing, the object is stored before the call fails. -/
theorem resourceFill_lost {ok : ℕ → Bool} {c : DrmModeCardRes} {m : Ledger} (device : GpuDevice)
    (h0 : ok m.calls = true) (h : ¬ AllocOk ok m.calls (1 + c.need)) :
    ∃ res m', resourceFill ok device c m = (-enomem, some res, m') := by
  obtain ⟨obj, m0, e0, c0, -, -⟩ := calloc_some 72 1 () h0
  unfold resourceFill
  rw [e0]
  dsimp only
  rw [if_pos]
  · exact ⟨_, _, rfl⟩
  · by_contra hno
    rw [Bool.not_eq_true] at hno
    simp only [Bool.or_eq_false_iff, lost_dupArray, dupArray_calls, c0] at hno
    obtain ⟨⟨⟨h4, h1⟩, h3⟩, h2⟩ := hno
    refine h ?_
    simp only [DrmModeCardRes.need, allocOk_add, allocOk_one]
    refine ⟨h0, ⟨⟨h1, h2⟩, ?_⟩, ?_⟩
    · rwa [← Nat.add_assoc]
    · rwa [← Nat.add_assoc, ← Nat.add_assoc]

theorem resource_settled (device : GpuDevice) {ok : ℕ → Bool} :
    ∀ (answers : List (Option CardResState)) {m : Ledger}, Owned m 0 →
      AllocOk ok m.calls (resourceCalls answers) →
        ResourceSettled answers (gpuGetModeResouce ok device answers m)
  | [], _, _, _ => resourceSettled_none
  | none :: _, _, _, _ => resourceSettled_error
  | [some s], m, _, hok => by
    obtain ⟨c, m1, htemps, -⟩ := resourceTemps_ok (c := s.ioctl {}) hok
    rw [gpuGetModeResouce, htemps]
    exact resourceSettled_none
  | some s :: none :: _, m, _, hok => by
    obtain ⟨c, m1, htemps, -⟩ := resourceTemps_ok (c := s.ioctl {}) hok
    rw [gpuGetModeResouce, htemps]
    exact resourceSettled_error
  | some s :: some s' :: answers, m, hm, hok => by
    rw [resourceCalls] at hok
    by_cases hl : s.lengths = s'.lengths
    · rw [if_pos hl] at hok
      obtain ⟨res, m1, hstep, hres, hown⟩ :=
        gpuGetModeResouce_done device s s' answers hm hok hl
      intro r rest h
      obtain ⟨rfl, rfl⟩ := Prod.mk.inj (Option.some.inj (hstep.symm.trans h))
      exact settled_stored.2 ⟨[some s], s', rfl, hres, hown.live_of_le le_rfl⟩
    · rw [if_neg hl, allocOk_add] at hok
      obtain ⟨m1, hm1, hcalls, hstep⟩ := gpuGetModeResouce_retry device s s' answers hm hok.1 hl
      have hrest := resource_settled device answers hm1 (hcalls ▸ hok.2)
      intro r rest h
      have hr := hrest r rest (hstep.symm.trans h)
      refine ⟨fun h0 => ?_, hr.2⟩
      obtain ⟨res, hout, before, last, hanswers, hres⟩ := hr.1 h0
      exact ⟨res, hout, some s :: some s' :: before, last, by rw [hanswers]; rfl, hres⟩

/-- The jump to `error` with arrays missing. -/
theorem gpuGetModeResouce_temps (device : GpuDevice) {ok : ℕ → Bool} (s : CardResState)
    (answers : List (Option CardResState)) {m : Ledger} (h : ¬ AllocOk ok m.calls s.need) :
    ∃ m', gpuGetModeResouce ok device (some s :: answers) m = some ((0, none, m'), answers) := by
  have hfst : (resourceTemps ok (s.ioctl {}) m).1 = false := by
    rw [← Bool.not_eq_true, resourceTemps_fst]
    exact h
  rcases htemps : resourceTemps ok (s.ioctl {}) m with ⟨b, c, m1⟩
  obtain rfl : b = false := by rwa [htemps] at hfst
  rw [gpuGetModeResouce, htemps]
  exact ⟨_, rfl⟩

theorem not_resource_settled (device : GpuDevice) {ok : ℕ → Bool} :
    ∀ (answers : List (Option CardResState)) {m : Ledger}, Owned m 0 →
      ¬ AllocOk ok m.calls (resourceCalls answers) →
        ∃ r rest, gpuGetModeResouce ok device answers m = some (r, rest)
          ∧ ∀ good, ¬ Settled good r
  | [], _, _, hno => absurd (allocOk_zero _ _) hno
  | none :: _, _, _, hno => absurd (allocOk_zero _ _) hno
  | [some s], m, _, hno => by
    obtain ⟨m1, hstep⟩ := gpuGetModeResouce_temps device s [] hno
    exact ⟨_, _, hstep, fun _ => not_settled_none⟩
  | some s :: none :: answers, m, _, hno => by
    obtain ⟨m1, hstep⟩ := gpuGetModeResouce_temps device s (none :: answers) hno
    exact ⟨_, _, hstep, fun _ => not_settled_none⟩
  | some s :: some s' :: answers, m, hm, hno => by
    by_cases htemp : AllocOk ok m.calls s.need
    · rw [resourceCalls, ← allocOk_rest htemp] at hno
      by_cases hl : s.lengths = s'.lengths
      · rw [if_pos hl] at hno
        obtain ⟨c, m1, htemps, hc⟩ := resourceTemps_ok (c := s.ioctl {}) htemp
        have hsame : c.sameCounts (s'.ioctl c) = true := hc.sameCounts_iff.2 hl
        have hcalls : m1.calls = m.calls + s.need := hc.calls
        rw [← hcalls] at hno
        rw [gpuGetModeResouce, htemps]
        dsimp only
        rw [if_neg (by simp [hsame])]
        refine ⟨_, _, rfl, fun _ => ?_⟩
        rcases hobj : ok m1.calls with _ | _
        · rw [resourceFill, calloc_none 72 1 () hobj]
          exact not_settled_none
        · obtain ⟨res, m2, hfill⟩ := resourceFill_lost (c := s'.ioctl c) device hobj hno
          rw [hfill]
          exact not_settled_error enomem_ne
      · rw [if_neg hl] at hno
        obtain ⟨m1, hm1, hcalls, hstep⟩ := gpuGetModeResouce_retry device s s' answers hm htemp hl
        rw [hstep]
        exact not_resource_settled device answers hm1 (hcalls ▸ hno)
    · obtain ⟨m1, hstep⟩ := gpuGetModeResouce_temps device s (some s' :: answers) htemp
      exact ⟨_, _, hstep, fun _ => not_settled_none⟩

theorem resource_settled_iff (device : GpuDevice) (ok : ℕ → Bool)
    (answers : List (Option CardResState)) :
    ResourceSettled answers (gpuGetModeResouce ok device answers {})
      ↔ AllocOk ok 0 (resourceCalls answers) := by
  refine ⟨fun h => ?_, resource_settled device answers Owned.empty⟩
  by_contra hno
  obtain ⟨r, rest, hrun, hr⟩ := not_resource_settled device answers Owned.empty hno
  exact hr _ (h r rest hrun)

/-! ## Connectors -/

/-- The object's arrays have the lengths of the second answer, and its lists where the arrays
of the first have room for them. -/
structure GpuConnector.Filled (conn : GpuConnector) (s s' : ConnectorState) : Prop where
  modes : conn.modeInfos.Filled 68 (s'.modes.map copyModeInfo) (s'.modes.length ≤ s.modes.length)
    ∧ conn.modeCount = s'.modes.length
  props : conn.props.Filled 4 (s'.props.map (·.1)) (s'.props.length ≤ s.props.length)
    ∧ conn.propCount = s'.props.length
  propValues : conn.propValues.Filled 8 (s'.props.map (·.2)) (s'.props.length ≤ s.props.length)
  encoders : conn.encoderIds.Filled 4 s'.encoders (s'.encoders.length ≤ s.encoders.length)
    ∧ conn.encoderCount = s'.encoders.length

def ConnectorSettled (first second : Option ConnectorState) :
    ℤ × Option GpuConnector × Ledger → Prop :=
  Settled fun conn m => ∃ s s', first = some s ∧ second = some s' ∧ conn.Filled s s'
    ∧ m.Live conn.ids

def ConnectorState.need (s : ConnectorState) : ℕ :=
  used s.encoders.length + used s.modes.length + used s.props.length + used s.props.length

/-- The calls of `xAlloc` whose failure jumps to `error`. -/
def connectorCalls : Option ConnectorState → Option ConnectorState → ℕ
  | none, _ => 0
  | some s, none => s.need
  | some s, some _ => s.need + 1

theorem connector_filled {connId : UInt32} {s s' : ConnectorState} {c : DrmModeGetConnector}
    {conn : GpuConnector} {m m' : Ledger}
    (h : ConnectorTemps (s.ioctl { connectorId := connId }) c m m')
    (hconn : ConnectorOf (s'.ioctl c) conn) : conn.Filled s s' := by
  refine ⟨⟨⟨?_, ?_, fun hle => ?_⟩, hconn.modeCount⟩, ⟨?_, hconn.propCount⟩, ?_,
    ⟨?_, hconn.encoderCount⟩⟩
  · rw [hconn.modes.2, List.length_append, List.length_map, List.length_take,
      List.length_replicate, List.length_map]
    show min s'.modes.length _ + (s'.modes.length - _) = _
    omega
  · rw [hconn.modes.1, List.length_map]
    rfl
  · have hlen : (s'.ioctl c).modesPtr.cells.length = s.modes.length :=
      (length_copyOut _ _ _).trans h.modes.2
    have htake : (s'.ioctl c).modesPtr.cells.take (s'.ioctl c).countModes = s'.modes :=
      copyOut_take (h.modes.2.trans h.countModes.symm) (h.countModes ▸ hle)
    have hsub : (s'.ioctl c).countModes - s.modes.length = 0 := Nat.sub_eq_zero_of_le hle
    rw [hconn.modes.2, hlen, htake, hsub, List.replicate_zero, List.append_nil]
  · exact hconn.props.filled (List.length_map _).symm fun hle _ =>
      ⟨h.props.2.trans h.countProps.symm, by rw [List.length_map]; exact h.countProps ▸ hle⟩
  · exact hconn.propValues.filled (List.length_map _).symm fun hle _ =>
      ⟨h.propValues.2.trans h.countProps.symm, by rw [List.length_map]; exact h.countProps ▸ hle⟩
  · exact hconn.encoders.filled rfl fun hle _ =>
      ⟨h.encoders.2.trans h.countEncoders.symm, h.countEncoders ▸ hle⟩

/-- With an array missing, nothing is stored. -/
theorem connectorFill_lost {ok : ℕ → Bool} {c : DrmModeGetConnector} {m : Ledger}
    (h0 : ok m.calls = true) (h : ¬ AllocOk ok m.calls (1 + c.need)) :
    ∃ m', connectorFill ok c m = (-enomem, none, m') := by
  obtain ⟨obj, m0, e0, c0, -, -⟩ := calloc_some 88 1 () h0
  unfold connectorFill
  rw [e0]
  dsimp only
  rw [if_pos]
  · exact ⟨_, rfl⟩
  · by_contra hno
    rw [Bool.not_eq_true] at hno
    simp only [Bool.or_eq_false_iff, lost_copyModeInfos, lost_callocFor, lost_dupArray,
      dupArray_calls, c0] at hno
    obtain ⟨⟨⟨h1, h4⟩, h3⟩, h2⟩ := hno
    refine h ?_
    have hneed : 1 + c.need = 1 + (used c.countEncoders + used c.countProps + used c.countProps
        + used c.countModes) := by
      rw [DrmModeGetConnector.need]
      omega
    simp only [hneed, allocOk_add, allocOk_one]
    refine ⟨h0, ⟨⟨h1, h2⟩, ?_⟩, ?_⟩
    · rwa [← Nat.add_assoc]
    · rwa [← Nat.add_assoc, ← Nat.add_assoc]

theorem connector_settled_iff (connId : UInt32) (ok : ℕ → Bool)
    (first second : Option ConnectorState) :
    ConnectorSettled first second (gpuGetConnector ok connId first second {})
      ↔ AllocOk ok 0 (connectorCalls first second) := by
  rcases first with _ | s
  · exact iff_of_true (settled_error (by decide)) (allocOk_zero ok 0)
  by_cases htemp : AllocOk ok 0 s.need
  · obtain ⟨c, m, htemps, hc⟩ :=
      connectorTemps_ok (c := s.ioctl { connectorId := connId }) (m := {}) htemp
    rw [gpuGetConnector, htemps]
    rcases second with _ | s'
    · exact iff_of_true (settled_error (by decide)) htemp
    have hcalls : m.calls = 0 + s.need := hc.calls
    rw [connectorCalls, ← allocOk_rest htemp, allocOk_one, ← hcalls]
    dsimp only
    rcases hobj : ok m.calls with _ | _
    · refine iff_of_false ?_ Bool.false_ne_true
      rw [connectorFill, calloc_none 88 1 () hobj]
      exact not_settled_none
    · refine iff_of_true ?_ rfl
      by_cases hall : AllocOk ok m.calls (1 + (s'.ioctl c).need)
      · obtain ⟨conn, m', hfill, hconn, -, hown⟩ := connectorFill_ok hall
        have hfree := hown (hc.owned Owned.empty)
        rw [← ids_connector_ioctl s' c, add_left_comm] at hfree
        rw [hfill]
        exact settled_stored.2 ⟨s, s', rfl, rfl, connector_filled hc hconn,
          (owned_freeConnector hfree).live_of_le (Multiset.le_add_right _ _)⟩
      · obtain ⟨m', hfill⟩ := connectorFill_lost hobj hall
        rw [hfill]
        exact settled_error enomem_ne
  · have hfst : (connectorTemps ok (s.ioctl { connectorId := connId }) {}).1 = false := by
      rw [← Bool.not_eq_true, connectorTemps_fst]
      exact htemp
    rcases htemps : connectorTemps ok (s.ioctl { connectorId := connId }) {} with ⟨b, c, m⟩
    obtain rfl : b = false := by rwa [htemps] at hfst
    rw [gpuGetConnector, htemps]
    refine iff_of_false not_settled_none fun h => htemp ?_
    rcases second with _ | s'
    · exact h
    · exact (allocOk_add.1 h).1

/-! ## Blobs -/

def GpuPropBlob.ids (blob : GpuPropBlob) : Multiset ℕ := {blob.addr} + blob.data.ids

/-- The bytes have the length of the second answer, and are its bytes where the first has the
same. -/
structure GpuPropBlob.Filled (blob : GpuPropBlob) (s s' : List UInt8) : Prop where
  data : blob.data.Filled 1 s' (s.length = s'.length)
  length : blob.length = s'.length

def BlobSettled (first second : Option (List UInt8)) : ℤ × Option GpuPropBlob × Ledger → Prop :=
  Settled fun blob m => ∃ s s', first = some s ∧ second = some s' ∧ blob.Filled s s'
    ∧ m.Live blob.ids

def blobCalls : Option (List UInt8) → Option (List UInt8) → ℕ
  | none, _ => 0
  | some s, none => used s.length
  | some s, some _ => used s.length + 1

theorem blobFill_settled (blobId : UInt32) {ok : ℕ → Bool} {s s' : List UInt8} {p : Ptr UInt8}
    {m m' : Ledger} (g : Got 1 s.length 0 m p m') (hm : Owned m 0) (hobj : ok m'.calls = true) :
    BlobSettled (some s) (some s')
      (blobFill ok (blobIoctl s' { blobIoctl s { blobId } with data := p }) m') := by
  set c := blobIoctl s' { blobIoctl s { blobId } with data := p } with hc
  obtain ⟨obj, m0, e0, c0, -, o0⟩ := calloc_some 16 1 () hobj
  unfold blobFill
  rw [e0]
  dsimp only
  by_cases hall : AllocOk ok m0.calls (used s'.length)
  · obtain ⟨q, m1, e1, g1⟩ := dupArray_dup 1 s'.length (0 : UInt8) c.data hall
    have hids : c.data.ids = p.ids := by
      simp only [hc, blobIoctl]
      split_ifs
      · exact ids_copyOut _ _ _
      · rfl
    have hfree := g1.owned (o0 (g.owned hm))
    rw [← hids] at hfree
    rw [show c.length = s'.length from rfl, e1]
    dsimp only
    rw [if_neg (by simp [g1.copied.there])]
    refine settled_stored.2 ⟨s, s', rfl, rfl, ⟨⟨g1.copied.length, g1.copied.size, fun hl => ?_⟩,
      rfl⟩, ?_⟩
    · have hdata : c.data = p.copyOut s' s.length := if_pos hl
      have hcopied := g1.copied
      rw [hdata] at hcopied
      exact hcopied.copyOut g.length hl.ge rfl
    · have hlive : Owned m1 (c.data.ids + ({obj.id} + q.ids)) := by
        convert hfree using 1
        abel
      exact hlive.free.live_of_le le_rfl
  · rw [if_pos]
    · exact settled_error enomem_ne
    · rw [← Bool.not_eq_false, lost_dupArray]
      exact hall

theorem blob_settled_iff (blobId : UInt32) (ok : ℕ → Bool) (first second : Option (List UInt8)) :
    BlobSettled first second (gpuGetPropBlob ok blobId first second {})
      ↔ AllocOk ok 0 (blobCalls first second) := by
  rcases first with _ | s
  · exact iff_of_true (settled_error (by decide)) (allocOk_zero ok 0)
  unfold gpuGetPropBlob
  dsimp only
  rw [show (blobIoctl s { blobId }).length = s.length from rfl]
  by_cases htemp : AllocOk ok 0 (used s.length)
  · obtain ⟨p, m, e, g⟩ := callocFor_got (m := {}) 1 s.length (0 : UInt8) htemp
    rw [e]
    dsimp only
    rw [if_neg (by simp [g.there])]
    rcases second with _ | s'
    · exact iff_of_true (settled_error (by decide)) htemp
    have hcalls : m.calls = 0 + used s.length := g.calls
    rw [blobCalls, ← allocOk_rest htemp, allocOk_one, ← hcalls]
    rcases hobj : ok m.calls with _ | _
    · refine iff_of_false ?_ Bool.false_ne_true
      dsimp only
      rw [blobFill, calloc_none 16 1 () hobj]
      exact not_settled_none
    · exact iff_of_true (blobFill_settled blobId g Owned.empty hobj) rfl
  · rw [if_pos]
    · refine iff_of_false not_settled_none fun h => htemp ?_
      rcases second with _ | s'
      · exact h
      · exact (allocOk_add.1 h).1
    · rw [← Bool.not_eq_false, lost_callocFor]
      exact htemp

/-! ## Properties -/

def GpuProp.ids (prop : GpuProp) : Multiset ℕ :=
  {prop.addr} + (prop.values.ids + (prop.blobIds.ids + prop.enums.ids))

/-- The object's arrays have the lengths of the second answer, and its lists where those of the
first, of the same kind, are as long. The values of a blob property are its blobs' lengths. -/
structure GpuProp.Filled (prop : GpuProp) (s s' : PropertyState) : Prop where
  values : s'.values ≠ [] → prop.values.Filled 8 (s'.values.map .u64)
    (s.flags = s'.flags ∧ s'.values.length ≤ s.values.length)
  countValues : prop.countValues = s'.values.length
  enums : isEnum s'.flags = true →
    prop.enums.Filled 40 (s'.entries.map fun e => .enum e.value e.name)
      (s.flags = s'.flags ∧ s'.entries.length ≤ s.entries.length)
    ∧ prop.countEnums = s'.entries.length
  blobs : isEnum s'.flags = false → isBlob s'.flags = true →
    prop.values.Filled 4 (s'.entries.map (.u32 ·.blobLength))
      (s.flags = s'.flags ∧ s'.entries.length ≤ s.entries.length)
    ∧ prop.blobIds.Filled 4 (s'.entries.map (.u32 ·.blobId))
      (s.flags = s'.flags ∧ s'.entries.length ≤ s.entries.length)
    ∧ prop.countBlobs = s'.entries.length

def PropertySettled (first second : Option PropertyState) : ℤ × Option GpuProp × Ledger → Prop :=
  Settled fun prop m => ∃ s s', first = some s ∧ second = some s' ∧ prop.Filled s s'
    ∧ m.Live prop.ids

def PropertyState.need (s : PropertyState) : ℕ :=
  used s.values.length + ((if isEnum s.flags then used s.entries.length else 0)
    + if isBlob s.flags then used s.entries.length + used s.entries.length else 0)

def propertyCalls : Option PropertyState → Option PropertyState → ℕ
  | none, _ => 0
  | some s, none => s.need
  | some s, some _ => s.need + 1

/-- A blob property with values: their array makes way for the one of the blobs' lengths. -/
def PropertyState.Mixed (s : PropertyState) : Prop :=
  isEnum s.flags = false ∧ isBlob s.flags = true ∧ s.values ≠ []

section Answers

variable {propId : UInt32} {s s' : PropertyState} {c : DrmModeGetProperty} {m m' : Ledger}
  (h : PropertyTemps (s.ioctl { propId }) c m m') {p : Ptr PropCell}

include h in
theorem values_filled (hb : isBlob s'.flags = false)
    (hp : Copied 8 (s'.ioctl c).countValues (s'.ioctl c).valuesPtr p) :
    p.Filled 8 (s'.values.map .u64) (s.flags = s'.flags ∧ s'.values.length ≤ s.values.length) := by
  simp only [PropertyState.ioctl, hb, Bool.false_eq_true, if_false] at hp
  refine hp.filled (List.length_map _).symm ?_
  rintro ⟨hflags, hle⟩ -
  rw [← hflags] at hb
  exact ⟨(h.values hb).trans h.countValues.symm,
    by rw [List.length_map, h.countValues]; exact hle⟩

include h in
theorem enums_filled (he : isEnum s'.flags = true) (hb : isBlob s'.flags = false)
    (hp : Copied 40 (s'.ioctl c).countEnumBlobs (s'.ioctl c).enumBlobPtr p) :
    p.Filled 40 (s'.entries.map fun e => .enum e.value e.name)
      (s.flags = s'.flags ∧ s'.entries.length ≤ s.entries.length) := by
  simp only [PropertyState.ioctl, he, if_true] at hp
  refine hp.filled (List.length_map _).symm ?_
  rintro ⟨hflags, hle⟩ -
  rw [← hflags] at he hb
  exact ⟨(h.enums he hb).trans h.countEnumBlobs.symm,
    by rw [List.length_map, h.countEnumBlobs]; exact hle⟩

/-- Where something is copied, there were entries before. -/
theorem entries_pos {β : Type} {f : PropEntry → β}
    (hle : s'.entries.length ≤ s.entries.length) (hne : s'.entries.map f ≠ []) :
    s.entries.length ≠ 0 := fun h0 =>
  hne (List.map_eq_nil_iff.2 (List.length_eq_zero_iff.1 (by omega)))

include h in
theorem lengths_filled (hb : isBlob s'.flags = true)
    (hp : Copied 4 (s'.ioctl c).countEnumBlobs (s'.ioctl c).valuesPtr p) :
    p.Filled 4 (s'.entries.map (.u32 ·.blobLength))
      (s.flags = s'.flags ∧ s'.entries.length ≤ s.entries.length) := by
  simp only [PropertyState.ioctl, hb, if_true] at hp
  refine hp.filled (List.length_map _).symm ?_
  rintro ⟨hflags, hle⟩ hne
  rw [← hflags] at hb
  have hn := entries_pos hle hne
  exact ⟨(length_copyOut _ _ _).trans ((h.blobs hb hn).1.trans h.countEnumBlobs.symm),
    by rw [List.length_map, h.countEnumBlobs]; exact hle⟩

include h in
theorem blobIds_filled (he : isEnum s'.flags = false) (hb : isBlob s'.flags = true)
    (hp : Copied 4 (s'.ioctl c).countEnumBlobs (s'.ioctl c).enumBlobPtr p) :
    p.Filled 4 (s'.entries.map (.u32 ·.blobId))
      (s.flags = s'.flags ∧ s'.entries.length ≤ s.entries.length) := by
  simp only [PropertyState.ioctl, he, hb, Bool.false_eq_true, if_false, if_true] at hp
  refine hp.filled (List.length_map _).symm ?_
  rintro ⟨hflags, hle⟩ hne
  rw [← hflags] at hb
  have hn := entries_pos hle hne
  exact ⟨(h.blobs hb hn).2.trans h.countEnumBlobs.symm,
    by rw [List.length_map, h.countEnumBlobs]; exact hle⟩

end Answers

/-- The check for missing arrays. -/
def DrmModeGetProperty.missing (c : DrmModeGetProperty) (prop : GpuProp) : Bool :=
  lost c.countValues prop.values || isEnum c.flags && prop.enums.isNone ||
    isBlob c.flags && prop.values.isNone || isBlob c.flags && prop.blobIds.isNone

section Missing

variable {c : DrmModeGetProperty} {prop : GpuProp}

theorem missing_values (h : lost c.countValues prop.values = true) : c.missing prop = true := by
  simp [DrmModeGetProperty.missing, h]

theorem missing_enums (he : isEnum c.flags = true) (h : prop.enums.isNone = true) :
    c.missing prop = true := by
  simp [DrmModeGetProperty.missing, he, h]

theorem missing_blobs (hb : isBlob c.flags = true)
    (h : (prop.values.isNone || prop.blobIds.isNone) = true) : c.missing prop = true := by
  rcases Bool.or_eq_true_iff.1 h with h | h <;> simp [DrmModeGetProperty.missing, hb, h]

end Missing

/-- The object before its entries. -/
def DrmModeGetProperty.start (c : DrmModeGetProperty) (obj : Block Unit) (values : Ptr PropCell) :
    GpuProp :=
  { addr := obj.id, propId := c.propId, flags := c.flags, countValues := c.countValues, values }

section Fill

variable {ok : ℕ → Bool} {c : DrmModeGetProperty} {m m0 m1 m2 : Ledger} {obj : Block Unit}
  {values : Ptr PropCell} {prop : GpuProp} (e0 : calloc ok 80 1 () m = (some obj, m0))
  (e1 : dupArray ok 8 c.countValues (.u64 0) c.valuesPtr m0 = (values, m1))
  (e2 : propertyEntries ok c (c.start obj values) m1 = (prop, m2))

include e0 e1 e2 in
theorem propertyFill_missing (h : c.missing prop = true) :
    ∃ m', propertyFill ok c m = (-enomem, none, m') := by
  unfold propertyFill
  rw [e0]
  dsimp only
  rw [e1]
  dsimp only
  rw [← DrmModeGetProperty.start, e2]
  dsimp only
  rw [← DrmModeGetProperty.missing, if_pos h]
  exact ⟨_, rfl⟩

include e0 e1 e2 in
theorem propertyFill_there (h : c.missing prop = false) :
    propertyFill ok c m = (0, some { prop with name := c.name.take 31 }, c.free m2) := by
  unfold propertyFill
  rw [e0]
  dsimp only
  rw [e1]
  dsimp only
  rw [← DrmModeGetProperty.start, e2]
  dsimp only
  rw [← DrmModeGetProperty.missing, if_neg (ne_true_of_eq_false h)]

omit e0 e1 e2 in
theorem settled_missing (first second : Option PropertyState)
    (h : ∃ m', propertyFill ok c m = (-enomem, none, m')) :
    PropertySettled first second (propertyFill ok c m) := by
  obtain ⟨m', hfill⟩ := h
  rw [hfill]
  exact settled_error enomem_ne

theorem live_property {m : Ledger} {c : DrmModeGetProperty} {prop : GpuProp} (l : Multiset ℕ)
    (h : Owned m (c.ids + (prop.ids + l))) : (c.free m).Live prop.ids :=
  (owned_freeProperty h).live_of_le (Multiset.le_add_right _ _)

end Fill

section Kinds

variable {propId : UInt32} {s s' : PropertyState} {c : DrmModeGetProperty} {ok : ℕ → Bool}
  {m m0 m1 : Ledger} {obj : Block Unit} {values : Ptr PropCell} {live : Multiset ℕ}
  (h : PropertyTemps (s.ioctl { propId }) c {} m) (e0 : calloc ok 80 1 () m = (some obj, m0))
  (e1 : dupArray ok 8 (s'.ioctl c).countValues (.u64 0) (s'.ioctl c).valuesPtr m0 = (values, m1))
  (hvalues : lost s'.values.length values = false →
    Copied 8 s'.values.length (s'.ioctl c).valuesPtr values)
  (hown : Owned m1 (values.ids + ({obj.id} + ((s'.ioctl c).ids + live))))

include h e0 e1 hvalues hown in
theorem settled_enum (he : isEnum s'.flags = true) :
    PropertySettled (some s) (some s') (propertyFill ok (s'.ioctl c) m) := by
  rcases hb : isBlob s'.flags with _ | _
  · rcases hok : ok m1.calls with _ | _
    · have hnone :=
        propertyEntries_enum_lost (c := s'.ioctl c) ((s'.ioctl c).start obj values) he hok
      rcases e2 : propertyEntries ok (s'.ioctl c) ((s'.ioctl c).start obj values) m1 with ⟨prop, m2⟩
      rw [e2] at hnone
      exact settled_missing _ _ (propertyFill_missing e0 e1 e2 (missing_enums he hnone))
    obtain ⟨enums, m2, e2, hsome, hcopied, hown2⟩ :=
      propertyEntries_enum (c := s'.ioctl c) ((s'.ioctl c).start obj values) he hok
    rcases hlost : lost s'.values.length values with _ | _
    · rw [propertyFill_there e0 e1 e2]
      · refine settled_stored.2 ⟨s, s', rfl, rfl, ⟨fun _ => values_filled h hb (hvalues hlost),
          rfl, fun _ => ⟨enums_filled h he hb hcopied, rfl⟩, fun h0 => ?_⟩,
          live_property live ?_⟩
        · exact absurd he (by simp [h0])
        · have h' := hown2 hown
          convert h' using 1
          simp only [GpuProp.ids, DrmModeGetProperty.start, Ptr.ids]
          abel
      · simp only [DrmModeGetProperty.missing, hsome,
          show isBlob (s'.ioctl c).flags = false from hb, Bool.and_false, Bool.false_and,
          Bool.or_false]
        exact hlost
    · exact settled_missing _ _ (propertyFill_missing e0 e1 e2 (missing_values hlost))
  · have hnone := propertyEntries_enum_blobIds (c := s'.ioctl c) ok
      ((s'.ioctl c).start obj values) m1 he
    rcases e2 : propertyEntries ok (s'.ioctl c) ((s'.ioctl c).start obj values) m1 with ⟨prop, m2⟩
    rw [e2] at hnone
    refine settled_missing _ _ (propertyFill_missing e0 e1 e2 (missing_blobs hb ?_))
    rw [hnone]
    exact Bool.or_true _

include h e0 e1 hvalues hown in
theorem settled_neither (he : isEnum s'.flags = false) (hb : isBlob s'.flags = false) :
    PropertySettled (some s) (some s') (propertyFill ok (s'.ioctl c) m) := by
  have e2 := propertyEntries_neither (c := s'.ioctl c) ok ((s'.ioctl c).start obj values) m1 he hb
  rcases hlost : lost s'.values.length values with _ | _
  · rw [propertyFill_there e0 e1 e2]
    · refine settled_stored.2 ⟨s, s', rfl, rfl, ⟨fun _ => values_filled h hb (hvalues hlost),
        rfl, fun h0 => ?_, fun _ h0 => ?_⟩, live_property live ?_⟩
      · exact absurd h0 (by simp [he])
      · exact absurd h0 (by simp [hb])
      · convert hown using 1
        simp only [GpuProp.ids, DrmModeGetProperty.start, Ptr.ids]
        abel
    · simp only [DrmModeGetProperty.missing, show isEnum (s'.ioctl c).flags = false from he,
        show isBlob (s'.ioctl c).flags = false from hb, Bool.false_and, Bool.or_false]
      exact hlost
  · exact settled_missing _ _ (propertyFill_missing e0 e1 e2 (missing_values hlost))

include h e0 e1 hown in
/-- With values, the object has lost them to the lengths of the blobs. -/
theorem settled_blob (he : isEnum s'.flags = false) (hb : isBlob s'.flags = true) :
    PropertySettled (some s) (some s') (propertyFill ok (s'.ioctl c) m)
      ↔ ¬ (s'.values ≠ [] ∧ AllocOk ok m1.calls 2) := by
  by_cases hok : AllocOk ok m1.calls 2
  · obtain ⟨lengths, blobIds, m2, e2, hsome, hsome2, hcopied, hcopied2, hown2⟩ :=
      propertyEntries_blob (c := s'.ioctl c) ((s'.ioctl c).start obj values) he hb hok
    rw [propertyFill_there e0 e1 e2]
    · refine settled_stored.trans ⟨?_, fun hnil => ?_⟩
      · rintro ⟨t, t', ht, ht', hfilled, -⟩ ⟨hne, -⟩
        obtain rfl := Option.some.inj ht'
        have hlen := (hfilled.values hne).size
        have hsize := (hfilled.values hne).length
        have hlen2 := hcopied.length
        have hsize2 := hcopied.size
        have hpos := List.length_pos_iff.2 hne
        simp only [List.length_map] at hlen hsize
        omega
      · have hnil' : s'.values = [] := by
          by_contra hne
          exact hnil ⟨hne, hok⟩
        refine ⟨s, s', rfl, rfl, ⟨fun hne => absurd hnil' hne, rfl, fun h0 => ?_, fun _ _ =>
          ⟨lengths_filled h hb hcopied, blobIds_filled h he hb hcopied2, rfl⟩⟩,
          live_property (values.ids + live) ?_⟩
        · exact absurd h0 (by simp [he])
        · convert hown2 hown using 1
          simp only [GpuProp.ids, DrmModeGetProperty.start, Ptr.ids]
          abel
    · have hlost : lost (s'.ioctl c).countValues lengths = false := by simp [lost, hsome]
      simp only [DrmModeGetProperty.missing, hsome, hsome2, hlost,
        show isEnum (s'.ioctl c).flags = false from he, Bool.and_false, Bool.false_and,
        Bool.or_false]
  · have hnone :=
      propertyEntries_blob_lost (c := s'.ioctl c) ((s'.ioctl c).start obj values) he hb hok
    rcases e2 : propertyEntries ok (s'.ioctl c) ((s'.ioctl c).start obj values) m1 with ⟨prop, m2⟩
    rw [e2] at hnone
    exact iff_of_true (settled_missing _ _ (propertyFill_missing e0 e1 e2 (missing_blobs hb hnone)))
      fun h => hok h.2

end Kinds

theorem propertyFill_settled {propId : UInt32} {s s' : PropertyState} {c : DrmModeGetProperty}
    {ok : ℕ → Bool} {m : Ledger} (h : PropertyTemps (s.ioctl { propId }) c {} m)
    (hobj : ok m.calls = true) :
    PropertySettled (some s) (some s') (propertyFill ok (s'.ioctl c) m)
      ↔ ¬ (s'.Mixed ∧ AllocOk ok (m.calls + 2) 2) := by
  obtain ⟨obj, m0, e0, c0, -, o0⟩ := calloc_some 80 1 () hobj
  obtain ⟨gone, hgone⟩ := h.owned
  have hown := ((o0 (hgone Owned.empty)).dupArray ok 8 s'.values.length (.u64 0)
    (s'.ioctl c).valuesPtr)
  have hcalls := dupArray_calls ok 8 s'.values.length (.u64 0) (s'.ioctl c).valuesPtr m0
  have hvalues := lost_dupArray ok 8 s'.values.length (.u64 0) (s'.ioctl c).valuesPtr m0
  have hcopied := fun ha => dupArray_dup 8 s'.values.length (.u64 0) (s'.ioctl c).valuesPtr
    (hvalues.1 ha)
  rcases e1 : dupArray ok 8 (s'.ioctl c).countValues (.u64 0) (s'.ioctl c).valuesPtr m0
    with ⟨values, m1⟩
  rw [show (s'.ioctl c).countValues = s'.values.length from rfl] at e1
  rw [e1] at hown hcalls hvalues hcopied
  have hcopy : lost s'.values.length values = false →
      Copied 8 s'.values.length (s'.ioctl c).valuesPtr values := fun ha => by
    obtain ⟨p, m', he, hdup⟩ := hcopied ha
    obtain ⟨rfl, -⟩ := Prod.mk.inj he
    exact hdup.copied
  rw [← ids_property_ioctl s' c] at hown
  unfold PropertyState.Mixed
  rcases he : isEnum s'.flags with _ | _
  · rcases hb : isBlob s'.flags with _ | _
    · exact iff_of_true (settled_neither h e0 e1 hcopy hown he hb) (by simp)
    · refine (settled_blob h e0 e1 hown he hb).trans (not_congr ?_)
      refine ⟨fun ⟨hne, hok⟩ => ⟨⟨rfl, rfl, hne⟩, ?_⟩, fun ⟨⟨_, _, hne⟩, hok⟩ => ⟨hne, ?_⟩⟩
      · have h1 : used s'.values.length = 1 := if_neg (List.length_pos_iff.2 hne).ne'
        rwa [hcalls, c0, h1] at hok
      · have h1 : used s'.values.length = 1 := if_neg (List.length_pos_iff.2 hne).ne'
        rwa [hcalls, c0, h1]
  · exact iff_of_true (settled_enum h e0 e1 hcopy hown he) (by simp)

theorem property_settled_iff (propId : UInt32) (ok : ℕ → Bool)
    (first second : Option PropertyState) :
    PropertySettled first second (gpuGetProperty ok propId first second {})
      ↔ AllocOk ok 0 (propertyCalls first second) ∧ ∀ s s', first = some s → second = some s' →
        ¬ (s'.Mixed ∧ AllocOk ok (s.need + 2) 2) := by
  rcases first with _ | s
  · exact iff_of_true (settled_error (by decide)) ⟨allocOk_zero ok 0, fun _ _ h => by cases h⟩
  by_cases htemp : AllocOk ok 0 s.need
  · have hnull : (s.ioctl { propId }).enumBlobPtr = none := by
      simp only [PropertyState.ioctl, copyOut_none, ite_self]
    obtain ⟨c, m, htemps, hc⟩ := propertyTemps_ok (m := {}) hnull htemp
    rw [gpuGetProperty, htemps]
    rcases second with _ | s'
    · exact iff_of_true (settled_error (by decide)) ⟨htemp, fun _ _ _ h => by cases h⟩
    have hcalls : m.calls = s.need := hc.calls.trans (Nat.zero_add _)
    rw [propertyCalls, ← allocOk_rest htemp, allocOk_one, Nat.zero_add, ← hcalls]
    dsimp only
    rcases hobj : ok m.calls with _ | _
    · refine iff_of_false ?_ fun h => Bool.false_ne_true h.1
      rw [propertyFill, calloc_none 80 1 () hobj]
      exact not_settled_none
    · rw [propertyFill_settled hc hobj, hcalls]
      refine ⟨fun h => ⟨rfl, fun t t' ht ht' => ?_⟩, fun h => h.2 s s' rfl rfl⟩
      obtain rfl := Option.some.inj ht
      obtain rfl := Option.some.inj ht'
      exact h
  · have hfst : (propertyTemps ok (s.ioctl { propId }) {}).1 = false := by
      rw [← Bool.not_eq_true, propertyTemps_fst]
      exact htemp
    rcases htemps : propertyTemps ok (s.ioctl { propId }) {} with ⟨b, c, m⟩
    obtain rfl : b = false := by rwa [htemps] at hfst
    rw [gpuGetProperty, htemps]
    refine iff_of_false not_settled_none fun h => htemp ?_
    rcases second with _ | s'
    · exact h.1
    · exact (allocOk_add.1 h.1).1

/-! ## The four calls -/

/-- A call is settled exactly when the kernel's arrays and the object could be had; of
`gpuGetModeResouce`, only with all the object's arrays, and of `gpuGetProperty`, only without
values in a blob property. -/
theorem mode_calls_settled_iff (ok : ℕ → Bool) :
    (∀ device answers, ResourceSettled answers (gpuGetModeResouce ok device answers {})
      ↔ AllocOk ok 0 (resourceCalls answers))
    ∧ (∀ connId first second,
      ConnectorSettled first second (gpuGetConnector ok connId first second {})
        ↔ AllocOk ok 0 (connectorCalls first second))
    ∧ (∀ propId first second,
      PropertySettled first second (gpuGetProperty ok propId first second {})
        ↔ AllocOk ok 0 (propertyCalls first second)
          ∧ ∀ s s', first = some s → second = some s' →
            ¬ (s'.Mixed ∧ AllocOk ok (s.need + 2) 2))
    ∧ ∀ blobId first second,
      BlobSettled first second (gpuGetPropBlob ok blobId first second {})
        ↔ AllocOk ok 0 (blobCalls first second) :=
  ⟨fun device answers => resource_settled_iff device ok answers,
    fun connId first second => connector_settled_iff connId ok first second,
    fun propId first second => property_settled_iff propId ok first second,
    fun blobId first second => blob_settled_iff blobId ok first second⟩

/-- The object of a blob could not be had, and the call returns 0 all the same. -/
theorem blob_call_without_object :
    ¬ BlobSettled (some [1, 2]) (some [1, 2])
      (gpuGetPropBlob (fun k => k ≠ 1) 9 (some [1, 2]) (some [1, 2]) {}) := by
  rintro ⟨h, -⟩
  obtain ⟨blob, hblob, -⟩ := h rfl
  cases hblob

end Amdtop
