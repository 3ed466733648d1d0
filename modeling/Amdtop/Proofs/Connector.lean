import Amdtop.GpuMode
import Amdtop.Proofs.ModeResource

/-!
# A connector that changes between the two answers

The arrays have the lengths of the first answer and the copies those of the second. Where a list
has not grown the kernel has copied it and the copy stays in its array (`connectorFill_ok`), so the
object holds the second answer's lists; where one has grown the copy reads on behind the array.
-/

namespace Amdtop

open Heap

/-! ## The kernel's arrays -/

def DrmModeGetConnector.need (c : DrmModeGetConnector) : ℕ :=
  used c.countEncoders + used c.countModes + used c.countProps + used c.countProps

def DrmModeGetConnector.ids (c : DrmModeGetConnector) : Multiset ℕ :=
  c.encodersPtr.ids + (c.modesPtr.ids + (c.propsPtr.ids + c.propValuesPtr.ids))

theorem connectorTemps_fst (ok : ℕ → Bool) (c : DrmModeGetConnector) (m : Ledger) :
    (connectorTemps ok c m).1 = true ↔ AllocOk ok m.calls c.need := by
  unfold connectorTemps DrmModeGetConnector.need
  rw [jump_iff rfl, jump_iff rfl, jump_iff rfl, jump_iff rfl]
  simp only [lost_callocFor, callocFor_calls, allocOk_add, and_true, Nat.add_assoc]

/-- The arrays for the lists of `c`. -/
structure ConnectorTemps (c c' : DrmModeGetConnector) (m m' : Ledger) : Prop where
  countEncoders : c'.countEncoders = c.countEncoders
  countModes : c'.countModes = c.countModes
  countProps : c'.countProps = c.countProps
  encoders : c'.encodersPtr.size = 4 * c.countEncoders
    ∧ c'.encodersPtr.cells.length = c.countEncoders
  modes : (c'.modesPtr.isNone = true ↔ c.countModes = 0)
    ∧ c'.modesPtr.cells.length = c.countModes
  props : c'.propsPtr.size = 4 * c.countProps ∧ c'.propsPtr.cells.length = c.countProps
  propValues : c'.propValuesPtr.size = 8 * c.countProps
    ∧ c'.propValuesPtr.cells.length = c.countProps
  calls : m'.calls = m.calls + c.need
  overrun : m'.overrun = m.overrun
  owned : ∀ {live}, Owned m live → Owned m' (c'.ids + live)

theorem connectorTemps_ok {ok : ℕ → Bool} {c : DrmModeGetConnector} {m : Ledger}
    (h : AllocOk ok m.calls c.need) :
    ∃ c' m', connectorTemps ok c m = (true, c', m') ∧ ConnectorTemps c c' m m' := by
  simp only [DrmModeGetConnector.need, allocOk_add] at h
  obtain ⟨⟨⟨h1, h2⟩, h3⟩, h4⟩ := h
  obtain ⟨p1, m1, e1, g1⟩ := callocFor_got 4 c.countEncoders (0 : UInt32) h1
  obtain ⟨p2, m2, e2, g2⟩ := callocFor_got 68 c.countModes ({} : DrmModeModeinfo) (g1.calls ▸ h2)
  obtain ⟨p3, m3, e3, g3⟩ := callocFor_got 4 c.countProps (0 : UInt32)
    (by rwa [g2.calls, g1.calls, Nat.add_assoc])
  obtain ⟨p4, m4, e4, g4⟩ := callocFor_got 8 c.countProps (0 : UInt64)
    (by rwa [g3.calls, g2.calls, g1.calls, Nat.add_assoc m.calls, Nat.add_assoc m.calls])
  refine ⟨{ c with encodersPtr := p1, modesPtr := p2, propsPtr := p3, propValuesPtr := p4 }, m4,
    ?_, rfl, rfl, rfl, ⟨g1.size, g1.length⟩, ⟨g2.null, g2.length⟩, ⟨g3.size, g3.length⟩,
    ⟨g4.size, g4.length⟩, ?_, ?_, ?_⟩
  · simp only [connectorTemps, e1, e2, e3, e4, g1.there, g2.there, g3.there, g4.there,
      Bool.false_eq_true, if_false]
  · rw [g4.calls, g3.calls, g2.calls, g1.calls, DrmModeGetConnector.need]
    omega
  · rw [g4.overrun, g3.overrun, g2.overrun, g1.overrun]
  · intro live h
    have h' := g4.owned (g3.owned (g2.owned (g1.owned h)))
    rw [DrmModeGetConnector.ids]
    dsimp only
    convert h' using 1
    abel

theorem ids_connector_ioctl (s : ConnectorState) (c : DrmModeGetConnector) :
    (s.ioctl c).ids = c.ids := by
  simp only [ConnectorState.ioctl, DrmModeGetConnector.ids, ids_copyOut]

theorem owned_freeConnector {c : DrmModeGetConnector} {m : Ledger} {live : Multiset ℕ}
    (h : Owned m (c.ids + live)) : Owned (c.free m) live := by
  unfold DrmModeGetConnector.free
  refine Owned.free (Owned.free (Owned.free (Owned.free ?_)))
  convert h using 1
  rw [DrmModeGetConnector.ids]
  abel

/-! ## Modes -/

theorem copyModeInfo_injective : Function.Injective copyModeInfo := by
  intro a b h
  rcases a with ⟨⟩
  rcases b with ⟨⟩
  simpa [copyModeInfo] using h

section Modes

variable {n : ℕ} {p : Ptr GpuModeInfo} {m m' : Ledger} (h : Got 68 n {} m p m')
  (src : Ptr DrmModeModeinfo)

include h in
theorem copyModeInfos_cells : (copyModeInfos n p src m').1.cells
    = (src.cells.take n).map copyModeInfo
      ++ List.replicate (n - src.cells.length) ({} : GpuModeInfo) := by
  have hcells := h.cells
  rcases p with _ | d
  · have h0 : n = 0 := by simpa [Ptr.cells] using h.length.symm
    simp [copyModeInfos, Ptr.cells, h0]
  · simp only [Ptr.cells] at hcells
    show (src.cells.take n).map copyModeInfo ++ d.data.drop (src.cells.take n).length = _
    rw [hcells, List.drop_replicate, List.length_take]
    congr 2
    omega

include h in
theorem size_copyModeInfos : (copyModeInfos n p src m').1.size = 68 * n := by
  have hlen : (copyModeInfos n p src m').1.cells.length = p.cells.length := by
    rw [copyModeInfos_cells h src, h.length, List.length_append, List.length_map,
      List.length_take, List.length_replicate]
    omega
  rw [← h.size]
  rcases p with _ | d
  · rfl
  · exact congrArg (d.width * ·) hlen

include h in
theorem copyModeInfos_overrun : (copyModeInfos n p src m').2.overrun
    = (m'.overrun || if src.isNone = true then decide (1 < n)
        else decide (src.cells.length < n)) := by
  rcases p with _ | d
  · have h0 : n = 0 := by simpa [Ptr.cells] using h.length.symm
    simp [copyModeInfos, h0]
  · rfl

end Modes

theorem lost_copyModeInfos (k n : ℕ) (p : Ptr GpuModeInfo) (src : Ptr DrmModeModeinfo)
    (m : Ledger) : lost k (copyModeInfos n p src m).1 = lost k p := by
  rcases p with _ | d <;> rfl

theorem ids_copyModeInfos (n : ℕ) (p : Ptr GpuModeInfo) (src : Ptr DrmModeModeinfo) (m : Ledger) :
    (copyModeInfos n p src m).1.ids = p.ids := by
  rcases p with _ | d <;> rfl

theorem owned_copyModeInfos {m : Ledger} {live : Multiset ℕ} (h : Owned m live) (n : ℕ)
    (p : Ptr GpuModeInfo) (src : Ptr DrmModeModeinfo) :
    Owned (copyModeInfos n p src m).2 live := by
  rcases p with _ | d
  · exact h
  · exact ⟨h.balance, h.nodup, h.lt⟩

/-! ## The object -/

def GpuConnector.ids (conn : GpuConnector) : Multiset ℕ :=
  {conn.addr} + (conn.encoderIds.ids + (conn.props.ids + (conn.propValues.ids +
    conn.modeInfos.ids)))

/-- The object has the counts of `c` and copies of its arrays. -/
structure ConnectorOf (c : DrmModeGetConnector) (conn : GpuConnector) : Prop where
  encoderCount : conn.encoderCount = c.countEncoders
  propCount : conn.propCount = c.countProps
  modeCount : conn.modeCount = c.countModes
  encoders : Copied 4 c.countEncoders c.encodersPtr conn.encoderIds
  props : Copied 4 c.countProps c.propsPtr conn.props
  propValues : Copied 8 c.countProps c.propValuesPtr conn.propValues
  modes : conn.modeInfos.size = 68 * c.countModes ∧ conn.modeInfos.cells
    = (c.modesPtr.cells.take c.countModes).map copyModeInfo
      ++ List.replicate (c.countModes - c.modesPtr.cells.length) ({} : GpuModeInfo)

/-- Some copy reads behind its array. -/
def DrmModeGetConnector.Overrun (c : DrmModeGetConnector) : Bool :=
  decide (c.encodersPtr.size < 4 * c.countEncoders) || decide (c.propsPtr.size < 4 * c.countProps)
    || decide (c.propValuesPtr.size < 8 * c.countProps)
    || if c.modesPtr.isNone = true then decide (1 < c.countModes)
      else decide (c.modesPtr.cells.length < c.countModes)

theorem overrun_eq_false (c : DrmModeGetConnector) : c.Overrun = false ↔
    4 * c.countEncoders ≤ c.encodersPtr.size ∧ 4 * c.countProps ≤ c.propsPtr.size
      ∧ 8 * c.countProps ≤ c.propValuesPtr.size ∧ (c.modesPtr.isNone = true → c.countModes ≤ 1)
      ∧ (c.modesPtr.isNone = false → c.countModes ≤ c.modesPtr.cells.length) := by
  unfold DrmModeGetConnector.Overrun
  rcases c.modesPtr.isNone <;> simp [and_assoc]

theorem connectorFill_ok {ok : ℕ → Bool} {c : DrmModeGetConnector} {m : Ledger}
    (h : AllocOk ok m.calls (1 + c.need)) :
    ∃ conn m', connectorFill ok c m = (0, some conn, c.free m') ∧ ConnectorOf c conn
      ∧ m'.overrun = (m.overrun || c.Overrun)
      ∧ ∀ {live}, Owned m live → Owned m' (conn.ids + live) := by
  have hneed : 1 + c.need = 1 + (used c.countEncoders + used c.countProps + used c.countProps
      + used c.countModes) := by
    rw [DrmModeGetConnector.need]
    omega
  simp only [hneed, allocOk_add, allocOk_one] at h
  obtain ⟨h0, ⟨⟨h1, h2⟩, h3⟩, h4⟩ := h
  obtain ⟨obj, m0, e0, c0, r0, o0⟩ := calloc_some 88 1 () h0
  obtain ⟨p1, m1, e1, g1⟩ := dupArray_dup 4 c.countEncoders (0 : UInt32) c.encodersPtr (c0 ▸ h1)
  obtain ⟨p2, m2, e2, g2⟩ := dupArray_dup 4 c.countProps (0 : UInt32) c.propsPtr
    (by rwa [g1.calls, c0])
  obtain ⟨p3, m3, e3, g3⟩ := dupArray_dup 8 c.countProps (0 : UInt64) c.propValuesPtr
    (by rwa [g2.calls, g1.calls, c0, Nat.add_assoc (m.calls + 1)])
  obtain ⟨p4, m4, e4, g4⟩ := callocFor_got 68 c.countModes ({} : GpuModeInfo)
    (by rwa [g3.calls, g2.calls, g1.calls, c0, Nat.add_assoc (m.calls + 1),
      Nat.add_assoc (m.calls + 1)])
  have hcells := copyModeInfos_cells g4 c.modesPtr
  have hsize := size_copyModeInfos g4 c.modesPtr
  have hover := copyModeInfos_overrun g4 c.modesPtr
  have hlost := lost_copyModeInfos c.countModes c.countModes p4 c.modesPtr m4
  have hids := ids_copyModeInfos c.countModes p4 c.modesPtr m4
  generalize hp5 : copyModeInfos c.countModes p4 c.modesPtr m4 = r5 at hcells hsize hover hlost hids
  refine ⟨⟨obj.id, c.countProps, p2, p3, c.countEncoders, p1, c.countModes, r5.1, c.encoderId,
    c.connectorId, c.connectorType, c.connectorTypeId, c.mmWidth, c.mmHeight, c.connection,
    c.subpixel⟩, r5.2, ?_, ⟨rfl, rfl, rfl, g1.copied, g2.copied, g3.copied,
    hsize, hcells⟩, ?_, ?_⟩
  · simp only [connectorFill, e0, e1, e2, e3, e4, hp5, g1.copied.there, g2.copied.there,
      g3.copied.there, hlost, g4.there, Bool.or_self, Bool.false_eq_true, if_false]
  · rw [hover, g4.overrun, g3.overrun, g2.overrun, g1.overrun, r0]
    simp only [DrmModeGetConnector.Overrun, Bool.or_assoc]
  · intro live h
    have h' := owned_copyModeInfos (g4.owned (g3.owned (g2.owned (g1.owned (o0 h)))))
      c.countModes p4 c.modesPtr
    rw [hp5] at h'
    convert h' using 1
    rw [GpuConnector.ids]
    dsimp only
    rw [hids]
    abel

/-! ## The two answers -/

/-- The object holds the lists of the state, with their lengths. -/
structure GpuConnector.Holds (conn : GpuConnector) (s : ConnectorState) : Prop where
  modes : conn.modeInfos.cells = s.modes.map copyModeInfo ∧ conn.modeCount = s.modes.length
  props : conn.props.cells = s.props.map (·.1) ∧ conn.propCount = s.props.length
  propValues : conn.propValues.cells = s.props.map (·.2)
  encoders : conn.encoderIds.cells = s.encoders ∧ conn.encoderCount = s.encoders.length

/-- A call that returns 0 stored the lists of one of the two states, without a copy that read
behind its array. -/
def ConnectorRead (s s' : ConnectorState) (r : ℤ × Option GpuConnector × Ledger) : Prop :=
  r.1 = 0 → r.2.2.overrun = false ∧ ∃ conn, r.2.1 = some conn ∧ (conn.Holds s ∨ conn.Holds s')

/-- No list has grown, up to a single cleared mode where there was none, of which the copy is the
cleared array itself. -/
structure ConnectorState.Fits (s' s : ConnectorState) : Prop where
  encoders : s'.encoders.length ≤ s.encoders.length
  props : s'.props.length ≤ s.props.length
  modes : s'.modes.length ≤ s.modes.length ∨ s.modes = [] ∧ s'.modes = [{}]

section Answers

variable {connId : UInt32} {s s' : ConnectorState} {c : DrmModeGetConnector} {m m' : Ledger}
  (h : ConnectorTemps (s.ioctl { connectorId := connId }) c m m')

include h in
theorem overrun_ioctl : (s'.ioctl c).Overrun = false ↔ s'.encoders.length ≤ s.encoders.length
    ∧ s'.props.length ≤ s.props.length
    ∧ (s'.modes.length ≤ s.modes.length ∨ s.modes.length = 0 ∧ s'.modes.length = 1) := by
  have h1 : c.encodersPtr.size = 4 * s.encoders.length := h.encoders.1
  have h2 : c.propsPtr.size = 4 * s.props.length := h.props.1
  have h3 : c.propValuesPtr.size = 8 * s.props.length := h.propValues.1
  have h4 : c.modesPtr.isNone = true ↔ s.modes.length = 0 := h.modes.1
  have h5 : c.modesPtr.cells.length = s.modes.length := h.modes.2
  rw [overrun_eq_false]
  simp only [ConnectorState.ioctl, size_copyOut, isNone_copyOut, length_copyOut, h1, h2, h3, h4,
    h5, ← Bool.not_eq_true]
  omega

include h in
/-- Lists that have not grown are copied whole. -/
theorem connector_holds {conn : GpuConnector} (hconn : ConnectorOf (s'.ioctl c) conn)
    (hfit : s'.Fits s) : conn.Holds s' := by
  have hprops : s'.props.length ≤ c.countProps := h.countProps ▸ hfit.props
  have hcount : ∀ {β : Type} (f : UInt32 × UInt64 → β), (s'.ioctl c).countProps
      = (s'.props.map f).length := fun f => (List.length_map f).symm
  refine ⟨⟨?_, hconn.modeCount⟩, ⟨?_, hconn.propCount⟩, ?_, ⟨?_, hconn.encoderCount⟩⟩
  · have hlen : (s'.ioctl c).modesPtr.cells.length = s.modes.length :=
      (length_copyOut _ _ _).trans h.modes.2
    rw [hconn.modes.2, hlen]
    rcases hfit.modes with hle | ⟨hnil, hone⟩
    · have htake : (s'.ioctl c).modesPtr.cells.take (s'.ioctl c).countModes = s'.modes :=
        copyOut_take (h.modes.2.trans h.countModes.symm) (h.countModes ▸ hle)
      have hsub : (s'.ioctl c).countModes - s.modes.length = 0 := Nat.sub_eq_zero_of_le hle
      rw [htake, hsub, List.replicate_zero, List.append_nil]
    · have hcount : (s'.ioctl c).countModes = 1 := congrArg List.length hone
      rw [hnil, List.length_nil] at hlen
      rw [List.length_eq_zero_iff.1 hlen, hcount, hnil, hone]
      rfl
  · exact hconn.props.copyOut (h.props.2.trans h.countProps.symm)
      (by rw [List.length_map]; exact hprops) (hcount _)
  · exact hconn.propValues.copyOut (h.propValues.2.trans h.countProps.symm)
      (by rw [List.length_map]; exact hprops) (hcount _)
  · exact hconn.encoders.copyOut (h.encoders.2.trans h.countEncoders.symm)
      (h.countEncoders ▸ hfit.encoders) rfl

include h in
theorem modes_of_holds {conn : GpuConnector} (hconn : ConnectorOf (s'.ioctl c) conn)
    (hnil : s.modes.length = 0) (hone : s'.modes.length = 1) (hread : conn.Holds s') :
    s'.modes = [{}] := by
  have hlen : (s'.ioctl c).modesPtr.cells.length = 0 :=
    ((length_copyOut _ _ _).trans h.modes.2).trans hnil
  have hcount : (s'.ioctl c).countModes = 1 := hone
  have hcells := hconn.modes.2
  rw [List.length_eq_zero_iff.1 hlen, hcount, hread.modes.1] at hcells
  exact copyModeInfo_injective.list_map (hcells.trans rfl)

end Answers

/-- The lists of one state come back exactly when none has grown between the two answers. -/
theorem connector_read_iff (connId : UInt32) (s s' : ConnectorState) :
    ConnectorRead s s' (gpuGetConnector (fun _ => true) connId (some s) (some s') {})
      ↔ s'.Fits s := by
  obtain ⟨c, m, htemps, hc⟩ := connectorTemps_ok (c := s.ioctl { connectorId := connId })
    (allocOk_all ({} : Ledger).calls _)
  obtain ⟨conn, m', hfill, hconn, hover, -⟩ := connectorFill_ok (c := s'.ioctl c)
    (allocOk_all m.calls _)
  have hrun : gpuGetConnector (fun _ => true) connId (some s) (some s') {}
      = (0, some conn, (s'.ioctl c).free m') := by
    rw [gpuGetConnector, htemps]
    exact hfill
  have hm : m.overrun = false := hc.overrun
  have hfree : ((s'.ioctl c).free m').overrun = (s'.ioctl c).Overrun := by
    rw [DrmModeGetConnector.free, free_overrun, free_overrun, free_overrun, free_overrun, hover,
      hm, Bool.false_or]
  rw [hrun]
  constructor
  · intro h
    obtain ⟨hno, conn', he, hread⟩ := h rfl
    obtain rfl := Option.some.inj he
    rw [hfree, overrun_ioctl hc] at hno
    obtain ⟨hencoders, hprops, hmodes⟩ := hno
    refine ⟨hencoders, hprops, hmodes.imp_right fun ⟨hnil, hone⟩ => ?_⟩
    refine ⟨List.length_eq_zero_iff.1 hnil, ?_⟩
    rcases hread with hread | hread
    · have hcount : s'.modes.length = s.modes.length := hconn.modeCount.symm.trans hread.modes.2
      omega
    · exact modes_of_holds hc hconn hnil hone hread
  · intro hfit _
    refine ⟨?_, conn, rfl, Or.inr (connector_holds hc hconn hfit)⟩
    rw [hfree, overrun_ioctl hc]
    refine ⟨hfit.encoders, hfit.props, hfit.modes.imp_right fun ⟨hnil, hone⟩ => ?_⟩
    rw [hnil, hone]
    exact ⟨rfl, rfl⟩

section Example

def smallMode : DrmModeModeinfo := { clock := 25175, hdisplay := 640, vdisplay := 480 }

def unplugged : ConnectorState := ⟨[smallMode], [(1, 0)], [7], 7, 11, 1, 0, 0, 2, 1⟩

def plugged : ConnectorState := { unplugged with modes := [smallMode, smallMode] }

/-- The second answer has one mode more than there is room for. -/
theorem connector_read_plug :
    ¬ ConnectorRead unplugged plugged
      (gpuGetConnector (fun _ => true) 3 (some unplugged) (some plugged) {}) := by
  intro h
  exact absurd (h (by decide)).1 (by decide)

end Example

end Amdtop
