import Amdtop.Proofs.DisplayQuery

/-!
# What the Display tab's query has room for

The query counts neither the entries of `display_state` nor the bytes of a blob: it stays inside
just if the kernel reports no more than there is room for (`query_display_info_inside`).
-/

namespace Amdtop

open Heap Stdio

variable {α σ τ : Type}

/-! ## Room -/

/-- There is a result, and all that was written is in its place. -/
def Clean (x : Option (ℤ × σ × Ledger)) : Prop := ∃ r, x = some r ∧ r.2.2.overrun = false

theorem clean_some {r : ℤ × σ × Ledger} : Clean (some r) ↔ r.2.2.overrun = false :=
  ⟨fun ⟨_, e, h⟩ => Option.some.inj e ▸ h, fun h => ⟨r, rfl, h⟩⟩

theorem not_clean_none : ¬ Clean (none : Option (ℤ × σ × Ledger)) := fun ⟨_, e, _⟩ => nomatch e

theorem clean_bind {x : Option (ℤ × σ × Ledger)} {f : ℤ × σ × Ledger → Option (ℤ × τ × Ledger)}
    {C : Prop} (h : ∀ r, x = some r → (Clean (f r) ↔ r.2.2.overrun = false ∧ C)) :
    Clean (x.bind f) ↔ Clean x ∧ C := by
  rcases x with _ | r
  · exact iff_of_false not_clean_none fun hx => not_clean_none hx.1
  · rw [Option.bind_some, h r rfl, clean_some]

theorem handOut_overrun (a : Answer α) (m : Ledger) :
    (a.handOut m).2.overrun = m.overrun := by
  unfold Answer.handOut
  split
  · rfl
  · exact calloc_overrun _ _ _ _ _

theorem writeTo_overrun (inside : Prop) [Decidable inside] (m : Ledger) :
    (writeTo inside m).overrun = false ↔ m.overrun = false ∧ inside := by
  simp [writeTo]

/-- Up to the first that fails, which may be anything, all fit. -/
def EachReached (failed fits : α → Prop) : List α → Prop
  | [] => True
  | x :: xs => failed x ∨ fits x ∧ EachReached failed fits xs

/-- The status of a loop over the properties. -/
def propsRet (answer : PropAnswers → Answer PropView) (bodyRet : PropAnswers → PropView → ℤ) :
    List PropAnswers → ℤ → ℤ
  | [], ret => ret
  | p :: props, _ =>
    if (answer p).ret ≠ 0 then (answer p).ret
    else propsRet answer bodyRet props (((answer p).object.map (bodyRet p)).getD 0)

section Props

variable {answer : PropAnswers → Answer PropView}
  {body : PropAnswers → PropView → σ → Ledger → Option (ℤ × σ × Ledger)}
  {bodyRet : PropAnswers → PropView → ℤ} {bodyFits : PropAnswers → PropView → Prop}

theorem forProps_ret (hbody : ∀ {p prop s m r}, body p prop s m = some r → r.1 = bodyRet p prop) :
    ∀ {props ret s m r}, forProps answer body props ret s m = some r →
      r.1 = propsRet answer bodyRet props ret
  | [], _, _, m, _, h => by
    obtain rfl := Option.some.inj h
    rfl
  | p :: props, _, s, m, r, h => by
    unfold forProps at h
    unfold propsRet
    dsimp only at h
    split_ifs at h with hret
    · obtain rfl := Option.some.inj h
      rw [if_pos hret]
    · obtain ⟨prop, hprop, h⟩ := Option.bind_eq_some_iff.1 h
      obtain ⟨⟨ret, s', m'⟩, hb, h⟩ := Option.bind_eq_some_iff.1 h
      rw [if_neg hret, forProps_ret hbody h, hprop, Option.map_some, Option.getD_some, ← hbody hb]

theorem forProps_clean
    (hbody : ∀ p prop s m, Clean (body p prop s m) ↔ m.overrun = false ∧ bodyFits p prop) :
    ∀ props ret s m, Clean (forProps answer body props ret s m) ↔ m.overrun = false
      ∧ EachReached (fun p => (answer p).ret ≠ 0)
          (fun p => ∃ prop, (answer p).object = some prop ∧ bodyFits p prop) props
  | [], _, _, m => by
    rw [forProps, clean_some, EachReached, and_true]
  | p :: props, _, s, m => by
    unfold forProps EachReached
    dsimp only
    have hm := handOut_overrun (answer p) m
    split_ifs with hret
    · rw [clean_some, hm]
      exact (and_iff_left (Or.inl hret)).symm
    rcases hobj : (answer p).object with _ | prop
    · exact iff_of_false not_clean_none fun h => by simp [hret] at h
    have hrest : ∀ r : ℤ × σ × Ledger, body p prop s ((answer p).handOut m).2 = some r →
        (Clean (forProps answer body props r.1 r.2.1 (free ((answer p).handOut m).1 r.2.2)) ↔ _) :=
      fun r _ => by rw [forProps_clean hbody, free_overrun]
    rw [Option.bind_some, clean_bind hrest, hbody, hm]
    simp [hret, and_assoc]

end Props

/-- A property that `getConnectorPropBlob` or `getConnectorPropEnum` looks for. -/
def PropView.isNamed (prop : PropView) (name : List Char) : Bool :=
  strncmpEq prop.name name name.length

section Bodies

variable {name : List Char} {p : PropAnswers} {prop : PropView} {m : Ledger}

/-- The status of a blob, if it is the one that is looked for. -/
def blobRet (name : List Char) (p : PropAnswers) (prop : PropView) : ℤ :=
  if isBlob prop.flags && prop.isNamed name then p.blob.ret else 0

/-- If it is the one that is looked for and can be had, there is room for it. -/
def BlobFits (name : List Char) (p : PropAnswers) (prop : PropView) : Prop :=
  isBlob prop.flags && prop.isNamed name → p.blob.ret = 0 →
    ∃ bytes, p.blob.object = some bytes ∧ bytes.length ≤ edidSize

/-- There is room for the name at the index that is the property's value. -/
def NameFits (name : List Char) (p : PropAnswers) (prop : PropView) : Prop :=
  isEnumProp prop.flags && prop.isNamed name && prop.countEnums ≠ 0 →
    (prop.enumName p.value).length < maxNameSize

theorem blobBody_ret {buf : BlobBuffer} {r : ℤ × BlobBuffer × Ledger}
    (h : blobBody name p prop buf m = some r) : r.1 = blobRet name p prop := by
  unfold blobBody at h
  unfold blobRet PropView.isNamed
  dsimp only at h
  split_ifs at h with hname hret
  · obtain rfl := Option.some.inj h
    rw [if_pos hname]
  · obtain ⟨bytes, -, rfl⟩ := Option.map_eq_some_iff.1 h
    rw [if_pos hname]
    exact (not_not.1 hret).symm
  · obtain rfl := Option.some.inj h
    rw [if_neg hname]

theorem blobBody_clean (name : List Char) (p : PropAnswers) (prop : PropView) (buf : BlobBuffer)
    (m : Ledger) :
    Clean (blobBody name p prop buf m) ↔ m.overrun = false ∧ BlobFits name p prop := by
  unfold blobBody BlobFits PropView.isNamed
  dsimp only
  have hm := handOut_overrun p.blob m
  split_ifs with hname hret
  · rw [clean_some, hm]
    exact (and_iff_left fun _ h => absurd h hret).symm
  · rcases hobj : p.blob.object with _ | bytes
    · refine iff_of_false not_clean_none fun h => ?_
      obtain ⟨bytes, hbytes, -⟩ := h.2 hname (not_not.1 hret)
      exact nomatch hbytes
    · rw [Option.map_some, clean_some, free_overrun, writeTo_overrun, hm]
      simp [hname, not_not.1 hret]
  · rw [clean_some]
    exact (and_iff_left fun h => absurd h hname).symm

theorem enumBody_ret {buf : EnumBuffer} {r : ℤ × EnumBuffer × Ledger}
    (h : enumBody name p prop buf m = some r) : r.1 = 0 := by
  unfold enumBody at h
  split_ifs at h <;> obtain rfl := Option.some.inj h <;> rfl

theorem enumBody_clean (name : List Char) (p : PropAnswers) (prop : PropView) (buf : EnumBuffer)
    (m : Ledger) :
    Clean (enumBody name p prop buf m) ↔ m.overrun = false ∧ NameFits name p prop := by
  unfold enumBody NameFits PropView.isNamed
  split_ifs with hname
  · rw [clean_some, writeTo_overrun]
    exact and_congr_right fun _ => ⟨fun h _ => h, fun h => h hname⟩
  · rw [clean_some]
    exact (and_iff_left fun h => absurd h hname).symm

end Bodies

/-! ## One connector -/

namespace ConnectorView

variable (connector : ConnectorView)

def edidRet : ℤ := propsRet (·.blobProp) (blobRet "EDID".toList) connector.props 0

def dpmsRet : ℤ := propsRet (·.enumProp) (fun _ _ => 0) connector.props 0

def EdidFits : Prop :=
  EachReached (fun p => p.blobProp.ret ≠ 0)
    (fun p => ∃ prop, p.blobProp.object = some prop ∧ BlobFits "EDID".toList p prop) connector.props

def DpmsFits : Prop :=
  EachReached (fun p => p.enumProp.ret ≠ 0)
    (fun p => ∃ prop, p.enumProp.object = some prop ∧ NameFits "DPMS".toList p prop) connector.props

/-- Its encoder and its controller are known, if it has any. -/
def Located : Prop := connector.encoderId = 0 ∨ connector.encoder.ret = 0 ∧ connector.crtc.ret = 0

theorem setMode_ret (dispInfo : DisplayInfo) :
    (connector.setMode dispInfo).1 = 0 ↔ connector.Located := by
  unfold setMode Located
  dsimp only
  split_ifs with hid hencoder hcrtc
  · exact iff_of_true rfl (Or.inl hid)
  · exact iff_of_false hencoder fun h => h.elim hid fun h => hencoder h.1
  · exact iff_of_false hcrtc fun h => h.elim hid fun h => hcrtc h.2
  · exact iff_of_true rfl (Or.inr ⟨not_not.1 hencoder, not_not.1 hcrtc⟩)

/-- The entry of the connector. -/
def entry (edid : BlobBuffer) (dpms : EnumBuffer) : DisplayInfo :=
  (connector.setMode { connector.dispInfo with
    edid := edid.data, edidLen := edid.length, dpmsState := dpms.name, dpmsValue := dpms.value }).2

theorem edid_ret {buf : BlobBuffer} {m : Ledger} {r : ℤ × BlobBuffer × Ledger}
    (h : getConnectorPropBlob connector.props "EDID".toList buf m = some r) :
    r.1 = connector.edidRet := by
  refine forProps_ret ?_ h
  exact blobBody_ret

theorem edid_clean (buf : BlobBuffer) (m : Ledger) :
    Clean (getConnectorPropBlob connector.props "EDID".toList buf m)
      ↔ m.overrun = false ∧ connector.EdidFits :=
  forProps_clean (blobBody_clean "EDID".toList) connector.props 0 buf m

theorem dpms_ret {buf : EnumBuffer} {m : Ledger} {r : ℤ × EnumBuffer × Ledger}
    (h : getConnectorPropEnum connector.props "DPMS".toList buf m = some r) :
    r.1 = connector.dpmsRet := by
  refine forProps_ret ?_ h
  exact enumBody_ret

theorem dpms_clean (buf : EnumBuffer) (m : Ledger) :
    Clean (getConnectorPropEnum connector.props "DPMS".toList buf m)
      ↔ m.overrun = false ∧ connector.DpmsFits :=
  forProps_clean (enumBody_clean "DPMS".toList) connector.props 0 buf m

end ConnectorView

section Connector

variable {resource : ResourceView} {connector : ConnectorView} {obj : Ptr ConnectorView}
  {state : DisplayState} {m : Ledger} {r : ℤ × DisplayState × Ledger}

/-- An entry is added just if the call succeeds. -/
theorem queryConnector_cases (h : queryConnector resource connector obj state m = some r) :
    ¬ (connector.edidRet = 0 ∧ connector.dpmsRet = 0 ∧ connector.Located) ∧ r.1 ≠ 0
        ∧ r.2.1.displayinfo = state.displayinfo
      ∨ (connector.edidRet = 0 ∧ connector.dpmsRet = 0 ∧ connector.Located) ∧ r.1 = 0
        ∧ ∃ ret edid dpms m', getConnectorPropBlob connector.props "EDID".toList {}
            (writeTo (state.aliveConnectorCount < maxDisplayCount) m) = some (ret, edid, m')
          ∧ (r.2.2.overrun = false → m'.overrun = false)
          ∧ r.2.1.displayinfo = state.displayinfo ++ [connector.entry edid dpms] := by
  unfold queryConnector at h
  dsimp only at h
  obtain ⟨⟨ret, edid, m₁⟩, hblob, h⟩ := Option.bind_eq_some_iff.1 h
  have hret : ret = connector.edidRet := connector.edid_ret hblob
  dsimp only at h
  split_ifs at h with hedid
  · obtain rfl := Option.some.inj h
    exact Or.inl ⟨fun hc => hedid (hret.trans hc.1), hedid, rfl⟩
  obtain ⟨⟨ret', dpms, m₂⟩, henum, h⟩ := Option.bind_eq_some_iff.1 h
  have hret' : ret' = connector.dpmsRet := connector.dpms_ret henum
  dsimp only at h
  split_ifs at h with hdpms hmode
  · obtain rfl := Option.some.inj h
    exact Or.inl ⟨fun hc => hdpms (hret'.trans hc.2.1), hdpms, rfl⟩
  · obtain rfl := Option.some.inj h
    exact Or.inl ⟨fun hc => hmode ((connector.setMode_ret _).2 hc.2.2), hmode, rfl⟩
  · obtain rfl := Option.some.inj h
    refine Or.inr ⟨⟨hret ▸ not_not.1 hedid, hret' ▸ not_not.1 hdpms, ?_⟩, rfl, ret, edid, dpms, m₁,
      hblob, fun hm => ?_, rfl⟩
    · exact (connector.setMode_ret _).1 (not_not.1 hmode)
    · rw [free_overrun] at hm
      exact ((connector.dpms_clean _ _).1 ⟨_, henum, hm⟩).1

end Connector

section Connector

variable (resource : ResourceView) (connector : ConnectorView) (obj : Ptr ConnectorView)
  (state : DisplayState) (m : Ledger)

theorem queryConnector_clean : Clean (queryConnector resource connector obj state m)
    ↔ m.overrun = false ∧ state.aliveConnectorCount < maxDisplayCount ∧ connector.EdidFits
      ∧ (connector.edidRet = 0 → connector.DpmsFits) := by
  unfold queryConnector
  dsimp only
  rw [clean_bind (C := connector.edidRet = 0 → connector.DpmsFits)]
  · rw [connector.edid_clean, writeTo_overrun, and_assoc, and_assoc]
    rfl
  rintro ⟨ret, edid, m₁⟩ hblob
  have hret : ret = connector.edidRet := connector.edid_ret hblob
  dsimp only
  split_ifs with hedid
  · rw [clean_some]
    exact (and_iff_left fun h => absurd (hret.trans h) hedid).symm
  rw [clean_bind (C := True), connector.dpms_clean, and_true]
  · exact and_congr_right fun _ => ⟨fun h _ => h, fun h => h (hret ▸ not_not.1 hedid)⟩
  rintro ⟨ret', dpms, m₂⟩ -
  dsimp only
  split_ifs
  · rw [clean_some, and_true]
  · rw [clean_some, and_true]
  · rw [clean_some, free_overrun, and_true]

end Connector

/-! ## The loop -/

/-- What is reached of the connectors finds room, from a number of alive ones on. -/
def ConnectorsFit : ℕ → List (Answer ConnectorView) → Prop
  | _, [] => True
  | alive, a :: answers => a.ret ≠ 0 ∨ ∃ connector, a.object = some connector ∧
      if connector.connection ≠ gpuModeConnected then ConnectorsFit alive answers
      else alive < maxDisplayCount ∧ connector.EdidFits ∧ (connector.edidRet = 0 →
        connector.DpmsFits ∧
          (connector.dpmsRet = 0 → connector.Located → ConnectorsFit (alive + 1) answers))

theorem queryConnectors_clean (resource : ResourceView) : ∀ answers ret state m,
    Clean (queryConnectors resource answers ret state m)
      ↔ m.overrun = false ∧ ConnectorsFit state.aliveConnectorCount answers
  | [], _, _, m => by
    rw [queryConnectors, clean_some, ConnectorsFit, and_true]
  | a :: answers, _, state, m => by
    unfold queryConnectors ConnectorsFit
    dsimp only
    have hm := handOut_overrun a m
    split_ifs with hret
    · rw [clean_some, hm]
      exact (and_iff_left (Or.inl hret)).symm
    rcases hobj : a.object with _ | connector
    · exact iff_of_false not_clean_none fun h => by simp [hret] at h
    rw [Option.bind_some, or_iff_right hret]
    simp only [Option.some.injEq, exists_eq_left']
    split_ifs with hconnected
    · rw [queryConnectors_clean, free_overrun, hm]
    rw [clean_bind (C := connector.edidRet = 0 → connector.dpmsRet = 0 → connector.Located →
      ConnectorsFit (state.aliveConnectorCount + 1) answers), queryConnector_clean, hm]
    · tauto
    rintro ⟨ret, state', m'⟩ hc
    dsimp only
    obtain ⟨hnot, hret', -⟩ | ⟨hdone, hret', ret₀, edid, dpms, m₀, -, -, hinfos⟩ :=
      queryConnector_cases hc
    · rw [if_pos hret', clean_some]
      exact (and_iff_left fun h1 h2 h3 => absurd ⟨h1, h2, h3⟩ hnot).symm
    · have halive : state'.aliveConnectorCount = state.aliveConnectorCount + 1 := by
        unfold DisplayState.aliveConnectorCount
        rw [show state'.displayinfo = _ from hinfos, List.length_append, List.length_singleton]
      rw [if_neg (not_not.2 hret'), queryConnectors_clean, halive]
      exact and_congr_right fun _ =>
        ⟨fun h _ _ _ => h, fun h => h hdone.1 hdone.2.1 hdone.2.2⟩

/-! ## The entries -/

/-- The buffer holds what the length says of a blob of one of the properties. -/
structure BlobBuffer.Kept (buf : BlobBuffer) (props : List PropAnswers) : Prop where
  size : buf.data.length ≤ edidSize
  kept : ∃ bytes, (bytes = [] ∨ ∃ p ∈ props, p.blob.object = some bytes)
    ∧ bytes <+: buf.data ∧ buf.length.toNat = bytes.length

theorem BlobBuffer.Kept.empty (props : List PropAnswers) : BlobBuffer.Kept {} props :=
  ⟨Nat.zero_le _, [], Or.inl rfl, List.nil_prefix, rfl⟩

theorem BlobBuffer.Kept.copy {buf : BlobBuffer} {props : List PropAnswers} (h : buf.Kept props)
    {p : PropAnswers} {bytes : List UInt8} (hp : p ∈ props) (hobj : p.blob.object = some bytes)
    (hsize : bytes.length ≤ edidSize) : (buf.copy bytes).Kept props := by
  refine ⟨?_, bytes, Or.inr ⟨p, hp, hobj⟩, List.prefix_append _ _, ?_⟩
  · have hdata := h.size
    simp only [BlobBuffer.copy, List.length_append, List.length_drop]
    omega
  · have hlt : bytes.length < 2 ^ 32 := lt_of_le_of_lt hsize (by decide)
    simp only [BlobBuffer.copy, UInt32.toNat_ofNat']
    exact Nat.mod_eq_of_lt hlt

section Blob

variable {name : List Char} {props : List PropAnswers}

theorem blobBody_kept {p : PropAnswers} {prop : PropView} {buf : BlobBuffer} {m : Ledger}
    {r : ℤ × BlobBuffer × Ledger} (hbody : blobBody name p prop buf m = some r)
    (hm : r.2.2.overrun = false) (hp : p ∈ props) (h : buf.Kept props) : r.2.1.Kept props := by
  have hfits := ((blobBody_clean name p prop buf m).1 ⟨r, hbody, hm⟩).2
  unfold blobBody at hbody
  dsimp only at hbody
  split_ifs at hbody with hname hret
  · obtain rfl := Option.some.inj hbody
    exact h
  · obtain ⟨bytes, hobj, rfl⟩ := Option.map_eq_some_iff.1 hbody
    obtain ⟨bytes', hobj', hsize⟩ := hfits hname (not_not.1 hret)
    obtain rfl := Option.some.inj (hobj.symm.trans hobj')
    exact h.copy hp hobj hsize
  · obtain rfl := Option.some.inj hbody
    exact h

theorem forProps_kept {ret : ℤ} {m : Ledger} {r : ℤ × BlobBuffer × Ledger}
    (h : forProps (·.blobProp) (blobBody name) props ret {} m = some r)
    (hm : r.2.2.overrun = false) : r.2.1.Kept props := by
  refine forProps_keeps (I := fun buf m => m.overrun = false → buf.Kept props) ?_ ?_
    (List.Subset.refl props) h (fun _ => BlobBuffer.Kept.empty props) hm
  · intro p buf m _ _ hbuf hm
    rw [handOut_overrun] at hm
    exact hbuf hm
  · intro p prop buf m r hp hb hbuf hm
    rw [free_overrun] at hm
    have hm' := ((blobBody_clean name p prop buf _).1 ⟨r, hb, hm⟩).1
    rw [handOut_overrun] at hm'
    exact blobBody_kept hb hm hp (hbuf hm')

end Blob

/-- The entry's `edid` holds `edid_len` bytes of a blob that the connector's kernel reported. -/
def DisplayInfo.KeptOf (dispInfo : DisplayInfo) (connector : ConnectorView) : Prop :=
  BlobBuffer.Kept ⟨dispInfo.edid, dispInfo.edidLen⟩ connector.props

theorem ConnectorView.setMode_edid (connector : ConnectorView) (dispInfo : DisplayInfo) :
    (connector.setMode dispInfo).2.edid = dispInfo.edid
      ∧ (connector.setMode dispInfo).2.edidLen = dispInfo.edidLen := by
  unfold setMode
  dsimp only
  split_ifs <;> exact ⟨rfl, rfl⟩

theorem ConnectorView.entry_kept {connector : ConnectorView} {edid : BlobBuffer} (dpms : EnumBuffer)
    (h : edid.Kept connector.props) : (connector.entry edid dpms).KeptOf connector := by
  unfold DisplayInfo.KeptOf entry
  rwa [(connector.setMode_edid _).1, (connector.setMode_edid _).2]

/-- What is alive has room, and each entry is that of a reported connector. -/
structure DisplayState.Inside (state : DisplayState) (connectors : List (Answer ConnectorView)) :
    Prop where
  alive : state.aliveConnectorCount ≤ maxDisplayCount
  kept : ∀ dispInfo ∈ state.displayinfo, ∃ a ∈ connectors, ∃ connector, a.object = some connector
    ∧ dispInfo.KeptOf connector

theorem queryConnector_inside {resource : ResourceView} {all : List (Answer ConnectorView)}
    {a : Answer ConnectorView} {connector : ConnectorView} {obj : Ptr ConnectorView}
    {state : DisplayState} {m : Ledger} {r : ℤ × DisplayState × Ledger} (ha : a ∈ all)
    (hobj : a.object = some connector) (h : queryConnector resource connector obj state m = some r)
    (hm : r.2.2.overrun = false) (hs : state.Inside all) : r.2.1.Inside all := by
  have hroom := ((queryConnector_clean resource connector obj state m).1 ⟨r, h, hm⟩).2.1
  obtain ⟨-, -, hinfos⟩ | ⟨-, -, ret, edid, dpms, m', hblob, hm', hinfos⟩ :=
    queryConnector_cases h
  · exact ⟨by rw [DisplayState.aliveConnectorCount, hinfos]; exact hs.alive, hinfos ▸ hs.kept⟩
  have hedid := forProps_kept hblob (hm' hm)
  refine ⟨?_, fun dispInfo hmem => ?_⟩
  · rw [DisplayState.aliveConnectorCount, hinfos, List.length_append]
    exact hroom
  · rw [hinfos] at hmem
    rcases List.mem_append.1 hmem with hmem | hmem
    · exact hs.kept dispInfo hmem
    · obtain rfl := List.mem_singleton.1 hmem
      exact ⟨a, ha, connector, hobj, ConnectorView.entry_kept dpms hedid⟩

theorem queryConnectors_inside {resource : ResourceView} {answers : List (Answer ConnectorView)}
    {ret : ℤ} {state : DisplayState} {m : Ledger} {r : ℤ × DisplayState × Ledger}
    (h : queryConnectors resource answers ret state m = some r) (hm : r.2.2.overrun = false)
    (hs : state.Inside answers) : r.2.1.Inside answers := by
  refine queryConnectors_keeps (I := fun state m => m.overrun = false → state.Inside answers)
    ?_ ?_ ?_ (List.Subset.refl answers) h (fun _ => hs) hm
  · intro a state m hs hm
    rw [handOut_overrun] at hm
    exact hs hm
  · intro a state m hs hm
    rw [free_overrun, handOut_overrun] at hm
    exact hs hm
  · intro a connector state m r ha hobj hc hs hm
    have hm' := ((queryConnector_clean _ _ _ _ _).1 ⟨r, hc, hm⟩).1
    rw [handOut_overrun] at hm'
    exact queryConnector_inside ha hobj hc hm (hs hm')

/-! ## The query -/

/-- What the calls of the loop answer, for a resource. -/
def DisplayAnswers.reported (call : DisplayAnswers) (res : ResourceView) :
    List (Answer ConnectorView) :=
  (List.range res.connectorCount).map call.connectors

/-- There is a resource that can be used, or an error, and the connectors fit. -/
def DisplayAnswers.Fits (call : DisplayAnswers) (resource : Option ResourceView) : Prop :=
  call.resource.ret ≠ 0 ∨ ∃ res, call.stored resource = some res
    ∧ ¬ (res.freed ∧ res.connectorCount ≠ 0) ∧ ConnectorsFit 0 (call.reported res)

/-- The call returns, and it has written only inside `display_state`. -/
def StaysInside (resource : Option ResourceView) (call : DisplayAnswers) : Prop :=
  ∃ q, queryDisplayInfo resource call {} = some q ∧ q.m.overrun = false
    ∧ q.displayState.Inside ((q.resource.map call.reported).getD [])

/-- A query stays inside `display_state` just if what is reported fits. -/
theorem query_display_info_inside (resource : Option ResourceView) (call : DisplayAnswers) :
    StaysInside resource call ↔ call.Fits resource := by
  have hempty : ∀ connectors, DisplayState.Inside { valid := true } connectors := fun _ =>
    ⟨Nat.zero_le _, fun _ h => nomatch h⟩
  have hm : (call.resource.handOut {}).2.overrun = false := handOut_overrun _ _
  unfold StaysInside DisplayAnswers.Fits queryDisplayInfo
  dsimp only
  split_ifs with hret
  · exact iff_of_true ⟨_, rfl, hm, hempty _⟩ (Or.inl hret)
  rw [or_iff_right hret]
  rcases call.stored resource with _ | res
  · exact iff_of_false (fun ⟨_, h, _⟩ => nomatch h) fun ⟨_, h, _⟩ => nomatch h
  rw [Option.bind_some]
  have hclean := queryConnectors_clean res (call.reported res) 0 { valid := true }
    (call.resource.handOut {}).2
  rw [and_iff_right hm] at hclean
  simp only [Option.some.injEq, exists_eq_left', Bool.and_eq_true, decide_eq_true_eq]
  split_ifs with hfreed
  · exact iff_of_false (fun ⟨_, h, _⟩ => nomatch h) fun h => h.1 hfreed
  rw [and_iff_right hfreed]
  constructor
  · rintro ⟨q, hq, hqm, -⟩
    obtain ⟨r, hr, rfl⟩ := Option.map_eq_some_iff.1 hq
    exact hclean.1 ⟨r, hr, hqm⟩
  · intro hfits
    obtain ⟨r, hr, hrm⟩ := hclean.2 hfits
    exact ⟨_, Option.map_eq_some_iff.2 ⟨r, hr, rfl⟩, hrm,
      queryConnectors_inside hr hrm (hempty _)⟩

section Example

/-- A connected connector without properties and without an encoder. -/
def plainConnector : ConnectorView where
  connection := gpuModeConnected
  modeCount := 1
  mmWidth := 600
  mmHeight := 340
  connectorId := 77
  connectorType := 10
  connectorTypeId := 1
  encoderId := 0
  props := []
  encoder := ⟨0, 0, 0⟩
  crtc := ⟨0, 0, 0, 0, 0⟩

/-- Nine of them. -/
def nineConnected : DisplayAnswers where
  resource := ⟨0, some { connectorCount := 9, encoderCount := 6, crtcsCount := 6, fbCount := 0 }⟩
  connectors _ := ⟨0, some plainConnector⟩

/-- The ninth entry lies behind the array. -/
theorem query_display_info_outside : ¬ StaysInside none nineConnected := by
  rintro ⟨q, hq, hm, -⟩
  have h : (queryDisplayInfo none nineConnected {}).map (·.m.overrun) = some true := rfl
  rw [hq, Option.map_some, hm] at h
  exact nomatch h

end Example

end Amdtop
