import Amdtop.DisplayQuery
import Amdtop.Proofs.Heap

/-!
# What the Display tab's query leaves behind

The query frees the objects it is handed at the end of a loop body, so an early return leaves a
connector, and a call that succeeds leaves nothing but the resource (`queryDisplayInfo_leaves`),
which is never freed (`resource_lives`).
-/

namespace Amdtop

open Heap Stdio

variable {α σ : Type}

/-! ## The loops -/

section Props

variable {answer : PropAnswers → Answer PropView}
  {body : PropAnswers → PropView → σ → Ledger → Option (ℤ × σ × Ledger)}

/-- What a property that is handed out with an error, or looked at and freed, does not change. -/
theorem forProps_keeps {all : List PropAnswers} {I : σ → Ledger → Prop}
    (hhand : ∀ {p s m}, p ∈ all → (answer p).ret ≠ 0 → I s m → I s ((answer p).handOut m).2)
    (hbody : ∀ {p prop s m r}, p ∈ all → body p prop s ((answer p).handOut m).2 = some r →
      I s m → I r.2.1 (free ((answer p).handOut m).1 r.2.2)) :
    ∀ {props ret s m r}, props ⊆ all → forProps answer body props ret s m = some r → I s m →
      I r.2.1 r.2.2
  | [], _, _, _, _, _, h, hs => by
    obtain rfl := Option.some.inj h
    exact hs
  | p :: props, _, s, m, r, hsub, h, hs => by
    unfold forProps at h
    dsimp only at h
    obtain ⟨hp, hsub⟩ := List.cons_subset.1 hsub
    split_ifs at h with hret
    · obtain rfl := Option.some.inj h
      exact hhand hp hret hs
    · obtain ⟨prop, -, h⟩ := Option.bind_eq_some_iff.1 h
      obtain ⟨⟨ret, s', m'⟩, hb, h⟩ := Option.bind_eq_some_iff.1 h
      exact forProps_keeps hhand hbody hsub h (hbody hp hb hs)

end Props

/-- What a connector handed out, a disconnected one, or a connected one does not change is kept. -/
theorem queryConnectors_keeps {resource : ResourceView} {all : List (Answer ConnectorView)}
    {I : DisplayState → Ledger → Prop}
    (hhand : ∀ {a : Answer ConnectorView} {state m}, I state m → I state (a.handOut m).2)
    (hfree : ∀ {a : Answer ConnectorView} {state m}, I state m →
      I state (free (a.handOut m).1 (a.handOut m).2))
    (hconnected : ∀ {a connector state m r}, a ∈ all → a.object = some connector →
      queryConnector resource connector (a.handOut m).1 state (a.handOut m).2 = some r →
      I state m → I r.2.1 r.2.2) :
    ∀ {answers ret state m r}, answers ⊆ all →
      queryConnectors resource answers ret state m = some r → I state m → I r.2.1 r.2.2
  | [], _, _, _, _, _, h, hs => by
    obtain rfl := Option.some.inj h
    exact hs
  | a :: answers, _, state, m, r, hsub, h, hs => by
    unfold queryConnectors at h
    dsimp only at h
    obtain ⟨ha, hsub⟩ := List.cons_subset.1 hsub
    split_ifs at h
    · obtain rfl := Option.some.inj h
      exact hhand hs
    obtain ⟨connector, hobj, h⟩ := Option.bind_eq_some_iff.1 h
    split_ifs at h
    · exact queryConnectors_keeps hhand hfree hconnected hsub h (hfree hs)
    obtain ⟨⟨ret, state', m'⟩, hc, h⟩ := Option.bind_eq_some_iff.1 h
    have hs' := hconnected ha hobj hc hs
    dsimp only at h hs'
    split_ifs at h
    · obtain rfl := Option.some.inj h
      exact hs'
    · exact queryConnectors_keeps hhand hfree hconnected hsub h hs'

/-! ## Objects -/

theorem owned_handOut {m : Ledger} {live : Multiset ℕ} (h : Owned m live) (a : Answer α) :
    Owned (a.handOut m).2 ((a.handOut m).1.ids + live) := by
  unfold Answer.handOut
  split
  · rwa [Ptr.ids, zero_add]
  · exact h.calloc _ _ _ _

theorem grows_handOut (a : Answer α) (m : Ledger) : Grows m (a.handOut m).2 :=
  Grows.keep (fun h => owned_handOut h a) (Grows.refl _)

theorem grows_writeTo (inside : Bool) (m : Ledger) : Grows m (writeTo inside m) :=
  fun _ h => ⟨0, by rw [zero_add]; exact ⟨h.balance, h.nodup, h.lt⟩⟩

theorem forProps_grows {answer : PropAnswers → Answer PropView}
    {body : PropAnswers → PropView → σ → Ledger → Option (ℤ × σ × Ledger)}
    (hbody : ∀ {p prop s m r}, body p prop s m = some r → Grows m r.2.2)
    {props : List PropAnswers} {ret : ℤ} {s : σ} {m : Ledger} {r : ℤ × σ × Ledger}
    (h : forProps answer body props ret s m = some r) : Grows m r.2.2 := by
  refine forProps_keeps (I := fun _ m' => Grows m m') (fun _ _ hm => hm.trans (grows_handOut _ _))
    (fun _ hb hm => hm.trans ?_) (List.Subset.refl props) h (Grows.refl m)
  exact Grows.free (fun hm => owned_handOut hm _) (hbody hb)

theorem blobBody_grows {name : List Char} {p : PropAnswers} {prop : PropView} {buf : BlobBuffer}
    {m : Ledger} {r : ℤ × BlobBuffer × Ledger} (h : blobBody name p prop buf m = some r) :
    Grows m r.2.2 := by
  unfold blobBody at h
  dsimp only at h
  split_ifs at h
  · obtain rfl := Option.some.inj h
    exact grows_handOut _ m
  · obtain ⟨bytes, -, rfl⟩ := Option.map_eq_some_iff.1 h
    exact Grows.free (fun hm => owned_handOut hm _) (grows_writeTo _ _)
  · obtain rfl := Option.some.inj h
    exact Grows.refl m

theorem enumBody_grows {name : List Char} {p : PropAnswers} {prop : PropView} {buf : EnumBuffer}
    {m : Ledger} {r : ℤ × EnumBuffer × Ledger} (h : enumBody name p prop buf m = some r) :
    Grows m r.2.2 := by
  unfold enumBody at h
  split_ifs at h
  · obtain rfl := Option.some.inj h
    exact grows_writeTo _ m
  · obtain rfl := Option.some.inj h
    exact Grows.refl m

section Connectors

variable {resource : ResourceView}

/-- An early return leaves the connector. -/
theorem queryConnector_grows {connector : ConnectorView} {a : Answer ConnectorView}
    {state : DisplayState} {m : Ledger} {r : ℤ × DisplayState × Ledger}
    (h : queryConnector resource connector (a.handOut m).1 state (a.handOut m).2 = some r) :
    Grows m r.2.2 := by
  unfold queryConnector at h
  dsimp only at h
  obtain ⟨⟨ret, edid, m₁⟩, hblob, h⟩ := Option.bind_eq_some_iff.1 h
  have hm₁ := (grows_writeTo _ _).trans (forProps_grows blobBody_grows hblob)
  dsimp only at h hm₁
  split_ifs at h
  · obtain rfl := Option.some.inj h
    exact Grows.keep (fun hm => owned_handOut hm a) hm₁
  obtain ⟨⟨ret', dpms, m₂⟩, henum, h⟩ := Option.bind_eq_some_iff.1 h
  have hm₂ := hm₁.trans (forProps_grows enumBody_grows henum)
  dsimp only at h hm₂
  split_ifs at h
  · obtain rfl := Option.some.inj h
    exact Grows.keep (fun hm => owned_handOut hm a) hm₂
  · obtain rfl := Option.some.inj h
    exact Grows.keep (fun hm => owned_handOut hm a) hm₂
  · obtain rfl := Option.some.inj h
    exact Grows.free (fun hm => owned_handOut hm a) hm₂

theorem queryConnectors_grows {answers : List (Answer ConnectorView)} {ret : ℤ}
    {state : DisplayState} {m : Ledger} {r : ℤ × DisplayState × Ledger}
    (h : queryConnectors resource answers ret state m = some r) : Grows m r.2.2 := by
  refine queryConnectors_keeps (I := fun _ m' => Grows m m')
    (fun hm => hm.trans (grows_handOut _ _)) (fun hm => hm.trans ?_)
    (fun _ _ hc hm => hm.trans (queryConnector_grows hc)) (List.Subset.refl answers) h (Grows.refl m)
  exact Grows.free (fun hm => owned_handOut hm _) (Grows.refl _)

end Connectors

/-! ## The resource -/

section Resource

variable {resource : Option ResourceView} {call : DisplayAnswers} {m : Ledger} {q : DisplayQuery}

/-- All that the call leaves live, the resource among it. -/
theorem queryDisplayInfo_owned {live : Multiset ℕ} (hm : Owned m live)
    (h : queryDisplayInfo resource call m = some q) :
    ∃ extra, Owned q.m (extra + ((call.resource.handOut m).1.ids + live)) := by
  unfold queryDisplayInfo at h
  dsimp only at h
  split_ifs at h
  · obtain rfl := Option.some.inj h
    exact ⟨0, by rw [zero_add]; exact owned_handOut hm _⟩
  · obtain ⟨res, -, h⟩ := Option.bind_eq_some_iff.1 h
    split_ifs at h
    obtain ⟨r, hr, rfl⟩ := Option.map_eq_some_iff.1 h
    exact queryConnectors_grows hr _ (owned_handOut hm _)

/-- Without a resource the call asks for nothing else. -/
theorem queryDisplayInfo_none (hcall : call.resource.object = none)
    (h : queryDisplayInfo none call m = some q) : q.m = m ∧ q.resource = none := by
  unfold queryDisplayInfo Answer.handOut DisplayAnswers.stored at h
  rw [hcall] at h
  dsimp only at h
  split_ifs at h
  · obtain rfl := Option.some.inj h
    exact ⟨rfl, rfl⟩
  · exact nomatch h

theorem queryDisplayInfos_owned : ∀ {calls : List DisplayAnswers} {resource : Option ResourceView}
    {m m' : Ledger} {live : Multiset ℕ}, Owned m live →
    queryDisplayInfos calls resource m = some m' → ∃ extra, Owned m' (extra + live)
  | [], _, m, _, live, hm, h => by
    obtain rfl := Option.some.inj h
    exact Grows.refl m live hm
  | call :: calls, resource, m, m', live, hm, h => by
    obtain ⟨q, hq, h⟩ := Option.bind_eq_some_iff.1 h
    obtain ⟨extra, hqm⟩ := queryDisplayInfo_owned hm hq
    obtain ⟨extra', hm'⟩ := queryDisplayInfos_owned hqm h
    exact ⟨extra' + (extra + (call.resource.handOut m).1.ids), by rwa [add_assoc, add_assoc]⟩

/-- A resource that is handed out is never freed. -/
theorem resource_lives : ∀ {calls : List DisplayAnswers} {resource : Option ResourceView}
    {m m' : Ledger} {live : Multiset ℕ}, Owned m live →
    queryDisplayInfos calls resource m = some m' →
    (∃ call ∈ calls, call.resource.object ≠ none) → ∃ i ∈ m'.allocs, i ∉ m'.frees
  | [], _, _, _, _, _, _, ⟨_, hmem, _⟩ => nomatch hmem
  | call :: calls, resource, m, m', live, hm, h, ⟨call', hmem, hcall⟩ => by
    obtain ⟨q, hq, hrest⟩ := Option.bind_eq_some_iff.1 h
    obtain ⟨extra, hqm⟩ := queryDisplayInfo_owned hm hq
    rcases List.mem_cons.1 hmem with rfl | hmem
    · obtain ⟨res, hres⟩ := Option.ne_none_iff_exists'.1 hcall
      obtain ⟨extra', hm'⟩ := queryDisplayInfos_owned hqm hrest
      refine ⟨m.calls, hm'.live_mem ?_⟩
      unfold Answer.handOut
      rw [hres]
      simp [calloc, Ptr.ids]
    · exact resource_lives hqm hrest ⟨call', hmem, hcall⟩

theorem queryDisplayInfos_none : ∀ {calls : List DisplayAnswers} {m m' : Ledger},
    (∀ call ∈ calls, call.resource.object = none) → queryDisplayInfos calls none m = some m' →
    m' = m
  | [], _, _, _, h => (Option.some.inj h).symm
  | call :: calls, m, m', hcalls, h => by
    obtain ⟨q, hq, h⟩ := Option.bind_eq_some_iff.1 h
    obtain ⟨hqm, hresource⟩ := queryDisplayInfo_none (hcalls call List.mem_cons_self) hq
    rw [hqm, hresource] at h
    exact queryDisplayInfos_none (fun c hc => hcalls c (List.mem_cons_of_mem call hc)) h

end Resource

/-- Over any number of calls that return, every object that was handed out is freed exactly once
just if no resource was handed out. -/
theorem display_objects_freed {calls : List DisplayAnswers} {m : Ledger}
    (h : queryDisplayInfos calls none {} = some m) :
    (∀ i ∈ m.allocs, m.frees.count i = 1)
      ↔ ∀ call ∈ calls, call.resource.object = none := by
  constructor
  · intro hfreed call hmem
    by_contra hcall
    obtain ⟨i, hi, hnot⟩ := resource_lives Owned.empty h ⟨call, hmem, hcall⟩
    have hcount := hfreed i hi
    rw [List.count_eq_zero_of_not_mem hnot] at hcount
    exact absurd hcount zero_ne_one
  · intro hcalls
    obtain rfl := queryDisplayInfos_none hcalls h
    exact fun i hi => nomatch hi

section Example

/-- A card without connectors. -/
def noConnectors : DisplayAnswers where
  resource := ⟨0, some { connectorCount := 0, encoderCount := 1, crtcsCount := 1, fbCount := 0 }⟩
  connectors _ := ⟨-1, none⟩

/-- Each call leaves one resource more. -/
theorem display_objects_left :
    ∃ m, queryDisplayInfos [noConnectors, noConnectors] none {} = some m
      ∧ ¬ ∀ i ∈ m.allocs, m.frees.count i = 1 :=
  ⟨{ calls := 2, allocs := [1, 0] }, rfl, by decide⟩

theorem display_objects_freed_two :
    (∀ i ∈ [1, 0], ([] : List ℕ).count i = 1)
      ↔ ∀ call ∈ [noConnectors, noConnectors], call.resource.object = none :=
  display_objects_freed (m := { calls := 2, allocs := [1, 0] }) rfl

end Example

/-! ## A call that succeeds -/

/-- What fails hands out nothing. -/
def Answer.Clear (a : Answer α) : Prop := a.ret ≠ 0 → a.object = none

def PropAnswers.Clear (p : PropAnswers) : Prop :=
  p.blobProp.Clear ∧ p.blob.Clear ∧ p.enumProp.Clear

theorem Answer.Clear.handOut {a : Answer α} (h : a.Clear) (hret : a.ret ≠ 0) (m : Ledger) :
    a.handOut m = (none, m) := by
  unfold Answer.handOut
  rw [h hret]

section Even

variable {live : Multiset ℕ}

theorem owned_writeTo {m : Ledger} (h : Owned m live) (inside : Bool) :
    Owned (writeTo inside m) live :=
  ⟨h.balance, h.nodup, h.lt⟩

theorem forProps_owned {answer : PropAnswers → Answer PropView}
    {body : PropAnswers → PropView → σ → Ledger → Option (ℤ × σ × Ledger)}
    {props : List PropAnswers} (hclear : ∀ p ∈ props, (answer p).Clear)
    (hbody : ∀ {p prop s m r live}, p ∈ props → body p prop s m = some r → Owned m live →
      Owned r.2.2 live) {ret : ℤ} {s : σ} {m : Ledger} {r : ℤ × σ × Ledger}
    (h : forProps answer body props ret s m = some r) (hm : Owned m live) : Owned r.2.2 live := by
  refine forProps_keeps (I := fun _ m => Owned m live) (fun hp hret hm => ?_)
    (fun hp hb hm => Owned.free (hbody hp hb (owned_handOut hm _))) (List.Subset.refl props) h hm
  rwa [(hclear _ hp).handOut hret]

theorem blobBody_owned {name : List Char} {p : PropAnswers} {prop : PropView} {buf : BlobBuffer}
    {m : Ledger} {r : ℤ × BlobBuffer × Ledger} (hclear : p.blob.Clear)
    (h : blobBody name p prop buf m = some r) (hm : Owned m live) : Owned r.2.2 live := by
  unfold blobBody at h
  dsimp only at h
  split_ifs at h with hname hret
  · obtain rfl := Option.some.inj h
    rwa [hclear.handOut hret]
  · obtain ⟨bytes, -, rfl⟩ := Option.map_eq_some_iff.1 h
    exact Owned.free (owned_writeTo (owned_handOut hm _) _)
  · obtain rfl := Option.some.inj h
    exact hm

theorem enumBody_owned {name : List Char} {p : PropAnswers} {prop : PropView} {buf : EnumBuffer}
    {m : Ledger} {r : ℤ × EnumBuffer × Ledger} (h : enumBody name p prop buf m = some r)
    (hm : Owned m live) : Owned r.2.2 live := by
  unfold enumBody at h
  split_ifs at h
  · obtain rfl := Option.some.inj h
    exact owned_writeTo hm _
  · obtain rfl := Option.some.inj h
    exact hm

/-- The connector is freed just if the loop goes on. -/
theorem queryConnector_owned {resource : ResourceView} {connector : ConnectorView}
    {obj : Ptr ConnectorView} {state : DisplayState} {m : Ledger} {r : ℤ × DisplayState × Ledger}
    (hclear : ∀ p ∈ connector.props, p.Clear)
    (h : queryConnector resource connector obj state m = some r) (hm : Owned m (obj.ids + live)) :
    Owned r.2.2 (if r.1 = 0 then live else obj.ids + live) := by
  unfold queryConnector at h
  dsimp only at h
  obtain ⟨⟨ret, edid, m₁⟩, hblob, h⟩ := Option.bind_eq_some_iff.1 h
  have hm₁ : Owned m₁ (obj.ids + live) := forProps_owned (fun p hp => (hclear p hp).1)
    (fun hp => blobBody_owned (hclear _ hp).2.1) hblob (owned_writeTo hm _)
  dsimp only at h
  split_ifs at h with hedid
  · obtain rfl := Option.some.inj h
    rwa [if_neg hedid]
  obtain ⟨⟨ret', dpms, m₂⟩, henum, h⟩ := Option.bind_eq_some_iff.1 h
  have hm₂ : Owned m₂ (obj.ids + live) := forProps_owned (fun p hp => (hclear p hp).2.2)
    (fun _ => enumBody_owned) henum hm₁
  dsimp only at h
  split_ifs at h with hdpms hmode
  · obtain rfl := Option.some.inj h
    rwa [if_neg hdpms]
  · obtain rfl := Option.some.inj h
    rwa [if_neg hmode]
  · obtain rfl := Option.some.inj h
    rw [if_pos rfl]
    exact Owned.free hm₂

/-- Neither a connector nor its properties hand out anything with an error. -/
def ConnectorClear (a : Answer ConnectorView) : Prop :=
  a.Clear ∧ ∀ connector, a.object = some connector → ∀ p ∈ connector.props, p.Clear

/-- The connectors are freed if the loop comes to its end. -/
theorem queryConnectors_owned {resource : ResourceView} : ∀ {answers ret state m r},
    (∀ a ∈ answers, ConnectorClear a) →
    queryConnectors resource answers ret state m = some r → r.1 = 0 → Owned m live →
    Owned r.2.2 live
  | [], _, _, _, _, _, h, _, hm => by
    obtain rfl := Option.some.inj h
    exact hm
  | a :: answers, _, state, m, r, hclear, h, hret, hm => by
    obtain ⟨ha, hclear⟩ := List.forall_mem_cons.1 hclear
    unfold queryConnectors at h
    dsimp only at h
    split_ifs at h with hfailed
    · obtain rfl := Option.some.inj h
      exact absurd hret hfailed
    obtain ⟨connector, hobj, h⟩ := Option.bind_eq_some_iff.1 h
    split_ifs at h
    · exact queryConnectors_owned hclear h hret (Owned.free (owned_handOut hm a))
    obtain ⟨⟨ret', state', m'⟩, hc, h⟩ := Option.bind_eq_some_iff.1 h
    have hm' := queryConnector_owned (ha.2 connector hobj) hc (owned_handOut hm a)
    dsimp only at h hm'
    split_ifs at h with hret'
    · obtain rfl := Option.some.inj h
      exact absurd hret hret'
    · rw [if_pos (not_not.1 hret')] at hm'
      exact queryConnectors_owned hclear h hret hm'

/-- A call that returns 0 leaves the resource and nothing else. -/
theorem queryDisplayInfo_leaves {resource : Option ResourceView} {call : DisplayAnswers}
    {m : Ledger} {q : DisplayQuery} (hclear : ∀ i, ConnectorClear (call.connectors i))
    (h : queryDisplayInfo resource call m = some q) (hret : q.ret = 0) (hm : Owned m live) :
    Owned q.m ((call.resource.handOut m).1.ids + live) := by
  unfold queryDisplayInfo at h
  dsimp only at h
  split_ifs at h with hfailed
  · obtain rfl := Option.some.inj h
    exact absurd hret hfailed
  · obtain ⟨res, -, h⟩ := Option.bind_eq_some_iff.1 h
    split_ifs at h
    obtain ⟨r, hr, rfl⟩ := Option.map_eq_some_iff.1 h
    refine queryConnectors_owned (fun a ha => ?_) hr hret (owned_handOut hm _)
    obtain ⟨i, -, rfl⟩ := List.mem_map.1 ha
    exact hclear i

end Even

end Amdtop
