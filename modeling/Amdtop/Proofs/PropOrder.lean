import Amdtop.Proofs.DisplayRoom

/-!
# The order of a connector's properties

`getConnectorPropBlob` forgets that a blob could not be had if another property follows
(`getConnectorPropBlob_perm_iff`).
-/

namespace Amdtop

open Heap Stdio

/-- The call succeeds, with an object. -/
def Answer.Fetched {α : Type} (a : Answer α) : Prop := a.ret = 0 ∧ a.object.isSome = true

section Blob

variable (name : List Char)

/-- A property that passes the comparison: a blob whose name begins with the one looked for. -/
def PropAnswers.isBlobNamed (p : PropAnswers) : Bool :=
  p.blobProp.object.any fun prop => isBlob prop.flags && prop.isNamed name

/-- The status after it. -/
def PropAnswers.blobStatus (p : PropAnswers) : ℤ := if p.isBlobNamed name then p.blob.ret else 0

/-- What is copied. -/
def PropAnswers.blobBytes (p : PropAnswers) : Option (List UInt8) :=
  if p.isBlobNamed name && p.blob.ret = 0 then p.blob.object else none

/-- There is no object behind a status of 0. -/
def PropAnswers.blobLost (p : PropAnswers) : Bool :=
  p.isBlobNamed name && p.blob.ret = 0 && p.blob.object.isNone

/-- The status of the last property. -/
def lastStatus (props : List PropAnswers) (ret : ℤ) : ℤ :=
  (props.getLast?.map (·.blobStatus name)).getD ret

/-- The blobs one after the other in the buffer. -/
def BlobBuffer.copies (buf : BlobBuffer) (props : List PropAnswers) : BlobBuffer :=
  (props.filterMap (·.blobBytes name)).foldl (fun buf bytes => buf.copy bytes) buf

/-- The status and the buffer. -/
def blobOutcome (r : ℤ × BlobBuffer × Ledger) : ℤ × BlobBuffer := (r.1, r.2.1)

variable {name}

theorem blobBody_outcome {p : PropAnswers} {prop : PropView} (hprop : p.blobProp.object = some prop)
    (buf : BlobBuffer) (m : Ledger) :
    (blobBody name p prop buf m).map blobOutcome = if p.blobLost name then none
      else some (p.blobStatus name, buf.copies name [p]) := by
  have hnamed : p.isBlobNamed name = (isBlob prop.flags && strncmpEq prop.name name name.length) := by
    unfold PropAnswers.isBlobNamed
    rw [hprop, Option.any_some]
    rfl
  unfold blobBody PropAnswers.blobLost PropAnswers.blobStatus BlobBuffer.copies PropAnswers.blobBytes
  simp only [← hnamed, List.filterMap_cons, List.filterMap_nil]
  by_cases hn : p.isBlobNamed name = true
  · by_cases hret : p.blob.ret = 0
    · rcases hobj : p.blob.object with _ | bytes <;> simp [hn, hret, blobOutcome]
    · simp [hn, hret, blobOutcome]
  · simp [hn, blobOutcome]

theorem copies_cons (buf : BlobBuffer) (p : PropAnswers) (props : List PropAnswers) :
    buf.copies name (p :: props) = (buf.copies name [p]).copies name props := by
  unfold BlobBuffer.copies
  rw [← List.foldl_append, ← List.filterMap_append]
  rfl

theorem lastStatus_cons (p : PropAnswers) (props : List PropAnswers) (ret : ℤ) :
    lastStatus name (p :: props) ret = lastStatus name props (p.blobStatus name) := by
  unfold lastStatus
  rw [List.getLast?_cons]
  rcases props.getLast? with _ | q <;> rfl

/-- The loop over properties that can all be fetched. -/
theorem forProps_outcome : ∀ (props : List PropAnswers), (∀ p ∈ props, p.blobProp.Fetched) →
    ∀ ret buf m, (forProps (·.blobProp) (blobBody name) props ret buf m).map blobOutcome
      = if props.any (·.blobLost name) then none
        else some (lastStatus name props ret, buf.copies name props)
  | [], _, ret, buf, m => rfl
  | p :: props, hfetched, ret, buf, m => by
    obtain ⟨hret, hobj⟩ := hfetched p List.mem_cons_self
    obtain ⟨prop, hprop⟩ := Option.isSome_iff_exists.1 hobj
    have ih := forProps_outcome props fun q hq => hfetched q (List.mem_cons_of_mem _ hq)
    have hbody : (blobBody name p prop buf (p.blobProp.handOut m).2).map blobOutcome = _ :=
      blobBody_outcome hprop buf (p.blobProp.handOut m).2
    rw [forProps]
    dsimp only
    rw [if_neg (not_not.2 hret), hprop, Option.bind_some, List.any_cons, copies_cons,
      lastStatus_cons]
    by_cases hlost : p.blobLost name = true
    · rw [if_pos hlost, Option.map_eq_none_iff] at hbody
      rw [hbody, hlost]
      rfl
    · rw [if_neg hlost] at hbody
      obtain ⟨⟨status, buf', m'⟩, hsome, heq⟩ := Option.map_eq_some_iff.1 hbody
      obtain ⟨rfl, rfl⟩ := Prod.mk.inj heq
      rw [hsome, Option.bind_some, ih, Bool.eq_false_of_not_eq_true hlost, Bool.false_or]

section Order

variable {props props' : List PropAnswers} {p : PropAnswers}

/-- Two orders of the same properties: the outcome is the same if there is none, or the last
properties leave the same status and the blobs, in order, the same bytes. -/
theorem outcome_perm_iff (hperm : props.Perm props') (hfetched : ∀ q ∈ props, q.blobProp.Fetched)
    (buf : BlobBuffer) (m m' : Ledger) :
    (getConnectorPropBlob props name buf m).map blobOutcome
        = (getConnectorPropBlob props' name buf m').map blobOutcome
      ↔ props.any (·.blobLost name) = true ∨ (lastStatus name props 0 = lastStatus name props' 0
        ∧ buf.copies name props = buf.copies name props') := by
  have hfetched' : ∀ q ∈ props', q.blobProp.Fetched := fun q hq => hfetched q (hperm.mem_iff.2 hq)
  unfold getConnectorPropBlob
  rw [forProps_outcome props hfetched, forProps_outcome props' hfetched', ← hperm.any_eq]
  by_cases hlost : props.any (·.blobLost name) = true
  · simp [hlost]
  · simp [hlost]

theorem isBlobNamed_of_one (hone : props.filter (·.isBlobNamed name) = [p]) :
    p.isBlobNamed name = true := by
  have hmem : p ∈ props.filter (·.isBlobNamed name) := by rw [hone]; exact List.mem_singleton_self p
  exact (List.mem_filter.1 hmem).2

theorem blobLost_of_one (hone : props.filter (·.isBlobNamed name) = [p]) :
    props.any (·.blobLost name) = p.blobLost name := by
  have hfilter : (props.filter (·.isBlobNamed name)).any (·.blobLost name)
      = props.any (·.blobLost name) := by
    rw [List.any_filter]
    congr 1
    funext q
    unfold PropAnswers.blobLost
    rcases q.isBlobNamed name <;> rfl
  rw [← hfilter, hone, List.any_cons, List.any_nil, Bool.or_false]

theorem copies_of_one (hone : props.filter (·.isBlobNamed name) = [p]) (buf : BlobBuffer) :
    buf.copies name props = buf.copies name [p] := by
  have hfilter : (props.filter (·.isBlobNamed name)).filterMap (·.blobBytes name)
      = props.filterMap (·.blobBytes name) := by
    rw [List.filterMap_filter]
    congr 1
    funext q
    unfold PropAnswers.blobBytes
    rcases q.isBlobNamed name <;> rfl
  unfold BlobBuffer.copies
  rw [← hfilter, hone]

/-- The blob's status is that of the loop if no property follows. -/
theorem lastStatus_of_one (hone : props.filter (·.isBlobNamed name) = [p]) :
    (props.getLast? = some p → lastStatus name props 0 = p.blob.ret)
      ∧ (props.getLast? ≠ some p → lastStatus name props 0 = 0) := by
  unfold lastStatus PropAnswers.blobStatus
  constructor
  · intro hlast
    rw [hlast, Option.map_some, Option.getD_some, if_pos (isBlobNamed_of_one hone)]
  · intro hlast
    rcases hq : props.getLast? with _ | q
    · rfl
    · have hnamed : ¬ q.isBlobNamed name = true := fun hnamed => by
        have hmem := List.mem_filter.2 ⟨List.mem_of_getLast? hq, hnamed⟩
        rw [hone, List.mem_singleton] at hmem
        exact hlast (hmem ▸ hq)
      rw [Option.map_some, Option.getD_some, if_neg hnamed]

/-- For every two orders of the properties of a connector: the outcome is the same just if the last
properties leave the same status and the blobs the same bytes, or there is none. If one property
passes the comparison: just if its blob can be had, or it is the last in both or in neither. -/
theorem getConnectorPropBlob_perm_iff (hperm : props.Perm props')
    (hfetched : ∀ q ∈ props, q.blobProp.Fetched) (buf : BlobBuffer) (m m' : Ledger) :
    ((getConnectorPropBlob props name buf m).map blobOutcome
        = (getConnectorPropBlob props' name buf m').map blobOutcome
      ↔ props.any (·.blobLost name) = true ∨ (lastStatus name props 0 = lastStatus name props' 0
        ∧ buf.copies name props = buf.copies name props'))
    ∧ ∀ p, props.filter (·.isBlobNamed name) = [p] →
      ((getConnectorPropBlob props name buf m).map blobOutcome
          = (getConnectorPropBlob props' name buf m').map blobOutcome
        ↔ p.blob.ret = 0 ∨ (props.getLast? = some p ↔ props'.getLast? = some p)) := by
  refine ⟨outcome_perm_iff hperm hfetched buf m m', fun p hone => ?_⟩
  have hone' : props'.filter (·.isBlobNamed name) = [p] :=
    (List.perm_singleton.1 (hone ▸ (hperm.filter _).symm))
  rw [outcome_perm_iff hperm hfetched, blobLost_of_one hone, copies_of_one hone,
    copies_of_one hone']
  obtain ⟨hlast, hother⟩ := lastStatus_of_one hone
  obtain ⟨hlast', hother'⟩ := lastStatus_of_one hone'
  by_cases hblob : p.blob.ret = 0
  · have hzero : lastStatus name props 0 = lastStatus name props' 0 := by
      by_cases h : props.getLast? = some p <;> by_cases h' : props'.getLast? = some p <;>
        simp [hlast, hlast', hother, hother', h, h', hblob]
    simp [hzero, hblob]
  · have hlost : ¬ p.blobLost name = true := by simp [PropAnswers.blobLost, hblob]
    by_cases h : props.getLast? = some p <;> by_cases h' : props'.getLast? = some p <;>
      simp [hlast, hlast', hother, hother', h, h', hblob, hlost, eq_comm]

end Order

end Blob

/-- The EDID of a display that has none: its blob cannot be had. -/
def unreadableEdid : PropAnswers where
  value := 0
  blobProp := ⟨0, some ⟨16, "EDID".toList, 0, fun _ => []⟩⟩
  blob := ⟨-1, none⟩
  enumProp := ⟨0, none⟩

def dpmsProp : PropAnswers where
  value := 3
  blobProp := ⟨0, some ⟨8, "DPMS".toList, 4, fun _ => []⟩⟩
  blob := ⟨0, none⟩
  enumProp := ⟨0, none⟩

/-- With `DPMS` behind the EDID the status is 0, and with `DPMS` before it -1. -/
theorem getConnectorPropBlob_order :
    (getConnectorPropBlob [unreadableEdid, dpmsProp] "EDID".toList {} {}).map (·.1) = some 0
      ∧ (getConnectorPropBlob [dpmsProp, unreadableEdid] "EDID".toList {} {}).map (·.1)
        = some (-1) := by decide

def linkProp : PropAnswers :=
  { dpmsProp with blobProp := ⟨0, some ⟨8, "link-status".toList, 2, fun _ => []⟩⟩ }

theorem getConnectorPropBlob_perm_last :
    (getConnectorPropBlob [dpmsProp, linkProp, unreadableEdid] "EDID".toList {} {}).map blobOutcome
      = (getConnectorPropBlob [linkProp, dpmsProp, unreadableEdid] "EDID".toList {} {}).map
        blobOutcome :=
  ((getConnectorPropBlob_perm_iff (List.Perm.swap linkProp dpmsProp [unreadableEdid])
    (List.forall_mem_cons.2 ⟨⟨rfl, rfl⟩, List.forall_mem_cons.2 ⟨⟨rfl, rfl⟩,
      List.forall_mem_singleton.2 ⟨rfl, rfl⟩⟩⟩) {} {} {}).2 unreadableEdid rfl).2
    (Or.inr Iff.rfl)

end Amdtop
