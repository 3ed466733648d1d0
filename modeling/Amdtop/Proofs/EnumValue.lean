import Amdtop.Proofs.DisplayRoom

/-!
# The value of an enumeration

`getConnectorPropEnum` takes the value of a property for the index of its entry
(`getConnectorPropEnum_iff`).
-/

namespace Amdtop

open Heap Stdio

variable {σ : Type}

/-! ## The entries read -/

/-- A property that passes the comparison, and has entries. -/
def PropView.isEnumNamed (prop : PropView) (name : List Char) : Bool :=
  isEnumProp prop.flags && strncmpEq prop.name name name.length && prop.countEnums ≠ 0

/-- An entry read: its index, and the number of entries. -/
structure EnumRead where
  index : UInt64
  count : ℕ

/-- The body with the entries it reads. -/
def enumBodyReads (name : List Char) (p : PropAnswers) (prop : PropView)
    (s : EnumBuffer × List EnumRead) (m : Ledger) :
    Option (ℤ × (EnumBuffer × List EnumRead) × Ledger) :=
  (enumBody name p prop s.1 m).map fun (ret, buf, m) =>
    (ret, (buf, if prop.isEnumNamed name then
      s.2 ++ List.replicate prop.countEnums ⟨p.value, prop.countEnums⟩ else s.2), m)

/-- `getConnectorPropEnum` with the entries it reads. -/
def getConnectorPropEnumReads (props : List PropAnswers) (name : List Char) (buf : EnumBuffer)
    (m : Ledger) : Option (ℤ × (EnumBuffer × List EnumRead) × Ledger) :=
  forProps (·.enumProp) (enumBodyReads name) props 0 (buf, []) m

/-- A log beside the variables of the body makes no difference to the loop. -/
theorem forProps_erase {τ : Type} (answer : PropAnswers → Answer PropView)
    (body : PropAnswers → PropView → σ → Ledger → Option (ℤ × σ × Ledger))
    (body' : PropAnswers → PropView → τ → Ledger → Option (ℤ × τ × Ledger)) (f : τ → σ)
    (h : ∀ p prop t m, (body' p prop t m).map (fun r => (r.1, f r.2.1, r.2.2))
      = body p prop (f t) m) :
    ∀ props ret t m, (forProps answer body' props ret t m).map (fun r => (r.1, f r.2.1, r.2.2))
      = forProps answer body props ret (f t) m
  | [], _, _, _ => rfl
  | p :: props, _, t, m => by
    have ih := forProps_erase answer body body' f h props
    unfold forProps
    dsimp only
    split_ifs
    · rfl
    · rcases (answer p).object with _ | prop
      · rfl
      · rw [Option.bind_some, Option.bind_some, ← h]
        rcases body' p prop t ((answer p).handOut m).2 with _ | ⟨ret, t', m'⟩
        · rfl
        · exact ih _ _ _

theorem getConnectorPropEnum_eq (props : List PropAnswers) (name : List Char) (buf : EnumBuffer)
    (m : Ledger) :
    (getConnectorPropEnumReads props name buf m).map (fun r => (r.1, r.2.1.1, r.2.2))
      = getConnectorPropEnum props name buf m := by
  refine forProps_erase (·.enumProp) (enumBody name) (enumBodyReads name) Prod.fst
    (fun p prop s m => ?_) props 0 (buf, []) m
  unfold enumBodyReads
  rcases enumBody name p prop s.1 m with _ | r <;> rfl

/-- The properties that pass the comparison, up to the first that cannot be fetched. -/
def reachedEnums (name : List Char) : List PropAnswers → List (PropAnswers × PropView)
  | [] => []
  | p :: props =>
    if p.enumProp.ret ≠ 0 then []
    else match p.enumProp.object with
      | none => []
      | some prop =>
        if prop.isEnumNamed name then (p, prop) :: reachedEnums name props
        else reachedEnums name props

/-- What the last of them leaves. -/
def EnumBuffer.after (buf : EnumBuffer) (reached : List (PropAnswers × PropView)) : EnumBuffer :=
  reached.foldl (fun _ q => ⟨q.2.enumName q.1.value, q.1.value.toUInt32⟩) buf

def enumReads (reached : List (PropAnswers × PropView)) : List EnumRead :=
  reached.flatMap fun q => List.replicate q.2.countEnums ⟨q.1.value, q.2.countEnums⟩

theorem enumBodyReads_eq (name : List Char) (p : PropAnswers) (prop : PropView) (buf : EnumBuffer)
    (reads : List EnumRead) (m : Ledger) :
    ∃ m', enumBodyReads name p prop (buf, reads) m = some (0,
      (if prop.isEnumNamed name then
        (⟨prop.enumName p.value, p.value.toUInt32⟩,
          reads ++ List.replicate prop.countEnums ⟨p.value, prop.countEnums⟩)
      else (buf, reads)), m') := by
  unfold enumBodyReads enumBody PropView.isEnumNamed
  by_cases hn : (isEnumProp prop.flags && strncmpEq prop.name name name.length
      && decide (prop.countEnums ≠ 0)) = true
  · simp only [hn, if_true, Option.map_some]
    exact ⟨_, rfl⟩
  · rw [if_neg hn, if_neg hn, if_neg hn]
    exact ⟨m, rfl⟩

theorem forProps_enum (name : List Char) : ∀ (props : List PropAnswers),
    (∀ p ∈ props, p.enumProp.ret = 0 → p.enumProp.object.isSome = true) → ∀ ret buf reads m,
    ∃ ret' m', forProps (·.enumProp) (enumBodyReads name) props ret (buf, reads) m
      = some (ret', (EnumBuffer.after buf (reachedEnums name props),
          reads ++ enumReads (reachedEnums name props)), m')
  | [], _, ret, buf, reads, m =>
    ⟨ret, m, by simp [forProps, reachedEnums, enumReads, EnumBuffer.after]⟩
  | p :: props, hobj, ret, buf, reads, m => by
    have ih := forProps_enum name props fun q hq => hobj q (List.mem_cons_of_mem _ hq)
    unfold forProps reachedEnums
    dsimp only
    by_cases hret : p.enumProp.ret = 0
    · obtain ⟨prop, hprop⟩ := Option.isSome_iff_exists.1 (hobj p List.mem_cons_self hret)
      obtain ⟨m', hbody⟩ := enumBodyReads_eq name p prop buf reads (p.enumProp.handOut m).2
      rw [if_neg (not_not.2 hret), if_neg (not_not.2 hret), hprop, Option.bind_some, hbody,
        Option.bind_some]
      dsimp only
      by_cases hn : prop.isEnumNamed name = true
      · rw [if_pos hn, if_pos hn]
        obtain ⟨ret', m'', h⟩ := ih 0 ⟨prop.enumName p.value, p.value.toUInt32⟩
          (reads ++ List.replicate prop.countEnums ⟨p.value, prop.countEnums⟩)
          (free (p.enumProp.handOut m).1 m')
        exact ⟨ret', m'', by rw [h, List.append_assoc]; rfl⟩
      · rw [if_neg hn, if_neg hn]
        exact ih 0 buf reads (free (p.enumProp.handOut m).1 m')
    · rw [if_pos hret, if_pos hret]
      exact ⟨p.enumProp.ret, (p.enumProp.handOut m).2, by simp [enumReads, EnumBuffer.after]⟩

/-! ## A property with the name -/

/-- The array holds the entries; behind it anything may be found. -/
def PropView.Holds (prop : PropView) (entries : List (UInt64 × List Char)) : Prop :=
  prop.countEnums = entries.length
    ∧ ∀ (i : UInt64) (e : UInt64 × List Char), entries[i.toNat]? = some e → prop.enumName i = e.2

/-- A connector with one property of the name, an enumeration, whose value is that of `entry`. -/
structure EnumConnector (name : List Char) where
  before : List PropAnswers
  p : PropAnswers
  after : List PropAnswers
  prop : PropView
  entries : List (UInt64 × List Char)
  entry : UInt64 × List Char
  fetched : p.enumProp = ⟨0, some prop⟩
  named : prop.name = name
  isEnum : isEnumProp prop.flags = true
  holds : prop.Holds entries
  nodup : (entries.map Prod.fst).Nodup
  small : ∀ e ∈ entries, e.1.toNat < 4294967296
  current : entry ∈ entries
  value : p.value = entry.1
  only : ∀ q ∈ before ++ after, ∀ other, q.enumProp.object = some other → other.name ≠ name
  /-- A status of 0 comes with an object. -/
  answered : ∀ q ∈ before ++ after, q.enumProp.ret = 0 → q.enumProp.object.isSome = true

namespace EnumConnector

variable {name : List Char} (c : EnumConnector name)

def props : List PropAnswers := c.before ++ c.p :: c.after

/-- The name and the value are those of the current entry, and no entry is read that is not there. -/
def Right (buf : EnumBuffer) (m : Ledger) : Prop :=
  ∃ ret buf' reads m', getConnectorPropEnumReads c.props name buf m = some (ret, (buf', reads), m')
    ∧ reads ≠ [] ∧ buf'.name = c.entry.2 ∧ buf'.value.toNat = c.p.value.toNat
    ∧ ∀ r ∈ reads, r.index.toNat < r.count

/-- The property that is read last has the name at the index that is its value. -/
def LastRight : Prop :=
  ∃ q, (reachedEnums name c.props).getLast? = some q ∧ q.2.enumName q.1.value = c.entry.2
    ∧ q.1.value.toUInt32.toNat = c.p.value.toNat

theorem all_answered : ∀ q ∈ c.props, q.enumProp.ret = 0 → q.enumProp.object.isSome = true := by
  intro q hq
  rcases List.mem_append.1 hq with hq | hq
  · exact c.answered q (List.mem_append_left _ hq)
  · rcases List.mem_cons.1 hq with rfl | hq
    · exact fun _ => by rw [c.fetched]; rfl
    · exact c.answered q (List.mem_append_right _ hq)

end EnumConnector

/-- Each property that is read has entries. -/
theorem reachedEnums_count (name : List Char) : ∀ (props : List PropAnswers),
    ∀ q ∈ reachedEnums name props, q.2.countEnums ≠ 0
  | [], q, hq => by cases hq
  | p :: props, q, hq => by
    unfold reachedEnums at hq
    split_ifs at hq
    · cases hq
    · split at hq
      · cases hq
      · rename_i prop _
        split_ifs at hq with hn
        · rcases List.mem_cons.1 hq with rfl | hq
          · simp only [PropView.isEnumNamed, Bool.and_eq_true, decide_eq_true_eq] at hn
            exact hn.2
          · exact reachedEnums_count name props q hq
        · exact reachedEnums_count name props q hq

theorem enumReads_inside {reached : List (PropAnswers × PropView)}
    (hcount : ∀ q ∈ reached, q.2.countEnums ≠ 0) :
    (∀ r ∈ enumReads reached, r.index.toNat < r.count)
      ↔ ∀ q ∈ reached, q.1.value.toNat < q.2.countEnums := by
  unfold enumReads
  simp only [List.mem_flatMap, List.mem_replicate]
  constructor
  · exact fun h q hq => h _ ⟨q, hq, hcount q hq, rfl⟩
  · rintro h r ⟨q, hq, -, rfl⟩
    exact h q hq

theorem after_eq (buf : EnumBuffer) (reached : List (PropAnswers × PropView)) :
    buf.after reached = (reached.getLast?.map fun q =>
      (⟨q.2.enumName q.1.value, q.1.value.toUInt32⟩ : EnumBuffer)).getD buf := by
  unfold EnumBuffer.after
  induction reached using List.reverseRecOn with
  | nil => rfl
  | append_singleton reached q _ => simp

theorem enumReads_ne_nil {reached : List (PropAnswers × PropView)}
    (hcount : ∀ q ∈ reached, q.2.countEnums ≠ 0) : enumReads reached ≠ [] ↔ reached ≠ [] := by
  rcases reached with _ | ⟨q, reached⟩
  · simp [enumReads]
  · simp [enumReads, hcount q List.mem_cons_self]

namespace EnumConnector

variable {name : List Char} (c : EnumConnector name)

theorem right_iff (buf : EnumBuffer) (m : Ledger) :
    c.Right buf m ↔ (∀ q ∈ reachedEnums name c.props, q.1.value.toNat < q.2.countEnums)
      ∧ c.LastRight := by
  obtain ⟨ret, m', hrun⟩ := forProps_enum name c.props c.all_answered 0 buf [] m
  have hcount := reachedEnums_count name c.props
  have hafter := after_eq buf (reachedEnums name c.props)
  rw [List.nil_append] at hrun
  constructor
  · rintro ⟨ret', buf', reads, m'', heq, hne, hname, hvalue, hin⟩
    rw [getConnectorPropEnumReads, hrun] at heq
    obtain ⟨-, ⟨rfl, rfl⟩, -⟩ : _ ∧ (_ ∧ _) ∧ _ := by simpa using heq
    obtain ⟨q, hq⟩ := Option.isSome_iff_exists.1
      (List.getLast?_isSome.2 ((enumReads_ne_nil hcount).1 hne))
    rw [hafter, hq] at hname hvalue
    exact ⟨(enumReads_inside hcount).1 hin, q, hq, hname, hvalue⟩
  · rintro ⟨hin, q, hq, hname, hvalue⟩
    refine ⟨ret, _, _, m', hrun, (enumReads_ne_nil hcount).2 fun hnil => ?_, ?_, ?_,
      (enumReads_inside hcount).2 hin⟩
    · rw [hnil] at hq
      cases hq
    · rw [hafter, hq]
      exact hname
    · rw [hafter, hq]
      exact hvalue

/-- No other property passes the comparison, and none before this one cannot be fetched. -/
def Alone : Prop := reachedEnums name c.props = [(c.p, c.prop)]

/-- The entry at the index that is the value has the name of the entry with the value. -/
def Indexed : Prop := ∃ e, c.entries[c.p.value.toNat]? = some e ∧ e.2 = c.entry.2

theorem right_iff_indexed (h : c.Alone) (buf : EnumBuffer) (m : Ledger) :
    c.Right buf m ↔ c.Indexed := by
  obtain ⟨hcount, hname⟩ := c.holds
  rw [right_iff, h, LastRight, h]
  simp only [List.forall_mem_singleton, List.getLast?_singleton, Option.some.injEq]
  constructor
  · rintro ⟨hlt, q, rfl, heq, -⟩
    rw [hcount] at hlt
    have hentry := List.getElem?_eq_getElem hlt
    exact ⟨_, hentry, (hname _ _ hentry).symm.trans heq⟩
  · rintro ⟨e, hentry, heq⟩
    refine ⟨?_, _, rfl, (hname _ _ hentry).trans heq, ?_⟩
    · rw [hcount]
      exact (List.getElem?_eq_some_iff.1 hentry).1
    · have hsmall := c.small c.entry c.current
      rw [← c.value] at hsmall
      rw [UInt64.toNat_toUInt32]
      exact Nat.mod_eq_of_lt hsmall

/-- For every connector with an enumeration of the name: the name and the value are right, and only
entries that are there are read, just if the values of the properties read are less than their
entries and the last has the name at its value. Where only the one property is read: just if the
entry at the index that is the value has the name of the one with the value. -/
theorem getConnectorPropEnum_iff (buf : EnumBuffer) (m : Ledger) :
    (c.Right buf m ↔ (∀ q ∈ reachedEnums name c.props, q.1.value.toNat < q.2.countEnums)
      ∧ c.LastRight)
    ∧ (c.Alone → (c.Right buf m ↔ c.Indexed)) :=
  ⟨c.right_iff buf m, fun h => c.right_iff_indexed h buf m⟩

/-- The values 0, 1, 2 and so on, in order. -/
theorem indexed_of_dense
    (h : ∀ (i : ℕ) (e : UInt64 × List Char), c.entries[i]? = some e → e.1.toNat = i) :
    c.Indexed := by
  obtain ⟨i, hi, hentry⟩ := List.getElem_of_mem c.current
  have hget : c.entries[i]? = some c.entry := by rw [List.getElem?_eq_getElem hi, hentry]
  refine ⟨c.entry, ?_, rfl⟩
  rw [c.value, h i c.entry hget]
  exact hget

end EnumConnector

/-! ## A connector with one property -/

/-- An enumeration, with nothing behind its entries. -/
def enumView (name : List Char) (entries : List (UInt64 × List Char)) : PropView where
  flags := 8
  name := name
  countEnums := entries.length
  enumName := fun i => (entries[i.toNat]?.map Prod.snd).getD []

theorem isEnumProp_eight : isEnumProp 8 = true := by decide

theorem enumView_holds (name : List Char) (entries : List (UInt64 × List Char)) :
    (enumView name entries).Holds entries :=
  ⟨rfl, fun i e h => by simp [enumView, h]⟩

def enumAlone (name : List Char) (entries : List (UInt64 × List Char))
    (entry : UInt64 × List Char) (hnodup : (entries.map Prod.fst).Nodup)
    (hsmall : ∀ e ∈ entries, e.1.toNat < 4294967296) (hmem : entry ∈ entries) :
    EnumConnector name where
  before := []
  p := { value := entry.1, blobProp := ⟨0, none⟩, blob := ⟨0, none⟩
         enumProp := ⟨0, some (enumView name entries)⟩ }
  after := []
  prop := enumView name entries
  entries := entries
  entry := entry
  fetched := rfl
  named := rfl
  isEnum := isEnumProp_eight
  holds := enumView_holds name entries
  nodup := hnodup
  small := hsmall
  current := hmem
  value := rfl
  only := fun _ h => nomatch h
  answered := fun _ h => nomatch h

/-- `DPMS` as the kernel numbers it, in standby. -/
def dpmsStandby : EnumConnector "DPMS".toList :=
  enumAlone _ [(0, "On".toList), (1, "Standby".toList), (2, "Suspend".toList), (3, "Off".toList)]
    (1, "Standby".toList) (by decide) (by decide) (by decide)

theorem dpmsStandby_right : dpmsStandby.Right {} {} :=
  ((dpmsStandby.getConnectorPropEnum_iff {} {}).2 rfl).2 ⟨_, rfl, rfl⟩

/-- The same two entries the other way round, switched on. -/
def dpmsSwapped : EnumConnector "DPMS".toList :=
  enumAlone _ [(1, "On".toList), (0, "Off".toList)] (1, "On".toList) (by decide) (by decide)
    (by decide)

/-- The name reported is `Off`. -/
theorem dpmsSwapped_wrong : (getConnectorPropEnum dpmsSwapped.props "DPMS".toList {} {}).map
    (fun r => (r.1, r.2.1.name)) = some (0, "Off".toList) ∧ ¬ dpmsSwapped.Right {} {} := by
  refine ⟨by decide, fun h => ?_⟩
  obtain ⟨e, he, hname⟩ := (dpmsSwapped.right_iff_indexed rfl {} {}).1 h
  obtain rfl : (0, "Off".toList) = e := Option.some.inj he
  exact absurd hname (by decide)

end Amdtop
