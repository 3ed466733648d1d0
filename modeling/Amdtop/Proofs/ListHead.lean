import Mathlib.Data.Fintype.Basic
import Amdtop.ListHead

/-!
# What a run of list operations leaves

Legal operations from no lists at all keep every list a circle of pointers through its head, so
that the loops find just its entries (`list_run_shows`). A loop that keeps the next entry sees
every entry once though its body takes entries out (`listForEachEntrySafe_visits`); one that does
not runs for ever behind a `list_del_init` (`listForEachEntry_removal`), and so does any loop over
a list whose head was given to `list_del` (`listDel_head`).
-/

namespace Amdtop

open Cmd Links

variable {α : Type*}

/-! ## The abstract lists -/

namespace Lists

variable {lists lists' : Lists α} {a h h' e : α} {l l' : List α}

theorem Free.not_mem (hfree : lists.Free a) (hl : lists h = some l) (hne : h ≠ a) :
    a ∉ h :: l :=
  List.not_mem_cons_of_ne_of_not_mem hne.symm (hfree.1 h l hl)

theorem Sound.not_mem (hs : lists.Sound) (hl : lists h = some l) (ha : a ∈ h :: l)
    (hl' : lists h' = some l') (hne : h' ≠ h) : a ∉ h' :: l' :=
  fun ha' => hs.disjoint hl hl' hne.symm ha ha'

/-- An entry is no head. -/
theorem Sound.entry_none (hs : lists.Sound) (hl : lists h = some l) (he : e ∈ l) :
    lists e = none := by
  have hne : e ≠ h := fun heq => (List.nodup_cons.1 (hs.nodup hl)).1 (heq ▸ he)
  rcases hhead : lists e with _ | l'
  · rfl
  · exact absurd List.mem_cons_self (hs.not_mem hl (List.mem_cons_of_mem h he) hhead hne)

/-- Fewer lists, and of each a part. -/
theorem Sound.mono (hs : lists.Sound)
    (h : ∀ {h l'}, lists' h = some l' → ∃ l, lists h = some l ∧ l'.Sublist l) : lists'.Sound := by
  constructor
  · intro head l' hl'
    obtain ⟨l, hl, hsub⟩ := h hl'
    exact (hs.nodup hl).sublist (hsub.cons_cons head)
  · intro head l₁' head' l₂' hl₁' hl₂' hne
    obtain ⟨l₁, hl₁, hsub₁⟩ := h hl₁'
    obtain ⟨l₂, hl₂, hsub₂⟩ := h hl₂'
    exact List.disjoint_of_subset_left (hsub₁.cons_cons head).subset
      (List.disjoint_of_subset_right (hsub₂.cons_cons head').subset (hs.disjoint hl₁ hl₂ hne))

variable [DecidableEq α]

theorem update_eq_some : Function.update lists h (some l) h' = some l' ↔
    (h' = h ∧ l' = l) ∨ (h' ≠ h ∧ lists h' = some l') := by
  rw [Function.update_apply]
  split_ifs with heq
  · simp [heq, eq_comm]
  · simp [heq]

/-- One list is changed, or new. -/
theorem Sound.update (hs : lists.Sound) (hnodup : (h :: l).Nodup)
    (hother : ∀ {h' l'}, lists h' = some l' → h' ≠ h → (h :: l).Disjoint (h' :: l')) :
    Sound (Function.update lists h (some l)) := by
  constructor
  · intro h₁ l₁ hl₁
    obtain ⟨rfl, rfl⟩ | ⟨-, hl₁⟩ := update_eq_some.1 hl₁
    · exact hnodup
    · exact hs.nodup hl₁
  · intro h₁ l₁ h₂ l₂ hl₁ hl₂ hne
    obtain ⟨rfl, rfl⟩ | ⟨hne₁, hold₁⟩ := update_eq_some.1 hl₁
    · obtain ⟨rfl, rfl⟩ | ⟨hne₂, hold₂⟩ := update_eq_some.1 hl₂
      · exact absurd rfl hne
      · exact hother hold₂ hne₂
    · obtain ⟨rfl, rfl⟩ | ⟨-, hold₂⟩ := update_eq_some.1 hl₂
      · exact List.disjoint_comm.1 (hother hold₁ hne₁)
      · exact hs.disjoint hold₁ hold₂ hne

theorem update_none_eq_some : Function.update lists e none h = some l ↔
    h ≠ e ∧ lists h = some l := by
  rw [Function.update_apply]
  split_ifs with heq
  · simp [heq]
  · simp [heq]

theorem del_eq_some : lists.del e h = some l' ↔ ∃ l, lists h = some l ∧ l.erase e = l' :=
  Option.map_eq_some_iff

theorem Sound.init (hs : lists.Sound) (hfree : lists.Free a) : (lists.init a).Sound :=
  hs.update (List.nodup_singleton a) fun hl' hne =>
    List.singleton_disjoint.2 (hfree.not_mem hl' hne)

theorem Sound.del (hs : lists.Sound) (e : α) : (lists.del e).Sound :=
  hs.mono fun hl' => by
    obtain ⟨l, hl, rfl⟩ := del_eq_some.1 hl'
    exact ⟨l, hl, List.erase_sublist⟩

/-- What was taken out can be added again. -/
theorem Sound.free_del (hs : lists.Sound) (he : lists.Entry e) : (lists.del e).Free e := by
  obtain ⟨h, l, hl, hmem⟩ := he
  constructor
  · intro h' l' hl'
    obtain ⟨l₁, hl₁, rfl⟩ := del_eq_some.1 hl'
    exact (List.nodup_cons.1 (hs.nodup hl₁)).2.not_mem_erase
  · intro l' hl'
    obtain ⟨l₁, hl₁, -⟩ := del_eq_some.1 hl'
    exact absurd hl₁ (by simp [hs.entry_none hl hmem])

/-- A free entry becomes one of a list. -/
theorem Sound.put (hs : lists.Sound) {f : List α → List α} (hfree : lists.Free e) (hne : e ≠ h)
    (hl : lists h = some l) (hperm : (f l).Perm (e :: l)) : (lists.put e h f).Sound := by
  have hothers : Sound (Function.update lists e none) :=
    hs.mono fun hl' => ⟨_, (update_none_eq_some.1 hl').2, List.Sublist.refl _⟩
  have hmem : (h :: f l).Perm (e :: h :: l) := (hperm.cons h).trans (List.Perm.swap e h l)
  rw [Lists.put, hl, Option.map_some]
  refine hothers.update ?_ fun hl' hne' => ?_
  · exact hmem.nodup_iff.2 (List.nodup_cons.2 ⟨hfree.not_mem hl hne.symm, hs.nodup hl⟩)
  · obtain ⟨hhead, hold⟩ := update_none_eq_some.1 hl'
    intro x hx
    obtain heq | hx := List.mem_cons.1 (hmem.mem_iff.1 hx)
    · exact heq ▸ hfree.not_mem hold hhead
    · exact hs.not_mem hl hx hold hne'

end Lists

/-! ## The functions as joins -/

variable [DecidableEq α] {m : Links α} {lists : Lists α} {h e a : α} {l : List α}

theorem initListHead_eq (list : α) (m : Links α) : initListHead list m = m.join list list := by
  unfold initListHead setPrev setNext Links.join
  simp only [Function.update_self]

theorem listAdd_eq (entry head : α) (m : Links α) :
    listAdd entry head m = (m.join entry (m.next head)).join head entry := rfl

theorem listDel_eq (entry : α) (m : Links α) :
    listDel entry m = m.join (m.prev entry) (m.next entry) := rfl

/-! ## Each operation -/

/-- The pointers of the lists are circles through their heads. -/
structure Refines (m : Links α) (lists : Lists α) : Prop where
  circle : ∀ {head l}, lists head = some l → m.Circle (head :: l)

namespace Refines

theorem init (hm : Refines m lists) (hfree : lists.Free a) :
    Refines (initListHead a m) (lists.init a) := by
  rw [initListHead_eq]
  refine ⟨fun {h l} hl => ?_⟩
  obtain ⟨rfl, rfl⟩ | ⟨hne, hold⟩ := Lists.update_eq_some.1 hl
  · exact link_join m h h
  · have ha := hfree.not_mem hold hne
    exact (hm.circle hold).join ha ha

theorem del (hm : Refines m lists) (hs : lists.Sound) (he : lists.Entry e) :
    Refines (listDel e m) (lists.del e) := by
  obtain ⟨h, l, hl, hmem⟩ := he
  have hclosed := (hm.circle hl).closed (List.mem_cons_of_mem h hmem)
  rw [listDel_eq]
  refine ⟨fun {h' l'} hl' => ?_⟩
  obtain ⟨l', hold, rfl⟩ := Lists.del_eq_some.1 hl'
  by_cases hne : h' = h
  · subst hne
    obtain rfl := Option.some.inj (hl.symm.trans hold)
    obtain ⟨s, t, rfl, hnot⟩ := List.eq_append_cons_of_mem hmem
    have hcircle : m.Circle (e :: (t ++ h' :: s)) := by
      rw [← List.cons_append, circle_append_comm]
      exact hm.circle hl
    have hnodup : (e :: (t ++ h' :: s)).Nodup := by
      rw [← List.cons_append, List.nodup_append_comm]
      exact hs.nodup hl
    rw [List.erase_append_right _ hnot, List.erase_cons_head, ← List.cons_append,
      circle_append_comm]
    exact hcircle.remove hnodup
  · have hother : ∀ x ∈ h :: l, x ∉ h' :: l' := fun x hx => hs.not_mem hl hx hold hne
    have he' := hother e (List.mem_cons_of_mem h hmem)
    rw [List.erase_of_not_mem fun hmem' => he' (List.mem_cons_of_mem h' hmem')]
    exact (hm.circle hold).join (hother _ hclosed.2) (hother _ hclosed.1)

/-- A new entry between two neighbours of a list. -/
theorem put (hm : Refines m lists) (hs : lists.Sound) (f : List α → List α) {p x : α}
    (hfree : lists.Free e) (hl : lists h = some l) (hp : p ∈ h :: l) (hx : x ∈ h :: l)
    (hcircle : ((m.join e x).join p e).Circle (h :: f l)) :
    Refines ((m.join e x).join p e) (lists.put e h f) := by
  refine ⟨fun {h' l'} hl' => ?_⟩
  rw [Lists.put, hl, Option.map_some] at hl'
  obtain ⟨rfl, rfl⟩ | ⟨hne, hold⟩ := Lists.update_eq_some.1 hl'
  · exact hcircle
  · obtain ⟨hhead, hold⟩ := Lists.update_none_eq_some.1 hold
    have he := hfree.not_mem hold hhead
    exact ((hm.circle hold).join he (hs.not_mem hl hx hold hne)).join (hs.not_mem hl hp hold hne) he

theorem addTail (hm : Refines m lists) (hs : lists.Sound) (hfree : lists.Free e) (hne : e ≠ h)
    (hl : lists h = some l) : Refines (listAddTail e h m) (lists.put e h (· ++ [e])) := by
  have he : e ∉ h :: l := hfree.not_mem hl hne.symm
  have hcircle := (hm.circle hl).insert (hs.nodup hl) he
  exact hm.put hs (· ++ [e]) hfree hl (hm.circle hl).prev_mem List.mem_cons_self
    (circle_rotate.1 hcircle)

theorem add (hm : Refines m lists) (hs : lists.Sound) (hfree : lists.Free e) (hne : e ≠ h)
    (hl : lists h = some l) : Refines (listAdd e h m) (lists.put e h (e :: ·)) := by
  have he : e ∉ h :: l := hfree.not_mem hl hne.symm
  obtain ⟨y, t, ht⟩ : ∃ y t, l ++ [h] = y :: t :=
    List.exists_cons_of_ne_nil (List.append_ne_nil_of_right_ne_nil l (List.cons_ne_nil h []))
  have hturn : m.Circle (y :: t) := ht ▸ circle_rotate.1 (hm.circle hl)
  have hlink : m.Link h y := by
    rcases l with _ | ⟨x, l⟩
    · obtain ⟨rfl, -⟩ := List.cons.inj ht
      exact hm.circle hl
    · obtain ⟨rfl, -⟩ := List.cons.inj ht
      exact (hm.circle hl).link
  have hperm : (y :: t).Perm (h :: l) := ht ▸ List.perm_append_singleton h l
  have hcircle := hturn.insert (hperm.nodup_iff.2 (hs.nodup hl)) (mt hperm.mem_iff.1 he)
  rw [hlink.2] at hcircle
  rw [listAdd_eq, hlink.1]
  refine hm.put hs (e :: ·) hfree hl List.mem_cons_self (hperm.mem_iff.1 List.mem_cons_self) ?_
  rw [circle_rotate, List.cons_append, ht]
  exact hcircle

end Refines

theorem listStep_refines {op : ListOp α} (hm : Refines m lists) (hs : lists.Sound)
    (hlegal : lists.Legal op) : Refines (listStep m op) (lists.step op) ∧ (lists.step op).Sound := by
  cases op with
  | init list => exact ⟨hm.init hlegal, hs.init hlegal⟩
  | add entry head =>
    obtain ⟨hfree, hne, hhead⟩ := hlegal
    obtain ⟨l, hl⟩ := Option.isSome_iff_exists.1 hhead
    exact ⟨hm.add hs hfree hne hl, hs.put hfree hne hl (List.Perm.refl _)⟩
  | addTail entry head =>
    obtain ⟨hfree, hne, hhead⟩ := hlegal
    obtain ⟨l, hl⟩ := Option.isSome_iff_exists.1 hhead
    exact ⟨hm.addTail hs hfree hne hl, hs.put hfree hne hl (List.perm_append_singleton entry l)⟩
  | del entry => exact ⟨hm.del hs hlegal, hs.del entry⟩
  | delInit entry =>
    exact ⟨(hm.del hs hlegal).init (hs.free_del hlegal), (hs.del entry).init (hs.free_del hlegal)⟩
  | moveTail list head =>
    obtain ⟨hentry, hhead⟩ := hlegal
    obtain ⟨l, hl⟩ := Option.isSome_iff_exists.1 hhead
    have hfree := hs.free_del hentry
    have hne : list ≠ head := by
      rintro rfl
      obtain ⟨h, l', hl', hmem⟩ := hentry
      exact absurd hl (by simp [hs.entry_none hl' hmem])
    have hl' : lists.del list head = some (l.erase list) := Lists.del_eq_some.2 ⟨l, hl, rfl⟩
    exact ⟨(hm.del hs hentry).addTail (hs.del list) hfree hne hl',
      (hs.del list).put hfree hne hl' (List.perm_append_singleton list _)⟩

theorem run_refines : ∀ {ops : List (ListOp α)} {m : Links α} {lists : Lists α},
    Refines m lists → lists.Sound → Meets Lists.step Lists.Legal lists ops →
      Refines (run listStep m ops) (run Lists.step lists ops) ∧ (run Lists.step lists ops).Sound
  | [], _, _, hm, hs, _ => ⟨hm, hs⟩
  | _ :: _, _, _, hm, hs, hlegal => by
    obtain ⟨hm', hs'⟩ := listStep_refines hm hs hlegal.1
    have hrest := run_refines hm' hs' hlegal.2
    exact hrest

/-! ## Looking at the lists -/

/-- A body that changes nothing. -/
theorem listForEachFrom_path (body : α → Links α → Links α) : ∀ {l : List α} {a : α} {n : ℕ},
    m.Path a l h → h ∉ l → (∀ x ∈ l, body x m = m) → l.length < n →
      listForEachFrom h body n (m.next a) m = some (l, m)
  | [], a, n + 1, hpath, _, _, _ => if_pos hpath.next
  | x :: l, a, n + 1, hpath, hh, hbody, hn => by
    obtain ⟨hx, hl⟩ := not_or.1 (List.mem_cons.not.1 hh)
    obtain ⟨hbodyx, hbodyl⟩ := List.forall_mem_cons.1 hbody
    rw [hpath.next, List.headD_cons, listForEachFrom, if_neg (Ne.symm hx)]
    dsimp only
    rw [hbodyx, listForEachFrom_path body hpath.2 hl hbodyl (Nat.lt_of_succ_lt_succ hn)]
    rfl

theorem listForEachReverseFrom_eq (head : α) : ∀ (n : ℕ) (pos : α) (m : Links α),
    listForEachReverseFrom head (fun _ m => m) n pos m
      = (listForEachFrom head (fun _ m => m) n pos ⟨m.prev, m.next⟩).map fun r => (r.1, m)
  | 0, _, _ => rfl
  | n + 1, pos, m => by
    unfold listForEachReverseFrom listForEachFrom
    split_ifs
    · rfl
    · dsimp only
      rw [listForEachReverseFrom_eq head n, Option.map_map, Option.map_map]
      rfl

/-- What the functions of the header say of a list. -/
structure Shows (m : Links α) (h : α) (l : List α) : Prop where
  empty : listEmpty h m = decide (l = [])
  forward : ∀ n, l.length < n → listForEachEntry h (fun _ m => m) n m = some (l, m)
  backward : ∀ n, l.length < n →
    listForEachEntryReverse h (fun _ m => m) n m = some (l.reverse, m)

theorem Refines.shows (hm : Refines m lists) (hs : lists.Sound) (hl : lists h = some l) :
    Shows m h l := by
  have hpath : m.Path h l h := hm.circle hl
  have hnot : h ∉ l := (List.nodup_cons.1 (hs.nodup hl)).1
  constructor
  · rw [listEmpty, hpath.next]
    rcases l with _ | ⟨x, l⟩
    · simp
    · have hx : x ≠ h := fun he => hnot (he ▸ List.mem_cons_self)
      simp [hx]
  · exact fun n hn => listForEachFrom_path _ hpath hnot (fun _ _ => rfl) hn
  · intro n hn
    have hback := listForEachFrom_path (fun _ m => m) hpath.reverse
      (mt List.mem_reverse.1 hnot) (fun _ _ => rfl) (by rwa [List.length_reverse])
    rw [listForEachEntryReverse, listForEachReverseFrom_eq, hback]
    rfl

/-- Whatever the memory held before. -/
theorem run_from_nothing {ops : List (ListOp α)}
    (hlegal : Meets Lists.step Lists.Legal (fun _ => none) ops) (m : Links α) :
    Refines (run listStep m ops) (run Lists.step (fun _ => none) ops)
      ∧ (run Lists.step (fun _ => none) ops).Sound := by
  have hm : Refines m (fun _ => none) := ⟨fun hl => absurd hl (by simp)⟩
  have hs : Lists.Sound (fun _ : α => none) :=
    ⟨fun hl => absurd hl (by simp), fun hl _ _ => absurd hl (by simp)⟩
  exact run_refines hm hs hlegal

theorem list_run_shows {ops : List (ListOp α)}
    (hlegal : Meets Lists.step Lists.Legal (fun _ => none) ops) (m : Links α) :
    ∀ h l, run Lists.step (fun _ => none) ops h = some l → Shows (run listStep m ops) h l := by
  obtain ⟨hm, hs⟩ := run_from_nothing hlegal m
  exact fun h l hl => hm.shows hs hl

/-- Two lists, an entry moved from one to the other, and one taken out and added again. -/
theorem list_run_shows_moved : Shows
    (run listStep ⟨fun _ : Fin 4 => 3, fun _ => 3⟩
      [.init 0, .init 1, .addTail 2 0, .add 3 0, .moveTail 2 1, .delInit 3, .add 3 1]) 1 [3, 2] := by
  refine list_run_shows ?_ _ 1 [3, 2] (by rfl)
  exact ⟨by decide, by decide, by decide, by decide, by decide, by decide, by decide, trivial⟩

/-- A list of two entries and an empty one. -/
def twoLists : List (ListOp (Fin 4)) := [.init 0, .init 1, .addTail 2 0, .addTail 3 0]

def twoListsLinks : Links (Fin 4) := run listStep ⟨fun _ => 3, fun _ => 3⟩ twoLists

theorem twoLists_legal : Meets Lists.step Lists.Legal (fun _ => none) twoLists :=
  ⟨by decide, by decide, by decide, by decide, trivial⟩

/-! ## Loops that take entries out -/

inductive Removal (α : Type*)
  | del
  | delInit
  | moveTail (dest : α)
deriving DecidableEq, Repr

def Removal.op (entry : α) : Removal α → ListOp α
  | .del => .del entry
  | .delInit => .delInit entry
  | .moveTail dest => .moveTail entry dest

/-- A body that takes out the entries it chooses. -/
def removeBody (choice : α → Option (Removal α)) (pos : α) (m : Links α) : Links α :=
  match choice pos with
  | none => m
  | some r => listStep m (r.op pos)

/-- The removals of a loop over the entries. -/
def removals (choice : α → Option (Removal α)) (l : List α) : List (ListOp α) :=
  l.filterMap fun x => (choice x).map (·.op x)

/-- Entries are moved to other lists only. -/
def Dests (lists : Lists α) (h : α) (choice : α → Option (Removal α)) (l : List α) : Prop :=
  ∀ x ∈ l, ∀ dest, choice x = some (.moveTail dest) → dest ≠ h ∧ (lists dest).isSome

/-- The loop sees the entries `l` and then ends, with the pointers of `lists'`. -/
def Traverses (loop : ℕ → Option (List α × Links α)) (l : List α) (lists' : Lists α) : Prop :=
  ∃ m', (∀ n, l.length < n → loop n = some (l, m')) ∧ Refines m' lists' ∧ lists'.Sound

section Removing

variable {body : α → Links α → Links α} {choice : α → Option (Removal α)} {pre rest : List α}
  {x : α} {r : Removal α} {m₁ : Links α} {lists' : Lists α}

/-! ### One pass -/

omit [DecidableEq α] in
theorem visits_end {loop : ℕ → Option (List α × Links α)} (hm : Refines m lists)
    (hs : lists.Sound) (hloop : ∀ n, loop (n + 1) = some ([], m)) : Traverses loop [] lists := by
  refine ⟨m, fun n hn => ?_, hm, hs⟩
  obtain ⟨n, rfl⟩ := Nat.exists_eq_succ_of_ne_zero hn.ne'
  exact hloop n

omit [DecidableEq α] in
theorem traverses_cons {loop loop₁ : ℕ → Option (List α × Links α)}
    (hpass : ∀ n, loop (n + 1) = (loop₁ n).map fun r => (x :: r.1, r.2))
    (h : Traverses loop₁ rest lists') : Traverses loop (x :: rest) lists' := by
  obtain ⟨m', hloop, hm', hs'⟩ := h
  refine ⟨m', fun n hn => ?_, hm', hs'⟩
  obtain ⟨n, rfl⟩ := Nat.exists_eq_succ_of_ne_zero (Nat.ne_zero_of_lt hn)
  rw [hpass, hloop n (Nat.lt_of_succ_lt_succ hn)]
  rfl

/-- The next entry is read after the body. -/
theorem listForEachFrom_cons (hne : x ≠ h) (hbody : body x m = m₁)
    (hnext : m₁.next x = rest.headD h)
    (hrest : Traverses (fun n => listForEachFrom h body n (rest.headD h) m₁) rest lists') :
    Traverses (fun n => listForEachFrom h body n x m) (x :: rest) lists' := by
  refine traverses_cons (fun n => ?_) hrest
  rw [listForEachFrom, if_neg hne]
  dsimp only
  rw [hbody, hnext]

/-- The next entry is read before the body. -/
theorem listForEachSafeFrom_cons (hne : x ≠ h) (hbody : body x m = m₁)
    (hnext : m.next x = rest.headD h)
    (hrest : Traverses (fun n => listForEachSafeFrom h body n (rest.headD h)
      (m₁.next (rest.headD h)) m₁) rest lists') :
    Traverses (fun n => listForEachSafeFrom h body n x (m.next x) m) (x :: rest) lists' := by
  refine traverses_cons (fun n => ?_) hrest
  rw [listForEachSafeFrom, if_neg hne]
  dsimp only
  rw [hbody, hnext]

/-! ### The lists behind a removal -/

omit [DecidableEq α] in
theorem Lists.Sound.ne_head (hs : lists.Sound) (hl : lists h = some (pre ++ x :: rest)) :
    x ≠ h := by
  rintro rfl
  exact (List.nodup_cons.1 (hs.nodup hl)).1 (List.mem_append_right pre List.mem_cons_self)

theorem Lists.Sound.erase_entry (hs : lists.Sound) (hl : lists h = some (pre ++ x :: rest)) :
    lists.del x h = some (pre ++ rest) := by
  have hnodup := (List.nodup_cons.1 (hs.nodup hl)).2
  have hnot : x ∉ pre := fun hmem =>
    List.disjoint_of_nodup_append hnodup hmem List.mem_cons_self
  refine Lists.del_eq_some.2 ⟨_, hl, ?_⟩
  rw [List.erase_append_right _ hnot, List.erase_cons_head]

/-- The list without the entry; other lists stay lists. -/
theorem removal_step (hs : lists.Sound) (hl : lists h = some (pre ++ x :: rest))
    (hdest : ∀ dest, r = .moveTail dest → dest ≠ h ∧ (lists dest).isSome) :
    lists.Legal (r.op x) ∧ lists.step (r.op x) h = some (pre ++ rest)
      ∧ ∀ g, (lists g).isSome → (lists.step (r.op x) g).isSome := by
  have hmem : x ∈ pre ++ x :: rest := List.mem_append_right pre List.mem_cons_self
  have hentry : lists.Entry x := ⟨h, _, hl, hmem⟩
  have hne := hs.ne_head hl
  have hdel : ∀ g, (lists g).isSome → (lists.del x g).isSome := fun g hg => by
    rwa [Lists.del, Option.isSome_map]
  have hgne : ∀ g, (lists g).isSome → g ≠ x := by
    rintro g hg rfl
    exact absurd hg (by simp [hs.entry_none hl hmem])
  cases r with
  | del => exact ⟨hentry, hs.erase_entry hl, hdel⟩
  | delInit =>
    refine ⟨hentry, (Function.update_of_ne hne.symm _ _).trans (hs.erase_entry hl), fun g hg => ?_⟩
    rw [Removal.op, Lists.step, Lists.init, Function.update_of_ne (hgne g hg)]
    exact hdel g hg
  | moveTail dest =>
    obtain ⟨hdesth, hsome⟩ := hdest dest rfl
    rw [Removal.op, Lists.step, Lists.put]
    refine ⟨⟨hentry, hsome⟩, ?_, fun g hg => ?_⟩
    · rw [Function.update_of_ne hdesth.symm, Function.update_of_ne hne.symm]
      exact hs.erase_entry hl
    · by_cases hgd : g = dest
      · subst hgd
        rw [Function.update_self, Option.isSome_map]
        exact hdel g hg
      · rw [Function.update_of_ne hgd, Function.update_of_ne (hgne g hg)]
        exact hdel g hg

/-! ### The loop that keeps the next entry -/

omit [DecidableEq α] in
theorem removals_cons (choice : α → Option (Removal α)) (x : α) (l : List α) :
    removals choice (x :: l)
      = ((choice x).map (Removal.op x)).toList ++ removals choice l := by
  rw [removals, List.filterMap_cons]
  rcases choice x with _ | r <;> rfl

theorem listForEachSafeFrom_removes : ∀ {rest : List α} {m : Links α} {lists : Lists α}
    {pre : List α}, Refines m lists → lists.Sound → lists h = some (pre ++ rest) →
      Dests lists h choice rest →
        Traverses (fun n => listForEachSafeFrom h (removeBody choice) n (rest.headD h)
            (m.next (rest.headD h)) m) rest (run Lists.step lists (removals choice rest))
          ∧ run Lists.step lists (removals choice rest) h
            = some (pre ++ rest.filter fun x => (choice x).isNone)
  | [], m, lists, pre, hm, hs, hl, _ => ⟨visits_end hm hs fun _ => if_pos rfl, hl⟩
  | x :: rest, m, lists, pre, hm, hs, hl, hdest => by
    have hne := hs.ne_head hl
    have hnext : m.next x = rest.headD h := (hm.circle hl).next
    have hdestx := hdest x List.mem_cons_self
    have hdestrest : Dests lists h choice rest := fun y hy => hdest y (List.mem_cons_of_mem x hy)
    rw [removals_cons]
    rcases hchoice : choice x with _ | r
    · have hl' : lists h = some ((pre ++ [x]) ++ rest) := by
        rw [hl, List.append_assoc, List.singleton_append]
      obtain ⟨hloop, hleft⟩ := listForEachSafeFrom_removes hm hs hl' hdestrest
      refine ⟨listForEachSafeFrom_cons hne ?_ hnext hloop, hleft.trans ?_⟩
      · rw [removeBody, List.headD_cons, hchoice]
      · rw [List.filter_cons_of_pos (by rw [hchoice]; rfl), List.append_assoc,
          List.singleton_append]
    · obtain ⟨hlegal, hl', hsome⟩ := removal_step hs hl
        fun dest hr => hdestx dest (hchoice.trans (congrArg some hr))
      obtain ⟨hm', hs'⟩ := listStep_refines hm hs hlegal
      obtain ⟨hloop, hleft⟩ := listForEachSafeFrom_removes hm' hs' hl'
        fun y hy dest hd => (hdestrest y hy dest hd).imp_right (hsome dest)
      refine ⟨listForEachSafeFrom_cons hne ?_ hnext hloop, hleft.trans ?_⟩
      · rw [removeBody, List.headD_cons, hchoice]
      · rw [List.filter_cons_of_neg (by simp [hchoice])]

/-- Every entry once, and left are those the body has not taken out. -/
theorem listForEachEntrySafe_visits (hm : Refines m lists) (hs : lists.Sound)
    (hl : lists h = some l) (hdest : Dests lists h choice l) :
    Traverses (fun n => listForEachEntrySafe h (removeBody choice) n m) l
        (run Lists.step lists (removals choice l))
      ∧ run Lists.step lists (removals choice l) h
        = some (l.filter fun x => (choice x).isNone) := by
  have hpath : m.Path h l h := hm.circle hl
  have hall : lists h = some ([] ++ l) := hl
  unfold listForEachEntrySafe
  rw [hpath.next]
  exact listForEachSafeFrom_removes hm hs hall hdest

/-- The first entry moved, the second made a list of its own. -/
theorem listForEachEntrySafe_visits_two :
    Traverses (fun n => listForEachEntrySafe 0 (removeBody fun x : Fin 4 =>
        some (if x = 2 then .moveTail 1 else .delInit)) n twoListsLinks) [2, 3]
      (run Lists.step (run Lists.step (fun _ => none) twoLists) [.moveTail 2 1, .delInit 3])
      ∧ run Lists.step (run Lists.step (fun _ => none) twoLists) [.moveTail 2 1, .delInit 3] 0
        = some [] := by
  obtain ⟨hm, hs⟩ := run_from_nothing twoLists_legal ⟨fun _ => 3, fun _ => 3⟩
  refine listForEachEntrySafe_visits hm hs (by rfl) fun x hx dest hd => ?_
  split_ifs at hd
  · obtain rfl := Removal.moveTail.inj (Option.some.inj hd)
    exact ⟨by decide, by rfl⟩
  · exact absurd hd (by simp)

/-! ### The loop that reads it afterwards -/

theorem listForEachFrom_del {p : α → Bool} : ∀ {rest : List α} {m : Links α} {lists : Lists α}
    {pre : List α}, Refines m lists → lists.Sound → lists h = some (pre ++ rest) →
      Traverses (fun n => listForEachFrom h (fun pos m => if p pos then listDel pos m else m) n
          (rest.headD h) m) rest (run Lists.step lists ((rest.filter p).map .del))
  | [], m, lists, pre, hm, hs, hl => visits_end hm hs fun _ => if_pos rfl
  | x :: rest, m, lists, pre, hm, hs, hl => by
    have hne := hs.ne_head hl
    have hnext : m.next x = rest.headD h := (hm.circle hl).next
    rcases hp : p x
    · have hl' : lists h = some ((pre ++ [x]) ++ rest) := by
        rw [hl, List.append_assoc, List.singleton_append]
      rw [List.filter_cons_of_neg (by rw [hp]; exact Bool.false_ne_true)]
      exact listForEachFrom_cons hne (by simp [hp]) hnext (listForEachFrom_del hm hs hl')
    · obtain ⟨hlegal, hl', -⟩ := removal_step (r := .del) hs hl fun _ h => absurd h (by simp)
      obtain ⟨hm', hs'⟩ := listStep_refines hm hs hlegal
      rw [List.filter_cons_of_pos hp, List.map_cons]
      -- The entry's own pointers are left, so it still leads to the next one.
      have hprev : x ≠ m.prev x := by
        have hturn : m.Circle ((x :: rest) ++ h :: pre) := circle_append_comm.1 (hm.circle hl)
        have hmem : m.prev x ∈ h :: pre := (path_append.1 hturn).2.prev_mem
        have hdisjoint : (h :: pre).Disjoint (x :: rest) :=
          List.disjoint_of_nodup_append (hs.nodup hl)
        exact fun heq => hdisjoint hmem (heq ▸ List.mem_cons_self)
      refine listForEachFrom_cons hne (by simp [hp]; rfl) ?_ (listForEachFrom_del hm' hs' hl')
      exact (Function.update_of_ne hprev _ _).trans hnext

/-- An entry that was taken out and made a list of its own leads to itself. -/
theorem listForEachFrom_stuck {p : α → Bool} (hp : p x = true) (hne : x ≠ h) :
    ∀ (n : ℕ) (m : Links α),
      listForEachFrom h (fun pos m => if p pos then listDelInit pos m else m) n x m = none
  | 0, _ => rfl
  | n + 1, m => by
    have hself : (listDelInit x m).next x = x := by
      rw [listDelInit, initListHead_eq]
      exact Function.update_self _ _ _
    rw [listForEachFrom, if_neg hne]
    dsimp only
    rw [if_pos hp, hself, listForEachFrom_stuck hp hne n]
    rfl

theorem listForEachFrom_delInit {p : α → Bool} (hm : Refines m lists) (hs : lists.Sound) :
    ∀ {rest pre : List α}, lists h = some (pre ++ rest) → (∃ x ∈ rest, p x = true) → ∀ n,
      listForEachFrom h (fun pos m => if p pos then listDelInit pos m else m) n (rest.headD h) m
        = none
  | [], _, _, hp, _ => absurd hp (by simp)
  | _ :: _, _, _, _, 0 => rfl
  | x :: rest, pre, hl, hp, n + 1 => by
    have hne := hs.ne_head hl
    rw [List.headD_cons]
    rcases hpx : p x
    · have hl' : lists h = some ((pre ++ [x]) ++ rest) := by
        rw [hl, List.append_assoc, List.singleton_append]
      have hnext : m.next x = rest.headD h := (hm.circle hl).next
      have hrest : ∃ y ∈ rest, p y = true := by
        obtain ⟨y, hy, hpy⟩ := hp
        obtain rfl | hy := List.mem_cons.1 hy
        · exact absurd hpy (by simp [hpx])
        · exact ⟨y, hy, hpy⟩
      rw [listForEachFrom, if_neg hne]
      dsimp only
      rw [hpx, if_neg Bool.false_ne_true, hnext, listForEachFrom_delInit hm hs hl' hrest n]
      rfl
    · exact listForEachFrom_stuck hpx hne (n + 1) m

end Removing

/-- With `list_del` the loop sees every entry; with `list_del_init` it ends just if it takes
nothing out. -/
theorem listForEachEntry_removal (hm : Refines m lists) (hs : lists.Sound)
    (hl : lists h = some l) (p : α → Bool) :
    Traverses (fun n => listForEachEntry h (fun pos m => if p pos then listDel pos m else m) n m) l
        (run Lists.step lists ((l.filter p).map .del))
      ∧ ((∃ n, (listForEachEntry h
          (fun pos m => if p pos then listDelInit pos m else m) n m).isSome)
        ↔ ∀ x ∈ l, p x = false) := by
  have hpath : m.Path h l h := hm.circle hl
  have hall : lists h = some ([] ++ l) := hl
  unfold listForEachEntry
  constructor
  · rw [hpath.next]
    exact listForEachFrom_del hm hs hall
  constructor
  · rintro ⟨n, hn⟩ x hx
    by_contra hp
    rw [hpath.next, listForEachFrom_delInit hm hs hall
      ⟨x, hx, Bool.not_eq_false _ ▸ hp⟩ n] at hn
    exact absurd hn (by simp)
  · intro hnone
    have hnot : h ∉ l := (List.nodup_cons.1 (hs.nodup hl)).1
    have hbody : ∀ x ∈ l, (if p x then listDelInit x m else m) = m := fun x hx =>
      if_neg (by rw [hnone x hx]; exact Bool.false_ne_true)
    have hloop := listForEachFrom_path (fun pos m => if p pos then listDelInit pos m else m) hpath
      hnot hbody (Nat.lt_succ_self _)
    exact ⟨l.length + 1, by rw [hloop]; rfl⟩

/-- An entry taken out of two, and one that is in neither list. -/
theorem listForEachEntry_removal_two :
    (¬ ∃ n, (listForEachEntry 0 (fun pos m => if decide (pos = 3) then listDelInit pos m else m) n
        twoListsLinks).isSome)
      ∧ ∃ n, (listForEachEntry 0 (fun pos m => if decide (pos = 1) then listDelInit pos m else m) n
        twoListsLinks).isSome := by
  obtain ⟨hm, hs⟩ := run_from_nothing twoLists_legal ⟨fun _ => 3, fun _ => 3⟩
  have hl : run Lists.step (fun _ => none) twoLists 0 = some [2, 3] := by rfl
  exact ⟨mt (listForEachEntry_removal hm hs hl fun x => decide (x = 3)).2.1 (by decide),
    (listForEachEntry_removal hm hs hl fun x => decide (x = 1)).2.2 (by decide)⟩

/-! ## A head that is deleted

Its entries become a circle of their own, while its pointers still lead into it. -/

section Head

variable {c : List α}

theorem listForEachFrom_circle (hcircle : m.Circle c) (hnot : h ∉ c) :
    ∀ {n : ℕ} {pos : α}, pos ∈ c → listForEachFrom h (fun _ m => m) n pos m = none
  | 0, _, _ => rfl
  | n + 1, pos, hpos => by
    rw [listForEachFrom, if_neg (ne_of_mem_of_not_mem hpos hnot)]
    dsimp only
    rw [listForEachFrom_circle hcircle hnot (hcircle.closed hpos).1]
    rfl

theorem listForEachSafeFrom_circle (hcircle : m.Circle c) (hnot : h ∉ c) :
    ∀ {n : ℕ} {pos tmp : α}, pos ∈ c → tmp ∈ c →
      listForEachSafeFrom h (fun _ m => m) n pos tmp m = none
  | 0, _, _, _, _ => rfl
  | n + 1, pos, tmp, hpos, htmp => by
    rw [listForEachSafeFrom, if_neg (ne_of_mem_of_not_mem hpos hnot)]
    dsimp only
    rw [listForEachSafeFrom_circle hcircle hnot htmp (hcircle.closed htmp).1]
    rfl

theorem listForEachReverseFrom_circle (hcircle : m.Circle c) (hnot : h ∉ c) :
    ∀ {n : ℕ} {pos : α}, pos ∈ c → listForEachReverseFrom h (fun _ m => m) n pos m = none
  | 0, _, _ => rfl
  | n + 1, pos, hpos => by
    rw [listForEachReverseFrom, if_neg (ne_of_mem_of_not_mem hpos hnot)]
    dsimp only
    rw [listForEachReverseFrom_circle hcircle hnot (hcircle.closed hpos).2]
    rfl

end Head

/-- The list is not reset to an empty one, and no loop over it ends. -/
theorem listDel_head (hm : Refines m lists) (hs : lists.Sound) (hl : lists h = some l)
    (hne : l ≠ []) : listEmpty h (listDel h m) = false
      ∧ ∀ n, listForEachEntry h (fun _ m => m) n (listDel h m) = none
        ∧ listForEachEntrySafe h (fun _ m => m) n (listDel h m) = none
        ∧ listForEachEntryReverse h (fun _ m => m) n (listDel h m) = none := by
  have hcircle : (listDel h m).Circle l := (hm.circle hl).remove (hs.nodup hl)
  obtain ⟨hnot, -⟩ := List.nodup_cons.1 (hs.nodup hl)
  obtain ⟨hnext, hprev⟩ : m.next h ∈ l ∧ m.prev h ∈ l := by
    obtain ⟨x, t, rfl⟩ := List.exists_cons_of_ne_nil hne
    have hpath : m.Path h (x :: t) h := hm.circle hl
    exact ⟨hpath.1.1 ▸ List.mem_cons_self, hpath.2.prev_mem⟩
  have hfirst : (listDel h m).next h = m.next h :=
    Function.update_of_ne (ne_of_mem_of_not_mem hprev hnot).symm _ _
  have hlast : (listDel h m).prev h = m.prev h :=
    Function.update_of_ne (ne_of_mem_of_not_mem hnext hnot).symm _ _
  constructor
  · rw [listEmpty, hfirst]
    exact decide_eq_false (ne_of_mem_of_not_mem hnext hnot)
  · intro n
    unfold listForEachEntry listForEachEntrySafe listForEachEntryReverse
    rw [hfirst, hlast]
    exact ⟨listForEachFrom_circle hcircle hnot hnext,
      listForEachSafeFrom_circle hcircle hnot hnext (hcircle.closed hnext).1,
      listForEachReverseFrom_circle hcircle hnot hprev⟩

theorem listDel_head_two : listEmpty 0 (listDel 0 twoListsLinks) = false
    ∧ ∀ n, listForEachEntry 0 (fun _ m => m) n (listDel 0 twoListsLinks) = none
      ∧ listForEachEntrySafe 0 (fun _ m => m) n (listDel 0 twoListsLinks) = none
      ∧ listForEachEntryReverse 0 (fun _ m => m) n (listDel 0 twoListsLinks) = none := by
  obtain ⟨hm, hs⟩ := run_from_nothing twoLists_legal ⟨fun _ => 3, fun _ => 3⟩
  have hl : run Lists.step (fun _ => none) twoLists 0 = some [2, 3] := by rfl
  exact listDel_head hm hs hl (by simp)

end Amdtop
