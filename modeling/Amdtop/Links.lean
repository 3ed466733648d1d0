import Mathlib.Data.List.Nodup
import Mathlib.Logic.Function.Basic

/-!
# Nodes linked both ways

Every node has a next and a previous one. `Path m a l b` follows both pointers from `a` through `l`
to `b`, and `Circle m c` from the first node of `c` around to it again; a circle may begin at any
of its nodes. `join` makes two nodes neighbours, so a new node comes into a circle by two joins
(`Circle.insert`), and one join takes a node out (`Circle.remove`).
-/

/-- The pointers of all nodes. -/
structure Links (α : Type*) where
  next : α → α
  prev : α → α

namespace Links

variable {α : Type*} {m : Links α} {a b p n x e : α} {l l' c : List α}

def Link (m : Links α) (a b : α) : Prop := m.next a = b ∧ m.prev b = a

def Path (m : Links α) : α → List α → α → Prop
  | a, [], b => m.Link a b
  | a, x :: l, b => m.Link a x ∧ Path m x l b

def Circle (m : Links α) : List α → Prop
  | [] => True
  | x :: l => m.Path x l x

theorem path_append : ∀ {a : α} {l : List α},
    m.Path a (l ++ x :: l') b ↔ m.Path a l x ∧ m.Path x l' b
  | _, [] => Iff.rfl
  | _, y :: l => by rw [List.cons_append, Path, path_append, Path, and_assoc]

theorem Path.prev_mem : ∀ {a : α} {l : List α}, m.Path a l b → m.prev b ∈ a :: l
  | _, [], h => List.mem_singleton.2 h.2
  | _, _ :: _, h => List.mem_cons_of_mem _ h.2.prev_mem

theorem circle_rotate : m.Circle (x :: l) ↔ m.Circle (l ++ [x]) := by
  rcases l with _ | ⟨y, l⟩
  · rfl
  · rw [List.cons_append, Circle, Circle, Path, path_append, and_comm]
    rfl

theorem circle_append_comm : ∀ {l l' : List α}, m.Circle (l ++ l') ↔ m.Circle (l' ++ l)
  | [], l' => by rw [List.nil_append, List.append_nil]
  | x :: l, l' => by
    rw [List.cons_append, circle_rotate, List.append_assoc, circle_append_comm, List.append_assoc,
      List.singleton_append]

theorem Circle.prev_mem (h : m.Circle (x :: l)) : m.prev x ∈ x :: l := Path.prev_mem h

theorem Circle.link (h : m.Circle (a :: x :: l)) : m.Link a x := h.1

theorem Path.next (h : m.Path a l b) : m.next a = l.headD b := by
  rcases l with _ | ⟨x, l⟩
  · exact h.1
  · exact h.1.1

theorem Path.next_mem (h : m.Path a l b) : m.next a ∈ l ++ [b] := by
  rw [h.next]
  rcases l with _ | ⟨x, l⟩
  · exact List.mem_singleton_self b
  · exact List.mem_cons_self

/-- The node behind one of the circle. -/
theorem Circle.next (h : m.Circle (a :: (l ++ x :: l'))) : m.next x = l'.headD a :=
  (path_append.1 h).2.next

/-- Against the direction, the other way round. -/
theorem Path.reverse : ∀ {a : α} {l : List α}, m.Path a l b →
    Path ⟨m.prev, m.next⟩ b l.reverse a
  | _, [], h => ⟨h.2, h.1⟩
  | a, x :: l, h => by
    rw [List.reverse_cons, path_append]
    exact ⟨h.2.reverse, h.1.2, h.1.1⟩

/-- Both pointers stay in the circle. -/
theorem Circle.closed (h : m.Circle c) (hx : x ∈ c) : m.next x ∈ c ∧ m.prev x ∈ c := by
  obtain ⟨s, t, rfl⟩ := List.append_of_mem hx
  have hturn : m.Circle (x :: (t ++ s)) := by
    rw [← List.cons_append, circle_append_comm]
    exact h
  have hmem : ∀ y, y ∈ x :: (t ++ s) → y ∈ s ++ x :: t := fun y hy => by
    rwa [← List.cons_append, List.mem_append, or_comm, ← List.mem_append] at hy
  have hnext := Path.next_mem hturn
  rw [List.mem_append, List.mem_singleton, or_comm, ← List.mem_cons] at hnext
  exact ⟨hmem _ hnext, hmem _ hturn.prev_mem⟩

/-! ## Joins -/

variable [DecidableEq α]

/-- `b` becomes the next of `a`, and `a` the previous of `b`. -/
def join (m : Links α) (a b : α) : Links α :=
  ⟨Function.update m.next a b, Function.update m.prev b a⟩

theorem join_comm (ha : a ≠ p) (hb : b ≠ n) : (m.join a b).join p n = (m.join p n).join a b := by
  unfold join
  rw [Function.update_comm ha, Function.update_comm hb]

theorem link_join (m : Links α) (a b : α) : (m.join a b).Link a b :=
  ⟨Function.update_self _ _ _, Function.update_self _ _ _⟩

theorem Link.join (h : m.Link a b) (ha : a ≠ p) (hb : b ≠ n) : (m.join p n).Link a b :=
  ⟨(Function.update_of_ne ha _ _).trans h.1, (Function.update_of_ne hb _ _).trans h.2⟩

/-- A join elsewhere. -/
theorem Path.join : ∀ {a : α} {l : List α}, m.Path a l b → p ∉ a :: l → n ∉ l → n ≠ b →
    (m.join p n).Path a l b
  | a, [], h, hp, _, hb => Link.join h (fun he => hp (List.mem_singleton.2 he.symm)) hb.symm
  | a, x :: l, h, hp, hn, hb => by
    obtain ⟨hpa, hpl⟩ := not_or.1 (List.mem_cons.not.1 hp)
    obtain ⟨hnx, hnl⟩ := not_or.1 (List.mem_cons.not.1 hn)
    exact ⟨h.1.join (Ne.symm hpa) (Ne.symm hnx), h.2.join hpl hnl hb⟩

/-- The last node of the path gets another neighbour. -/
theorem Path.retarget : ∀ {a : α} {l : List α}, m.Path a l b → (a :: l).Nodup → n ∉ l →
    (m.join (m.prev b) n).Path a l n
  | a, [], h, _, _ => by
    rw [h.2]
    exact link_join m a n
  | a, x :: l, h, hnodup, hn => by
    obtain ⟨hnx, hnl⟩ := not_or.1 (List.mem_cons.not.1 hn)
    obtain ⟨ha, hl⟩ := List.nodup_cons.1 hnodup
    have hlast : a ≠ m.prev b := fun he => ha (he ▸ h.2.prev_mem)
    exact ⟨h.1.join hlast (Ne.symm hnx), h.2.retarget hl hnl⟩

theorem Circle.join (h : m.Circle c) (hp : p ∉ c) (hn : n ∉ c) : (m.join p n).Circle c := by
  rcases c with _ | ⟨x, l⟩
  · trivial
  · obtain ⟨hnx, hnl⟩ := not_or.1 (List.mem_cons.not.1 hn)
    exact Path.join h hp hnl hnx

/-- A new node before the first. -/
theorem Circle.insert (h : m.Circle (x :: l)) (hnodup : (x :: l).Nodup) (he : e ∉ x :: l) :
    ((m.join e x).join (m.prev x) e).Circle (e :: x :: l) := by
  obtain ⟨hex, hel⟩ := not_or.1 (List.mem_cons.not.1 he)
  have hprev : e ≠ m.prev x := fun h' => he (h' ▸ h.prev_mem)
  rw [join_comm hprev (Ne.symm hex)]
  have hpath : (m.join (m.prev x) e).Path x l e := Path.retarget h hnodup hel
  exact ⟨link_join _ e x, hpath.join he (List.nodup_cons.1 hnodup).1 (Ne.symm hex)⟩

/-- The first node taken out. -/
theorem Circle.remove (h : m.Circle (e :: c)) (hnodup : (e :: c).Nodup) :
    (m.join (m.prev e) (m.next e)).Circle c := by
  rcases c with _ | ⟨x, l⟩
  · trivial
  · have hl := (List.nodup_cons.1 hnodup).2
    rw [h.1.1]
    exact Path.retarget h.2 hl (List.nodup_cons.1 hl).1

end Links
