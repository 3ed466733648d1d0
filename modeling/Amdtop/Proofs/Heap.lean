import Mathlib.Algebra.Order.Group.Multiset
import Mathlib.Data.Multiset.Count
import Mathlib.Tactic.Abel
import Amdtop.Heap

/-!
# Rules for the ledger

`Owned m live` says that what was allocated is what was freed and the blocks in `live`, each once.
An allocation adds its block to `live` and a free takes it out, so what is not live at the end was
freed exactly once (`Owned.freed_once`). `AllocOk ok a k` says that the `k` calls from number `a`
on succeed.
-/

namespace Heap

variable {α : Type*}

/-! ## Calls that succeed -/

def AllocOk (ok : ℕ → Bool) (a k : ℕ) : Prop := ∀ i < k, ok (a + i) = true

theorem allocOk_zero (ok : ℕ → Bool) (a : ℕ) : AllocOk ok a 0 := fun _ h => absurd h (by omega)

theorem allocOk_one {ok : ℕ → Bool} {a : ℕ} : AllocOk ok a 1 ↔ ok a = true := by
  refine ⟨fun h => h 0 (by omega), fun h i hi => ?_⟩
  rwa [show i = 0 by omega]

theorem allocOk_add {ok : ℕ → Bool} {a j k : ℕ} :
    AllocOk ok a (j + k) ↔ AllocOk ok a j ∧ AllocOk ok (a + j) k := by
  constructor
  · refine fun h => ⟨fun i hi => h i (by omega), fun i hi => ?_⟩
    rw [Nat.add_assoc]
    exact h (j + i) (by omega)
  · rintro ⟨h1, h2⟩ i hi
    by_cases hij : i < j
    · exact h1 i hij
    · have := h2 (i - j) (by omega)
      rwa [show a + j + (i - j) = a + i by omega] at this

/-- The number of calls `callocFor` makes. -/
def used (n : ℕ) : ℕ := if n = 0 then 0 else 1

section Calloc

variable (ok : ℕ → Bool) (w n : ℕ) (z : α) (m : Ledger)

theorem calloc_calls : (calloc ok w n z m).2.calls = m.calls + 1 := by
  unfold calloc
  split_ifs <;> rfl

theorem calloc_isNone : (calloc ok w n z m).1.isNone = !ok m.calls := by
  unfold calloc
  split_ifs with h <;> simp [h]

theorem calloc_cells {ok : ℕ → Bool} {m : Ledger} (h : ok m.calls = true) :
    (calloc ok w n z m).1.cells = List.replicate n z := by
  unfold calloc
  rw [if_pos h]
  rfl

theorem calloc_overrun : (calloc ok w n z m).2.overrun = m.overrun := by
  unfold calloc
  split_ifs <;> rfl

theorem callocFor_calls : (callocFor ok w n z m).2.calls = m.calls + used n := by
  unfold callocFor used
  split_ifs
  · rfl
  · exact calloc_calls ok w n z m

theorem callocFor_overrun : (callocFor ok w n z m).2.overrun = m.overrun := by
  unfold callocFor
  split_ifs
  · rfl
  · exact calloc_overrun ok w n z m

/-- The array is there if its call succeeds. -/
theorem lost_callocFor :
    lost n (callocFor ok w n z m).1 = false ↔ AllocOk ok m.calls (used n) := by
  unfold lost callocFor used
  by_cases hn : n = 0
  · simp [hn, allocOk_zero]
  · rw [if_neg hn, if_neg hn, calloc_isNone, allocOk_one]
    simp [hn]

theorem callocFor_cells {ok : ℕ → Bool} {m : Ledger} (h : AllocOk ok m.calls (used n)) :
    (callocFor ok w n z m).1.cells = List.replicate n z := by
  unfold callocFor
  by_cases hn : n = 0
  · simp [hn, Ptr.cells]
  · rw [if_neg hn]
    rw [used, if_neg hn] at h
    exact calloc_cells w n z (allocOk_one.1 h)

end Calloc

/-! ## Copies -/

section Copy

theorem memcpy_isNone (n : ℕ) (dst src : Ptr α) (m : Ledger) :
    (memcpy n dst src m).1.isNone = dst.isNone := by
  unfold memcpy
  split <;> rfl

theorem memcpy_calls (n : ℕ) (dst src : Ptr α) (m : Ledger) :
    (memcpy n dst src m).2.calls = m.calls := by
  unfold memcpy
  split <;> rfl

theorem ids_memcpy (n : ℕ) (dst src : Ptr α) (m : Ledger) :
    (memcpy n dst src m).1.ids = dst.ids := by
  unfold memcpy
  split <;> rfl

theorem cells_memcpy {n : ℕ} {dst : Ptr α} (h : dst.cells.length = n) (src : Ptr α) (m : Ledger) :
    (memcpy n dst src m).1.cells
      = src.cells.take n ++ dst.cells.drop (src.cells.take n).length := by
  rcases dst with _ | d
  · have h0 : n = 0 := h.symm
    simp [memcpy, Ptr.cells, h0]
  · rfl

/-- A copy keeps the array's length. -/
theorem length_memcpy {n : ℕ} {dst : Ptr α} (h : dst.cells.length = n) (src : Ptr α)
    (m : Ledger) : (memcpy n dst src m).1.cells.length = n := by
  rw [cells_memcpy h, List.length_append, List.length_drop, List.length_take, h]
  omega

theorem size_memcpy {n : ℕ} {dst : Ptr α} (h : dst.cells.length = n) (src : Ptr α) (m : Ledger) :
    (memcpy n dst src m).1.size = dst.size := by
  have hlen := length_memcpy h src m
  rcases dst with _ | d
  · rfl
  · exact congrArg (d.width * ·) (hlen.trans h.symm)

theorem size_copyOut (p : Ptr α) (l : List α) (count : ℕ) :
    (p.copyOut l count).size = p.size := by
  unfold Ptr.copyOut
  split_ifs
  · rcases p with _ | b
    · rfl
    · have hlen : ((l ++ b.data.drop l.length).take b.data.length).length = b.data.length := by
        rw [List.length_take, List.length_append, List.length_drop]
        omega
      simp only [Option.map_some, Ptr.size, hlen]
  · rfl

theorem length_copyOut (p : Ptr α) (l : List α) (count : ℕ) :
    (p.copyOut l count).cells.length = p.cells.length := by
  unfold Ptr.copyOut
  split_ifs
  · rcases p with _ | b
    · rfl
    · simp only [Option.map_some, Ptr.cells, List.length_take, List.length_append,
        List.length_drop]
      omega
  · rfl

theorem isNone_copyOut (p : Ptr α) (l : List α) (count : ℕ) :
    (p.copyOut l count).isNone = p.isNone := by
  unfold Ptr.copyOut
  split_ifs
  · exact Option.isNone_map
  · rfl

theorem ids_copyOut (p : Ptr α) (l : List α) (count : ℕ) : (p.copyOut l count).ids = p.ids := by
  unfold Ptr.copyOut
  split_ifs
  · rcases p with _ | b <;> rfl
  · rfl

theorem cells_copyOut {p : Ptr α} {l : List α} {count : ℕ} (hp : p.cells.length = count)
    (hl : l.length ≤ count) : (p.copyOut l count).cells = l ++ p.cells.drop l.length := by
  unfold Ptr.copyOut
  rw [if_pos hl]
  rcases p with _ | b
  · simp only [Ptr.cells, List.length_nil] at hp
    have : l = [] := List.length_eq_zero_iff.1 (by omega)
    simp [this, Ptr.cells]
  · simp only [Ptr.cells] at hp
    simp only [Option.map_some, Ptr.cells]
    rw [List.take_of_length_le]
    simp only [List.length_append, List.length_drop]
    omega

end Copy

theorem free_overrun (p : Ptr α) (m : Ledger) : (free p m).overrun = m.overrun := by
  rcases p with _ | b <;> rfl

theorem free_calls (p : Ptr α) (m : Ledger) : (free p m).calls = m.calls := by
  rcases p with _ | b <;> rfl

/-! ## Ownership -/

structure Owned (m : Ledger) (live : Multiset ℕ) : Prop where
  balance : (m.frees : Multiset ℕ) + live = m.allocs
  nodup : m.allocs.Nodup
  lt : ∀ i ∈ m.allocs, i < m.calls

namespace Owned

variable {m : Ledger} {live : Multiset ℕ}

theorem empty : Owned {} 0 := ⟨rfl, List.nodup_nil, by simp⟩

theorem calloc (h : Owned m live) (ok : ℕ → Bool) (w n : ℕ) (z : α) :
    Owned (Heap.calloc ok w n z m).2 ((Heap.calloc ok w n z m).1.ids + live) := by
  unfold Heap.calloc
  split_ifs
  · refine ⟨?_, List.nodup_cons.2 ⟨fun hm => absurd (h.lt _ hm) (by simp), h.nodup⟩, ?_⟩
    · simp only [Ptr.ids, Multiset.singleton_add, Multiset.add_cons, h.balance, Multiset.cons_coe]
    · intro i hi
      rcases List.mem_cons.1 hi with rfl | hi
      · exact Nat.lt_succ_self _
      · exact Nat.lt_succ_of_lt (h.lt i hi)
  · exact ⟨by simpa [Ptr.ids] using h.balance, h.nodup, fun i hi => Nat.lt_succ_of_lt (h.lt i hi)⟩

theorem callocFor (h : Owned m live) (ok : ℕ → Bool) (w n : ℕ) (z : α) :
    Owned (Heap.callocFor ok w n z m).2 ((Heap.callocFor ok w n z m).1.ids + live) := by
  unfold Heap.callocFor
  split_ifs
  · simpa [Ptr.ids] using h
  · exact h.calloc ok w n z

theorem free {p : Ptr α} (h : Owned m (p.ids + live)) : Owned (Heap.free p m) live := by
  rcases p with _ | b
  · simpa [Ptr.ids, Heap.free] using h
  · refine ⟨?_, h.nodup, h.lt⟩
    have := h.balance
    simp only [Ptr.ids, Multiset.singleton_add, Multiset.add_cons] at this
    rwa [← Multiset.cons_add, Multiset.cons_coe] at this

theorem memcpy (h : Owned m live) (n : ℕ) (dst src : Ptr α) :
    Owned (Heap.memcpy n dst src m).2 live := by
  unfold Heap.memcpy
  split
  · exact h
  · exact ⟨h.balance, h.nodup, h.lt⟩

theorem dupArray (h : Owned m live) (ok : ℕ → Bool) (w n : ℕ) (z : α) (src : Ptr α) :
    Owned (Heap.dupArray ok w n z src m).2 ((Heap.dupArray ok w n z src m).1.ids + live) := by
  have h' := (h.callocFor ok w n z).memcpy n (Heap.callocFor ok w n z m).1 src
  rwa [← ids_memcpy n _ src (Heap.callocFor ok w n z m).2] at h'

theorem freed_once (h : Owned m live) {i : ℕ} (hi : i ∈ m.allocs) (hlive : i ∉ live) :
    m.frees.count i = 1 := by
  have hcount := congrArg (Multiset.count i) h.balance
  rw [Multiset.count_add, Multiset.count_eq_zero_of_notMem hlive, Multiset.coe_count,
    Multiset.coe_count, List.count_eq_one_of_mem h.nodup hi] at hcount
  exact hcount

theorem live_mem (h : Owned m live) {i : ℕ} (hi : i ∈ live) : i ∈ m.allocs ∧ i ∉ m.frees := by
  have hmem : i ∈ (m.allocs : Multiset ℕ) := h.balance ▸ Multiset.mem_add.2 (Or.inr hi)
  refine ⟨Multiset.mem_coe.1 hmem, fun hf => ?_⟩
  have hcount := congrArg (Multiset.count i) h.balance
  rw [Multiset.count_add, Multiset.coe_count, Multiset.coe_count,
    List.count_eq_one_of_mem h.nodup (Multiset.mem_coe.1 hmem)] at hcount
  have h1 := Multiset.one_le_count_iff_mem.2 hi
  have h2 := List.one_le_count_iff.2 hf
  omega

theorem live_of_le (h : Owned m live) {ids : Multiset ℕ} (hle : ids ≤ live) : m.Live ids :=
  fun _ hi => h.live_mem (Multiset.mem_of_le hle hi)

theorem freed_mem (h : Owned m live) {i : ℕ} (hi : i ∈ m.frees) : i ∈ m.allocs := by
  have hmem : i ∈ (m.allocs : Multiset ℕ) :=
    h.balance ▸ Multiset.mem_add.2 (Or.inl (Multiset.mem_coe.2 hi))
  exact Multiset.mem_coe.1 hmem

end Owned

/-! ## Blocks that stay -/

/-- What is live stays so; more may have become live. -/
def Grows (m m' : Ledger) : Prop := ∀ live, Owned m live → ∃ extra, Owned m' (extra + live)

theorem Grows.refl (m : Ledger) : Grows m m := fun live h => ⟨0, by rwa [zero_add]⟩

theorem Grows.trans {m m' m'' : Ledger} (h : Grows m m') (h' : Grows m' m'') : Grows m m'' := by
  intro live hm
  obtain ⟨extra, hm'⟩ := h live hm
  obtain ⟨extra', hm''⟩ := h' _ hm'
  exact ⟨extra' + extra, by rwa [add_assoc]⟩

/-- A block may be taken at the start and freed at the end. -/
theorem Grows.free {m m' m'' : Ledger} {p : Ptr α}
    (h : ∀ {live}, Owned m live → Owned m' (p.ids + live)) (h' : Grows m' m'') :
    Grows m (Heap.free p m'') := by
  intro live hm
  obtain ⟨extra, hm''⟩ := h' _ (h hm)
  exact ⟨extra, Owned.free (by rwa [add_left_comm])⟩

/-- A block may be taken and kept. -/
theorem Grows.keep {m m' m'' : Ledger} {p : Ptr α}
    (h : ∀ {live}, Owned m live → Owned m' (p.ids + live)) (h' : Grows m' m'') : Grows m m'' := by
  intro live hm
  obtain ⟨extra, hm''⟩ := h' _ (h hm)
  exact ⟨extra + p.ids, by rwa [add_assoc]⟩

/-! ## A call that succeeds -/

/-- What the call for an array leaves. -/
structure Got (w n : ℕ) (z : α) (m : Ledger) (p : Ptr α) (m' : Ledger) : Prop where
  there : lost n p = false
  null : p.isNone = true ↔ n = 0
  cells : p.cells = List.replicate n z
  size : p.size = w * n
  calls : m'.calls = m.calls + used n
  overrun : m'.overrun = m.overrun
  owned : ∀ {live}, Owned m live → Owned m' (p.ids + live)

theorem Got.length {w n : ℕ} {z : α} {m m' : Ledger} {p : Ptr α} (h : Got w n z m p m') :
    p.cells.length = n := by
  rw [h.cells, List.length_replicate]

theorem callocFor_size {ok : ℕ → Bool} {m : Ledger} (w n : ℕ) (z : α)
    (h : AllocOk ok m.calls (used n)) : (callocFor ok w n z m).1.size = w * n := by
  unfold callocFor
  by_cases hn : n = 0
  · simp [hn, Ptr.size]
  · rw [if_neg hn, calloc, if_pos (allocOk_one.1 (by rwa [used, if_neg hn] at h))]
    simp [Ptr.size]

theorem callocFor_null {ok : ℕ → Bool} {m : Ledger} (w n : ℕ) (z : α)
    (h : AllocOk ok m.calls (used n)) : (callocFor ok w n z m).1.isNone = true ↔ n = 0 := by
  unfold callocFor
  by_cases hn : n = 0
  · simp [hn]
  · rw [used, if_neg hn, allocOk_one] at h
    rw [if_neg hn, calloc_isNone, h]
    simp [hn]

theorem callocFor_got (w n : ℕ) (z : α) {ok : ℕ → Bool} {m : Ledger}
    (h : AllocOk ok m.calls (used n)) :
    ∃ p m', callocFor ok w n z m = (p, m') ∧ Got w n z m p m' :=
  ⟨_, _, rfl, (lost_callocFor ok w n z m).2 h, callocFor_null w n z h, callocFor_cells w n z h,
    callocFor_size w n z h,
    callocFor_calls ok w n z m, callocFor_overrun ok w n z m, fun hm => hm.callocFor ok w n z⟩

/-- The call for a single object. -/
theorem calloc_some (w n : ℕ) (z : α) {ok : ℕ → Bool} {m : Ledger} (h : ok m.calls = true) :
    ∃ b m', calloc ok w n z m = (some b, m') ∧ m'.calls = m.calls + 1 ∧ m'.overrun = m.overrun
      ∧ ∀ {live}, Owned m live → Owned m' ({b.id} + live) := by
  refine ⟨⟨m.calls, w, List.replicate n z⟩,
    { m with calls := m.calls + 1, allocs := m.calls :: m.allocs }, by rw [calloc, if_pos h], rfl,
    rfl, ?_⟩
  intro live hm
  have h' := hm.calloc ok w n z
  rwa [calloc, if_pos h] at h'

theorem calloc_none (w n : ℕ) (z : α) {ok : ℕ → Bool} {m : Ledger} (h : ok m.calls = false) :
    calloc ok w n z m = (none, { m with calls := m.calls + 1 }) := by
  rw [calloc, if_neg (by simp [h])]

/-! ## Arrays of their own -/

theorem memcpy_overrun {w n : ℕ} {z : α} {m m' : Ledger} {p : Ptr α} (h : Got w n z m p m')
    (src : Ptr α) :
    (memcpy n p src m').2.overrun = (m'.overrun || decide (src.size < w * n)) := by
  rcases p with _ | b
  · have h0 : n = 0 := by simpa [Ptr.cells] using h.length.symm
    simp [memcpy, h0]
  · have hlen := h.length
    have hsize := h.size
    simp only [Ptr.cells] at hlen
    simp only [Ptr.size, hlen] at hsize
    simp only [memcpy, hsize]

theorem lost_memcpy (k n : ℕ) (dst src : Ptr α) (m : Ledger) :
    lost k (memcpy n dst src m).1 = lost k dst := by
  unfold lost
  rw [memcpy_isNone]

/-- An array of `n` elements, the first `n` of another that has as many. -/
structure Copied (w n : ℕ) (src p : Ptr α) : Prop where
  there : lost n p = false
  length : p.cells.length = n
  size : p.size = w * n
  cells : n ≤ src.cells.length → p.cells = src.cells.take n

theorem memcpy_copied {w n : ℕ} {p : Ptr α} (src : Ptr α) (m : Ledger) (hp : lost n p = false)
    (hlen : p.cells.length = n) (hsize : p.size = w * n) :
    Copied w n src (memcpy n p src m).1 := by
  refine ⟨?_, length_memcpy hlen src m, (size_memcpy hlen src m).trans hsize, ?_⟩
  · rw [lost_memcpy, hp]
  · intro hn
    rw [cells_memcpy hlen, List.length_take, Nat.min_eq_left hn, List.drop_of_length_le hlen.le,
      List.append_nil]

theorem copyOut_take {p : Ptr α} {l : List α} {count : ℕ}
    (hp : p.cells.length = count) (hl : l.length ≤ count) :
    (p.copyOut l count).cells.take l.length = l := by
  rw [cells_copyOut hp hl, List.take_left]

theorem Copied.copyOut {p q : Ptr α} {l : List α} {count w n : ℕ}
    (h : Copied w n (p.copyOut l count) q) (hp : p.cells.length = count) (hl : l.length ≤ count)
    (hn : n = l.length) : q.cells = l := by
  subst hn
  rw [h.cells (by rw [length_copyOut, hp]; exact hl), copyOut_take hp hl]

theorem Copied.filled {p q : Ptr α} {l : List α} {count w n : ℕ} {room : Prop}
    (h : Copied w n (p.copyOut l count) q) (hn : n = l.length)
    (hroom : room → l ≠ [] → p.cells.length = count ∧ l.length ≤ count) : q.Filled w l room := by
  refine ⟨h.length.trans hn, hn ▸ h.size, fun hr => ?_⟩
  by_cases hl : l = []
  · rw [hl] at hn ⊢
    exact List.length_eq_zero_iff.1 (h.length.trans hn)
  · exact h.copyOut (hroom hr hl).1 (hroom hr hl).2 hn

/-- What the copy of an array leaves. -/
structure Dup (w n : ℕ) (src : Ptr α) (m : Ledger) (p : Ptr α) (m' : Ledger) : Prop where
  copied : Copied w n src p
  calls : m'.calls = m.calls + used n
  overrun : m'.overrun = (m.overrun || decide (src.size < w * n))
  owned : ∀ {live}, Owned m live → Owned m' (p.ids + live)

theorem dupArray_dup (w n : ℕ) (z : α) (src : Ptr α) {ok : ℕ → Bool} {m : Ledger}
    (h : AllocOk ok m.calls (used n)) :
    ∃ p m', dupArray ok w n z src m = (p, m') ∧ Dup w n src m p m' := by
  obtain ⟨p, m', e, g⟩ := callocFor_got w n z h
  refine ⟨(memcpy n p src m').1, (memcpy n p src m').2, by rw [dupArray, e],
    memcpy_copied src m' g.there g.length g.size, ?_, ?_, ?_⟩
  · rw [memcpy_calls, g.calls]
  · rw [memcpy_overrun g, g.overrun]
  · intro live hm
    rw [ids_memcpy]
    exact (g.owned hm).memcpy n p src

theorem lost_dupArray (ok : ℕ → Bool) (w n : ℕ) (z : α) (src : Ptr α) (m : Ledger) :
    lost n (dupArray ok w n z src m).1 = false ↔ AllocOk ok m.calls (used n) := by
  rw [← lost_callocFor ok w n z m, dupArray, lost_memcpy]

theorem dupArray_calls (ok : ℕ → Bool) (w n : ℕ) (z : α) (src : Ptr α) (m : Ledger) :
    (dupArray ok w n z src m).2.calls = m.calls + used n := by
  rw [dupArray, memcpy_calls, callocFor_calls]

/-! ## What a run leaves -/

/-- From `m` to `m'` the blocks in `left` have become live, and no others. -/
def Leaves (m m' : Ledger) (left : Multiset ℕ) : Prop :=
  ∀ ⦃live⦄, Owned m live → Owned m' (left + live)

theorem ids_add_eq_zero {a b : Multiset ℕ} : a + b = 0 ↔ a = 0 ∧ b = 0 := by
  rw [← Multiset.card_eq_zero, ← Multiset.card_eq_zero, ← Multiset.card_eq_zero,
    Multiset.card_add, Nat.add_eq_zero_iff]

theorem ids_eq_zero {p : Ptr α} : p.ids = 0 ↔ p = none := by
  rcases p with _ | b
  · exact iff_of_true rfl rfl
  · exact iff_of_false (Multiset.singleton_ne_zero b.id) (Option.some_ne_none b)

/-- What is not lost is there just if it is asked for. -/
theorem ids_callocFor_eq_zero {ok : ℕ → Bool} {w n : ℕ} {z : α} {m m' : Ledger} {p : Ptr α}
    (h : callocFor ok w n z m = (p, m')) (hlost : lost n p = false) : p.ids = 0 ↔ n = 0 := by
  rw [ids_eq_zero]
  constructor
  · rintro rfl
    simpa [lost] using hlost
  · rintro rfl
    exact (Prod.mk.inj h).1.symm

section Leaves

variable {m m' m'' : Ledger} {left left' live : Multiset ℕ} {p : Ptr α}

theorem Owned.unique (h : Owned m live) (h' : Owned m left) : live = left :=
  add_left_cancel (h.balance.trans h'.balance.symm)

theorem Leaves.owned_iff (h : Leaves m m' left) (hm : Owned m live) :
    Owned m' live ↔ left = 0 := by
  constructor
  · intro h'
    exact add_eq_right.1 ((h hm).unique h')
  · rintro rfl
    have h' := h hm
    rwa [zero_add] at h'

theorem Leaves.refl (m : Ledger) : Leaves m m 0 := fun _ hm => by rwa [zero_add]

theorem Leaves.trans (h : Leaves m m' left) (h' : Leaves m' m'' left') :
    Leaves m m'' (left' + left) := fun _ hm => by
  rw [add_assoc]
  exact h' (h hm)

theorem Leaves.free (h : Leaves m m' (p.ids + left)) : Leaves m (Heap.free p m') left :=
  fun _ hm => Owned.free (by rw [← add_assoc]; exact h hm)

theorem Leaves.congr (h : Leaves m m' left) (he : left = left') : Leaves m m' left' := he ▸ h

theorem calloc_leaves {ok : ℕ → Bool} {w n : ℕ} {z : α} (h : calloc ok w n z m = (p, m')) :
    Leaves m m' p.ids := fun _ hm => by
  have h' := hm.calloc ok w n z
  rwa [h] at h'

/-- A call that fails takes its number. -/
theorem Owned.calloc_none {ok : ℕ → Bool} (h : Owned m live) (w n : ℕ) (z : α)
    (hok : ok m.calls = false) : Owned { m with calls := m.calls + 1 } live := by
  have h' := calloc_leaves (Heap.calloc_none w n z hok) h
  rwa [show Ptr.ids (none : Ptr α) = 0 from rfl, zero_add] at h'

theorem callocFor_leaves {ok : ℕ → Bool} {w n : ℕ} {z : α} (h : callocFor ok w n z m = (p, m')) :
    Leaves m m' p.ids := fun _ hm => by
  have h' := hm.callocFor ok w n z
  rwa [h] at h'

theorem calloc_memcpy_leaves (ok : ℕ → Bool) (w n : ℕ) (z : α) (src : Ptr α) (m : Ledger) :
    Leaves m (memcpy n (calloc ok w n z m).1 src (calloc ok w n z m).2).2
      (memcpy n (calloc ok w n z m).1 src (calloc ok w n z m).2).1.ids := fun _ hm => by
  rw [ids_memcpy]
  exact (hm.calloc ok w n z).memcpy n _ src

theorem dupArray_leaves {ok : ℕ → Bool} {w n : ℕ} {z : α} {src : Ptr α}
    (h : dupArray ok w n z src m = (p, m')) : Leaves m m' p.ids := fun _ hm => by
  have h' := hm.dupArray ok w n z src
  rwa [h] at h'

end Leaves

end Heap
