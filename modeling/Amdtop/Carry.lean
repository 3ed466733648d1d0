import Mathlib.Data.List.DropRight

/-!
# A search with one record for all items

Each item may have a reading. A search that keeps one record and writes it only where there is a
reading compares an item without one by the reading before it; `lastMatch` is the last item that
compares equal. It finds no item only if the target is not read and not there to begin with
(`lastMatch_eq_none_iff`), and the one it finds has the target as its own reading unless the
record is carried past the last such item (`own_lastMatch_iff`).
-/

namespace Carry

variable {δ α : Type*} [DecidableEq α] (own : δ → Option α) (t : α)

/-- The last item at which the record, `a` before the first, holds `t`. -/
def lastMatch : List δ → α → Option δ
  | [], _ => none
  | d :: ds, a =>
    (lastMatch ds ((own d).getD a)).or (if (own d).getD a = t then some d else none)

variable {own t}

theorem lastMatch_mem : ∀ {ds : List δ} {a : α} {d : δ}, lastMatch own t ds a = some d → d ∈ ds
  | [], _, _, h => by simp [lastMatch] at h
  | e :: ds, a, d, h => by
    rcases Option.or_eq_some_iff.1 h with h | ⟨-, h⟩
    · exact List.mem_cons_of_mem _ (lastMatch_mem h)
    · split_ifs at h
      simp_all

theorem own_of_lastMatch : ∀ {ds : List δ} {a : α} {d : δ}, lastMatch own t ds a = some d →
    own d = some t ∨ own d = none
  | [], _, _, h => by simp [lastMatch] at h
  | e :: ds, a, d, h => by
    rcases Option.or_eq_some_iff.1 h with h | ⟨-, h⟩
    · exact own_of_lastMatch h
    · split_ifs at h with he
      obtain rfl := Option.some.inj h
      rcases ho : own e with _ | b
      · exact Or.inr rfl
      · rw [ho] at he
        exact Or.inl (congrArg some he)

theorem lastMatch_eq_none_iff : ∀ {ds : List δ} {a : α},
    lastMatch own t ds a = none ↔
      some t ∉ ds.map own ∧ ¬ (a = t ∧ (ds.map own).head? = some none)
  | [], a => by simp [lastMatch]
  | d :: ds, a => by
    unfold lastMatch
    rw [Option.or_eq_none_iff, lastMatch_eq_none_iff]
    rcases hd : own d with _ | b
    · by_cases ha : a = t
      · simp [ha, hd]
      · simp [ha, hd]
    · by_cases hb : b = t
      · simp [hb, hd]
      · have hb' : t ≠ b := fun h => hb h.symm
        simp [hb, hb', hd]

theorem lastMatch_append : ∀ (pre : List δ) {post : List δ} {d : δ} (a : α), own d = some t →
    lastMatch own t (pre ++ d :: post) a = (lastMatch own t post t).or (some d)
  | [], post, d, a, h => by simp [lastMatch, h]
  | e :: pre, post, d, a, h => by
    rw [List.cons_append, lastMatch, lastMatch_append pre _ h]
    rcases lastMatch own t post t with _ | d' <;> simp

/-- What follows the last occurrence. -/
theorem rtakeWhile_append {pre post : List (Option α)} (h : some t ∉ post) :
    (pre ++ some t :: post).rtakeWhile (· ≠ some t) = post := by
  have htake : ∀ l : List (Option α), some t ∉ l → ∀ more : List (Option α),
      (l ++ some t :: more).takeWhile (· ≠ some t) = l := by
    intro l hl more
    rw [List.takeWhile_append_of_pos (by simpa using fun x hx => ne_of_mem_of_not_mem hx hl),
      List.takeWhile_cons_of_neg (by simp), List.append_nil]
  rw [List.rtakeWhile, List.reverse_append, List.reverse_cons, List.append_assoc,
    List.singleton_append, htake _ (by simpa using h), List.reverse_reverse]

/-- With the target among the readings, the item found has it as its own reading exactly when the
last one that does is the last item, or is followed by an item with a reading. -/
theorem own_lastMatch_iff {ds : List δ} {a : α} (ht : some t ∈ ds.map own) :
    (∃ d, lastMatch own t ds a = some d ∧ own d = some t) ↔
      ((ds.map own).rtakeWhile (· ≠ some t)).head? ≠ some none := by
  obtain ⟨pre, d, post, rfl, hd, hpost⟩ :
      ∃ pre d post, ds = pre ++ d :: post ∧ own d = some t ∧ some t ∉ post.map own := by
    clear a
    induction ds with
    | nil => simp at ht
    | cons e ds ih =>
      by_cases h : some t ∈ ds.map own
      · obtain ⟨pre, d, post, rfl, hd, hpost⟩ := ih h
        exact ⟨e :: pre, d, post, rfl, hd, hpost⟩
      · refine ⟨[], e, ds, rfl, ?_, h⟩
        rw [List.map_cons, List.mem_cons] at ht
        exact (ht.resolve_right h).symm
  have hnone : lastMatch own t post t = none ↔ _ := lastMatch_eq_none_iff
  rw [lastMatch_append pre a hd, List.map_append, List.map_cons, hd, rtakeWhile_append hpost]
  rcases hm : lastMatch own t post t with _ | d'
  · have := (hnone.1 hm).2
    exact iff_of_true ⟨d, rfl, hd⟩ fun h => this ⟨rfl, h⟩
  · refine iff_of_false ?_ ?_
    · rintro ⟨e, he, howne⟩
      obtain rfl := Option.some.inj he
      exact hpost (List.mem_map.2 ⟨d', lastMatch_mem hm, howne⟩)
    · intro h
      have : lastMatch own t post t = none := hnone.2 ⟨hpost, fun hh => h hh.2⟩
      rw [this] at hm
      cases hm

/-! ## All matches -/

variable (own t) in
/-- The items at which the record holds `t`. -/
def hits : List δ → α → List δ
  | [], _ => []
  | d :: ds, a => (if (own d).getD a = t then [d] else []) ++ hits ds ((own d).getD a)

variable (own t) in
/-- The others. -/
def misses : List δ → α → List δ
  | [], _ => []
  | d :: ds, a => (if (own d).getD a = t then [] else [d]) ++ misses ds ((own d).getD a)

theorem lastMatch_eq_getLast? : ∀ (ds : List δ) (a : α),
    lastMatch own t ds a = (hits own t ds a).getLast?
  | [], _ => rfl
  | d :: ds, a => by
    rw [lastMatch, hits, List.getLast?_append, lastMatch_eq_getLast?]
    split_ifs <;> rfl

/-- Items with the same readings match alike. -/
theorem hits_forall₂ {ε : Type*} {own' : ε → Option α} {R : δ → ε → Prop}
    (h : ∀ d e, R d e → own d = own' e) : ∀ {ds : List δ} {es : List ε} (a : α),
    List.Forall₂ R ds es → List.Forall₂ R (hits own t ds a) (hits own' t es a)
      ∧ List.Forall₂ R (misses own t ds a) (misses own' t es a)
  | [], [], _, .nil => ⟨.nil, .nil⟩
  | d :: ds, e :: es, a, .cons hd hds => by
    obtain ⟨hhits, hmisses⟩ := hits_forall₂ h ((own d).getD a) hds
    rw [hits, hits, misses, misses, ← h d e hd]
    split_ifs
    · exact ⟨.cons hd hhits, hmisses⟩
    · exact ⟨hhits, .cons hd hmisses⟩

end Carry
