import Mathlib.Data.List.Basic
import Mathlib.Data.List.Range

/-!
# Scans that begin again

A scan takes what waits in order. It stops at the first item that cannot be served, and may stop
after one that it has served; the next scan begins from the start. So what is served is always the
first items of `reach`, the ones before any that cannot be served, and each scan serves another
until all of `reach` is (`Served.scan`).
-/

namespace Retry

variable {ι : Type*} (wants good : ι → Bool)

/-- What waits, up to the first item that cannot be served. -/
def reach : List ι → (ι → Bool) → List ι
  | [], _ => []
  | i :: is, done =>
    if done i = true ∨ wants i = false then reach is done
    else if good i = true then i :: reach is done
    else []

section Reach

variable {wants good}

/-- Only what is scanned matters. -/
theorem reach_congr {is : List ι} {done done' : ι → Bool} (h : ∀ i ∈ is, done i = done' i) :
    reach wants good is done = reach wants good is done' := by
  induction is with
  | nil => rfl
  | cons i is ih =>
    rw [List.forall_mem_cons] at h
    rw [reach, reach, h.1, ih h.2]

theorem length_reach_le : ∀ (is : List ι) (done : ι → Bool),
    (reach wants good is done).length ≤ is.length
  | [], _ => le_rfl
  | i :: is, done => by
    have hle := length_reach_le is done
    rw [reach]
    split_ifs
    · exact hle.trans (Nat.le_succ _)
    · exact Nat.succ_le_succ hle
    · exact Nat.zero_le _

/-- A list that begins with `pre` and then `i`, by where `i` is. -/
theorem exists_initial_cons {P : List ι → Prop} {i j : ι} {is : List ι} :
    (∃ pre, pre ++ [i] <+: j :: is ∧ P pre)
      ↔ (i = j ∧ P []) ∨ ∃ pre, pre ++ [i] <+: is ∧ P (j :: pre) := by
  constructor
  · rintro ⟨_ | ⟨k, pre⟩, hpre, h⟩
    · exact Or.inl ⟨(List.cons_prefix_cons.1 hpre).1, h⟩
    · obtain ⟨rfl, hrest⟩ := List.cons_prefix_cons.1 hpre
      exact Or.inr ⟨pre, hrest, h⟩
  · rintro (⟨rfl, h⟩ | ⟨pre, hpre, h⟩)
    · exact ⟨[], List.cons_prefix_cons.2 ⟨rfl, List.nil_prefix⟩, h⟩
    · exact ⟨j :: pre, List.cons_prefix_cons.2 ⟨rfl, hpre⟩, h⟩

/-- An item is reached if it waits and can be served, and so can all that wait before it. -/
theorem mem_reach_iff (done : ι → Bool) (i : ι) : ∀ is : List ι,
    i ∈ reach wants good is done ↔ (done i = false ∧ wants i = true ∧ good i = true)
      ∧ ∃ pre, pre ++ [i] <+: is
        ∧ ∀ j ∈ pre, done j = false → wants j = true → good j = true
  | [] => by simp [reach]
  | j :: is => by
    have ih := mem_reach_iff done i is
    rw [exists_initial_cons, reach]
    simp only [List.forall_mem_cons]
    split_ifs with hskip hgood
    · rw [ih]
      refine and_congr_right fun hi => ?_
      have hne : i ≠ j := by
        rintro rfl
        rcases hskip with hd | hw
        · rw [hi.1] at hd
          cases hd
        · rw [hi.2.1] at hw
          cases hw
      have hj : done j = false → wants j = true → good j = true := fun hd hw => by
        simp [hd, hw] at hskip
      simp only [hne, false_and, false_or, and_iff_right hj]
    · obtain ⟨hd, hw⟩ := not_or.1 hskip
      rw [Bool.not_eq_true] at hd
      rw [Bool.not_eq_false] at hw
      rw [List.mem_cons, ih]
      rcases eq_or_ne i j with rfl | hne
      · simp [hd, hw, hgood]
      · simp [hne, hgood]
    · obtain ⟨hd, hw⟩ := not_or.1 hskip
      rw [Bool.not_eq_true] at hd
      rw [Bool.not_eq_false] at hw
      refine iff_of_false List.not_mem_nil ?_
      rintro ⟨hi, ⟨rfl, -⟩ | ⟨pre, -, hj, -⟩⟩
      · exact hgood hi.2.2
      · exact hgood (hj hd hw)

end Reach

variable [DecidableEq ι]

/-- A scan of the items, by what was served before and is after it. -/
inductive Scan : List ι → (ι → Bool) → (ι → Bool) → Prop
  | nil (done : ι → Bool) : Scan [] done done
  | skip {i : ι} {is : List ι} {done done' : ι → Bool} :
      done i = true ∨ wants i = false → Scan is done done' → Scan (i :: is) done done'
  | fail {i : ι} (is : List ι) {done : ι → Bool} :
      done i = false → wants i = true → good i = false → Scan (i :: is) done done
  | stop {i : ι} (is : List ι) {done : ι → Bool} :
      done i = false → wants i = true → good i = true →
        Scan (i :: is) done (Function.update done i true)
  | next {i : ι} {is : List ι} {done done' : ι → Bool} :
      done i = false → wants i = true → good i = true →
        Scan is (Function.update done i true) done' → Scan (i :: is) done done'

/-- The items are served too. -/
def serve (is : List ι) (done : ι → Bool) (i : ι) : Bool := done i || i ∈ is

/-! ## What is reached -/

theorem serve_nil (done : ι → Bool) : serve [] done = done := by
  funext i
  simp [serve]

theorem serve_append (is js : List ι) (done : ι → Bool) :
    serve js (serve is done) = serve (is ++ js) done := by
  funext i
  simp [serve, Bool.or_assoc]

theorem serve_singleton (i : ι) (done : ι → Bool) :
    serve [i] done = Function.update done i true := by
  funext j
  unfold serve
  rcases eq_or_ne j i with rfl | h
  · simp
  · simp [h]

variable {wants good}

/-- When the first items of `reach` are served, the rest is what is reached. -/
theorem reach_serve {is : List ι} (hnodup : is.Nodup) : ∀ (k : ℕ) (done : ι → Bool),
    reach wants good is (serve ((reach wants good is done).take k) done)
      = (reach wants good is done).drop k := by
  induction is with
  | nil =>
    intro k done
    simp [reach]
  | cons i is ih =>
    intro k done
    obtain ⟨hi, hnodup⟩ := List.nodup_cons.1 hnodup
    by_cases hskip : done i = true ∨ wants i = false
    · have hreach : reach wants good (i :: is) done = reach wants good is done := if_pos hskip
      rw [hreach, reach, if_pos, ih hnodup]
      exact hskip.imp_left fun hd => by rw [serve, hd, Bool.true_or]
    by_cases hgood : good i = true
    · have hreach : reach wants good (i :: is) done = i :: reach wants good is done :=
        (if_neg hskip).trans (if_pos hgood)
      rw [hreach]
      rcases k with _ | k
      · rw [List.take_zero, serve_nil, List.drop_zero, hreach]
      · rw [List.take_succ_cons, List.drop_succ_cons, ← ih hnodup k done, reach,
          if_pos (Or.inl (by simp [serve]))]
        refine reach_congr fun j hj => ?_
        have hne : j ≠ i := ne_of_mem_of_not_mem hj hi
        simp [serve, hne]
    · have hreach : reach wants good (i :: is) done = [] := (if_neg hskip).trans (if_neg hgood)
      rw [hreach, List.take_nil, serve_nil, hreach, List.drop_nil]

/-! ## Scans -/

/-- A scan serves the first items of `reach`, one at least if there is one. -/
theorem Scan.served {is : List ι} {done done' : ι → Bool} (h : Scan wants good is done done')
    (hnodup : is.Nodup) : ∃ k, (reach wants good is done ≠ [] → 0 < k)
      ∧ done' = serve ((reach wants good is done).take k) done := by
  induction h with
  | nil done => exact ⟨0, fun h => absurd rfl h, (serve_nil done).symm⟩
  | skip hskip _ ih =>
    rw [reach, if_pos hskip]
    exact ih hnodup.of_cons
  | fail is hd hw hg =>
    rw [reach, if_neg (by simp [hd, hw]), if_neg (by simp [hg])]
    exact ⟨0, fun h => absurd rfl h, (serve_nil _).symm⟩
  | stop is hd hw hg =>
    rw [reach, if_neg (by simp [hd, hw]), if_pos hg]
    exact ⟨1, fun _ => Nat.one_pos, (serve_singleton _ _).symm⟩
  | @next i is done done' hd hw hg _ ih =>
    obtain ⟨hi, hnodup⟩ := List.nodup_cons.1 hnodup
    obtain ⟨k, -, hserve⟩ := ih hnodup
    have hreach : reach wants good is (Function.update done i true) = reach wants good is done :=
      reach_congr fun j hj =>
        Function.update_of_ne (ne_of_mem_of_not_mem hj hi) _ _
    rw [reach, if_neg (by simp [hd, hw]), if_pos hg]
    refine ⟨k + 1, fun _ => Nat.succ_pos k, ?_⟩
    rw [hserve, hreach, ← serve_singleton, serve_append, List.take_succ_cons, List.singleton_append]

variable (wants good) in
/-- Of the items reached at first, the first are served: as many as there were scans, at least. -/
def Served (is : List ι) (first done : ι → Bool) (scans : ℕ) : Prop :=
  ∃ k, min scans (reach wants good is first).length ≤ k
    ∧ done = serve ((reach wants good is first).take k) first

theorem served_zero (is : List ι) (done : ι → Bool) : Served wants good is done done 0 :=
  ⟨0, Nat.min_le_left _ _, (serve_nil done).symm⟩

theorem Served.scan {is : List ι} (hnodup : is.Nodup) {first done done' : ι → Bool} {scans : ℕ}
    (h : Served wants good is first done scans) (hscan : Scan wants good is done done') :
    Served wants good is first done' (scans + 1) := by
  obtain ⟨k, hk, rfl⟩ := h
  obtain ⟨l, hl, rfl⟩ := hscan.served hnodup
  rw [reach_serve hnodup] at hl ⊢
  refine ⟨k + l, ?_, ?_⟩
  · by_cases hall : (reach wants good is first).length ≤ k
    · omega
    · have hpos := hl (by rwa [Ne, List.drop_eq_nil_iff])
      omega
  · rw [serve_append, List.take_add]

/-- After scans enough all is served that is reached. -/
theorem Served.all {is : List ι} {first done : ι → Bool} {scans : ℕ}
    (h : Served wants good is first done scans) (hscans : is.length ≤ scans)
    (hlength : (reach wants good is first).length ≤ is.length) :
    done = serve (reach wants good is first) first := by
  obtain ⟨k, hk, rfl⟩ := h
  rw [List.take_of_length_le (by omega)]

end Retry
