import Mathlib.Data.List.Basic

/-!
# Latches

A visit makes a query of the world, which may fail and change what is kept. A latch says whether
the next visit makes it again: one kind is set before the query, the other once it has succeeded.
-/

structure Latch (σ : Type*) where
  first : Bool
  data : σ
deriving DecidableEq

namespace Latch

variable {W σ R : Type*}

/-- A call in a world gives a result and goes on from another state. -/
abbrev CallRel (W σ R : Type*) := W → σ → R → σ → Prop

/-- A run of calls, with their results. -/
inductive Visits (call : CallRel W σ R) : List W → σ → List R → σ → Prop
  | nil (s : σ) : Visits call [] s [] s
  | cons {w : W} {ws : List W} {s s' s'' : σ} {r : R} {rs : List R} :
      call w s r s' → Visits call ws s' rs s'' → Visits call (w :: ws) s (r :: rs) s''

section Runs

variable {call : CallRel W σ R} {w : W} {ws vs : List W} {s s' : σ} {rs : List R}

theorem visits_nil : Visits call [] s rs s' ↔ rs = [] ∧ s' = s := by
  constructor
  · rintro ⟨⟩
    exact ⟨rfl, rfl⟩
  · rintro ⟨rfl, rfl⟩
    exact .nil s'

theorem visits_cons : Visits call (w :: ws) s rs s' ↔
    ∃ r mid rs', rs = r :: rs' ∧ call w s r mid ∧ Visits call ws mid rs' s' := by
  constructor
  · rintro (_ | ⟨hcall, hrest⟩)
    exact ⟨_, _, _, rfl, hcall, hrest⟩
  · rintro ⟨r, mid, rs', rfl, hcall, hrest⟩
    exact .cons hcall hrest

end Runs

/-- The latch is set before the query; `again` is the result of a visit that makes none. -/
structure KeepsFirst (query : CallRel W σ R) (again : W → σ → R) (call : CallRel W (Latch σ) R) :
    Prop where
  asked : ∀ {w data r l},
    call w ⟨true, data⟩ r l ↔ ∃ data', query w data r data' ∧ l = ⟨false, data'⟩
  kept : ∀ {w data r l}, call w ⟨false, data⟩ r l ↔ r = again w data ∧ l = ⟨false, data⟩

/-- The latch is set by a query with a good result. -/
structure KeepsGood (query : CallRel W σ R) (good : R → Prop) (again : W → σ → R)
    (call : CallRel W (Latch σ) R) : Prop where
  set : ∀ {w data r l}, good r →
    (call w ⟨true, data⟩ r l ↔ ∃ data', query w data r data' ∧ l = ⟨false, data'⟩)
  unset : ∀ {w data r l}, ¬ good r →
    (call w ⟨true, data⟩ r l ↔ ∃ data', query w data r data' ∧ l = ⟨true, data'⟩)
  kept : ∀ {w data r l}, call w ⟨false, data⟩ r l ↔ r = again w data ∧ l = ⟨false, data⟩

section Kept

variable {query : CallRel W σ R} {good : R → Prop} {again : W → σ → R} {call : CallRel W (Latch σ) R}

/-- With the latch set nothing changes any more. -/
theorem visits_kept (hkept : ∀ {w data r l}, call w ⟨false, data⟩ r l ↔
      r = again w data ∧ l = ⟨false, data⟩) (data : σ) {l : Latch σ} :
    ∀ {ws : List W} {rs : List R}, Visits call ws ⟨false, data⟩ rs l ↔
      rs = ws.map (again · data) ∧ l = ⟨false, data⟩
  | [], _ => visits_nil
  | w :: ws, rs => by
    rw [visits_cons]
    constructor
    · rintro ⟨r, mid, rs', rfl, hcall, hrest⟩
      obtain ⟨rfl, rfl⟩ := hkept.1 hcall
      obtain ⟨rfl, rfl⟩ := (visits_kept hkept data).1 hrest
      exact ⟨rfl, rfl⟩
    · rintro ⟨rfl, rfl⟩
      exact ⟨_, _, _, rfl, hkept.2 ⟨rfl, rfl⟩, (visits_kept hkept data).2 ⟨rfl, rfl⟩⟩

theorem KeepsFirst.visits_iff (h : KeepsFirst query again call) {w : W} {ws : List W} {data : σ}
    {rs : List R} {l : Latch σ} : Visits call (w :: ws) ⟨true, data⟩ rs l ↔
      ∃ r data', query w data r data' ∧ rs = r :: ws.map (again · data') ∧ l = ⟨false, data'⟩ := by
  rw [visits_cons]
  constructor
  · rintro ⟨r, mid, rs', rfl, hcall, hrest⟩
    obtain ⟨data', hquery, rfl⟩ := h.asked.1 hcall
    obtain ⟨rfl, rfl⟩ := (visits_kept h.kept data').1 hrest
    exact ⟨r, data', hquery, rfl, rfl⟩
  · rintro ⟨r, data', hquery, rfl, rfl⟩
    exact ⟨r, _, _, rfl, h.asked.2 ⟨data', hquery, rfl⟩, (visits_kept h.kept data').2 ⟨rfl, rfl⟩⟩

/-- Every visit so far made its query, and none has had a good result. -/
theorem KeepsGood.visits_bad (h : KeepsGood query good again call) :
    ∀ {ws : List W} {data : σ} {rs : List R} {l : Latch σ}, (∀ r ∈ rs, ¬ good r) →
      (Visits call ws ⟨true, data⟩ rs l
        ↔ ∃ data', Visits query ws data rs data' ∧ l = ⟨true, data'⟩)
  | [], data, rs, l, _ => by
    rw [visits_nil]
    constructor
    · rintro ⟨rfl, rfl⟩
      exact ⟨data, .nil data, rfl⟩
    · rintro ⟨data', hvisits, rfl⟩
      obtain ⟨rfl, rfl⟩ := visits_nil.1 hvisits
      exact ⟨rfl, rfl⟩
  | w :: ws, data, rs, l, hrs => by
    rw [visits_cons]
    constructor
    · rintro ⟨r, mid, rs', rfl, hcall, hrest⟩
      obtain ⟨data', hquery, rfl⟩ := (h.unset (hrs r List.mem_cons_self)).1 hcall
      obtain ⟨data'', hvisits, rfl⟩ :=
        (h.visits_bad fun r hr => hrs r (List.mem_cons_of_mem _ hr)).1 hrest
      exact ⟨data'', .cons hquery hvisits, rfl⟩
    · rintro ⟨data'', hvisits, rfl⟩
      obtain ⟨r, data', rs', rfl, hquery, hrest⟩ := visits_cons.1 hvisits
      exact ⟨r, _, rs', rfl, (h.unset (hrs r List.mem_cons_self)).2 ⟨data', hquery, rfl⟩,
        (h.visits_bad fun r hr => hrs r (List.mem_cons_of_mem _ hr)).2 ⟨data'', hrest, rfl⟩⟩

/-- A run is queries up to the first good result, and what that one gave from there on. -/
theorem KeepsGood.visits_iff (h : KeepsGood query good again call) :
    ∀ {ws : List W} {data : σ} {rs : List R} {l : Latch σ}, Visits call ws ⟨true, data⟩ rs l ↔
      (∃ data', Visits query ws data rs data' ∧ (∀ r ∈ rs, ¬ good r) ∧ l = ⟨true, data'⟩)
        ∨ ∃ bad w later, ws = bad ++ w :: later ∧ ∃ badrs data' r data'',
          Visits query bad data badrs data' ∧ (∀ r ∈ badrs, ¬ good r) ∧ query w data' r data''
          ∧ good r ∧ rs = badrs ++ r :: later.map (again · data'') ∧ l = ⟨false, data''⟩
  | [], data, rs, l => by
    rw [visits_nil]
    constructor
    · rintro ⟨rfl, rfl⟩
      exact Or.inl ⟨data, .nil data, by simp, rfl⟩
    · rintro (⟨data', hvisits, -, rfl⟩ | ⟨bad, w, later, hws, -⟩)
      · obtain ⟨rfl, rfl⟩ := visits_nil.1 hvisits
        exact ⟨rfl, rfl⟩
      · simp at hws
  | w :: ws, data, rs, l => by
    rw [visits_cons]
    constructor
    · rintro ⟨r, mid, rs', rfl, hcall, hrest⟩
      by_cases hr : good r
      · obtain ⟨data', hquery, rfl⟩ := (h.set hr).1 hcall
        obtain ⟨rfl, rfl⟩ := (visits_kept h.kept data').1 hrest
        exact Or.inr ⟨[], w, ws, rfl, [], data, r, data', .nil data, by simp, hquery, hr, rfl, rfl⟩
      · obtain ⟨data', hquery, rfl⟩ := (h.unset hr).1 hcall
        rcases h.visits_iff.1 hrest with ⟨data'', hvisits, hbad, rfl⟩ | ⟨bad, w', later, rfl, badrs,
          mid, r', data'', hvisits, hbad, hquery', hr', rfl, rfl⟩
        · exact Or.inl ⟨data'', .cons hquery hvisits, List.forall_mem_cons.2 ⟨hr, hbad⟩, rfl⟩
        · exact Or.inr ⟨w :: bad, w', later, rfl, r :: badrs, mid, r', data'',
            .cons hquery hvisits, List.forall_mem_cons.2 ⟨hr, hbad⟩, hquery', hr', rfl, rfl⟩
    · rintro (⟨data', hvisits, hbad, rfl⟩ | ⟨bad, w', later, hws, badrs, mid, r', data'', hvisits,
        hbad, hquery', hr', rfl, rfl⟩)
      · exact visits_cons.1 ((h.visits_bad hbad).2 ⟨data', hvisits, rfl⟩)
      · rcases bad with _ | ⟨v, bad⟩
        · obtain ⟨rfl, rfl⟩ := List.cons.inj hws
          obtain ⟨rfl, rfl⟩ := visits_nil.1 hvisits
          exact ⟨r', _, _, rfl, (h.set hr').2 ⟨data'', hquery', rfl⟩,
            (visits_kept h.kept data'').2 ⟨rfl, rfl⟩⟩
        · obtain ⟨rfl, rfl⟩ := List.cons.inj hws
          obtain ⟨r, data', badrs, rfl, hquery, hrest⟩ := visits_cons.1 hvisits
          obtain ⟨hr, hbad⟩ := List.forall_mem_cons.1 hbad
          exact ⟨r, _, _, rfl, (h.unset hr).2 ⟨data', hquery, rfl⟩, h.visits_iff.2
            (Or.inr ⟨bad, w', later, rfl, badrs, mid, r', data'', hrest, hbad, hquery', hr', rfl,
              rfl⟩)⟩

end Kept

end Latch
