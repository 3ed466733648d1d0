import Mathlib.Data.Int.Notation
import Mathlib.Data.List.Basic

/-!
# Commands with a status

A command changes a state and returns a status; a status other than 0 is an error. `block` is a
sequence of commands that ends at the first error. A command `Keeps I` if it leads from a state in
`I` to one, whatever its status.
-/

/-- A command on the states `σ`. -/
abbrev Cmd (σ : Type*) := σ → ℤ × σ

namespace Cmd

variable {σ α ε : Type*}

def give (ret : ℤ) : Cmd σ := fun s => (ret, s)

def act (f : σ → σ) : Cmd σ := fun s => (0, f s)

/-- A command that depends on the state. -/
def look (f : σ → Cmd σ) : Cmd σ := fun s => f s s

/-- `ret = f(); if (ret) return ret;` and then `g`. -/
def andThen (f g : Cmd σ) : Cmd σ := fun s =>
  if (f s).1 ≠ 0 then f s else g (f s).2

def block : List (Cmd σ) → Cmd σ
  | [] => give 0
  | f :: fs => andThen f (block fs)

theorem andThen_ok {f : Cmd σ} {s : σ} (h : (f s).1 = 0) (g : Cmd σ) :
    andThen f g s = g (f s).2 := by rw [andThen, if_neg (not_not.2 h)]

theorem andThen_error {f : Cmd σ} {s : σ} (h : (f s).1 ≠ 0) (g : Cmd σ) :
    andThen f g s = f s := if_pos h

theorem block_singleton (f : Cmd σ) : block [f] = f := by
  funext s
  unfold block andThen
  split_ifs with h
  · rfl
  · exact Prod.ext (not_not.1 h).symm rfl

theorem andThen_fst {f g : Cmd σ} {s : σ} :
    (andThen f g s).1 = 0 ↔ (f s).1 = 0 ∧ (g (f s).2).1 = 0 := by
  unfold andThen
  split_ifs with h
  · exact iff_of_false h fun hboth => h hboth.1
  · exact ⟨fun hg => ⟨not_not.1 h, hg⟩, fun hboth => hboth.2⟩

theorem block_append : ∀ (l m : List (Cmd σ)), block (l ++ m) = andThen (block l) (block m)
  | [], _ => rfl
  | f :: l, m => by
    funext s
    rw [List.cons_append, block, block, block_append l m]
    unfold andThen
    split_ifs <;> rfl

theorem andThen_congr {f f' g g' : Cmd σ} {s : σ} (hf : f s = f' s) (hg : g = g') :
    andThen f g s = andThen f' g' s := by
  rw [andThen, andThen, hf, hg]

/-! ## Invariants -/

def Keeps (I : σ → Prop) (f : Cmd σ) : Prop := ∀ s, I s → I (f s).2

section Keeps

variable {I : σ → Prop}

theorem keeps_give (ret : ℤ) : Keeps I (give ret) := fun _ h => h

theorem keeps_act {f : σ → σ} (h : ∀ s, I s → I (f s)) : Keeps I (act f) := h

/-- From a state that `f` leads to `I`. -/
theorem andThen_of {f g : Cmd σ} {s : σ} (hf : I (f s).2) (hg : Keeps I g) :
    I (andThen f g s).2 := by
  unfold Cmd.andThen
  split_ifs
  · exact hf
  · exact hg _ hf

theorem Keeps.andThen {f g : Cmd σ} (hf : Keeps I f) (hg : Keeps I g) : Keeps I (andThen f g) :=
  fun s hs => andThen_of (hf s hs) hg

theorem keeps_block : ∀ (l : List (Cmd σ)), (∀ f ∈ l, Keeps I f) → Keeps I (block l)
  | [], _ => keeps_give 0
  | f :: l, h => by
    rw [List.forall_mem_cons] at h
    exact h.1.andThen (keeps_block l h.2)

theorem keeps_look {f : σ → Cmd σ} (h : ∀ s, Keeps I (f s)) : Keeps I (look f) := fun s => h s s

theorem keeps_nil : Keeps I (block []) := keeps_give 0

theorem Keeps.cons {f : Cmd σ} {l : List (Cmd σ)} (hf : Keeps I f) (hl : Keeps I (block l)) :
    Keeps I (block (f :: l)) := hf.andThen hl

theorem keeps_map (l : List α) {f : α → Cmd σ} (h : ∀ a ∈ l, Keeps I (f a)) :
    Keeps I (block (l.map f)) := by
  refine keeps_block _ fun g hg => ?_
  obtain ⟨a, ha, rfl⟩ := List.mem_map.1 hg
  exact h a ha

end Keeps

/-! ## What commands leave alone -/

/-- The command does not change what `φ` gives. -/
def Leaves (φ : σ → α) (f : Cmd σ) : Prop := ∀ s, φ (f s).2 = φ s

section Leaves

variable {φ : σ → α}

theorem leaves_iff {f : Cmd σ} : Leaves φ f ↔ ∀ a, Keeps (φ · = a) f :=
  ⟨fun h _ s hs => (h s).trans hs, fun h s => h (φ s) s rfl⟩

theorem Leaves.andThen {f g : Cmd σ} (hf : Leaves φ f) (hg : Leaves φ g) :
    Leaves φ (Cmd.andThen f g) :=
  leaves_iff.2 fun a => (leaves_iff.1 hf a).andThen (leaves_iff.1 hg a)

/-- What the second command leaves alone is as after the first. -/
theorem Leaves.after {g : Cmd σ} (hg : Leaves φ g) (f : Cmd σ) (s : σ) :
    φ (Cmd.andThen f g s).2 = φ (f s).2 := by
  unfold Cmd.andThen
  split_ifs
  · rfl
  · exact hg _

theorem leaves_nil : Leaves φ (block ([] : List (Cmd σ))) := fun _ => rfl

theorem Leaves.cons {f : Cmd σ} {l : List (Cmd σ)} (hf : Leaves φ f) (hl : Leaves φ (block l)) :
    Leaves φ (block (f :: l)) := hf.andThen hl

theorem leaves_look {f : σ → Cmd σ} (h : ∀ s, Leaves φ (f s)) : Leaves φ (look f) :=
  fun s => h s s

end Leaves

/-! ## When commands succeed -/

/-- From a state where `φ` gives `a`, the command succeeds just if `S`, to one where it gives `b`;
and `I` holds afterwards just if it did before, and `P`. -/
structure Adds (φ : σ → α) (I : σ → Prop) (a b : α) (f : Cmd σ) (S P : Prop) : Prop where
  ok : ∀ s, φ s = a → ((f s).1 = 0 ↔ S)
  next : ∀ s, φ s = a → S → φ (f s).2 = b
  adds : ∀ s, φ s = a → (I (f s).2 ↔ I s ∧ P)

section Adds

variable {φ : σ → α} {I : σ → Prop} {a b c : α} {S T P Q : Prop}

theorem adds_nil : Adds φ I a a (block []) True True :=
  ⟨fun _ _ => iff_of_true rfl trivial, fun _ h _ => h, fun _ _ => (and_iff_left trivial).symm⟩

/-- What the second command adds counts if the first succeeds. -/
theorem Adds.andThen {f g : Cmd σ} (hf : Adds φ I a b f S P) (hg : Adds φ I b c g T Q) :
    Adds φ I a c (andThen f g) (S ∧ T) (P ∧ (S → Q)) := by
  refine ⟨fun s hs => ?_, fun s hs hST => ?_, fun s hs => ?_⟩
  · rw [andThen_fst, hf.ok s hs]
    exact and_congr_right fun hS => hg.ok _ (hf.next s hs hS)
  · rw [andThen_ok ((hf.ok s hs).2 hST.1)]
    exact hg.next _ (hf.next s hs hST.1) hST.2
  · by_cases hS : S
    · rw [andThen_ok ((hf.ok s hs).2 hS), hg.adds _ (hf.next s hs hS), hf.adds s hs, and_assoc]
      exact and_congr_right fun _ => and_congr_right fun _ => ⟨fun h _ => h, fun h => h hS⟩
    · rw [andThen_error (mt (hf.ok s hs).1 hS), hf.adds s hs]
      exact and_congr_right fun _ => (and_iff_left fun h => absurd h hS).symm

theorem Adds.cons {f : Cmd σ} {l : List (Cmd σ)} (hf : Adds φ I a b f S P)
    (hl : Adds φ I b c (block l) T Q) : Adds φ I a c (block (f :: l)) (S ∧ T) (P ∧ (S → Q)) :=
  hf.andThen hl

theorem adds_look {f : σ → Cmd σ} (h : ∀ s, φ s = a → Adds φ I a b (f s) S P) :
    Adds φ I a b (look f) S P :=
  ⟨fun s hs => (h s hs).ok s hs, fun s hs => (h s hs).next s hs, fun s hs => (h s hs).adds s hs⟩

/-- The same conditions in other words. -/
theorem Adds.congr {f : Cmd σ} (h : Adds φ I a b f S P) (hS : S ↔ T) (hP : P ↔ Q) :
    Adds φ I a b f T Q := propext hS ▸ propext hP ▸ h

end Adds

/-! ## Runs -/

/-- The state after the events. -/
def run (step : σ → ε → σ) (s : σ) (events : List ε) : σ := events.foldl step s

/-- The condition holds before each step of the run. -/
def Meets (step : σ → ε → σ) (cond : σ → ε → Prop) : σ → List ε → Prop
  | _, [] => True
  | s, e :: events => cond s e ∧ Meets step cond (step s e) events

theorem meets_of_forall {step : σ → ε → σ} {cond : σ → ε → Prop} (h : ∀ s e, cond s e) :
    ∀ (events : List ε) (s : σ), Meets step cond s events
  | [], _ => trivial
  | e :: events, s => ⟨h s e, meets_of_forall h events (step s e)⟩

/-- The condition holds wherever the run is cut. -/
theorem meets_iff_forall {step : σ → ε → σ} {cond : σ → ε → Prop} :
    ∀ {events : List ε} {s : σ}, Meets step cond s events
      ↔ ∀ earlier e later, events = earlier ++ e :: later → cond (run step s earlier) e
  | [], _ => by simp [Meets]
  | e :: events, s => by
    rw [Meets, meets_iff_forall]
    constructor
    · rintro ⟨he, hrest⟩ (_ | ⟨e', earlier⟩) f later heq
      · obtain ⟨rfl, -⟩ := List.cons.inj heq
        exact he
      · obtain ⟨rfl, htail⟩ := List.cons.inj heq
        exact hrest earlier f later htail
    · intro h
      exact ⟨h [] e events rfl, fun earlier f later heq =>
        h (e :: earlier) f later (by rw [heq, List.cons_append])⟩

theorem run_keeps {step : σ → ε → σ} {I : σ → Prop} (h : ∀ s e, I s → I (step s e)) :
    ∀ (events : List ε) {s : σ}, I s → I (run step s events)
  | [], _, hs => hs
  | e :: events, s, hs => run_keeps h events (h s e hs)

theorem run_keeps_of_meets {step : σ → ε → σ} {cond : σ → ε → Prop} {I : σ → Prop}
    (h : ∀ s e, I s → cond s e → I (step s e)) :
    ∀ (events : List ε) {s : σ}, Meets step cond s events → I s → I (run step s events)
  | [], _, _, hs => hs
  | e :: events, s, hm, hs => run_keeps_of_meets h events hm.2 (h s e hs hm.1)

/-- If a step keeps `I` just under the condition, so does a run. -/
theorem run_iff_meets {step : σ → ε → σ} {cond : σ → ε → Prop} {I J : σ → Prop}
    (hkeep : ∀ s e, J s → J (step s e)) (h : ∀ s e, J s → (I (step s e) ↔ I s ∧ cond s e)) :
    ∀ (events : List ε) {s : σ}, J s →
      (I (run step s events) ↔ I s ∧ Meets step cond s events)
  | [], _, _ => (and_iff_left trivial).symm
  | e :: events, s, hs =>
    (run_iff_meets hkeep h events (hkeep s e hs)).trans
      ((and_congr_left' (h s e hs)).trans and_assoc)

/-- A relation between the states of two runs with the same events. -/
theorem run_simulates {step : σ → ε → σ} {step' : α → ε → α} {R : σ → α → Prop}
    (h : ∀ s t e, R s t → R (step s e) (step' t e)) :
    ∀ (events : List ε) {s : σ} {t : α}, R s t → R (run step s events) (run step' t events)
  | [], _, _, hst => hst
  | e :: events, s, t, hst => run_simulates h events (h s t e hst)

/-- Two conditions that agree in the invariant. -/
theorem meets_congr {step : σ → ε → σ} {cond cond' : σ → ε → Prop} {I : σ → Prop}
    (hkeep : ∀ s e, I s → I (step s e)) (hagree : ∀ s e, I s → (cond s e ↔ cond' s e)) :
    ∀ (events : List ε) {s : σ}, I s → (Meets step cond s events ↔ Meets step cond' s events)
  | [], _, _ => Iff.rfl
  | e :: events, s, hs =>
    and_congr (hagree s e hs) (meets_congr hkeep hagree events (hkeep s e hs))

/-- Two step functions that agree where the condition holds lead to the same state. -/
theorem run_congr_of_meets {step step' : σ → ε → σ} {cond : σ → ε → Prop} {I : σ → Prop}
    (hkeep : ∀ s e, I s → I (step s e))
    (hagree : ∀ s e, I s → cond s e → step' s e = step s e) :
    ∀ (events : List ε) {s : σ}, I s → Meets step cond s events →
      run step' s events = run step s events
  | [], _, _, _ => rfl
  | e :: events, s, hs, hm => by
    have hrest := run_congr_of_meets hkeep hagree events (hkeep s e hs) hm.2
    rw [← hagree s e hs hm.1] at hrest
    exact hrest.trans (congrArg (run step · events) (hagree s e hs hm.1))

/-! ## Runs that end -/

section Ended

variable {step : σ → ε → σ} {step' : α → ε → α} {R : σ → α → Prop} {ends : σ → ε → Prop}
  {ended : σ → Prop}

theorem run_ended (hstay : ∀ s t e, R s t → ended s → R (step s e) t ∧ ended (step s e)) :
    ∀ (events : List ε) {s : σ} {t : α}, R s t → ended s →
      R (run step s events) t ∧ ended (run step s events)
  | [], _, _, hst, hs => ⟨hst, hs⟩
  | e :: events, s, t, hst, hs =>
    run_ended hstay events (hstay s t e hst hs).1 (hstay s t e hst hs).2

/-- A run is simulated up to the first event it does not survive, and stays there. -/
theorem run_until
    (hlive : ∀ s t e, R s t → ¬ ended s → ¬ ends s e → R (step s e) (step' t e) ∧ ¬ ended (step s e))
    (hend : ∀ s t e, R s t → ¬ ended s → ends s e → R (step s e) t ∧ ended (step s e))
    (hstay : ∀ s t e, R s t → ended s → R (step s e) t ∧ ended (step s e)) :
    ∀ (events : List ε) {s : σ} {t : α}, R s t → ¬ ended s →
      Meets step (fun s e => ¬ ends s e) s events ∧ ¬ ended (run step s events)
          ∧ R (run step s events) (run step' t events)
        ∨ ∃ earlier e later, events = earlier ++ e :: later
          ∧ Meets step (fun s e => ¬ ends s e) s earlier ∧ ends (run step s earlier) e
          ∧ ended (run step s events) ∧ R (run step s events) (run step' t earlier)
  | [], _, _, hst, hs => Or.inl ⟨trivial, hs, hst⟩
  | e :: events, s, t, hst, hs => by
    by_cases he : ends s e
    · obtain ⟨hst', hs'⟩ := hend s t e hst hs he
      obtain ⟨hrun, hended⟩ := run_ended hstay events hst' hs'
      exact Or.inr ⟨[], e, events, rfl, trivial, he, hended, hrun⟩
    · obtain ⟨hst', hs'⟩ := hlive s t e hst hs he
      rcases run_until hlive hend hstay events hst' hs' with ⟨hmeets, hrest⟩ | hcut
      · exact Or.inl ⟨⟨he, hmeets⟩, hrest⟩
      · obtain ⟨earlier, f, later, rfl, hmeets, hrest⟩ := hcut
        exact Or.inr ⟨e :: earlier, f, later, rfl, ⟨he, hmeets⟩, hrest⟩

end Ended

end Cmd
