import Mathlib.Data.List.Basic

/-!
# Computations that ask

A computation asks, goes on from the answer, and may ask again. A server answers from a stream, of
which it takes as much as it needs; it has no answer when the stream ends before.
-/

/-- What asks `Q`, is answered with `R` and ends with `β`. -/
inductive Asks (Q R β : Type*)
  | done (b : β)
  | ask (q : Q) (k : R → Asks Q R β)

namespace Asks

variable {Q R β A B : Type*}

/-- The outcome and what is left of the stream. -/
def run (serve : Q → List A → Option (R × List A)) : Asks Q R β → List A → Option (β × List A)
  | .done b, answers => some (b, answers)
  | .ask q k, answers => (serve q answers).bind fun r => run serve (k r.1) r.2

/-- The second server gives the same answers from a translation of the stream. -/
def Serves (φ : List A → List B) (serve : Q → List A → Option (R × List A))
    (serve' : Q → List B → Option (R × List B)) (answers : List A) : Prop :=
  ∀ q, (serve q answers).map (Prod.map id φ) = serve' q (φ answers)

/-- No computation tells two servers apart that give the same answers wherever the first may get,
and stay there. -/
theorem run_map {φ : List A → List B} {serve : Q → List A → Option (R × List A)}
    {serve' : Q → List B → Option (R × List B)} {I : List A → Prop}
    (hserves : ∀ answers, I answers → Serves φ serve serve' answers)
    (hstay : ∀ q answers r, I answers → serve q answers = some r → I r.2) :
    ∀ (p : Asks Q R β) {answers : List A}, I answers →
      (run serve p answers).map (Prod.map id φ) = run serve' p (φ answers)
  | .done _, _, _ => rfl
  | .ask q k, answers, h => by
    have hserve := hserves answers h q
    rw [run, run, ← hserve]
    rcases hr : serve q answers with _ | r
    · rfl
    · exact run_map hserves hstay (k r.1) (hstay q answers r h hr)

end Asks
