import Amdtop.Proofs.Stdio

/-!
# Loops that do not look at the result of `fgets`

A loop that reads into a buffer and goes on until the end-of-file indicator is set or the buffer
says so. It ends unless a read error comes first (`readEnds_iff`).
-/

namespace Stdio

section ReadLoop

variable (size : ℕ) (put : List Char → List Char → List Char) (stop : List Char → Prop)

/-- The loop ends: `put` stores a line over a buffer, and a read that fails leaves the buffer. -/
inductive ReadEnds : File → List Char → Prop
  | last {fp fp' : File} {line : Option (List Char)} {buf : List Char}
      (hfgets : fgets size fp = (line, fp'))
      (hstop : fp'.eof = true ∨ stop (line.elim buf (put · buf))) : ReadEnds fp buf
  | next {fp fp' : File} {line : Option (List Char)} {buf : List Char}
      (hfgets : fgets size fp = (line, fp'))
      (hends : ReadEnds fp' (line.elim buf (put · buf))) : ReadEnds fp buf

/-- What a run finds: an indicator, or a line that stops it, where `stopLine` says what a line must
be. -/
def Stops (stopLine : List Char → Prop) (fp : File) (buf : List Char) : Prop :=
  fp.bad = false ∨ fp.eof = true ∨ (fp.pieces size = [] ∧ stop buf)
    ∨ ∃ line ∈ fp.pieces size, stopLine line

variable {size put stop} {stopLine : List Char → Prop}

/-- One read more or less does not matter to it. -/
theorem stops_step (hs : 2 ≤ size) (hput : ∀ line buf, stop (put line buf) ↔ stopLine line)
    {fp fp' : File} {line : Option (List Char)} {buf : List Char}
    (hfgets : fgets size fp = (line, fp')) :
    Stops size stop stopLine fp buf ↔ (fp'.eof = true ∨ stop (line.elim buf (put · buf)))
      ∨ Stops size stop stopLine fp' (line.elim buf (put · buf)) := by
  obtain ⟨hbad, -, hkeep⟩ := fgets_cases hfgets
  unfold Stops
  rw [hbad]
  cases hfp : fp.bad with
  | false => simp
  | true =>
    rw [hkeep hfp]
    cases line with
    | none =>
      rw [pieces_none hfgets, pieces_nil (fgets_fails hs hfgets).1]
      simp only [Option.elim_none, List.not_mem_nil]
      tauto
    | some line =>
      rw [pieces_some hfgets]
      simp only [Option.elim_some, hput, List.mem_cons, exists_eq_or_imp, reduceCtorEq]
      tauto

/-- The loop ends just if the stream has no read error to come, or the run finds what it waits for
before that. -/
theorem readEnds_iff (hs : 2 ≤ size) (hput : ∀ line buf, stop (put line buf) ↔ stopLine line)
    {fp : File} {buf : List Char} :
    ReadEnds size put stop fp buf ↔ Stops size stop stopLine fp buf := by
  refine ⟨fun h => ?_, fun h => ?_⟩
  · induction h with
    | last hfgets hstop => exact (stops_step hs hput hfgets).2 (.inl hstop)
    | next hfgets _ ih => exact (stops_step hs hput hfgets).2 (.inr ih)
  · induction hn : fp.rest.length using Nat.strong_induction_on generalizing fp buf with
    | h n ih =>
      obtain ⟨line, fp', hfgets⟩ : ∃ line fp', fgets size fp = (line, fp') := ⟨_, _, rfl⟩
      obtain hlast | hnext := (stops_step hs hput hfgets).1 h
      · exact .last hfgets hlast
      cases line with
      | none =>
        -- Nothing is left to wait for, so this read is the last.
        obtain ⟨hrest, heof⟩ := fgets_fails hs hfgets
        have hbad := (fgets_cases hfgets).1
        unfold Stops at hnext
        rw [pieces_nil hrest] at hnext
        obtain hgood | heof' | ⟨-, hstop⟩ | ⟨line, hline, -⟩ := hnext
        · exact .last hfgets (.inl (heof (hbad ▸ hgood)).1)
        · exact .last hfgets (.inl heof')
        · exact .last hfgets (.inr hstop)
        · cases hline
      | some line =>
        exact .next hfgets (ih _ (hn ▸ length_rest_of_fgets hfgets) hnext rfl)

end ReadLoop

end Stdio
