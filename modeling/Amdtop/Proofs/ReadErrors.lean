import Amdtop.DriDebug
import Amdtop.Proofs.ValueScan
import Amdtop.ReadLoop

/-!
# A read error keeps two loops running

Neither loop looks at the result of its `fgets`: at a read error the end-of-file indicator stays
clear and the buffer keeps its line, so the loop reads again.
-/

namespace Amdtop

open Stdio

/-! ## The loops -/

section FenceSection

variable {fp fp' : File} {line : Option (List Char)} {buff : List Char} {k : ℕ}
  {info : AmdGpuFenceInfo}

theorem fenceSection_step (hfgets : fgets 1024 fp = (line, fp')) {read : List Char}
    (hread : line.elim buff (fun line => line) = read) (fuel : ℕ) :
    fenceSection (fuel + 1) fp buff k info
      = if fp'.eof = true ∨ "---".toList <+: read then some (fp', (fenceLine read k info).2)
        else fenceSection fuel fp' read (fenceLine read k info).1 (fenceLine read k info).2 := by
  have hbuff : line.getD buff = read := by cases line <;> exact hread
  have hiff : (!fp'.eof && !strncmpEq read "---".toList 3) = true
      ↔ ¬ (fp'.eof = true ∨ "---".toList <+: read) := by
    rw [← strncmpEq_iff, Bool.and_eq_true_iff, not_or, Bool.not_eq_true', Bool.not_eq_true',
      Bool.eq_false_iff, Bool.eq_false_iff]
    rfl
  rw [fenceSection, hfgets]
  dsimp only
  rw [hbuff, ite_congr (propext hiff) (fun _ => rfl) (fun _ => rfl), ite_not]

/-- The loop over a section ends at the next header. -/
theorem fenceSection_ends : (∃ fuel, fenceSection fuel fp buff k info ≠ none)
    ↔ ReadEnds 1024 (fun line _ => line) ("---".toList <+: ·) fp buff := by
  constructor
  · rintro ⟨fuel, h⟩
    induction fuel generalizing fp buff k info with
    | zero => exact absurd rfl h
    | succ fuel ih =>
      obtain ⟨line, fp', hfgets⟩ : ∃ line fp', fgets 1024 fp = (line, fp') := ⟨_, _, rfl⟩
      rw [fenceSection_step hfgets rfl] at h
      split_ifs at h with hstop
      · exact .last hfgets hstop
      · exact .next hfgets (ih h)
  · intro h
    induction h generalizing k info with
    | last hfgets hstop =>
      refine ⟨1, ?_⟩
      rw [fenceSection_step hfgets rfl, if_pos hstop]
      exact Option.some_ne_none _
    | next hfgets _ ih =>
      obtain ⟨fuel, h⟩ := ih
      refine ⟨fuel + 1, ?_⟩
      rw [fenceSection_step hfgets rfl]
      split_ifs
      · exact Option.some_ne_none _
      · exact h

theorem fenceSection_ends_iff : (∃ fuel, fenceSection fuel fp buff k info ≠ none)
    ↔ Stops 1024 ("---".toList <+: ·) ("---".toList <+: ·) fp buff :=
  fenceSection_ends.trans (@readEnds_iff 1024 (fun line _ => line) ("---".toList <+: ·)
    ("---".toList <+: ·) (by omega) (fun _ _ => Iff.rfl) fp buff)

end FenceSection

section CpuInfoLoop

variable {item : List Char} {fp fp' : File} {line : Option (List Char)} {buf name : List Char}

theorem cpuInfoLoop_step (heof : ¬ fp.eof = true) (hfgets : fgets 1024 fp = (line, fp'))
    {read : List Char} (hread : line.elim buf (overlay · buf) = read) (fuel : ℕ) :
    cpuInfoLoop item (fuel + 1) fp buf name ≠ .running
      ↔ cpuInfoLine item read name ≠ .other ∨ cpuInfoLoop item fuel fp' read name ≠ .running := by
  rw [cpuInfoLoop, if_neg heof, hfgets]
  dsimp only
  rw [hread]
  cases cpuInfoLine item read name <;> simp

theorem cpuInfoLoop_ends : (∃ fuel, cpuInfoLoop item fuel fp buf name ≠ .running) ↔ fp.eof = true
    ∨ ReadEnds 1024 overlay (cpuInfoLine item · name ≠ .other) fp buf := by
  by_cases heof : fp.eof = true
  · refine iff_of_true ⟨1, ?_⟩ (.inl heof)
    rw [cpuInfoLoop, if_pos heof]
    simp
  rw [or_iff_right heof]
  constructor
  · rintro ⟨fuel, h⟩
    induction fuel generalizing fp buf with
    | zero => exact absurd rfl h
    | succ fuel ih =>
      obtain ⟨line, fp', hfgets⟩ : ∃ line fp', fgets 1024 fp = (line, fp') := ⟨_, _, rfl⟩
      obtain hstop | h := (cpuInfoLoop_step heof hfgets rfl fuel).1 h
      · exact .last hfgets (.inr hstop)
      · by_cases heof' : fp'.eof = true
        · exact .last hfgets (.inl heof')
        · exact .next hfgets (ih heof' h)
  · intro h
    induction h with
    | @last fp fp' line buf hfgets hstop =>
      obtain heof' | hstop := hstop
      · refine ⟨2, (cpuInfoLoop_step heof hfgets rfl 1).2 (.inr ?_)⟩
        rw [cpuInfoLoop, if_pos heof']
        simp
      · exact ⟨1, (cpuInfoLoop_step heof hfgets rfl 0).2 (.inl hstop)⟩
    | @next fp fp' line buf hfgets _ ih =>
      by_cases heof' : fp'.eof = true
      · refine ⟨2, (cpuInfoLoop_step heof hfgets rfl 1).2 (.inr ?_)⟩
        rw [cpuInfoLoop, if_pos heof']
        simp
      · obtain ⟨fuel, h⟩ := ih heof'
        exact ⟨fuel + 1, (cpuInfoLoop_step heof hfgets rfl fuel).2 (.inr h)⟩

theorem cpuInfoLine_overlay (hitem : '\x00' ∉ item) (name line buf : List Char) :
    cpuInfoLine item (overlay line buf) name ≠ .other ↔ HasColon item line := by
  rw [← cpuInfoScan_val]
  refine ⟨fun h => ?_, fun ⟨hpre, hcolon⟩ => ?_⟩
  · by_contra hnot
    refine h (cpuInfoScan_other hitem _ name fun hpre => ?_).1
    simpa [HasColon, hpre] using hnot
  · obtain ⟨i, hi⟩ := Option.isSome_iff_exists.1 hcolon
    exact (cpuInfoScan_value hitem _ name hpre hi).1

theorem cpuInfoLoop_ends_iff (hitem : '\x00' ∉ item) :
    (∃ fuel, cpuInfoLoop item fuel fp buf name ≠ .running)
      ↔ Stops 1024 (cpuInfoLine item · name ≠ .other) (HasColon item) fp buf := by
  have hsize : 2 ≤ 1024 := by omega
  rw [cpuInfoLoop_ends, readEnds_iff hsize (cpuInfoLine_overlay hitem name)]
  exact or_iff_right_of_imp fun heof => .inr (.inl heof)

end CpuInfoLoop

/-! ## Any stream -/

/-- Lines and then the end of the file, or read errors; only the former may end in a part of a
line. -/
structure TextStream where
  file : File
  lines : file.bad = true → file.rest = [] ∨ file.rest.getLast? = some '\n'

/-- Both loops end on a stream without a read error to come. On one with a read error the fences'
ends if the section does, and the processor's if the item is found. -/
theorem readLoops_end {item : List Char} (hitem : '\x00' ∉ item) (s : TextStream)
    (buff : List Char) (k : ℕ) (info : AmdGpuFenceInfo) (buf name : List Char) :
    ((∃ fuel, fenceSection fuel s.file buff k info ≠ none)
      ↔ s.file.bad = false ∨ s.file.eof = true
        ∨ (s.file.pieces 1024 = [] ∧ "---".toList <+: buff)
        ∨ ∃ line ∈ s.file.pieces 1024, "---".toList <+: line)
    ∧ ((∃ fuel, cpuInfoLoop item fuel s.file buf name ≠ .running)
      ↔ s.file.bad = false ∨ s.file.eof = true
        ∨ (s.file.pieces 1024 = [] ∧ cpuInfoLine item buf name ≠ .other)
        ∨ ∃ line ∈ s.file.pieces 1024, HasColon item line) :=
  ⟨fenceSection_ends_iff, cpuInfoLoop_ends_iff hitem⟩

/-- Lines, one of which ends the one loop and one the other, and then a read error. -/
def brokenStream : TextStream where
  file := ⟨"model\t: 2\nLast signaled fence 0x1\n--- ring 1\nsiblings\t: 8\n".toList, false, true⟩
  lines _ := Or.inr rfl

theorem readLoops_end_broken :
    (∃ fuel, fenceSection fuel brokenStream.file [] 0 {} ≠ none)
    ∧ ∃ fuel, cpuInfoLoop "siblings".toList fuel brokenStream.file [] [] ≠ .running := by
  have h := @readLoops_end "siblings".toList (by decide) brokenStream [] 0 {} [] []
  refine ⟨h.1.2 (.inr (.inr (.inr ⟨"--- ring 1\n".toList, ?_, ?_⟩))),
    h.2.2 (.inr (.inr (.inr ⟨"siblings\t: 8\n".toList, ?_, ?_⟩)))⟩
  all_goals decide

/-- A line, and then a read error. -/
theorem readLoops_never_end :
    ¬ (∃ fuel, fenceSection fuel ⟨"Last signaled fence 0x1\n".toList, false, true⟩
        "--- ring 0 (gfx) ---\n".toList 0 {} ≠ none)
    ∧ ¬ ∃ fuel, cpuInfoLoop "siblings".toList fuel ⟨"model\n".toList, false, true⟩
        (List.replicate 1024 '\x00') [] ≠ .running := by
  constructor
  · rw [fenceSection_ends_iff, Stops]
    decide
  · rw [cpuInfoLoop_ends_iff (by decide), Stops]
    decide

end Amdtop
