import Amdtop.DrmHelper

/-!
# Interrupted calls are not seen

If an interrupted `ioctl` leaves its argument as it was, then whatever the program makes of the
card through `gpuIoctl` is what it would make of it without signals, with any number of calls, each
depending on what the calls before it gave.
-/

namespace Amdtop

variable {α β : Type*}

/-- An interrupted `ioctl` has done nothing. -/
def Undisturbed (answers : List (IoctlAnswer α)) : Prop :=
  ∀ a ∈ answers, a.interrupted = true → a.arg = id

theorem Undisturbed.of_cons {a : IoctlAnswer α} {answers : List (IoctlAnswer α)}
    (h : Undisturbed (a :: answers)) : Undisturbed answers :=
  fun b hb => h b (List.mem_cons_of_mem a hb)

/-- Also what is changed by the interrupted calls is handed on to the next. -/
theorem gpuIoctl_cases : ∀ (answers : List (IoctlAnswer α)) (arg : α),
    gpuIoctl arg answers = none ∧ (∀ a ∈ answers, a.interrupted = true)
      ∨ ∃ before a after, answers = before ++ a :: after
        ∧ (∀ b ∈ before, b.interrupted = true) ∧ a.interrupted = false
        ∧ gpuIoctl arg answers
          = some ((a.ret, a.arg (before.foldl (fun arg b => b.arg arg) arg)), after)
  | [], _ => Or.inl ⟨rfl, by simp⟩
  | a :: answers, arg => by
    rcases ha : a.interrupted with _ | _
    · refine Or.inr ⟨[], a, answers, rfl, by simp, ha, ?_⟩
      rw [gpuIoctl, if_neg (by simp [ha])]
      rfl
    · rw [gpuIoctl, if_pos ha]
      rcases gpuIoctl_cases answers (a.arg arg) with ⟨hnone, hall⟩ | hsome
      · exact Or.inl ⟨hnone, List.forall_mem_cons.2 ⟨ha, hall⟩⟩
      · obtain ⟨before, b, after, rfl, hbefore, hb, hrun⟩ := hsome
        exact Or.inr ⟨a :: before, b, after, rfl, List.forall_mem_cons.2 ⟨ha, hbefore⟩, hb, hrun⟩

theorem gpuIoctl_finished : ∀ {answers : List (IoctlAnswer α)}, Undisturbed answers → ∀ arg : α,
    (gpuIoctl arg answers).map (Prod.map id finished) = ioctl arg (finished answers)
  | [], _, _ => rfl
  | a :: answers, h, arg => by
    rcases ha : a.interrupted with _ | _
    · have hkept : finished (a :: answers) = a :: finished answers :=
        List.filter_cons_of_pos (by simp [ha])
      rw [gpuIoctl, if_neg (by simp [ha]), hkept]
      rfl
    · have hgone : finished (a :: answers) = finished answers :=
        List.filter_cons_of_neg (by simp [ha])
      have harg : a.arg arg = arg := congrFun (h a List.mem_cons_self ha) arg
      rw [gpuIoctl, if_pos ha, hgone, harg]
      exact gpuIoctl_finished h.of_cons arg

theorem gpuIoctl_undisturbed {answers : List (IoctlAnswer α)} {arg : α}
    {r : (ℤ × α) × List (IoctlAnswer α)} (h : Undisturbed answers)
    (hr : gpuIoctl arg answers = some r) : Undisturbed r.2 := by
  rcases gpuIoctl_cases answers arg with ⟨hnone, -⟩ | ⟨before, a, after, rfl, -, -, hsome⟩
  · cases hr.symm.trans hnone
  · obtain rfl := Option.some.inj (hr.symm.trans hsome)
    exact fun b hb => h b (List.mem_append_right _ (List.mem_cons_of_mem a hb))

/-- A program that reaches the card through `gpuIoctl` alone does with signals what it does without,
whatever it asks and however it goes on. -/
theorem gpuIoctl_transparent (p : Asks α (ℤ × α) β) {answers : List (IoctlAnswer α)}
    (h : Undisturbed answers) :
    (p.run gpuIoctl answers).map (Prod.map id finished) = p.run ioctl (finished answers) :=
  Asks.run_map (fun _ hanswers => gpuIoctl_finished hanswers) (fun _ _ _ => gpuIoctl_undisturbed) p h

section Example

/-- A count is asked for and then, if the first call succeeds, a list of it. -/
def countThenList : Asks (List ℕ) (ℤ × List ℕ) (List ℕ) :=
  .ask [] fun r => if r.1 ≠ 0 then .done [] else .ask r.2 fun r => .done r.2

def signalled (arg : List ℕ) : List (IoctlAnswer (List ℕ)) :=
  [⟨-1, eintr, id⟩, ⟨0, 0, fun _ => arg⟩, ⟨-1, eagain, id⟩, ⟨0, 0, List.map (· + 1)⟩]

theorem gpuIoctl_transparent_signalled :
    (countThenList.run gpuIoctl (signalled [3, 4])).map (Prod.map id finished)
        = countThenList.run ioctl (finished (signalled [3, 4]))
      ∧ (countThenList.run gpuIoctl (signalled [3, 4])).map (·.1) = some [4, 5] := by
  refine ⟨gpuIoctl_transparent countThenList fun a ha hint => ?_, by decide⟩
  simp only [signalled, List.mem_cons, List.not_mem_nil, or_false] at ha
  rcases ha with rfl | rfl | rfl | rfl
  · rfl
  · exact absurd hint (by decide)
  · rfl
  · exact absurd hint (by decide)

end Example

end Amdtop
