import Mathlib.Data.List.Induction

/-!
# Event logs

A log is the list of what a program let its observer see, oldest first. A
property of the log speaks of every event together with what lies before it.
-/
namespace Lgnome.Transition

variable {ε : Type*}

/-- `Ok` holds of every event and the log before it. -/
def Throughout (Ok : List ε → ε → Prop) (log : List ε) : Prop :=
  ∀ before event after, log = before ++ event :: after → Ok before event

namespace Throughout

variable {Ok : List ε → ε → Prop} {log : List ε} {event : ε}

theorem nil : Throughout Ok [] := by
  intro before event after heq
  cases before <;> cases heq

theorem snoc (h : Throughout Ok log) (hevent : Ok log event) : Throughout Ok (log ++ [event]) := by
  intro before event' after heq
  rcases List.eq_nil_or_concat after with rfl | ⟨mid, last, rfl⟩
  · obtain ⟨rfl, hlast⟩ := List.append_inj' heq rfl
    rw [← List.singleton_inj.mp hlast]
    exact hevent
  · rw [List.concat_eq_append, ← List.cons_append, ← List.append_assoc] at heq
    obtain ⟨hlog, -⟩ := List.append_inj' heq rfl
    exact h before event' mid hlog

end Throughout

end Lgnome.Transition
