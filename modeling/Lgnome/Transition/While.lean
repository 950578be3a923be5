/-!
# While loops

A loop is its test and its body. A bounded run says whether the loop ends within so many
passes; an invariant with a measure that every pass lowers shows that it does, and what
holds behind it and wherever the body is entered.
-/
namespace Lgnome.Transition

universe u

/-- A while loop: the test, and the body that runs while it holds. -/
structure While (σ : Type u) where
  test : σ → Bool
  body : σ → σ

namespace While

variable {σ : Type u} (w : While σ)

/-- The state behind the loop, `none` if the test still holds after `fuel` passes. -/
def run : Nat → σ → Option σ
  | 0, s => if w.test s then none else some s
  | fuel + 1, s => if w.test s then run fuel (w.body s) else some s

/-- The states in which the body is entered. -/
inductive Enters (s : σ) : σ → Prop
  | first : w.test s = true → Enters s s
  | next {t : σ} : Enters s t → w.test (w.body t) = true → Enters s (w.body t)

/-- A pass keeps the invariant and lowers the measure. -/
structure Progress (Inv : σ → Prop) (measure : σ → Nat) : Prop where
  keeps : ∀ s, Inv s → w.test s = true → Inv (w.body s)
  lowers : ∀ s, Inv s → w.test s = true → measure (w.body s) < measure s

variable {w} {Inv : σ → Prop} {measure : σ → Nat} {s t : σ}

theorem run_done {fuel : Nat} (h : w.test s = false) : w.run fuel s = some s := by
  cases fuel with
  | zero => rw [run, if_neg (by rw [h]; decide)]
  | succ fuel => rw [run, if_neg (by rw [h]; decide)]

theorem run_pass {fuel : Nat} (h : w.test s = true) :
    w.run (fuel + 1) s = w.run fuel (w.body s) := by
  rw [run, if_pos h]

/-- What every pass keeps holds behind the loop, whether or not a measure falls. -/
theorem run_keeps (Inv : σ → Prop) (hkeeps : ∀ s, Inv s → Inv (w.body s)) {fuel : Nat} (hinv : Inv s)
    (hrun : w.run fuel s = some t) : Inv t := by
  induction fuel generalizing s with
  | zero =>
    rw [run] at hrun
    split at hrun
    · cases hrun
    · cases hrun
      exact hinv
  | succ fuel ih =>
    rw [run] at hrun
    split at hrun
    · exact ih (hkeeps s hinv) hrun
    · cases hrun
      exact hinv

/-- The rule for loops: the run ends, its state satisfies the invariant, and the test fails
there. -/
theorem Progress.run (h : w.Progress Inv measure) {fuel : Nat} (hinv : Inv s)
    (hfuel : measure s ≤ fuel) :
    ∃ t, w.run fuel s = some t ∧ Inv t ∧ w.test t = false := by
  induction fuel generalizing s with
  | zero =>
    cases htest : w.test s with
    | false => exact ⟨s, run_done htest, hinv, htest⟩
    | true =>
      have hlower := h.lowers s hinv htest
      omega
  | succ fuel ih =>
    cases htest : w.test s with
    | false => exact ⟨s, run_done htest, hinv, htest⟩
    | true =>
      have hlower := h.lowers s hinv htest
      obtain ⟨t, hrun, ht⟩ := ih (h.keeps s hinv htest) (by omega)
      exact ⟨t, (run_pass htest).trans hrun, ht⟩

/-- The body is entered only where the invariant and the test hold. -/
theorem Progress.enters (h : w.Progress Inv measure) (hinv : Inv s) (ht : w.Enters s t) :
    Inv t ∧ w.test t = true := by
  induction ht with
  | first htest => exact ⟨hinv, htest⟩
  | next _ htest ih => exact ⟨h.keeps _ ih.1 ih.2, htest⟩

end While

end Lgnome.Transition
