import Lgnome.Transition.Parties

/-!
# Programs that may fail

A step whose failure ends the program, and a loop that goes on until its body fails or has a
result. What holds after a step that succeeded is all that a proof has to say of it.
-/
namespace Lgnome.Transition

variable {ι σ ε α β γ π : Type}

namespace Prog

/-- The second program runs if the first one succeeds. -/
def andThen (p : Prog ι σ (Except ε α)) (k : α → Prog ι σ (Except ε β)) : Prog ι σ (Except ε β) :=
  p.bind fun
    | .error e => ret (.error e)
    | .ok a => k a

/-- What a round of a fallible loop leads to. -/
def roundResult : Except ε (γ ⊕ α) → γ ⊕ Except ε α
  | .error e => .inr (.error e)
  | .ok (.inl g) => .inl g
  | .ok (.inr a) => .inr (.ok a)

/-- Rounds until one fails or has a result. -/
def repeatUntil (round : γ → Prog ι σ (Except ε (γ ⊕ α))) (start : γ) : Prog ι σ (Except ε α) :=
  iterate (fun g => (round g).bind fun r => ret (roundResult r)) start

/-- A result that is there already. -/
def result (r : Except ε α) : Prog ι σ (Except ε α) := ret r

end Prog

/-- What holds after a success. -/
def Ends (Q : α → σ → Prop) : Except ε α → σ → Prop
  | .error _, _ => True
  | .ok a, s => Q a s

theorem Ends.mono {Q R : α → σ → Prop} {r : Except ε α} {s : σ} (h : Ends Q r s)
    (hQR : ∀ a, Q a s → R a s) : Ends R r s := by
  cases r with
  | error e => trivial
  | ok a => exact hQR a h

namespace Contract

variable {C : Contract π σ} {p : π} {s : σ}

theorem Safe.andThen {q : Prog ι σ (Except ε α)} {k : α → Prog ι σ (Except ε β)}
    {Q : α → σ → Prop} {R : β → σ → Prop} (h : C.Safe p q (Ends Q) s)
    (hk : ∀ a t, Q a t → C.Safe p (k a) (Ends R) t) : C.Safe p (q.andThen k) (Ends R) s := by
  refine Safe.seq h ?_
  intro r t hr
  cases r with
  | error e => trivial
  | ok a => exact hk a t hr

theorem Safe.result {r : Except ε α} {Q : α → σ → Prop} (h : ∀ a, r = .ok a → Q a s) :
    C.Safe p (Prog.result r : Prog ι σ (Except ε α)) (Ends Q) s := by
  cases r with
  | error e => trivial
  | ok a => exact h a rfl

/-- The loop rule: an assertion for each state of the loop, which every round that goes on leads
back to. -/
theorem Safe.repeatUntil {round : γ → Prog ι σ (Except ε (γ ⊕ α))} {start : γ}
    (L : γ → σ → Prop) {Q : α → σ → Prop} (hstable : ∀ g, C.Stable p (L g)) (hstart : L start s)
    (hround : ∀ g t, L g t →
      C.Safe p (round g) (Ends fun x t => Sum.elim (fun g => L g t) (fun a => Q a t) x) t) :
    C.Safe p (Prog.repeatUntil round start) (Ends Q) s := by
  refine ⟨L, hstable, hstart, ?_⟩
  intro g t _ hg
  refine Safe.seq (hround g t hg) ?_
  intro r u hr
  cases r with
  | error e => trivial
  | ok x =>
    cases x with
    | inl g' => exact hr
    | inr a => exact hr

end Contract

end Lgnome.Transition
