import Lgnome.Transition.Parties

/-!
# A program that nobody disturbs

A program of one party may be read on its own: what it comes to when the scheduler gives
no other party a step before it ends. Its pre- and postconditions are found one action at
a time, with an assertion for every loop.
-/
namespace Lgnome.Transition.Prog

variable {ι σ α β : Type} {Q : ι → Prop} {s t : σ} {a : α}

/-- The scheduler takes the program to its end, on answers that meet `Q` and with no step of
another party in between. -/
inductive Undisturbed (Q : ι → Prop) : Prog ι σ α → σ → α → σ → Prop
  | done {a : α} {s : σ} : Undisturbed Q (ret a) s a s
  | step {q q' : Prog ι σ α} {s s' t : σ} {i : ι} {a : α} : Q i → q.advance i s = some (q', s') →
      Undisturbed Q q' s' a t → Undisturbed Q q s a t

/-- Whatever the answers, the program ends with `post` if it ends. A loop comes with an assertion
that each of its rounds leads back to. -/
def Comes (Q : ι → Prop) {α : Type} : Prog ι σ α → (α → σ → Prop) → σ → Prop
  | .ret a, post, s => post a s
  | .atom act next, post, s => ∀ i, Q i → Comes Q (next (act i s).1) post (act i s).2
  | .loop (γ := γ) body start next, post, s =>
    ∃ L : γ → σ → Prop, L start s ∧ ∀ g s, L g s →
      Comes Q (body g) (fun x t => Sum.elim (fun g' => L g' t) (fun b => Comes Q (next b) post t) x)
        s

namespace Comes

variable {q : Prog ι σ α} {next : α → Prog ι σ β} {post : α → σ → Prop} {last : β → σ → Prop}

theorem mono {post' : α → σ → Prop} (h : Comes Q q post s) (hpost : ∀ a t, post a t → post' a t) :
    Comes Q q post' s := by
  induction q generalizing s with
  | ret a => exact hpost a s h
  | atom act next ih => exact fun i hi => ih _ (h i hi) hpost
  | loop body start next ihBody ihNext =>
    obtain ⟨L, hstart, hround⟩ := h
    refine ⟨L, hstart, fun g s hL => ihBody g (hround g s hL) ?_⟩
    intro x t hx
    cases x with
    | inl g' => exact hx
    | inr b => exact ihNext b hx hpost

/-- The second program starts where the first has ended. -/
theorem andThen (h : Comes Q q post s) (hnext : ∀ a t, post a t → Comes Q (next a) last t) :
    Comes Q (q >>= next) last s := by
  show Comes Q (q.bind next) last s
  induction q generalizing s with
  | ret a => exact hnext a s h
  | atom act more ih => exact fun i hi => ih _ (h i hi) hnext
  | loop body start more ihBody ihNext =>
    obtain ⟨L, hstart, hround⟩ := h
    refine ⟨L, hstart, fun g s hL => (hround g s hL).mono ?_⟩
    intro x t hx
    cases x with
    | inl g' => exact hx
    | inr b => exact ihNext b hx hnext

theorem load {f : σ → α} (h : post (f s) s) : Comes Q (Prog.load f) post s := fun _ _ => h

theorem store {f : σ → σ} {post : Unit → σ → Prop} (h : post () (f s)) :
    Comes Q (Prog.store f : Prog ι σ Unit) post s := fun _ _ => h

theorem actThen {f : ι → σ → α × σ} (h : ∀ i, Q i → Comes Q (next (f i s).1) last (f i s).2) :
    Comes Q (Prog.act f >>= next) last s := h

theorem loadThen {f : σ → α} (h : Comes Q (next (f s)) last s) :
    Comes Q (Prog.load f >>= next) last s := fun _ _ => h

theorem askThen {f : ι → α} (h : ∀ i, Q i → Comes Q (next (f i)) last s) :
    Comes Q (Prog.ask f >>= next) last s := h

theorem storeThen {f : σ → σ} {next : Unit → Prog ι σ β} (h : Comes Q (next ()) last (f s)) :
    Comes Q (Prog.store f >>= next) last s := fun _ _ => h

theorem when {c : Prop} [Decidable c] {q : Prog ι σ Unit} {post : Unit → σ → Prop}
    (h : c → Comes Q q post s) (hnot : ¬c → post () s) : Comes Q (Prog.when c q) post s := by
  unfold Prog.when
  split
  · exact h ‹_›
  · exact hnot ‹_›

/-- A loop whose rounds keep an assertion. -/
theorem iterate {γ : Type} {body : γ → Prog ι σ (γ ⊕ α)} {start : γ} (L : γ → σ → Prop)
    (hstart : L start s)
    (hround : ∀ g t, L g t → Comes Q (body g) (fun x t => Sum.elim (L · t) (post · t) x) t) :
    Comes Q (Prog.iterate body start) post s := by
  refine ⟨L, hstart, fun g t hL => (hround g t hL).mono ?_⟩
  intro x u hx
  cases x with
  | inl g' => exact hx
  | inr b => exact hx

theorem advance {q' : Prog ι σ α} {i : ι} (h : Comes Q q post s) (hi : Q i)
    (hstep : q.advance i s = some (q', t)) : Comes Q q' post t := by
  cases q with
  | ret a => cases hstep
  | atom act next =>
    obtain ⟨rfl, rfl⟩ := Prod.mk.inj (Option.some.inj hstep)
    exact h i hi
  | loop body start next =>
    obtain ⟨rfl, rfl⟩ := Prod.mk.inj (Option.some.inj hstep)
    obtain ⟨L, hstart, hround⟩ := h
    refine (hround start s hstart).andThen ?_
    intro x t hx
    cases x with
    | inl g' => exact ⟨L, hx, hround⟩
    | inr b => exact hx

/-- What a program comes to holds where it ends. -/
theorem ends (h : Comes Q q post s) (hrun : q.Undisturbed Q s a t) : post a t := by
  induction hrun with
  | done => exact h
  | step hi hstep _ ih => exact ih (h.advance hi hstep)

end Comes

end Lgnome.Transition.Prog
