import Lgnome.Transition.Machine
import Mathlib.Logic.Function.Basic

/-!
# Parties on one shared state

Several parties work on one shared state, each by programs of atomic actions.
Between two actions of one party the others may take any number of theirs. A
program is therefore verified against what the others may do in between, its
rely, and answers for what each of its own actions does, its guarantee.
-/
namespace Lgnome.Transition

/-- A program of one party. An action reads and writes the shared state in one
step and may consult an answer from outside; a loop runs its body until that
ends with a result. -/
inductive Prog (ι σ : Type) : Type → Type 1
  | ret {α : Type} (a : α) : Prog ι σ α
  | atom {α β : Type} (act : ι → σ → β × σ) (next : β → Prog ι σ α) : Prog ι σ α
  | loop {α β γ : Type} (body : γ → Prog ι σ (γ ⊕ β)) (start : γ)
      (next : β → Prog ι σ α) : Prog ι σ α

namespace Prog

variable {ι σ α β γ : Type}

def bind : Prog ι σ α → (α → Prog ι σ β) → Prog ι σ β
  | ret a, f => f a
  | atom act next, f => atom act fun b => (next b).bind f
  | loop body start next, f => loop body start fun b => (next b).bind f

instance : Monad (Prog ι σ) where
  pure := ret
  bind := bind

@[simp] theorem pure_eq (a : α) : (pure a : Prog ι σ α) = ret a := rfl
@[simp] theorem bind_eq (p : Prog ι σ α) (f : α → Prog ι σ β) : (p >>= f) = p.bind f := rfl
@[simp] theorem ret_bind (a : α) (f : α → Prog ι σ β) : (ret a).bind f = f a := rfl

/-- One action with its result. -/
def act (f : ι → σ → β × σ) : Prog ι σ β := atom f ret

/-- An action that only looks. -/
def load (f : σ → β) : Prog ι σ β := act fun _ s => (f s, s)

/-- An action that only writes. -/
def store (f : σ → σ) : Prog ι σ Unit := act fun _ s => ((), f s)

/-- An action that only takes an answer from outside. -/
def ask (f : ι → β) : Prog ι σ β := act fun i s => (f i, s)

/-- A step that is taken only under a condition. -/
def when (c : Prop) [Decidable c] (p : Prog ι σ Unit) : Prog ι σ Unit := if c then p else ret ()

/-- A loop whose body says whether to go on, `inl`, or how it ended, `inr`. -/
def iterate (body : γ → Prog ι σ (γ ⊕ β)) (start : γ) : Prog ι σ β := loop body start ret

/-- What a round of a loop leads to. -/
def afterRound (body : γ → Prog ι σ (γ ⊕ β)) (next : β → Prog ι σ α) : γ ⊕ β → Prog ι σ α
  | .inl g => loop body g next
  | .inr b => next b

/-- One scheduled step: an action, or a loop that enters its next round. -/
def advance (i : ι) (s : σ) : Prog ι σ α → Option (Prog ι σ α × σ)
  | ret _ => none
  | atom act next => some (next (act i s).1, (act i s).2)
  | loop body start next => some ((body start).bind (afterRound body next), s)

/-- Every action of the program relates the state before to the state after by `K`. -/
def Keeps (K : σ → σ → Prop) {α : Type} : Prog ι σ α → Prop
  | ret _ => True
  | atom act next => ∀ i s, K s (act i s).2 ∧ Keeps K (next (act i s).1)
  | loop body _ next => (∀ g, Keeps K (body g)) ∧ ∀ b, Keeps K (next b)

theorem Keeps.bind {K : σ → σ → Prop} {p : Prog ι σ α} {f : α → Prog ι σ β}
    (hp : Keeps K p) (hf : ∀ a, Keeps K (f a)) : Keeps K (p.bind f) := by
  induction p with
  | ret a => exact hf a
  | atom act next ih => exact fun i s => ⟨(hp i s).1, ih _ (hp i s).2 hf⟩
  | loop body start next _ ih => exact ⟨hp.1, fun b => ih b (hp.2 b) hf⟩

theorem Keeps.load {K : σ → σ → Prop} (hK : ∀ s, K s s) (f : σ → β) :
    Keeps K (load f : Prog ι σ β) :=
  fun _ s => ⟨hK s, trivial⟩

theorem Keeps.ask {K : σ → σ → Prop} (hK : ∀ s, K s s) (f : ι → β) : Keeps K (ask f : Prog ι σ β) :=
  fun _ s => ⟨hK s, trivial⟩

theorem Keeps.store {K : σ → σ → Prop} {f : σ → σ} (hf : ∀ s, K s (f s)) :
    Keeps K (store f : Prog ι σ Unit) :=
  fun _ s => ⟨hf s, trivial⟩

theorem Keeps.when {K : σ → σ → Prop} {c : Prop} [Decidable c] {p : Prog ι σ Unit}
    (hp : Keeps K p) : Keeps K (when c p) := by
  unfold Prog.when
  split
  · exact hp
  · exact trivial

end Prog

/-- What the parties promise each other: the invariant of the shared state, what
each may rely on, what each guarantees, and what each leaves between two calls. -/
structure Contract (π σ : Type) where
  inv : σ → Prop
  rely : π → σ → σ → Prop
  guar : π → σ → σ → Prop
  rest : π → σ → Prop
  rely_refl : ∀ p s, rely p s s
  guar_refl : ∀ p s, guar p s s
  rely_trans : ∀ p s t u, rely p s t → rely p t u → rely p s u
  guar_rely : ∀ p q s t, p ≠ q → guar p s t → rely q s t
  rest_stable : ∀ p s t, rely p s t → rest p s → rest p t

namespace Contract

variable {π ι σ α β : Type} (C : Contract π σ) (p : π)

/-- An assertion of a party that the other parties' steps do not break. -/
def Stable (A : σ → Prop) : Prop := ∀ s t, C.rely p s t → C.inv t → A s → A t

/-- From this state the program keeps the invariant and its guarantee, whatever
the others do in between, and ends only with `post`. A loop comes with a stable
assertion that each of its rounds leads back to. -/
def Safe {α : Type} : Prog ι σ α → (α → σ → Prop) → σ → Prop
  | .ret a, post, s => post a s
  | .atom act next, post, s =>
    ∀ t, C.rely p s t → C.inv t → ∀ i, C.inv (act i t).2 ∧ C.guar p t (act i t).2 ∧
      Safe (next (act i t).1) post (act i t).2
  | .loop (γ := γ) body start next, post, s =>
    ∃ L : γ → σ → Prop, (∀ g, C.Stable p (L g)) ∧ L start s ∧ ∀ g s, C.inv s → L g s →
      Safe (body g) (fun x t => Sum.elim (fun g' => L g' t) (fun b => Safe (next b) post t) x) s

variable {C p}

theorem Safe.mono {q : Prog ι σ α} {post post' : α → σ → Prop} {s : σ}
    (h : C.Safe p q post s) (hpost : ∀ a t, post a t → post' a t) : C.Safe p q post' s := by
  induction q generalizing s with
  | ret a => exact hpost a s h
  | atom act next ih =>
    intro t hrely hinv i
    obtain ⟨hinv', hguar, hnext⟩ := h t hrely hinv i
    exact ⟨hinv', hguar, ih _ hnext hpost⟩
  | loop body start next ihBody ihNext =>
    obtain ⟨L, hstable, hstart, hround⟩ := h
    refine ⟨L, hstable, hstart, ?_⟩
    intro g s hinv hL
    apply ihBody g (hround g s hinv hL)
    intro x t hx
    cases x with
    | inl g' => exact hx
    | inr b => exact ihNext b hx hpost

/-- Two programs in a row: the second starts where the first has ended. -/
theorem Safe.bind {q : Prog ι σ α} {f : α → Prog ι σ β} {post : β → σ → Prop} {s : σ}
    (h : C.Safe p q (fun a t => C.Safe p (f a) post t) s) : C.Safe p (q.bind f) post s := by
  induction q generalizing s with
  | ret a => exact h
  | atom act next ih =>
    intro t hrely hinv i
    obtain ⟨hinv', hguar, hnext⟩ := h t hrely hinv i
    exact ⟨hinv', hguar, ih _ hnext⟩
  | loop body start next ihBody ihNext =>
    obtain ⟨L, hstable, hstart, hround⟩ := h
    refine ⟨L, hstable, hstart, ?_⟩
    intro g s hinv hL
    apply (hround g s hinv hL).mono
    intro x t hx
    cases x with
    | inl g' => exact hx
    | inr b => exact ihNext b hx

theorem Safe.seq {q : Prog ι σ α} {f : α → Prog ι σ β} {mid : α → σ → Prop}
    {post : β → σ → Prop} {s : σ} (h : C.Safe p q mid s)
    (hf : ∀ a t, mid a t → C.Safe p (f a) post t) : C.Safe p (q.bind f) post s :=
  (h.mono hf).bind

theorem Safe.act {f : ι → σ → α × σ} {post : α → σ → Prop} {s : σ}
    (h : ∀ t, C.rely p s t → C.inv t → ∀ i,
      C.inv (f i t).2 ∧ C.guar p t (f i t).2 ∧ post (f i t).1 (f i t).2) :
    C.Safe p (Prog.act f) post s := h

theorem Safe.load {f : σ → α} {post : α → σ → Prop} {s : σ}
    (h : ∀ t, C.rely p s t → C.inv t → post (f t) t) :
    C.Safe p (Prog.load f : Prog ι σ α) post s :=
  fun t hrely hinv _ => ⟨hinv, C.guar_refl p t, h t hrely hinv⟩

theorem Safe.ask {f : ι → α} {post : α → σ → Prop} {s : σ}
    (h : ∀ t, C.rely p s t → C.inv t → ∀ i, post (f i) t) : C.Safe p (Prog.ask f) post s :=
  fun t hrely hinv i => ⟨hinv, C.guar_refl p t, h t hrely hinv i⟩

theorem Safe.store {f : σ → σ} {post : Unit → σ → Prop} {s : σ}
    (h : ∀ t, C.rely p s t → C.inv t → C.inv (f t) ∧ C.guar p t (f t) ∧ post () (f t)) :
    C.Safe p (Prog.store f : Prog ι σ Unit) post s :=
  fun t hrely hinv _ => h t hrely hinv

theorem Safe.when {c : Prop} [Decidable c] {q : Prog ι σ Unit} {post : Unit → σ → Prop} {s : σ}
    (h : c → C.Safe p q post s) (hnot : ¬ c → post () s) :
    C.Safe p (Prog.when c q) post s := by
  unfold Prog.when
  split
  · exact h ‹_›
  · exact hnot ‹_›

/-- The steps of the others do not spoil a program that waits to be scheduled. -/
theorem Safe.stable {q : Prog ι σ α} {post : α → σ → Prop} (hpost : ∀ a, C.Stable p (post a)) :
    C.Stable p (C.Safe p q post) := by
  intro s t hrely hinv h
  cases q with
  | ret a => exact hpost a s t hrely hinv h
  | atom act next =>
    intro u hrely' hinv'
    exact h u (C.rely_trans p s t u hrely hrely') hinv'
  | loop body start next =>
    obtain ⟨L, hstable, hstart, hround⟩ := h
    exact ⟨L, hstable, hstable start s t hrely hinv hstart, hround⟩

/-- A scheduled step of a verified program. -/
theorem Safe.advance {q q' : Prog ι σ α} {post : α → σ → Prop} {s t : σ} {i : ι}
    (h : C.Safe p q post s) (hinv : C.inv s) (hstep : q.advance i s = some (q', t)) :
    C.inv t ∧ (C.guar p s t ∨ t = s) ∧ C.Safe p q' post t := by
  cases q with
  | ret a => cases hstep
  | atom act next =>
    obtain ⟨rfl, rfl⟩ := Prod.mk.inj (Option.some.inj hstep)
    obtain ⟨hinv', hguar, hnext⟩ := h s (C.rely_refl p s) hinv i
    exact ⟨hinv', .inl hguar, hnext⟩
  | loop body start next =>
    obtain ⟨rfl, rfl⟩ := Prod.mk.inj (Option.some.inj hstep)
    obtain ⟨L, hstable, hstart, hround⟩ := h
    refine ⟨hinv, .inr rfl, Safe.seq (hround start s hinv hstart) ?_⟩
    intro x t hx
    cases x with
    | inl g' => exact ⟨L, hstable, hx, hround⟩
    | inr b => exact hx

/-- Actions that touch nothing the contract and `A` speak of need no look at the program. -/
theorem safe_of_keeps {K : σ → σ → Prop} {A : σ → Prop} (hA : C.Stable p A)
    (hK : ∀ s t, K s t → C.inv s → A s → C.inv t ∧ C.guar p s t ∧ A t)
    {q : Prog ι σ α} (hq : q.Keeps K) {s : σ} (h : A s) : C.Safe p q (fun _ => A) s := by
  induction q generalizing s with
  | ret a => exact h
  | atom act next ih =>
    intro t hrely hinv i
    obtain ⟨hkeep, hnext⟩ := hq i t
    obtain ⟨hinv', hguar, hA'⟩ := hK t _ hkeep hinv (hA s t hrely hinv h)
    exact ⟨hinv', hguar, ih _ hnext hA'⟩
  | loop body start next ihBody ihNext =>
    refine ⟨fun _ => A, fun _ => hA, h, ?_⟩
    intro g s _ hs
    apply (ihBody g (hq.1 g) hs).mono
    intro x t hx
    cases x with
    | inl g' => exact hx
    | inr b => exact ihNext b (hq.2 b) hx

end Contract

section Scheduler

variable {π ι σ : Type} {κ : π → Type}

/-- The shared state and the program each party is in; `none` is a party at rest. -/
structure Config (π ι σ : Type) where
  shared : σ
  running : π → Option (Prog ι σ Unit)

/-- What the scheduler can do: let a party at rest begin a call, or give a party a step. -/
inductive Turn (π ι : Type) (κ : π → Type)
  | call (p : π) (c : κ p)
  | step (p : π) (i : ι)

/-- What a party is in the middle of, or what it left when it came to rest. -/
def Contract.Standing (C : Contract π σ) (p : π) (q : Option (Prog ι σ Unit)) (s : σ) : Prop :=
  q.elim (C.rest p s) fun q => C.Safe p q (fun _ => C.rest p) s

variable {C : Contract π σ}

theorem Contract.Standing.stable {p : π} {q : Option (Prog ι σ Unit)} :
    C.Stable p (C.Standing p q) := by
  intro s t hrely hinv h
  cases q with
  | none => exact C.rest_stable p s t hrely h
  | some q =>
    exact Safe.stable (fun _ s t hrely _ => C.rest_stable p s t hrely) s t hrely hinv h

variable [DecidableEq π]

/-- The parties on one shared state, in every order of their steps. -/
def parties (init : σ) (program : (p : π) → κ p → Prog ι σ Unit) :
    Machine (Config π ι σ) (Turn π ι κ) Unit where
  init := { shared := init, running := fun _ => none }
  step s
    | .call p c =>
      match s.running p with
      | none => some ({ s with running := Function.update s.running p (some (program p c)) }, ())
      | some _ => none
    | .step p i =>
      match s.running p with
      | none => none
      | some q =>
        match q.advance i s.shared with
        | none => some ({ s with running := Function.update s.running p none }, ())
        | some (q', t) =>
          some ({ shared := t, running := Function.update s.running p (some q') }, ())

/-- Every party is where its contract allows. -/
structure Contract.Kept (C : Contract π σ) (s : Config π ι σ) : Prop where
  inv : C.inv s.shared
  standing : ∀ p, C.Standing p (s.running p) s.shared

variable {init : σ} {program : (p : π) → κ p → Prog ι σ Unit}

/-- A step of one party, seen by all. -/
theorem Contract.Kept.move {s : Config π ι σ} (h : C.Kept s) {p : π} {t : σ}
    {q : Option (Prog ι σ Unit)} (hinv : C.inv t) (hguar : C.guar p s.shared t ∨ t = s.shared)
    (hq : C.Standing p q t) :
    C.Kept { shared := t, running := Function.update s.running p q } := by
  refine ⟨hinv, ?_⟩
  intro r
  by_cases hr : r = p
  · subst hr
    simp only [Function.update_self]
    exact hq
  · simp only [Function.update_of_ne hr]
    have hrely : C.rely r s.shared t := by
      rcases hguar with hguar | rfl
      · exact C.guar_rely p r s.shared t (Ne.symm hr) hguar
      · exact C.rely_refl r s.shared
    exact Standing.stable s.shared t hrely hinv (h.standing r)

theorem Contract.Kept.next
    (hcall : ∀ p c s, C.inv s → C.rest p s → C.Safe p (program p c) (fun _ => C.rest p) s)
    {s t : Config π ι σ} {a : Turn π ι κ} {e : Unit} (h : C.Kept s)
    (hstep : (parties init program).step s a = some (t, e)) : C.Kept t := by
  cases a with
  | call p c =>
    simp only [parties] at hstep
    cases hp : s.running p with
    | some q => simp [hp] at hstep
    | none =>
      simp only [hp, Option.some.injEq, Prod.mk.injEq, and_true] at hstep
      have hrest : C.Standing p (s.running p) s.shared := h.standing p
      rw [hp] at hrest
      rw [← hstep]
      exact h.move h.inv (.inr rfl) (hcall p c s.shared h.inv hrest)
  | step p i =>
    simp only [parties] at hstep
    cases hp : s.running p with
    | none => simp [hp] at hstep
    | some q =>
      have hq : C.Standing p (s.running p) s.shared := h.standing p
      rw [hp] at hq
      simp only [hp] at hstep
      cases hadv : q.advance i s.shared with
      | none =>
        simp only [hadv, Option.some.injEq, Prod.mk.injEq, and_true] at hstep
        rw [← hstep]
        refine h.move h.inv (.inr rfl) ?_
        cases q with
        | ret a => exact hq
        | atom act next => cases hadv
        | loop body start next => cases hadv
      | some r =>
        simp only [hadv, Option.some.injEq, Prod.mk.injEq, and_true] at hstep
        obtain ⟨hinv, hguar, hsafe⟩ := Safe.advance hq h.inv hadv
        rw [← hstep]
        exact h.move hinv hguar hsafe

/-- Calls that are each safe from rest keep the contract over every run. -/
theorem Contract.kept_run (hinv : C.inv init) (hrest : ∀ p, C.rest p init)
    (hcall : ∀ p c s, C.inv s → C.rest p s → C.Safe p (program p c) (fun _ => C.rest p) s)
    {s : Config π ι σ} {tr : List (Turn π ι κ × Unit)} (h : (parties init program).Run tr s) :
    C.Kept s :=
  h.invariant (I := fun s => C.Kept s) ⟨hinv, hrest⟩ fun _ _ _ _ hs hstep => hs.next hcall hstep

end Scheduler

end Lgnome.Transition
