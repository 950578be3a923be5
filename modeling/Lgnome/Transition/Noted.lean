import Lgnome.Transition.Parties

/-!
# Parties that are watched

A program may be run beside a ledger that takes note of every action: the
answer it was offered and the states before and after. The ledger influences
nothing, so every run of the parties is one of the watched parties, and a
contract of the watched parties can speak of what has happened before.
-/
namespace Lgnome.Transition

namespace Prog

variable {ι σ α β γ : Type} (note : ι → σ → σ → γ → γ)

/-- The same program, with every action entered into a ledger. -/
def noted {α : Type} : Prog ι σ α → Prog ι (σ × γ) α
  | ret a => ret a
  | atom act next =>
    atom (fun i x => ((act i x.1).1, ((act i x.1).2, note i x.1 (act i x.1).2 x.2)))
      fun b => (next b).noted
  | loop body start next => loop (fun g => (body g).noted) start fun b => (next b).noted

theorem noted_bind (p : Prog ι σ α) (f : α → Prog ι σ β) :
    (p.bind f).noted note = (p.noted note).bind fun a => (f a).noted note := by
  induction p with
  | ret a => rfl
  | atom act next ih =>
    simp only [bind, noted]
    exact congrArg _ (funext fun b => ih b f)
  | loop body start next _ ih =>
    simp only [bind, noted]
    exact congrArg _ (funext fun b => ih b f)

theorem noted_afterRound (body : γ → Prog ι σ (γ ⊕ β)) (next : β → Prog ι σ α)
    {δ : Type} (note : ι → σ → σ → δ → δ) (x : γ ⊕ β) :
    (afterRound body next x).noted note =
      afterRound (fun g => (body g).noted note) (fun b => (next b).noted note) x := by
  cases x with
  | inl g => rfl
  | inr b => rfl

/-- A step of the watched program is the step of the program. -/
theorem advance_noted {i : ι} {s t : σ} {g : γ} {p q : Prog ι σ α}
    (h : p.advance i s = some (q, t)) :
    ∃ g', (p.noted note).advance i (s, g) = some (q.noted note, (t, g')) := by
  cases p with
  | ret a => cases h
  | atom act next =>
    obtain ⟨rfl, rfl⟩ := Prod.mk.inj (Option.some.inj h)
    exact ⟨_, rfl⟩
  | loop body start next =>
    obtain ⟨rfl, rfl⟩ := Prod.mk.inj (Option.some.inj h)
    refine ⟨g, ?_⟩
    simp only [noted, advance, noted_bind]
    congr 3
    exact funext fun x => (noted_afterRound body next note x).symm

theorem advance_noted_none {i : ι} {s : σ} {g : γ} {p : Prog ι σ α} (h : p.advance i s = none) :
    (p.noted note).advance i (s, g) = none := by
  cases p with
  | ret a => rfl
  | atom act next => cases h
  | loop body start next => cases h

theorem Keeps.act {K : σ → σ → Prop} {f : ι → σ → β × σ} (hf : ∀ i s, K s (f i s).2) :
    Keeps K (act f) :=
  fun i s => ⟨hf i s, trivial⟩

/-- What every action keeps, the actions of the watched program keep beside the ledger. -/
theorem Keeps.noted {K : σ → σ → Prop} {p : Prog ι σ α} (h : p.Keeps K) :
    (p.noted note).Keeps fun x y => K x.1 y.1 ∧ ∃ i, y.2 = note i x.1 y.1 x.2 := by
  induction p with
  | ret a => trivial
  | atom act next ih =>
    intro i x
    obtain ⟨hkeep, hnext⟩ := h i x.1
    exact ⟨⟨hkeep, i, rfl⟩, ih _ hnext⟩
  | loop body start next ihBody ihNext =>
    exact ⟨fun g => ihBody g (h.1 g), fun b => ihNext b (h.2 b)⟩

end Prog

section Scheduler

variable {π ι σ γ : Type} {κ : π → Type} [DecidableEq π]

/-- The parties beside a ledger. -/
def watchedParties (init : σ) (g : γ) (program : (p : π) → κ p → Prog ι σ Unit)
    (note : π → ι → σ → σ → γ → γ) : Machine (Config π ι (σ × γ)) (Turn π ι κ) Unit :=
  parties (init, g) fun p c => (program p c).noted (note p)

/-- The configuration of the watched parties. -/
def Config.noted (note : π → ι → σ → σ → γ → γ) (s : Config π ι σ) (g : γ) :
    Config π ι (σ × γ) where
  shared := (s.shared, g)
  running p := (s.running p).map fun q => q.noted (note p)

variable {init : σ} {g₀ : γ} {program : (p : π) → κ p → Prog ι σ Unit}
  {note : π → ι → σ → σ → γ → γ}

theorem Config.noted_update (t : σ) (running : π → Option (Prog ι σ Unit)) (g : γ) (p : π)
    (q : Option (Prog ι σ Unit)) :
    Config.noted note { shared := t, running := Function.update running p q } g =
      { shared := (t, g)
        running := Function.update (fun p => (running p).map fun q => q.noted (note p)) p
          (q.map fun q => q.noted (note p)) } := by
  simp only [Config.noted]
  congr 1
  funext r
  by_cases hr : r = p
  · subst hr
    simp only [Function.update_self]
  · simp only [Function.update_of_ne hr]

variable (g₀ note) in
theorem step_noted {s t : Config π ι σ} {a : Turn π ι κ} {e : Unit} (g : γ)
    (h : (parties init program).step s a = some (t, e)) :
    ∃ g', (watchedParties init g₀ program note).step (s.noted note g) a =
      some (t.noted note g', e) := by
  cases a with
  | call p c =>
    simp only [parties] at h
    cases hp : s.running p with
    | some q => simp [hp] at h
    | none =>
      simp only [hp, Option.some.injEq, Prod.mk.injEq, and_true] at h
      refine ⟨g, ?_⟩
      rw [← h, Config.noted_update]
      simp [watchedParties, parties, Config.noted, hp]
  | step p i =>
    simp only [parties] at h
    cases hp : s.running p with
    | none => simp [hp] at h
    | some q =>
      simp only [hp] at h
      cases hadv : q.advance i s.shared with
      | none =>
        simp only [hadv, Option.some.injEq, Prod.mk.injEq, and_true] at h
        refine ⟨g, ?_⟩
        rw [← h, Config.noted_update]
        simp [watchedParties, parties, Config.noted, hp, Prog.advance_noted_none (note p) hadv]
      | some r =>
        obtain ⟨q', u⟩ := r
        simp only [hadv, Option.some.injEq, Prod.mk.injEq, and_true] at h
        obtain ⟨g', hg'⟩ := Prog.advance_noted (note p) (g := g) hadv
        refine ⟨g', ?_⟩
        rw [← h, Config.noted_update]
        simp [watchedParties, parties, Config.noted, hp, hg']

/-- Every run of the parties is a run of the watched ones. -/
theorem run_noted {s : Config π ι σ} {tr : List (Turn π ι κ × Unit)}
    (h : (parties init program).Run tr s) :
    ∃ g, (watchedParties init g₀ program note).Run tr (s.noted note g) := by
  refine h.history
    (I := fun tr s => ∃ g, (watchedParties init g₀ program note).Run tr (s.noted note g)) ?_ ?_
  · exact ⟨g₀, .refl _⟩
  · rintro tr s a t e ⟨g, hrun⟩ hstep
    obtain ⟨g', hg'⟩ := step_noted g₀ note g hstep
    exact ⟨g', .snoc hrun hg'⟩

end Scheduler

namespace Contract

variable {π ι σ α β γ δ : Type} {C : Contract π (σ × δ)} {p : π} {note : ι → σ → σ → δ → δ}

/-- A watched program from a state: `Safe` of the program beside its ledger. -/
def Watched (C : Contract π (σ × δ)) (p : π) (note : ι → σ → σ → δ → δ) (q : Prog ι σ α)
    (post : α → σ × δ → Prop) (x : σ × δ) : Prop :=
  C.Safe p (q.noted note) post x

theorem Watched.ret {a : α} {post : α → σ × δ → Prop} {x : σ × δ} (h : post a x) :
    C.Watched p note (Prog.ret a) post x := h

theorem Watched.mono {q : Prog ι σ α} {post post' : α → σ × δ → Prop} {x : σ × δ}
    (h : C.Watched p note q post x) (hpost : ∀ a y, post a y → post' a y) :
    C.Watched p note q post' x :=
  Safe.mono h hpost

/-- Two programs in a row: the second starts where the first has ended. -/
theorem Watched.bind {q : Prog ι σ α} {f : α → Prog ι σ β} {post : β → σ × δ → Prop}
    {x : σ × δ} (h : C.Watched p note q (fun a y => C.Watched p note (f a) post y) x) :
    C.Watched p note (q.bind f) post x := by
  unfold Watched
  rw [Prog.noted_bind]
  exact Safe.bind h

theorem Watched.act {f : ι → σ → α × σ} {post : α → σ × δ → Prop} {x : σ × δ}
    (h : ∀ y, C.rely p x y → C.inv y → ∀ i,
      C.inv ((f i y.1).2, note i y.1 (f i y.1).2 y.2) ∧
        C.guar p y ((f i y.1).2, note i y.1 (f i y.1).2 y.2) ∧
        post (f i y.1).1 ((f i y.1).2, note i y.1 (f i y.1).2 y.2)) :
    C.Watched p note (Prog.act f) post x := h

theorem Watched.when {c : Prop} [Decidable c] {q : Prog ι σ Unit} {post : Unit → σ × δ → Prop}
    {x : σ × δ} (h : c → C.Watched p note q post x) (hnot : ¬ c → post () x) :
    C.Watched p note (Prog.when c q) post x := by
  unfold Prog.when
  split
  · exact h ‹_›
  · exact hnot ‹_›

/-- A loop by an assertion that its rounds lead back to. -/
theorem Watched.iterate {body : γ → Prog ι σ (γ ⊕ β)} {start : γ} {post : β → σ × δ → Prop}
    {x : σ × δ} (L : γ → σ × δ → Prop) (hstable : ∀ g, C.Stable p (L g)) (hstart : L start x)
    (hround : ∀ g y, C.inv y → L g y →
      C.Watched p note (body g) (fun r z => Sum.elim (fun g' => L g' z) (fun b => post b z) r) y) :
    C.Watched p note (Prog.iterate body start) post x :=
  ⟨L, hstable, hstart, hround⟩

end Contract

end Lgnome.Transition
