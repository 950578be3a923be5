import Mathlib.Data.List.Induction

/-!
# Guarded machines and their runs

A machine takes one labelled step at a time: an action is refused or yields the
next state together with what the step lets an observer see. Runs keep every
action with its observation, so that a statement about a whole run is a
statement about one list. Nothing here knows what the steps compute.
-/
namespace Lgnome.Transition

/-- An initial state and a partial step function. A refused action is `none`. -/
structure Machine (σ α ε : Type*) where
  init : σ
  step : σ → α → Option (σ × ε)

namespace Machine

variable {σ α ε : Type*} (M : Machine σ α ε)

/-- The steps recorded in `tr`, oldest first, lead from one state to the other. -/
inductive Path : σ → List (α × ε) → σ → Prop
  | refl (s : σ) : Path s [] s
  | snoc {s t u : σ} {tr : List (α × ε)} {a : α} {e : ε} :
      Path s tr t → M.step t a = some (u, e) → Path s (tr ++ [(a, e)]) u

/-- A run is a path out of the initial state. -/
abbrev Run (tr : List (α × ε)) (s : σ) : Prop := M.Path M.init tr s

/-- The same machine, refusing every action that does not meet the condition. -/
def restrict (P : σ → α → Prop) [∀ s a, Decidable (P s a)] : Machine σ α ε where
  init := M.init
  step s a := if P s a then M.step s a else none

/-- The same machine with a ledger beside the state. The ledger sees every step
and influences none. -/
def withGhost {γ : Type*} (g : γ) (update : γ → σ → α → σ → ε → γ) : Machine (σ × γ) α ε where
  init := (M.init, g)
  step s a := (M.step s.1 a).map fun r => ((r.1, update s.2 s.1 a r.1 r.2), r.2)

/-- Runs a list of actions, giving up at the first refusal. -/
def exec (s : σ) : List α → Option (σ × List (α × ε))
  | [] => some (s, [])
  | a :: as =>
    match M.step s a with
    | none => none
    | some (t, e) =>
      match exec t as with
      | none => none
      | some (u, tr) => some (u, (a, e) :: tr)

variable {M}

namespace Path

theorem eq_of_nil {s t : σ} (h : M.Path s [] t) : s = t := by
  generalize hrec : ([] : List (α × ε)) = rec at h
  cases h with
  | refl => rfl
  | snoc _ _ => simp at hrec

theorem single {s t : σ} {a : α} {e : ε} (h : M.step s a = some (t, e)) :
    M.Path s [(a, e)] t := by
  have h0 := Path.snoc (Path.refl (M := M) s) h
  simpa only [List.nil_append] using h0

theorem append {s t u : σ} {tr tr' : List (α × ε)} (h : M.Path s tr t)
    (h' : M.Path t tr' u) : M.Path s (tr ++ tr') u := by
  induction h' with
  | refl => simpa only [List.append_nil] using h
  | snoc _ hstep ih =>
    rw [← List.append_assoc]
    exact .snoc ih hstep

theorem cons {s t u : σ} {tr : List (α × ε)} {a : α} {e : ε}
    (h : M.step s a = some (t, e)) (h' : M.Path t tr u) : M.Path s ((a, e) :: tr) u :=
  (single h).append h'

/-- A path may be cut at every position of its record. -/
theorem split {s u : σ} {tr tr' : List (α × ε)} (h : M.Path s (tr ++ tr') u) :
    ∃ t, M.Path s tr t ∧ M.Path t tr' u := by
  induction tr' using List.reverseRecOn generalizing u with
  | nil => exact ⟨u, by simpa only [List.append_nil] using h, .refl u⟩
  | append_singleton tr' x ih =>
    rw [← List.append_assoc] at h
    generalize hrec : (tr ++ tr') ++ [x] = rec at h
    cases h with
    | refl => simp at hrec
    | snoc hpre hstep =>
      obtain ⟨hl, hx⟩ := List.append_inj' hrec rfl
      obtain rfl := List.singleton_inj.mp hx
      rw [← hl] at hpre
      obtain ⟨t, h1, h2⟩ := ih hpre
      exact ⟨t, h1, .snoc h2 hstep⟩

/-- Cut a path around one of its steps. -/
theorem split_at {s u : σ} {pre post : List (α × ε)} {a : α} {e : ε}
    (h : M.Path s (pre ++ (a, e) :: post) u) :
    ∃ t t', M.Path s pre t ∧ M.step t a = some (t', e) ∧ M.Path t' post u := by
  have h' : M.Path s ((pre ++ [(a, e)]) ++ post) u := by
    simpa only [List.append_assoc, List.singleton_append] using h
  obtain ⟨t', hp, hpost⟩ := h'.split
  generalize hrec : pre ++ [(a, e)] = rec at hp
  cases hp with
  | refl => simp at hrec
  | snoc hpre hstep =>
    obtain ⟨hl, hx⟩ := List.append_inj' hrec rfl
    obtain ⟨rfl, rfl⟩ := Prod.mk.inj (List.singleton_inj.mp hx)
    subst hl
    exact ⟨_, t', hpre, hstep, hpost⟩

/-- A non-empty path starts with a step. -/
theorem uncons {s u : σ} {tr : List (α × ε)} {a : α} {e : ε} (h : M.Path s ((a, e) :: tr) u) :
    ∃ t, M.step s a = some (t, e) ∧ M.Path t tr u := by
  have h' : M.Path s ([] ++ (a, e) :: tr) u := h
  obtain ⟨t, t', hp, hstep, hpost⟩ := h'.split_at
  obtain rfl := hp.eq_of_nil
  exact ⟨t', hstep, hpost⟩

/-- A predicate kept by every step is kept along a path. -/
theorem invariant {I : σ → Prop} {s t : σ} {tr : List (α × ε)} (h : M.Path s tr t)
    (h0 : I s) (hstep : ∀ s a t e, I s → M.step s a = some (t, e) → I t) : I t := by
  induction h with
  | refl => exact h0
  | snoc _ hs ih => exact hstep _ _ _ _ ih hs

/-- The same rule for a predicate that also sees the record written so far. -/
theorem history {I : List (α × ε) → σ → Prop} {s t : σ} {tr : List (α × ε)}
    (h : M.Path s tr t) (h0 : I [] s)
    (hstep : ∀ tr s a t e, I tr s → M.step s a = some (t, e) → I (tr ++ [(a, e)]) t) :
    I tr t := by
  induction h with
  | refl => exact h0
  | snoc _ hs ih => exact hstep _ _ _ _ _ ih hs

/-- An invariant may be assumed while a second predicate is shown to be kept. -/
theorem invariant_of {I J : σ → Prop} {s t : σ} {tr : List (α × ε)} (h : M.Path s tr t)
    (hI : I s) (hIstep : ∀ s a t e, I s → M.step s a = some (t, e) → I t) (hJ : J s)
    (hJstep : ∀ s a t e, I s → J s → M.step s a = some (t, e) → J t) : J t :=
  (h.invariant (I := fun s => I s ∧ J s) ⟨hI, hJ⟩
    fun s a t e hs hst => ⟨hIstep s a t e hs.1 hst, hJstep s a t e hs.1 hs.2 hst⟩).2

/-- Along a path whose every record satisfies `P`, only those steps have to be checked. -/
theorem invariant_on {I : σ → Prop} {P : α × ε → Prop} {s t : σ} {tr : List (α × ε)}
    (h : M.Path s tr t) (h0 : I s) (hP : ∀ x ∈ tr, P x)
    (hstep : ∀ s a t e, P (a, e) → I s → M.step s a = some (t, e) → I t) : I t := by
  induction h with
  | refl => exact h0
  | snoc _ hs ih =>
    have hl := hP _ (List.mem_append_right _ (List.mem_singleton_self _))
    exact hstep _ _ _ _ hl (ih fun x hx => hP x (List.mem_append_left _ hx)) hs

end Path

theorem exec_path {s t : σ} {as : List α} {tr : List (α × ε)}
    (h : M.exec s as = some (t, tr)) : M.Path s tr t := by
  induction as generalizing s tr with
  | nil =>
    obtain ⟨rfl, rfl⟩ := Prod.mk.inj (Option.some.inj h)
    exact .refl _
  | cons a as ih =>
    simp only [exec] at h
    cases hs : M.step s a with
    | none => simp [hs] at h
    | some p =>
      obtain ⟨u, e⟩ := p
      simp only [hs] at h
      cases hr : M.exec u as with
      | none => simp [hr] at h
      | some q =>
        obtain ⟨v, tr'⟩ := q
        simp only [hr] at h
        obtain ⟨rfl, rfl⟩ := Prod.mk.inj (Option.some.inj h)
        exact .cons hs (ih hr)

/-- A list of actions that is accepted to its end gives a path. -/
theorem path_of_exec (s : σ) (as : List α) (h : (M.exec s as).isSome) :
    M.Path s ((M.exec s as).get h).2 ((M.exec s as).get h).1 :=
  exec_path (Option.some_get h).symm

theorem run_of_exec (as : List α) (h : (M.exec M.init as).isSome) :
    M.Run ((M.exec M.init as).get h).2 ((M.exec M.init as).get h).1 :=
  path_of_exec M.init as h

theorem restrict_step {P : σ → α → Prop} [∀ s a, Decidable (P s a)] {s t : σ} {a : α} {e : ε} :
    (M.restrict P).step s a = some (t, e) ↔ P s a ∧ M.step s a = some (t, e) := by
  simp only [restrict]
  by_cases h : P s a
  · simp [h]
  · simp [h]

theorem Path.of_restrict {P : σ → α → Prop} [∀ s a, Decidable (P s a)] {s t : σ}
    {tr : List (α × ε)} (h : (M.restrict P).Path s tr t) : M.Path s tr t := by
  induction h with
  | refl => exact .refl _
  | snoc _ hs ih => exact .snoc ih (restrict_step.mp hs).2

section Ghost

variable {γ : Type*} {g : γ} {update : γ → σ → α → σ → ε → γ}

theorem withGhost_step {s t : σ × γ} {a : α} {e : ε} :
    (M.withGhost g update).step s a = some (t, e) ↔
      M.step s.1 a = some (t.1, e) ∧ t.2 = update s.2 s.1 a t.1 e := by
  simp only [withGhost, Option.map_eq_some_iff]
  constructor
  · rintro ⟨⟨u, e'⟩, hu, he⟩
    obtain ⟨rfl, rfl⟩ := Prod.mk.inj he
    exact ⟨hu, rfl⟩
  · rintro ⟨hu, hg⟩
    exact ⟨(t.1, e), hu, by rw [← hg]⟩

theorem Path.forget {s t : σ × γ} {tr : List (α × ε)}
    (h : (M.withGhost g update).Path s tr t) : M.Path s.1 tr t.1 := by
  induction h with
  | refl => exact .refl _
  | snoc _ hs ih => exact .snoc ih (withGhost_step.mp hs).1

end Ghost

end Machine

end Lgnome.Transition
