import Mathlib.Data.List.Basic

/-!
# Critical sections

Whoever holds a lock works through a list of small steps, each of which waits
for an answer. Other parties see the shared state before every one of them, so a
statement about a section says what holds there and what holds at its end.
-/
namespace Lgnome.Transition

variable {σ μ ε : Type*}

/-- `Ok` holds before every small step and `Post` behind the last, whatever the answers. -/
def Along (exec : σ → μ → ε → σ) (Ok : σ → μ → Prop) (Post : σ → Prop) : List μ → σ → Prop
  | [], s => Post s
  | m :: ms, s => Ok s m ∧ ∀ answer, Along exec Ok Post ms (exec s m answer)

namespace Along

variable {exec : σ → μ → ε → σ} {Ok : σ → μ → Prop} {Post Post' : σ → Prop} {l l' : List μ} {s : σ}

theorem mono (h : Along exec Ok Post l s) (hpost : ∀ s, Post s → Post' s) :
    Along exec Ok Post' l s := by
  induction l generalizing s with
  | nil => exact hpost s h
  | cons m ms ih => exact ⟨h.1, fun answer => ih (h.2 answer)⟩

/-- Two sections in a row are one section. -/
theorem append (Post : σ → Prop) (h : Along exec Ok Post l s)
    (h' : ∀ s, Post s → Along exec Ok Post' l' s) :
    Along exec Ok Post' (l ++ l') s := by
  induction l generalizing s with
  | nil => exact h' s h
  | cons m ms ih => exact ⟨h.1, fun answer => ih (h.2 answer)⟩

/-- A loop over a list: what it has done so far grows by one round. -/
theorem loop {ι : Type*} (Done : List ι → σ → Prop) {round : ι → List μ} (xs : List ι)
    (h : Done [] s)
    (hround : ∀ pre x post, xs = pre ++ x :: post → ∀ s, Done pre s →
      Along exec Ok (Done (pre ++ [x])) (round x) s) :
    Along exec Ok (Done xs) (xs.flatMap round) s := by
  have hgo : ∀ post pre s, xs = pre ++ post → Done pre s →
      Along exec Ok (Done xs) (post.flatMap round) s := by
    intro post
    induction post with
    | nil =>
      intro pre s hxs hdone
      rw [List.append_nil] at hxs
      rw [hxs]
      exact hdone
    | cons x post ih =>
      intro pre s hxs hdone
      rw [List.flatMap_cons]
      apply append _ (hround pre x post hxs s hdone)
      intro s' hdone'
      exact ih (pre ++ [x]) s' (by rw [hxs, List.append_assoc, List.singleton_append]) hdone'
  exact hgo xs [] s rfl h

end Along

end Lgnome.Transition
