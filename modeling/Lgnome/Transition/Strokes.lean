import Mathlib.Data.List.Induction

/-!
# Logs of strokes

A log of presses and releases that several owners were sent. Its reader asks which
items an owner still has down.
-/
namespace Lgnome.Transition

/-- One edge of one item, sent to an owner. -/
structure Stroke (κ ι : Type*) where
  owner : κ
  item : ι
  down : Bool
  deriving DecidableEq, Repr

namespace Stroke

variable {κ ι : Type*} [DecidableEq κ] [DecidableEq ι] {log more : List (Stroke κ ι)}
  {owner other : κ} {item : ι}

/-- The last edge that the owner was sent of the item is a press. -/
def stillDown (log : List (Stroke κ ι)) (owner : κ) (item : ι) : Bool :=
  log.foldl (fun was s => if s.owner = owner ∧ s.item = item then s.down else was) false

theorem stillDown_snoc (s : Stroke κ ι) :
    stillDown (log ++ [s]) owner item
      = if s.owner = owner ∧ s.item = item then s.down else stillDown log owner item := by
  simp only [stillDown, List.foldl_append, List.foldl_cons, List.foldl_nil]

/-- Releases press nothing. -/
theorem stillDown_released (h : ∀ s ∈ more, s.down = false)
    (hdown : stillDown (log ++ more) owner item = true) :
    stillDown log owner item = true ∧ ∀ s ∈ more, ¬(s.owner = owner ∧ s.item = item) := by
  induction more using List.reverseRecOn with
  | nil => exact ⟨by rwa [List.append_nil] at hdown, by simp⟩
  | append_singleton more s ih =>
    rw [← List.append_assoc, stillDown_snoc] at hdown
    split at hdown
    · rw [h s (by simp)] at hdown
      cases hdown
    · rename_i hother
      obtain ⟨hbefore, hmore⟩ := ih (fun s' hs' => h s' (List.mem_append_left _ hs')) hdown
      refine ⟨hbefore, fun s' hs' => ?_⟩
      rcases List.mem_append.mp hs' with hs' | hs'
      · exact hmore s' hs'
      · obtain rfl := List.mem_singleton.mp hs'
        exact hother

/-- An item is down exactly when it was pressed and not released behind that. -/
theorem stillDown_iff : stillDown log owner item = true ↔
    ∃ pre post, log = pre ++ ⟨owner, item, true⟩ :: post ∧ ⟨owner, item, false⟩ ∉ post := by
  induction log using List.reverseRecOn with
  | nil => simp [stillDown]
  | append_singleton log s ih =>
    rw [stillDown_snoc]
    constructor
    · intro hdown
      split at hdown
      · rename_i hsame
        obtain ⟨sowner, sitem, sdown⟩ := s
        obtain ⟨rfl, rfl⟩ := hsame
        obtain rfl : sdown = true := hdown
        exact ⟨log, [], rfl, by simp⟩
      · rename_i hother
        obtain ⟨pre, post, rfl, hpost⟩ := ih.mp hdown
        refine ⟨pre, post ++ [s], by simp, ?_⟩
        intro hmem
        rcases List.mem_append.mp hmem with hmem | hmem
        · exact hpost hmem
        · obtain rfl := List.mem_singleton.mp hmem
          exact hother ⟨rfl, rfl⟩
    · rintro ⟨pre, post, hlog, hpost⟩
      rcases List.eq_nil_or_concat post with rfl | ⟨post, last, rfl⟩
      · obtain ⟨rfl, hs⟩ := List.append_inj' hlog rfl
        obtain rfl := List.singleton_inj.mp hs
        simp
      · rw [List.concat_eq_append] at hlog hpost
        rw [← List.cons_append, ← List.append_assoc] at hlog
        obtain ⟨rfl, hs⟩ := List.append_inj' hlog rfl
        obtain rfl := List.singleton_inj.mp hs
        have hbefore := ih.mpr ⟨pre, post, rfl, fun hmem => hpost (List.mem_append_left _ hmem)⟩
        split
        · rename_i hsame
          cases hdown : s.down with
          | true => rfl
          | false =>
            have hs : s = ⟨owner, item, false⟩ := by
              rw [← hsame.1, ← hsame.2, ← hdown]
            exact absurd (List.mem_append_right _ (by simp [hs])) hpost
        · exact hbefore

end Stroke

end Lgnome.Transition
