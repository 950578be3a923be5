import Mathlib.Data.List.Basic

/-!
# Records and the layers laid over them

A record gives every field a value, a layer gives some fields one. Layers are
laid over a record one after another; the last one that sets a field decides it.
Nothing here knows what the fields are.
-/
namespace Lgnome.Layers

universe u v

variable {F : Type u} {V : F → Type v}

abbrev Record (V : F → Type v) := ∀ f, V f

abbrev Layer (V : F → Type v) := ∀ f, Option (V f)

namespace Layer

def empty : Layer V := fun _ => none

/-- The record where the layer sets nothing. -/
def on (l : Layer V) (r : Record V) : Record V := fun f => (l f).getD (r f)

def above (upper lower : Layer V) : Layer V := fun f => (upper f).or (lower f)

@[simp] theorem empty_on (r : Record V) : (empty : Layer V).on r = r := rfl

theorem above_on (upper lower : Layer V) (r : Record V) :
    (upper.above lower).on r = upper.on (lower.on r) := by
  funext f
  unfold on above
  cases upper f with
  | none => rfl
  | some a => rfl

end Layer

/-- The layers laid over the record, the first of them first. -/
def stack (layers : List (Layer V)) (r : Record V) : Record V :=
  layers.foldl (fun r l => l.on r) r

@[simp] theorem stack_nil (r : Record V) : stack [] r = r := rfl

theorem stack_append (lower upper : List (Layer V)) (r : Record V) :
    stack (lower ++ upper) r = stack upper (stack lower r) := List.foldl_append

/-- The topmost layer that sets a field decides it. -/
theorem stack_apply (layers : List (Layer V)) (r : Record V) (f : F) :
    stack layers r f = (layers.reverse.findSome? fun l => l f).getD (r f) := by
  induction layers generalizing r with
  | nil => rfl
  | cons l rest ih =>
    show stack rest (l.on r) f = _
    rw [ih, List.reverse_cons, List.findSome?_append]
    cases rest.reverse.findSome? fun l => l f with
    | some a => rfl
    | none => cases hset : l f <;> simp [Layer.on, hset]

/-- Layers that are laid on again at the end were not needed at the beginning. -/
theorem stack_again (again between : List (Layer V)) (r : Record V) :
    stack (again ++ (between ++ again)) r = stack (between ++ again) r := by
  funext f
  rw [stack_apply, stack_apply]
  simp only [List.reverse_append, List.findSome?_append]
  cases again.reverse.findSome? fun l => l f with
  | some a => rfl
  | none => cases between.reverse.findSome? fun l => l f <;> rfl

end Lgnome.Layers
