import Lgnome.Bytes.Fixed

/-!
# Messages on a byte stream

A framer looks at the beginning of a stream and says how long the first message is, that it
has to see more, or that no message begins like this. Once there, its verdict does not depend
on bytes that come later. A stream is then cut into messages in one way only, by whichever
framers are asked one after another.
-/
namespace Lgnome.Transport

structure Framer (ε : Type) where
  size : Bytes → Except ε (Option Nat)
  stable : ∀ a b, size a ≠ .ok none → size (a ++ b) = size a

namespace Framer

variable {ε : Type} {f : Framer ε} {stream message message' rest rest' : Bytes}

/-- A message of one length, whatever it says. -/
def fixed (n : Nat) : Framer ε where
  size a := .ok (if a.length < n then none else some n)
  stable a b h := by
    have hlong : ¬a.length < n := fun hshort => h (by rw [if_pos hshort])
    have hmore : ¬(a ++ b).length < n := by
      rw [List.length_append]
      omega
    rw [if_neg hlong, if_neg hmore]

/-- The message is what the framer takes from the front of the stream. -/
structure Takes (f : Framer ε) (stream message rest : Bytes) : Prop where
  size : f.size stream = .ok (some message.length)
  split : stream = message ++ rest

theorem takes_of_size {n : Nat} (hsize : f.size stream = .ok (some n)) (hn : n ≤ stream.length) :
    f.Takes stream (stream.take n) (stream.drop n) where
  size := by rw [hsize, List.length_take, Nat.min_eq_left hn]
  split := (List.take_append_drop n stream).symm

/-- What comes later stays behind the message. -/
theorem Takes.append (h : f.Takes stream message rest) (more : Bytes) :
    f.Takes (stream ++ more) message (rest ++ more) where
  size := by
    rw [f.stable stream more (by rw [h.size]; nofun)]
    exact h.size
  split := by rw [h.split, List.append_assoc]

theorem Takes.unique (h : f.Takes stream message rest) (h' : f.Takes stream message' rest') :
    message = message' ∧ rest = rest' := by
  have hlen : message.length = message'.length :=
    Option.some.inj (Except.ok.inj (h.size.symm.trans h'.size))
  exact List.append_inj (h.split.symm.trans h'.split) hlen

end Framer

/-- Messages that were taken one after another, each by its framer, and what is left. -/
inductive Cuts {ε : Type} : List (Framer ε × Bytes) → Bytes → Bytes → Prop
  | nil (stream : Bytes) : Cuts [] stream stream
  | cons {f : Framer ε} {taken : List (Framer ε × Bytes)} {stream message rest left : Bytes}
      (h : f.Takes stream message rest) (ht : Cuts taken rest left) :
      Cuts ((f, message) :: taken) stream left

namespace Cuts

variable {ε : Type} {f : Framer ε} {taken taken' : List (Framer ε × Bytes)}
  {stream stream' message left left' rest : Bytes}

theorem snoc (h : Cuts taken stream left) (hf : f.Takes left message rest) :
    Cuts (taken ++ [(f, message)]) stream rest := by
  induction h with
  | nil stream => exact .cons hf (.nil rest)
  | cons htake _ ih => exact .cons htake (ih hf)

/-- The messages do not depend on what had arrived when they were taken. -/
theorem append (h : Cuts taken stream left) (more : Bytes) :
    Cuts taken (stream ++ more) (left ++ more) := by
  induction h with
  | nil stream => exact .nil _
  | cons htake _ ih => exact .cons (htake.append more) ih

/-- No byte is lost, doubled or moved. -/
theorem flatten (h : Cuts taken stream left) : (taken.map Prod.snd).flatten ++ left = stream := by
  induction h with
  | nil stream => rfl
  | cons htake _ ih =>
    rw [List.map_cons, List.flatten_cons, List.append_assoc, ih]
    exact htake.split.symm

/-- One stream is cut in one way, as far as the framers are the same. -/
theorem prefix_of_framers (h : Cuts taken stream left) (h' : Cuts taken' stream left')
    (hframers : taken.map Prod.fst <+: taken'.map Prod.fst) : taken <+: taken' := by
  induction h generalizing taken' with
  | nil stream => exact List.nil_prefix
  | @cons f taken stream message rest left htake _ ih =>
    cases h' with
    | nil => exact absurd (List.prefix_nil.mp hframers) (List.cons_ne_nil _ _)
    | cons htake' hrest' =>
      obtain ⟨hf, hmore⟩ := List.cons_prefix_cons.mp hframers
      dsimp only at hf
      subst hf
      obtain ⟨rfl, rfl⟩ := htake.unique htake'
      exact List.cons_prefix_cons.mpr ⟨rfl, ih hrest' hmore⟩

/-- Of two readers of a stream the one that has read less has taken the same messages. -/
theorem prefix_of_streams (h : Cuts taken stream left) (h' : Cuts taken' stream' left')
    (hstream : stream <+: stream') (hframers : taken.map Prod.fst <+: taken'.map Prod.fst) :
    taken <+: taken' := by
  obtain ⟨more, rfl⟩ := hstream
  exact (h.append more).prefix_of_framers h' hframers

end Cuts

end Lgnome.Transport
