import Lgnome.Worker.Errors

/-!
# The reports of a whole connection

A worker reports how far each attempt gets: it connects, secures the connection,
authenticates and is active. An attempt that the server hands off is followed by a
reconnect, at most twice. The last attempt is followed by its error and by the
stop; only a worker that was told to stop has no error, or keeps it to itself.
-/
namespace Lgnome.Lifecycle

open Lgnome.Native
open Lgnome.Worker (Failure NativeError maxSessionAttempts)

/-- What an attempt reports until it is active. -/
def establishing : List RdpState := [.connecting, .tls, .credssp, .active]

/-- The reports of attempts that got to a state each and were handed off. -/
def handedOff (reached : List Nat) : List RdpState :=
  reached.flatMap fun n => establishing.take n ++ [.reconnecting]

theorem handedOff_snoc (reached : List Nat) (n : Nat) :
    handedOff (reached ++ [n]) = handedOff reached ++ (establishing.take n ++ [.reconnecting]) := by
  simp [handedOff]

/-- A handover ended each of the attempts before, and each had got to the authentication. -/
structure Attempts (before : List RdpState) (earlier : List (Option NativeError))
    (reached : List Nat) : Prop where
  reports : before = handedOff reached
  length : reached.length = earlier.length
  authenticated : ∀ n ∈ reached, n = 3 ∨ n = 4
  handoffs : ∀ o ∈ earlier, ∃ f : Failure, o = some f.error ∧ f.IsHandoff

/-- What is reported behind the last attempt, which only a stop ends without an error. A worker
that was told to stop may keep the error to itself. -/
inductive Ending (stop : Prop) : Option NativeError → List RdpState → Prop
  | returned (h : stop) : Ending stop none [.stopped]
  | failed (f : Failure) : Ending stop (some f.error) [f.error.state, .stopped]
  | silenced (f : Failure) (h : stop) : Ending stop (some f.error) [.stopped]

/-- Another attempt could follow a handover, and is not made for a stop. -/
def GivenUp (stop : Prop) (earlier : List (Option NativeError)) (last : Option NativeError) :
    Prop :=
  ∀ f : Failure, last = some f.error → f.IsHandoff → earlier.length + 1 < maxSessionAttempts → stop

/-- The reports of a connection whose worker has ended, and how each of its attempts did. -/
def Whole (stop : Prop) (emitted : List RdpState) (outcomes : List (Option NativeError)) : Prop :=
  ∃ before earlier last reached n ending, outcomes = earlier ++ [last] ∧
    Attempts before earlier reached ∧ earlier.length < maxSessionAttempts ∧
    1 ≤ n ∧ n ≤ 4 ∧ GivenUp stop earlier last ∧ Ending stop last ending ∧
    emitted = before ++ establishing.take n ++ ending

/-- The reports of a connection whose worker goes on: a stop could still end it. -/
def Unfinished (emitted : List RdpState) (outcomes : List (Option NativeError)) : Prop :=
  ∃ more others, Whole True (emitted ++ more) (outcomes ++ others)

/-- In the attempt behind those that have ended, the worker has reported `n` states. -/
def Reached (n : Nat) (emitted : List RdpState) (outcomes : List (Option NativeError)) : Prop :=
  ∃ before reached, Attempts before outcomes reached ∧ outcomes.length < maxSessionAttempts ∧
    emitted = before ++ establishing.take n

/-- That attempt has ended as well. -/
def Finished (n : Nat) (last : Option NativeError) (emitted : List RdpState)
    (outcomes : List (Option NativeError)) : Prop :=
  ∃ earlier, outcomes = earlier ++ [last] ∧ Reached n emitted earlier

/-- The last attempt is over; what is still to be reported is the rest of an ending. -/
def Closing (stop : Prop) (rest : List RdpState) (emitted : List RdpState)
    (outcomes : List (Option NativeError)) : Prop :=
  Whole stop (emitted ++ rest) outcomes

section

variable {emitted : List RdpState} {outcomes : List (Option NativeError)} {n : Nat}
  {last : Option NativeError} {stop stop' : Prop}

theorem Ending.mono {ending : List RdpState} (h : Ending stop last ending) (hstop : stop → stop') :
    Ending stop' last ending := by
  cases h with
  | returned h => exact .returned (hstop h)
  | failed f => exact .failed f
  | silenced f h => exact .silenced f (hstop h)

theorem Whole.mono (h : Whole stop emitted outcomes) (hstop : stop → stop') :
    Whole stop' emitted outcomes := by
  obtain ⟨before, earlier, last, reached, n, ending, hends, hattempts, hlen, hn, hle, hgiven,
    hending, hemitted⟩ := h
  exact ⟨before, earlier, last, reached, n, ending, hends, hattempts, hlen, hn, hle,
    fun f hf hhandoff hlt => hstop (hgiven f hf hhandoff hlt), hending.mono hstop, hemitted⟩

theorem reached_start : Reached 0 [] [] :=
  ⟨[], [], ⟨rfl, rfl, fun _ h => absurd h List.not_mem_nil, fun _ h => absurd h List.not_mem_nil⟩,
    by decide, rfl⟩

theorem Closing.unfinished {rest : List RdpState} (h : Closing stop rest emitted outcomes) :
    Unfinished emitted outcomes :=
  ⟨rest, [], by rw [List.append_nil]; exact Whole.mono h fun _ => trivial⟩

theorem Finished.close (h : Finished n last emitted outcomes) (hn : 1 ≤ n) (hle : n ≤ 4)
    (hgiven : ∀ earlier, outcomes = earlier ++ [last] → GivenUp stop earlier last)
    {ending : List RdpState} (hending : Ending stop last ending) :
    Closing stop ending emitted outcomes := by
  obtain ⟨earlier, hends, before, reached, hattempts, hlen, rfl⟩ := h
  exact ⟨before, earlier, last, reached, n, ending, hends, hattempts, hlen, hn, hle,
    hgiven earlier hends, hending, rfl⟩

/-- A stop can end every attempt. -/
theorem Finished.unfinished (h : Finished n last emitted outcomes) (hn : 1 ≤ n) (hle : n ≤ 4)
    (hlast : ∀ e, last = some e → ∃ f : Failure, e = f.error) : Unfinished emitted outcomes := by
  have hending : Ending True last [.stopped] := by
    cases last with
    | none => exact .returned trivial
    | some e =>
      obtain ⟨f, rfl⟩ := hlast e rfl
      exact .silenced f trivial
  exact (h.close hn hle (fun _ _ _ _ _ _ => trivial) hending).unfinished

theorem Reached.finish (h : Reached n emitted outcomes) (last : Option NativeError) :
    Finished n last emitted (outcomes ++ [last]) := ⟨outcomes, rfl, h⟩

theorem Reached.unfinished (h : Reached n emitted outcomes) (hle : n ≤ 4) :
    Unfinished emitted outcomes := by
  by_cases hn : 1 ≤ n
  · obtain ⟨more, others, hwhole⟩ := (h.finish none).unfinished hn hle nofun
    exact ⟨more, [none] ++ others, by rwa [← List.append_assoc]⟩
  · obtain rfl : n = 0 := by omega
    obtain ⟨before, reached, hattempts, hlen, rfl⟩ := h
    exact ⟨[.connecting, .stopped], [none], before, outcomes, none, reached, 1, [.stopped], rfl,
      hattempts, hlen, le_refl _, by omega, (fun _ _ _ _ => trivial), .returned trivial,
      by simp [establishing]⟩

/-- The next state of the attempt. -/
theorem Reached.next {state : RdpState} (h : Reached n emitted outcomes)
    (hstate : establishing[n]? = some state) : Reached (n + 1) (emitted ++ [state]) outcomes := by
  obtain ⟨before, reached, hattempts, hlen, rfl⟩ := h
  refine ⟨before, reached, hattempts, hlen, ?_⟩
  rw [List.append_assoc, List.take_add_one, hstate, Option.toList_some]

/-- A handover is answered with a reconnect. -/
theorem Finished.handOff {f : Failure} (h : Finished n (some f.error) emitted outcomes)
    (hn : n = 3 ∨ n = 4) (hf : f.IsHandoff) (hlen : outcomes.length < maxSessionAttempts) :
    Reached 0 (emitted ++ [.reconnecting]) outcomes := by
  obtain ⟨earlier, rfl, before, reached, hattempts, -, rfl⟩ := h
  refine ⟨before ++ (establishing.take n ++ [.reconnecting]), reached ++ [n], ?_, hlen, ?_⟩
  · refine ⟨by rw [handedOff_snoc, hattempts.reports], by simp [hattempts.length], ?_, ?_⟩
    · intro m hm
      rcases List.mem_append.mp hm with hm | hm
      · exact hattempts.authenticated m hm
      · obtain rfl := List.mem_singleton.mp hm
        exact hn
    · intro o ho
      rcases List.mem_append.mp ho with ho | ho
      · exact hattempts.handoffs o ho
      · obtain rfl := List.mem_singleton.mp ho
        exact ⟨f, rfl, hf⟩
  · simp [List.append_assoc]

end

/-! ## What the shape says -/

theorem count_handedOff (reached : List Nat) :
    (handedOff reached).count .reconnecting = reached.length ∧ RdpState.stopped ∉ handedOff reached := by
  induction reached with
  | nil => exact ⟨rfl, List.not_mem_nil⟩
  | cons n reached ih =>
    have hno : ∀ n : Nat, RdpState.reconnecting ∉ establishing.take n :=
      fun n h => absurd (List.mem_of_mem_take h) (by decide)
    have hns : ∀ n : Nat, RdpState.stopped ∉ establishing.take n :=
      fun n h => absurd (List.mem_of_mem_take h) (by decide)
    have hcons : handedOff (n :: reached) = establishing.take n ++ [.reconnecting] ++ handedOff reached :=
      rfl
    rw [hcons]
    constructor
    · rw [List.count_append, List.count_append, ih.1, List.count_eq_zero.mpr (hno n)]
      simp
      omega
    · simp only [List.mem_append, not_or]
      exact ⟨⟨hns n, by decide⟩, ih.2⟩

end Lgnome.Lifecycle
