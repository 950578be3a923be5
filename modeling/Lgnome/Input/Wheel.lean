import Lgnome.Input.Held
import Lgnome.Transition.Carry
import Lgnome.Transition.While

/-!
# The scaled wheel

A wheel delta is scaled by the step and collected in a signed accumulator. Every full
threshold leaves it as one wheel event of a step; a delta against the accumulator empties
it first. The arithmetic is that of `int`.
-/
namespace Lgnome.Input

open Lgnome.Native Lgnome.Transition

/-- The value of an `int` expression; one that leaves 32 bits is `none`. -/
def checkedInt (value : Int) : Option Int :=
  if -2147483648 ≤ value ∧ value ≤ 2147483647 then some value else none

/-- A call of `native_input_pointer_wheel`. -/
structure WheelEvent where
  x : Int
  y : Int
  delta : Int16
  deriving DecidableEq

/-- What the wheel reads and writes. -/
structure WheelApp where
  wheelStep : UInt16
  wheelScrollDivisor : UInt16
  wheelAccumulator : Int
  virtualMouseX : Int
  virtualMouseY : Int
  input : NativeInput
  deriving DecidableEq

/-- `native_input_pointer_wheel`: an event reaches the session of an input that is ready. -/
def pointerWheel (input : NativeInput) (event : WheelEvent) : List (Session × WheelEvent) :=
  (if input.active then input.session else none).toList.map fun session => (session, event)

/-! ## One call -/

structure WheelLoop where
  accumulator : Option Int
  events : List WheelEvent
  deriving DecidableEq

/-- A loop that takes a threshold off the accumulator for every event. -/
def emitLoop (due : Int → Bool) (next : Int → Int) (event : WheelEvent) : While WheelLoop where
  test l := l.accumulator.any due
  body l :=
    { accumulator := l.accumulator.bind fun a => checkedInt (next a)
      events := l.events ++ [event] }

namespace WheelApp

def wheelEvent (app : WheelApp) (delta : Int16) : WheelEvent :=
  { x := app.virtualMouseX
    y := app.virtualMouseY
    delta := delta }

/-- `native_send_scaled_wheel` with its events. A pass takes at least one off an accumulator that
it makes smaller, so that a loop that ends does so within as many passes as that is large. -/
def sendScaledWheel (app : WheelApp) (wheelY : Int) : Option (WheelApp × List WheelEvent) :=
  if wheelY = 0 then some (app, [])
  else do
    let step : Int := app.wheelStep.toNat
    let units ← checkedInt (wheelY * step)
    let found :=
      if (0 < app.wheelAccumulator ∧ units < 0) ∨ (app.wheelAccumulator < 0 ∧ 0 < units) then 0
      else app.wheelAccumulator
    let accumulator ← checkedInt (found + units)
    let threshold ← checkedInt (step * app.wheelScrollDivisor.toNat)
    let up ← (emitLoop (fun a => threshold ≤ a) (fun a => a - threshold)
      (app.wheelEvent (Int16.ofInt step))).run accumulator.natAbs ⟨some accumulator, []⟩
    let down ← (emitLoop (fun a => a ≤ -threshold) (fun a => a + threshold)
      (app.wheelEvent (Int16.ofInt (-step)))).run accumulator.natAbs up
    let accumulator ← down.accumulator
    some ({ app with wheelAccumulator := accumulator }, down.events)

end WheelApp

/-! ## Runs -/

/-- What happens to the wheel. -/
inductive WheelStep where
  | wheel (wheelY : Int)
  /-- The queue starts over, `NATIVE_EVENT_RESET` of `native_drain_evdev_input`. -/
  | reset
  /-- The rest of the loop moves the pointer and attaches the input. -/
  | elsewhere (virtualMouseX virtualMouseY : Int) (input : NativeInput)
  deriving DecidableEq

/-- A call with a motion: the accumulator it found, its events and what of them was sent. -/
structure WheelCall where
  wheelY : Int
  found : Int
  events : List WheelEvent
  sent : List (Session × WheelEvent)
  deriving DecidableEq

namespace WheelApp

def step (app : WheelApp) : WheelStep → Option (WheelApp × List WheelCall)
  | .wheel wheelY => do
    let (next, events) ← app.sendScaledWheel wheelY
    let call : WheelCall :=
      { wheelY := wheelY
        found := app.wheelAccumulator
        events := events
        sent := events.flatMap (pointerWheel app.input) }
    some (next, if wheelY = 0 then [] else [call])
  | .reset => some ({ app with wheelAccumulator := 0 }, [])
  | .elsewhere virtualMouseX virtualMouseY input =>
    some ({ app with virtualMouseX, virtualMouseY, input }, [])

def run (app : WheelApp) : List WheelStep → Option (WheelApp × List WheelCall)
  | [] => some (app, [])
  | s :: rest => do
    let (next, calls) ← app.step s
    let (last, more) ← next.run rest
    some (last, calls ++ more)

def threshold (app : WheelApp) : Int := app.wheelStep.toNat * app.wheelScrollDivisor.toNat

end WheelApp

namespace WheelCall

/-- The scaled motion. -/
def units (wheelStep : UInt16) (call : WheelCall) : Int := call.wheelY * wheelStep.toNat

/-- The motion is against what was collected. -/
def Reverses (call : WheelCall) : Prop :=
  (0 < call.found ∧ call.wheelY < 0) ∨ (call.found < 0 ∧ 0 < call.wheelY)

instance (call : WheelCall) : Decidable call.Reverses := by
  unfold Reverses
  infer_instance

end WheelCall

/-- Events upwards count once, events downwards minus once. -/
def netEvents (events : List WheelEvent) : Int := (events.map fun e => e.delta.toInt.sign).sum

/-! ## The loops -/

theorem checkedInt_some {value : Int} (h : value.natAbs ≤ 2147483647) :
    checkedInt value = some value :=
  if_pos (by omega)

section EmitLoop

variable {due : Int → Bool} {next : Int → Int} {event : WheelEvent} {sign threshold a : Int}

/-- A loop that works towards zero from one side comes to the truncated quotient. -/
theorem emitLoop_run (hsign : sign = 1 ∨ sign = -1) (hthreshold : 0 < threshold)
    (hdue : ∀ b, due b = decide (threshold ≤ sign * b))
    (hnext : ∀ b, next b = b - sign * threshold) (ha : 0 ≤ sign * a)
    (hfit : a.natAbs ≤ 2147483647) (events : List WheelEvent) :
    (emitLoop due next event).run a.natAbs ⟨some a, events⟩ =
      some ⟨some (a.tmod threshold),
        events ++ List.replicate (a.tdiv threshold).natAbs event⟩ := by
  -- after `k` passes `k` thresholds are off and as many events out
  let Inv : WheelLoop → Prop := fun l => ∃ (k : Nat) (b : Int),
    l = ⟨some b, events ++ List.replicate k event⟩ ∧ a = b + sign * (k * threshold) ∧
      0 ≤ sign * b ∧ b.natAbs ≤ 2147483647
  have hpass : ∀ b : Int, 0 ≤ sign * b → threshold ≤ sign * b →
      0 ≤ sign * next b ∧ (next b).natAbs < b.natAbs := by
    intro b hside hfull
    rw [hnext]
    obtain rfl | rfl := hsign <;> omega
  have hprogress :
      (emitLoop due next event).Progress Inv fun l => (l.accumulator.getD 0).natAbs := by
    constructor
    · rintro l ⟨k, b, rfl, hoff, hside, hb⟩ htest
      have hfull : threshold ≤ sign * b := by simpa [emitLoop, hdue] using htest
      obtain ⟨hside', hless⟩ := hpass b hside hfull
      refine ⟨k + 1, next b, ?_, ?_, hside', by omega⟩
      · simp [emitLoop, checkedInt_some (show (next b).natAbs ≤ 2147483647 by omega),
          List.replicate_succ']
      · rw [hoff, hnext, Nat.cast_succ, add_mul, one_mul, mul_add]
        omega
    · rintro l ⟨k, b, rfl, hoff, hside, hb⟩ htest
      have hfull : threshold ≤ sign * b := by simpa [emitLoop, hdue] using htest
      obtain ⟨hside', hless⟩ := hpass b hside hfull
      simpa [emitLoop, checkedInt_some (show (next b).natAbs ≤ 2147483647 by omega)] using hless
  have hstart : Inv ⟨some a, events⟩ := ⟨0, a, by simp, by simp, ha, hfit⟩
  obtain ⟨l, hrun, ⟨k, b, rfl, hoff, hside, -⟩, htest⟩ := hprogress.run hstart (Nat.le_refl _)
  have hless : sign * b < threshold := by simpa [emitLoop, hdue] using htest
  have hquotient : (a.tdiv threshold).natAbs = k ∧ a.tmod threshold = b := by
    rw [hoff]
    obtain rfl | rfl := hsign
    · rw [one_mul] at hside hless ⊢
      obtain ⟨hdiv, hmod⟩ := Carry.tdiv_tmod_of_lt k hside hless
      exact ⟨by rw [hdiv, Int.natAbs_natCast], hmod⟩
    · have hlow : 0 ≤ -b := by omega
      have hhigh : -b < threshold := by omega
      obtain ⟨hdiv, hmod⟩ := Carry.tdiv_tmod_of_lt k hlow hhigh
      have hneg : b + -1 * ((k : Int) * threshold) = -(-b + (k : Int) * threshold) := by omega
      rw [hneg, Int.neg_tdiv, Int.neg_tmod, hdiv, hmod, Int.natAbs_neg, Int.natAbs_natCast,
        Int.neg_neg]
      exact ⟨rfl, rfl⟩
  rw [hquotient.1, hquotient.2]
  exact hrun

/-- Less than a threshold on its side leaves the loop alone. -/
theorem emitLoop_done {fuel : Nat} {events : List WheelEvent} (h : due a = false) :
    (emitLoop due next event).run fuel ⟨some a, events⟩ = some ⟨some a, events⟩ :=
  While.run_done h

end EmitLoop

/-! ## A call -/

/-- The step leaves the direction of a motion. -/
theorem scaled_pos_iff {step : Nat} (hstep : 0 < step) (wheelY : Int) :
    0 < wheelY * (step : Int) ↔ 0 < wheelY :=
  mul_pos_iff_of_pos_right (Int.natCast_pos.mpr hstep)

theorem scaled_neg_iff {step : Nat} (hstep : 0 < step) (wheelY : Int) :
    wheelY * (step : Int) < 0 ↔ wheelY < 0 := by
  have hpos := scaled_pos_iff hstep (-wheelY)
  rw [Int.neg_mul] at hpos
  omega

namespace WheelApp

/-- The ranges that the settings are kept in, and less than a threshold collected. -/
structure Ready (app : WheelApp) : Prop where
  step : 1 ≤ app.wheelStep.toNat ∧ app.wheelStep.toNat ≤ 120
  divisor : 1 ≤ app.wheelScrollDivisor.toNat ∧ app.wheelScrollDivisor.toNat ≤ 120
  below : app.wheelAccumulator.natAbs < app.threshold

variable {app : WheelApp} {wheelY : Int}

theorem Ready.threshold_pos (h : app.Ready) : 0 < app.threshold ∧ app.threshold ≤ 14400 := by
  have hpos := Nat.mul_pos h.step.1 h.divisor.1
  have hle := Nat.mul_le_mul h.step.2 h.divisor.2
  unfold threshold
  omega

/-- What a motion adds to what the accumulator holds. -/
def carry (app : WheelApp) (wheelY : Int) : Carry :=
  { carried := app.wheelAccumulator
    amount := wheelY * app.wheelStep.toNat }

/-- The events of a call. -/
def given (app : WheelApp) (wheelY : Int) : List WheelEvent :=
  List.replicate ((app.carry wheelY).given app.threshold).natAbs
    (app.wheelEvent (Int16.ofInt (wheelY.sign * app.wheelStep.toNat)))

theorem amount_pos_iff (h : app.Ready) : 0 < (app.carry wheelY).amount ↔ 0 < wheelY :=
  scaled_pos_iff h.step.1 wheelY

theorem amount_neg_iff (h : app.Ready) : (app.carry wheelY).amount < 0 ↔ wheelY < 0 :=
  scaled_neg_iff h.step.1 wheelY

theorem natAbs_amount_le (h : app.Ready) (hmotion : wheelY.natAbs ≤ 2 ^ 23) :
    (app.carry wheelY).amount.natAbs ≤ 1006632960 := by
  have hle := Nat.mul_le_mul hmotion h.step.2
  unfold carry
  rw [Int.natAbs_mul, Int.natAbs_natCast]
  omega

/-- A call gives out what the accumulator and the motion come to and carries the rest. -/
theorem sendScaledWheel_eq (h : app.Ready) (hmotion : wheelY.natAbs ≤ 2 ^ 23) (hne : wheelY ≠ 0) :
    app.sendScaledWheel wheelY =
      some ({ app with wheelAccumulator := (app.carry wheelY).rest app.threshold },
        app.given wheelY) := by
  have hamount := natAbs_amount_le h hmotion
  have hkept := (app.carry wheelY).natAbs_kept_le
  have hbelow := h.below
  obtain ⟨hpos, hlimit⟩ := h.threshold_pos
  have htotal : (app.carry wheelY).total.natAbs ≤ 2147483647 := by
    unfold Carry.total
    have hcarried : (app.carry wheelY).carried = app.wheelAccumulator := rfl
    rw [hcarried] at hkept
    omega
  have hfound : (if (0 < app.wheelAccumulator ∧ wheelY * (app.wheelStep.toNat : Int) < 0) ∨
      (app.wheelAccumulator < 0 ∧ 0 < wheelY * (app.wheelStep.toNat : Int)) then 0
      else app.wheelAccumulator) + wheelY * (app.wheelStep.toNat : Int) =
        (app.carry wheelY).total := rfl
  have hunits : checkedInt (wheelY * (app.wheelStep.toNat : Int)) =
      some (wheelY * (app.wheelStep.toNat : Int)) := checkedInt_some (by
    have hle : (wheelY * (app.wheelStep.toNat : Int)).natAbs ≤ 1006632960 := hamount
    omega)
  have hthreshold : checkedInt ((app.wheelStep.toNat : Int) * app.wheelScrollDivisor.toNat) =
      some app.threshold := checkedInt_some (by
    show app.threshold.natAbs ≤ _
    omega)
  unfold sendScaledWheel
  rw [if_neg hne]
  simp only [hunits, hfound, hthreshold, checkedInt_some htotal, Option.bind_eq_bind,
    Option.bind_some]
  unfold given
  obtain hup | hdown := Int.lt_or_lt_of_ne hne.symm
  · have hside := Carry.total_nonneg ((amount_pos_iff h).mpr hup)
    have hrest := Int.tmod_nonneg app.threshold hside
    rw [emitLoop_run (.inl rfl) hpos (fun b => by rw [one_mul]) (fun b => by rw [one_mul])
      (by rwa [one_mul]) htotal, Option.bind_some,
      emitLoop_done (decide_eq_false (by omega)), Option.bind_some]
    simp [Carry.given, Carry.rest, Int.sign_eq_one_of_pos hup]
  · have hside := Carry.total_nonpos ((amount_neg_iff h).mpr hdown)
    rw [emitLoop_done (decide_eq_false (by omega)), Option.bind_some,
      emitLoop_run (.inr rfl) hpos (fun b => by rw [decide_eq_decide]; omega) (fun b => by omega)
      (by omega) htotal, Option.bind_some]
    simp [Carry.given, Carry.rest, Int.sign_eq_neg_one_of_neg hdown]

/-- What is recorded of a call. -/
def call (app : WheelApp) (wheelY : Int) : WheelCall :=
  { wheelY := wheelY
    found := app.wheelAccumulator
    events := app.given wheelY
    sent := (app.given wheelY).flatMap (pointerWheel app.input) }

end WheelApp

/-! ## What steps keep -/

/-- The scaled motion of a call and what it found. -/
def WheelCall.carry (wheelStep : UInt16) (call : WheelCall) : Carry :=
  { carried := call.found
    amount := call.units wheelStep }

/-- The events of a call are steps in its direction; all of them are sent or none. -/
structure WheelCall.Faithful (wheelStep : UInt16) (threshold : Int) (call : WheelCall) : Prop where
  moves : call.wheelY ≠ 0
  delta : ∀ event ∈ call.events, event.delta.toInt = call.wheelY.sign * wheelStep.toNat
  net : netEvents call.events = (call.carry wheelStep).given threshold
  sent : call.sent = [] ∨ call.sent.map Prod.snd = call.events

theorem netEvents_replicate (n : Nat) (event : WheelEvent) :
    netEvents (List.replicate n event) = n * event.delta.toInt.sign := by
  unfold netEvents
  rw [List.map_replicate, List.sum_replicate, nsmul_eq_mul]

/-- The events of an input that is ready go out, those of another one do not. -/
theorem pointerWheel_all (input : NativeInput) (events : List WheelEvent) :
    events.flatMap (pointerWheel input) = [] ∨
      (events.flatMap (pointerWheel input)).map Prod.snd = events := by
  unfold pointerWheel
  cases (if input.active then input.session else none) with
  | none => exact .inl (by simp)
  | some session => exact .inr (by simp [List.map_flatMap])

namespace WheelApp

variable {app : WheelApp} {wheelY : Int}

theorem call_faithful (h : app.Ready) (hne : wheelY ≠ 0) :
    (app.call wheelY).Faithful app.wheelStep app.threshold := by
  have hpos := h.threshold_pos.1
  have hstep := h.step
  have hdelta : (Int16.ofInt (wheelY.sign * app.wheelStep.toNat)).toInt =
      wheelY.sign * app.wheelStep.toNat := by
    obtain hup | hdown := Int.lt_or_lt_of_ne hne.symm
    · rw [Int.sign_eq_one_of_pos hup]
      exact Int16.toInt_ofInt_of_le (by omega) (by omega)
    · rw [Int.sign_eq_neg_one_of_neg hdown]
      exact Int16.toInt_ofInt_of_le (by omega) (by omega)
  refine ⟨hne, ?_, ?_, pointerWheel_all app.input (app.given wheelY)⟩
  · intro event hevent
    rw [(List.mem_replicate.mp hevent).2]
    exact hdelta
  · show netEvents (app.given wheelY) = (app.carry wheelY).given app.threshold
    unfold given
    rw [netEvents_replicate, wheelEvent, hdelta, Int.sign_mul,
      Int.sign_eq_one_of_pos (show (0 : Int) < app.wheelStep.toNat by omega), mul_one]
    obtain hup | hdown := Int.lt_or_lt_of_ne hne.symm
    · have hgiven := Carry.given_nonneg hpos ((amount_pos_iff h).mpr hup)
      rw [Int.sign_eq_one_of_pos hup]
      simp only [Int.sign_one]
      omega
    · have hgiven := Carry.given_nonpos hpos ((amount_neg_iff h).mpr hdown)
      rw [Int.sign_eq_neg_one_of_neg hdown]
      simp only [Int.sign_neg, Int.sign_one]
      omega

/-- What steps keep: the settings, the bound of the accumulator, and what their calls are. -/
structure Keeps (app next : WheelApp) (calls : List WheelCall) : Prop where
  ready : next.Ready
  wheelStep : next.wheelStep = app.wheelStep
  threshold : next.threshold = app.threshold
  faithful : ∀ call ∈ calls, call.Faithful app.wheelStep app.threshold

/-- The calls follow on each other from one accumulator to the other. -/
def Linked (app next : WheelApp) (calls : List WheelCall) : Prop :=
  Carry.Linked app.threshold app.wheelAccumulator (calls.map fun call => call.carry app.wheelStep)
    next.wheelAccumulator

theorem step_spec (h : app.Ready) {s : WheelStep}
    (hmotion : ∀ wheelY, s = .wheel wheelY → wheelY.natAbs ≤ 2 ^ 23) :
    ∃ next calls, app.step s = some (next, calls) ∧ app.Keeps next calls ∧
      (s ≠ .reset → app.Linked next calls) := by
  have hpos := h.threshold_pos.1
  cases s with
  | wheel wheelY =>
    by_cases hne : wheelY = 0
    · subst hne
      exact ⟨app, [], rfl, ⟨h, rfl, rfl, fun _ hc => absurd hc List.not_mem_nil⟩, fun _ => rfl⟩
    · have hcall := sendScaledWheel_eq h (hmotion wheelY rfl) hne
      refine ⟨{ app with wheelAccumulator := (app.carry wheelY).rest app.threshold },
        [app.call wheelY], ?_, ⟨⟨h.step, h.divisor, ?_⟩, rfl, rfl, ?_⟩, fun _ => ⟨rfl, rfl⟩⟩
      · simp [step, hcall, hne, call]
      · exact Carry.rest_lt hpos (app.carry wheelY)
      · exact fun c hc => List.mem_singleton.mp hc ▸ call_faithful h hne
  | reset =>
    exact ⟨{ app with wheelAccumulator := 0 }, [], rfl,
      ⟨⟨h.step, h.divisor, hpos⟩, rfl, rfl, fun _ hc => absurd hc List.not_mem_nil⟩,
      fun hne => absurd rfl hne⟩
  | elsewhere x y input =>
    exact ⟨{ app with virtualMouseX := x, virtualMouseY := y, input := input }, [], rfl,
      ⟨⟨h.step, h.divisor, h.below⟩, rfl, rfl, fun _ hc => absurd hc List.not_mem_nil⟩,
      fun _ => rfl⟩

theorem Keeps.trans {next last : WheelApp} {calls more : List WheelCall}
    (h : app.Keeps next calls) (h' : next.Keeps last more) : app.Keeps last (calls ++ more) where
  ready := h'.ready
  wheelStep := h'.wheelStep.trans h.wheelStep
  threshold := h'.threshold.trans h.threshold
  faithful call hcall := by
    obtain hfirst | hmore := List.mem_append.mp hcall
    · exact h.faithful call hfirst
    · rw [← h.wheelStep, ← h.threshold]
      exact h'.faithful call hmore

theorem run_spec (steps : List WheelStep) (h : app.Ready)
    (hmotion : ∀ wheelY, .wheel wheelY ∈ steps → wheelY.natAbs ≤ 2 ^ 23) :
    ∃ last calls, app.run steps = some (last, calls) ∧ app.Keeps last calls ∧
      (.reset ∉ steps → app.Linked last calls) := by
  induction steps generalizing app with
  | nil => exact ⟨app, [], rfl, ⟨h, rfl, rfl, fun _ hc => absurd hc List.not_mem_nil⟩, fun _ => rfl⟩
  | cons s rest ih =>
    obtain ⟨next, calls, hstep, hkeeps, hlinked⟩ :=
      step_spec h fun wheelY hs => hmotion wheelY (hs ▸ List.mem_cons_self)
    obtain ⟨last, more, hrun, hkeeps', hlinked'⟩ :=
      ih hkeeps.ready fun wheelY hs => hmotion wheelY (List.mem_cons_of_mem s hs)
    refine ⟨last, calls ++ more, ?_, hkeeps.trans hkeeps', fun hreset => ?_⟩
    · simp [run, hstep, hrun]
    · rw [List.mem_cons, not_or] at hreset
      have hfirst := hlinked (Ne.symm hreset.1)
      have hrest := hlinked' hreset.2
      unfold Linked at hfirst hrest ⊢
      rw [hkeeps.threshold, hkeeps.wheelStep] at hrest
      rw [List.map_append]
      exact hfirst.append hrest

end WheelApp

/-! ## Conservation -/

theorem netEvents_append (events more : List WheelEvent) :
    netEvents (events ++ more) = netEvents events + netEvents more := by
  unfold netEvents
  rw [List.map_append, List.sum_append]

section Faithful

variable {wheelStep : UInt16} {threshold : Int} {calls : List WheelCall}

theorem netEvents_calls (h : ∀ call ∈ calls, call.Faithful wheelStep threshold) :
    netEvents (calls.flatMap WheelCall.events) =
      ((calls.map (WheelCall.carry wheelStep)).map (Carry.given threshold)).sum := by
  induction calls with
  | nil => rfl
  | cons call rest ih =>
    rw [List.flatMap_cons, netEvents_append, (h call List.mem_cons_self).net,
      ih fun c hc => h c (List.mem_cons_of_mem call hc)]
    rfl

/-- A call turns against what was collected exactly if its scaled motion does. -/
theorem WheelCall.reverses_iff (hstep : 0 < wheelStep.toNat) (call : WheelCall) :
    call.Reverses ↔ (call.carry wheelStep).Against := by
  unfold Reverses Carry.Against carry units
  dsimp only
  rw [scaled_pos_iff hstep, scaled_neg_iff hstep]

end Faithful

/-- A session's wheel from its first call on: nothing leaves its type, less than a threshold
stays collected, and the events of every stretch come to what went in. -/
theorem scaled_wheel (start : WheelApp) (hstart : start.wheelAccumulator = 0)
    (hstep : 1 ≤ start.wheelStep.toNat ∧ start.wheelStep.toNat ≤ 120)
    (hdivisor : 1 ≤ start.wheelScrollDivisor.toNat ∧ start.wheelScrollDivisor.toNat ≤ 120)
    (before stretch : List WheelStep)
    (hmotion : ∀ wheelY, .wheel wheelY ∈ before ++ stretch → wheelY.natAbs ≤ 2 ^ 23) :
    ∃ app earlier last calls,
      start.run before = some (app, earlier) ∧ app.run stretch = some (last, calls) ∧
      last.wheelAccumulator.natAbs < start.threshold ∧
      (∀ call ∈ calls, ∀ event ∈ call.events,
        event.delta.toInt = call.wheelY.sign * start.wheelStep.toNat) ∧
      (∀ call ∈ calls, call.sent = [] ∨ call.sent.map Prod.snd = call.events) ∧
      (.reset ∉ stretch →
        ((∀ call ∈ calls, ¬ call.Reverses) →
          app.wheelAccumulator + (calls.map (WheelCall.units start.wheelStep)).sum =
            netEvents (calls.flatMap WheelCall.events) * start.threshold +
              last.wheelAccumulator) ∧
        (∀ first rest, calls = first :: rest → first.Reverses →
          (∀ call ∈ rest, ¬ call.Reverses) →
          (calls.map (WheelCall.units start.wheelStep)).sum =
            netEvents (calls.flatMap WheelCall.events) * start.threshold +
              last.wheelAccumulator) ∧
        (∀ first rest, calls = first :: rest →
          ((∀ call ∈ calls, 0 < call.wheelY) ∨ ∀ call ∈ calls, call.wheelY < 0) →
          ∀ call ∈ rest, ¬ call.Reverses)) := by
  have hready : start.Ready := by
    refine ⟨hstep, hdivisor, ?_⟩
    have hpos := Nat.mul_pos hstep.1 hdivisor.1
    rw [hstart]
    unfold WheelApp.threshold
    omega
  obtain ⟨app, earlier, hrun, hkeeps, -⟩ := WheelApp.run_spec before hready
    fun wheelY hw => hmotion wheelY (List.mem_append_left _ hw)
  obtain ⟨last, calls, hrun', hkeeps', hlinked⟩ := WheelApp.run_spec stretch hkeeps.ready
    fun wheelY hw => hmotion wheelY (List.mem_append_right _ hw)
  have hlast := hkeeps'.ready.below
  have hfaithful := hkeeps'.faithful
  rw [hkeeps'.threshold, hkeeps.threshold] at hlast
  rw [hkeeps.wheelStep, hkeeps.threshold] at hfaithful
  refine ⟨app, earlier, last, calls, hrun, hrun', hlast,
    fun call hcall => (hfaithful call hcall).delta, fun call hcall => (hfaithful call hcall).sent,
    fun hreset => ?_⟩
  have hchain := hlinked hreset
  unfold WheelApp.Linked at hchain
  rw [hkeeps.wheelStep, hkeeps.threshold] at hchain
  have hreverses := WheelCall.reverses_iff hstep.1
  have hunits : calls.map (WheelCall.units start.wheelStep) =
      (calls.map (WheelCall.carry start.wheelStep)).map Carry.amount := by
    rw [List.map_map]
    rfl
  rw [hunits, netEvents_calls hfaithful]
  refine ⟨fun hnone => ?_, fun first rest hcalls hfirst hnone => ?_,
    fun first rest hcalls hway => ?_⟩
  · refine hchain.conserved fun c hc => ?_
    obtain ⟨call, hcall, rfl⟩ := List.mem_map.mp hc
    exact fun hagainst => hnone call hcall ((hreverses call).mpr hagainst)
  · subst hcalls
    have hkept : (first.carry start.wheelStep).kept = 0 := if_pos ((hreverses first).mp hfirst)
    have hsum := Carry.Linked.conserved_from hchain fun c hc => by
      obtain ⟨call, hcall, rfl⟩ := List.mem_map.mp hc
      exact fun hagainst => hnone call hcall ((hreverses call).mpr hagainst)
    rw [hkept, zero_add] at hsum
    exact hsum
  · subst hcalls
    intro call hcall hreversed
    refine hchain.not_against_of_oneWay ?_ _ (List.mem_map_of_mem hcall)
      ((hreverses call).mp hreversed)
    rw [← List.map_cons]
    refine hway.imp (fun hup => ?_) fun hdown => ?_
    · exact List.forall_mem_map.mpr fun d hd => (scaled_pos_iff hstep.1 d.wheelY).mpr (hup d hd)
    · exact List.forall_mem_map.mpr fun d hd => (scaled_neg_iff hstep.1 d.wheelY).mpr (hdown d hd)

/-- Three notches to an event. -/
def slowWheel : WheelApp where
  wheelStep := 60
  wheelScrollDivisor := 3
  wheelAccumulator := 0
  virtualMouseX := 0
  virtualMouseY := 0
  input := { active := true, session := some 0 }

/-- Two notches are left from before; five more come to two events and one notch. -/
theorem scaled_wheel_slow :
    ∃ app earlier last calls,
      slowWheel.run [.wheel 2] = some (app, earlier) ∧
      app.run [.wheel 4, .wheel 1] = some (last, calls) ∧
      last.wheelAccumulator.natAbs < slowWheel.threshold ∧
      app.wheelAccumulator + (calls.map (WheelCall.units 60)).sum =
        netEvents (calls.flatMap WheelCall.events) * slowWheel.threshold +
          last.wheelAccumulator := by
  obtain ⟨app, earlier, last, calls, hrun, hrun', hbelow, -, -, hconserved⟩ :=
    scaled_wheel slowWheel rfl (by decide) (by decide) [.wheel 2] [.wheel 4, .wheel 1] (by
      intro wheelY hw
      simp only [List.mem_append, List.mem_cons, List.not_mem_nil, or_false, WheelStep.wheel.injEq]
        at hw
      omega)
  have hnone : ((slowWheel.run [.wheel 2]).bind fun r => r.1.run [.wheel 4, .wheel 1]).all
      (fun r => r.2.all fun call => !decide call.Reverses) = true := by decide +kernel
  rw [hrun, Option.bind_some, hrun'] at hnone
  refine ⟨app, earlier, last, calls, hrun, hrun', hbelow, (hconserved (by decide)).1 ?_⟩
  simpa using hnone

end Lgnome.Input
