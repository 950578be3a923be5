import Lgnome.Transition.Coalesce
import Mathlib.Data.List.DropRight

/-!
# Worker commands and their drains

The worker thread takes commands off its channel in two ways. Outside the active
loop `drain_commands` only buffers them: pointer moves coalesce, a display toggle
takes the place of the previous one and one refresh stands for many. In the active
loop `drain_input` writes first what was buffered, then every command as it comes.
-/
namespace Lgnome.Worker

open Lgnome.Transition

inductive InputCommand
  | pointerMove (x y : UInt16)
  | pointerButton (x y : UInt16) (button : UInt8) (down : Bool)
  | pointerWheel (x y : UInt16) (delta : Int16)
  | key (scancode : UInt8) (down extended : Bool)
  | unicode (codepoint : UInt16) (down : Bool)
  | syncLocks (flags : UInt8)
  deriving DecidableEq, Repr

inductive ControlCommand
  | suppressOutput (allowDisplay : Bool)
  | requestRefresh
  deriving DecidableEq, Repr

inductive WorkerCommand
  | stop
  | input (input : InputCommand)
  | control (control : ControlCommand)
  | mediaReady
  deriving DecidableEq, Repr

def InputCommand.isMove : InputCommand → Bool
  | .pointerMove _ _ => true
  | _ => false

def ControlCommand.isToggle : ControlCommand → Bool
  | .suppressOutput _ => true
  | .requestRefresh => false

/-- The display state a toggle asks for. -/
def ControlCommand.toggle? : ControlCommand → Option Bool
  | .suppressOutput allowDisplay => some allowDisplay
  | .requestRefresh => none

def WorkerCommand.input? : WorkerCommand → Option InputCommand
  | .input command => some command
  | _ => none

def WorkerCommand.control? : WorkerCommand → Option ControlCommand
  | .control command => some command
  | _ => none

def inputs (commands : List WorkerCommand) : List InputCommand :=
  commands.filterMap WorkerCommand.input?

def controls (commands : List WorkerCommand) : List ControlCommand :=
  commands.filterMap WorkerCommand.control?

/-- The display state the last toggle asks for. -/
def lastToggle (controls : List ControlCommand) : Option Bool :=
  (controls.filterMap ControlCommand.toggle?).getLast?

/-- The commands behind the last toggle. -/
def sinceToggle (controls : List ControlCommand) : List ControlCommand :=
  controls.rtakeWhile fun control => !control.isToggle

def WorkerCommand.isStop : WorkerCommand → Bool
  | .stop => true
  | _ => false

/-- What a drain takes in: nothing behind a stop is received. -/
def heard (received : List WorkerCommand) : List WorkerCommand :=
  received.takeWhile fun command => !command.isStop

/-- The fields of the worker that a command can reach. -/
structure NativeWorker where
  pendingInput : List InputCommand
  pendingControl : List ControlCommand
  suppressDisplayLatched : Bool
  stop : Bool
  deriving DecidableEq, Repr

namespace NativeWorker

def new : NativeWorker where
  pendingInput := []
  pendingControl := []
  suppressDisplayLatched := false
  stop := false

end NativeWorker

/-- The input arm of `drain_commands`. -/
def bufferInput (pending : List InputCommand) (input : InputCommand) : List InputCommand :=
  match pending.getLast?, input with
  | some (.pointerMove _ _), .pointerMove _ _ => pending.dropLast ++ [input]
  | _, _ => pending ++ [input]

/-- The control arm of `drain_commands`. -/
def bufferControl (pending : List ControlCommand) (control : ControlCommand) :
    List ControlCommand :=
  match control with
  | .suppressOutput _ => pending.filter (fun c => !c.isToggle) ++ [control]
  | .requestRefresh => if .requestRefresh ∈ pending then pending else pending ++ [control]

namespace NativeWorker

/-- The loop of `drain_commands` over what `try_recv` yields until the channel is
empty. A channel without a sender reads as a stop. -/
def bufferCommands (worker : NativeWorker) : List WorkerCommand → NativeWorker × Bool
  | [] => (worker, false)
  | .stop :: _ => ({ worker with stop := true }, true)
  | .input input :: rest =>
    bufferCommands { worker with pendingInput := bufferInput worker.pendingInput input } rest
  | .control control :: rest =>
    bufferCommands
      { worker with pendingControl := bufferControl worker.pendingControl control } rest
  | .mediaReady :: rest => bufferCommands worker rest

def drainCommands (worker : NativeWorker) (received : List WorkerCommand) :
    NativeWorker × Bool :=
  if worker.stop then (worker, true) else worker.bufferCommands received

/-- `reset_session_state`: the last buffered toggle outlives the session as the latch. -/
def resetSessionState (worker : NativeWorker) : NativeWorker :=
  { worker with
    pendingInput := []
    pendingControl := []
    suppressDisplayLatched := worker.pendingControl.foldl
      (fun latched control =>
        match control with
        | .suppressOutput allowDisplay => !allowDisplay
        | .requestRefresh => latched)
      worker.suppressDisplayLatched }

/-- What `run_active` does to the buffers before its loop. -/
def beginActive (worker : NativeWorker) : NativeWorker :=
  { worker with
    pendingInput := []
    pendingControl :=
      if worker.suppressDisplayLatched ∧ ¬worker.pendingControl.any ControlCommand.isToggle then
        worker.pendingControl ++ [.suppressOutput false]
      else worker.pendingControl }

end NativeWorker

/-- The worker and what the active session's server was sent for client commands. -/
structure Active where
  worker : NativeWorker
  wire : List WorkerCommand
  deriving DecidableEq, Repr

namespace Active

/-- A toggle latches before it is written. -/
def dispatchControl (active : Active) (control : ControlCommand) : Active :=
  match control with
  | .suppressOutput allowDisplay =>
    { worker := { active.worker with suppressDisplayLatched := !allowDisplay }
      wire := active.wire ++ [.control control] }
  | .requestRefresh => { active with wire := active.wire ++ [.control control] }

def dispatchInput (active : Active) (input : InputCommand) : Active :=
  { active with wire := active.wire ++ [.input input] }

/-- `drain_input` behind the replay of the buffers. -/
def dispatchCommands (active : Active) : List WorkerCommand → Active
  | [] => active
  | .stop :: _ => { active with worker := { active.worker with stop := true } }
  | .input input :: rest => (active.dispatchInput input).dispatchCommands rest
  | .control control :: rest => (active.dispatchControl control).dispatchCommands rest
  | .mediaReady :: rest => active.dispatchCommands rest

def replayControl (active : Active) : Active :=
  active.worker.pendingControl.foldl dispatchControl
    { active with worker := { active.worker with pendingControl := [] } }

def replayInput (active : Active) : Active :=
  active.worker.pendingInput.foldl dispatchInput
    { active with worker := { active.worker with pendingInput := [] } }

/-- A `drain_input` that every write of succeeds. -/
def drainInput (active : Active) (received : List WorkerCommand) : Active :=
  active.replayControl.replayInput.dispatchCommands received

end Active

section Streams

variable {commands more : List WorkerCommand} {stream rest : List ControlCommand}

@[simp]
theorem inputs_append : inputs (commands ++ more) = inputs commands ++ inputs more :=
  List.filterMap_append

@[simp]
theorem controls_append : controls (commands ++ more) = controls commands ++ controls more :=
  List.filterMap_append

@[simp]
theorem inputs_input (input : InputCommand) : inputs [.input input] = [input] := rfl

@[simp]
theorem inputs_control (control : ControlCommand) : inputs [.control control] = [] := rfl

@[simp]
theorem controls_input (input : InputCommand) : controls [.input input] = [] := rfl

@[simp]
theorem controls_control (control : ControlCommand) : controls [.control control] = [control] :=
  rfl

theorem lastToggle_append :
    lastToggle (stream ++ rest) = (lastToggle rest).or (lastToggle stream) := by
  simp only [lastToggle, List.filterMap_append, List.getLast?_append]

@[simp]
theorem lastToggle_suppress (allowDisplay : Bool) :
    lastToggle (stream ++ [.suppressOutput allowDisplay]) = some allowDisplay := by
  rw [lastToggle_append]
  rfl

@[simp]
theorem lastToggle_refresh : lastToggle (stream ++ [.requestRefresh]) = lastToggle stream := by
  rw [lastToggle_append]
  rfl

theorem lastToggle_getD (allowed : Bool) :
    (lastToggle (stream ++ rest)).getD allowed
      = (lastToggle rest).getD ((lastToggle stream).getD allowed) := by
  rw [lastToggle_append]
  cases lastToggle rest <;> rfl

theorem lastToggle_eq_none :
    lastToggle stream = none ↔ stream.any ControlCommand.isToggle = false := by
  simp only [lastToggle, List.getLast?_eq_none_iff, List.filterMap_eq_nil_iff, List.any_eq_false]
  refine forall₂_congr fun control _ => ?_
  cases control <;> simp [ControlCommand.toggle?, ControlCommand.isToggle]

@[simp]
theorem sinceToggle_suppress (allowDisplay : Bool) :
    sinceToggle (stream ++ [.suppressOutput allowDisplay]) = [] :=
  List.rtakeWhile_concat_neg _ _ _ (by simp [ControlCommand.isToggle])

@[simp]
theorem sinceToggle_refresh :
    sinceToggle (stream ++ [.requestRefresh]) = sinceToggle stream ++ [.requestRefresh] :=
  List.rtakeWhile_concat_pos _ _ _ (by simp [ControlCommand.isToggle])

/-- What stands behind the last toggle still does with more in front. -/
theorem mem_sinceToggle_append {control : ControlCommand} (h : control ∈ sinceToggle rest) :
    control ∈ sinceToggle (stream ++ rest) := by
  induction rest using List.reverseRecOn with
  | nil => cases h
  | append_singleton rest last ih =>
    rw [← List.append_assoc]
    cases last with
    | suppressOutput allowDisplay => simp at h
    | requestRefresh =>
      rw [sinceToggle_refresh, List.mem_append] at h ⊢
      exact h.imp_left ih

end Streams

section Buffers

variable {pending : List ControlCommand} {worker : NativeWorker}

theorem bufferInput_eq (pending : List InputCommand) (input : InputCommand) :
    bufferInput pending input = coalesce InputCommand.isMove pending input := by
  unfold bufferInput coalesce
  cases hlast : pending.getLast? with
  | none => simp
  | some last => cases last <;> cases input <;> simp [InputCommand.isMove]

/-- Buffering loses no display toggle. -/
@[simp]
theorem lastToggle_bufferControl (control : ControlCommand) :
    lastToggle (bufferControl pending control) = lastToggle (pending ++ [control]) := by
  cases control with
  | suppressOutput allowDisplay => simp [bufferControl]
  | requestRefresh =>
    unfold bufferControl
    dsimp only
    split
    · exact lastToggle_refresh.symm
    · rfl

theorem lastToggle_buffered (stream : List ControlCommand) :
    lastToggle (stream.foldl bufferControl pending) = lastToggle (pending ++ stream) := by
  induction stream generalizing pending with
  | nil => simp
  | cons control stream ih =>
    rw [List.foldl_cons, ih, List.append_cons pending control stream, lastToggle_append,
      lastToggle_bufferControl, ← lastToggle_append]

/-- The whole of `drain_commands`' loop: two folds over what is heard. -/
theorem bufferCommands_fst (received : List WorkerCommand) :
    (worker.bufferCommands received).1 =
      { pendingInput := (inputs (heard received)).foldl bufferInput worker.pendingInput
        pendingControl := (controls (heard received)).foldl bufferControl worker.pendingControl
        suppressDisplayLatched := worker.suppressDisplayLatched
        stop := worker.stop || received.any WorkerCommand.isStop } := by
  induction received generalizing worker with
  | nil => simp [NativeWorker.bufferCommands, heard, inputs, controls]
  | cons command received ih =>
    cases command with
    | stop =>
      simp [NativeWorker.bufferCommands, heard, inputs, controls, WorkerCommand.isStop]
    | input command => exact ih
    | control command => exact ih
    | mediaReady => exact ih

end Buffers

namespace NativeWorker

/-- The display state the worker means the server to have. -/
def wanted (worker : NativeWorker) : Bool :=
  (lastToggle worker.pendingControl).getD !worker.suppressDisplayLatched

theorem wanted_resetSessionState (worker : NativeWorker) :
    worker.resetSessionState.wanted = worker.wanted := by
  show (!worker.resetSessionState.suppressDisplayLatched) = worker.wanted
  unfold resetSessionState wanted
  dsimp only
  induction worker.pendingControl using List.reverseRecOn with
  | nil => rfl
  | append_singleton pending control ih =>
    rw [List.foldl_append]
    cases control with
    | suppressOutput allowDisplay => simp
    | requestRefresh => simpa using ih

theorem wanted_beginActive (worker : NativeWorker) : worker.beginActive.wanted = worker.wanted := by
  unfold beginActive wanted
  dsimp only
  split
  · rename_i hlatched
    have hnone : lastToggle worker.pendingControl = none :=
      lastToggle_eq_none.mpr (by simpa using hlatched.2)
    simp [hnone, hlatched.1]
  · rfl

/-- A fresh session's server allows the display, so only a suppression has to be written. -/
theorem beginActive_announces (worker : NativeWorker) :
    (lastToggle worker.beginActive.pendingControl).getD true = worker.beginActive.wanted := by
  unfold beginActive wanted
  dsimp only
  split
  · simp
  · rename_i hnot
    cases htoggle : lastToggle worker.pendingControl with
    | some allowDisplay => rfl
    | none =>
      have hany := lastToggle_eq_none.mp htoggle
      have hlatched : worker.suppressDisplayLatched = false := by simpa [hany] using hnot
      simp [hlatched]

end NativeWorker

namespace Active

/-- What the server has been told of the display, which a session starts allowed. -/
def told (active : Active) : Bool :=
  (lastToggle (controls active.wire)).getD true

/-- The controls written and those that the next drain writes first. -/
def outgoing (active : Active) : List ControlCommand :=
  controls active.wire ++ active.worker.pendingControl

/-- One state comes from the other by writing the controls and the inputs. -/
structure Wrote (before : Active) (requests : List ControlCommand) (events : List InputCommand)
    (after : Active) : Prop where
  controls_wire : controls after.wire = controls before.wire ++ requests
  inputs_wire : inputs after.wire = inputs before.wire ++ events
  latched : (!after.worker.suppressDisplayLatched)
    = (lastToggle requests).getD !before.worker.suppressDisplayLatched
  pendingControl : after.worker.pendingControl = before.worker.pendingControl
  pendingInput : after.worker.pendingInput = before.worker.pendingInput

variable {a b c : Active} {requests requests' : List ControlCommand}
  {events events' : List InputCommand}

theorem Wrote.refl (a : Active) : a.Wrote [] [] a where
  controls_wire := by simp
  inputs_wire := by simp
  latched := rfl
  pendingControl := rfl
  pendingInput := rfl

theorem Wrote.trans (h : a.Wrote requests events b) (h' : b.Wrote requests' events' c) :
    a.Wrote (requests ++ requests') (events ++ events') c where
  controls_wire := by rw [h'.controls_wire, h.controls_wire, List.append_assoc]
  inputs_wire := by rw [h'.inputs_wire, h.inputs_wire, List.append_assoc]
  latched := by rw [h'.latched, h.latched, lastToggle_getD]
  pendingControl := h'.pendingControl.trans h.pendingControl
  pendingInput := h'.pendingInput.trans h.pendingInput

theorem wrote_dispatchControl (a : Active) (control : ControlCommand) :
    a.Wrote [control] [] (a.dispatchControl control) := by
  cases control with
  | suppressOutput allowDisplay =>
    exact ⟨by simp [dispatchControl], by simp [dispatchControl], by simp [dispatchControl, lastToggle,
      ControlCommand.toggle?], rfl, rfl⟩
  | requestRefresh =>
    exact ⟨by simp [dispatchControl], by simp [dispatchControl], by simp [dispatchControl, lastToggle,
      ControlCommand.toggle?], rfl, rfl⟩

theorem wrote_dispatchInput (a : Active) (input : InputCommand) :
    a.Wrote [] [input] (a.dispatchInput input) :=
  ⟨by simp [dispatchInput], by simp [dispatchInput], rfl, rfl, rfl⟩

theorem wrote_controls (requests : List ControlCommand) (a : Active) :
    a.Wrote requests [] (requests.foldl dispatchControl a) := by
  induction requests generalizing a with
  | nil => exact .refl a
  | cons control requests ih => exact (wrote_dispatchControl a control).trans (ih _)

theorem wrote_inputs (events : List InputCommand) (a : Active) :
    a.Wrote [] events (events.foldl dispatchInput a) := by
  induction events generalizing a with
  | nil => exact .refl a
  | cons input events ih => exact (wrote_dispatchInput a input).trans (ih _)

theorem wrote_dispatchCommands (received : List WorkerCommand) (a : Active) :
    a.Wrote (controls (heard received)) (inputs (heard received)) (a.dispatchCommands received) := by
  induction received generalizing a with
  | nil => exact .refl a
  | cons command received ih =>
    cases command with
    | stop => exact ⟨by simp [dispatchCommands, heard, WorkerCommand.isStop, controls],
        by simp [dispatchCommands, heard, WorkerCommand.isStop, inputs], rfl, rfl, rfl⟩
    | input command => exact (wrote_dispatchInput a command).trans (ih _)
    | control command => exact (wrote_dispatchControl a command).trans (ih _)
    | mediaReady => exact ih a

/-- A drain writes what was buffered and then what is heard, and buffers nothing. -/
theorem drainInput_spec (a : Active) (received : List WorkerCommand) :
    let b := a.drainInput received
    controls b.wire = a.outgoing ++ controls (heard received) ∧
      inputs b.wire = inputs a.wire ++ a.worker.pendingInput ++ inputs (heard received) ∧
      (!b.worker.suppressDisplayLatched)
        = (lastToggle (controls (heard received))).getD a.worker.wanted ∧
      b.worker.pendingControl = [] ∧ b.worker.pendingInput = [] := by
  have hcontrol := wrote_controls a.worker.pendingControl
    { a with worker := { a.worker with pendingControl := [] } }
  have hpending : a.replayControl.worker.pendingInput = a.worker.pendingInput :=
    hcontrol.pendingInput
  have hinput := wrote_inputs a.replayControl.worker.pendingInput
    { a.replayControl with worker := { a.replayControl.worker with pendingInput := [] } }
  have hheard := wrote_dispatchCommands received a.replayControl.replayInput
  refine ⟨?_, ?_, ?_, ?_, ?_⟩
  · calc controls (a.drainInput received).wire
        = controls a.replayControl.replayInput.wire ++ controls (heard received) :=
          hheard.controls_wire
      _ = controls a.replayControl.wire ++ [] ++ controls (heard received) :=
          congrArg (· ++ controls (heard received)) hinput.controls_wire
      _ = a.outgoing ++ controls (heard received) := by
          rw [List.append_nil]
          exact congrArg (· ++ controls (heard received)) hcontrol.controls_wire
  · calc inputs (a.drainInput received).wire
        = inputs a.replayControl.replayInput.wire ++ inputs (heard received) := hheard.inputs_wire
      _ = inputs a.replayControl.wire ++ a.replayControl.worker.pendingInput
            ++ inputs (heard received) :=
          congrArg (· ++ inputs (heard received)) hinput.inputs_wire
      _ = inputs a.wire ++ a.worker.pendingInput ++ inputs (heard received) := by
          rw [hpending]
          have hwire : inputs a.replayControl.wire = inputs a.wire ++ [] := hcontrol.inputs_wire
          rw [hwire, List.append_nil]
  · calc (!(a.drainInput received).worker.suppressDisplayLatched)
        = (lastToggle (controls (heard received))).getD
            (!a.replayControl.replayInput.worker.suppressDisplayLatched) := hheard.latched
      _ = (lastToggle (controls (heard received))).getD
            (!a.replayControl.worker.suppressDisplayLatched) :=
          congrArg _ hinput.latched
      _ = (lastToggle (controls (heard received))).getD a.worker.wanted :=
          congrArg _ hcontrol.latched
  · exact (hheard.pendingControl.trans hinput.pendingControl).trans hcontrol.pendingControl
  · exact hheard.pendingInput.trans hinput.pendingInput

end Active

end Lgnome.Worker
