import Lgnome.Capture.Redirect
import Lgnome.Transition.Machine
import Lgnome.Transition.Section

/-!
# The capture manager at work

The UI thread, the session workers and the two capture workers take turns at the
lock. A section begins when the lock is free and then takes one small step at a
time, with the lock-free steps of the others in between.
-/
namespace Lgnome.Capture

open Lgnome.Native (SlotIndex Session)
open Lgnome.Transition

/-- A slot's `rdp` pointer, and how far `native_stop_slot` has got with it. -/
inductive Handle where
  | none
  | live (session : Session)
  /-- Detached from the manager, with the worker still running. -/
  | leaving (session : Session)
  /-- The worker is joined; the second detach is still to come. -/
  | left
  deriving DecidableEq, Repr

namespace Handle

/-- What the UI thread hands to `native_capture_redirect_set_slot`. -/
def session : Handle → Option Session
  | live session => some session
  | _ => Option.none

/-- The session whose worker may call back. -/
def worker : Handle → Option Session
  | live session => some session
  | leaving session => some session
  | _ => Option.none

end Handle

/-- How far the UI thread is inside `reconfigure` or `destroy`. -/
inductive Control where
  | idle
  | stopping (config : CaptureConfig)
  | joined (config : CaptureConfig)
  | withdrawn (config : CaptureConfig)
  | applied
  | closing
  | drained
  | closed
  deriving DecidableEq, Repr

/-- `AudioStreamState` of one slot. -/
structure AudioStream where
  collected : Collected
  inputRate : UInt32
  inputChannels : UInt16
  deriving DecidableEq, Repr

/-- What the lock guards, with the gates that its holder's calls set. -/
structure Shared where
  redirect : Redirect := {}
  gates : Session → Bool := fun _ => false

/-- What the parties keep to themselves. -/
@[ext] structure Parties where
  stop : Bool := false
  cameraThreadRunning : Bool := false
  audioThreadRunning : Bool := false
  control : Control := .applied
  handles : SlotIndex → Handle := fun _ => .none
  /-- How many generations a session's microphone channel has given out. -/
  audioOpens : SlotIndex → Nat := fun _ => 0
  desired : SlotIndex → Option Collected := fun _ => none
  streams : SlotIndex → Option AudioStream := fun _ => none

structure CaptureSystem where
  shared : Shared := {}
  /-- The rest of the section of whoever holds the lock. -/
  todo : List Micro := []
  parties : Parties := {}

inductive CaptureAction where
  | micro (answer : Bool)
  | setForegroundSlot (slot : Option SlotIndex)
  | setSlot (i : SlotIndex) (cameraAllowed audioAllowed : Bool)
  | sessionStart (i : SlotIndex) (session : Session)
  | sessionDetach (i : SlotIndex)
  | sessionJoin (i : SlotIndex)
  | sessionSettle (i : SlotIndex)
  | reconfigure (config : CaptureConfig)
  | joinWorkers
  | withdrawPhysical
  | applyConfig
  | startWorkers (camera audio : Bool)
  | destroy
  | destroyLocked
  | destroyJoin
  | cameraStart (i : SlotIndex) (generation : Nat) (width height fps : UInt16)
  | cameraStop (i : SlotIndex) (generation : Nat)
  | cameraSampleRequest (i : SlotIndex) (generation : Nat)
  | audioStart (i : SlotIndex) (skipped : Nat) (sampleRate : UInt32) (channels : UInt16)
      (framesPerPacket : UInt32)
  | audioStop (i : SlotIndex) (generation : UInt64)
  | cameraRound (left : Option (SlotIndex × Nat)) (available : Bool)
  | cameraSetPhysical (available : Bool)
  | cameraFailCredit (i : SlotIndex) (generation : Nat)
  | cameraSubmitQueued (i : SlotIndex) (generation : Nat) (stateGeneration : UInt32)
      (ownerEpoch : UInt64) (packet : Option Bytes)
  | audioCollect
  | audioSync (i : SlotIndex) (inputRate : UInt32) (inputChannels : UInt16) (ready : Bool)
  | audioPacket (i : SlotIndex) (data : Bytes)
  deriving DecidableEq

namespace Shared

/-- The gate of the session a call is made on. -/
def setGate (gates : Session → Bool) : Option RdpCall → Session → Bool
  | some (.setCaptureActive session active) =>
    fun other => if other = session then active else gates other
  | _ => gates

def exec (s : Shared) (m : Micro) (answer : Bool) : Shared where
  redirect := s.redirect.exec m answer
  gates := setGate s.gates (s.redirect.call m)

end Shared

namespace Parties

def modifyHandle (p : Parties) (i : SlotIndex) (handle : Handle) : Parties :=
  { p with handles := fun j => if j = i then handle else p.handles j }

/-- Whether a session has this slot's worker for its callbacks. -/
def hasWorker (p : Parties) (i : SlotIndex) : Bool :=
  (p.handles i).worker.isSome && p.control ≠ .closed

/-- Both capture workers are joined, and their streams with them. -/
def withoutWorkers (p : Parties) (control : Control) : Parties :=
  { p with
    control
    cameraThreadRunning := false
    audioThreadRunning := false
    desired := fun _ => none
    streams := fun _ => none }

/-- `audio_stream_matches`. -/
def streamMatches (p : Parties) (i : SlotIndex) (inputRate : UInt32) (inputChannels : UInt16) :
    Bool :=
  match p.streams i, p.desired i with
  | some stream, some collected =>
    stream.collected.target = collected.target && stream.inputRate = inputRate &&
      stream.inputChannels = inputChannels
  | _, _ => false

/-- `audio_stream_sync`; `ready` is whether the converter could be set up. -/
def audioSync (p : Parties) (i : SlotIndex) (inputRate : UInt32) (inputChannels : UInt16)
    (ready : Bool) : Parties :=
  if p.streamMatches i inputRate inputChannels then p
  else
    { p with
      streams := fun j =>
        if j = i then
          if ready then (p.desired i).map fun collected => { collected, inputRate, inputChannels }
          else none
        else p.streams j }

end Parties

namespace CaptureSystem

/-- What a party does with the lock free: its own fields, and its section. -/
def acquire (s : CaptureSystem) : CaptureAction → Option CaptureSystem
  | .setForegroundSlot slot =>
    if s.parties.control = .idle then
      some { s with todo := s.shared.redirect.setForegroundSlot slot }
    else none
  | .setSlot i cameraAllowed audioAllowed =>
    let handle := s.parties.handles i
    if s.parties.control = .idle ∧ (handle = .none ∨ handle.session.isSome) then
      some { s with
        todo := s.shared.redirect.setSlot i handle.session cameraAllowed audioAllowed }
    else none
  | .sessionStart i session =>
    -- A fresh session is nobody else's: its gate is closed and its microphone counts from zero.
    if s.parties.control = .idle ∧ s.parties.handles i = .none ∧
        ∀ j, (s.parties.handles j).worker ≠ some session then
      some { s with
        shared := { s.shared with
          gates := fun other => if other = session then false else s.shared.gates other }
        parties := { s.parties.modifyHandle i (.live session) with
          audioOpens := fun j => if j = i then 0 else s.parties.audioOpens j } }
    else none
  | .sessionDetach i =>
    match s.parties.control, s.parties.handles i with
    | .idle, .live session =>
      some { s with
        parties := s.parties.modifyHandle i (.leaving session)
        todo := s.shared.redirect.setSlot i none false false }
    | _, _ => none
  | .sessionJoin i =>
    match s.parties.control, s.parties.handles i with
    | .idle, .leaving _ => some { s with parties := s.parties.modifyHandle i .left }
    | _, _ => none
  | .sessionSettle i =>
    match s.parties.control, s.parties.handles i with
    | .idle, .left =>
      some { s with
        parties := s.parties.modifyHandle i .none
        todo := s.shared.redirect.setSlot i none false false }
    | _, _ => none
  | .joinWorkers =>
    match s.parties.control with
    | .stopping config => some { s with parties := s.parties.withoutWorkers (.joined config) }
    | _ => none
  | .withdrawPhysical =>
    match s.parties.control with
    | .joined config =>
      some { s with
        parties := { s.parties with control := .withdrawn config }
        todo := Redirect.setPhysicalAvailable false }
    | _ => none
  | .applyConfig =>
    match s.parties.control with
    | .withdrawn config =>
      some { s with
        parties := { s.parties with control := .applied }
        todo := [.applyConfig config] }
    | _ => none
  | .startWorkers camera audio =>
    if s.parties.control = .applied then
      some { s with
        parties := { s.parties with
          control := .idle
          stop := false
          cameraThreadRunning := s.shared.redirect.cameraEnabled && camera
          audioThreadRunning := s.shared.redirect.audioEnabled && audio } }
    else none
  | .destroyLocked =>
    if s.parties.control = .closing then
      some { s with
        parties := { s.parties with control := .drained }
        todo := s.shared.redirect.destroy }
    else none
  | .destroyJoin =>
    if s.parties.control = .drained then
      some { s with parties := s.parties.withoutWorkers .closed }
    else none
  | .cameraStart i generation width height fps =>
    if s.parties.hasWorker i then
      some { s with todo := Redirect.cameraStart i generation width height fps }
    else none
  | .cameraStop i generation =>
    if s.parties.hasWorker i then some { s with todo := [.stopCamera i generation] } else none
  | .cameraSampleRequest i generation =>
    if s.parties.hasWorker i then some { s with todo := [.requestSample i generation] } else none
  | .audioStart i skipped sampleRate channels framesPerPacket =>
    if s.parties.hasWorker i then
      let opened := s.parties.audioOpens i + 1 + skipped
      some { s with
        parties := { s.parties with
          audioOpens := fun j => if j = i then opened else s.parties.audioOpens j }
        todo :=
          if sampleRate ≠ 44100 ∨ channels ≠ 2 ∨ framesPerPacket = 0 ∨ 4096 < framesPerPacket then []
          else [.startAudio i (Rdpeai.nextGeneration^[opened] 0) framesPerPacket opened] }
    else none
  | .audioStop i generation =>
    if s.parties.hasWorker i then some { s with todo := [.stopAudio i generation] } else none
  | .cameraRound left available =>
    if s.parties.cameraThreadRunning then
      some { s with todo := Redirect.cameraRound left available }
    else none
  | .cameraSetPhysical available =>
    if s.parties.cameraThreadRunning then
      some { s with todo := Redirect.setPhysicalAvailable available }
    else none
  | .cameraFailCredit i generation =>
    if s.parties.cameraThreadRunning then
      some { s with todo := [.failCredit i (some generation)] }
    else none
  | .cameraSubmitQueued i generation stateGeneration ownerEpoch packet =>
    if s.parties.cameraThreadRunning then
      some { s with
        todo := Redirect.cameraSubmitQueued i generation stateGeneration ownerEpoch packet }
    else none
  | .audioCollect =>
    if s.parties.audioThreadRunning then
      some { s with parties := { s.parties with desired := s.shared.redirect.audioDesired } }
    else none
  | .audioPacket i data =>
    if s.parties.audioThreadRunning then
      (s.parties.streams i).map fun stream =>
        { s with todo := [.submitPcm i stream.collected data] }
    else none
  | .micro _ | .reconfigure _ | .destroy | .audioSync .. => none

/-- What a party does whoever holds the lock. -/
def lockFree (p : Parties) : CaptureAction → Option Parties
  | .reconfigure config =>
    if p.control = .idle ∧ config.valid then
      some { p with control := .stopping config, stop := true }
    else none
  | .destroy => if p.control = .idle then some { p with control := .closing, stop := true } else none
  | .audioSync i inputRate inputChannels ready =>
    if p.audioThreadRunning then some (p.audioSync i inputRate inputChannels ready) else none
  | _ => none

def step (s : CaptureSystem) : CaptureAction → Option (CaptureSystem × Option RdpCall)
  | .micro answer =>
    match s.todo with
    | [] => none
    | m :: todo =>
      if m.loadsStop ∧ answer ≠ s.parties.stop then none
      else some ({ s with shared := s.shared.exec m answer, todo }, s.shared.redirect.call m)
  | a =>
    match lockFree s.parties a with
    | some parties => some ({ s with parties }, none)
    | none => if s.todo = [] then (acquire s a).map fun t => (t, none) else none

end CaptureSystem

/-- `native_capture_redirect_init` up to the start of the workers, and all that follows. -/
def captureMachine (config : CaptureConfig) :
    Machine CaptureSystem CaptureAction (Option RdpCall) where
  init := { shared := { redirect := Redirect.exec {} (.applyConfig config) true } }
  step := CaptureSystem.step

end Lgnome.Capture
