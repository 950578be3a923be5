import Lgnome.Capture.Exclusive
import Lgnome.Media.Mailbox
import Lgnome.Rdpecam.Lifecycle

/-!
# The camera from end to end

The capture manager, and for every session the availability it wants, its media
mailbox and its RDP worker with the camera bridge. The manager's small steps,
the worker's steps and the callbacks come in any order. A close of the gate does
not wait here for what is being written, which only allows more orders, and a
callback that has the lock is one step: the worker it would meet is the one
that makes it. The microphone's half of `drain_media` is left out.
-/
namespace Lgnome.Camera

open Lgnome.Native (SlotIndex Session)
open Lgnome.Transition Lgnome.Capture Lgnome.Rdpecam
open Lgnome.Media (CameraSubmission MediaMailbox)

/-- Where the RDP worker is in `drain_media`. -/
inductive Phase
  | processing
  /-- The wanted availability is loaded. -/
  | polled (available : Bool)
  /-- The device is gone, and what waits in the mailbox is to go too. -/
  | discarding
  | taking
  | holding (submission : CameraSubmission Bytes)
  /-- Revalidated, with a send permit. -/
  | prepared (submission : CameraSubmission Bytes)
  | sent
  | checking
  | crediting
  deriving DecidableEq

/-- What one RDP session has of the camera. -/
structure RdpSide where
  camera : CameraSystem
  mailbox : MediaMailbox Bytes := {}
  /-- `desired_camera_available`. -/
  desired : Bool := false
  phase : Phase := .processing
  /-- Callbacks of the call that has just been made. -/
  outbox : List CameraCallback := []

/-- The largest access unit the RDP client takes. -/
def maxCameraAu : Nat := 4 * 1024 * 1024

namespace RdpSide

/-- A call of the capture manager, with its answer. -/
def receive (r : RdpSide) : RdpCall → RdpSide × Bool
  | .setCaptureActive _ active =>
    ({ r with mailbox := (r.mailbox.setCaptureActive active).1 }, true)
  | .setCameraAvailable _ available => ({ r with desired := available }, true)
  | .submitCameraH264 _ generation data =>
    if data = [] ∨ maxCameraAu < data.length then (r, false)
    else
      ({ r with mailbox := (r.mailbox.tryEnqueueCameraH264 generation data).1 },
        (r.mailbox.tryEnqueueCameraH264 generation data).2)
  | .submitCameraError _ generation =>
    ({ r with mailbox := (r.mailbox.tryEnqueueCameraError generation).1 },
      (r.mailbox.tryEnqueueCameraError generation).2)
  | .submitAudioInputPcm _ generation data =>
    ({ r with mailbox := (r.mailbox.tryEnqueueAudioPcm generation.toNat data).1 },
      (r.mailbox.tryEnqueueAudioPcm generation.toNat data).2)

end RdpSide

/-- A call that the server's messages and channels cause. -/
def fromServer : CameraAction → Bool
  | .setAvailable _ => false
  | .submitH264 .. => false
  | .submitError _ => false
  | .notifyNextCredit => false
  | _ => true

/-- What the RDP worker does next: a call from the server, or the next step of
`drain_media`. -/
inductive WorkerAction
  | call (action : CameraAction)
  | poll
  | reconcile
  | discard
  | take
  | prepare
  | submit
  | release
  | check
  | notify
  deriving DecidableEq

namespace RdpSide

/-- The worker's steps. None is taken while a callback is still to be made. -/
def work (r : RdpSide) (a : WorkerAction) : Option RdpSide :=
  if r.outbox = [] then
    match a, r.phase with
    | .call action, .processing =>
      if fromServer action then
        (r.camera.step action).map fun c =>
          { r with camera := c.1, outbox := c.2.callbacks }
      else none
    | .poll, .processing => some { r with phase := .polled r.desired }
    | .reconcile, .polled available =>
      let c := setAvailable r.camera.bridge available
      some { r with
        camera := { r.camera with bridge := c.1 }
        outbox := c.2.2.callbacks
        phase := if available then .taking else .discarding }
    | .discard, .discarding =>
      some { r with mailbox := r.mailbox.discardCameraSubmission.1, phase := .taking }
    | .take, .taking =>
      some { r with
        mailbox := r.mailbox.takePending.1
        phase := match r.mailbox.takePending.2.camera with
          | some submission => .holding submission
          | none => .checking }
    | .prepare, .holding submission =>
      some { r with
        mailbox := (r.mailbox.prepareCameraSend submission).1
        phase := match (r.mailbox.prepareCameraSend submission).2 with
          | some prepared => .prepared prepared
          | none => .checking }
    | .submit, .prepared (.h264 generation data _) =>
      some { r with
        camera := { r.camera with bridge := (submitH264 r.camera.bridge generation data).1 }
        phase := .sent }
    | .submit, .prepared (.error generation _) =>
      some { r with
        camera := { r.camera with bridge := (submitError r.camera.bridge generation).1 }
        phase := .sent }
    | .release, .sent => some { r with mailbox := r.mailbox.dropPermit, phase := .checking }
    | .check, .checking =>
      some { r with phase := if r.mailbox.captureIsActive then .crediting else .processing }
    | .notify, .crediting =>
      let c := notifyNextCredit r.camera.bridge
      some { r with
        camera := { r.camera with bridge := c.1 }
        outbox := c.2.callbacks
        phase := .processing }
    | _, _ => none
  else none

end RdpSide

structure CreditSystem where
  capture : CaptureSystem
  rdp : Session → RdpSide

/-- The session a call is made on. -/
def callee : RdpCall → Session
  | .setCaptureActive session _ => session
  | .setCameraAvailable session _ => session
  | .submitCameraH264 session .. => session
  | .submitCameraError session _ => session
  | .submitAudioInputPcm session .. => session

/-- The section of a callback that holds the capture manager's lock. -/
def callbackSection (i : SlotIndex) : CameraCallback → List Micro
  | .start generation width height fps => Redirect.cameraStart i generation width height fps
  | .stop generation => [.stopCamera i generation]
  | .sampleRequest generation => [.requestSample i generation]

/-- The steps of the capture manager that the worker's callbacks do not make. -/
def fromManager : CaptureAction → Bool
  | .micro _ => false
  | .cameraStart .. => false
  | .cameraStop .. => false
  | .cameraSampleRequest .. => false
  | _ => true

inductive CreditAction
  /-- The next small step of whoever holds the lock. -/
  | micro
  | manager (action : CaptureAction)
  | worker (i : SlotIndex) (action : WorkerAction)
  | callback (i : SlotIndex)

namespace CreditSystem

def setRdp (s : CreditSystem) (session : Session) (r : RdpSide) : CreditSystem :=
  { s with rdp := fun other => if other = session then r else s.rdp other }

/-- A small step with its call. Without a call the answer is the `stop` flag. -/
def exec (s : CreditSystem) (m : Micro) : CreditSystem :=
  match s.capture.shared.redirect.call m with
  | none =>
    { s with capture := { s.capture with shared := s.capture.shared.exec m s.capture.parties.stop } }
  | some call =>
    let answered := (s.rdp (callee call)).receive call
    { s with capture := { s.capture with shared := s.capture.shared.exec m answered.2 } }.setRdp
      (callee call) answered.1

/-- A session starts with the picture format that is configured then. -/
def started (s : CreditSystem) : CaptureAction → CreditSystem
  | .sessionStart _ session =>
    s.setRdp session {
      camera := {
        bridge := .new s.capture.shared.redirect.cameraWidth s.capture.shared.redirect.cameraHeight
          s.capture.shared.redirect.cameraFps } }
  | _ => s

/-- The worker of a slot, with the callback it makes next. -/
def pending (s : CreditSystem) (i : SlotIndex) : Option (Session × CameraCallback) :=
  match (s.capture.parties.handles i).worker with
  | some session => (s.rdp session).outbox.head?.map fun callback => (session, callback)
  | none => none

def popOutbox (s : CreditSystem) (session : Session) : CreditSystem :=
  s.setRdp session { s.rdp session with outbox := (s.rdp session).outbox.tail }

def step (s : CreditSystem) : CreditAction → Option (CreditSystem × Unit)
  | .micro =>
    match s.capture.todo with
    | [] => none
    | m :: todo =>
      some ({ s.exec m with capture := { (s.exec m).capture with todo } }, ())
  | .manager action =>
    if fromManager action then
      (s.capture.step action).map fun t => ({ s.started action with capture := t.1 }, ())
    else none
  | .worker i action =>
    match (s.capture.parties.handles i).worker with
    | some session => ((s.rdp session).work action).map fun r => (s.setRdp session r, ())
    | none => none
  | .callback i =>
    match s.pending i with
    | some (session, callback) =>
      if s.capture.todo = [] ∧ s.capture.parties.hasWorker i then
        some (((callbackSection i callback).foldl exec s).popOutbox session, ())
      else none
    | none => none

end CreditSystem

/-- All of it from the start of the application. -/
def creditMachine (config : CaptureConfig) : Machine CreditSystem CreditAction Unit where
  init := {
    capture := (captureMachine config).init
    rdp := fun _ => { camera := { bridge := .new 0 0 0 } } }
  step := CreditSystem.step

end Lgnome.Camera
