import Lgnome.Rdpecam.Device

/-!
# Runs of the camera bridge

One bridge with every processor that was ever created for it. The RDP worker
makes the calls one after the other and the callbacks of a call are delivered
before the next one, so a step is a whole call. Nothing restricts the order of
the calls, the channel ids or the bytes.
-/
namespace Lgnome.Rdpecam

open Lgnome.Transition

structure CameraSystem where
  bridge : CameraState
  enumerators : List CameraEnumerator := []
  devices : List CameraDevice := []
  deriving DecidableEq, Repr

/-- Enumerators and device processors are named by their order of creation. -/
inductive CameraAction where
  | setAvailable (available : Bool)
  | newEnumerator
  | enumeratorStart (i channelId : Nat)
  | enumeratorProcess (i channelId : Nat) (payload : Bytes)
  | enumeratorClose (i channelId : Nat)
  | createDevice
  | deviceStart (i channelId : Nat)
  | deviceProcess (i channelId : Nat) (payload : Bytes)
  | deviceClose (i channelId : Nat)
  | submitH264 (generation : Nat) (data : Bytes)
  | submitError (generation : Nat)
  | notifyNextCredit
  deriving DecidableEq, Repr

namespace CameraSystem

/-- A call on a processor that does not exist is refused; every other call
returns. -/
def step (s : CameraSystem) : CameraAction → Option (CameraSystem × CameraOutput)
  | .setAvailable available =>
    let r := setAvailable s.bridge available
    some ({ s with bridge := r.1 }, r.2.2)
  | .newEnumerator => some ({ s with enumerators := s.enumerators ++ [{}] }, {})
  | .enumeratorStart i channelId =>
    s.enumerators[i]?.map fun e =>
      let r := e.start s.bridge channelId
      ({ s with bridge := r.2.1, enumerators := s.enumerators.set i r.1 }, r.2.2)
  | .enumeratorProcess i channelId payload =>
    s.enumerators[i]?.map fun e =>
      let r := e.process s.bridge channelId payload
      ({ s with bridge := r.1 }, r.2)
  | .enumeratorClose i channelId =>
    s.enumerators[i]?.map fun e =>
      let r := e.close s.bridge channelId
      ({ s with bridge := r.2.1, enumerators := s.enumerators.set i r.1 }, r.2.2)
  | .createDevice =>
    let r := allocateDeviceToken s.bridge
    some ({ s with
        bridge := r.1
        devices := s.devices ++ (r.2.map fun token => { token := token }).toList }, {})
  | .deviceStart i channelId =>
    s.devices[i]?.map fun d =>
      let r := d.start s.bridge channelId
      ({ s with bridge := r.2.1, devices := s.devices.set i r.1 }, r.2.2)
  | .deviceProcess i channelId payload =>
    s.devices[i]?.map fun d =>
      let r := d.processRequest s.bridge channelId payload
      ({ s with bridge := r.1 }, { callbacks := r.2.callbacks, messages := r.2.messages })
  | .deviceClose i channelId =>
    s.devices[i]?.map fun d =>
      let r := d.close s.bridge channelId
      ({ s with bridge := r.2.1, devices := s.devices.set i r.1 }, r.2.2)
  | .submitH264 generation data =>
    let r := Rdpecam.submitH264 s.bridge generation data
    some ({ s with bridge := r.1 }, r.2.2)
  | .submitError generation =>
    let r := Rdpecam.submitError s.bridge generation
    some ({ s with bridge := r.1 }, r.2.2)
  | .notifyNextCredit =>
    let r := Rdpecam.notifyNextCredit s.bridge
    some ({ s with bridge := r.1 }, r.2)

end CameraSystem

/-- Every sequence of calls on a bridge for one picture format. -/
def cameraMachine (width height fps : UInt16) :
    Machine CameraSystem CameraAction CameraOutput where
  init := { bridge := .new width height fps }
  step := CameraSystem.step

abbrev CameraEvent := CameraAction × CameraOutput

/-- Everything one call can do, one constructor for each kind of call. -/
inductive CameraStep (s : CameraSystem) :
    CameraAction → CameraOutput → CameraSystem → Prop
  | setAvailable (b : Bool) :
      CameraStep s (.setAvailable b) (Rdpecam.setAvailable s.bridge b).2.2
        { s with bridge := (Rdpecam.setAvailable s.bridge b).1 }
  | newEnumerator :
      CameraStep s .newEnumerator {} { s with enumerators := s.enumerators ++ [{}] }
  | enumeratorStart {i ch : Nat} {e : CameraEnumerator} (he : s.enumerators[i]? = some e) :
      CameraStep s (.enumeratorStart i ch) (e.start s.bridge ch).2.2
        { s with
          bridge := (e.start s.bridge ch).2.1
          enumerators := s.enumerators.set i (e.start s.bridge ch).1 }
  | enumeratorProcess {i ch : Nat} {payload : Bytes} {e : CameraEnumerator}
      (he : s.enumerators[i]? = some e) :
      CameraStep s (.enumeratorProcess i ch payload) (e.process s.bridge ch payload).2
        { s with bridge := (e.process s.bridge ch payload).1 }
  | enumeratorClose {i ch : Nat} {e : CameraEnumerator} (he : s.enumerators[i]? = some e) :
      CameraStep s (.enumeratorClose i ch) (e.close s.bridge ch).2.2
        { s with
          bridge := (e.close s.bridge ch).2.1
          enumerators := s.enumerators.set i (e.close s.bridge ch).1 }
  | createDevice :
      CameraStep s .createDevice {}
        { s with
          bridge := (allocateDeviceToken s.bridge).1
          devices := s.devices ++
            ((allocateDeviceToken s.bridge).2.map fun token => { token := token }).toList }
  | deviceStart {i ch : Nat} {d : CameraDevice} (hd : s.devices[i]? = some d) :
      CameraStep s (.deviceStart i ch) (d.start s.bridge ch).2.2
        { s with
          bridge := (d.start s.bridge ch).2.1
          devices := s.devices.set i (d.start s.bridge ch).1 }
  | deviceProcess {i ch : Nat} {payload : Bytes} {d : CameraDevice}
      (hd : s.devices[i]? = some d) :
      CameraStep s (.deviceProcess i ch payload)
        { callbacks := (d.processRequest s.bridge ch payload).2.callbacks
          messages := (d.processRequest s.bridge ch payload).2.messages }
        { s with bridge := (d.processRequest s.bridge ch payload).1 }
  | deviceClose {i ch : Nat} {d : CameraDevice} (hd : s.devices[i]? = some d) :
      CameraStep s (.deviceClose i ch) (d.close s.bridge ch).2.2
        { s with
          bridge := (d.close s.bridge ch).2.1
          devices := s.devices.set i (d.close s.bridge ch).1 }
  | submitH264 (g : Nat) (data : Bytes) :
      CameraStep s (.submitH264 g data) (Rdpecam.submitH264 s.bridge g data).2.2
        { s with bridge := (Rdpecam.submitH264 s.bridge g data).1 }
  | submitError (g : Nat) :
      CameraStep s (.submitError g) (Rdpecam.submitError s.bridge g).2.2
        { s with bridge := (Rdpecam.submitError s.bridge g).1 }
  | notifyNextCredit :
      CameraStep s .notifyNextCredit (Rdpecam.notifyNextCredit s.bridge).2
        { s with bridge := (Rdpecam.notifyNextCredit s.bridge).1 }

section Steps

variable {s t : CameraSystem} {a : CameraAction} {o : CameraOutput}

theorem camera_step_cases (h : s.step a = some (t, o)) : CameraStep s a o t := by
  cases a with
  | setAvailable b => cases h; exact .setAvailable b
  | newEnumerator => cases h; exact .newEnumerator
  | createDevice => cases h; exact .createDevice
  | submitH264 g data => cases h; exact .submitH264 g data
  | submitError g => cases h; exact .submitError g
  | notifyNextCredit => cases h; exact .notifyNextCredit
  | enumeratorStart i ch =>
    obtain ⟨e, he, hr⟩ := Option.map_eq_some_iff.mp h
    cases hr
    exact .enumeratorStart he
  | enumeratorProcess i ch payload =>
    obtain ⟨e, he, hr⟩ := Option.map_eq_some_iff.mp h
    cases hr
    exact .enumeratorProcess he
  | enumeratorClose i ch =>
    obtain ⟨e, he, hr⟩ := Option.map_eq_some_iff.mp h
    cases hr
    exact .enumeratorClose he
  | deviceStart i ch =>
    obtain ⟨d, hd, hr⟩ := Option.map_eq_some_iff.mp h
    cases hr
    exact .deviceStart hd
  | deviceProcess i ch payload =>
    obtain ⟨d, hd, hr⟩ := Option.map_eq_some_iff.mp h
    cases hr
    exact .deviceProcess hd
  | deviceClose i ch =>
    obtain ⟨d, hd, hr⟩ := Option.map_eq_some_iff.mp h
    cases hr
    exact .deviceClose hd

end Steps

end Lgnome.Rdpecam
