import Lgnome.Settings.Apply
import Lgnome.Settings.Field

/-!
# What a document assigns

A document is read on its own into a partial assignment of the fields. Over any
model in range, applying the document is overwriting that model with it: the
checks that the source makes on the merged model are checks of the document.
-/
namespace Lgnome.Settings

open Lgnome.Bytes Lgnome.Json Lgnome.Layers

theorem bind_bind {α β γ : Type} (x : Scan α) (f : α → Scan β) (g : β → Scan γ) :
    (x >>= f) >>= g = x >>= fun a => f a >>= g := by
  cases x <;> rfl

theorem guard_bind {α β : Type} (refused : Bool) (a : α) (f : α → Scan β) :
    ((if refused = true then .reject else .ok a) >>= f) =
      if refused = true then .reject else f a := by
  cases refused <;> rfl

/-! ## Reading the fields -/

/-- A value that was read has to pass. -/
def checked {α : Type} (accepts : α → Bool) (result : Scan (Option α)) : Scan (Option α) := do
  let value ← result
  match value with
  | none => .ok none
  | some a => if accepts a then .ok (some a) else .reject

def parseSessionName (json : List UInt8) : Scan (Option (List UInt8)) :=
  match findValue json (ascii "name") with
  | .reject => .ok none
  | .fault => .fault
  | .ok p => if peek p ≠ quote then .ok none else jsonReadString json (ascii "name") stringMax

def parseMixerGain (json : List UInt8) : Scan (Option Int) :=
  checked (fun gain => gain.tmod mixerStepDb = 0)
    (jsonReadI16 json (ascii "mixerGainDb") mixerMinDb mixerMaxDb)

def parseDesktopScale (json : List UInt8) : Scan (Option Nat) :=
  checked desktopScaleValid (jsonReadU16 json (ascii "desktopScaleFactor") 100 200)

def parseAudioCodec (json : List UInt8) : Scan (Option AudioCodec) := do
  let codec ← jsonReadString json (ascii "audioCodec") 16
  match codec with
  | none => .ok none
  | some codec =>
    if codec = ascii "auto" ∨ codec = ascii "opus" then .ok (some .auto)
    else if codec = ascii "pcm" then .ok (some .pcm)
    else .reject

/-- What an object sets in the profile it is for. -/
def parseSession (json : List UInt8) : Scan SessionLayer := do
  let name ← parseSessionName json
  let desktopScaleFactor ← parseDesktopScale json
  let host ← jsonReadString json (ascii "host") stringMax
  let username ← jsonReadString json (ascii "username") stringMax
  let password ← jsonReadString json (ascii "password") stringMax
  let domain ← jsonReadString json (ascii "domain") stringMax
  let port ← jsonReadU16 json (ascii "port") 1 portMax
  let fps ← jsonReadU16 json (ascii "fps") 1 240
  let desktopWidth ← jsonReadU16 json (ascii "desktopWidth") desktopMinWidth desktopMaxWidth
  let desktopHeight ← jsonReadU16 json (ascii "desktopHeight") desktopMinHeight desktopMaxHeight
  let duckMask ← jsonReadU16 json (ascii "duckTriggers") 0 duckMaskAll
  let mixerGainDb ← parseMixerGain json
  let mixerMuted ← jsonReadBool json (ascii "mixerMuted")
  let mixerSolo ← jsonReadBool json (ascii "mixerSolo")
  let cameraRedirect ← jsonReadBool json (ascii "cameraRedirect")
  let audioInputRedirect ← jsonReadBool json (ascii "audioInputRedirect")
  .ok fun
    | .name => name
    | .host => host
    | .username => username
    | .password => password
    | .domain => domain
    | .port => port
    | .fps => fps
    | .desktopWidth => desktopWidth
    | .desktopHeight => desktopHeight
    | .desktopScaleFactor => desktopScaleFactor
    | .duckMask => duckMask
    | .mixerGainDb => mixerGainDb
    | .mixerMuted => mixerMuted
    | .mixerSolo => mixerSolo
    | .cameraRedirect => cameraRedirect
    | .audioInputRedirect => audioInputRedirect

/-- A dimension that is set and odd. -/
def isOdd (dimension : Option Nat) : Bool := dimension.any fun pixels => pixels % 2 != 0

/-- What the root object sets in the globals. -/
def parseGlobal (json : List UInt8) : Scan Assignment := do
  let wheelStep ← jsonReadU16 json (ascii "wheelStep") 1 120
  let wheelScrollDivisor ← jsonReadU16 json (ascii "wheelScrollDivisor") 1 120
  let audioCodec ← parseAudioCodec json
  let cameraEnabled ← jsonReadBool json (ascii "cameraEnabled")
  let cameraDeviceId ← jsonReadString json (ascii "cameraDeviceId") stringMax
  let cameraWidth ← jsonReadU16 json (ascii "cameraWidth") cameraMinWidth cameraMaxWidth
  let cameraHeight ← jsonReadU16 json (ascii "cameraHeight") cameraMinHeight cameraMaxHeight
  let cameraFps ← jsonReadU16 json (ascii "cameraFps") 1 cameraMaxFps
  let audioInputEnabled ← jsonReadBool json (ascii "audioInputEnabled")
  let audioInputDeviceId ← jsonReadString json (ascii "audioInputDeviceId") stringMax
  let audioInputGainDb ← jsonReadI16 json (ascii "audioInputGainDb") (-12) 18
  if isOdd cameraWidth || isOdd cameraHeight then .reject
  else
    .ok fun
      | .session _ _ => none
      | .wheelStep => wheelStep
      | .wheelScrollDivisor => wheelScrollDivisor
      | .audioCodec => audioCodec
      | .cameraEnabled => cameraEnabled
      | .cameraDeviceId => cameraDeviceId
      | .cameraWidth => cameraWidth
      | .cameraHeight => cameraHeight
      | .cameraFps => cameraFps
      | .audioInputEnabled => audioInputEnabled
      | .audioInputDeviceId => audioInputDeviceId
      | .audioInputGainDb => audioInputGainDb

/-! ## Reading documents -/

/-- What the entries of the sessions array set; a later entry is laid over an earlier one. -/
def parseSessionsArray (json : List UInt8) : Nat → Nat → Scan Assignment
  | 0, _ => .fault
  | fuel + 1, index => do
    let entry ← findSessionObject json index
    match entry with
    | none => .ok Layer.empty
    | some (start, len) => do
      let slot ← sessionSlotFromObject (start.take len) index
      match slot with
      | none => parseSessionsArray json fuel (index + 1)
      | some slot => do
        let session ← parseSession (start.take len)
        let later ← parseSessionsArray json fuel (index + 1)
        .ok (later.above (sessionAssignment slot session))

def parseDocument (json : List UInt8) : Scan Assignment := do
  let valid ← validateObject json
  if valid = false then .reject
  else
    match findValue json sessionsKey with
    | .fault => .fault
    | .ok p =>
      if peek p ≠ openBracket then .reject
      else do
        let sessions ← parseSessionsArray json (json.length + 1) 0
        let globals ← parseGlobal json
        .ok (globals.above sessions)
    | .reject => do
      let green ← parseSession json
      let globals ← parseGlobal json
      .ok (globals.above (sessionAssignment slotGreen green))

/-! ## Fields over a model -/

section Fields

variable {α : Type}

theorem applyField_eq (result : Scan (Option α)) (current : α) :
    applyField result current = result >>= fun value => .ok (value.getD current) := rfl

/-- A check of the merged value is one of the value that was read, if what it is merged into
passes. -/
theorem checked_merged (accepts : α → Bool) (result : Scan (Option α)) {current : α}
    (h : accepts current = true) :
    (applyField result current >>= fun value =>
      if accepts value = false then .reject else .ok value) =
        applyField (checked accepts result) current := by
  unfold applyField checked
  cases result with
  | ok read =>
    cases read with
    | none => simp [h]
    | some a => cases haccepts : accepts a <;> simp [haccepts]
  | reject => rfl
  | fault => rfl

theorem applySessionName_eq (json current : List UInt8) :
    applySessionName json current = applyField (parseSessionName json) current := by
  unfold applySessionName parseSessionName
  cases findValue json (ascii "name") with
  | reject => rfl
  | fault => rfl
  | ok p =>
    dsimp only
    split <;> rfl

theorem applyMixerGain_eq (json : List UInt8) {current : Int}
    (h : current.tmod mixerStepDb = 0) :
    applyMixerGain json current = applyField (parseMixerGain json) current := by
  refine Eq.trans ?_ (checked_merged (fun gain : Int => decide (gain.tmod mixerStepDb = 0))
    _ (decide_eq_true h))
  simp only [decide_eq_false_iff_not]
  rfl

theorem applyDesktopScale_eq (json : List UInt8) {current : Nat}
    (h : desktopScaleValid current = true) :
    applyDesktopScale json current = applyField (parseDesktopScale json) current :=
  checked_merged desktopScaleValid _ h

theorem applyAudioCodec_eq (json : List UInt8) (current : AudioCodec) :
    applyAudioCodec json current = applyField (parseAudioCodec json) current := by
  unfold applyAudioCodec applyField parseAudioCodec
  rw [bind_bind]
  congr 1
  funext codec
  cases codec with
  | none => rfl
  | some codec =>
    dsimp only
    split
    · rfl
    · split <;> rfl

end Fields

theorem applySessionJson_eq (json : List UInt8) {session : NativeSessionConfig}
    (h : session.InRange) :
    applySessionJson session json =
      parseSession json >>= fun layer => .ok (session.overwrite layer) := by
  unfold applySessionJson parseSession
  rw [applyDesktopScale_eq json h.desktopScaleFactor, applyMixerGain_eq json h.mixerStep,
    applySessionName_eq]
  simp only [applyJsonString, applyJsonU16, applyJsonBool, applyField_eq, bind_bind,
    Scan.ok_bind]
  rfl

theorem applyGlobalJson_eq (json : List UInt8) {settings : NativeSettings} (h : settings.InRange) :
    applyGlobalJson settings json =
      parseGlobal json >>= fun layer => .ok (settings.overwrite layer) := by
  have heven (width height : Option Nat) :
      (width.getD settings.cameraWidth % 2 ≠ 0 ∨ height.getD settings.cameraHeight % 2 ≠ 0) ↔
        (isOdd width || isOdd height) = true := by
    obtain ⟨hwidth, hheight⟩ := h.cameraEven
    cases width <;> cases height <;> simp [isOdd, hwidth, hheight]
  unfold applyGlobalJson parseGlobal
  simp only [applyAudioCodec_eq, applyJsonString, applyJsonU16, applyJsonI16, applyJsonBool,
    applyField_eq, bind_bind, Scan.ok_bind, guard_bind, heven]
  rfl

theorem applySessionsArray_eq (json : List UInt8) (fuel index : Nat) {settings : NativeSettings}
    (h : settings.InRange) :
    applySessionsArray json fuel index settings =
      parseSessionsArray json fuel index >>= fun layer => .ok (settings.overwrite layer) := by
  induction fuel generalizing index settings with
  | zero => rfl
  | succ fuel ih =>
    unfold applySessionsArray parseSessionsArray
    rw [bind_bind]
    congr 1
    funext entry
    cases entry with
    | none =>
      show Scan.ok settings = Scan.ok (settings.overwrite Layer.empty)
      rw [NativeSettings.overwrite_empty]
    | some entry =>
      dsimp only
      rw [bind_bind]
      congr 1
      funext slot
      cases slot with
      | none => exact ih (index + 1) h
      | some slot =>
        dsimp only
        have hsession := applySessionJson_eq (entry.1.take entry.2) (h.sessions slot)
        rw [hsession, bind_bind, bind_bind]
        cases hparsed : parseSession (entry.1.take entry.2) with
        | reject => rfl
        | fault => rfl
        | ok session =>
          rw [hparsed, Scan.ok_bind] at hsession
          have hrange :
              (settings.setSession slot ((settings.sessions slot).overwrite session)).InRange :=
            NativeSettings.setSession_inRange h
              (applySessionJson_inRange (h.sessions slot) hsession)
          simp only [Scan.ok_bind, bind_bind, ih (index + 1) hrange,
            NativeSettings.overwrite_above, overwrite_session]

/-- **Applying a document is overwriting with what it assigns**, over any model in range. -/
theorem applyJson_eq (json : List UInt8) {settings : NativeSettings} (h : settings.InRange) :
    applyJson settings json =
      parseDocument json >>= fun layer => .ok (settings.overwrite layer) := by
  unfold applyJson parseDocument
  rw [bind_bind]
  congr 1
  funext valid
  split
  · rfl
  · cases findValue json sessionsKey with
    | fault => rfl
    | ok p =>
      dsimp only
      split
      · rfl
      · have hsessions := applySessionsArray_eq json (json.length + 1) 0 h
        rw [hsessions, bind_bind, bind_bind]
        cases hparsed : parseSessionsArray json (json.length + 1) 0 with
        | reject => rfl
        | fault => rfl
        | ok sessions =>
          rw [hparsed, Scan.ok_bind] at hsessions
          simp only [Scan.ok_bind, bind_bind, NativeSettings.overwrite_above,
            applyGlobalJson_eq json (applySessionsArray_inRange h hsessions)]
    | reject =>
      have hgreen := applySessionJson_eq json (h.sessions slotGreen)
      dsimp only
      rw [hgreen, bind_bind, bind_bind]
      cases hparsed : parseSession json with
      | reject => rfl
      | fault => rfl
      | ok green =>
        rw [hparsed, Scan.ok_bind] at hgreen
        have hrange : (settings.setSession slotGreen
            ((settings.sessions slotGreen).overwrite green)).InRange :=
          NativeSettings.setSession_inRange h
            (applySessionJson_inRange (h.sessions slotGreen) hgreen)
        simp only [Scan.ok_bind, bind_bind, NativeSettings.overwrite_above, overwrite_session,
          applyGlobalJson_eq json hrange]

end Lgnome.Settings
