import Lgnome.Json.Fields
import Lgnome.Json.Sessions
import Lgnome.Settings.Model

/-!
# Applying a document

A document is laid over the model: an absent field keeps its value, an unknown
field is ignored, and one bad value refuses the whole document.
-/
namespace Lgnome.Settings

open Lgnome.Bytes Lgnome.Json

/-! ## Fields -/

/-- The common part of the setters. -/
def applyField {α : Type} (result : Scan (Option α)) (current : α) : Scan α := do
  let value ← result
  .ok (value.getD current)

def applyJsonString (json key current : List UInt8) : Scan (List UInt8) :=
  applyField (jsonReadString json key stringMax) current

def applyJsonU16 (json key : List UInt8) (minValue maxValue current : Nat) : Scan Nat :=
  applyField (jsonReadU16 json key minValue maxValue) current

def applyJsonI16 (json key : List UInt8) (minValue maxValue current : Int) : Scan Int :=
  applyField (jsonReadI16 json key minValue maxValue) current

def applyJsonBool (json key : List UInt8) (current : Bool) : Scan Bool :=
  applyField (jsonReadBool json key) current

/-- A name that is not a string is ignored. -/
def applySessionName (json current : List UInt8) : Scan (List UInt8) :=
  match findValue json (ascii "name") with
  | .reject => .ok current
  | .fault => .fault
  | .ok p => if peek p ≠ quote then .ok current else applyJsonString json (ascii "name") current

def applyMixerGain (json : List UInt8) (current : Int) : Scan Int := do
  let gain ← applyJsonI16 json (ascii "mixerGainDb") mixerMinDb mixerMaxDb current
  if gain.tmod mixerStepDb ≠ 0 then .reject else .ok gain

def applyDesktopScale (json : List UInt8) (current : Nat) : Scan Nat := do
  let scale ← applyJsonU16 json (ascii "desktopScaleFactor") 100 200 current
  if desktopScaleValid scale = false then .reject else .ok scale

def applySessionJson (session : NativeSessionConfig) (json : List UInt8) :
    Scan NativeSessionConfig := do
  let name ← applySessionName json session.name
  let desktopScaleFactor ← applyDesktopScale json session.desktopScaleFactor
  let host ← applyJsonString json (ascii "host") session.host
  let username ← applyJsonString json (ascii "username") session.username
  let password ← applyJsonString json (ascii "password") session.password
  let domain ← applyJsonString json (ascii "domain") session.domain
  let port ← applyJsonU16 json (ascii "port") 1 portMax session.port
  let fps ← applyJsonU16 json (ascii "fps") 1 240 session.fps
  let desktopWidth ← applyJsonU16 json (ascii "desktopWidth") desktopMinWidth desktopMaxWidth
    session.desktopWidth
  let desktopHeight ← applyJsonU16 json (ascii "desktopHeight") desktopMinHeight desktopMaxHeight
    session.desktopHeight
  let duckMask ← applyJsonU16 json (ascii "duckTriggers") 0 duckMaskAll session.duckMask
  let mixerGainDb ← applyMixerGain json session.mixerGainDb
  let mixerMuted ← applyJsonBool json (ascii "mixerMuted") session.mixerMuted
  let mixerSolo ← applyJsonBool json (ascii "mixerSolo") session.mixerSolo
  let cameraRedirect ← applyJsonBool json (ascii "cameraRedirect") session.cameraRedirect
  let audioInputRedirect ←
    applyJsonBool json (ascii "audioInputRedirect") session.audioInputRedirect
  .ok { name, host, username, password, domain, port, fps, desktopWidth, desktopHeight,
        desktopScaleFactor, duckMask, mixerGainDb, mixerMuted, mixerSolo, cameraRedirect,
        audioInputRedirect }

def applyAudioCodec (json : List UInt8) (current : AudioCodec) : Scan AudioCodec := do
  let codec ← jsonReadString json (ascii "audioCodec") 16
  match codec with
  | none => .ok current
  | some codec =>
    if codec = ascii "auto" ∨ codec = ascii "opus" then .ok .auto
    else if codec = ascii "pcm" then .ok .pcm
    else .reject

def applyGlobalJson (settings : NativeSettings) (json : List UInt8) : Scan NativeSettings := do
  let wheelStep ← applyJsonU16 json (ascii "wheelStep") 1 120 settings.wheelStep
  let wheelScrollDivisor ←
    applyJsonU16 json (ascii "wheelScrollDivisor") 1 120 settings.wheelScrollDivisor
  let audioCodec ← applyAudioCodec json settings.audioCodec
  let cameraEnabled ← applyJsonBool json (ascii "cameraEnabled") settings.cameraEnabled
  let cameraDeviceId ← applyJsonString json (ascii "cameraDeviceId") settings.cameraDeviceId
  let cameraWidth ←
    applyJsonU16 json (ascii "cameraWidth") cameraMinWidth cameraMaxWidth settings.cameraWidth
  let cameraHeight ←
    applyJsonU16 json (ascii "cameraHeight") cameraMinHeight cameraMaxHeight settings.cameraHeight
  let cameraFps ← applyJsonU16 json (ascii "cameraFps") 1 cameraMaxFps settings.cameraFps
  let audioInputEnabled ←
    applyJsonBool json (ascii "audioInputEnabled") settings.audioInputEnabled
  let audioInputDeviceId ←
    applyJsonString json (ascii "audioInputDeviceId") settings.audioInputDeviceId
  let audioInputGainDb ←
    applyJsonI16 json (ascii "audioInputGainDb") (-12) 18 settings.audioInputGainDb
  if cameraWidth % 2 ≠ 0 ∨ cameraHeight % 2 ≠ 0 then .reject
  else
    .ok { settings with
      wheelStep, wheelScrollDivisor, audioCodec, cameraEnabled, cameraDeviceId, cameraWidth,
      cameraHeight, cameraFps, audioInputEnabled, audioInputDeviceId, audioInputGainDb }

/-! ## Documents -/

def slotNamed (name : List UInt8) : Option SlotIndex :=
  [slotRed, slotGreen, slotYellow, slotBlue].find? fun slot => name = sessionSlotName slot

/-- A slot tag that is unknown or unreadable skips the entry; without a tag the position counts. -/
def sessionSlotFromObject (object : List UInt8) (fallbackIndex : Nat) : Scan (Option SlotIndex) :=
  match jsonReadString object (ascii "slot") 16 with
  | .ok (some name) => .ok (slotNamed name)
  | .ok none => .ok (if h : fallbackIndex < maxSessions then some ⟨fallbackIndex, h⟩ else none)
  | .reject => .ok none
  | .fault => .fault

def applySessionsArray (json : List UInt8) : Nat → Nat → NativeSettings → Scan NativeSettings
  | 0, _, _ => .fault
  | fuel + 1, index, settings => do
    let entry ← findSessionObject json index
    match entry with
    | none => .ok settings
    | some (start, len) => do
      let slot ← sessionSlotFromObject (start.take len) index
      match slot with
      | none => applySessionsArray json fuel (index + 1) settings
      | some slot => do
        let config ← applySessionJson (settings.sessions slot) (start.take len)
        applySessionsArray json fuel (index + 1) (settings.setSession slot config)

def applyJson (settings : NativeSettings) (json : List UInt8) : Scan NativeSettings := do
  let valid ← validateObject json
  if valid = false then .reject
  else
    match findValue json sessionsKey with
    | .fault => .fault
    | .ok p =>
      if peek p ≠ openBracket then .reject
      else do
        let updated ← applySessionsArray json (json.length + 1) 0 settings
        applyGlobalJson updated json
    | .reject => do
      let green ← applySessionJson (settings.sessions slotGreen) json
      applyGlobalJson (settings.setSession slotGreen green) json

/-! ## Accepted values are in range -/

theorem applyField_ok {α : Type} {result : Scan (Option α)} {current : α} {P : α → Prop}
    (hcurrent : P current) (hresult : ∀ r, result = .ok r → ∀ a, r = some a → P a) {value : α}
    (h : applyField result current = .ok value) : P value := by
  obtain ⟨r, hr, h⟩ := Scan.of_bind h
  cases h
  cases r with
  | none => exact hcurrent
  | some a => exact hresult _ hr a rfl

theorem applyJsonString_ok {json key current value : List UInt8} (hcurrent : Fits current)
    (h : applyJsonString json key current = .ok value) : Fits value := by
  refine applyField_ok hcurrent (fun r hr => jsonRead_ok (fun p a ha => ?_) hr) h
  obtain ⟨hshort, hzero⟩ := stringAt_ok ha
  exact ⟨hshort, hzero⟩

theorem applyJsonU16_ok {json key : List UInt8} {minValue maxValue current value : Nat}
    (hcurrent : minValue ≤ current ∧ current ≤ maxValue)
    (h : applyJsonU16 json key minValue maxValue current = .ok value) :
    minValue ≤ value ∧ value ≤ maxValue :=
  applyField_ok (P := fun v => minValue ≤ v ∧ v ≤ maxValue) hcurrent
    (fun _ hr => jsonRead_ok (fun _ _ ha => u16At_ok ha) hr) h

theorem applyJsonI16_ok {json key : List UInt8} {minValue maxValue current value : Int}
    (hcurrent : minValue ≤ current ∧ current ≤ maxValue)
    (h : applyJsonI16 json key minValue maxValue current = .ok value) :
    minValue ≤ value ∧ value ≤ maxValue :=
  applyField_ok (P := fun v => minValue ≤ v ∧ v ≤ maxValue) hcurrent
    (fun _ hr => jsonRead_ok (fun _ _ ha => i16At_ok ha) hr) h

theorem applySessionName_ok {json current value : List UInt8} (hcurrent : Fits current)
    (h : applySessionName json current = .ok value) : Fits value := by
  unfold applySessionName at h
  split at h
  · cases h
    exact hcurrent
  · cases h
  · split at h
    · cases h
      exact hcurrent
    · exact applyJsonString_ok hcurrent h

theorem applyMixerGain_ok {json : List UInt8} {current value : Int}
    (hcurrent : mixerMinDb ≤ current ∧ current ≤ mixerMaxDb)
    (h : applyMixerGain json current = .ok value) :
    (mixerMinDb ≤ value ∧ value ≤ mixerMaxDb) ∧ value.tmod mixerStepDb = 0 := by
  obtain ⟨gain, hgain, h⟩ := Scan.of_bind h
  split at h
  · cases h
  · rename_i hstep
    cases h
    exact ⟨applyJsonI16_ok hcurrent hgain, Decidable.not_not.mp hstep⟩

theorem applyDesktopScale_ok {json : List UInt8} {current value : Nat}
    (h : applyDesktopScale json current = .ok value) : desktopScaleValid value = true := by
  obtain ⟨scale, -, h⟩ := Scan.of_bind h
  split at h
  · cases h
  · rename_i hvalid
    cases h
    exact Bool.eq_true_of_not_eq_false hvalid

theorem applySessionJson_inRange {session config : NativeSessionConfig} {json : List UInt8}
    (hs : session.InRange) (h : applySessionJson session json = .ok config) : config.InRange := by
  obtain ⟨name, hname, h⟩ := Scan.of_bind h
  obtain ⟨scale, hscale, h⟩ := Scan.of_bind h
  obtain ⟨host, hhost, h⟩ := Scan.of_bind h
  obtain ⟨username, husername, h⟩ := Scan.of_bind h
  obtain ⟨password, hpassword, h⟩ := Scan.of_bind h
  obtain ⟨domain, hdomain, h⟩ := Scan.of_bind h
  obtain ⟨port, hport, h⟩ := Scan.of_bind h
  obtain ⟨fps, hfps, h⟩ := Scan.of_bind h
  obtain ⟨width, hwidth, h⟩ := Scan.of_bind h
  obtain ⟨height, hheight, h⟩ := Scan.of_bind h
  obtain ⟨duck, hduck, h⟩ := Scan.of_bind h
  obtain ⟨gain, hgain, h⟩ := Scan.of_bind h
  obtain ⟨muted, -, h⟩ := Scan.of_bind h
  obtain ⟨solo, -, h⟩ := Scan.of_bind h
  obtain ⟨camera, -, h⟩ := Scan.of_bind h
  obtain ⟨audio, -, h⟩ := Scan.of_bind h
  cases h
  obtain ⟨hgainRange, hgainStep⟩ := applyMixerGain_ok hs.mixerGainDb hgain
  exact {
    name := applySessionName_ok hs.name hname
    host := applyJsonString_ok hs.host hhost
    username := applyJsonString_ok hs.username husername
    password := applyJsonString_ok hs.password hpassword
    domain := applyJsonString_ok hs.domain hdomain
    port := applyJsonU16_ok hs.port hport
    fps := applyJsonU16_ok hs.fps hfps
    desktopWidth := applyJsonU16_ok hs.desktopWidth hwidth
    desktopHeight := applyJsonU16_ok hs.desktopHeight hheight
    desktopScaleFactor := applyDesktopScale_ok hscale
    duckMask := (applyJsonU16_ok ⟨Nat.zero_le _, hs.duckMask⟩ hduck).2
    mixerGainDb := hgainRange
    mixerStep := hgainStep }

theorem applyGlobalJson_inRange {settings updated : NativeSettings} {json : List UInt8}
    (hs : settings.InRange) (h : applyGlobalJson settings json = .ok updated) :
    updated.InRange := by
  obtain ⟨wheel, hwheel, h⟩ := Scan.of_bind h
  obtain ⟨divisor, hdivisor, h⟩ := Scan.of_bind h
  obtain ⟨codec, -, h⟩ := Scan.of_bind h
  obtain ⟨camera, -, h⟩ := Scan.of_bind h
  obtain ⟨device, hdevice, h⟩ := Scan.of_bind h
  obtain ⟨width, hwidth, h⟩ := Scan.of_bind h
  obtain ⟨height, hheight, h⟩ := Scan.of_bind h
  obtain ⟨fps, hfps, h⟩ := Scan.of_bind h
  obtain ⟨audio, -, h⟩ := Scan.of_bind h
  obtain ⟨audioDevice, haudioDevice, h⟩ := Scan.of_bind h
  obtain ⟨gain, hgain, h⟩ := Scan.of_bind h
  split at h
  · cases h
  · rename_i hodd
    have heven : width % 2 = 0 ∧ height % 2 = 0 := by omega
    cases h
    exact {
      sessions := hs.sessions
      wheelStep := applyJsonU16_ok hs.wheelStep hwheel
      wheelScrollDivisor := applyJsonU16_ok hs.wheelScrollDivisor hdivisor
      cameraDeviceId := applyJsonString_ok hs.cameraDeviceId hdevice
      cameraWidth := applyJsonU16_ok hs.cameraWidth hwidth
      cameraHeight := applyJsonU16_ok hs.cameraHeight hheight
      cameraEven := heven
      cameraFps := applyJsonU16_ok hs.cameraFps hfps
      audioInputDeviceId := applyJsonString_ok hs.audioInputDeviceId haudioDevice
      audioInputGainDb := applyJsonI16_ok hs.audioInputGainDb hgain }

theorem applySessionsArray_inRange {json : List UInt8} {fuel index : Nat}
    {settings updated : NativeSettings} (hs : settings.InRange)
    (h : applySessionsArray json fuel index settings = .ok updated) : updated.InRange := by
  induction fuel generalizing index settings with
  | zero => cases h
  | succ fuel ih =>
    obtain ⟨entry, -, h⟩ := Scan.of_bind h
    cases entry with
    | none =>
      cases h
      exact hs
    | some entry =>
      obtain ⟨slot, -, h⟩ := Scan.of_bind h
      cases slot with
      | none => exact ih hs h
      | some slot =>
        obtain ⟨config, hconfig, h⟩ := Scan.of_bind h
        exact ih (NativeSettings.setSession_inRange hs
          (applySessionJson_inRange (hs.sessions slot) hconfig)) h

/-- An accepted document leaves the model in the loader's ranges. -/
theorem applyJson_inRange {settings updated : NativeSettings} {json : List UInt8}
    (hs : settings.InRange) (h : applyJson settings json = .ok updated) : updated.InRange := by
  obtain ⟨valid, -, h⟩ := Scan.of_bind h
  split at h
  · cases h
  · split at h
    · cases h
    · split at h
      · cases h
      · obtain ⟨sessions, hsessions, h⟩ := Scan.of_bind h
        exact applyGlobalJson_inRange (applySessionsArray_inRange hs hsessions) h
    · obtain ⟨green, hgreen, h⟩ := Scan.of_bind h
      exact applyGlobalJson_inRange (NativeSettings.setSession_inRange hs
        (applySessionJson_inRange (hs.sessions slotGreen) hgreen)) h

end Lgnome.Settings
