import Mathlib.Data.List.Basic

/-!
# The settings model

Four session profiles and the globals they share, as they are kept in memory,
edited and persisted. A string field is the bytes in front of its terminator.
-/
namespace Lgnome.Settings

/-- The bytes of a text of the source. -/
def ascii (s : String) : List UInt8 := s.toUTF8.data.toList

def stringMax : Nat := 512
def maxSessions : Nat := 4

/-- One of the remote's four colour buttons. -/
abbrev SlotIndex := Fin maxSessions

def slotRed : SlotIndex := ⟨0, by decide⟩
def slotGreen : SlotIndex := ⟨1, by decide⟩
def slotYellow : SlotIndex := ⟨2, by decide⟩
def slotBlue : SlotIndex := ⟨3, by decide⟩

def sessionSlotName (slot : Nat) : List UInt8 :=
  match slot with
  | 0 => ascii "red"
  | 1 => ascii "green"
  | 2 => ascii "yellow"
  | 3 => ascii "blue"
  | _ => ascii "?"

def duckMaskAll : Nat := (1 <<< maxSessions) - 1
def mixerStepDb : Int := 3
def mixerMinDb : Int := -60
def mixerMaxDb : Int := 6
def desktopMinWidth : Nat := 640
def desktopMinHeight : Nat := 480
def desktopMaxWidth : Nat := 3840
def desktopMaxHeight : Nat := 2160
def cameraMinWidth : Nat := 640
def cameraMaxWidth : Nat := 1920
def cameraMinHeight : Nat := 480
def cameraMaxHeight : Nat := 1080
def cameraMaxFps : Nat := 30
def portMax : Nat := 65535

inductive AudioCodec where
  | auto
  | pcm
  deriving DecidableEq, Repr

structure NativeSessionConfig where
  name : List UInt8 := []
  host : List UInt8 := []
  username : List UInt8 := []
  password : List UInt8 := []
  domain : List UInt8 := []
  port : Nat
  fps : Nat
  desktopWidth : Nat
  desktopHeight : Nat
  desktopScaleFactor : Nat
  duckMask : Nat := 0
  mixerGainDb : Int := 0
  mixerMuted : Bool := false
  mixerSolo : Bool := false
  cameraRedirect : Bool := false
  audioInputRedirect : Bool := false
  deriving DecidableEq, Repr

structure NativeSettings where
  sessions : SlotIndex → NativeSessionConfig
  wheelStep : Nat
  wheelScrollDivisor : Nat
  audioCodec : AudioCodec
  cameraEnabled : Bool := false
  cameraDeviceId : List UInt8 := []
  cameraWidth : Nat
  cameraHeight : Nat
  cameraFps : Nat
  audioInputEnabled : Bool := false
  audioInputDeviceId : List UInt8 := []
  audioInputGainDb : Int

def sessionConfigDefaults : NativeSessionConfig where
  port := 3389
  fps := 60
  desktopWidth := 3840
  desktopHeight := 2160
  desktopScaleFactor := 100

def desktopScaleValid (scale : Nat) : Bool := scale == 100 || scale == 150 || scale == 200

namespace NativeSettings

def setSession (s : NativeSettings) (slot : SlotIndex) (config : NativeSessionConfig) :
    NativeSettings :=
  { s with sessions := Function.update s.sessions slot config }

@[simp] theorem setSession_same (s : NativeSettings) (slot : SlotIndex)
    (config : NativeSessionConfig) : (s.setSession slot config).sessions slot = config := by
  unfold setSession
  exact Function.update_self slot config s.sessions

theorem setSession_other (s : NativeSettings) {slot other : SlotIndex} (h : other ≠ slot)
    (config : NativeSessionConfig) :
    (s.setSession slot config).sessions other = s.sessions other := by
  unfold setSession
  exact Function.update_of_ne h config s.sessions

def defaults : NativeSettings where
  sessions := Function.update (fun _ => sessionConfigDefaults) slotGreen
    { sessionConfigDefaults with host := ascii "127.0.0.1" }
  wheelStep := 60
  wheelScrollDivisor := 1
  audioCodec := .auto
  cameraWidth := 640
  cameraHeight := 480
  cameraFps := 15
  audioInputGainDb := 0

end NativeSettings

/-! ## Ranges -/

/-- A string that its buffer holds. -/
structure Fits (bytes : List UInt8) : Prop where
  short : bytes.length < stringMax
  terminated : 0 ∉ bytes

/-- The ranges the loader asks of a profile. -/
structure NativeSessionConfig.InRange (c : NativeSessionConfig) : Prop where
  name : Fits c.name
  host : Fits c.host
  username : Fits c.username
  password : Fits c.password
  domain : Fits c.domain
  port : 1 ≤ c.port ∧ c.port ≤ portMax
  fps : 1 ≤ c.fps ∧ c.fps ≤ 240
  desktopWidth : desktopMinWidth ≤ c.desktopWidth ∧ c.desktopWidth ≤ desktopMaxWidth
  desktopHeight : desktopMinHeight ≤ c.desktopHeight ∧ c.desktopHeight ≤ desktopMaxHeight
  desktopScaleFactor : desktopScaleValid c.desktopScaleFactor = true
  duckMask : c.duckMask ≤ duckMaskAll
  mixerGainDb : mixerMinDb ≤ c.mixerGainDb ∧ c.mixerGainDb ≤ mixerMaxDb
  mixerStep : c.mixerGainDb.tmod mixerStepDb = 0

/-- The ranges the loader asks of the model. -/
structure NativeSettings.InRange (s : NativeSettings) : Prop where
  sessions : ∀ slot, (s.sessions slot).InRange
  wheelStep : 1 ≤ s.wheelStep ∧ s.wheelStep ≤ 120
  wheelScrollDivisor : 1 ≤ s.wheelScrollDivisor ∧ s.wheelScrollDivisor ≤ 120
  cameraDeviceId : Fits s.cameraDeviceId
  cameraWidth : cameraMinWidth ≤ s.cameraWidth ∧ s.cameraWidth ≤ cameraMaxWidth
  cameraHeight : cameraMinHeight ≤ s.cameraHeight ∧ s.cameraHeight ≤ cameraMaxHeight
  cameraEven : s.cameraWidth % 2 = 0 ∧ s.cameraHeight % 2 = 0
  cameraFps : 1 ≤ s.cameraFps ∧ s.cameraFps ≤ cameraMaxFps
  audioInputDeviceId : Fits s.audioInputDeviceId
  audioInputGainDb : -12 ≤ s.audioInputGainDb ∧ s.audioInputGainDb ≤ 18

theorem fits_nil : Fits [] := ⟨by decide, nofun⟩

theorem sessionConfigDefaults_inRange : sessionConfigDefaults.InRange := by
  constructor
  case name => exact fits_nil
  case host => exact fits_nil
  case username => exact fits_nil
  case password => exact fits_nil
  case domain => exact fits_nil
  all_goals decide

theorem NativeSettings.setSession_inRange {s : NativeSettings} (h : s.InRange) {slot : SlotIndex}
    {config : NativeSessionConfig} (hconfig : config.InRange) :
    (s.setSession slot config).InRange := by
  refine { h with sessions := fun other => ?_ }
  by_cases hslot : other = slot
  · rw [hslot, setSession_same]
    exact hconfig
  · rw [setSession_other s hslot]
    exact h.sessions other

theorem NativeSettings.defaults_inRange : NativeSettings.defaults.InRange := by
  constructor
  case sessions =>
    intro slot
    have hhost : Fits (ascii "127.0.0.1") := ⟨by decide, by decide⟩
    have hgreen : ({ sessionConfigDefaults with host := ascii "127.0.0.1" } :
        NativeSessionConfig).InRange := { sessionConfigDefaults_inRange with host := hhost }
    by_cases hslot : slot = slotGreen
    · subst hslot
      exact hgreen
    · have hother : NativeSettings.defaults.sessions slot = sessionConfigDefaults := by
        show Function.update (fun _ => sessionConfigDefaults) slotGreen _ slot = _
        rw [Function.update_of_ne hslot]
      rw [hother]
      exact sessionConfigDefaults_inRange
  case cameraDeviceId => exact fits_nil
  case audioInputDeviceId => exact fits_nil
  all_goals decide

end Lgnome.Settings
