import Lgnome.Layers.Record
import Lgnome.Settings.Model

/-!
# The fields of the model

The settings as a record: every field of every profile and every global, with
the type of its values. A layer over these fields is a partial assignment.
-/
namespace Lgnome.Settings

open Lgnome.Layers

inductive SessionField where
  | name
  | host
  | username
  | password
  | domain
  | port
  | fps
  | desktopWidth
  | desktopHeight
  | desktopScaleFactor
  | duckMask
  | mixerGainDb
  | mixerMuted
  | mixerSolo
  | cameraRedirect
  | audioInputRedirect
  deriving DecidableEq, Repr

def SessionField.Value : SessionField → Type
  | .name | .host | .username | .password | .domain => List UInt8
  | .port | .fps | .desktopWidth | .desktopHeight | .desktopScaleFactor | .duckMask => Nat
  | .mixerGainDb => Int
  | .mixerMuted | .mixerSolo | .cameraRedirect | .audioInputRedirect => Bool

inductive Field where
  | session (slot : SlotIndex) (field : SessionField)
  | wheelStep
  | wheelScrollDivisor
  | audioCodec
  | cameraEnabled
  | cameraDeviceId
  | cameraWidth
  | cameraHeight
  | cameraFps
  | audioInputEnabled
  | audioInputDeviceId
  | audioInputGainDb
  deriving DecidableEq, Repr

def Field.Value : Field → Type
  | .session _ field => field.Value
  | .wheelStep | .wheelScrollDivisor | .cameraWidth | .cameraHeight | .cameraFps => Nat
  | .audioCodec => AudioCodec
  | .cameraEnabled | .audioInputEnabled => Bool
  | .cameraDeviceId | .audioInputDeviceId => List UInt8
  | .audioInputGainDb => Int

instance : (field : SessionField) → DecidableEq field.Value
  | .name | .host | .username | .password | .domain => inferInstanceAs (DecidableEq (List UInt8))
  | .port | .fps | .desktopWidth | .desktopHeight | .desktopScaleFactor | .duckMask =>
    inferInstanceAs (DecidableEq Nat)
  | .mixerGainDb => inferInstanceAs (DecidableEq Int)
  | .mixerMuted | .mixerSolo | .cameraRedirect | .audioInputRedirect =>
    inferInstanceAs (DecidableEq Bool)

instance : (field : Field) → DecidableEq field.Value
  | .session _ field => inferInstanceAs (DecidableEq field.Value)
  | .wheelStep | .wheelScrollDivisor | .cameraWidth | .cameraHeight | .cameraFps =>
    inferInstanceAs (DecidableEq Nat)
  | .audioCodec => inferInstanceAs (DecidableEq AudioCodec)
  | .cameraEnabled | .audioInputEnabled => inferInstanceAs (DecidableEq Bool)
  | .cameraDeviceId | .audioInputDeviceId => inferInstanceAs (DecidableEq (List UInt8))
  | .audioInputGainDb => inferInstanceAs (DecidableEq Int)

abbrev SessionLayer := Layer SessionField.Value

/-- A partial assignment of the settings' fields. -/
abbrev Assignment := Layer Field.Value

/-! ## Profiles -/

namespace NativeSessionConfig

def get (c : NativeSessionConfig) : Record SessionField.Value
  | .name => c.name
  | .host => c.host
  | .username => c.username
  | .password => c.password
  | .domain => c.domain
  | .port => c.port
  | .fps => c.fps
  | .desktopWidth => c.desktopWidth
  | .desktopHeight => c.desktopHeight
  | .desktopScaleFactor => c.desktopScaleFactor
  | .duckMask => c.duckMask
  | .mixerGainDb => c.mixerGainDb
  | .mixerMuted => c.mixerMuted
  | .mixerSolo => c.mixerSolo
  | .cameraRedirect => c.cameraRedirect
  | .audioInputRedirect => c.audioInputRedirect

/-- The profile with the fields that the layer sets. -/
def overwrite (c : NativeSessionConfig) (l : SessionLayer) : NativeSessionConfig where
  name := (l .name).getD c.name
  host := (l .host).getD c.host
  username := (l .username).getD c.username
  password := (l .password).getD c.password
  domain := (l .domain).getD c.domain
  port := (l .port).getD c.port
  fps := (l .fps).getD c.fps
  desktopWidth := (l .desktopWidth).getD c.desktopWidth
  desktopHeight := (l .desktopHeight).getD c.desktopHeight
  desktopScaleFactor := (l .desktopScaleFactor).getD c.desktopScaleFactor
  duckMask := (l .duckMask).getD c.duckMask
  mixerGainDb := (l .mixerGainDb).getD c.mixerGainDb
  mixerMuted := (l .mixerMuted).getD c.mixerMuted
  mixerSolo := (l .mixerSolo).getD c.mixerSolo
  cameraRedirect := (l .cameraRedirect).getD c.cameraRedirect
  audioInputRedirect := (l .audioInputRedirect).getD c.audioInputRedirect

theorem get_overwrite (c : NativeSessionConfig) (l : SessionLayer) :
    (c.overwrite l).get = l.on c.get := by
  funext field
  cases field <;> rfl

/-- The fields are all there is to a profile. -/
theorem get_injective {c d : NativeSessionConfig} (h : c.get = d.get) : c = d := by
  have hall (field : SessionField) : c.get field = d.get field := congrFun h field
  cases c
  cases d
  congr
  · exact hall .name
  · exact hall .host
  · exact hall .username
  · exact hall .password
  · exact hall .domain
  · exact hall .port
  · exact hall .fps
  · exact hall .desktopWidth
  · exact hall .desktopHeight
  · exact hall .desktopScaleFactor
  · exact hall .duckMask
  · exact hall .mixerGainDb
  · exact hall .mixerMuted
  · exact hall .mixerSolo
  · exact hall .cameraRedirect
  · exact hall .audioInputRedirect

end NativeSessionConfig

/-! ## Settings -/

namespace NativeSettings

def get (s : NativeSettings) : Record Field.Value
  | .session slot field => (s.sessions slot).get field
  | .wheelStep => s.wheelStep
  | .wheelScrollDivisor => s.wheelScrollDivisor
  | .audioCodec => s.audioCodec
  | .cameraEnabled => s.cameraEnabled
  | .cameraDeviceId => s.cameraDeviceId
  | .cameraWidth => s.cameraWidth
  | .cameraHeight => s.cameraHeight
  | .cameraFps => s.cameraFps
  | .audioInputEnabled => s.audioInputEnabled
  | .audioInputDeviceId => s.audioInputDeviceId
  | .audioInputGainDb => s.audioInputGainDb

/-- The model with the fields that the assignment sets. -/
def overwrite (s : NativeSettings) (l : Assignment) : NativeSettings where
  sessions slot := (s.sessions slot).overwrite fun field => l (.session slot field)
  wheelStep := (l .wheelStep).getD s.wheelStep
  wheelScrollDivisor := (l .wheelScrollDivisor).getD s.wheelScrollDivisor
  audioCodec := (l .audioCodec).getD s.audioCodec
  cameraEnabled := (l .cameraEnabled).getD s.cameraEnabled
  cameraDeviceId := (l .cameraDeviceId).getD s.cameraDeviceId
  cameraWidth := (l .cameraWidth).getD s.cameraWidth
  cameraHeight := (l .cameraHeight).getD s.cameraHeight
  cameraFps := (l .cameraFps).getD s.cameraFps
  audioInputEnabled := (l .audioInputEnabled).getD s.audioInputEnabled
  audioInputDeviceId := (l .audioInputDeviceId).getD s.audioInputDeviceId
  audioInputGainDb := (l .audioInputGainDb).getD s.audioInputGainDb

theorem get_overwrite (s : NativeSettings) (l : Assignment) :
    (s.overwrite l).get = l.on s.get := by
  funext field
  cases field with
  | session slot field =>
    exact congrFun ((s.sessions slot).get_overwrite fun field => l (.session slot field)) field
  | _ => rfl

/-- The fields are all there is to a model. -/
theorem get_injective {s t : NativeSettings} (h : s.get = t.get) : s = t := by
  have hall (field : Field) : s.get field = t.get field := congrFun h field
  cases s
  cases t
  congr
  · funext slot
    exact NativeSessionConfig.get_injective (funext fun field => hall (.session slot field))
  · exact hall .wheelStep
  · exact hall .wheelScrollDivisor
  · exact hall .audioCodec
  · exact hall .cameraEnabled
  · exact hall .cameraDeviceId
  · exact hall .cameraWidth
  · exact hall .cameraHeight
  · exact hall .cameraFps
  · exact hall .audioInputEnabled
  · exact hall .audioInputDeviceId
  · exact hall .audioInputGainDb

theorem overwrite_above (s : NativeSettings) (upper lower : Assignment) :
    s.overwrite (upper.above lower) = (s.overwrite lower).overwrite upper := by
  apply get_injective
  rw [get_overwrite, get_overwrite, get_overwrite, Layer.above_on]

@[simp] theorem overwrite_empty (s : NativeSettings) : s.overwrite Layer.empty = s := by
  apply get_injective
  rw [get_overwrite, Layer.empty_on]

end NativeSettings

/-- A profile's layer as an assignment of the whole model. -/
def sessionAssignment (slot : SlotIndex) (l : SessionLayer) : Assignment
  | .session other field => if other = slot then l field else none
  | _ => none

theorem overwrite_session (s : NativeSettings) (slot : SlotIndex) (l : SessionLayer) :
    s.overwrite (sessionAssignment slot l) =
      s.setSession slot ((s.sessions slot).overwrite l) := by
  apply NativeSettings.get_injective
  rw [NativeSettings.get_overwrite]
  funext field
  cases field with
  | session other field =>
    show (if other = slot then l field else none).getD ((s.sessions other).get field) =
      ((s.setSession slot ((s.sessions slot).overwrite l)).sessions other).get field
    by_cases hslot : other = slot
    · subst hslot
      rw [if_pos rfl, NativeSettings.setSession_same, NativeSessionConfig.get_overwrite]
      rfl
    · rw [if_neg hslot, NativeSettings.setSession_other s hslot]
      rfl
  | _ => rfl

end Lgnome.Settings
