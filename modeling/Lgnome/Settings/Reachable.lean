import Lgnome.Settings.Cli
import Lgnome.Settings.Mixer
import Lgnome.Settings.RoundTrip

/-!
# Every model the program makes survives its file

Documents, command lines and mixer edits, in any order, keep the model in the
loader's ranges. What is in range is written, fits the file, and is read back.
-/
namespace Lgnome.Settings

open Lgnome.Bytes Lgnome.Json

/-- One step of the model's life. The application starts by copying the mixer's part. -/
inductive ModelStep (ulongMax : Nat) : MixerApp → MixerApp → Prop
  | document {a : MixerApp} {updated : NativeSettings} (json : CString) :
      applyJson a.settings json.bytes = .ok updated →
      ModelStep ulongMax a { a with settings := updated }
  | cli {a : MixerApp} {updated : NativeSettings} (argv : List CString) :
      applyCli ulongMax a.settings (argv.map CString.bytes) = some updated →
      ModelStep ulongMax a { a with settings := updated }
  | start (a : MixerApp) : ModelStep ulongMax a a.start
  | edit (a : MixerApp) (e : MixerEdit) : ModelStep ulongMax a (a.edit e)

inductive ModelRun (ulongMax : Nat) : MixerApp → Prop
  | defaults : ModelRun ulongMax { mixer := .zero, settings := .defaults }
  | step {a a' : MixerApp} : ModelRun ulongMax a → ModelStep ulongMax a a' → ModelRun ulongMax a'

/-- A model that comes from the defaults. -/
def ReachableSettings (ulongMax : Nat) (s : NativeSettings) : Prop :=
  ∃ a, ModelRun ulongMax a ∧ a.settings = s

theorem ModelStep.inRange {ulongMax : Nat} {a a' : MixerApp} (h : a.InRange)
    (hstep : ModelStep ulongMax a a') : a'.InRange := by
  cases hstep with
  | document json hjson => exact { h with settings := applyJson_inRange h.settings hjson }
  | cli argv hcli =>
    have hargv : ∀ arg ∈ argv.map CString.bytes, 0 ∉ arg := by
      intro arg harg
      obtain ⟨text, -, rfl⟩ := List.mem_map.mp harg
      exact text.terminated
    exact { h with settings := applyCli_inRange hargv h.settings hcli }
  | start => exact h.start
  | edit e => exact h.edit e

theorem ModelRun.inRange {ulongMax : Nat} {a : MixerApp} (h : ModelRun ulongMax a) :
    a.InRange := by
  induction h with
  | defaults =>
    have hzero : GainInRange 0 := by
      unfold GainInRange
      decide
    exact ⟨NativeSettings.defaults_inRange, fun _ => hzero, fun _ => Nat.zero_le _⟩
  | step _ hstep ih => exact hstep.inRange ih

/-- A reachable model's document fits the file and, laid over any model, gives it back. -/
theorem settings_round_trip {ulongMax : Nat} {settings : NativeSettings}
    (h : ReachableSettings ulongMax settings) (current : NativeSettings) :
    applyJson current (writeJson settings) = .ok settings ∧
      (writeJson settings).length ≤ maxFile := by
  obtain ⟨a, hrun, rfl⟩ := h
  have hrange := hrun.inRange.settings
  exact ⟨applyJson_written hrange current, writeJson_length hrange⟩

/-- A muted green profile over the defaults. -/
theorem settings_round_trip_muted :
    let app : MixerApp := { mixer := .zero, settings := .defaults }
    applyJson .defaults (writeJson (app.toggleMute slotGreen).settings) =
        .ok (app.toggleMute slotGreen).settings ∧
      (writeJson (app.toggleMute slotGreen).settings).length ≤ maxFile := by
  have hdefaults : ModelRun 4294967295 { mixer := .zero, settings := .defaults } := .defaults
  have hmuted := ModelRun.step hdefaults (.edit _ (.mute slotGreen))
  exact settings_round_trip ⟨_, hmuted, rfl⟩ .defaults

end Lgnome.Settings
