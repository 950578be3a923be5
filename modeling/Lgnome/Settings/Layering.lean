import Lgnome.Settings.Durability
import Lgnome.Settings.Launch

/-!
# Where a setting comes from at startup

`main` lays the layers twice around the persisted file: the configuration file,
the launch arguments and the flags, then what was saved, then an explicit file,
the arguments and the flags again. In the end every field has the value of the
strongest layer that sets it.
-/
namespace Lgnome.Settings

open Lgnome.Bytes Lgnome.Json Lgnome.Layers

/-! ## Startup -/

/-- `native_settings_apply_json`: whether it succeeds, and the settings it leaves. -/
def settingsApplyJson (settings : NativeSettings) (json : List UInt8) : Bool × NativeSettings :=
  match applyJson settings json with
  | .ok updated => (true, updated)
  | _ => (false, settings)

def accepted {α : Type} : Scan α → Option α
  | .ok a => some a
  | _ => none

/-- `native_config_launch_json_bool_enabled`. A nested text is shorter than its document. -/
def launchJsonBoolEnabled : Nat → List UInt8 → List UInt8 → Bool
  | 0, _, _ => false
  | depth + 1, json, name =>
    if peek json ≠ openBrace then false
    else if jsonReadBool json name = .ok (some true) then true
    else
      [ascii "params", ascii "launchParams"].any fun key =>
        match jsonReadString json key maxFile with
        | .ok (some nested) => launchJsonBoolEnabled depth (skipWs nested) name
        | _ => false

/-- `native_config_launch_ignores_saved_config` -/
def launchIgnoresSavedConfig (argv : List (List UInt8)) : Bool :=
  argv.any fun argument =>
    launchJsonBoolEnabled (argument.length + 1) (skipWs argument) (ascii "ignoreSavedConfig")

/-- `native_arg_exists` -/
def argExists (name : List UInt8) (argv : List (List UInt8)) : Bool :=
  argv.any fun arg => arg = name || (name ++ [equalsSign]).isPrefixOf arg

/-- `NATIVE_CONFIG_PATH` -/
def defaultConfigPath : List UInt8 := ascii "native/config.local.json"

def configPath (argv : List (List UInt8)) : List UInt8 :=
  (argValue (ascii "--config") argv).getD defaultConfigPath

/-- What `main` is started in: the files by their paths, the candidates for saved settings, and
whether `LGNOME_IGNORE_SAVED_CONFIG` is set. -/
structure Surroundings where
  ulongMax : Nat
  files : List UInt8 → Candidate
  candidates : List Candidate
  ignoreSavedConfig : Bool

/-- `native_config_load_file` -/
def loadFile (settings : NativeSettings) (file : Candidate) (required : Bool) :
    Option NativeSettings :=
  match file.readFile false with
  | .failed => none
  | .missing => if required then none else some settings
  | .text json => accepted (applyJson settings json)

/-- The second load of `main`, of an explicit file only. -/
def reloadFile (settings : NativeSettings) (file : Candidate) (required : Bool) :
    Option NativeSettings :=
  if required then loadFile settings file required else some settings

/-- The settings that `main` comes to; the arguments are those behind the program's name. -/
def startup (w : Surroundings) (arguments : List CString) : Option NativeSettings :=
  let argv := arguments.map CString.bytes
  let file := w.files (configPath argv)
  let required := argExists (ascii "--config") argv
  let ignore := launchIgnoresSavedConfig argv || w.ignoreSavedConfig
  if validateCli argv = false then none
  else do
    let settings ← loadFile .defaults file required
    let settings ← accepted (applyLaunchParams settings argv)
    let settings ← applyCli w.ulongMax settings argv
    let settings := (loadPersisted settings ignore w.candidates).1.2
    let settings ← reloadFile settings file required
    let settings ← accepted (applyLaunchParams settings argv)
    applyCli w.ulongMax settings argv

/-! ## Sources -/

def fileAssignment (file : Candidate) : Assignment :=
  match file.readFile false with
  | .text json => documentAssignment json
  | _ => Layer.empty

/-- What a candidate for saved settings assigns, if it is one to load. -/
def persistedDocument (c : Candidate) : Option Assignment :=
  match c.trusted.1, c.trusted.2.readFile (!c.trusted.2.fromEnv) with
  | true, .text json => accepted (parseDocument json)
  | _, _ => none

/-- The first loadable candidate's assignment. -/
def persistedAssignment (ignore : Bool) (candidates : List Candidate) : Assignment :=
  if ignore then Layer.empty else (candidates.findSome? persistedDocument).getD Layer.empty

def cliAssignment (ulongMax : Nat) (argv : List (List UInt8)) : Assignment :=
  (parseCli ulongMax argv).getD Layer.empty

/-- The sources of a setting, the strongest first. -/
def sources (w : Surroundings) (arguments : List CString) : List Assignment :=
  let argv := arguments.map CString.bytes
  let file := fileAssignment (w.files (configPath argv))
  let persisted :=
    persistedAssignment (launchIgnoresSavedConfig argv || w.ignoreSavedConfig) w.candidates
  cliAssignment w.ulongMax argv :: ((launchLayers argv).reverse ++
    if argExists (ascii "--config") argv then [file, persisted] else [persisted, file])

/-! ## Every layer is laid over the model -/

variable {s t : NativeSettings}

theorem accepted_ok {α : Type} {x : Scan α} {a : α} (h : accepted x = some a) : x = .ok a := by
  cases x with
  | ok b => exact congrArg Scan.ok (Option.some.inj h)
  | reject => cases h
  | fault => cases h

theorem settingsApplyJson_eq (json : List UInt8) (hs : s.InRange) :
    settingsApplyJson s json =
      match parseDocument json with
      | .ok layer => (true, s.overwrite layer)
      | _ => (false, s) := by
  unfold settingsApplyJson
  rw [applyJson_eq json hs]
  cases parseDocument json <;> rfl

theorem loadFile_laid {file : Candidate} {required : Bool} (hs : s.InRange)
    (h : loadFile s file required = some t) : Laid [fileAssignment file] s t := by
  unfold loadFile at h
  unfold fileAssignment
  cases hread : file.readFile false with
  | failed =>
    rw [hread] at h
    cases h
  | missing =>
    rw [hread] at h
    dsimp only at h
    split at h
    · cases h
    · obtain rfl := Option.some.inj h
      exact .empty hs
  | text json =>
    rw [hread] at h
    exact documentAssignment_of hs (accepted_ok h)

theorem reloadFile_laid {file : Candidate} {required : Bool} (hs : s.InRange)
    (h : reloadFile s file required = some t) :
    Laid (if required then [fileAssignment file] else []) s t := by
  unfold reloadFile at h
  cases required with
  | true => exact loadFile_laid hs h
  | false =>
    obtain rfl := Option.some.inj h
    exact .nil hs

theorem applyCli_laid {ulongMax : Nat} {arguments : List CString} (hs : s.InRange)
    (h : applyCli ulongMax s (arguments.map CString.bytes) = some t) :
    Laid [cliAssignment ulongMax (arguments.map CString.bytes)] s t := by
  have hargv : ∀ arg ∈ arguments.map CString.bytes, 0 ∉ arg := by
    intro arg harg
    obtain ⟨text, -, rfl⟩ := List.mem_map.mp harg
    exact text.terminated
  refine ⟨applyCli_inRange hargv hs h, ?_⟩
  rw [applyCli_eq] at h
  obtain ⟨layer, hlayer, rfl⟩ := Option.map_eq_some_iff.mp h
  unfold cliAssignment
  rw [hlayer, NativeSettings.get_overwrite]
  rfl

/-- A candidate loads or not whatever it is loaded over. -/
theorem view_document (c : Candidate) (hs : s.InRange) :
    c.view s = (persistedDocument c).map s.overwrite := by
  unfold Candidate.view persistedDocument Candidate.tryLoad
  cases c.trusted.1 with
  | false => rfl
  | true =>
    cases c.trusted.2.readFile (!c.trusted.2.fromEnv) with
    | missing => rfl
    | failed => rfl
    | text json =>
      dsimp only
      rw [applyJson_eq json hs]
      cases parseDocument json <;> rfl

theorem findSome_view (candidates : List Candidate) (hs : s.InRange) :
    (candidates.findSome? fun c => c.view s) =
      (candidates.findSome? persistedDocument).map s.overwrite := by
  induction candidates with
  | nil => rfl
  | cons c rest ih =>
    rw [List.findSome?_cons, List.findSome?_cons, view_document c hs]
    cases persistedDocument c with
    | none => exact ih
    | some layer => rfl

theorem persistedDocument_parsed {c : Candidate} {layer : Assignment}
    (h : persistedDocument c = some layer) : ∃ json, parseDocument json = .ok layer := by
  unfold persistedDocument at h
  split at h
  next json _ _ => exact ⟨json, accepted_ok h⟩
  next => cases h

theorem loadPersisted_laid (ignore : Bool) (candidates : List Candidate) (hs : s.InRange) :
    Laid [persistedAssignment ignore candidates] s (loadPersisted s ignore candidates).1.2 := by
  unfold persistedAssignment
  cases ignore with
  | true => exact .empty hs
  | false =>
    have hload : (loadPersisted s false candidates).1.2 =
        (candidates.findSome? fun c => c.view s).getD s := loadCandidates_eq s candidates
    rw [hload, findSome_view candidates hs, if_neg (by decide)]
    cases hfirst : candidates.findSome? persistedDocument with
    | none => exact .empty hs
    | some layer =>
      obtain ⟨c, -, hc⟩ := List.exists_of_findSome?_eq_some hfirst
      obtain ⟨json, hjson⟩ := persistedDocument_parsed hc
      have happlied : applyJson s json = .ok (s.overwrite layer) := by
        rw [applyJson_eq json hs, hjson, Scan.ok_bind]
      refine ⟨applyJson_inRange hs happlied, ?_⟩
      exact NativeSettings.get_overwrite s layer

/-- The layers of a startup in the order in which they are laid. -/
theorem startup_laid {w : Surroundings} {arguments : List CString} {final : NativeSettings}
    (h : startup w arguments = some final) :
    let argv := arguments.map CString.bytes
    let file := [fileAssignment (w.files (configPath argv))]
    let again := launchLayers argv ++ [cliAssignment w.ulongMax argv]
    let persisted :=
      [persistedAssignment (launchIgnoresSavedConfig argv || w.ignoreSavedConfig) w.candidates]
    Laid (file ++ (again ++ (persisted ++
      ((if argExists (ascii "--config") argv then file else []) ++ again)))) .defaults final := by
  intro argv file again persisted
  unfold startup at h
  dsimp only at h
  split at h
  · cases h
  · obtain ⟨loaded, hloaded, h⟩ := Option.bind_eq_some_iff.mp h
    obtain ⟨launched, hlaunched, h⟩ := Option.bind_eq_some_iff.mp h
    obtain ⟨flagged, hflagged, h⟩ := Option.bind_eq_some_iff.mp h
    obtain ⟨reloaded, hreloaded, h⟩ := Option.bind_eq_some_iff.mp h
    obtain ⟨relaunched, hrelaunched, h⟩ := Option.bind_eq_some_iff.mp h
    have hfile := loadFile_laid NativeSettings.defaults_inRange hloaded
    have hlaunch := applyLaunchParams_laid hfile.inRange (accepted_ok hlaunched)
    have hcli := applyCli_laid hlaunch.inRange hflagged
    have hpersisted := loadPersisted_laid
      (launchIgnoresSavedConfig argv || w.ignoreSavedConfig) w.candidates hcli.inRange
    have hrefile := reloadFile_laid hpersisted.inRange hreloaded
    have hrelaunch := applyLaunchParams_laid hrefile.inRange (accepted_ok hrelaunched)
    have hrecli := applyCli_laid hrelaunch.inRange h
    exact hfile.append ((hlaunch.append hcli).append
      (hpersisted.append (hrefile.append (hrelaunch.append hrecli))))

/-- Laying everything twice around the saved settings comes to laying each source once. -/
theorem startup_fields {w : Surroundings} {arguments : List CString} {final : NativeSettings}
    (h : startup w arguments = some final) (field : Field) :
    final.get field = ((sources w arguments).findSome? fun layer => layer field).getD
      (NativeSettings.defaults.get field) := by
  have hlaid := startup_laid h
  dsimp only at hlaid
  rw [hlaid.fields]
  unfold sources
  dsimp only
  generalize fileAssignment (w.files (configPath (arguments.map CString.bytes))) = file
  generalize persistedAssignment _ w.candidates = persisted
  generalize cliAssignment w.ulongMax (arguments.map CString.bytes) = flags
  generalize launchLayers (arguments.map CString.bytes) = launch
  cases argExists (ascii "--config") (arguments.map CString.bytes) with
  | true =>
    -- the explicit file, the arguments and the flags are all laid a second time
    have hagain := stack_again ([file] ++ (launch ++ [flags])) [persisted]
      NativeSettings.defaults.get
    rw [if_pos rfl, if_pos rfl]
    simp only [List.append_assoc] at hagain ⊢
    rw [hagain, stack_apply]
    simp
  | false =>
    -- the default file is laid once, below what was saved
    rw [if_neg (by decide), if_neg (by decide), List.nil_append, stack_append, stack_again,
      ← stack_append, stack_apply]
    simp

/-- A document is one assignment for every model or is refused by every model, and every field
of a startup has the value of the strongest source that sets it. -/
theorem configuration_layering (json : List UInt8) (w : Surroundings)
    (arguments : List CString) :
    ((∃ layer : Assignment,
        (∀ s : NativeSettings, s.InRange → settingsApplyJson s json = (true, s.overwrite layer) ∧
          (s.overwrite layer).get = layer.on s.get) ∧
        (jsonHasRdpKey json = .ok false → layer = Layer.empty)) ∨
      ∀ s : NativeSettings, s.InRange → settingsApplyJson s json = (false, s)) ∧
    ∀ final, startup w arguments = some final → ∀ field,
      final.get field = ((sources w arguments).findSome? fun layer => layer field).getD
        (NativeSettings.defaults.get field) := by
  refine ⟨?_, fun final h field => startup_fields h field⟩
  cases hparsed : parseDocument json with
  | ok layer =>
    refine .inl ⟨layer, fun s hs => ⟨?_, NativeSettings.get_overwrite s layer⟩,
      fun h => parseDocument_unrecognised h hparsed⟩
    rw [settingsApplyJson_eq json hs, hparsed]
  | reject => exact .inr fun s hs => by rw [settingsApplyJson_eq json hs, hparsed]
  | fault => exact .inr fun s hs => by rw [settingsApplyJson_eq json hs, hparsed]

/-- A private settings file that can be read. -/
def readable (file : FileState) : Candidate where
  fromEnv := false
  dir := .directory true false
  file := file
  temporary := false
  failing := []
  housed := FileState.housed_of_directory

/-- No configuration file, and saved settings for one session. -/
def savedSession : Surroundings where
  ulongMax := 2 ^ 32 - 1
  files := fun _ => readable .absent
  candidates := [readable (.regular
    (ascii "\x7b\"sessions\":[\x7b\"slot\":\"green\",\"port\":7,\"host\":\"h\"\x7d]\x7d") true)]
  ignoreSavedConfig := false

def portArgument : CString where
  bytes := ascii "\x7b\"port\":5000,\"fps\":24\x7d"
  terminated := by decide

def fpsFlag : List CString := [⟨ascii "--fps", by decide⟩, ⟨ascii "30", by decide⟩]

def layeredSession : NativeSessionConfig :=
  { NativeSettings.defaults.sessions slotGreen with
    port := 5000
    fps := 30
    host := ascii "h" }

/-- The port of a launch argument, the frame rate of a flag, the saved host and a default. -/
theorem configuration_layering_savedSession :
    (∃ layer : Assignment, settingsApplyJson .defaults portArgument.bytes =
      (true, NativeSettings.defaults.overwrite layer)) ∧
    ∃ final, startup savedSession (portArgument :: fpsFlag) = some final ∧
      ∀ field ∈ [Field.session slotGreen .port, .session slotGreen .fps, .session slotGreen .host,
          .wheelStep],
        final.get field =
          (NativeSettings.defaults.setSession slotGreen layeredSession).get field := by
  have hsome : (startup savedSession (portArgument :: fpsFlag)).isSome := by decide +kernel
  obtain ⟨final, hfinal⟩ := Option.isSome_iff_exists.mp hsome
  obtain ⟨hdocument, hstartup⟩ :=
    configuration_layering portArgument.bytes savedSession (portArgument :: fpsFlag)
  refine ⟨?_, final, hfinal, ?_⟩
  · obtain ⟨layer, hlayer, -⟩ | hrefused := hdocument
    · exact ⟨layer, (hlayer .defaults NativeSettings.defaults_inRange).1⟩
    · have hok : (settingsApplyJson .defaults portArgument.bytes).1 = true := by decide +kernel
      rw [hrefused .defaults NativeSettings.defaults_inRange] at hok
      cases hok
  · intro field hfield
    rw [hstartup final hfinal]
    revert field
    decide +kernel

end Lgnome.Settings
