import Lgnome.Settings.Cli
import Lgnome.Settings.Document
import Lgnome.Settings.Write

/-!
# Launch arguments and the command line

`native_config_launch.c`: every argument that is a JSON object may carry settings,
directly or as text under `params` and `launchParams`; the flat flags come last.
Each of them lays known assignments over the model.
-/
namespace Lgnome.Settings

open Lgnome.Bytes Lgnome.Json Lgnome.Layers

/-! ## Recognised keys -/

/-- The key list of `native_settings_json_has_rdp_key`. -/
def rdpKeys : List (List UInt8) :=
  [sessionsKey, ascii "host", ascii "username", ascii "password", ascii "domain", ascii "port",
    ascii "fps", ascii "desktopWidth", ascii "desktopHeight", ascii "desktopScaleFactor",
    ascii "wheelStep", ascii "wheelScrollDivisor", ascii "audioCodec", ascii "duckTriggers",
    ascii "mixerGainDb", ascii "mixerMuted", ascii "mixerSolo", ascii "cameraEnabled",
    ascii "cameraDeviceId", ascii "cameraWidth", ascii "cameraHeight", ascii "cameraFps",
    ascii "cameraRedirect", ascii "audioInputEnabled", ascii "audioInputDeviceId",
    ascii "audioInputGainDb", ascii "audioInputRedirect"]

example : sessionsKey = ascii "sessions" := by decide

/-- Whether one of the keys is there, and behind them a name that is a string. -/
def hasAnyKey (json : List UInt8) : List (List UInt8) → Scan Bool
  | [] =>
    match findValue json (ascii "name") with
    | .ok name => .ok (peek name == quote)
    | .reject => .ok false
    | .fault => .fault
  | key :: rest =>
    match findValue json key with
    | .ok _ => .ok true
    | .reject => hasAnyKey json rest
    | .fault => .fault

/-- `native_settings_json_has_rdp_key` -/
def jsonHasRdpKey (json : List UInt8) : Scan Bool := hasAnyKey json rdpKeys

theorem hasAnyKey_false {json : List UInt8} {keys : List (List UInt8)}
    (h : hasAnyKey json keys = .ok false) :
    (∀ key ∈ keys, findValue json key = .reject) ∧ parseSessionName json = .ok none := by
  induction keys with
  | nil =>
    refine ⟨fun key hmem => absurd hmem List.not_mem_nil, ?_⟩
    unfold hasAnyKey at h
    unfold parseSessionName
    cases hname : findValue json (ascii "name") with
    | reject => rfl
    | fault =>
      rw [hname] at h
      cases h
    | ok p =>
      rw [hname] at h
      have hquote : ¬peek p = quote := beq_eq_false_iff_ne.mp (Scan.ok.inj h)
      exact if_pos hquote
  | cons key rest ih =>
    unfold hasAnyKey at h
    cases hfound : findValue json key with
    | ok p =>
      rw [hfound] at h
      cases h
    | fault =>
      rw [hfound] at h
      cases h
    | reject =>
      rw [hfound] at h
      obtain ⟨hrest, hname⟩ := ih h
      refine ⟨fun other hother => ?_, hname⟩
      rcases List.mem_cons.mp hother with rfl | hother
      · exact hfound
      · exact hrest other hother

theorem jsonRead_absent {α : Type} {read : List UInt8 → Scan α} {json key : List UInt8}
    (h : findValue json key = .reject) : jsonRead read json key = .ok none := by
  unfold jsonRead
  rw [h]

/-- The list of keys covers the fields: without one of them nothing is assigned. -/
theorem parseDocument_unrecognised {json : List UInt8} {layer : Assignment}
    (h : jsonHasRdpKey json = .ok false) (hparsed : parseDocument json = .ok layer) :
    layer = Layer.empty := by
  obtain ⟨hkeys, hname⟩ := hasAnyKey_false h
  have habsent {α : Type} {read : List UInt8 → Scan α} (key : List UInt8) (hkey : key ∈ rdpKeys) :
      jsonRead read json key = .ok none := jsonRead_absent (hkeys key hkey)
  have hsession : parseSession json = .ok Layer.empty := by
    unfold parseSession parseDesktopScale parseMixerGain checked
    simp (disch := decide) only [hname, jsonReadString, jsonReadU16, jsonReadI16,
      jsonReadBool, habsent, Scan.ok_bind]
    congr 1
    funext field
    cases field <;> rfl
  have hglobal : parseGlobal json = .ok Layer.empty := by
    unfold parseGlobal parseAudioCodec
    simp (disch := decide) only [jsonReadString, jsonReadU16, jsonReadI16, jsonReadBool,
      habsent, Scan.ok_bind]
    rw [if_neg (by decide)]
    congr 1
    funext field
    cases field <;> rfl
  obtain ⟨valid, -, hparsed⟩ := Scan.of_bind hparsed
  split at hparsed
  · cases hparsed
  · rw [hkeys sessionsKey List.mem_cons_self, hsession, hglobal] at hparsed
    rw [← Scan.ok.inj hparsed]
    funext field
    cases field with
    | session slot field =>
      show (if slot = slotGreen then none else none) = none
      split <;> rfl
    | _ => rfl

/-! ## Launch arguments -/

/-- The assignment of a document; one that is refused has none. -/
def documentAssignment (json : List UInt8) : Assignment :=
  match parseDocument json with
  | .ok layer => layer
  | _ => Layer.empty

/-- `native_config_apply_json_if_present` -/
def applyJsonIfPresent (settings : NativeSettings) (json : List UInt8) : Scan NativeSettings := do
  let present ← jsonHasRdpKey json
  if present then applyJson settings json else .ok settings

/-- `native_config_apply_launch_json_string` -/
def applyLaunchJsonString (settings : NativeSettings) (json key : List UInt8) :
    Scan NativeSettings :=
  match findValue json key with
  | .reject => .ok settings
  | .fault => .fault
  | .ok value =>
    if peek (skipWs value) ≠ quote then .ok settings
    else do
      let nested ← jsonReadString json key maxFile
      match nested with
      | none => .ok settings
      | some nested =>
        if peek (skipWs nested) ≠ openBrace then .ok settings
        else applyJsonIfPresent settings (skipWs nested)

/-- One round of `native_config_apply_launch_params`. -/
def applyLaunchArgument (settings : NativeSettings) (argument : List UInt8) :
    Scan NativeSettings :=
  let params := skipWs argument
  if peek params ≠ openBrace then .ok settings
  else do
    let settings ← applyJsonIfPresent settings params
    let settings ← applyLaunchJsonString settings params (ascii "params")
    applyLaunchJsonString settings params (ascii "launchParams")

/-- `native_config_apply_launch_params` -/
def applyLaunchParams (settings : NativeSettings) : List (List UInt8) → Scan NativeSettings
  | [] => .ok settings
  | argument :: rest => do
    let settings ← applyLaunchArgument settings argument
    applyLaunchParams settings rest

/-- The document that an argument carries as text under a key. -/
def nestedDocument (json key : List UInt8) : List (List UInt8) :=
  match findValue json key with
  | .ok value =>
    if peek (skipWs value) ≠ quote then []
    else
      match jsonReadString json key maxFile with
      | .ok (some nested) => if peek (skipWs nested) ≠ openBrace then [] else [skipWs nested]
      | _ => []
  | _ => []

/-- The documents of an argument, the strongest last. -/
def launchDocuments (argument : List UInt8) : List (List UInt8) :=
  let params := skipWs argument
  if peek params ≠ openBrace then []
  else params :: (nestedDocument params (ascii "params") ++
    nestedDocument params (ascii "launchParams"))

/-- The assignments of the documents of all arguments, the strongest last. -/
def launchLayers (arguments : List (List UInt8)) : List Assignment :=
  (arguments.flatMap launchDocuments).map documentAssignment

/-! ## Layers over a model -/

/-- The model is in range and is the one before with the layers laid over it. -/
structure Laid (layers : List Assignment) (s t : NativeSettings) : Prop where
  inRange : t.InRange
  fields : t.get = stack layers s.get

variable {s t u : NativeSettings}

theorem Laid.nil (h : s.InRange) : Laid [] s s := ⟨h, rfl⟩

theorem Laid.append {lower upper : List Assignment} (h : Laid lower s t) (h' : Laid upper t u) :
    Laid (lower ++ upper) s u where
  inRange := h'.inRange
  fields := by rw [stack_append, ← h.fields, h'.fields]

/-- A layer that sets nothing. -/
theorem Laid.empty (h : s.InRange) : Laid [Layer.empty] s s := ⟨h, rfl⟩

theorem documentAssignment_of {json : List UInt8} (hs : s.InRange)
    (h : applyJson s json = .ok t) : Laid [documentAssignment json] s t := by
  refine ⟨applyJson_inRange hs h, ?_⟩
  rw [applyJson_eq json hs] at h
  obtain ⟨layer, hlayer, h⟩ := Scan.of_bind h
  obtain rfl := Scan.ok.inj h
  unfold documentAssignment
  rw [hlayer, NativeSettings.get_overwrite]
  rfl

theorem documentAssignment_unrecognised {json : List UInt8}
    (h : jsonHasRdpKey json = .ok false) : documentAssignment json = Layer.empty := by
  unfold documentAssignment
  cases hparsed : parseDocument json with
  | ok layer => exact parseDocument_unrecognised h hparsed
  | reject => rfl
  | fault => rfl

theorem applyJsonIfPresent_laid {json : List UInt8} (hs : s.InRange)
    (h : applyJsonIfPresent s json = .ok t) : Laid [documentAssignment json] s t := by
  obtain ⟨present, hpresent, h⟩ := Scan.of_bind h
  cases present with
  | true => exact documentAssignment_of hs h
  | false =>
    obtain rfl := Scan.ok.inj h
    rw [documentAssignment_unrecognised hpresent]
    exact .empty hs

theorem applyLaunchJsonString_laid {json key : List UInt8} (hs : s.InRange)
    (h : applyLaunchJsonString s json key = .ok t) :
    Laid ((nestedDocument json key).map documentAssignment) s t := by
  unfold applyLaunchJsonString at h
  unfold nestedDocument
  cases hfound : findValue json key with
  | reject =>
    rw [hfound] at h
    obtain rfl := Scan.ok.inj h
    exact .nil hs
  | fault =>
    rw [hfound] at h
    cases h
  | ok value =>
    rw [hfound] at h
    dsimp only at h ⊢
    split at h
    next hquote =>
      obtain rfl := Scan.ok.inj h
      rw [if_pos hquote]
      exact .nil hs
    next hquote =>
      obtain ⟨nested, hnested, h⟩ := Scan.of_bind h
      rw [if_neg hquote, hnested]
      cases nested with
      | none =>
        obtain rfl := Scan.ok.inj h
        exact .nil hs
      | some nested =>
        dsimp only at h ⊢
        split at h
        next hbrace =>
          obtain rfl := Scan.ok.inj h
          rw [if_pos hbrace]
          exact .nil hs
        next hbrace =>
          rw [if_neg hbrace]
          exact applyJsonIfPresent_laid hs h

theorem applyLaunchArgument_laid {argument : List UInt8} (hs : s.InRange)
    (h : applyLaunchArgument s argument = .ok t) :
    Laid ((launchDocuments argument).map documentAssignment) s t := by
  unfold applyLaunchArgument at h
  unfold launchDocuments
  dsimp only at h ⊢
  split at h
  next hbrace =>
    rw [if_pos hbrace]
    obtain rfl := Scan.ok.inj h
    exact .nil hs
  next hbrace =>
    rw [if_neg hbrace]
    obtain ⟨top, htop, h⟩ := Scan.of_bind h
    obtain ⟨params, hparams, h⟩ := Scan.of_bind h
    have hfirst := applyJsonIfPresent_laid hs htop
    have hsecond := applyLaunchJsonString_laid hfirst.inRange hparams
    have hthird := applyLaunchJsonString_laid hsecond.inRange h
    rw [List.map_cons, List.map_append]
    exact hfirst.append (hsecond.append hthird)

theorem applyLaunchParams_laid {arguments : List (List UInt8)} (hs : s.InRange)
    (h : applyLaunchParams s arguments = .ok t) : Laid (launchLayers arguments) s t := by
  induction arguments generalizing s with
  | nil =>
    obtain rfl := Scan.ok.inj h
    exact .nil hs
  | cons argument rest ih =>
    obtain ⟨next, hnext, h⟩ := Scan.of_bind h
    have hfirst := applyLaunchArgument_laid hs hnext
    have hrest := ih hfirst.inRange h
    unfold launchLayers at hrest ⊢
    rw [List.flatMap_cons, List.map_append]
    exact hfirst.append hrest

/-! ## The command line -/

def parseCliString (argv : List (List UInt8)) (name : List UInt8) :
    Option (Option (List UInt8)) :=
  match argValue name argv with
  | none => some none
  | some value => (copyConfigString value).map some

def parseCliU16 (ulongMax : Nat) (argv : List (List UInt8)) (name : List UInt8)
    (minValue maxValue : Nat) : Option (Option Nat) :=
  match argValue name argv with
  | none => some none
  | some value => (parseU16Text ulongMax value minValue maxValue).map some

def parseCliAudioCodec (argv : List (List UInt8)) : Option (Option AudioCodec) :=
  match argValue (ascii "--audio-codec") argv with
  | none => some none
  | some value =>
    if value = ascii "auto" ∨ value = ascii "opus" then some (some .auto)
    else if value = ascii "pcm" then some (some .pcm)
    else none

/-- The flags of the green profile; `--username` counts before `--user`. -/
def cliSession (host user username password domain : Option (List UInt8))
    (port fps : Option Nat) : SessionLayer
  | .host => host
  | .username => username.or user
  | .password => password
  | .domain => domain
  | .port => port
  | .fps => fps
  | _ => none

def cliGlobals (wheelStep wheelScrollDivisor : Option Nat) (audioCodec : Option AudioCodec) :
    Assignment
  | .wheelStep => wheelStep
  | .wheelScrollDivisor => wheelScrollDivisor
  | .audioCodec => audioCodec
  | _ => none

/-- What the flags set. -/
def parseCli (ulongMax : Nat) (argv : List (List UInt8)) : Option Assignment :=
  if validateCli argv = false then none
  else do
    let host ← parseCliString argv (ascii "--host")
    let user ← parseCliString argv (ascii "--user")
    let username ← parseCliString argv (ascii "--username")
    let password ← parseCliString argv (ascii "--password")
    let domain ← parseCliString argv (ascii "--domain")
    let port ← parseCliU16 ulongMax argv (ascii "--port") 1 portMax
    let fps ← parseCliU16 ulongMax argv (ascii "--fps") 1 240
    let wheelStep ← parseCliU16 ulongMax argv (ascii "--wheel-step") 1 120
    let wheelScrollDivisor ← parseCliU16 ulongMax argv (ascii "--wheel-scroll-divisor") 1 120
    let audioCodec ← parseCliAudioCodec argv
    some ((cliGlobals wheelStep wheelScrollDivisor audioCodec).above
      (sessionAssignment slotGreen (cliSession host user username password domain port fps)))

theorem applyCliString_eq (argv : List (List UInt8)) (name current : List UInt8) :
    applyCliString argv name current =
      (parseCliString argv name).map fun value => value.getD current := by
  unfold applyCliString parseCliString
  cases argValue name argv with
  | none => rfl
  | some value => cases hcopy : copyConfigString value <;> simp [hcopy]

theorem applyCliU16_eq (ulongMax : Nat) (argv : List (List UInt8)) (name : List UInt8)
    (minValue maxValue current : Nat) :
    applyCliU16 ulongMax argv name minValue maxValue current =
      (parseCliU16 ulongMax argv name minValue maxValue).map fun value => value.getD current := by
  unfold applyCliU16 parseCliU16
  cases argValue name argv with
  | none => rfl
  | some value =>
    cases hparsed : parseU16Text ulongMax value minValue maxValue <;> simp [hparsed]

theorem applyCliAudioCodec_eq (argv : List (List UInt8)) (current : AudioCodec) :
    applyCliAudioCodec argv current =
      (parseCliAudioCodec argv).map fun value => value.getD current := by
  unfold applyCliAudioCodec parseCliAudioCodec
  cases argValue (ascii "--audio-codec") argv with
  | none => rfl
  | some value =>
    dsimp only
    split
    · rfl
    · split <;> rfl

/-- The flags lay their values over any model. -/
theorem applyCli_eq (ulongMax : Nat) (argv : List (List UInt8)) (settings : NativeSettings) :
    applyCli ulongMax settings argv = (parseCli ulongMax argv).map settings.overwrite := by
  unfold applyCli parseCli
  split
  · rfl
  · simp only [applyCliString_eq, applyCliU16_eq, applyCliAudioCodec_eq]
    generalize parseCliString argv (ascii "--host") = host
    generalize parseCliString argv (ascii "--user") = user
    generalize parseCliString argv (ascii "--username") = username
    generalize parseCliString argv (ascii "--password") = password
    generalize parseCliString argv (ascii "--domain") = domain
    generalize parseCliU16 ulongMax argv (ascii "--port") 1 portMax = port
    generalize parseCliU16 ulongMax argv (ascii "--fps") 1 240 = fps
    generalize parseCliU16 ulongMax argv (ascii "--wheel-step") 1 120 = wheelStep
    generalize parseCliU16 ulongMax argv (ascii "--wheel-scroll-divisor") 1 120 = divisor
    generalize parseCliAudioCodec argv = audioCodec
    cases host with | none => rfl | some host => ?_
    cases user with | none => rfl | some user => ?_
    cases username with | none => rfl | some username => ?_
    cases password with | none => rfl | some password => ?_
    cases domain with | none => rfl | some domain => ?_
    cases port with | none => rfl | some port => ?_
    cases fps with | none => rfl | some fps => ?_
    cases wheelStep with | none => rfl | some wheelStep => ?_
    cases divisor with | none => rfl | some divisor => ?_
    cases audioCodec with | none => rfl | some audioCodec => ?_
    refine congrArg some ?_
    rw [NativeSettings.overwrite_above, overwrite_session]
    cases username <;> rfl

end Lgnome.Settings
