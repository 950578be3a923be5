import Lgnome.Json.Decimal
import Lgnome.Settings.Model

/-!
# Command-line overrides

Flat flags set the green profile and some globals. A value that does not fit or
does not parse refuses the start.
-/
namespace Lgnome.Settings

open Lgnome.Bytes Lgnome.Json

def equalsSign : UInt8 := 0x3d

def argValue (name : List UInt8) : List (List UInt8) → Option (List UInt8)
  | [] => none
  | arg :: rest =>
    if (name ++ [equalsSign]).isPrefixOf arg then some (arg.drop (name.length + 1))
    else if arg = name then rest.head?
    else argValue name rest

def cliOptions : List (List UInt8) :=
  [ascii "--config", ascii "--connect-slot", ascii "--host", ascii "--user", ascii "--username",
    ascii "--password", ascii "--domain", ascii "--port", ascii "--fps", ascii "--wheel-step",
    ascii "--wheel-scroll-divisor", ascii "--audio-codec"]

/-- Every option that takes a value has one. -/
def validateCli : List (List UInt8) → Bool
  | [] => true
  | arg :: rest =>
    if arg ∈ cliOptions ∧ (rest = [] ∨ (ascii "--").isPrefixOf (rest.headD [])) then false
    else validateCli rest

def copyConfigString (value : List UInt8) : Option (List UInt8) :=
  if stringMax ≤ value.length then none else some value

def isSpace (c : UInt8) : Bool := c == 0x20 || (0x09 ≤ c && c ≤ 0x0d)

/-- `strtoul` of a whole text, with the largest value of an `unsigned long` on this machine. -/
def strtoulText (ulongMax : Nat) (text : List UInt8) : Option Nat :=
  let p := text.dropWhile isSpace
  let negative := peek p == minus
  let digits := if negative || peek p == plus then p.tail else p
  if isDigit (peek digits) = false ∨ digits.dropWhile isDigit ≠ [] then none
  else if ulongMax < digitsValue 0 digits then none
  else if negative then some ((ulongMax + 1 - digitsValue 0 digits) % (ulongMax + 1))
  else some (digitsValue 0 digits)

def parseU16Text (ulongMax : Nat) (text : List UInt8) (minValue maxValue : Nat) : Option Nat :=
  (strtoulText ulongMax text).bind fun value =>
    if value < minValue ∨ maxValue < value then none else some value

def applyCliString (argv : List (List UInt8)) (name current : List UInt8) : Option (List UInt8) :=
  match argValue name argv with
  | none => some current
  | some value => copyConfigString value

def applyCliU16 (ulongMax : Nat) (argv : List (List UInt8)) (name : List UInt8)
    (minValue maxValue current : Nat) : Option Nat :=
  match argValue name argv with
  | none => some current
  | some value => parseU16Text ulongMax value minValue maxValue

def applyCliAudioCodec (argv : List (List UInt8)) (current : AudioCodec) : Option AudioCodec :=
  match argValue (ascii "--audio-codec") argv with
  | none => some current
  | some value =>
    if value = ascii "auto" ∨ value = ascii "opus" then some .auto
    else if value = ascii "pcm" then some .pcm
    else none

/-- The arguments are those behind the program's name. -/
def applyCli (ulongMax : Nat) (settings : NativeSettings) (argv : List (List UInt8)) :
    Option NativeSettings :=
  if validateCli argv = false then none
  else do
    let green := settings.sessions slotGreen
    let host ← applyCliString argv (ascii "--host") green.host
    let user ← applyCliString argv (ascii "--user") green.username
    let username ← applyCliString argv (ascii "--username") user
    let password ← applyCliString argv (ascii "--password") green.password
    let domain ← applyCliString argv (ascii "--domain") green.domain
    let port ← applyCliU16 ulongMax argv (ascii "--port") 1 portMax green.port
    let fps ← applyCliU16 ulongMax argv (ascii "--fps") 1 240 green.fps
    let wheelStep ← applyCliU16 ulongMax argv (ascii "--wheel-step") 1 120 settings.wheelStep
    let wheelScrollDivisor ←
      applyCliU16 ulongMax argv (ascii "--wheel-scroll-divisor") 1 120 settings.wheelScrollDivisor
    let audioCodec ← applyCliAudioCodec argv settings.audioCodec
    some { settings.setSession slotGreen { green with host, username, password, domain, port, fps }
      with wheelStep, wheelScrollDivisor, audioCodec }

/-! ## Overrides stay in range -/

theorem argValue_terminated {name value : List UInt8} {argv : List (List UInt8)}
    (hargv : ∀ arg ∈ argv, 0 ∉ arg) (h : argValue name argv = some value) : 0 ∉ value := by
  induction argv with
  | nil => cases h
  | cons arg rest ih =>
    rw [argValue] at h
    split at h
    · cases h
      exact fun hmem => hargv arg List.mem_cons_self (List.mem_of_mem_drop hmem)
    · split at h
      · exact hargv value (List.mem_cons_of_mem _ (List.mem_of_mem_head? h))
      · exact ih (fun arg harg => hargv arg (List.mem_cons_of_mem _ harg)) h

theorem applyCliString_fits {argv : List (List UInt8)} {name current value : List UInt8}
    (hargv : ∀ arg ∈ argv, 0 ∉ arg) (hcurrent : Fits current)
    (h : applyCliString argv name current = some value) : Fits value := by
  unfold applyCliString at h
  split at h
  · cases h
    exact hcurrent
  · rename_i text htext
    unfold copyConfigString at h
    split at h
    · cases h
    · rename_i hshort
      cases h
      exact ⟨Nat.lt_of_not_le hshort, argValue_terminated hargv htext⟩

theorem applyCliU16_range {ulongMax : Nat} {argv : List (List UInt8)} {name : List UInt8}
    {minValue maxValue current value : Nat} (hcurrent : minValue ≤ current ∧ current ≤ maxValue)
    (h : applyCliU16 ulongMax argv name minValue maxValue current = some value) :
    minValue ≤ value ∧ value ≤ maxValue := by
  unfold applyCliU16 at h
  split at h
  · cases h
    exact hcurrent
  · obtain ⟨parsed, -, h⟩ := Option.bind_eq_some_iff.mp h
    split at h
    · cases h
    · cases h
      omega

theorem applyCli_inRange {ulongMax : Nat} {settings updated : NativeSettings}
    {argv : List (List UInt8)} (hargv : ∀ arg ∈ argv, 0 ∉ arg) (hs : settings.InRange)
    (h : applyCli ulongMax settings argv = some updated) : updated.InRange := by
  unfold applyCli at h
  split at h
  · cases h
  have hgreen := hs.sessions slotGreen
  obtain ⟨host, hhost, h⟩ := Option.bind_eq_some_iff.mp h
  obtain ⟨user, huser, h⟩ := Option.bind_eq_some_iff.mp h
  obtain ⟨username, husername, h⟩ := Option.bind_eq_some_iff.mp h
  obtain ⟨password, hpassword, h⟩ := Option.bind_eq_some_iff.mp h
  obtain ⟨domain, hdomain, h⟩ := Option.bind_eq_some_iff.mp h
  obtain ⟨port, hport, h⟩ := Option.bind_eq_some_iff.mp h
  obtain ⟨fps, hfps, h⟩ := Option.bind_eq_some_iff.mp h
  obtain ⟨wheel, hwheel, h⟩ := Option.bind_eq_some_iff.mp h
  obtain ⟨divisor, hdivisor, h⟩ := Option.bind_eq_some_iff.mp h
  obtain ⟨codec, -, h⟩ := Option.bind_eq_some_iff.mp h
  cases h
  have hconfig : NativeSessionConfig.InRange
      { settings.sessions slotGreen with
        host := host
        username := username
        password := password
        domain := domain
        port := port
        fps := fps } :=
    { hgreen with
      host := applyCliString_fits hargv hgreen.host hhost
      username := applyCliString_fits hargv
        (applyCliString_fits hargv hgreen.username huser) husername
      password := applyCliString_fits hargv hgreen.password hpassword
      domain := applyCliString_fits hargv hgreen.domain hdomain
      port := applyCliU16_range hgreen.port hport
      fps := applyCliU16_range hgreen.fps hfps }
  exact { NativeSettings.setSession_inRange hs hconfig with
    wheelStep := applyCliU16_range hs.wheelStep hwheel
    wheelScrollDivisor := applyCliU16_range hs.wheelScrollDivisor hdivisor }

end Lgnome.Settings
