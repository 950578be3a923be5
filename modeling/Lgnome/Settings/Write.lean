import Lgnome.Json.Fields
import Lgnome.Settings.Model

/-!
# Writing the model

The document that is persisted: the four profiles in the sessions array, then
the globals. Strings are escaped byte by byte.
-/
namespace Lgnome.Settings

open Lgnome.Bytes Lgnome.Json

def hexByte (d : Nat) : UInt8 :=
  if d < 10 then UInt8.ofNat (0x30 + d) else UInt8.ofNat (0x61 + (d - 10))

/-- `%04x` -/
def printHex4 (n : Nat) : List UInt8 :=
  [hexByte (n / 4096 % 16), hexByte (n / 256 % 16), hexByte (n / 16 % 16), hexByte (n % 16)]

def writeByte (c : UInt8) : List UInt8 :=
  if c = quote then ascii "\\\""
  else if c = backslash then ascii "\\\\"
  else if c = 0x08 then ascii "\\b"
  else if c = 0x0c then ascii "\\f"
  else if c = 0x0a then ascii "\\n"
  else if c = 0x0d then ascii "\\r"
  else if c = 0x09 then ascii "\\t"
  else if c < 0x20 then ascii "\\u" ++ printHex4 c.toNat
  else [c]

def writeJsonString (value : List UInt8) : List UInt8 :=
  quote :: value.flatMap writeByte ++ [quote]

def writeSessionJson (session : NativeSessionConfig) (slot : Nat) : List UInt8 :=
  ascii "    \x7b \"slot\": \"" ++ sessionSlotName slot ++ ascii "\", \"name\": " ++
  writeJsonString session.name ++ ascii ", \"host\": " ++
  writeJsonString session.host ++
  ascii ", \"port\": " ++ printU session.port ++ ascii ", \"username\": " ++
  writeJsonString session.username ++ ascii ", \"password\": " ++
  writeJsonString session.password ++ ascii ", \"domain\": " ++
  writeJsonString session.domain ++
  ascii ", \"fps\": " ++ printU session.fps ++
  ascii ", \"desktopWidth\": " ++ printU session.desktopWidth ++
  ascii ", \"desktopHeight\": " ++ printU session.desktopHeight ++
  ascii ", \"desktopScaleFactor\": " ++ printU session.desktopScaleFactor ++
  ascii ", \"duckTriggers\": " ++ printU session.duckMask ++
  ascii ", \"mixerGainDb\": " ++ printD session.mixerGainDb ++
  ascii ", \"mixerMuted\": " ++ printBool session.mixerMuted ++
  ascii ", \"mixerSolo\": " ++ printBool session.mixerSolo ++
  ascii ", \"cameraRedirect\": " ++ printBool session.cameraRedirect ++
  ascii ", \"audioInputRedirect\": " ++ printBool session.audioInputRedirect ++ ascii " \x7d"

def audioCodecName : AudioCodec → List UInt8
  | .pcm => ascii "pcm"
  | .auto => ascii "auto"

def writeJson (settings : NativeSettings) : List UInt8 :=
  ascii "\x7b\n  \"sessions\": [\n" ++
  writeSessionJson (settings.sessions slotRed) 0 ++ ascii ",\n" ++
  writeSessionJson (settings.sessions slotGreen) 1 ++ ascii ",\n" ++
  writeSessionJson (settings.sessions slotYellow) 2 ++ ascii ",\n" ++
  writeSessionJson (settings.sessions slotBlue) 3 ++ ascii "\n" ++
  ascii "  ],\n  \"wheelStep\": " ++ printU settings.wheelStep ++
  ascii ",\n  \"wheelScrollDivisor\": " ++ printU settings.wheelScrollDivisor ++
  ascii ",\n  \"audioCodec\": \"" ++ audioCodecName settings.audioCodec ++
  ascii "\",\n  \"cameraEnabled\": " ++ printBool settings.cameraEnabled ++
  ascii ",\n  \"cameraDeviceId\": " ++ writeJsonString settings.cameraDeviceId ++
  ascii ",\n  \"cameraWidth\": " ++ printU settings.cameraWidth ++
  ascii ",\n  \"cameraHeight\": " ++ printU settings.cameraHeight ++
  ascii ",\n  \"cameraFps\": " ++ printU settings.cameraFps ++
  ascii ",\n  \"audioInputEnabled\": " ++ printBool settings.audioInputEnabled ++
  ascii ",\n  \"audioInputDeviceId\": " ++ writeJsonString settings.audioInputDeviceId ++
  ascii ",\n  \"audioInputGainDb\": " ++ printD settings.audioInputGainDb ++ ascii "\n\x7d\n"

/-! ## Strings -/

/-- The control bytes that have no short escape. -/
theorem control_escape : ∀ n : Fin 32, n.val ≠ 0 →
    hexDigits 0 (printHex4 n.val) = some n.val ∧ utf8 n.val = [UInt8.ofNat n.val] := by
  decide +kernel

/-- How a byte is written: by a short escape, as a control character, or as it is. -/
inductive Written (c : UInt8) : List UInt8 → Prop
  | short (letter : UInt8) : shortEscape letter = some c → Written c [backslash, letter]
  | control : c < 0x20 → Written c (ascii "\\u" ++ printHex4 c.toNat)
  | plain : 0x20 ≤ c → c ≠ quote → c ≠ backslash → Written c [c]

theorem writeByte_written (c : UInt8) : Written c (writeByte c) := by
  unfold writeByte
  refine iteInduction (fun hc => ?_) fun hquote => ?_
  · exact .short quote (congrArg some hc.symm)
  refine iteInduction (fun hc => ?_) fun hslash => ?_
  · exact .short backslash (congrArg some hc.symm)
  refine iteInduction (fun hc => ?_) fun _ => ?_
  · exact .short 0x62 (congrArg some hc.symm)
  refine iteInduction (fun hc => ?_) fun _ => ?_
  · exact .short 0x66 (congrArg some hc.symm)
  refine iteInduction (fun hc => ?_) fun _ => ?_
  · exact .short 0x6e (congrArg some hc.symm)
  refine iteInduction (fun hc => ?_) fun _ => ?_
  · exact .short 0x72 (congrArg some hc.symm)
  refine iteInduction (fun hc => ?_) fun _ => ?_
  · exact .short 0x74 (congrArg some hc.symm)
  refine iteInduction (fun hc => ?_) fun hcontrol => ?_
  · exact .control hc
  · exact .plain (UInt8.not_lt.mp hcontrol) hquote hslash

/-- A byte as it is written stands for itself. -/
theorem writeByte_char {c : UInt8} (h : c ≠ 0) : StringChar (writeByte c) [c] := by
  have hwritten := writeByte_written c
  generalize writeByte c = text at hwritten ⊢
  cases hwritten with
  | short letter hletter => exact .short letter c hletter
  | control hcontrol =>
    have hlt : c.toNat < 32 := UInt8.lt_iff_toNat_lt.mp hcontrol
    have hne : c.toNat ≠ 0 := fun hzero => h (UInt8.toNat_inj.mp hzero)
    obtain ⟨hhex, hutf8⟩ := control_escape ⟨c.toNat, hlt⟩ hne
    have hself : [c] = utf8 c.toNat := by
      rw [hutf8, UInt8.ofNat_toNat]
    rw [hself]
    refine .unicode (printHex4 c.toNat) c.toNat ⟨rfl, hhex⟩ hne ?_ ?_
    · unfold IsHigh
      omega
    · unfold IsLow
      omega
  | plain hcontrol hquote hslash => exact .plain c hcontrol hquote hslash

theorem writeJsonString_str {value : List UInt8} (h : 0 ∉ value) :
    Str (writeJsonString value) value := by
  refine ⟨value.flatMap writeByte, ?_, rfl⟩
  induction value with
  | nil => exact .nil
  | cons c value ih =>
    have hc : c ≠ 0 := fun hzero => h (hzero ▸ List.mem_cons_self)
    have htail := ih fun hmem => h (List.mem_cons_of_mem _ hmem)
    exact Chars.cons (writeByte_char hc) htail

/-! ## Sizes -/

theorem ascii_length (s : String) : (ascii s).length ≤ s.utf8ByteSize := by
  simp [ascii]

/-- A text of at most this many bytes. -/
def Short (n : Nat) (text : List UInt8) : Prop := text.length ≤ n

theorem short_ascii (s : String) : Short s.utf8ByteSize (ascii s) := ascii_length s

theorem Short.cat {a b : List UInt8} {n m : Nat} (ha : Short n a) (hb : b.length ≤ m) :
    Short (n + m) (a ++ b) := by
  unfold Short
  rw [List.length_append]
  exact Nat.add_le_add ha hb

theorem writeByte_length (c : UInt8) : (writeByte c).length ≤ 6 := by
  have hwritten := writeByte_written c
  generalize writeByte c = text at hwritten ⊢
  cases hwritten with
  | short letter _ => exact (by decide : 2 ≤ 6)
  | control _ => exact Nat.le_refl 6
  | plain _ _ _ => exact (by decide : 1 ≤ 6)

theorem writeJsonString_length (value : List UInt8) :
    (writeJsonString value).length ≤ 6 * value.length + 2 := by
  have hbody : (value.flatMap writeByte).length ≤ 6 * value.length := by
    induction value with
    | nil => exact Nat.le_refl 0
    | cons c value ih =>
      have hc := writeByte_length c
      rw [List.flatMap_cons, List.length_append, List.length_cons]
      omega
  simp only [writeJsonString, List.length_append, List.length_cons, List.length_nil]
  omega

theorem Fits.written {value : List UInt8} (h : Fits value) :
    (writeJsonString value).length ≤ 3068 := by
  have hlength := writeJsonString_length value
  have hshort : value.length < 512 := h.short
  omega

theorem printU_short {n : Nat} (h : n ≤ 65535) : (printU n).length ≤ 5 := by
  refine printU_length (by decide) ((Nat.digits_length_le_iff (by decide) n).mpr ?_)
  exact Nat.lt_of_le_of_lt h (by decide)

theorem printD_short {i : Int} (h : -60 ≤ i ∧ i ≤ 18) : (printD i).length ≤ 6 := by
  have hlength := printU_short (n := i.natAbs) (by omega)
  unfold printD
  split
  · rw [List.length_cons]
    omega
  · omega

theorem printBool_short (b : Bool) : (printBool b).length ≤ 5 := by
  cases b <;> decide

theorem sessionSlotName_length (slot : Nat) : (sessionSlotName slot).length ≤ 6 := by
  unfold sessionSlotName
  split <;> decide

theorem writeSessionJson_length {c : NativeSessionConfig} (h : c.InRange) (slot : Nat) :
    (writeSessionJson c slot).length ≤ 15900 := by
  have hgain := h.mixerGainDb
  have hscale := h.desktopScaleFactor
  have hduck : c.duckMask ≤ 15 := h.duckMask
  have hport : (printU c.port).length ≤ 5 := printU_short h.port.2
  have hfps : (printU c.fps).length ≤ 5 := printU_short (Nat.le_trans h.fps.2 (by decide))
  have hwidth : (printU c.desktopWidth).length ≤ 5 :=
    printU_short (Nat.le_trans h.desktopWidth.2 (by decide))
  have hheight : (printU c.desktopHeight).length ≤ 5 :=
    printU_short (Nat.le_trans h.desktopHeight.2 (by decide))
  have hfactor : (printU c.desktopScaleFactor).length ≤ 5 := by
    simp only [desktopScaleValid, Bool.or_eq_true, beq_iff_eq] at hscale
    exact printU_short (by omega)
  have hmask : (printU c.duckMask).length ≤ 5 := printU_short (by omega)
  have hdb : (printD c.mixerGainDb).length ≤ 6 := by
    unfold mixerMinDb mixerMaxDb at hgain
    exact printD_short (by omega)
  have hall : Short _ (writeSessionJson c slot) :=
    (short_ascii _) |>.cat (sessionSlotName_length slot) |>.cat (ascii_length _)
    |>.cat h.name.written |>.cat (ascii_length _) |>.cat h.host.written |>.cat (ascii_length _)
    |>.cat hport |>.cat (ascii_length _) |>.cat h.username.written |>.cat (ascii_length _)
    |>.cat h.password.written |>.cat (ascii_length _) |>.cat h.domain.written
    |>.cat (ascii_length _) |>.cat hfps |>.cat (ascii_length _) |>.cat hwidth
    |>.cat (ascii_length _) |>.cat hheight |>.cat (ascii_length _) |>.cat hfactor
    |>.cat (ascii_length _) |>.cat hmask |>.cat (ascii_length _) |>.cat hdb
    |>.cat (ascii_length _) |>.cat (printBool_short _) |>.cat (ascii_length _)
    |>.cat (printBool_short _) |>.cat (ascii_length _) |>.cat (printBool_short _)
    |>.cat (ascii_length _) |>.cat (printBool_short _) |>.cat (ascii_length _)
  exact Nat.le_trans hall (by decide +kernel)

def maxFile : Nat := 131072

theorem writeJson_length {settings : NativeSettings} (h : settings.InRange) :
    (writeJson settings).length ≤ maxFile := by
  have hgain := h.audioInputGainDb
  have hsession := fun slot i => writeSessionJson_length (h.sessions slot) i
  have hwheel : (printU settings.wheelStep).length ≤ 5 :=
    printU_short (Nat.le_trans h.wheelStep.2 (by decide))
  have hdivisor : (printU settings.wheelScrollDivisor).length ≤ 5 :=
    printU_short (Nat.le_trans h.wheelScrollDivisor.2 (by decide))
  have hcodec : (audioCodecName settings.audioCodec).length ≤ 4 := by
    cases settings.audioCodec <;> decide
  have hwidth : (printU settings.cameraWidth).length ≤ 5 :=
    printU_short (Nat.le_trans h.cameraWidth.2 (by decide))
  have hheight : (printU settings.cameraHeight).length ≤ 5 :=
    printU_short (Nat.le_trans h.cameraHeight.2 (by decide))
  have hfps : (printU settings.cameraFps).length ≤ 5 :=
    printU_short (Nat.le_trans h.cameraFps.2 (by decide))
  have hdb : (printD settings.audioInputGainDb).length ≤ 6 := printD_short (by omega)
  have hall : Short _ (writeJson settings) :=
    (short_ascii _) |>.cat (hsession _ _) |>.cat (ascii_length _) |>.cat (hsession _ _)
    |>.cat (ascii_length _) |>.cat (hsession _ _) |>.cat (ascii_length _) |>.cat (hsession _ _)
    |>.cat (ascii_length _) |>.cat (ascii_length _) |>.cat hwheel |>.cat (ascii_length _)
    |>.cat hdivisor |>.cat (ascii_length _) |>.cat hcodec |>.cat (ascii_length _)
    |>.cat (printBool_short _) |>.cat (ascii_length _) |>.cat h.cameraDeviceId.written
    |>.cat (ascii_length _) |>.cat hwidth |>.cat (ascii_length _) |>.cat hheight
    |>.cat (ascii_length _) |>.cat hfps |>.cat (ascii_length _) |>.cat (printBool_short _)
    |>.cat (ascii_length _) |>.cat h.audioInputDeviceId.written |>.cat (ascii_length _) |>.cat hdb
    |>.cat (ascii_length _)
  exact Nat.le_trans hall (by decide +kernel)

/-! ## No terminator -/

/-- The text has no terminator in it. -/
def Unterminated (text : List UInt8) : Prop := 0 ∉ text

theorem Unterminated.cat {a b : List UInt8} (ha : Unterminated a) (hb : Unterminated b) :
    Unterminated (a ++ b) := fun h => (List.mem_append.mp h).elim ha hb

theorem writeByte_unterminated {c : UInt8} (h : c ≠ 0) : Unterminated (writeByte c) := by
  have hcontrols : ∀ n : Fin 32, Unterminated (ascii "\\u" ++ printHex4 n.val) := by
    unfold Unterminated
    decide +kernel
  have hwritten := writeByte_written c
  generalize writeByte c = text at hwritten ⊢
  cases hwritten with
  | short letter hletter =>
    intro hmem
    rcases List.mem_cons.mp hmem with hslash | hmem
    · exact absurd hslash (by decide)
    · rw [← List.mem_singleton.mp hmem] at hletter
      exact nomatch hletter
  | control hcontrol => exact hcontrols ⟨c.toNat, UInt8.lt_iff_toNat_lt.mp hcontrol⟩
  | plain _ _ _ => exact fun hmem => h (List.mem_singleton.mp hmem).symm

theorem Fits.unterminated {value : List UInt8} (h : Fits value) :
    Unterminated (writeJsonString value) := by
  intro hmem
  rcases List.mem_cons.mp hmem with hquote | hmem
  · exact absurd hquote (by decide)
  rcases List.mem_append.mp hmem with hbody | hquote
  · obtain ⟨c, hc, hbyte⟩ := List.mem_flatMap.mp hbody
    exact writeByte_unterminated (fun hzero => h.terminated (hzero ▸ hc)) hbyte
  · exact absurd hquote (by decide)

theorem printU_unterminated (n : Nat) : Unterminated (printU n) := fun hmem =>
  absurd (printU_digits n 0 hmem) (by decide)

theorem printD_unterminated (i : Int) : Unterminated (printD i) := by
  unfold printD
  split
  · intro hmem
    rcases List.mem_cons.mp hmem with hminus | hmem
    · exact absurd hminus (by decide)
    · exact printU_unterminated _ hmem
  · exact printU_unterminated _

theorem printBool_unterminated (b : Bool) : Unterminated (printBool b) := by
  unfold Unterminated
  cases b <;> decide

theorem sessionSlotName_unterminated (slot : Nat) : Unterminated (sessionSlotName slot) := by
  unfold Unterminated sessionSlotName
  split <;> decide

/-- Text of the format strings. -/
theorem ascii_unterminated (s : String) (h : (ascii s).all (· != 0) = true) :
    Unterminated (ascii s) := by
  intro hmem
  exact absurd rfl (bne_iff_ne.mp (List.all_eq_true.mp h 0 hmem))

theorem Unterminated.literal {a : List UInt8} (ha : Unterminated a) {s : String}
    (h : (ascii s).all (· != 0) = true) : Unterminated (a ++ ascii s) :=
  ha.cat (ascii_unterminated s h)

theorem writeSessionJson_unterminated {c : NativeSessionConfig} (h : c.InRange) (slot : Nat) :
    Unterminated (writeSessionJson c slot) := by
  exact (ascii_unterminated _ (by decide +kernel)) |>.cat (sessionSlotName_unterminated _)
    |>.literal (by decide +kernel) |>.cat h.name.unterminated |>.literal (by decide +kernel)
    |>.cat h.host.unterminated |>.literal (by decide +kernel) |>.cat (printU_unterminated _)
    |>.literal (by decide +kernel) |>.cat h.username.unterminated |>.literal (by decide +kernel)
    |>.cat h.password.unterminated |>.literal (by decide +kernel) |>.cat h.domain.unterminated
    |>.literal (by decide +kernel) |>.cat (printU_unterminated _) |>.literal (by decide +kernel)
    |>.cat (printU_unterminated _) |>.literal (by decide +kernel) |>.cat (printU_unterminated _)
    |>.literal (by decide +kernel) |>.cat (printU_unterminated _) |>.literal (by decide +kernel)
    |>.cat (printU_unterminated _) |>.literal (by decide +kernel) |>.cat (printD_unterminated _)
    |>.literal (by decide +kernel) |>.cat (printBool_unterminated _)
    |>.literal (by decide +kernel) |>.cat (printBool_unterminated _)
    |>.literal (by decide +kernel) |>.cat (printBool_unterminated _)
    |>.literal (by decide +kernel) |>.cat (printBool_unterminated _)
    |>.literal (by decide +kernel)

/-- The written document is a C string. -/
theorem writeJson_unterminated {settings : NativeSettings} (h : settings.InRange) :
    Unterminated (writeJson settings) := by
  have hcodec : Unterminated (audioCodecName settings.audioCodec) := by
    unfold Unterminated
    cases settings.audioCodec <;> decide
  exact (ascii_unterminated _ (by decide +kernel))
    |>.cat (writeSessionJson_unterminated (h.sessions _) _) |>.literal (by decide +kernel)
    |>.cat (writeSessionJson_unterminated (h.sessions _) _) |>.literal (by decide +kernel)
    |>.cat (writeSessionJson_unterminated (h.sessions _) _) |>.literal (by decide +kernel)
    |>.cat (writeSessionJson_unterminated (h.sessions _) _) |>.literal (by decide +kernel)
    |>.literal (by decide +kernel) |>.cat (printU_unterminated _) |>.literal (by decide +kernel)
    |>.cat (printU_unterminated _) |>.literal (by decide +kernel) |>.cat hcodec
    |>.literal (by decide +kernel) |>.cat (printBool_unterminated _)
    |>.literal (by decide +kernel) |>.cat h.cameraDeviceId.unterminated
    |>.literal (by decide +kernel) |>.cat (printU_unterminated _) |>.literal (by decide +kernel)
    |>.cat (printU_unterminated _) |>.literal (by decide +kernel) |>.cat (printU_unterminated _)
    |>.literal (by decide +kernel) |>.cat (printBool_unterminated _)
    |>.literal (by decide +kernel) |>.cat h.audioInputDeviceId.unterminated
    |>.literal (by decide +kernel) |>.cat (printD_unterminated _) |>.literal (by decide +kernel)

end Lgnome.Settings
