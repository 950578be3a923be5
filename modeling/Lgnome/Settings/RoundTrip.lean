import Lgnome.Settings.Apply
import Lgnome.Settings.Write
import Lgnome.Json.Acceptance

/-!
# What is written is read back

The written document is an object of the grammar whose members are known by
name. Every field is looked up, read as it was printed, and lands where it came
from, so a document laid over any model gives the model that was written.
-/
namespace Lgnome.Settings

open Lgnome.Bytes Lgnome.Json

/-! ## Objects of named fields -/

/-- A member with a space behind its colon. -/
def member (before name value after : List UInt8) : Entry :=
  ⟨before, quote :: name ++ [quote, colon], name, [0x20], value, after⟩

/-- Members of an object, each behind the same whitespace. -/
def memberEntries (before after : List UInt8) : List (List UInt8 × List UInt8) → List Entry
  | [] => []
  | [(name, value)] => [member before name value after]
  | (name, value) :: field :: fields =>
    member before name value [] :: memberEntries before after (field :: fields)

theorem member_formed {before name value after : List UInt8} (hbefore : Ws before)
    (hafter : Ws after) (hname : PlainText name) :
    (member before name value after).Formed true := by
  refine ⟨hbefore, ?_, hafter, quote :: name ++ [quote], [], ?_, nofun, ?_⟩
  · intro c hc
    rw [List.mem_singleton.mp hc]
    rfl
  · exact ⟨name, chars_plain hname, rfl⟩
  · simp only [member, List.append_assoc, List.cons_append, List.nil_append]

theorem memberEntries_formed {before after : List UInt8} (hbefore : Ws before) (hafter : Ws after)
    {fields : List (List UInt8 × List UInt8)} (hnames : ∀ f ∈ fields, PlainText f.1) :
    ∀ e ∈ memberEntries before after fields, e.Formed true := by
  induction fields using memberEntries.induct with
  | case1 => nofun
  | case2 name value =>
    intro e he
    rw [List.mem_singleton.mp he]
    exact member_formed hbefore hafter (hnames (name, value) List.mem_cons_self)
  | case3 name value field fields ih =>
    intro e he
    rcases List.mem_cons.mp he with rfl | he
    · exact member_formed hbefore nofun (hnames (name, value) List.mem_cons_self)
    · exact ih (fun f hf => hnames f (List.mem_cons_of_mem _ hf)) e he

theorem memberEntries_values {k : Nat} (before after : List UInt8)
    {fields : List (List UInt8 × List UInt8)} (hvalues : ∀ f ∈ fields, Value k f.2) :
    ∀ e ∈ memberEntries before after fields, Value k e.value := by
  induction fields using memberEntries.induct with
  | case1 => nofun
  | case2 name value =>
    intro e he
    rw [List.mem_singleton.mp he]
    exact hvalues (name, value) List.mem_cons_self
  | case3 name value field fields ih =>
    intro e he
    rcases List.mem_cons.mp he with rfl | he
    · exact hvalues (name, value) List.mem_cons_self
    · exact ih (fun f hf => hvalues f (List.mem_cons_of_mem _ hf)) e he

theorem scalarEnd_more (object : Bool) {after : List UInt8} (hafter : Ws after)
    (rest : List Entry) (q : List UInt8) :
    scalarEnd (after ++ (moreEntries rest ++ closing object :: q)) = true := by
  unfold scalarEnd
  cases rest with
  | nil =>
    have hskip : skipWs (after ++ closing object :: q) = closing object :: q :=
      skipWs_ws hafter (closing_not_ws object)
    rw [show moreEntries [] ++ closing object :: q = closing object :: q from rfl, hskip]
    cases object <;> rfl
  | cons e rest =>
    have hskip := skipWs_ws (p := moreEntries (e :: rest) ++ closing object :: q) hafter
      (show isWs comma = false from rfl)
    rw [hskip]
    rfl

/-- The value that is found under a name is the one that was written there. -/
theorem memberEntries_lookup (before : List UInt8) {after : List UInt8} (hafter : Ws after)
    {fields : List (List UInt8 × List UInt8)} {key value : List UInt8} (q : List UInt8)
    (hfound : fields.lookup key = some value) :
    ∃ rest, (valueStarts (memberEntries before after fields) (closeBrace :: q)).lookup key =
      some (value ++ rest) ∧ scalarEnd rest = true := by
  induction fields using memberEntries.induct with
  | case1 => cases hfound
  | case2 name written =>
    rw [List.lookup_cons] at hfound
    rw [memberEntries, valueStarts, member, List.lookup_cons]
    split at hfound
    · cases hfound
      rename_i hname
      exact ⟨after ++ (moreEntries [] ++ closeBrace :: q), by rw [hname],
        scalarEnd_more true hafter [] q⟩
    · cases hfound
  | case3 name written field fields ih =>
    rw [List.lookup_cons] at hfound
    rw [memberEntries, valueStarts, member, List.lookup_cons]
    split at hfound
    · cases hfound
      rename_i hname
      exact ⟨[] ++ (moreEntries (memberEntries before after (field :: fields)) ++ closeBrace :: q),
        by rw [hname], scalarEnd_more true ws_nil _ q⟩
    · rename_i hname
      rw [hname]
      exact ih hfound

/-- Every one of these fields is found in the document, with a scalar's end behind its value. -/
def Document (s : List UInt8) (fields : List (List UInt8 × List UInt8)) : Prop :=
  ∀ key value, key.length ≤ 63 → fields.lookup key = some value →
    ∃ rest, findValue s key = .ok (value ++ rest) ∧ scalarEnd rest = true

theorem document_root {s after q : List UInt8} (before : List UInt8)
    {fields : List (List UInt8 × List UInt8)}
    (hafter : Ws after) (h : Root s (memberEntries before after fields) (closeBrace :: q)) :
    Document s fields := by
  intro key value hkey hfound
  obtain ⟨rest, hlookup, hend⟩ := memberEntries_lookup before hafter q hfound
  refine ⟨rest, ?_, hend⟩
  rw [findValue_root h hkey, hlookup]
  rfl

section Fields

variable {s : List UInt8} {fields : List (List UInt8 × List UInt8)}

theorem Document.string (h : Document s fields) (key : List UInt8) (hkey : key.length ≤ 63)
    {value : List UInt8}
    (hfound : fields.lookup key = some (writeJsonString value)) (hvalue : Fits value)
    (current : List UInt8) : applyJsonString s key current = .ok value := by
  obtain ⟨rest, hfind, hend⟩ := h key _ hkey hfound
  have hread := stringAt_str (writeJsonString_str hvalue.terminated) hvalue.short hend
  unfold applyJsonString applyField jsonReadString
  rw [jsonRead_some hfind hread]
  rfl

theorem Document.u16 (h : Document s fields) (key : List UInt8) (hkey : key.length ≤ 63)
    {n minValue maxValue : Nat}
    (hfound : fields.lookup key = some (printU n)) (hrange : minValue ≤ n ∧ n ≤ maxValue)
    (current : Nat) : applyJsonU16 s key minValue maxValue current = .ok n := by
  obtain ⟨rest, hfind, hend⟩ := h key _ hkey hfound
  unfold applyJsonU16 applyField jsonReadU16
  rw [jsonRead_some hfind (u16At_printU hrange.1 hrange.2 hend)]
  rfl

theorem Document.i16 (h : Document s fields) (key : List UInt8) (hkey : key.length ≤ 63)
    {i minValue maxValue : Int}
    (hfound : fields.lookup key = some (printD i)) (hrange : minValue ≤ i ∧ i ≤ maxValue)
    (current : Int) : applyJsonI16 s key minValue maxValue current = .ok i := by
  obtain ⟨rest, hfind, hend⟩ := h key _ hkey hfound
  unfold applyJsonI16 applyField jsonReadI16
  rw [jsonRead_some hfind (i16At_printD hrange.1 hrange.2 hend)]
  rfl

theorem Document.bool (h : Document s fields) (key : List UInt8) (hkey : key.length ≤ 63)
    {b : Bool}
    (hfound : fields.lookup key = some (printBool b)) (current : Bool) :
    applyJsonBool s key current = .ok b := by
  obtain ⟨rest, hfind, hend⟩ := h key _ hkey hfound
  unfold applyJsonBool applyField jsonReadBool
  rw [jsonRead_some hfind (boolAt_printBool b hend)]
  rfl

end Fields

/-! ## A profile -/

def sessionFields (c : NativeSessionConfig) (slot : Nat) : List (List UInt8 × List UInt8) :=
  [(ascii "slot", quote :: sessionSlotName slot ++ [quote]),
    (ascii "name", writeJsonString c.name),
    (ascii "host", writeJsonString c.host),
    (ascii "port", printU c.port),
    (ascii "username", writeJsonString c.username),
    (ascii "password", writeJsonString c.password),
    (ascii "domain", writeJsonString c.domain),
    (ascii "fps", printU c.fps),
    (ascii "desktopWidth", printU c.desktopWidth),
    (ascii "desktopHeight", printU c.desktopHeight),
    (ascii "desktopScaleFactor", printU c.desktopScaleFactor),
    (ascii "duckTriggers", printU c.duckMask),
    (ascii "mixerGainDb", printD c.mixerGainDb),
    (ascii "mixerMuted", printBool c.mixerMuted),
    (ascii "mixerSolo", printBool c.mixerSolo),
    (ascii "cameraRedirect", printBool c.cameraRedirect),
    (ascii "audioInputRedirect", printBool c.audioInputRedirect)]

def sessionMembers (c : NativeSessionConfig) (slot : Nat) : List Entry :=
  memberEntries [0x20] [0x20] (sessionFields c slot)

/-- A profile's object, without the indent in front of it. -/
def sessionObject (c : NativeSessionConfig) (slot : Nat) : List UInt8 :=
  containerText true
    (member [0x20] (ascii "slot") (quote :: sessionSlotName slot ++ [quote]) [])
    (sessionMembers c slot).tail

set_option maxRecDepth 8000 in
theorem writeSessionJson_eq (c : NativeSessionConfig) (slot : Nat) :
    writeSessionJson c slot = ascii "    " ++ sessionObject c slot := by
  unfold writeSessionJson sessionObject
  simp only [sessionMembers, sessionFields, memberEntries, List.tail_cons, containerText,
    moreEntries, List.flatMap_cons, List.flatMap_nil, Entry.text, member, List.append_assoc,
    List.cons_append, List.nil_append, List.append_nil]
  rfl

theorem space_ws : Ws [0x20] := by
  intro c hc
  rw [List.mem_singleton.mp hc]
  rfl

theorem sessionSlotName_plain (slot : Nat) : PlainText (sessionSlotName slot) := by
  unfold sessionSlotName
  split <;> decide

theorem sessionFields_names (c : NativeSessionConfig) (slot : Nat) :
    ∀ f ∈ sessionFields c slot, PlainText f.1 := by
  have hall : ∀ name ∈ (sessionFields sessionConfigDefaults 0).map Prod.fst, PlainText name := by
    decide
  have hnames : (sessionFields c slot).map Prod.fst =
      (sessionFields sessionConfigDefaults 0).map Prod.fst := rfl
  intro f hf
  exact hall f.1 (hnames ▸ List.mem_map_of_mem hf)

theorem printBool_literal (b : Bool) : printBool b ∈ literals := by
  cases b <;> decide

theorem sessionFields_values {c : NativeSessionConfig} (h : c.InRange) (slot k : Nat) :
    ∀ f ∈ sessionFields c slot, Value (k + 1) f.2 := by
  have hstring : ∀ {value}, Fits value → Value (k + 1) (writeJsonString value) := fun hvalue =>
    .string (writeJsonString_str hvalue.terminated)
  have hslot : Value (k + 1) (quote :: sessionSlotName slot ++ [quote]) :=
    .string ⟨_, chars_plain (sessionSlotName_plain slot), rfl⟩
  have hnumber : ∀ n, Value (k + 1) (printU n) := fun n => .number (printU_number n)
  have hbool : ∀ b, Value (k + 1) (printBool b) := fun b => .literal (printBool_literal b)
  simp only [sessionFields, List.forall_mem_cons]
  exact ⟨hslot, hstring h.name, hstring h.host, hnumber _, hstring h.username, hstring h.password,
    hstring h.domain, hnumber _, hnumber _, hnumber _, hnumber _, hnumber _,
    .number (printD_number _), hbool _, hbool _, hbool _, hbool _, nofun⟩

theorem sessionObject_elements {c : NativeSessionConfig} (h : c.InRange) (slot k : Nat) :
    Elements true (k + 1) (sessionObject c slot) (sessionMembers c slot) := by
  have hformed := memberEntries_formed space_ws space_ws
    (sessionFields_names c slot)
  have hvalues := memberEntries_values [0x20] [0x20]
    (sessionFields_values h slot k)
  exact .entries hformed hvalues

theorem sessionObject_document {c : NativeSessionConfig} (h : c.InRange) (slot : Nat) :
    Document (sessionObject c slot) (sessionFields c slot) := by
  refine document_root (q := []) [0x20] space_ws ?_
  have helements := sessionObject_elements h slot 31
  exact ⟨[], sessionObject c slot, [], nofun, nofun, helements, by
    rw [List.nil_append, List.append_nil], rfl⟩

/-- A profile laid over another one. -/
theorem applySessionJson_written {c : NativeSessionConfig} (h : c.InRange) (slot : Nat)
    (current : NativeSessionConfig) :
    applySessionJson current (sessionObject c slot) = .ok c := by
  have hdoc := sessionObject_document h slot
  have hname : applySessionName (sessionObject c slot) current.name = .ok c.name := by
    obtain ⟨rest, hfind, -⟩ := hdoc (ascii "name") (writeJsonString c.name) (by decide) rfl
    have hquote : ¬ peek (writeJsonString c.name ++ rest) ≠ quote := fun hne => hne rfl
    have hread := hdoc.string (ascii "name") (by decide) rfl h.name current.name
    unfold applySessionName
    rw [hfind]
    dsimp only
    rw [if_neg hquote, hread]
  have hscale : applyDesktopScale (sessionObject c slot) current.desktopScaleFactor =
      .ok c.desktopScaleFactor := by
    have hvalid := h.desktopScaleFactor
    have hrange : 100 ≤ c.desktopScaleFactor ∧ c.desktopScaleFactor ≤ 200 := by
      simp only [desktopScaleValid, Bool.or_eq_true, beq_iff_eq] at hvalid
      omega
    have hread := hdoc.u16 (ascii "desktopScaleFactor") (by decide) rfl hrange
      current.desktopScaleFactor
    unfold applyDesktopScale
    rw [hread, Scan.ok_bind, hvalid, if_neg (by decide)]
  have hgain : applyMixerGain (sessionObject c slot) current.mixerGainDb = .ok c.mixerGainDb := by
    have hread := hdoc.i16 (ascii "mixerGainDb") (by decide) rfl h.mixerGainDb
      current.mixerGainDb
    unfold applyMixerGain
    rw [hread, Scan.ok_bind, h.mixerStep, if_neg (fun hne => hne rfl)]
  have hhost := hdoc.string (ascii "host") (by decide) rfl h.host
  have husername := hdoc.string (ascii "username") (by decide) rfl h.username
  have hpassword := hdoc.string (ascii "password") (by decide) rfl h.password
  have hdomain := hdoc.string (ascii "domain") (by decide) rfl h.domain
  have hport := hdoc.u16 (ascii "port") (by decide) rfl h.port
  have hfps := hdoc.u16 (ascii "fps") (by decide) rfl h.fps
  have hwidth := hdoc.u16 (ascii "desktopWidth") (by decide) rfl h.desktopWidth
  have hheight := hdoc.u16 (ascii "desktopHeight") (by decide) rfl h.desktopHeight
  have hduck := hdoc.u16 (ascii "duckTriggers") (by decide) rfl
    (show 0 ≤ c.duckMask ∧ c.duckMask ≤ duckMaskAll from ⟨Nat.zero_le _, h.duckMask⟩)
  have hmuted := hdoc.bool (ascii "mixerMuted") (by decide) rfl
  have hsolo := hdoc.bool (ascii "mixerSolo") (by decide) rfl
  have hcamera := hdoc.bool (ascii "cameraRedirect") (by decide) rfl
  have haudio := hdoc.bool (ascii "audioInputRedirect") (by decide) rfl
  unfold applySessionJson
  simp only [hname, hscale, hhost, husername, hpassword, hdomain, hport, hfps, hwidth, hheight,
    hduck, hgain, hmuted, hsolo, hcamera, haudio, Scan.ok_bind]

/-! ## The document -/

/-- An element of the sessions array. -/
def sessionElement (c : NativeSessionConfig) (slot : Nat) (after : List UInt8) : Entry :=
  ⟨ascii "\n    ", [], [], [], sessionObject c slot, after⟩

def sessionElements (settings : NativeSettings) : List Entry :=
  [sessionElement (settings.sessions slotRed) 0 [],
    sessionElement (settings.sessions slotGreen) 1 [],
    sessionElement (settings.sessions slotYellow) 2 [],
    sessionElement (settings.sessions slotBlue) 3 (ascii "\n  ")]

def sessionsArray (settings : NativeSettings) : List UInt8 :=
  containerText false (sessionElement (settings.sessions slotRed) 0 [])
    (sessionElements settings).tail

def globalFields (settings : NativeSettings) : List (List UInt8 × List UInt8) :=
  [(sessionsKey, sessionsArray settings),
    (ascii "wheelStep", printU settings.wheelStep),
    (ascii "wheelScrollDivisor", printU settings.wheelScrollDivisor),
    (ascii "audioCodec", quote :: audioCodecName settings.audioCodec ++ [quote]),
    (ascii "cameraEnabled", printBool settings.cameraEnabled),
    (ascii "cameraDeviceId", writeJsonString settings.cameraDeviceId),
    (ascii "cameraWidth", printU settings.cameraWidth),
    (ascii "cameraHeight", printU settings.cameraHeight),
    (ascii "cameraFps", printU settings.cameraFps),
    (ascii "audioInputEnabled", printBool settings.audioInputEnabled),
    (ascii "audioInputDeviceId", writeJsonString settings.audioInputDeviceId),
    (ascii "audioInputGainDb", printD settings.audioInputGainDb)]

def globalMembers (settings : NativeSettings) : List Entry :=
  memberEntries (ascii "\n  ") [0x0a] (globalFields settings)

set_option maxRecDepth 8000 in
theorem writeJson_eq (settings : NativeSettings) : writeJson settings =
    containerText true (member (ascii "\n  ") sessionsKey (sessionsArray settings) [])
      (globalMembers settings).tail ++ [0x0a] := by
  unfold writeJson sessionsArray
  simp only [writeSessionJson_eq, globalMembers, globalFields, memberEntries, List.tail_cons,
    sessionElements, sessionElement, containerText, moreEntries, List.flatMap_cons,
    List.flatMap_nil, Entry.text, member, List.append_assoc, List.cons_append, List.nil_append,
    List.append_nil]
  rfl

theorem indent_ws : Ws (ascii "\n    ") ∧ Ws (ascii "\n  ") ∧ Ws [0x0a] := by
  decide

theorem sessionElement_formed (c : NativeSessionConfig) (slot : Nat) {after : List UInt8}
    (hafter : Ws after) : (sessionElement c slot after).Formed false :=
  ⟨indent_ws.1, nofun, hafter, rfl, rfl⟩

theorem sessionsArray_elements {settings : NativeSettings} (h : settings.InRange) (k : Nat) :
    Elements false (k + 2) (sessionsArray settings) (sessionElements settings) := by
  have hvalue : ∀ slot i, Value (k + 2) (sessionObject (settings.sessions slot) i) :=
    fun slot i => (sessionObject_elements (h.sessions slot) i k).value
  have hformed : ∀ e ∈ sessionElements settings, e.Formed false := by
    simp only [sessionElements, List.forall_mem_cons]
    exact ⟨sessionElement_formed _ _ nofun, sessionElement_formed _ _ nofun,
      sessionElement_formed _ _ nofun, sessionElement_formed _ _ indent_ws.2.1, nofun⟩
  have hvalues : ∀ e ∈ sessionElements settings, Value (k + 2) e.value := by
    simp only [sessionElements, List.forall_mem_cons]
    exact ⟨hvalue _ _, hvalue _ _, hvalue _ _, hvalue _ _, nofun⟩
  exact .entries hformed hvalues

theorem globalFields_names (settings : NativeSettings) :
    ∀ f ∈ globalFields settings, PlainText f.1 := by
  have hall : ∀ name ∈ (globalFields NativeSettings.defaults).map Prod.fst, PlainText name := by
    decide
  have hnames : (globalFields settings).map Prod.fst =
      (globalFields NativeSettings.defaults).map Prod.fst := rfl
  intro f hf
  exact hall f.1 (hnames ▸ List.mem_map_of_mem hf)

theorem audioCodecName_plain (codec : AudioCodec) : PlainText (audioCodecName codec) := by
  cases codec <;> decide

theorem globalFields_values {settings : NativeSettings} (h : settings.InRange) (k : Nat) :
    ∀ f ∈ globalFields settings, Value (k + 3) f.2 := by
  have hstring : ∀ {value}, Fits value → Value (k + 3) (writeJsonString value) := fun hvalue =>
    .string (writeJsonString_str hvalue.terminated)
  have hcodec : Value (k + 3) (quote :: audioCodecName settings.audioCodec ++ [quote]) :=
    .string ⟨_, chars_plain (audioCodecName_plain _), rfl⟩
  have hnumber : ∀ n, Value (k + 3) (printU n) := fun n => .number (printU_number n)
  have hbool : ∀ b, Value (k + 3) (printBool b) := fun b => .literal (printBool_literal b)
  simp only [globalFields, List.forall_mem_cons]
  exact ⟨(sessionsArray_elements h k).value, hnumber _, hnumber _, hcodec, hbool _,
    hstring h.cameraDeviceId, hnumber _, hnumber _, hnumber _, hbool _,
    hstring h.audioInputDeviceId, .number (printD_number _), nofun⟩

theorem writeJson_root {settings : NativeSettings} (h : settings.InRange) :
    Root (writeJson settings) (globalMembers settings) [closeBrace, 0x0a] := by
  have hformed := memberEntries_formed indent_ws.2.1 indent_ws.2.2 (globalFields_names settings)
  have hvalues := memberEntries_values (ascii "\n  ") [0x0a] (globalFields_values h 29)
  have helements : Elements true (maxLevels - 1) (containerText true
      (member (ascii "\n  ") sessionsKey (sessionsArray settings) []) (globalMembers settings).tail)
      (globalMembers settings) := .entries hformed hvalues
  refine ⟨[], _, [0x0a], nofun, indent_ws.2.2, helements, ?_, rfl⟩
  rw [writeJson_eq, List.nil_append]

theorem writeJson_document {settings : NativeSettings} (h : settings.InRange) :
    Document (writeJson settings) (globalFields settings) :=
  document_root (ascii "\n  ") indent_ws.2.2 (writeJson_root h)

/-! ## The array -/

theorem valueStarts_take {es : List Entry} {tail start name : List UInt8} {i : Nat} {e : Entry}
    (he : es[i]? = some e) (hstart : (valueStarts es tail)[i]? = some (name, start)) :
    start.take e.value.length = e.value := by
  induction es generalizing i with
  | nil => cases he
  | cons first rest ih =>
    cases i with
    | zero =>
      cases he
      cases hstart
      exact List.take_left
    | succ i => exact ih he hstart

theorem sessionElements_objects (settings : NativeSettings) :
    ∀ e ∈ sessionElements settings, e.IsObject := by
  simp only [sessionElements, List.forall_mem_cons]
  exact ⟨rfl, rfl, rfl, rfl, nofun⟩

theorem writeJson_sessions {settings : NativeSettings} (h : settings.InRange) :
    ∃ behind, SessionsArray (globalMembers settings) [closeBrace, 0x0a] (sessionElements settings)
      behind := by
  have harray : (globalFields settings).lookup sessionsKey = some (sessionsArray settings) := rfl
  obtain ⟨rest, hfound, -⟩ :=
    memberEntries_lookup (ascii "\n  ") indent_ws.2.2 [0x0a] harray
  exact ⟨closeBracket :: rest, sessionsArray settings, rest, hfound,
    sessionsArray_elements h 29, rfl⟩

/-- The entry with the index is the profile's object. -/
theorem findSessionObject_written {settings : NativeSettings} (h : settings.InRange) {i : Nat}
    {e : Entry} (he : (sessionElements settings)[i]? = some e) :
    ∃ start, findSessionObject (writeJson settings) i = .ok (some (start, e.value.length)) ∧
      start.take e.value.length = e.value := by
  obtain ⟨behind, harray⟩ := writeJson_sessions h
  have hobjects : ∀ e' ∈ (sessionElements settings).take (i + 1), e'.IsObject := fun e' he' =>
    sessionElements_objects settings e' (List.mem_of_mem_take he')
  obtain ⟨start, hstart, hat⟩ := sessionAt_found behind he hobjects
  exact ⟨start, (findSessionObject_array (writeJson_root h) harray i).trans hat,
    valueStarts_take he hstart⟩

theorem findSessionObject_end {settings : NativeSettings} (h : settings.InRange) :
    findSessionObject (writeJson settings) 4 = .ok none := by
  obtain ⟨behind, harray⟩ := writeJson_sessions h
  rw [findSessionObject_array (writeJson_root h) harray]
  exact sessionAt_end (Nat.le_refl 4) (sessionElements_objects settings)

theorem slotNamed_name (slot : SlotIndex) : slotNamed (sessionSlotName slot.val) = some slot := by
  revert slot
  decide

theorem sessionSlotName_short (slot : SlotIndex) : (sessionSlotName slot.val).length < 16 := by
  revert slot
  decide

theorem sessionSlotFromObject_written {c : NativeSessionConfig} (h : c.InRange) (slot : SlotIndex)
    (index : Nat) :
    sessionSlotFromObject (sessionObject c slot.val) index = .ok (some slot) := by
  have hstr : Str (quote :: sessionSlotName slot.val ++ [quote]) (sessionSlotName slot.val) :=
    ⟨_, chars_plain (sessionSlotName_plain slot.val), rfl⟩
  obtain ⟨rest, hfind, hend⟩ := sessionObject_document h slot.val (ascii "slot")
    (quote :: sessionSlotName slot.val ++ [quote]) (by decide) rfl
  have hread := jsonRead_some hfind (stringAt_str hstr (sessionSlotName_short slot) hend)
  unfold sessionSlotFromObject jsonReadString
  rw [hread]
  dsimp only
  rw [slotNamed_name]

/-- One entry of the written array puts its profile in its slot. -/
theorem applySessionsArray_entry {settings : NativeSettings} (h : settings.InRange)
    (slot : SlotIndex) (after : List UInt8) (he : (sessionElements settings)[slot.val]? =
      some (sessionElement (settings.sessions slot) slot.val after)) (fuel : Nat)
    (current : NativeSettings) :
    applySessionsArray (writeJson settings) (fuel + 1) slot.val current =
      applySessionsArray (writeJson settings) fuel (slot.val + 1)
        (current.setSession slot (settings.sessions slot)) := by
  obtain ⟨start, hfind, htake⟩ := findSessionObject_written h he
  have hobject : start.take (sessionElement (settings.sessions slot) slot.val after).value.length =
      sessionObject (settings.sessions slot) slot.val := htake
  have hslot := sessionSlotFromObject_written (h.sessions slot) slot slot.val
  have hconfig := applySessionJson_written (h.sessions slot) slot.val (current.sessions slot)
  rw [applySessionsArray, hfind, Scan.ok_bind]
  dsimp only
  rw [hobject, hslot, Scan.ok_bind]
  dsimp only
  rw [hconfig, Scan.ok_bind]

theorem applySessionsArray_written {settings : NativeSettings} (h : settings.InRange)
    (current : NativeSettings) (fuel : Nat) :
    applySessionsArray (writeJson settings) (fuel + 5) 0 current =
      .ok { current with sessions := settings.sessions } := by
  have hred := applySessionsArray_entry h slotRed [] rfl (fuel + 4) current
  have hgreen := applySessionsArray_entry h slotGreen [] rfl (fuel + 3)
    (current.setSession slotRed (settings.sessions slotRed))
  have hyellow := applySessionsArray_entry h slotYellow [] rfl (fuel + 2)
    ((current.setSession slotRed (settings.sessions slotRed)).setSession slotGreen
      (settings.sessions slotGreen))
  have hblue := applySessionsArray_entry h slotBlue (ascii "\n  ") rfl (fuel + 1)
    (((current.setSession slotRed (settings.sessions slotRed)).setSession slotGreen
      (settings.sessions slotGreen)).setSession slotYellow (settings.sessions slotYellow))
  have hend : ∀ last, applySessionsArray (writeJson settings) (fuel + 1) 4 last = .ok last := by
    intro last
    rw [applySessionsArray, findSessionObject_end h]
    rfl
  refine hred.trans (hgreen.trans (hyellow.trans (hblue.trans ((hend _).trans ?_))))
  have hall : ((((current.setSession slotRed (settings.sessions slotRed)).setSession slotGreen
      (settings.sessions slotGreen)).setSession slotYellow
      (settings.sessions slotYellow)).setSession slotBlue
      (settings.sessions slotBlue)).sessions = settings.sessions := by
    funext slot
    match slot with
    | ⟨0, _⟩ => rfl
    | ⟨1, _⟩ => rfl
    | ⟨2, _⟩ => rfl
    | ⟨3, _⟩ => rfl
  rw [← hall]
  rfl

theorem applyGlobalJson_written {settings current : NativeSettings} (h : settings.InRange)
    (hsessions : current.sessions = settings.sessions) :
    applyGlobalJson current (writeJson settings) = .ok settings := by
  have hdoc := writeJson_document h
  have hwheel := hdoc.u16 (ascii "wheelStep") (by decide) rfl h.wheelStep
  have hdivisor := hdoc.u16 (ascii "wheelScrollDivisor") (by decide) rfl h.wheelScrollDivisor
  have hcamera := hdoc.bool (ascii "cameraEnabled") (by decide) rfl
  have hdevice := hdoc.string (ascii "cameraDeviceId") (by decide) rfl h.cameraDeviceId
  have hwidth := hdoc.u16 (ascii "cameraWidth") (by decide) rfl h.cameraWidth
  have hheight := hdoc.u16 (ascii "cameraHeight") (by decide) rfl h.cameraHeight
  have hfps := hdoc.u16 (ascii "cameraFps") (by decide) rfl h.cameraFps
  have haudio := hdoc.bool (ascii "audioInputEnabled") (by decide) rfl
  have haudioDevice := hdoc.string (ascii "audioInputDeviceId") (by decide) rfl
    h.audioInputDeviceId
  have hgain := hdoc.i16 (ascii "audioInputGainDb") (by decide) rfl h.audioInputGainDb
  have hcodec : applyAudioCodec (writeJson settings) current.audioCodec =
      .ok settings.audioCodec := by
    obtain ⟨rest, hfind, hend⟩ := hdoc (ascii "audioCodec")
      (quote :: audioCodecName settings.audioCodec ++ [quote]) (by decide) rfl
    have hstr : Str (quote :: audioCodecName settings.audioCodec ++ [quote])
        (audioCodecName settings.audioCodec) :=
      ⟨_, chars_plain (audioCodecName_plain _), rfl⟩
    have hshort : (audioCodecName settings.audioCodec).length < 16 := by
      cases settings.audioCodec <;> decide
    have hread := jsonRead_some hfind (stringAt_str hstr hshort hend)
    unfold applyAudioCodec jsonReadString
    rw [hread, Scan.ok_bind]
    cases settings.audioCodec with
    | auto => exact if_pos (.inl rfl)
    | pcm => rfl
  have heven : ¬ (settings.cameraWidth % 2 ≠ 0 ∨ settings.cameraHeight % 2 ≠ 0) := by
    have hboth := h.cameraEven
    omega
  unfold applyGlobalJson
  simp only [hwheel, hdivisor, hcodec, hcamera, hdevice, hwidth, hheight, hfps, haudio,
    haudioDevice, hgain, Scan.ok_bind, if_neg heven, hsessions]

/-- The written document, laid over any model, gives the model that was written. -/
theorem applyJson_written {settings : NativeSettings} (h : settings.InRange)
    (current : NativeSettings) : applyJson current (writeJson settings) = .ok settings := by
  have hvalid : validateObject (writeJson settings) = .ok true :=
    validateObject_complete ((text_iff_root _).mpr ⟨_, _, writeJson_root h⟩)
  obtain ⟨rest, hfind, -⟩ := writeJson_document h sessionsKey (sessionsArray settings)
    (by decide) rfl
  have hopen : ¬ peek (sessionsArray settings ++ rest) ≠ openBracket := fun hne => hne rfl
  have hlength : ∃ fuel, (writeJson settings).length + 1 = fuel + 5 := by
    refine ⟨(writeJson settings).length - 4, ?_⟩
    have hlong : 4 ≤ (writeJson settings).length := by
      rw [writeJson_eq]
      simp only [containerText, List.length_append, List.length_cons, Entry.text, member]
      omega
    omega
  obtain ⟨fuel, hfuel⟩ := hlength
  unfold applyJson
  rw [hvalid, Scan.ok_bind, if_neg (by decide), hfind]
  dsimp only
  rw [if_neg hopen, hfuel, applySessionsArray_written h, Scan.ok_bind]
  exact applyGlobalJson_written h rfl

end Lgnome.Settings
