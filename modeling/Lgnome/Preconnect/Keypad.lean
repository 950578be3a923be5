import Lgnome.Bytes.LittleEndian
import Lgnome.Transition.Circular
import Lgnome.Transition.Machine

/-!
# The keypad of the start screen

`ui_key_queue.c`, and from `ui_preconnect_display.c` what turns the events that SDL has
queued into the edges that LVGL reads. One read takes events up to the next one of the
pointer and answers with one edge. What was taken, entered and told is recorded.
-/
namespace Lgnome.Preconnect

open Lgnome.Transition

/-- An edge of a key: pressed, or released. -/
structure NativeUiQueuedKey where
  key : UInt32
  pressed : Bool
  deriving DecidableEq, Repr

def nativeUiKeyQueueCap : Nat := 1023

structure NativeUiKeyQueue extends Circular NativeUiQueuedKey where
  overflowed : Bool := false
  deriving DecidableEq, Repr

namespace NativeUiKeyQueue

def zeroed : NativeUiKeyQueue where
  slots := List.replicate nativeUiKeyQueueCap ⟨0, false⟩

def clear (queue : NativeUiKeyQueue) : NativeUiKeyQueue where
  toCircular := queue.toCircular.clear

/-- Nothing more is taken of a burst that did not fit. -/
def enqueue (queue : NativeUiKeyQueue) (edge : NativeUiQueuedKey) : NativeUiKeyQueue :=
  if queue.overflowed then queue
  else
    match queue.push nativeUiKeyQueueCap edge with
    | none => { queue with overflowed := true }
    | some pushed => { queue with toCircular := pushed }

end NativeUiKeyQueue

/-- `SDL_KeyboardEvent`, with the modifiers that are asked for. -/
structure SdlKeyboardEvent where
  down : Bool
  repeated : Bool := false
  scancode : UInt32 := 0
  sym : UInt32
  shift : Bool := false
  caps : Bool := false
  deriving DecidableEq, Repr

/-- What SDL has queued, from `SDL_KEYDOWN` to `SDL_MOUSEBUTTONUP`. -/
inductive SdlEvent where
  | key (event : SdlKeyboardEvent)
  | textInput (text : Bytes)
  /-- Another one below `SDL_MOUSEMOTION`. -/
  | other
  | mouse
  deriving DecidableEq, Repr

/-- What `SDL_HasEvent` is asked for. -/
def SdlEvent.isText : SdlEvent → Bool
  | .textInput _ => true
  | _ => false

def lvKeyEsc : UInt32 := 27
def lvKeyNext : UInt32 := 9
def lvKeyPrev : UInt32 := 11
def sdlkTab : UInt32 := 9

/-- `SDL_WEBOS_SCANCODE_BACK` and `SDL_SCANCODE_ESCAPE`. -/
def backScancodes : List UInt32 := [482, 41]

/-- Of the arrows, Escape, Delete, Backspace, the Enter keys, Home and End. -/
def lvKeys : List (UInt32 × UInt32) :=
  [(0x40000052, 17), (0x40000051, 18), (0x40000050, 20), (0x4000004f, 19), (27, lvKeyEsc),
    (127, 127), (8, 8), (0x40000058, 10), (13, 10), (0x4000009e, 10), (0x4000004a, 2),
    (0x4000004d, 3)]

/-- `key_from_sdl`. -/
def keyFromSdl (event : SdlKeyboardEvent) : Option UInt32 :=
  if event.scancode ∈ backScancodes then some lvKeyEsc
  else if event.sym = sdlkTab then some (if event.shift then lvKeyPrev else lvKeyNext)
  else lvKeys.lookup event.sym

/-- The digits with Shift, from zero on. -/
def shiftedDigits : List Char := [')', '!', '@', '#', '$', '%', '^', '&', '*', '(']

/-- The other keys with a character, and the one with Shift. -/
def punctuation : List (UInt32 × Char × Char) :=
  [(32, ' ', ' '), (46, '.', '>'), (0x40000063, '.', '>'), (44, ',', '<'), (59, ';', ':'),
    (58, ':', ':'), (47, '/', '?'), (0x40000054, '/', '?'), (92, '\\', '|'), (45, '-', '_'),
    (0x40000056, '-', '_'), (61, '=', '+'), (0x40000067, '=', '+'), (91, '[', '\x7b'),
    (93, ']', '\x7d'), (39, '\'', '"'), (96, '\x60', '~'), (0x40000055, '*', '*'),
    (0x40000057, '+', '+')]

/-- `text_key_from_sdl`. -/
def textKeyFromSdl (event : SdlKeyboardEvent) : Option UInt32 :=
  let sym := event.sym
  if event.down = false then none
  else if 97 ≤ sym ∧ sym ≤ 122 then some (if event.shift != event.caps then sym - 32 else sym)
  else if 48 ≤ sym ∧ sym ≤ 57 then
    if event.shift then shiftedDigits[(sym - 48).toNat]?.map (·.val) else some sym
  else if sym = 0x40000062 then some 48
  else if 0x40000059 ≤ sym ∧ sym ≤ 0x40000061 then some (49 + (sym - 0x40000059))
  else (punctuation.lookup sym).map fun chars => (if event.shift then chars.2 else chars.1).val

/-- `utf8_char_len`. -/
def utf8CharLen (first : UInt8) : Nat :=
  if first &&& 0x80 = 0 then 1
  else if first &&& 0xe0 = 0xc0 then 2
  else if first &&& 0xf0 = 0xe0 then 3
  else if first &&& 0xf8 = 0xf0 then 4
  else 1

/-- The length of the character in front. One that is cut off counts byte by byte. -/
def charLen (first : UInt8) (rest : Bytes) : Nat :=
  if rest.length + 1 < utf8CharLen first then 1 else utf8CharLen first

/-- The loop of `enqueue_text`. -/
def textCharsLoop : Nat → Bytes → List Bytes
  | 0, _ => []
  | _, [] => []
  | fuel + 1, first :: rest =>
    (first :: rest).take (charLen first rest) ::
      textCharsLoop fuel ((first :: rest).drop (charLen first rest))

def textChars (text : Bytes) : List Bytes := textCharsLoop text.length text

/-- The bytes of a character in a word. -/
def charKey (char : Bytes) : UInt32 := UInt32.ofNat (readLe32 char 0)

/-- The edges of `enqueue_tap`. -/
def tap (key : UInt32) : List NativeUiQueuedKey := [⟨key, true⟩, ⟨key, false⟩]

/-- The edges of `enqueue_text`. -/
def textTaps (text : Bytes) : List NativeUiQueuedKey :=
  (textChars text).flatMap fun char => tap (charKey char)

/-- The edges that an event other than BACK comes to. Text that SDL has ready spells what
the keys would. -/
def strokes (textInputPending : Bool) : SdlEvent → List NativeUiQueuedKey
  | .key event =>
    match keyFromSdl event with
    | some key => if key = lvKeyEsc then [] else [⟨key, event.down⟩]
    | none => if textInputPending then [] else ((textKeyFromSdl event).map tap).getD []
  | .textInput text => textTaps text
  | _ => []

/-- What LVGL is told, with what the observer knows by then. -/
structure Report where
  key : UInt32
  pressed : Bool
  continueReading : Bool
  taken : List SdlEvent
  backRepeated : Bool
  deriving DecidableEq, Repr

/-- `NativePreconnectKeyDriver` with the flags of the screen that close it and SDL's own
queue. The fields from `taken` on are recorded: what SDL handed over, the events entered
since the last reset with what they came to, the edges told since then, and whether BACK
repeated without having been pressed. -/
structure Keypad where
  queue : NativeUiKeyQueue := .zeroed
  key : UInt32 := 0
  pressed : Bool := false
  backPressed : Bool := false
  connecting : Bool := false
  hubClosing : Bool := false
  /-- Inside a read: whether text was pending at its start. -/
  reading : Option Bool := none
  sdl : List SdlEvent := []
  taken : List SdlEvent := []
  entered : List (Bool × SdlEvent) := []
  told : List NativeUiQueuedKey := []
  backRepeated : Bool := false
  log : List Report := []
  deriving DecidableEq, Repr

/-- What BACK finds: something to close, or the hub with or without a request to connect. -/
inductive BackTarget where
  | drawer
  | hub (connectRequested : Bool)
  deriving DecidableEq, Repr

namespace Keypad

def closed (s : Keypad) : Bool := s.connecting || s.hubClosing

/-- `native_ui_key_queue_clear`. -/
def clearQueue (s : Keypad) : Keypad := { s with queue := s.queue.clear, entered := [], told := [] }

/-- `native_ui_preconnect_reset_input_state`. -/
def resetInputState (s : Keypad) : Keypad :=
  { s.clearQueue with key := 0, pressed := false, backPressed := false, backRepeated := false }

/-- `native_ui_preconnect_back`, as far as the flags go. -/
def back (s : Keypad) (target : BackTarget) : Keypad :=
  if s.hubClosing then s
  else
    match target with
    | .drawer => s
    | .hub connectRequested =>
      { s with connecting := s.connecting && !connectRequested, hubClosing := true }

/-- BACK goes down or up. -/
def backKey (s : Keypad) (event : SdlKeyboardEvent) (target : BackTarget) : Keypad :=
  let fresh := event.down && !event.repeated && !s.backPressed
  let next := if fresh then (s.back target).resetInputState else s
  { next with
    backPressed := event.down
    backRepeated := next.backRepeated || (event.down && !fresh && !s.backPressed) }

def enter (s : Keypad) (textInputPending : Bool) (event : SdlEvent) : Keypad :=
  if s.closed || s.backPressed then s
  else
    { s with
      queue := (strokes textInputPending event).foldl .enqueue s.queue
      entered := s.entered ++ [(textInputPending, event)] }

/-- One event in `drain_sdl_key_events`. -/
def takeEvent (s : Keypad) (textInputPending : Bool) (event : SdlEvent) (target : BackTarget) :
    Keypad :=
  let s := { s with taken := s.taken ++ [event] }
  match event with
  | .key keyboard =>
    if keyFromSdl keyboard = some lvKeyEsc then s.backKey keyboard target
    else s.enter textInputPending event
  | _ => s.enter textInputPending event

/-- `native_ui_preconnect_key_read` behind the drain. -/
def answer (s : Keypad) : Keypad :=
  if s.closed then { s.clearQueue with pressed := false }
  else if s.queue.overflowed then { s.clearQueue with key := 0, pressed := false }
  else
    match s.queue.pop nativeUiKeyQueueCap with
    | none => s
    | some (edge, popped) =>
      { s with
        queue := { s.queue with toCircular := popped }
        key := edge.key, pressed := edge.pressed, told := s.told ++ [edge] }

def report (s : Keypad) : Report where
  key := s.key
  pressed := s.pressed
  continueReading := !s.queue.isEmpty
  taken := s.taken
  backRepeated := s.backRepeated

end Keypad

inductive KeypadAction where
  | arrive (event : SdlEvent)
  | beginRead
  | takeEvent (target : BackTarget)
  | endRead
  /-- The pointer takes an event that is in front. -/
  | pointerRead
  /-- A screen comes or goes. -/
  | reset
  | setFlags (connecting hubClosing : Bool)
  deriving DecidableEq, Repr

/-- All on one thread: what else happens, happens between two reads. -/
def keypadStep (s : Keypad) : KeypadAction → Option Keypad
  | .arrive event => some { s with sdl := s.sdl ++ [event] }
  | .beginRead =>
    if s.reading.isSome then none
    else some { s with reading := some (s.sdl.any SdlEvent.isText) }
  | .takeEvent target =>
    match s.reading, s.sdl with
    | some textInputPending, event :: rest =>
      if event = .mouse then none
      else some ({ s with sdl := rest }.takeEvent textInputPending event target)
    | _, _ => none
  | .endRead =>
    if s.reading.isNone ∨ (s.sdl.head?.any fun event => event != .mouse) then none
    else
      let answered := s.answer
      some { answered with reading := none, log := s.log ++ [answered.report] }
  | .pointerRead =>
    if s.reading.isSome then none
    else
      match s.sdl with
      | .mouse :: rest => some { s with sdl := rest }
      | _ => none
  | .reset => if s.reading.isSome then none else some s.resetInputState
  | .setFlags connecting hubClosing =>
    if s.reading.isSome then none else some { s with connecting, hubClosing }

def keypad : Machine Keypad KeypadAction Unit where
  init := {}
  step s action := (keypadStep s action).map fun next => (next, ())

/-! ## What LVGL reads -/

/-- What a key spells: its bytes up to the first zero. -/
def spelling (key : UInt32) : Bytes := (leBytes32 key).takeWhile (· ≠ 0)

/-- The text that the presses among some edges spell. -/
def spelled (edges : List NativeUiQueuedKey) : Bytes :=
  (edges.filter (·.pressed)).flatMap fun edge => spelling edge.key

/-- What an event does to the key that is down: nothing, or it is down from now on, or
none is. -/
def edgeOf : SdlEvent → Option (Option UInt32)
  | .key event =>
    match keyFromSdl event with
    | none => none
    | some key =>
      if key = lvKeyEsc then if event.down then some none else none
      else some (if event.down then some key else none)
  | .textInput text => if text = [] then none else some none
  | _ => none

/-- The key whose press is the newest edge that SDL handed over. -/
def keyDown (taken : List SdlEvent) : Option UInt32 := (taken.filterMap edgeOf).getLast?.join

/-- The edges of what was entered since the last reset. -/
def Keypad.edges (s : Keypad) : List NativeUiQueuedKey :=
  s.entered.flatMap fun entry => strokes entry.1 entry.2

/-- BACK, or Escape on a keyboard. -/
def SdlEvent.isBack : SdlEvent → Bool
  | .key event => keyFromSdl event = some lvKeyEsc
  | _ => false

/-- A BACK that goes down, and is down for the first time. -/
def Keypad.pressesBack (s : Keypad) : SdlEvent → Bool
  | .key event =>
    keyFromSdl event = some lvKeyEsc && (event.down && !event.repeated && !s.backPressed)
  | _ => false

/-- The events that are let in, by the state before an action: an event that is taken while
the keypad is open and BACK is up joins them, and BACK going down, a reset and a read by a
keypad that is closed or has overflowed start anew. -/
def Keypad.letIn (s : Keypad) : KeypadAction → List (Bool × SdlEvent)
  | .takeEvent _ =>
    match s.reading, s.sdl with
    | some textInputPending, event :: _ =>
      if s.pressesBack event then []
      else if event.isBack = false ∧ s.closed = false ∧ s.backPressed = false then
        s.entered ++ [(textInputPending, event)]
      else s.entered
    | _, _ => s.entered
  | .reset => []
  | .endRead => if s.closed ∨ s.queue.overflowed then [] else s.entered
  | _ => s.entered

/-- The key that is down when all is read, or none when the burst is dropped. -/
def Keypad.settled (s : Keypad) (waiting : List NativeUiQueuedKey) : Option UInt32 :=
  if s.queue.overflowed ∨ s.reading.isSome ∧ s.closed then none
  else
    let last := waiting.getLast?.getD ⟨s.key, s.pressed⟩
    if last.pressed then some last.key else none

/-- The queue holds what was entered and not yet told; only a full queue drops edges; and
a key stays down no longer than its press is the newest edge. -/
structure Keypad.Faithful (s : Keypad) (waiting : List NativeUiQueuedKey) : Prop where
  holds : s.queue.Holds nativeUiKeyQueueCap waiting
  known : (s.entered.map Prod.snd).Sublist s.taken
  carried : ∃ dropped, s.told ++ waiting ++ dropped = s.edges ∧
    (s.queue.overflowed = false → dropped = []) ∧
    (s.queue.overflowed = true → waiting.length + 1 = nativeUiKeyQueueCap)
  backed : s.backRepeated = false → ∀ key, s.settled waiting = some key →
    keyDown s.taken = some key
  quiet : s.backPressed = true → s.backRepeated = false →
    waiting = [] ∧ s.queue.overflowed = false ∧ s.pressed = false

/-! ## Text -/

theorem charLen_bounds (first : UInt8) (rest : Bytes) :
    1 ≤ charLen first rest ∧ charLen first rest ≤ 4 ∧ charLen first rest ≤ rest.length + 1 := by
  have hutf : 1 ≤ utf8CharLen first ∧ utf8CharLen first ≤ 4 := by
    rw [utf8CharLen]
    split_ifs <;> omega
  rw [charLen]
  split_ifs <;> omega

/-- The characters are the text, cut into pieces of one to four bytes. -/
theorem textCharsLoop_cuts {fuel : Nat} {text : Bytes} (h : text.length ≤ fuel) :
    (textCharsLoop fuel text).flatten = text ∧
      ∀ char ∈ textCharsLoop fuel text, char ≠ [] ∧ char.length ≤ 4 := by
  induction fuel generalizing text with
  | zero =>
    obtain rfl := List.length_eq_zero_iff.1 (Nat.le_zero.1 h)
    exact ⟨rfl, nofun⟩
  | succ fuel ih =>
    cases text with
    | nil => exact ⟨rfl, nofun⟩
    | cons first rest =>
      obtain ⟨hpos, hfour, hfits⟩ := charLen_bounds first rest
      rw [List.length_cons] at h
      have hshort : ((first :: rest).drop (charLen first rest)).length ≤ fuel := by
        rw [List.length_drop, List.length_cons]
        omega
      obtain ⟨hflatten, hchars⟩ := ih hshort
      rw [textCharsLoop]
      refine ⟨?_, ?_⟩
      · rw [List.flatten_cons, hflatten, List.take_append_drop]
      · intro char hmem
        rcases List.mem_cons.1 hmem with rfl | hmem
        · have hlen : ((first :: rest).take (charLen first rest)).length = charLen first rest := by
            rw [List.length_take, List.length_cons]
            omega
          refine ⟨?_, hlen.trans_le hfour⟩
          intro hnil
          rw [hnil, List.length_nil] at hlen
          omega
        · exact hchars char hmem

theorem textChars_nil {text : Bytes} (h : textChars text = []) : text = [] := by
  rw [← (textCharsLoop_cuts (Nat.le_refl text.length)).1]
  exact congrArg List.flatten h

theorem leBytes32_read (char : Bytes) (h : char.length = 4) :
    leBytes32 (UInt32.ofNat (readLe32 char 0)) = char := by
  have hlt : readLe32 char 0 < 2 ^ 32 := readLe_lt 4 char 0
  have hback := readLe32_leBytes32 (UInt32.ofNat (readLe32 char 0)) []
  rw [List.append_nil, UInt32.toNat_ofNat_of_lt' hlt] at hback
  have hiff : readLe 4 char 0 = readLe 4 (leBytes32 (UInt32.ofNat (readLe32 char 0))) 0 ↔
      slice char 0 4 = leBytes32 (UInt32.ofNat (readLe32 char 0)) :=
    readLe_eq_iff rfl (by omega)
  have hslice := hiff.1 hback.symm
  rw [← hslice, slice]
  simp [← h]

/-- Bytes that are not there read as zeros. -/
theorem readLe_zeros (width : Nat) (b : Bytes) (n offset : Nat) :
    readLe width (b ++ List.replicate n 0) offset = readLe width b offset := by
  induction width generalizing offset with
  | zero => rfl
  | succ width ih =>
    have hget : (b ++ List.replicate n 0).getD offset 0 = b.getD offset 0 := by
      rw [List.getD_eq_getElem?_getD, List.getD_eq_getElem?_getD]
      rcases Nat.lt_or_ge offset b.length with hlt | hge
      · rw [List.getElem?_append_left hlt]
      · rw [List.getElem?_append_right hge, List.getElem?_eq_none hge, List.getElem?_replicate]
        split <;> rfl
    simp only [readLe, hget, ih]

/-- A word spells the character whose bytes it was made of. -/
theorem spelling_charKey {char : Bytes} (hlen : char.length ≤ 4) (hzero : 0 ∉ char) :
    spelling (charKey char) = char := by
  have hpadded : (char ++ List.replicate (4 - char.length) 0).length = 4 := by
    rw [List.length_append, List.length_replicate]
    omega
  have hread : readLe32 (char ++ List.replicate (4 - char.length) 0) 0 = readLe32 char 0 :=
    readLe_zeros 4 char _ 0
  have hbytes := leBytes32_read _ hpadded
  rw [hread] at hbytes
  rw [spelling, charKey, hbytes, List.takeWhile_append_of_pos]
  · cases 4 - char.length with
    | zero => exact List.append_nil _
    | succ n => simp [List.replicate_succ]
  · intro byte hmem
    have hne : byte ≠ 0 := fun heq => hzero (heq ▸ hmem)
    exact decide_eq_true hne

/-- The taps of a text spell it. -/
theorem spelled_textTaps {text : Bytes} (hzero : 0 ∉ text) : spelled (textTaps text) = text := by
  obtain ⟨hflatten, hchars⟩ := textCharsLoop_cuts (Nat.le_refl text.length)
  have hpieces : ∀ char ∈ textChars text, spelling (charKey char) = char := by
    intro char hmem
    refine spelling_charKey (hchars char hmem).2 fun hin => hzero ?_
    rw [← hflatten]
    exact List.mem_flatten.2 ⟨char, hmem, hin⟩
  have hspelled : ∀ chars : List Bytes,
      spelled (chars.flatMap fun char => tap (charKey char)) =
        (chars.map fun char => spelling (charKey char)).flatten := by
    intro chars
    induction chars with
    | nil => rfl
    | cons char chars ih =>
      rw [List.map_cons, List.flatten_cons, ← ih]
      rfl
  rw [textTaps, hspelled, List.map_congr_left hpieces, List.map_id']
  exact hflatten

/-! ## Steps -/

variable {q : NativeUiKeyQueue} {waiting : List NativeUiQueuedKey} {s next : Keypad}

/-- A queue takes the front part of a burst, all of it unless it is full then. -/
theorem foldl_enqueue (edges : List NativeUiQueuedKey) (h : q.Holds nativeUiKeyQueueCap waiting)
    (hfull : q.overflowed = true → waiting.length + 1 = nativeUiKeyQueueCap) :
    ∃ more dropped, edges = more ++ dropped ∧
      (edges.foldl NativeUiKeyQueue.enqueue q).Holds nativeUiKeyQueueCap (waiting ++ more) ∧
      ((edges.foldl NativeUiKeyQueue.enqueue q).overflowed = true →
        (waiting ++ more).length + 1 = nativeUiKeyQueueCap) ∧
      ((edges.foldl NativeUiKeyQueue.enqueue q).overflowed = false →
        dropped = [] ∧ q.overflowed = false) ∧
      (q.overflowed = true → more = []) := by
  induction edges generalizing q waiting with
  | nil =>
    refine ⟨[], [], rfl, ?_⟩
    rw [List.append_nil]
    exact ⟨h, hfull, fun ho => ⟨rfl, ho⟩, fun _ => rfl⟩
  | cons edge edges ih =>
    rw [List.foldl_cons]
    cases hoverflowed : q.overflowed with
    | true =>
      have hsame : q.enqueue edge = q := by rw [NativeUiKeyQueue.enqueue, if_pos hoverflowed]
      rw [hsame]
      obtain ⟨more, dropped, -, hholds, hlong, hopen, hnone⟩ := ih h hfull
      obtain rfl := hnone hoverflowed
      refine ⟨[], edge :: edges, rfl, hholds, hlong, fun ho => ?_, fun _ => rfl⟩
      rw [(hopen ho).2] at hoverflowed
      cases hoverflowed
    | false =>
      cases hpush : q.push nativeUiKeyQueueCap edge with
      | none =>
        have hlong := h.push_none.1 hpush
        have hnext : q.enqueue edge = { q with overflowed := true } := by
          rw [NativeUiKeyQueue.enqueue, if_neg (by rw [hoverflowed]; decide), hpush]
        rw [hnext]
        obtain ⟨more, dropped, -, hholds, hlong', hopen, hnone⟩ :=
          ih (q := { q with overflowed := true }) h (fun _ => hlong)
        obtain rfl := hnone rfl
        exact ⟨[], edge :: edges, rfl, hholds, hlong', fun ho => (nomatch (hopen ho).2), nofun⟩
      | some pushed =>
        have hnext : q.enqueue edge = { q with toCircular := pushed } := by
          rw [NativeUiKeyQueue.enqueue, if_neg (by rw [hoverflowed]; decide), hpush]
        rw [hnext]
        obtain ⟨more, dropped, rfl, hholds, hlong, hopen, -⟩ :=
          ih (q := { q with toCircular := pushed }) (h.push_some hpush)
            (fun ho => absurd (hoverflowed.symm.trans ho) (by decide))
        refine ⟨edge :: more, dropped, rfl, ?_, ?_, fun ho => ⟨(hopen ho).1, rfl⟩, nofun⟩
        · rw [List.append_cons]
          exact hholds
        · intro ho
          rw [List.append_cons]
          exact hlong ho

/-- What an event comes to ends in the edge that it is. -/
theorem strokes_last (textInputPending : Bool) (event : SdlEvent)
    (hback : ∀ keyboard, event = .key keyboard → keyFromSdl keyboard ≠ some lvKeyEsc) :
    strokes textInputPending event = [] ∧ edgeOf event = none ∨
      ∃ last, (strokes textInputPending event).getLast? = some last ∧
        (last.pressed = true → edgeOf event = some (some last.key)) := by
  cases event with
  | key keyboard =>
    have hesc := hback keyboard rfl
    cases hkey : keyFromSdl keyboard with
    | none =>
      simp only [strokes, edgeOf, hkey]
      cases textInputPending with
      | true => exact .inl ⟨rfl, trivial⟩
      | false =>
        cases textKeyFromSdl keyboard with
        | none => exact .inl ⟨rfl, trivial⟩
        | some key => exact .inr ⟨⟨key, false⟩, rfl, nofun⟩
    | some key =>
      have hne : key ≠ lvKeyEsc := fun heq => hesc (by rw [hkey, heq])
      simp only [strokes, edgeOf, hkey, if_neg hne]
      refine .inr ⟨⟨key, keyboard.down⟩, rfl, fun hdown => ?_⟩
      dsimp only at hdown
      rw [hdown]
      rfl
  | textInput text =>
    by_cases hempty : text = []
    · subst hempty
      exact .inl ⟨rfl, rfl⟩
    · refine .inr ?_
      have hchars : textChars text ≠ [] := fun hnil => hempty (textChars_nil hnil)
      obtain ⟨front, char, hsplit⟩ := (List.eq_nil_or_concat' (textChars text)).resolve_left hchars
      refine ⟨⟨charKey char, false⟩, ?_, nofun⟩
      rw [strokes, textTaps, hsplit, List.flatMap_append]
      simp [tap]
  | other => exact .inl ⟨rfl, rfl⟩
  | mouse => exact .inl ⟨rfl, rfl⟩

theorem keyDown_snoc (taken : List SdlEvent) (event : SdlEvent) :
    keyDown (taken ++ [event]) = ((edgeOf event).getD (keyDown taken)) := by
  rw [keyDown, List.filterMap_append]
  cases hedge : edgeOf event with
  | none => simp [hedge, keyDown]
  | some edge => simp [hedge]

theorem Keypad.settled_released (h : s.pressed = false) : s.settled [] = none := by
  rw [settled, h]
  split_ifs <;> rfl

theorem Keypad.reset_faithful (hslots : s.queue.slots.length = nativeUiKeyQueueCap)
    (backPressed backRepeated : Bool) :
    { s.resetInputState with backPressed, backRepeated }.Faithful [] where
  holds := Circular.holds_clear hslots (by decide)
  known := List.nil_sublist _
  carried := ⟨[], rfl, fun _ => rfl, nofun⟩
  backed _ key hkey := nomatch (Keypad.settled_released rfl).symm.trans hkey
  quiet _ _ := ⟨rfl, rfl, rfl⟩

/-- An event that is dropped leaves no key down. -/
theorem Keypad.Faithful.unentered (h : s.Faithful waiting) (hreading : s.reading.isSome)
    (hdropped : (s.closed || s.backPressed) = true) (hfresh : s.backRepeated = false) :
    s.settled waiting = none := by
  rcases Bool.or_eq_true_iff.1 hdropped with hclosed | hback
  · rw [Keypad.settled, if_pos (.inr ⟨hreading, hclosed⟩)]
  · obtain ⟨rfl, -, hreleased⟩ := h.quiet hback hfresh
    exact Keypad.settled_released hreleased

theorem Keypad.Faithful.enter (h : s.Faithful waiting) {textInputPending : Bool} {event : SdlEvent}
    (hreading : s.reading = some textInputPending)
    (hback : ∀ keyboard, event = .key keyboard → keyFromSdl keyboard ≠ some lvKeyEsc) :
    ∃ waiting', ({ s with taken := s.taken ++ [event] }.enter textInputPending event).Faithful
      waiting' := by
  have hsome : s.reading.isSome := by rw [hreading]; rfl
  cases hdropped : s.closed || s.backPressed with
  | true =>
    refine ⟨waiting, ?_⟩
    have hsame : ({ s with taken := s.taken ++ [event] }.enter textInputPending event) =
        { s with taken := s.taken ++ [event] } := if_pos hdropped
    rw [hsame]
    refine { h with known := h.known.trans (List.sublist_append_left ..), backed := ?_ }
    intro hfresh key hkey
    exact nomatch (h.unentered hsome hdropped hfresh).symm.trans hkey
  | false =>
    obtain ⟨hopen, hbackUp⟩ := Bool.or_eq_false_iff.1 hdropped
    obtain ⟨dropped, hcarried, hnone, hfull⟩ := h.carried
    obtain ⟨more, dropped', hstrokes, hholds, hfull', hwhole, hstuck⟩ :=
      foldl_enqueue (strokes textInputPending event) h.holds hfull
    have hnext : ({ s with taken := s.taken ++ [event] }.enter textInputPending event) =
        { s with
          taken := s.taken ++ [event]
          queue := (strokes textInputPending event).foldl .enqueue s.queue
          entered := s.entered ++ [(textInputPending, event)] } :=
      if_neg (Bool.eq_false_iff.1 hdropped)
    rw [hnext]
    refine ⟨waiting ++ more, hholds, ?_, ⟨dropped ++ dropped', ?_, ?_, hfull'⟩, ?_, ?_⟩
    · dsimp only
      rw [List.map_append]
      exact h.known.append (List.Sublist.refl [event])
    · have hold : s.edges = s.entered.flatMap fun entry => strokes entry.1 entry.2 := rfl
      dsimp only [Keypad.edges]
      rw [List.flatMap_append, ← hold, ← hcarried]
      simp only [List.flatMap_cons, List.flatMap_nil, List.append_nil, hstrokes]
      cases hoverflowed : s.queue.overflowed with
      | true => rw [hstuck hoverflowed]; simp
      | false => rw [hnone hoverflowed]; simp
    · intro ho
      obtain ⟨rfl, hbefore⟩ := hwhole ho
      rw [hnone hbefore]
      rfl
    · intro hfresh key hkey
      dsimp only at hfresh ⊢
      rw [keyDown_snoc]
      simp only [Keypad.settled] at hkey
      split_ifs at hkey with hcut hpressed
      have hunfull : ((strokes textInputPending event).foldl NativeUiKeyQueue.enqueue
          s.queue).overflowed = false := by
        by_contra hne
        exact hcut (.inl (Bool.eq_true_of_not_eq_false hne))
      obtain ⟨rfl, hbefore⟩ := hwhole hunfull
      rw [List.append_nil] at hstrokes
      rcases strokes_last textInputPending event hback with ⟨hempty, hedge⟩ | ⟨last, hlast, hedge⟩
      · rw [hstrokes] at hempty
        subst hempty
        rw [List.append_nil] at hkey hpressed
        rw [hedge]
        refine h.backed hfresh key ?_
        rw [Keypad.settled, if_neg, if_pos hpressed]
        · exact hkey
        · rintro (ho | ⟨-, hclosed⟩)
          · rw [hbefore] at ho
            cases ho
          · rw [hopen] at hclosed
            cases hclosed
      · rw [hstrokes] at hlast
        rw [List.getLast?_append, hlast] at hkey hpressed
        rw [hedge hpressed]
        exact hkey
    · intro hdown
      rw [hbackUp] at hdown
      cases hdown

theorem edgeOf_back {keyboard : SdlKeyboardEvent} (hback : keyFromSdl keyboard = some lvKeyEsc) :
    edgeOf (.key keyboard) = if keyboard.down then some none else none := by
  rw [edgeOf, hback]
  rfl

theorem Keypad.back_queue (s : Keypad) (target : BackTarget) : (s.back target).queue = s.queue := by
  simp only [Keypad.back]
  split
  · rfl
  · cases target <;> rfl

theorem Keypad.backKey_fresh {keyboard : SdlKeyboardEvent} (target : BackTarget)
    (h : (keyboard.down && !keyboard.repeated && !s.backPressed) = true) :
    s.backKey keyboard target =
      { (s.back target).resetInputState with backPressed := keyboard.down } := by
  simp only [Keypad.backKey, h]
  simp [Keypad.resetInputState]

theorem Keypad.backKey_held {keyboard : SdlKeyboardEvent} (target : BackTarget)
    (h : (keyboard.down && !keyboard.repeated && !s.backPressed) = false) :
    s.backKey keyboard target =
      { s with
        backPressed := keyboard.down
        backRepeated := s.backRepeated || (keyboard.down && !s.backPressed) } := by
  simp only [Keypad.backKey, h]
  simp

/-- BACK resets when it is pressed, and bars the other keys while it is down. -/
theorem Keypad.Faithful.backKey (h : s.Faithful waiting) {keyboard : SdlKeyboardEvent}
    (hreading : s.reading.isSome) (hback : keyFromSdl keyboard = some lvKeyEsc)
    (target : BackTarget) :
    ∃ waiting', (Keypad.backKey { s with taken := s.taken ++ [.key keyboard] } keyboard
      target).Faithful waiting' := by
  cases hfresh : keyboard.down && !keyboard.repeated && !s.backPressed with
  | true =>
    have hnext := Keypad.backKey_fresh (s := { s with taken := s.taken ++ [.key keyboard] }) target
      hfresh
    rw [hnext]
    refine ⟨[], Keypad.reset_faithful ?_ ..⟩
    rw [Keypad.back_queue]
    exact h.holds.slots
  | false =>
    have hnext := Keypad.backKey_held (s := { s with taken := s.taken ++ [.key keyboard] }) target
      hfresh
    rw [hnext]
    refine ⟨waiting, h.holds, h.known.trans (List.sublist_append_left ..), h.carried, ?_, ?_⟩
    · intro hrepeated key hkey
      obtain ⟨hbefore, hheld⟩ := Bool.or_eq_false_iff.1 hrepeated
      dsimp only
      rw [keyDown_snoc, edgeOf_back hback]
      cases hdown : keyboard.down with
      | false => exact h.backed hbefore key hkey
      | true =>
        rw [hdown, Bool.true_and, Bool.not_eq_false'] at hheld
        have hnone := h.unentered hreading (by rw [hheld, Bool.or_true]) hbefore
        exact nomatch hnone.symm.trans hkey
    · intro hdown hrepeated
      obtain ⟨hbefore, hheld⟩ := Bool.or_eq_false_iff.1 hrepeated
      dsimp only at hdown
      rw [hdown, Bool.true_and, Bool.not_eq_false'] at hheld
      exact h.quiet hheld hbefore

theorem Keypad.settled_open (hclosed : s.closed = false)
    (hoverflowed : s.queue.overflowed = false) :
    s.settled waiting =
      if (waiting.getLast?.getD ⟨s.key, s.pressed⟩).pressed then
        some (waiting.getLast?.getD ⟨s.key, s.pressed⟩).key
      else none := by
  rw [Keypad.settled, if_neg]
  rintro (ho | ⟨-, hc⟩)
  · exact absurd (hoverflowed.symm.trans ho) (by decide)
  · exact absurd (hclosed.symm.trans hc) (by decide)

theorem Keypad.cleared_faithful (hslots : s.queue.slots.length = nativeUiKeyQueueCap)
    (key : UInt32) :
    { s.clearQueue with key, pressed := false, reading := none }.Faithful [] where
  holds := Circular.holds_clear hslots (by decide)
  known := List.nil_sublist _
  carried := ⟨[], rfl, fun _ => rfl, nofun⟩
  backed _ _ hkey := nomatch (Keypad.settled_released rfl).symm.trans hkey
  quiet _ _ := ⟨rfl, rfl, rfl⟩

/-- What is told is taken from the front; a closed or overflowed keypad starts anew. -/
theorem Keypad.Faithful.answer (h : s.Faithful waiting) :
    ∃ waiting', { s.answer with reading := none }.Faithful waiting' := by
  cases hclosed : s.closed with
  | true =>
    have hnext : s.answer = { s.clearQueue with pressed := false } := if_pos hclosed
    rw [hnext]
    exact ⟨[], Keypad.cleared_faithful h.holds.slots s.key⟩
  | false =>
    have hbehind : s.answer = _ := if_neg (Bool.eq_false_iff.1 hclosed)
    cases hoverflowed : s.queue.overflowed with
    | true =>
      rw [hbehind, if_pos hoverflowed]
      exact ⟨[], Keypad.cleared_faithful h.holds.slots 0⟩
    | false =>
      rw [hbehind, if_neg (Bool.eq_false_iff.1 hoverflowed)]
      obtain ⟨dropped, hcarried, hnone, hfull⟩ := h.carried
      obtain rfl := hnone hoverflowed
      rw [List.append_nil] at hcarried
      cases waiting with
      | nil =>
        rw [h.holds.pop_nil]
        refine ⟨[], h.holds, h.known, h.carried, ?_, h.quiet⟩
        intro hfresh key hkey
        refine h.backed hfresh key ?_
        rw [Keypad.settled_open hclosed hoverflowed]
        rw [Keypad.settled_open (by exact hclosed) (by exact hoverflowed)] at hkey
        exact hkey
      | cons edge rest =>
        obtain ⟨popped, hpop, hholds⟩ := h.holds.pop_cons
        rw [hpop]
        refine ⟨rest, hholds, h.known, ⟨[], ?_, fun _ => rfl, ?_⟩, ?_, ?_⟩
        · dsimp only [Keypad.edges] at hcarried ⊢
          rw [← hcarried]
          simp
        · intro ho
          exact absurd (hoverflowed.symm.trans ho) (by decide)
        · intro hfresh key hkey
          refine h.backed hfresh key ?_
          rw [Keypad.settled_open (by exact hclosed) (by exact hoverflowed)] at hkey
          rw [Keypad.settled_open hclosed hoverflowed, List.getLast?_cons]
          cases hlast : rest.getLast? <;> rw [hlast] at hkey <;> exact hkey
        · intro hdown hfresh
          obtain ⟨hempty, -⟩ := h.quiet hdown hfresh
          cases hempty

/-- A key that LVGL is told to be held, with nothing left to read, is the newest one pressed. -/
def Report.Backed (report : Report) : Prop :=
  report.pressed = true → report.continueReading = false → report.backRepeated = false →
    keyDown report.taken = some report.key

def Keypad.Kept (s : Keypad) : Prop :=
  (∃ waiting, s.Faithful waiting) ∧ ∀ report ∈ s.log, report.Backed

theorem Keypad.Faithful.takeEvent (h : s.Faithful waiting) {textInputPending : Bool}
    (hreading : s.reading = some textInputPending) (event : SdlEvent) (target : BackTarget) :
    ∃ waiting', (s.takeEvent textInputPending event target).Faithful waiting' := by
  have hsome : s.reading.isSome := by rw [hreading]; rfl
  cases event with
  | key keyboard =>
    simp only [Keypad.takeEvent]
    split
    · exact h.backKey hsome ‹_› target
    · refine h.enter hreading ?_
      rintro _ ⟨⟩
      assumption
  | textInput text => exact h.enter hreading nofun
  | other => exact h.enter hreading nofun
  | mouse => exact h.enter hreading nofun

/-- An event other than BACK is entered just when the keypad is open and BACK is up. -/
theorem Keypad.enter_entered (s : Keypad) (textInputPending : Bool) (event : SdlEvent) :
    (s.enter textInputPending event).entered =
      if s.closed = false ∧ s.backPressed = false then s.entered ++ [(textInputPending, event)]
      else s.entered := by
  rw [Keypad.enter]
  cases s.closed <;> cases s.backPressed <;> rfl

theorem Keypad.backKey_entered (s : Keypad) {keyboard : SdlKeyboardEvent} (target : BackTarget) :
    (s.backKey keyboard target).entered =
      if keyboard.down && !keyboard.repeated && !s.backPressed then [] else s.entered := by
  split
  · rename_i hfresh
    rw [Keypad.backKey_fresh target hfresh]
    rfl
  · rename_i hheld
    rw [Keypad.backKey_held target (Bool.eq_false_iff.2 hheld)]

theorem Keypad.takeEvent_entered (s : Keypad) (textInputPending : Bool) (event : SdlEvent)
    (target : BackTarget) :
    (s.takeEvent textInputPending event target).entered =
      if s.pressesBack event then []
      else if event.isBack = false ∧ s.closed = false ∧ s.backPressed = false then
        s.entered ++ [(textInputPending, event)]
      else s.entered := by
  cases event with
  | key keyboard =>
    simp only [Keypad.takeEvent, Keypad.pressesBack, SdlEvent.isBack]
    by_cases hback : keyFromSdl keyboard = some lvKeyEsc
    · rw [if_pos hback, Keypad.backKey_entered]
      simp [hback]
    · rw [if_neg hback, Keypad.enter_entered]
      simp [hback, Keypad.closed]
  | textInput text =>
    simp [Keypad.takeEvent, Keypad.enter_entered, pressesBack, SdlEvent.isBack, closed]
  | other =>
    simp [Keypad.takeEvent, Keypad.enter_entered, pressesBack, SdlEvent.isBack, closed]
  | mouse =>
    simp [Keypad.takeEvent, Keypad.enter_entered, pressesBack, SdlEvent.isBack, closed]

theorem Keypad.answer_entered (s : Keypad) :
    s.answer.entered = if s.closed ∨ s.queue.overflowed then [] else s.entered := by
  rw [Keypad.answer]
  cases hclosed : s.closed with
  | true => rfl
  | false =>
    cases hoverflowed : s.queue.overflowed with
    | true => rfl
    | false => cases s.queue.pop nativeUiKeyQueueCap <;> rfl

theorem keypadStep_entered {action : KeypadAction} (hstep : keypadStep s action = some next) :
    next.entered = s.letIn action := by
  cases action with
  | takeEvent target =>
    simp only [keypadStep] at hstep
    split at hstep
    · rename_i textInputPending event rest hreading hsdl
      split at hstep
      · cases hstep
      · obtain rfl := Option.some.inj hstep
        rw [Keypad.takeEvent_entered]
        simp only [Keypad.letIn, hreading, hsdl]
        rfl
    · cases hstep
  | endRead =>
    simp only [keypadStep] at hstep
    split at hstep
    · cases hstep
    · obtain rfl := Option.some.inj hstep
      exact Keypad.answer_entered s
  | pointerRead =>
    simp only [keypadStep] at hstep
    split at hstep
    · cases hstep
    · split at hstep <;> cases hstep
      rfl
  | arrive event => cases hstep; rfl
  | beginRead =>
    simp only [keypadStep] at hstep
    split at hstep <;> cases hstep
    rfl
  | reset =>
    simp only [keypadStep] at hstep
    split at hstep <;> cases hstep
    rfl
  | setFlags connecting hubClosing =>
    simp only [keypadStep] at hstep
    split at hstep <;> cases hstep
    rfl

theorem Keypad.takeEvent_log (s : Keypad) (textInputPending : Bool) (event : SdlEvent)
    (target : BackTarget) : (s.takeEvent textInputPending event target).log = s.log := by
  have henter : ∀ taken, ({ s with taken }.enter textInputPending event).log = s.log := by
    intro taken
    simp only [Keypad.enter]
    split <;> rfl
  have hback : ∀ taken keyboard, (Keypad.backKey { s with taken } keyboard target).log = s.log := by
    intro taken keyboard
    simp only [Keypad.backKey]
    split
    · simp only [Keypad.back]
      split
      · rfl
      · cases target <;> rfl
    · rfl
  cases event with
  | key keyboard =>
    simp only [Keypad.takeEvent]
    split
    · exact hback _ keyboard
    · exact henter _
  | textInput text => exact henter _
  | other => exact henter _
  | mouse => exact henter _

theorem Keypad.Faithful.report (h : { s with reading := none }.Faithful waiting) :
    s.report.Backed := by
  intro hpressed hlast hfresh
  dsimp only [Keypad.report] at hpressed hlast hfresh ⊢
  have hempty : s.queue.isEmpty = true := by simpa using hlast
  obtain rfl := h.holds.isEmpty_iff.1 hempty
  refine h.backed hfresh s.key ?_
  rw [Keypad.settled, if_neg]
  · simp [hpressed]
  · rintro (hoverflowed | ⟨hreading, -⟩)
    · obtain ⟨-, -, -, hfull⟩ := h.carried
      exact absurd (hfull hoverflowed) (by decide)
    · cases hreading

/-- Outside a read the flags do not count; a read that begins only drops more. -/
theorem Keypad.Faithful.reading (h : s.Faithful waiting) (hreading : s.reading = none)
    (reading : Option Bool) (connecting hubClosing : Bool) :
    { s with reading, connecting, hubClosing }.Faithful waiting := by
  refine { h with backed := fun hfresh key hkey => h.backed hfresh key ?_ }
  simp only [Keypad.settled] at hkey
  split_ifs at hkey with hcut hpressed
  rw [Keypad.settled, if_neg]
  · simpa [hpressed] using hkey
  · rintro (hoverflowed | ⟨hsome, -⟩)
    · exact hcut (.inl hoverflowed)
    · rw [hreading] at hsome
      cases hsome

theorem Keypad.endRead_kept (h : s.Kept) :
    { s.answer with reading := none, log := s.log ++ [s.answer.report] }.Kept := by
  obtain ⟨⟨waiting, hfaithful⟩, hlog⟩ := h
  obtain ⟨waiting', hanswer⟩ := hfaithful.answer
  refine ⟨⟨waiting', { hanswer with }⟩, fun report hmem => ?_⟩
  rcases List.mem_append.1 hmem with hold | hnew
  · exact hlog report hold
  · obtain rfl := List.mem_singleton.1 hnew
    exact hanswer.report

theorem keypad_step {action : KeypadAction} (h : s.Kept) (hstep : keypadStep s action = some next) :
    next.Kept := by
  obtain ⟨⟨waiting, hfaithful⟩, hlog⟩ := h
  cases action with
  | arrive event =>
    obtain rfl := Option.some.inj hstep
    exact ⟨⟨waiting, { hfaithful with }⟩, hlog⟩
  | beginRead =>
    simp only [keypadStep] at hstep
    split at hstep
    · cases hstep
    · have hidle : s.reading = none := by simpa using ‹¬s.reading.isSome = true›
      obtain rfl := Option.some.inj hstep
      exact ⟨⟨waiting, hfaithful.reading hidle _ s.connecting s.hubClosing⟩, hlog⟩
  | takeEvent target =>
    simp only [keypadStep] at hstep
    split at hstep
    · rename_i textInputPending event rest hreading hsdl
      split at hstep
      · cases hstep
      · obtain rfl := Option.some.inj hstep
        have hfront : { s with sdl := rest }.Faithful waiting := { hfaithful with }
        refine ⟨hfront.takeEvent hreading event target, ?_⟩
        rw [Keypad.takeEvent_log]
        exact hlog
    · cases hstep
  | endRead =>
    simp only [keypadStep] at hstep
    split at hstep
    · cases hstep
    · obtain rfl := Option.some.inj hstep
      exact Keypad.endRead_kept ⟨⟨waiting, hfaithful⟩, hlog⟩
  | pointerRead =>
    simp only [keypadStep] at hstep
    split at hstep
    · cases hstep
    · split at hstep
      · obtain rfl := Option.some.inj hstep
        exact ⟨⟨waiting, { hfaithful with }⟩, hlog⟩
      · cases hstep
  | reset =>
    simp only [keypadStep] at hstep
    split at hstep
    · cases hstep
    · obtain rfl := Option.some.inj hstep
      exact ⟨⟨[], Keypad.reset_faithful hfaithful.holds.slots _ _⟩, hlog⟩
  | setFlags connecting hubClosing =>
    simp only [keypadStep] at hstep
    split at hstep
    · cases hstep
    · have hidle : s.reading = none := by simpa using ‹¬s.reading.isSome = true›
      obtain rfl := Option.some.inj hstep
      exact ⟨⟨waiting, hfaithful.reading hidle s.reading connecting hubClosing⟩, hlog⟩

theorem keypad_init : keypad.init.Kept :=
  ⟨⟨[], Keypad.reset_faithful (s := {}) List.length_replicate false false⟩, nofun⟩

theorem keypad_run {tr : List (KeypadAction × Unit)} (hrun : keypad.Run tr s) : s.Kept := by
  refine hrun.invariant keypad_init ?_
  intro s action next _ h hstep
  obtain ⟨next', hnext, heq⟩ := Option.map_eq_some_iff.1 hstep
  obtain rfl := (Prod.mk.inj heq).1
  exact keypad_step h hnext

/-- Down is pressed, then a text typed with the key for it, and then BACK. -/
def typedActions : List KeypadAction :=
  [.arrive (.key { down := true, sym := 0x40000051 }), .beginRead, .takeEvent .drawer, .endRead,
    .arrive (.key { down := false, sym := 0x40000051 }), .arrive (.textInput [0xc3, 0xa9, 0x21]),
    .arrive (.key { down := true, sym := 97 }), .beginRead, .takeEvent .drawer, .takeEvent .drawer,
    .takeEvent .drawer, .endRead, .beginRead, .endRead,
    .arrive (.key { down := true, scancode := 482, sym := 0 }), .beginRead, .takeEvent (.hub false),
    .endRead]

end Lgnome.Preconnect
