import Lgnome.Json.Sessions

/-!
# What the settings scanner accepts and finds

The validator, the lookup of a field and the scanner of the sessions array, all
three on one text.
-/
namespace Lgnome.Json

open Lgnome.Bytes

/-- The value of the first member with that name is an array of these elements, and this is left
of the text behind the last of them. -/
def SessionsArray (members : List Entry) (tail : List UInt8) (elements : List Entry)
    (behind : List UInt8) : Prop :=
  ∃ v q, (valueStarts members tail).lookup sessionsKey = some (v ++ q) ∧
    Elements false (maxLevels - 2) v elements ∧ behind = closeBracket :: q

/-- A member that is found is one of the members, with its value in front of the rest. -/
theorem lookup_value {k : Nat} {members : List Entry} {tail key start : List UInt8}
    (hformed : ∀ e ∈ members, e.Formed true) (hvalues : ∀ e ∈ members, Value k e.value)
    (hfound : (valueStarts members tail).lookup key = some start) :
    ∃ v q, start = v ++ q ∧ Value k v := by
  induction members with
  | nil => cases hfound
  | cons e rest ih =>
    rw [valueStarts, List.lookup_cons] at hfound
    split at hfound
    · cases hfound
      exact ⟨e.value, _, rfl, hvalues e List.mem_cons_self⟩
    · exact ih (fun e' he' => hformed e' (List.mem_cons_of_mem _ he'))
        (fun e' he' => hvalues e' (List.mem_cons_of_mem _ he')) hfound

theorem sessionsKey_fits : sessionsKey.length ≤ 63 := by decide

theorem findSessionObject_array {s tail behind : List UInt8} {members elements : List Entry}
    (h : Root s members tail) (harray : SessionsArray members tail elements behind)
    (index : Nat) : findSessionObject s index = sessionAt behind elements index := by
  obtain ⟨v, q, hfound, hv, rfl⟩ := harray
  obtain ⟨p, hp, hloop⟩ := sessions_scanned hv q index
  unfold findSessionObject
  rw [findValue_root h sessionsKey_fits, hfound, hp]
  simp only [found, Scan.ok_bind, peek_cons, ne_eq, not_true_eq_false, ↓reduceIte, bump_cons]
  exact hloop

theorem findSessionObject_missing {s tail : List UInt8} {members : List Entry}
    (h : Root s members tail)
    (hmissing : ¬ ∃ elements behind, SessionsArray members tail elements behind) (index : Nat) :
    findSessionObject s index = .reject := by
  unfold findSessionObject
  rw [findValue_root h sessionsKey_fits]
  cases hfound : (valueStarts members tail).lookup sessionsKey with
  | none => rfl
  | some start =>
    obtain ⟨-, v, -, -, -, hv, -, -⟩ := h
    obtain ⟨value, q, rfl, hvalue⟩ := lookup_value hv.formed hv.values hfound
    simp only [found, Scan.ok_bind]
    split
    · rfl
    · rename_i hopen
      have hhead : value.head? = some (opening false) := by
        cases value with
        | nil =>
          have hclose := (hvalue.starts [closing true]).close true
          exact absurd rfl hclose
        | cons c t => exact congrArg some (Decidable.not_not.mp hopen)
      obtain ⟨elements, helements⟩ := Value.elements false (k := maxLevels - 2) hvalue hhead
      exact absurd ⟨elements, closeBracket :: q, value, q, hfound, helements, rfl⟩ hmissing

/-- The validator agrees on where an element ends. -/
theorem element_end {k : Nat} (hk : k ≤ maxLevels) {elements : List Entry} {q start : List UInt8}
    (hformed : ∀ e ∈ elements, e.Formed false) (hvalues : ∀ e ∈ elements, Value k e.value)
    {i : Nat} {e : Entry} (he : elements[i]? = some e)
    (hstart : (valueStarts elements (closeBracket :: q))[i]? = some (e.name, start)) :
    valueEnd maxLevels start = .ok (start.drop e.value.length) := by
  induction elements generalizing i with
  | nil => cases he
  | cons first rest ih =>
    cases i with
    | zero =>
      cases he
      cases hstart
      have hf := hformed e List.mem_cons_self
      have hv := (hvalues e List.mem_cons_self).mono hk
      have hmore : Delimited (moreEntries rest ++ closeBracket :: q) := by
        cases rest with
        | nil => exact delimited_closing false q
        | cons second rest => exact delimited_comma _
      have hend := valueEnd_complete hv [] _ nofun (hmore.spaced hf.after)
      rw [List.drop_left]
      exact hend
    | succ i =>
      exact ih (fun e' he' => hformed e' (List.mem_cons_of_mem _ he'))
        (fun e' he' => hvalues e' (List.mem_cons_of_mem _ he')) he hstart

/-- The validator never leaves its text and accepts the texts of the grammar, read byte by byte.
On an accepted text the lookup finds the first member of a name, and the scanner of the array
finds its elements where the validator sees them, as long as they are objects. -/
theorem json_acceptance (s : CString) :
    validateObject s.bytes ≠ .fault ∧ (validateObject s.bytes = .ok true ↔ Text s.bytes) ∧
    (Text s.bytes → ∃ members tail, Root s.bytes members tail) ∧
    ∀ members tail, Root s.bytes members tail →
      (∀ key : List UInt8, key.length ≤ 63 →
        findValue s.bytes key = found ((valueStarts members tail).lookup key)) ∧
      (∀ elements behind, SessionsArray members tail elements behind → ∀ index,
        (∀ e, elements[index]? = some e → (∀ e' ∈ elements.take (index + 1), e'.IsObject) →
          ∃ start, (valueStarts elements behind)[index]? = some (e.name, start) ∧
            findSessionObject s.bytes index = .ok (some (start, e.value.length)) ∧
            valueEnd maxLevels start = .ok (start.drop e.value.length)) ∧
        (elements.length ≤ index → (∀ e ∈ elements, e.IsObject) →
          findSessionObject s.bytes index = .ok none) ∧
        ((∃ e ∈ elements.take (index + 1), ¬ e.IsObject) →
          findSessionObject s.bytes index = .reject)) ∧
      ((¬ ∃ elements behind, SessionsArray members tail elements behind) → ∀ index,
        findSessionObject s.bytes index = .reject) := by
  refine ⟨validateObject_not_fault s.bytes, validateObject_iff s, (text_iff_root s.bytes).mp, ?_⟩
  intro members tail hroot
  refine ⟨fun key hkey => findValue_root hroot hkey, ?_,
    fun hmissing index => findSessionObject_missing hroot hmissing index⟩
  intro elements behind harray index
  have hscan := findSessionObject_array hroot harray index
  refine ⟨?_, ?_, ?_⟩
  · intro e he hobjects
    obtain ⟨start, hstart, hat⟩ := sessionAt_found behind he hobjects
    obtain ⟨v, q, -, hv, rfl⟩ := harray
    exact ⟨start, hstart, hscan.trans hat,
      element_end (by decide) hv.formed hv.values he hstart⟩
  · intro hlength hobjects
    exact hscan.trans (sessionAt_end hlength hobjects)
  · intro herror
    exact hscan.trans (sessionAt_error herror)

/-- `{"sessions":[{}]}` -/
def oneSession : CString where
  bytes := [0x7b, 0x22, 0x73, 0x65, 0x73, 0x73, 0x69, 0x6f, 0x6e, 0x73, 0x22, 0x3a, 0x5b, 0x7b,
    0x7d, 0x5d, 0x7d]
  terminated := by decide

def oneSession.element : Entry := ⟨[], [], [], [], [openBrace, closeBrace], []⟩

def oneSession.member : Entry :=
  ⟨[], quote :: sessionsKey ++ [quote] ++ [colon], sessionsKey, [],
    containerText false element [], []⟩

theorem oneSession_elements : Elements false (maxLevels - 2) (containerText false
    oneSession.element []) [oneSession.element] := by
  refine .entries ?_ ?_
  · intro e he
    rw [List.mem_singleton.mp he]
    exact ⟨nofun, nofun, nofun, rfl, rfl⟩
  · intro e he
    rw [List.mem_singleton.mp he]
    exact .empty true (w := []) nofun

theorem oneSession_root : Root oneSession.bytes [oneSession.member] [closeBrace] := by
  refine ⟨[], containerText true oneSession.member [], [], nofun, nofun, .entries ?_ ?_, rfl, rfl⟩
  · intro e he
    rw [List.mem_singleton.mp he]
    refine ⟨nofun, nofun, nofun, quote :: sessionsKey ++ [quote], [], ?_, nofun, rfl⟩
    exact ⟨sessionsKey, chars_plain (by decide), rfl⟩
  · intro e he
    rw [List.mem_singleton.mp he]
    exact oneSession_elements.value

theorem json_acceptance_one_session : findSessionObject oneSession.bytes 0 =
    .ok (some ([openBrace, closeBrace, closeBracket, closeBrace], 2)) := by
  have harray : SessionsArray [oneSession.member] [closeBrace] [oneSession.element]
      [closeBracket, closeBrace] :=
    ⟨containerText false oneSession.element [], [closeBrace], rfl, oneSession_elements, rfl⟩
  have hall := ((json_acceptance oneSession).2.2.2 _ _ oneSession_root).2.1 _ _ harray 0
  obtain ⟨start, hstart, hfound, -⟩ := hall.1 oneSession.element rfl (by decide)
  cases hstart
  exact hfound

/-! ## Bytes that are no characters -/

theorem Utf8.no_ff {s : List UInt8} (h : Utf8 s) : 0xff ∉ s := by
  obtain ⟨chars, rfl⟩ := h
  rw [List.mem_flatMap]
  rintro ⟨c, -, hc⟩
  obtain ⟨m, hm, hlt, -⟩ := utf8_byte hc
  have hmod : 0xff = m % 256 := congrArg UInt8.toNat hm
  omega

/-- `{"\xff":1}`: the name is a byte that no character has. -/
def strayByte : CString where
  bytes := [0x7b, 0x22, 0xff, 0x22, 0x3a, 0x31, 0x7d]
  terminated := by decide

/-- The validator does not ask whether its text is UTF-8. -/
theorem stray_byte_accepted :
    ¬ ∀ s : CString, validateObject s.bytes = .ok true ↔ Text s.bytes ∧ Utf8 s.bytes := by
  intro h
  have haccepted : validateObject strayByte.bytes = .ok true := by decide
  exact ((h strayByte).mp haccepted).2.no_ff (by decide)

end Lgnome.Json
