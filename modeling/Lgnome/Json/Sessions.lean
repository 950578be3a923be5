import Lgnome.Json.Members

/-!
# The sessions array

The entries of the sessions array are found by a matcher of braces that knows of
strings and of nothing else. On a validated text it agrees with the validator:
inside an object everything the grammar allows leaves its depth as it was.
-/
namespace Lgnome.Json

open Lgnome.Bytes

/-- From inside an object or in front of it to behind its closing brace. -/
def objectEnd (depth : Int) (inString : Bool) : List UInt8 → Scan (List UInt8)
  | [] => .reject
  | c :: p =>
    if c = 0 then .reject
    else if inString then
      if c = backslash ∧ peek p ≠ 0 then
        match p with
        | [] => .fault
        | _ :: p => objectEnd depth true p
      else objectEnd depth (c != quote) p
    else if c = quote then objectEnd depth true p
    else if c = openBrace then objectEnd (depth + 1) false p
    else if c = closeBrace then
      if depth - 1 = 0 then .ok p else objectEnd (depth - 1) false p
    else objectEnd depth false p

/-- The entries of the array up to the one with the index: where it starts and how long it is, or
nothing behind the last one. -/
def sessionLoop (index : Nat) : Nat → Nat → List UInt8 → Scan (Option (List UInt8 × Nat))
  | 0, _, _ => .fault
  | fuel + 1, current, p =>
    if peek p = closeBracket then .ok none
    else if peek p ≠ openBrace then .reject
    else do
      let q ← objectEnd 0 false p
      if current = index then .ok (some (p, p.length - q.length))
      else
        let q := skipWs q
        if peek q = comma then do
          let q ← bump q
          sessionLoop index fuel (current + 1) (skipWs q)
        else if peek q ≠ closeBracket then .reject
        else sessionLoop index fuel (current + 1) q

/-- `sessions` -/
def sessionsKey : List UInt8 := [0x73, 0x65, 0x73, 0x73, 0x69, 0x6f, 0x6e, 0x73]

def findSessionObject (json : List UInt8) (index : Nat) : Scan (Option (List UInt8 × Nat)) := do
  let p ← findValue json sessionsKey
  if peek p ≠ openBracket then .reject
  else do
    let p ← bump p
    let p := skipWs p
    sessionLoop index (p.length + 1) 0 p

/-! ## What the matcher passes over -/

theorem objectEnd_outside (depth : Int) (c : UInt8) (p : List UInt8) :
    objectEnd depth false (c :: p) =
      if c = 0 then .reject
      else if c = quote then objectEnd depth true p
      else if c = openBrace then objectEnd (depth + 1) false p
      else if c = closeBrace then
        if depth - 1 = 0 then .ok p else objectEnd (depth - 1) false p
      else objectEnd depth false p := by
  cases p <;> rfl

theorem objectEnd_inside (depth : Int) (c : UInt8) (p : List UInt8) :
    objectEnd depth true (c :: p) =
      if c = 0 then .reject
      else if c = backslash ∧ peek p ≠ 0 then bump p >>= objectEnd depth true
      else objectEnd depth (c != quote) p := by
  cases p <;> rfl

/-- Outside strings, the matcher steps over such a byte. -/
def Quiet (text : List UInt8) : Prop :=
  ∀ c ∈ text, c ≠ 0 ∧ c ≠ quote ∧ c ≠ openBrace ∧ c ≠ closeBrace

instance (text : List UInt8) : Decidable (Quiet text) := List.decidableBAll _ text

/-- Inside an object, the matcher comes out of the text as it went in. -/
def Neutral (text : List UInt8) : Prop :=
  ∀ depth : Int, 0 < depth → ∀ q, objectEnd depth false (text ++ q) = objectEnd depth false q

theorem Neutral.append {a b : List UInt8} (ha : Neutral a) (hb : Neutral b) : Neutral (a ++ b) := by
  intro depth hdepth q
  rw [List.append_assoc, ha depth hdepth, hb depth hdepth]

theorem neutral_nil : Neutral [] := fun _ _ _ => rfl

theorem Quiet.neutral {text : List UInt8} (h : Quiet text) : Neutral text := by
  induction text with
  | nil => exact neutral_nil
  | cons c text ih =>
    intro depth hdepth q
    obtain ⟨hzero, hquote, hopen, hclose⟩ := h c List.mem_cons_self
    rw [List.cons_append, objectEnd_outside, if_neg hzero, if_neg hquote, if_neg hopen,
      if_neg hclose]
    exact ih (fun d hd => h d (List.mem_cons_of_mem _ hd)) depth hdepth q

theorem Quiet.append {a b : List UInt8} (ha : Quiet a) (hb : Quiet b) : Quiet (a ++ b) := by
  intro c hc
  rcases List.mem_append.mp hc with hc | hc
  · exact ha c hc
  · exact hb c hc

theorem Ws.quiet {w : List UInt8} (h : Ws w) : Quiet w := by
  intro c hc
  have hws := h c hc
  simp only [isWs, Bool.or_eq_true, beq_iff_eq] at hws
  rcases hws with ((rfl | rfl) | rfl) | rfl <;> decide

theorem digit_quiet {d : UInt8} (hd : isDigit d = true) :
    d ≠ 0 ∧ d ≠ quote ∧ d ≠ openBrace ∧ d ≠ closeBrace := by
  refine ⟨?_, ?_, ?_, ?_⟩ <;> rintro rfl <;> exact absurd hd (by decide)

theorem Digits.quiet {ds : List UInt8} (h : Digits ds) : Quiet ds :=
  fun d hd => digit_quiet (h d hd)

theorem quiet_cons {c : UInt8} {text : List UInt8}
    (hc : c ≠ 0 ∧ c ≠ quote ∧ c ≠ openBrace ∧ c ≠ closeBrace) (h : Quiet text) :
    Quiet (c :: text) := List.forall_mem_cons.mpr ⟨hc, h⟩

theorem quiet_nil : Quiet [] := nofun

theorem Number.quiet {v : List UInt8} (h : Number v) : Quiet v := by
  obtain ⟨sign, int, frac, exp, hsign, hint, hfrac, hexp, rfl⟩ := h
  refine ((Quiet.append ?_ ?_).append ?_).append ?_
  · rcases hsign with rfl | rfl
    · exact quiet_nil
    · exact quiet_cons (by decide) quiet_nil
  · cases hint with
    | zero => exact quiet_cons (by decide) quiet_nil
    | digits d ds hlow hhigh hds =>
      obtain ⟨_, _, heq, hd⟩ := (IntPart.digits d ds hlow hhigh hds).head
      cases heq
      exact quiet_cons (digit_quiet hd) hds.quiet
  · cases hfrac with
    | none => exact quiet_nil
    | some d ds hd hds => exact quiet_cons (by decide) (quiet_cons (digit_quiet hd) hds.quiet)
  · cases hexp with
    | none => exact quiet_nil
    | some e d sign ds he hsign hd hds =>
      have hfront : Quiet (e :: sign) := by
        rcases he with rfl | rfl <;> rcases hsign with rfl | rfl | rfl
        all_goals decide
      exact hfront.append (quiet_cons (digit_quiet hd) hds.quiet)

theorem literal_quiet {l : List UInt8} (h : l ∈ literals) : Quiet l := by
  simp only [literals, List.mem_cons, List.not_mem_nil, or_false] at h
  rcases h with rfl | rfl | rfl <;> decide

/-! ## Strings -/

/-- Inside a string, the matcher steps over such a byte. -/
theorem objectEnd_plain {c : UInt8} (hzero : c ≠ 0) (hquote : c ≠ quote) (hslash : c ≠ backslash)
    (depth : Int) (q : List UInt8) : objectEnd depth true (c :: q) = objectEnd depth true q := by
  have hstay : (c != quote) = true := bne_iff_ne.mpr hquote
  rw [objectEnd_inside, if_neg hzero, if_neg (fun h => hslash h.1), hstay]

theorem objectEnd_escape {c : UInt8} (hc : c ≠ 0) (depth : Int) (q : List UInt8) :
    objectEnd depth true (backslash :: c :: q) = objectEnd depth true q := by
  have hboth : backslash = backslash ∧ peek (c :: q) ≠ 0 := ⟨rfl, hc⟩
  rw [objectEnd_inside, if_neg (by decide), if_pos hboth, bump_cons, Scan.ok_bind]

theorem hexDigits_plain {digits : List UInt8} {v r : Nat} (h : hexDigits v digits = some r)
    (depth : Int) (q : List UInt8) :
    objectEnd depth true (digits ++ q) = objectEnd depth true q := by
  induction digits generalizing v with
  | nil => rfl
  | cons c digits ih =>
    obtain ⟨d, hd, hrest⟩ := Option.bind_eq_some_iff.mp h
    have hne : ∀ b : UInt8, hexValue b = none → c ≠ b := by
      rintro b hb rfl
      rw [hb] at hd
      cases hd
    rw [List.cons_append, objectEnd_plain (hne 0 rfl) (hne quote rfl) (hne backslash rfl)]
    exact ih hrest

theorem StringChar.passed {c bytes : List UInt8} (h : StringChar c bytes) (depth : Int)
    (q : List UInt8) : objectEnd depth true (c ++ q) = objectEnd depth true q := by
  cases h with
  | plain c hcontrol hquote hslash =>
    have hzero : c ≠ 0 := by
      rintro rfl
      exact absurd hcontrol (by decide)
    exact objectEnd_plain hzero hquote hslash depth q
  | short e c hescape =>
    have hzero : e ≠ 0 := by
      rintro rfl
      cases hescape
    exact objectEnd_escape hzero depth q
  | unicode digits v hhex =>
    rw [List.cons_append, List.cons_append, objectEnd_escape (by decide),
      hexDigits_plain hhex.2]
  | pair high low v w hhex hhex' =>
    simp only [List.append_assoc, List.cons_append]
    rw [objectEnd_escape (by decide), hexDigits_plain hhex.2, objectEnd_escape (by decide),
      hexDigits_plain hhex'.2]

theorem Chars.passed {text decoded : List UInt8} (h : Chars text decoded) (depth : Int)
    (q : List UInt8) : objectEnd depth true (text ++ q) = objectEnd depth true q := by
  induction h with
  | nil => rfl
  | cons hchar _ ih => rw [List.append_assoc, hchar.passed, ih]

theorem Str.neutral {text decoded : List UInt8} (h : Str text decoded) : Neutral text := by
  obtain ⟨body, hchars, rfl⟩ := h
  intro depth _ q
  have hopen : objectEnd depth false (quote :: (body ++ quote :: q)) =
      objectEnd depth true (body ++ quote :: q) := by
    rw [objectEnd_outside, if_neg (by decide), if_pos rfl]
  have hclose : objectEnd depth true (quote :: q) = objectEnd depth false q := by
    rw [objectEnd_inside, if_neg (by decide), if_neg (fun h => absurd h.1 (by decide))]
    rfl
  simp only [List.cons_append, List.append_assoc, List.nil_append]
  rw [hopen, hchars.passed, hclose]

/-! ## Values -/

theorem Entry.Formed.neutral {object : Bool} {e : Entry} (h : e.Formed object)
    (hv : Neutral e.value) : Neutral e.text := by
  have hlabel : Neutral (e.label ++ e.gap) := by
    have hl := h.label
    cases object with
    | true =>
      obtain ⟨key, w, hkey, hw, hl⟩ := hl
      rw [hl]
      exact ((hkey.neutral.append hw.quiet.neutral).append
        (quiet_cons (c := colon) (by decide) quiet_nil).neutral).append h.gap.quiet.neutral
    | false =>
      rw [hl.1, hl.2]
      exact neutral_nil
  have hall := ((h.before.quiet.neutral.append hlabel).append hv).append h.after.quiet.neutral
  simpa only [Entry.text, List.append_assoc] using hall

theorem moreEntries_neutral {rest : List Entry} (h : ∀ e ∈ rest, Neutral e.text) :
    Neutral (moreEntries rest) := by
  induction rest with
  | nil => exact neutral_nil
  | cons e rest ih =>
    have hcomma : Neutral [comma] := (quiet_cons (by decide) quiet_nil).neutral
    have he := h e List.mem_cons_self
    have htail := ih fun e' he' => h e' (List.mem_cons_of_mem _ he')
    exact (hcomma.append he).append htail

theorem container_neutral (object : Bool) {inner : List UInt8} (h : Neutral inner) :
    Neutral (opening object :: inner ++ [closing object]) := by
  intro depth hdepth q
  simp only [List.cons_append, List.append_assoc, List.nil_append]
  cases object with
  | true =>
    -- one brace deeper, which the closing brace takes back
    have hback : depth + 1 - 1 = depth := Int.add_sub_cancel depth 1
    have hne : ¬ depth + 1 - 1 = 0 := by omega
    have hopen : objectEnd depth false (openBrace :: (inner ++ closeBrace :: q)) =
        objectEnd (depth + 1) false (inner ++ closeBrace :: q) := by
      rw [objectEnd_outside, if_neg (by decide), if_neg (by decide), if_pos rfl]
    have hclose : objectEnd (depth + 1) false (closeBrace :: q) = objectEnd depth false q := by
      rw [objectEnd_outside, if_neg (by decide), if_neg (by decide),
        if_neg (by decide), if_pos rfl, if_neg hne, hback]
    exact hopen.trans ((h (depth + 1) (by omega) _).trans hclose)
  | false =>
    have hopen := (quiet_cons (c := openBracket) (by decide) quiet_nil).neutral
    have hclose := (quiet_cons (c := closeBracket) (by decide) quiet_nil).neutral
    have hall := ((hopen.append h).append hclose) depth hdepth q
    simp only [List.append_assoc, List.cons_append, List.nil_append] at hall
    exact hall

theorem Value.neutral {k : Nat} {v : List UInt8} (h : Value k v) : Neutral v := by
  induction h with
  | literal hmem => exact (literal_quiet hmem).neutral
  | number hnumber => exact hnumber.quiet.neutral
  | string hstr => exact hstr.neutral
  | empty object hw => exact container_neutral object hw.quiet.neutral
  | @container k object first rest hformed hvalues ih =>
    have htext : ∀ e ∈ first :: rest, Neutral e.text := fun e he =>
      (hformed e he).neutral (ih e he)
    have hinner := (htext first List.mem_cons_self).append
      (moreEntries_neutral fun e he => htext e (List.mem_cons_of_mem _ he))
    exact container_neutral object hinner

/-- From the opening brace of an object the matcher gets to what is behind it. -/
theorem objectEnd_object {k : Nat} {v : List UInt8} {es : List Entry} (h : Elements true k v es)
    (q : List UInt8) : objectEnd 0 false (v ++ q) = .ok q := by
  obtain ⟨inner, hv, hinner⟩ : ∃ inner, v = openBrace :: inner ++ [closeBrace] ∧ Neutral inner := by
    cases h with
    | @empty w hw => exact ⟨w, rfl, hw.quiet.neutral⟩
    | @entries first rest hformed hvalues =>
      have htext : ∀ e ∈ first :: rest, Neutral e.text := fun e he =>
        (hformed e he).neutral (hvalues e he).neutral
      exact ⟨first.text ++ moreEntries rest, rfl, (htext first List.mem_cons_self).append
        (moreEntries_neutral fun e he => htext e (List.mem_cons_of_mem _ he))⟩
  have hclose : objectEnd 1 false (closeBrace :: q) = .ok q := by
    rw [objectEnd_outside, if_neg (by decide), if_neg (by decide),
      if_neg (by decide), if_pos rfl, if_pos (by decide)]
  have hbody := hinner 1 (by decide) (closeBrace :: q)
  subst hv
  simp only [List.cons_append, List.append_assoc, List.nil_append]
  rw [objectEnd_outside, if_neg (by decide), if_neg (by decide), if_pos rfl]
  exact hbody.trans hclose

/-! ## Elements of the array -/

def Entry.IsObject (e : Entry) : Prop := e.value.head? = some openBrace

instance (e : Entry) : Decidable e.IsObject :=
  inferInstanceAs (Decidable (e.value.head? = some openBrace))

/-- What there is to say about the element with the index. -/
def sessionAt (tail : List UInt8) : List Entry → Nat → Scan (Option (List UInt8 × Nat))
  | [], _ => .ok none
  | e :: rest, 0 =>
    if e.IsObject then
      .ok (some (e.value ++ (e.after ++ (moreEntries rest ++ tail)), e.value.length))
    else .reject
  | e :: rest, i + 1 => if e.IsObject then sessionAt tail rest i else .reject

theorem sessionAt_found (tail : List UInt8) {es : List Entry} {i : Nat} {e : Entry}
    (he : es[i]? = some e) (h : ∀ e' ∈ es.take (i + 1), e'.IsObject) :
    ∃ start, (valueStarts es tail)[i]? = some (e.name, start) ∧
      sessionAt tail es i = .ok (some (start, e.value.length)) := by
  induction es generalizing i with
  | nil => cases he
  | cons first rest ih =>
    have hfirst : first.IsObject := h first List.mem_cons_self
    cases i with
    | zero =>
      cases he
      exact ⟨_, rfl, if_pos hfirst⟩
    | succ i =>
      obtain ⟨start, hstart, hat⟩ := ih he fun e' he' => h e' (List.mem_cons_of_mem _ he')
      exact ⟨start, hstart, (if_pos hfirst).trans hat⟩

theorem sessionAt_end {tail : List UInt8} {es : List Entry} {i : Nat} (hi : es.length ≤ i)
    (h : ∀ e ∈ es, e.IsObject) : sessionAt tail es i = .ok none := by
  induction es generalizing i with
  | nil => rfl
  | cons first rest ih =>
    cases i with
    | zero => exact absurd hi (Nat.not_succ_le_zero _)
    | succ i =>
      rw [sessionAt, if_pos (h first List.mem_cons_self)]
      exact ih (Nat.le_of_succ_le_succ hi) fun e he => h e (List.mem_cons_of_mem _ he)

theorem sessionAt_error {tail : List UInt8} {es : List Entry} {i : Nat}
    (h : ∃ e ∈ es.take (i + 1), ¬ e.IsObject) : sessionAt tail es i = .reject := by
  induction es generalizing i with
  | nil =>
    obtain ⟨e, he, -⟩ := h
    cases he
  | cons first rest ih =>
    obtain ⟨e, he, hno⟩ := h
    rcases List.mem_cons.mp he with rfl | he
    · cases i with
      | zero => exact if_neg hno
      | succ i => exact if_neg hno
    · cases i with
      | zero => cases he
      | succ i =>
        rw [sessionAt, ih ⟨e, he, hno⟩, ite_self]

/-! ## The loop over the array -/

theorem Value.level_pos {k : Nat} {v : List UInt8} (h : Value k v) : ∃ m, k = m + 1 := by
  cases h <;> exact ⟨_, rfl⟩

theorem Entry.Formed.element {e : Entry} (h : e.Formed false) (q : List UInt8) :
    e.core ++ q = e.value ++ (e.after ++ q) := by
  rw [Entry.core, h.label.1, h.label.2]
  simp only [List.nil_append, List.append_assoc]

/-- One round of the loop. -/
theorem sessionLoop_element {k : Nat} {e : Entry} (h : e.Formed false) (hv : Value k e.value)
    {q : List UInt8} (hws : isWs (peek q) = false) (index fuel current : Nat) :
    sessionLoop index (fuel + 1) current (e.core ++ q) =
      if e.IsObject then
        if current = index then .ok (some (e.value ++ (e.after ++ q), e.value.length))
        else if peek q = comma then bump q >>= fun q =>
          sessionLoop index fuel (current + 1) (skipWs q)
        else if peek q ≠ closeBracket then .reject
        else sessionLoop index fuel (current + 1) q
      else .reject := by
  have hstarts := hv.starts (e.after ++ q)
  have hhead : peek (e.value ++ (e.after ++ q)) = openBrace ↔ e.IsObject := by
    unfold Entry.IsObject
    cases hval : e.value with
    | nil =>
      have hclose := (hv.starts [closing true]).close true
      rw [hval] at hclose
      exact absurd rfl hclose
    | cons c t =>
      rw [List.cons_append, peek_cons, List.head?_cons, Option.some.injEq]
  have hskip : skipWs (e.after ++ q) = q := skipWs_ws h.after hws
  have hclose : peek (e.value ++ (e.after ++ q)) ≠ closeBracket := hstarts.close false
  rw [h.element, sessionLoop, if_neg hclose]
  by_cases hobject : e.IsObject
  · obtain ⟨m, rfl⟩ := hv.level_pos
    obtain ⟨es, hes⟩ := Value.elements true hv hobject
    rw [if_neg (fun hne => hne (hhead.mpr hobject)), if_pos hobject, objectEnd_object hes,
      Scan.ok_bind]
    dsimp only
    rw [hskip]
    have hlength : (e.value ++ (e.after ++ q)).length - (e.after ++ q).length = e.value.length := by
      rw [List.length_append, Nat.add_sub_cancel]
    rw [hlength]
  · rw [if_pos (fun heq => hobject (hhead.mp heq)), if_neg hobject]

theorem sessionLoop_elements {k : Nat} {first : Entry} {rest : List Entry}
    (hformed : ∀ e ∈ first :: rest, e.Formed false) (hvalues : ∀ e ∈ first :: rest, Value k e.value)
    (q : List UInt8) (current i fuel : Nat) (hfuel : rest.length + 1 < fuel) :
    sessionLoop (current + i) fuel current (first.core ++ (moreEntries rest ++ closeBracket :: q)) =
      sessionAt (closeBracket :: q) (first :: rest) i := by
  induction rest generalizing first current i fuel with
  | nil =>
    obtain ⟨fuel, rfl⟩ : ∃ n, fuel = n + 2 := ⟨fuel - 2, by omega⟩
    have hround := sessionLoop_element (q := closeBracket :: q) (hformed first List.mem_cons_self)
      (hvalues first List.mem_cons_self) rfl (current + i) (fuel + 1) current
    rw [show moreEntries [] ++ closeBracket :: q = closeBracket :: q from rfl, hround]
    cases i with
    | zero =>
      rw [if_pos (Nat.add_zero current).symm]
      rfl
    | succ i =>
      have hne : ¬ current = current + (i + 1) := by omega
      have hcomma : ¬ closeBracket = comma := by decide
      have hclose : ¬ closeBracket ≠ closeBracket := fun h => h rfl
      rw [if_neg hne, peek_cons, if_neg hcomma, if_neg hclose]
      rfl
  | cons second rest ih =>
    obtain ⟨fuel, rfl⟩ : ∃ n, fuel = n + 1 := ⟨fuel - 1, by omega⟩
    have hsecond := hformed second (List.mem_cons_of_mem _ List.mem_cons_self)
    have hv := hvalues second (List.mem_cons_of_mem _ List.mem_cons_self)
    have hmore : moreEntries (second :: rest) ++ closeBracket :: q =
        comma :: (second.text ++ (moreEntries rest ++ closeBracket :: q)) := by
      simp only [moreEntries, List.flatMap_cons, List.cons_append, List.append_assoc]
    have hround := sessionLoop_element
      (q := comma :: (second.text ++ (moreEntries rest ++ closeBracket :: q)))
      (hformed first List.mem_cons_self) (hvalues first List.mem_cons_self) rfl (current + i) fuel
      current
    rw [hmore, hround]
    cases i with
    | zero =>
      rw [if_pos (Nat.add_zero current).symm, ← hmore]
      rfl
    | succ i =>
      have hne : ¬ current = current + (i + 1) := by omega
      have hnext : current + (i + 1) = current + 1 + i := by omega
      rw [if_neg hne, peek_cons, if_pos rfl, bump_cons, Scan.ok_bind, hsecond.skip hv, hnext,
        ih (fun e he => hformed e (List.mem_cons_of_mem _ he))
          (fun e he => hvalues e (List.mem_cons_of_mem _ he)) (current + 1) i fuel
          (Nat.lt_of_succ_lt_succ hfuel)]
      rfl

/-- The scanner of the array, from its opening bracket on. -/
theorem sessions_scanned {k : Nat} {v : List UInt8} {es : List Entry} (h : Elements false k v es)
    (q : List UInt8) (index : Nat) : ∃ p, v ++ q = openBracket :: p ∧
      sessionLoop index ((skipWs p).length + 1) 0 (skipWs p) =
        sessionAt (closeBracket :: q) es index := by
  cases h with
  | @empty w hw =>
    refine ⟨w ++ closeBracket :: q, ?_, ?_⟩
    · simp only [List.cons_append, List.append_assoc, List.nil_append]
      rfl
    · rw [skipWs_ws (p := closeBracket :: q) hw rfl]
      rfl
  | @entries first rest hformed hvalues =>
    have hskip := (hformed first List.mem_cons_self).skip (hvalues first List.mem_cons_self)
      (moreEntries rest ++ closeBracket :: q)
    refine ⟨first.text ++ (moreEntries rest ++ closeBracket :: q), ?_, ?_⟩
    · simp only [containerText, List.cons_append, List.append_assoc, List.nil_append]
      rfl
    · have hlength : rest.length + 1 <
          (first.core ++ (moreEntries rest ++ closeBracket :: q)).length + 1 := by
        have hmore := moreEntries_length rest
        simp only [List.length_append, List.length_cons]
        omega
      have hloop := sessionLoop_elements hformed hvalues q 0 index _ hlength
      rw [Nat.zero_add] at hloop
      rw [hskip]
      exact hloop

end Lgnome.Json
