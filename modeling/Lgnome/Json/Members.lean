import Lgnome.Json.Complete

/-!
# Members of the root object

An accepted text is an object with a list of members. Lookup runs over these
members in order, whatever is nested inside their values or written in their
strings, and stops at the first one with the name.
-/
namespace Lgnome.Json

open Lgnome.Bytes

/-! ## Entries of a container -/

/-- A container, with the entries it lists. -/
inductive Elements (object : Bool) (k : Nat) : List UInt8 → List Entry → Prop
  | empty {w : List UInt8} : Ws w → Elements object k (opening object :: w ++ [closing object]) []
  | entries {first : Entry} {rest : List Entry} : (∀ e ∈ first :: rest, e.Formed object) →
      (∀ e ∈ first :: rest, Value k e.value) →
      Elements object k (containerText object first rest) (first :: rest)

theorem Elements.value {object : Bool} {k : Nat} {v : List UInt8} {es : List Entry}
    (h : Elements object k v es) : Value (k + 1) v := by
  cases h with
  | empty hw => exact .empty object hw
  | entries hformed hvalues => exact .container object hformed hvalues

theorem Elements.formed {object : Bool} {k : Nat} {v : List UInt8} {es : List Entry}
    (h : Elements object k v es) : ∀ e ∈ es, e.Formed object := by
  cases h with
  | empty hw => nofun
  | entries hformed hvalues => exact hformed

theorem Elements.values {object : Bool} {k : Nat} {v : List UInt8} {es : List Entry}
    (h : Elements object k v es) : ∀ e ∈ es, Value k e.value := by
  cases h with
  | empty hw => nofun
  | entries hformed hvalues => exact hvalues

theorem Elements.head {object : Bool} {k : Nat} {v : List UInt8} {es : List Entry}
    (h : Elements object k v es) : v.head? = some (opening object) := by
  cases h with
  | empty hw => rfl
  | entries hformed hvalues => rfl

theorem opening_injective {object object' : Bool} (h : opening object = opening object') :
    object = object' := by
  cases object <;> cases object' <;> first | rfl | cases h

/-- A value that begins with a bracket is a container. -/
theorem Value.elements (object : Bool) {k : Nat} {v : List UInt8} (h : Value (k + 1) v)
    (hhead : v.head? = some (opening object)) : ∃ es, Elements object k v es := by
  cases h with
  | literal hmem =>
    obtain ⟨c, t, rfl, hc⟩ := literal_head hmem
    obtain ⟨-, hopen⟩ := plain_head (.inr (.inr hc))
    cases Option.some.inj hhead
    cases object with
    | true => exact absurd (.inl rfl) hopen
    | false => exact absurd (.inr rfl) hopen
  | number hnumber =>
    obtain ⟨c, t, rfl, hc⟩ := hnumber.head
    cases Option.some.inj hhead
    cases object <;> exact absurd hc (by decide)
  | string hstr =>
    obtain ⟨body, -, rfl⟩ := hstr
    have hquote : quote = opening object := Option.some.inj hhead
    cases object <;> exact absurd hquote (by decide)
  | empty object' hw =>
    cases opening_injective (Option.some.inj hhead)
    exact ⟨[], .empty hw⟩
  | container object' hformed hvalues =>
    cases opening_injective (Option.some.inj hhead)
    exact ⟨_, .entries hformed hvalues⟩

theorem Value.mono {k m : Nat} {v : List UInt8} (h : Value k v) (hm : k ≤ m) : Value m v := by
  induction h generalizing m with
  | literal hmem =>
    obtain ⟨m, rfl⟩ := Nat.exists_eq_add_of_le' hm
    exact .literal hmem
  | number hnumber =>
    obtain ⟨m, rfl⟩ := Nat.exists_eq_add_of_le' hm
    exact .number hnumber
  | string hstr =>
    obtain ⟨m, rfl⟩ := Nat.exists_eq_add_of_le' hm
    exact .string hstr
  | empty object hw =>
    obtain ⟨m, rfl⟩ := Nat.exists_eq_add_of_le' hm
    exact .empty object hw
  | container object hformed _ ih =>
    obtain ⟨m, rfl⟩ : ∃ n, m = n + 1 := ⟨m - 1, by omega⟩
    exact .container object hformed fun e he => ih e he (Nat.le_of_succ_le_succ hm)

/-- Each entry's name and what is left of the text from its value on. -/
def valueStarts : List Entry → List UInt8 → List (List UInt8 × List UInt8)
  | [], _ => []
  | e :: rest, tail =>
    (e.name, e.value ++ (e.after ++ (moreEntries rest ++ tail))) :: valueStarts rest tail

/-- The text is an object with these members, and this is behind the last of them. -/
def Root (s : List UInt8) (members : List Entry) (tail : List UInt8) : Prop :=
  ∃ w v w', Ws w ∧ Ws w' ∧ Elements true (maxLevels - 1) v members ∧ s = w ++ v ++ w' ∧
    tail = closeBrace :: w'

theorem text_iff_root (s : List UInt8) : Text s ↔ ∃ members tail, Root s members tail := by
  constructor
  · rintro ⟨w, v, w', hw, hw', hv, hhead, hs⟩
    obtain ⟨members, hmembers⟩ := Value.elements true hv hhead
    exact ⟨members, closeBrace :: w', w, v, w', hw, hw', hmembers, hs, rfl⟩
  · rintro ⟨members, tail, w, v, w', hw, hw', hmembers, hs, -⟩
    exact ⟨w, v, w', hw, hw', hmembers.value, hmembers.head, hs⟩

/-! ## Validation -/

theorem delimited_end {w : List UInt8} (hw : Ws w) : Delimited w := by
  cases w with
  | nil => exact .inr (.inr (.inr (.inr rfl)))
  | cons c w => exact .inl (hw c List.mem_cons_self)

theorem skipWs_end {w : List UInt8} (hw : Ws w) : skipWs w = [] := by
  rw [← List.append_nil w, skipWs_append hw]
  rfl

/-- A string without a zero byte in it, as one that ends with a zero byte is. -/
structure CString where
  bytes : List UInt8
  terminated : 0 ∉ bytes

theorem validateObject_not_fault (s : List UInt8) : validateObject s ≠ .fault := by
  have hsound := valueEnd_sound maxLevels (skipWs s)
  unfold validateObject
  dsimp only
  split
  · nofun
  · split
    · nofun
    · nofun
    · rename_i hfault
      exact absurd hfault hsound.not_fault

theorem validateObject_complete {s : List UInt8} (h : Text s) : validateObject s = .ok true := by
  obtain ⟨w, v, w', hw, hw', hv, hhead, rfl⟩ := h
  have hskip : skipWs (w ++ v ++ w') = v ++ w' := by
    rw [List.append_assoc]
    exact skipWs_ws hw (hv.starts w').ws
  have hpeek : peek (v ++ w') = openBrace := by
    cases v with
    | nil => cases hhead
    | cons c v => exact Option.some.inj hhead
  have hend := valueEnd_complete hv [] w' nofun (delimited_end hw')
  rw [List.nil_append] at hend
  unfold validateObject
  simp only [hskip, hpeek, hend, skipWs_end hw', ne_eq, not_true_eq_false, ↓reduceIte, peek_nil,
    beq_self_eq_true]

theorem validateObject_iff (s : CString) : validateObject s.bytes = .ok true ↔ Text s.bytes := by
  obtain ⟨s, hs⟩ := s
  dsimp only
  constructor
  · intro h
    unfold validateObject at h
    dsimp only at h
    split at h
    · cases h
    · rename_i hopen
      split at h
      · rename_i q hq
        obtain ⟨w, v, hw, hv, hsplit⟩ := (valueEnd_sound maxLevels (skipWs s)).of_ok hq
        obtain ⟨w₀, hw₀, hs₀⟩ := skipWs_split s
        obtain ⟨w', hw', hq'⟩ := skipWs_split q
        have hend : skipWs q = [] := by
          cases htail : skipWs q with
          | nil => rfl
          | cons c t =>
            rw [htail] at h hq'
            have hzero : c = 0 := by
              simp only [peek_cons, Scan.ok.injEq, beq_iff_eq] at h
              exact h
            subst hzero
            exact absurd (by rw [hs₀, hsplit, hq']; simp) hs
        rw [hend, List.append_nil] at hq'
        subst hq'
        have hnil : w = [] := by
          cases w with
          | nil => rfl
          | cons c w =>
            rw [hsplit] at hopen
            have hws := hw c List.mem_cons_self
            rw [show c = openBrace from Decidable.not_not.mp hopen] at hws
            cases hws
        subst hnil
        refine ⟨w₀, v, q, hw₀, hw', hv, ?_, by rw [hs₀, hsplit, List.nil_append, List.append_assoc]⟩
        have hstarts := hv.starts [closing true]
        cases v with
        | nil => exact absurd rfl (hstarts.close true)
        | cons c v =>
          rw [hsplit] at hopen
          rw [show c = openBrace from Decidable.not_not.mp hopen]
          rfl
      · cases h
      · cases h
  · exact validateObject_complete

/-! ## Lookup -/

/-- An answer of a lookup; a refusal is absence. -/
def found {α : Type} : Option α → Scan α
  | some a => .ok a
  | none => .reject

theorem readField_complete {text name : List UInt8} (h : Str text name) (q : List UInt8) :
    readField (text ++ q) = .ok (if name.length < 64 then some name else none, q) := by
  have hfull := h.read (some 64) rfl q
  unfold readField
  by_cases hfits : name.length < 64
  · have hover : overflows (some 64) 0 name.length = false := by
      simp only [overflows, Bool.or_eq_false_iff, decide_eq_false_iff_not]
      omega
    rw [hfull, hover, if_pos hfits]
    rfl
  · have hover : overflows (some 64) 0 name.length = true := by
      simp only [overflows, Bool.or_eq_true, decide_eq_true_eq]
      omega
    rw [hfull, hover, if_neg hfits]
    simp only [↓reduceIte, h.read_none, Scan.ok_bind]

/-- A key that fits the buffer is told by the buffer alone. -/
theorem field_eq_key {name key : List UInt8} (hkey : key.length ≤ 63) :
    (if name.length < 64 then some name else none) = some key ↔ name = key := by
  constructor
  · intro h
    split at h
    · exact Option.some.inj h
    · cases h
  · rintro rfl
    exact if_pos (Nat.lt_succ_of_le hkey)

/-- The pieces of a member, as the lookup meets them. -/
theorem Entry.Formed.member {e : Entry} (h : e.Formed true) (q : List UInt8) :
    ∃ key w, Str key e.name ∧ Ws w ∧
      e.core ++ q = key ++ (w ++ colon :: (e.gap ++ (e.value ++ (e.after ++ q)))) := by
  obtain ⟨key, w, hkey, hw, hlabel⟩ := h.label
  refine ⟨key, w, hkey, hw, ?_⟩
  simp only [Entry.core, hlabel, List.append_assoc, List.cons_append, List.nil_append]

theorem Str.peek {text decoded : List UInt8} (h : Str text decoded) (q : List UInt8) :
    peek (text ++ q) = quote := by
  obtain ⟨body, -, rfl⟩ := h
  rfl

/-- One round of the lookup. -/
theorem findLoop_member {k : Nat} (hk : k ≤ maxLevels) {key : List UInt8}
    (hkey : key.length ≤ 63) {e : Entry} (h : e.Formed true) (hv : Value k e.value)
    {q : List UInt8} (hq : Delimited q) (hws : isWs (peek q) = false) (fuel : Nat) :
    findLoop key (fuel + 1) (e.core ++ q) =
      if e.name = key then .ok (e.value ++ (e.after ++ q))
      else if peek q ≠ comma then .reject
      else bump q >>= fun p => findLoop key fuel (skipWs p) := by
  obtain ⟨name, w, hname, hw, hcore⟩ := h.member q
  have hstop : ¬ (quote = 0 ∨ quote = closeBrace) := by decide
  have hcolon : skipWs (w ++ colon :: (e.gap ++ (e.value ++ (e.after ++ q)))) =
      colon :: (e.gap ++ (e.value ++ (e.after ++ q))) :=
    skipWs_ws hw (show isWs colon = false from rfl)
  have hgap : skipWs (e.gap ++ (e.value ++ (e.after ++ q))) = e.value ++ (e.after ++ q) :=
    skipWs_ws h.gap (hv.starts _).ws
  have hend := valueEnd_complete (hv.mono hk) [] (e.after ++ q) nofun (hq.spaced h.after)
  have hafter : skipWs (e.after ++ q) = q := skipWs_ws h.after hws
  rw [List.nil_append] at hend
  rw [hcore, findLoop, hname.peek, if_neg hstop, readField_complete hname]
  simp only [Scan.ok_bind, hcolon, peek_cons, ne_eq, not_true_eq_false, ↓reduceIte, bump_cons, hgap,
    field_eq_key hkey, hend, hafter]

theorem findLoop_members {k : Nat} (hk : k ≤ maxLevels) {key : List UInt8}
    (hkey : key.length ≤ 63) {first : Entry} {rest : List Entry}
    (hformed : ∀ e ∈ first :: rest, e.Formed true) (hvalues : ∀ e ∈ first :: rest, Value k e.value)
    (tail : List UInt8) (fuel : Nat) (hfuel : rest.length < fuel) :
    findLoop key fuel (first.core ++ (moreEntries rest ++ closeBrace :: tail)) =
      found ((valueStarts (first :: rest) (closeBrace :: tail)).lookup key) := by
  induction rest generalizing first fuel with
  | nil =>
    obtain ⟨fuel, rfl⟩ : ∃ n, fuel = n + 1 := ⟨fuel - 1, by omega⟩
    have hround := findLoop_member hk hkey (hformed first List.mem_cons_self)
      (hvalues first List.mem_cons_self) (delimited_closing true tail) rfl fuel
    rw [show moreEntries [] ++ closeBrace :: tail = closing true :: tail from rfl, hround]
    by_cases hname : first.name = key
    · subst hname
      rw [if_pos rfl, valueStarts, List.lookup_cons_self]
      rfl
    · rw [if_neg hname, valueStarts, List.lookup_cons, beq_false_of_ne (Ne.symm hname)]
      rfl
  | cons second rest ih =>
    obtain ⟨fuel, rfl⟩ : ∃ n, fuel = n + 1 := ⟨fuel - 1, by omega⟩
    have hsecond := hformed second (List.mem_cons_of_mem _ List.mem_cons_self)
    have hv := hvalues second (List.mem_cons_of_mem _ List.mem_cons_self)
    have hmore : moreEntries (second :: rest) ++ closeBrace :: tail =
        comma :: (second.text ++ (moreEntries rest ++ closeBrace :: tail)) := by
      simp only [moreEntries, List.flatMap_cons, List.cons_append, List.append_assoc]
    have hround := findLoop_member hk hkey (hformed first List.mem_cons_self)
      (hvalues first List.mem_cons_self)
      (delimited_comma (second.text ++ (moreEntries rest ++ closeBrace :: tail))) rfl fuel
    rw [valueStarts, hmore, hround]
    by_cases hname : first.name = key
    · subst hname
      rw [if_pos rfl, List.lookup_cons_self]
      rfl
    · rw [if_neg hname, if_neg (show ¬ (peek (comma :: _) ≠ comma) from fun h => h rfl), bump_cons,
        Scan.ok_bind, hsecond.skip hv, List.lookup_cons, beq_false_of_ne (Ne.symm hname)]
      exact ih (fun e he => hformed e (List.mem_cons_of_mem _ he))
        (fun e he => hvalues e (List.mem_cons_of_mem _ he)) fuel (Nat.lt_of_succ_lt_succ hfuel)

/-- The lookup gives the value of the first member with the name. -/
theorem findValue_root {s tail : List UInt8} {members : List Entry} (h : Root s members tail)
    {key : List UInt8} (hkey : key.length ≤ 63) :
    findValue s key = found ((valueStarts members tail).lookup key) := by
  obtain ⟨w, v, w', hw, hw', hv, rfl, rfl⟩ := h
  have hopen : ∀ q, skipWs (w ++ (openBrace :: q)) = openBrace :: q := fun q =>
    skipWs_ws hw (show isWs openBrace = false from rfl)
  unfold findValue
  cases hv with
  | @empty inner hinner =>
    have hclose : skipWs (inner ++ closeBrace :: w') = closeBrace :: w' :=
      skipWs_ws hinner (show isWs closeBrace = false from rfl)
    have hstart := hopen (inner ++ closeBrace :: w')
    simp only [opening, closing, ↓reduceIte, List.cons_append, List.append_assoc,
      List.nil_append] at hstart ⊢
    simp only [hstart, peek_cons, ne_eq, not_true_eq_false, ↓reduceIte, bump_cons, Scan.ok_bind,
      hclose, findLoop, or_true]
    rfl
  | @entries first rest hformed hvalues =>
    have hf := hformed first List.mem_cons_self
    have hv := hvalues first List.mem_cons_self
    have hcore := hf.skip hv (moreEntries rest ++ closeBrace :: w')
    have hstart := hopen (first.text ++ (moreEntries rest ++ closeBrace :: w'))
    have hlength : rest.length <
        (first.core ++ (moreEntries rest ++ closeBrace :: w')).length + 1 := by
      have hmore := moreEntries_length rest
      simp only [List.length_append]
      omega
    simp only [containerText, opening, closing, ↓reduceIte, List.cons_append, List.append_assoc,
      List.nil_append] at hstart ⊢
    simp only [hstart, peek_cons, ne_eq, not_true_eq_false, ↓reduceIte, bump_cons, Scan.ok_bind,
      hcore]
    exact findLoop_members (Nat.sub_le maxLevels 1) hkey hformed hvalues w' _ hlength

end Lgnome.Json
