import Lgnome.Bytes.LittleEndian
import Lgnome.Credssp.Ntlm

/-!
# The target info of AUTHENTICATE

Any byte string is a row of complete AV pairs and an end: an end marker with
whatever follows it, or a pair that is cut off. The copy and the timestamp
lookup walk the string with their own loops and see the same row.
-/
namespace Lgnome.Credssp

open Ntlm NtlmClient

/-- A pair that can stand in a row: its identifier is not the end marker's. -/
structure AvPair where
  id : UInt16
  value : Bytes
  started : id ≠ 0
  fits : value.length < 2 ^ 16

namespace AvPair

def encode (p : AvPair) : Bytes :=
  leBytes16 p.id ++ (leBytes16 (UInt16.ofNat p.value.length) ++ p.value)

/-- MsvAvFlags. -/
def isFlags (p : AvPair) : Bool := p.id = 6

/-- MsvAvTimestamp, as wide as one. -/
def isTimestamp (p : AvPair) : Bool := p.id = 7 ∧ p.value.length = 8

/-- The flags pair with nothing but the MIC bit. -/
def micFlags : AvPair := ⟨6, leBytes32 2, by decide, by decide⟩

variable (p : AvPair) (more : Bytes)

theorem encode_length : p.encode.length = 4 + p.value.length := by
  simp only [encode, List.length_append, leBytes16_length]
  omega

theorem encode_id : readLe16 (p.encode ++ more) 0 = p.id.toNat := by
  rw [encode, List.append_assoc]
  exact readLe16_leBytes16 _ _

theorem encode_size : readLe16 (p.encode ++ more) 2 = p.value.length := by
  rw [encode, List.append_assoc, readLe16_append _ _ (leBytes16_length _), List.append_assoc,
    readLe16_leBytes16]
  exact Nat.mod_eq_of_lt p.fits

theorem encode_take : (p.encode ++ more).take (4 + p.value.length) = p.encode :=
  List.take_left' p.encode_length

theorem encode_drop : (p.encode ++ more).drop (4 + p.value.length) = more :=
  List.drop_left' p.encode_length

theorem encode_value : (p.encode ++ more).drop 4 = p.value ++ more := by
  have hassoc : p.encode ++ more =
      (leBytes16 p.id ++ leBytes16 (UInt16.ofNat p.value.length)) ++ (p.value ++ more) := by
    simp only [encode, List.append_assoc]
  rw [hassoc]
  exact List.drop_left' rfl

theorem id_pos : p.id.toNat ≠ 0 := fun h => p.started (UInt16.toNat_inj.1 h)

theorem ext_values {p q : AvPair} (hid : p.id = q.id) (hvalue : p.value = q.value) : p = q := by
  cases p
  cases q
  simp_all

/-- Two pairs in front of anything are told apart by their bytes. -/
theorem encode_inj {p q : AvPair} {a b : Bytes} (h : p.encode ++ a = q.encode ++ b) :
    p = q ∧ a = b := by
  have hid : p.id = q.id := by
    apply UInt16.toNat_inj.1
    rw [← p.encode_id a, h, q.encode_id]
  have hsize : p.value.length = q.value.length := by
    rw [← p.encode_size a, h, q.encode_size]
  have hvalue : p.value ++ a = q.value ++ b := by
    rw [← p.encode_value a, h, q.encode_value]
  obtain ⟨hhead, htail⟩ := List.append_inj hvalue hsize
  exact ⟨ext_values hid hhead, htail⟩

end AvPair

def encodePairs (pairs : List AvPair) : Bytes := pairs.flatMap AvPair.encode

/-- The first timestamp pair's value. -/
def firstTimestamp (pairs : List AvPair) : Option UInt64 :=
  (pairs.find? AvPair.isTimestamp).map fun p => UInt64.ofNat (readLe64 p.value 0)

/-- What stands behind the last complete pair: no room for a header, an end
marker, or less than the header announces. -/
def Ends (rest : Bytes) : Prop :=
  rest.length < 4 ∨ readLe16 rest 0 = 0 ∨ rest.length < 4 + readLe16 rest 2

/-- All complete pairs of a byte string that precede its end marker or
truncation, in order. -/
def Complete (ti : Bytes) (pairs : List AvPair) : Prop :=
  ∃ rest, ti = encodePairs pairs ++ rest ∧ Ends rest

variable {ti rest : Bytes} {pairs others : List AvPair} {fuel : Nat}

theorem encodePairs_cons (p : AvPair) (pairs : List AvPair) (rest : Bytes) :
    encodePairs (p :: pairs) ++ rest = p.encode ++ (encodePairs pairs ++ rest) := by
  simp only [encodePairs, List.flatMap_cons, List.append_assoc]

theorem encodePairs_append (pairs others : List AvPair) :
    encodePairs (pairs ++ others) = encodePairs pairs ++ encodePairs others :=
  List.flatMap_append

theorem not_ends_cons (p : AvPair) (more : Bytes) : ¬Ends (p.encode ++ more) := by
  have hlen := p.encode_length
  have hid := p.id_pos
  rintro (h | h | h)
  · rw [List.length_append] at h
    omega
  · rw [p.encode_id] at h
    exact hid h
  · rw [p.encode_size, List.length_append] at h
    omega

theorem length_le_encodePairs (pairs : List AvPair) (rest : Bytes) :
    pairs.length ≤ (encodePairs pairs ++ rest).length := by
  induction pairs with
  | nil => exact Nat.zero_le _
  | cons p pairs ih =>
    have hlen := p.encode_length
    rw [encodePairs_cons, List.length_append, List.length_cons]
    omega

/-- What is no end begins with a pair. -/
theorem headPair (hlen : 4 ≤ ti.length) (hid : readLe16 ti 0 ≠ 0)
    (hsize : 4 + readLe16 ti 2 ≤ ti.length) : ∃ (p : AvPair) (more : Bytes),
      ti = p.encode ++ more := by
  match ti, hlen with
  | x₀ :: x₁ :: x₂ :: x₃ :: tail, _ =>
    have hread : readLe16 (x₀ :: x₁ :: x₂ :: x₃ :: tail) 2 = readLe16 (x₂ :: x₃ :: tail) 0 := rfl
    rw [hread] at hsize
    generalize hl : readLe16 (x₂ :: x₃ :: tail) 0 = l at hsize
    have hl16 : l < 2 ^ 16 := hl ▸ readLe16_lt _ _
    have htail : (tail.take l).length = l := by
      rw [List.length_take]
      simp only [List.length_cons] at hsize
      omega
    have hstart : UInt16.ofNat (readLe16 (x₀ :: x₁ :: x₂ :: x₃ :: tail) 0) ≠ 0 := by
      intro hzero
      apply hid
      have hword := congrArg UInt16.toNat hzero
      rwa [UInt16.toNat_ofNat_of_lt' (readLe16_lt _ _)] at hword
    refine ⟨⟨_, tail.take l, hstart, htail.symm ▸ hl16⟩, tail.drop l, ?_⟩
    simp only [AvPair.encode, htail]
    rw [leBytes16_readLe16, ← hl, leBytes16_readLe16]
    simp

/-- Every byte string has its row of pairs. -/
theorem complete_exists (ti : Bytes) : ∃ pairs, Complete ti pairs := by
  induction hn : ti.length using Nat.strong_induction_on generalizing ti with
  | h n ih =>
    by_cases hend : Ends ti
    · exact ⟨[], ti, rfl, hend⟩
    · unfold Ends at hend
      push Not at hend
      obtain ⟨hlen, hid, hsize⟩ := hend
      obtain ⟨p, more, rfl⟩ := headPair hlen hid hsize
      have hshort : more.length < (p.encode ++ more).length := by
        rw [List.length_append, p.encode_length]
        omega
      obtain ⟨pairs, rest, rfl, hrest⟩ := ih _ (hn ▸ hshort) more rfl
      exact ⟨p :: pairs, rest, (encodePairs_cons p pairs rest).symm, hrest⟩

/-- There is one such row. -/
theorem Complete.unique (h : Complete ti pairs) (h' : Complete ti others) : pairs = others := by
  induction pairs generalizing ti others with
  | nil =>
    obtain ⟨rest, hti, hend⟩ := h
    obtain ⟨rest', hti', -⟩ := h'
    cases others with
    | nil => rfl
    | cons q others =>
      have hrest : rest = q.encode ++ (encodePairs others ++ rest') :=
        hti.symm.trans (hti'.trans (encodePairs_cons _ _ _))
      rw [hrest] at hend
      exact absurd hend (not_ends_cons q _)
  | cons p pairs ih =>
    obtain ⟨rest, hti, hend⟩ := h
    obtain ⟨rest', hti', hend'⟩ := h'
    rw [encodePairs_cons] at hti
    cases others with
    | nil =>
      have hrest : rest' = p.encode ++ (encodePairs pairs ++ rest) := hti'.symm.trans hti
      rw [hrest] at hend'
      exact absurd hend' (not_ends_cons p _)
    | cons q others =>
      rw [encodePairs_cons] at hti'
      obtain ⟨rfl, htail⟩ := AvPair.encode_inj (hti.symm.trans hti')
      rw [ih ⟨rest, rfl, hend⟩ ⟨rest', htail, hend'⟩]

/-- The copy keeps the row and drops the end. -/
theorem copyTargetInfo_pairs (hend : Ends rest) (hfuel : pairs.length ≤ fuel) :
    copyTargetInfo fuel (encodePairs pairs ++ rest) = encodePairs pairs := by
  induction pairs generalizing fuel with
  | nil =>
    cases fuel with
    | zero => rfl
    | succ fuel =>
      have hrest : encodePairs [] ++ rest = rest := rfl
      rw [hrest, copyTargetInfo]
      split
      · rfl
      · rename_i hlen
        dsimp only
        split
        · rfl
        · rename_i hid
          exact if_pos ((hend.resolve_left hlen).resolve_left hid)
  | cons p pairs ih =>
    cases fuel with
    | zero => cases hfuel
    | succ fuel =>
      have hlen := p.encode_length
      rw [encodePairs_cons, copyTargetInfo]
      have hlong : ¬(p.encode ++ (encodePairs pairs ++ rest)).length < 4 := by
        rw [List.length_append]
        omega
      have hwhole : ¬(p.encode ++ (encodePairs pairs ++ rest)).length < 4 + p.value.length := by
        rw [List.length_append]
        omega
      rw [if_neg hlong]
      simp only [p.encode_id, p.encode_size]
      rw [if_neg p.id_pos, if_neg hwhole, p.encode_take, p.encode_drop,
        ih (Nat.le_of_succ_le_succ hfuel)]
      rfl

/-- The lookup sees the same row. -/
theorem findTimestamp_pairs (hend : Ends rest) (hfuel : pairs.length ≤ fuel) :
    findTimestamp fuel (encodePairs pairs ++ rest) = firstTimestamp pairs := by
  induction pairs generalizing fuel with
  | nil =>
    cases fuel with
    | zero => rfl
    | succ fuel =>
      have hrest : encodePairs [] ++ rest = rest := rfl
      rw [hrest, findTimestamp]
      split
      · rfl
      · rename_i hlen
        dsimp only
        split
        · rfl
        · rename_i hid
          have hcut := (hend.resolve_left hlen).resolve_left hid
          refine if_pos ?_
          rw [List.length_drop]
          omega
  | cons p pairs ih =>
    cases fuel with
    | zero => cases hfuel
    | succ fuel =>
      have hlen := p.encode_length
      rw [encodePairs_cons, findTimestamp]
      have hlong : ¬(p.encode ++ (encodePairs pairs ++ rest)).length < 4 := by
        rw [List.length_append]
        omega
      have hwhole : ¬(p.value ++ (encodePairs pairs ++ rest)).length < p.value.length := by
        rw [List.length_append]
        omega
      have hnext := ih (Nat.le_of_succ_le_succ hfuel)
      rw [if_neg hlong]
      simp only [p.encode_id, p.encode_size, p.encode_value]
      rw [if_neg p.id_pos, if_neg hwhole]
      have hkind : (p.id.toNat = 7 ∧ p.value.length = 8) ↔ p.isTimestamp = true := by
        rw [AvPair.isTimestamp, decide_eq_true_iff]
        exact and_congr_left' ⟨fun h => UInt16.toNat_inj.1 h, fun h => congrArg UInt16.toNat h⟩
      by_cases hp : p.isTimestamp = true
      · obtain ⟨-, hwide⟩ := hkind.2 hp
        rw [if_pos (hkind.2 hp), firstTimestamp, List.find?_cons_of_pos hp, readLe64,
          readLe_left 8 _ _ (by omega)]
        rfl
      · rw [if_neg (mt hkind.1 hp), List.drop_left, hnext, firstTimestamp, firstTimestamp,
          List.find?_cons_of_neg hp]

/-- MsvAvFlags is no timestamp, so the added pair does not change the lookup. -/
theorem firstTimestamp_micFlags (pairs : List AvPair) :
    firstTimestamp (pairs ++ [AvPair.micFlags]) = firstTimestamp pairs := by
  have hnone : [AvPair.micFlags].find? AvPair.isTimestamp = none := rfl
  rw [firstTimestamp, firstTimestamp, List.find?_append, hnone, Option.or_none]

theorem Complete.copy (h : Complete ti pairs) :
    copyTargetInfo ti.length ti = encodePairs pairs := by
  obtain ⟨rest, rfl, hend⟩ := h
  exact copyTargetInfo_pairs hend (length_le_encodePairs pairs rest)

theorem Complete.timestamp (h : Complete ti pairs) :
    timestampFromTargetInfo ti = firstTimestamp (pairs ++ [AvPair.micFlags]) := by
  obtain ⟨rest, rfl, hend⟩ := h
  rw [firstTimestamp_micFlags]
  exact findTimestamp_pairs hend (length_le_encodePairs pairs rest)

/-- The rebuilt list: the row, the MIC flags, the end marker and four reserved bytes. -/
theorem Complete.build (h : Complete ti pairs) :
    buildAuthenticateTargetInfo ti =
      encodePairs (pairs ++ [AvPair.micFlags]) ++ List.replicate 8 0 := by
  have hflags : encodePairs [AvPair.micFlags] = leBytes16 6 ++ (leBytes16 4 ++ leBytes32 2) := rfl
  rw [buildAuthenticateTargetInfo, h.copy, encodePairs_append, hflags]
  simp only [List.append_assoc]

/-- Read as a target info, the rebuilt list is that row. -/
theorem Complete.rebuilt (h : Complete ti pairs) :
    Complete (buildAuthenticateTargetInfo ti) (pairs ++ [AvPair.micFlags]) :=
  ⟨List.replicate 8 0, h.build, .inr (.inl rfl)⟩

theorem readChallenge_ok {c c' : NtlmClient} {now : UInt64} {msg : Bytes}
    (h : c.readChallenge now msg = (c', .ok ())) :
    48 ≤ msg.length ∧ c'.challengeMsg = msg ∧ c'.serverChallenge = slice msg 24 32 ∧
      c'.timestamp = (timestampFromTargetInfo c'.challengeTargetInfo).getD now := by
  unfold readChallenge at h
  split at h
  · cases h
  · rename_i hlen
    split at h
    · cases h
    · split at h
      · cases h
      · dsimp only at h
        split at h
        · cases h
        · obtain ⟨rfl, -⟩ := Prod.mk.inj h
          dsimp only
          exact ⟨Nat.not_lt.1 hlen, rfl, rfl, rfl⟩

/-- For every target info: the pairs that precede its end marker or truncation,
in order and as they are, then one flags pair with the MIC bit, the end marker
and four reserved zero bytes. That pair is the only flags pair exactly when the
challenge brought none. The response carries the first timestamp of that list. -/
theorem target_info_rebuilt (ti : Bytes) : ∃ pairs,
    (Complete ti pairs ∧ ∀ others, Complete ti others → others = pairs) ∧
      buildAuthenticateTargetInfo ti =
        encodePairs (pairs ++ [AvPair.micFlags]) ++ List.replicate 8 0 ∧
      Complete (buildAuthenticateTargetInfo ti) (pairs ++ [AvPair.micFlags]) ∧
      ((pairs ++ [AvPair.micFlags]).countP AvPair.isFlags = 1 ↔
        ∀ p ∈ pairs, p.isFlags = false) ∧
      ∀ (c c' : NtlmClient) (now : UInt64) (msg clientChallenge : Bytes),
        c.readChallenge now msg = (c', .ok ()) → c'.challengeTargetInfo = ti →
          slice (c'.responseTemp clientChallenge) 8 16 =
            leBytes64 ((firstTimestamp (pairs ++ [AvPair.micFlags])).getD now) := by
  obtain ⟨pairs, h⟩ := complete_exists ti
  refine ⟨pairs, ⟨h, fun others ho => ho.unique h⟩, h.build, h.rebuilt, ?_, ?_⟩
  · have hcount : [AvPair.micFlags].countP AvPair.isFlags = 1 := rfl
    rw [List.countP_append, hcount]
    constructor
    · intro hone p hp
      have hzero : pairs.countP AvPair.isFlags = 0 := by omega
      exact Bool.eq_false_iff.2 (List.countP_eq_zero.1 hzero p hp)
    · intro hnone
      rw [List.countP_eq_zero.2 fun p hp => Bool.eq_false_iff.1 (hnone p hp)]
  · rintro c c' now msg clientChallenge hread rfl
    obtain ⟨-, -, -, htime⟩ := readChallenge_ok hread
    rw [← h.timestamp, ← htime]
    rfl

/-- A challenge with a flags pair of its own gets a second one: its flags are
not joined with the MIC bit. -/
theorem flags_pair_twice : ∃ ti rebuilt,
    (Complete (buildAuthenticateTargetInfo ti) rebuilt ∧
      ∀ others, Complete (buildAuthenticateTargetInfo ti) others → others = rebuilt) ∧
      rebuilt.countP AvPair.isFlags = 2 := by
  have hinput : Complete ((⟨6, leBytes32 1, by decide, by decide⟩ : AvPair).encode ++
      List.replicate 4 0) [⟨6, leBytes32 1, by decide, by decide⟩] :=
    ⟨List.replicate 4 0, rfl, .inr (.inl rfl)⟩
  exact ⟨_, _, ⟨hinput.rebuilt, fun others ho => ho.unique hinput.rebuilt⟩, rfl⟩

end Lgnome.Credssp
