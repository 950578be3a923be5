import Lgnome.Bytes.LittleEndian
import Lgnome.Rdpeai.Handler

/-!
# The scan for the client's format

`server_offers_pcm` walks entries of their own length by hand. With every read
checked it never fails, and it finds the client's format exactly when a whole
entry behind whole entries is that format.
-/
namespace Lgnome.Rdpeai

variable {payload : Bytes} {first i offset count : Nat}

/-! ## Checked reads -/

/-- An index outside the payload would panic. -/
def readChecked (width : Nat) (b : Bytes) (offset : Nat) : Option Nat :=
  if offset + width ≤ b.length then some (readLe width b offset) else none

/-- The loop of `server_offers_pcm`, with its reads in the source's order. -/
def offersFromChecked (payload : Bytes) : Nat → Nat → Option Bool
  | 0, _ => some false
  | count + 1, offset =>
    if payload.length < offset + 18 then some false
    else do
      let formatTag ← readChecked 2 payload offset
      let channelCount ← readChecked 2 payload (offset + 2)
      let rate ← readChecked 4 payload (offset + 4)
      let average ← readChecked 4 payload (offset + 8)
      let align ← readChecked 2 payload (offset + 12)
      let bits ← readChecked 2 payload (offset + 14)
      let extra ← readChecked 2 payload (offset + 16)
      let next := offset + 18 + extra
      if payload.length < next then some false
      else if formatTag = waveFormatPcm ∧ channelCount = channels ∧ rate = sampleRate ∧
          average = sampleRate * channels * 2 ∧ align = channels * 2 ∧ bits = bitsPerSample ∧
            extra = 0 then
        some true
      else offersFromChecked payload count next

def serverOffersChecked (payload : Bytes) : Option Bool :=
  if payload.length < 9 then some false
  else do
    let messageId ← readChecked 1 payload 0
    if messageId ≠ msgFormats.toNat then some false
    else
      let count ← readChecked 4 payload 1
      if count = 0 ∨ 1000 < count then some false else offersFromChecked payload count 9

theorem readChecked_inside {width : Nat} {b : Bytes} (h : offset + width ≤ b.length) :
    readChecked width b offset = some (readLe width b offset) := if_pos h

theorem isClientPcm_iff (payload : Bytes) (offset : Nat) :
    isClientPcm payload offset = true ↔
      readLe16 payload offset = waveFormatPcm ∧ readLe16 payload (offset + 2) = channels ∧
        readLe32 payload (offset + 4) = sampleRate ∧
          readLe32 payload (offset + 8) = sampleRate * channels * 2 ∧
            readLe16 payload (offset + 12) = channels * 2 ∧
              readLe16 payload (offset + 14) = bitsPerSample ∧
                readLe16 payload (offset + 16) = 0 := by
  simp only [isClientPcm, Bool.and_eq_true, beq_iff_eq, and_assoc]

/-- No read of the loop is outside the payload. -/
theorem offersFromChecked_eq (payload : Bytes) (count offset : Nat) :
    offersFromChecked payload count offset = some (offersFrom payload count offset) := by
  induction count generalizing offset with
  | zero => rfl
  | succ count ih =>
    unfold offersFromChecked offersFrom
    by_cases hshort : payload.length < offset + 18
    · rw [if_pos hshort, if_pos hshort]
    · have hread : ∀ width at', at' + width ≤ offset + 18 →
          readChecked width payload at' = some (readLe width payload at') :=
        fun width at' hinside => readChecked_inside (by omega)
      rw [if_neg hshort, if_neg hshort, hread 2 offset (by omega), hread 2 (offset + 2) (by omega),
        hread 4 (offset + 4) (by omega), hread 4 (offset + 8) (by omega),
        hread 2 (offset + 12) (by omega), hread 2 (offset + 14) (by omega),
        hread 2 (offset + 16) (by omega)]
      simp only [Option.bind_eq_bind, Option.bind_some]
      by_cases hcut : payload.length < offset + 18 + readLe16 payload (offset + 16)
      · rw [if_pos hcut]
        exact if_pos hcut
      · rw [if_neg hcut]
        refine (if_neg hcut).trans ?_
        cases hpcm : isClientPcm payload offset with
        | true =>
          rw [Bool.true_or]
          exact if_pos ((isClientPcm_iff payload offset).1 hpcm)
        | false =>
          rw [Bool.false_or]
          refine (if_neg fun hall => ?_).trans (ih _)
          rw [(isClientPcm_iff payload offset).2 hall] at hpcm
          cases hpcm

/-- No read of the scan is outside the payload. -/
theorem serverOffersChecked_eq (payload : Bytes) :
    serverOffersChecked payload = some (serverOffersPcm payload) := by
  unfold serverOffersChecked serverOffersPcm
  by_cases hshort : payload.length < 9
  · simp [hshort]
  · have hfirst : readChecked 1 payload 0 = some (readLe 1 payload 0) :=
      readChecked_inside (by omega)
    have hcount : readChecked 4 payload 1 = some (readLe32 payload 1) :=
      readChecked_inside (by omega)
    cases payload with
    | nil => exact absurd (Nat.zero_lt_succ 8) hshort
    | cons messageId rest =>
      have hbyte : readLe 1 (messageId :: rest) 0 = messageId.toNat := rfl
      rw [if_neg hshort, hfirst, hcount]
      simp only [Option.bind_eq_bind, Option.bind_some, hbyte, offersFromChecked_eq,
        List.head?_cons, decide_eq_false hshort, Bool.false_or]
      by_cases hformats : messageId = msgFormats
      · subst hformats
        simp only [ne_eq, not_true_eq_false, if_false, bne_self_eq_false, Bool.false_eq_true]
        split <;> rfl
      · have hne : messageId.toNat ≠ msgFormats.toNat := fun heq => hformats (UInt8.toNat_inj.1 heq)
        simp [hne, hformats]

/-! ## Entries -/

/-- Where the entry at an offset ends, with its extra data. -/
def entryEnd (payload : Bytes) (offset : Nat) : Nat :=
  offset + 18 + readLe16 payload (offset + 16)

/-- The entry lies inside the payload. -/
def Whole (payload : Bytes) (offset : Nat) : Prop :=
  offset + 18 ≤ payload.length ∧ entryEnd payload offset ≤ payload.length

/-- Entry `i` counted from the one at `first`, with every entry before it whole. -/
inductive EntryAt (payload : Bytes) : Nat → Nat → Nat → Prop
  | here (first : Nat) : EntryAt payload first 0 first
  | behind {first i offset : Nat} (hwhole : Whole payload first)
      (h : EntryAt payload (entryEnd payload first) i offset) :
      EntryAt payload first (i + 1) offset

/-- A Sound Formats PDU that declares this many formats. -/
def Declares (payload : Bytes) (count : Nat) : Prop :=
  9 ≤ payload.length ∧ payload.head? = some msgFormats ∧ readLe32 payload 1 = count

/-- The format that the client sends, as its own list has it. -/
def clientFormat : Bytes := clientFormats.drop 9

theorem clientFormat_eq : clientFormat = leBytes16 1 ++ (leBytes16 2 ++ (leBytes32 44100 ++
    (leBytes32 176400 ++ (leBytes16 4 ++ (leBytes16 16 ++ leBytes16 0))))) := by decide

/-- The seven comparisons are one comparison of bytes. -/
theorem isClientPcm_bytes (h : offset + 18 ≤ payload.length) :
    isClientPcm payload offset = true ↔ slice payload offset (offset + 18) = clientFormat := by
  rw [isClientPcm_iff, clientFormat_eq]
  refine Iff.trans ?_ (slice_eq_append_iff (by rfl) (by rfl)).symm
  refine and_congr (readLe16_eq_iff 1 (by omega)) (Iff.trans ?_ (slice_eq_append_iff (by rfl) (by rfl)).symm)
  refine and_congr (readLe16_eq_iff 2 (by omega)) (Iff.trans ?_ (slice_eq_append_iff (by rfl) (by rfl)).symm)
  refine and_congr (readLe32_eq_iff 44100 (by omega)) (Iff.trans ?_ (slice_eq_append_iff (by rfl) (by rfl)).symm)
  refine and_congr (readLe32_eq_iff 176400 (by omega)) (Iff.trans ?_ (slice_eq_append_iff (by rfl) (by rfl)).symm)
  refine and_congr (readLe16_eq_iff 4 (by omega)) (Iff.trans ?_ (slice_eq_append_iff (by rfl) (by rfl)).symm)
  exact and_congr (readLe16_eq_iff 16 (by omega)) (readLe16_eq_iff 0 (by omega))

/-- The loop finds an entry among the next `count` ones. -/
theorem offersFrom_iff (payload : Bytes) (count first : Nat) :
    offersFrom payload count first = true ↔
      ∃ i < count, ∃ offset, EntryAt payload first i offset ∧ Whole payload offset ∧
        isClientPcm payload offset = true := by
  induction count generalizing first with
  | zero => simp [offersFrom]
  | succ count ih =>
    have hloop : offersFrom payload (count + 1) first = true ↔ Whole payload first ∧
        (isClientPcm payload first = true ∨
          offersFrom payload count (entryEnd payload first) = true) := by
      rw [offersFrom]
      unfold Whole entryEnd
      by_cases hshort : payload.length < first + 18
      · simp only [if_pos hshort, Bool.false_eq_true, false_iff]
        omega
      · by_cases hcut : payload.length < first + 18 + readLe16 payload (first + 16)
        · simp only [if_neg hshort, if_pos hcut, Bool.false_eq_true, false_iff]
          omega
        · simp only [if_neg hshort, if_neg hcut, Bool.or_eq_true]
          exact ⟨fun h => ⟨⟨by omega, by omega⟩, h⟩, And.right⟩
    rw [hloop, ih]
    constructor
    · rintro ⟨hwhole, hpcm | ⟨i, hi, offset, hentry, hrest⟩⟩
      · exact ⟨0, Nat.succ_pos _, first, .here first, hwhole, hpcm⟩
      · exact ⟨i + 1, Nat.succ_lt_succ hi, offset, .behind hwhole hentry, hrest⟩
    · rintro ⟨i, hi, offset, hentry, hrest⟩
      cases hentry with
      | here => exact ⟨hrest.1, .inl hrest.2⟩
      | behind hwhole hentry =>
        exact ⟨hwhole, .inr ⟨_, Nat.lt_of_succ_lt_succ hi, offset, hentry, hrest⟩⟩

/-- The scan reads nothing outside the payload, and says yes exactly when the payload
declares 1 to 1000 formats and a whole entry behind whole ones is the client's format. -/
theorem serverOffersPcm_scan (payload : Bytes) :
    serverOffersChecked payload = some (serverOffersPcm payload) ∧
      (serverOffersPcm payload = true ↔ ∃ count, Declares payload count ∧ 1 ≤ count ∧ count ≤ 1000 ∧
        ∃ i < count, ∃ offset, EntryAt payload 9 i offset ∧ Whole payload offset ∧
          slice payload offset (offset + 18) = clientFormat) := by
  refine ⟨serverOffersChecked_eq payload, ?_⟩
  have hfound : ∀ count, offersFrom payload count 9 = true ↔
      ∃ i < count, ∃ offset, EntryAt payload 9 i offset ∧ Whole payload offset ∧
        slice payload offset (offset + 18) = clientFormat := by
    intro count
    rw [offersFrom_iff]
    refine exists_congr fun i => and_congr_right fun _ => exists_congr fun offset =>
      and_congr_right fun _ => and_congr_right fun hwhole => isClientPcm_bytes hwhole.1
  have hscan : serverOffersPcm payload = true ↔ Declares payload (readLe32 payload 1) ∧
      (1 ≤ readLe32 payload 1 ∧ readLe32 payload 1 ≤ 1000) ∧
        offersFrom payload (readLe32 payload 1) 9 = true := by
    unfold serverOffersPcm Declares
    by_cases hheader : payload.length < 9 ∨ payload.head? ≠ some msgFormats
    · have hbool : (decide (payload.length < 9) || payload.head? != some msgFormats) = true := by
        simpa using hheader
      rw [if_pos hbool]
      simp only [Bool.false_eq_true, false_iff]
      rintro ⟨⟨hlong, hhead, -⟩, -⟩
      rcases hheader with hshort | hother
      · omega
      · exact hother hhead
    · have hbool : ¬ (decide (payload.length < 9) || payload.head? != some msgFormats) = true := by
        simpa using hheader
      rw [if_neg hbool]
      simp only [not_or, Nat.not_lt, ne_eq, Decidable.not_not] at hheader
      by_cases hcount : readLe32 payload 1 = 0 ∨ 1000 < readLe32 payload 1
      · rw [if_pos hcount]
        simp only [Bool.false_eq_true, false_iff]
        rintro ⟨-, ⟨hlow, hhigh⟩, -⟩
        omega
      · rw [if_neg hcount]
        exact ⟨fun h => ⟨⟨hheader.1, hheader.2, rfl⟩, by omega, h⟩, fun h => h.2.2⟩
  rw [hscan, hfound]
  constructor
  · rintro ⟨hdeclares, ⟨hlow, hhigh⟩, hentry⟩
    exact ⟨_, hdeclares, hlow, hhigh, hentry⟩
  · rintro ⟨count, hdeclares, hlow, hhigh, hentry⟩
    have hcount := hdeclares.2.2
    rw [hcount]
    exact ⟨hdeclares, ⟨hlow, hhigh⟩, hentry⟩

/-- A longer entry of another kind stands before the client's. -/
example : serverOffersPcm ([msgFormats, 2, 0, 0, 0, 0, 0, 0, 0] ++
    (leBytes16 2 ++ List.replicate 14 0 ++ leBytes16 3 ++ [1, 2, 3]) ++ clientFormat) = true := by
  decide

end Lgnome.Rdpeai
