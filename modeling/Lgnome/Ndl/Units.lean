import Lgnome.Ndl.Adapter

/-!
# Units in the adapter's buffer

Whatever the buffer has room for and whatever memory answers, a unit is written
inside it or refused. What the backend gets of a unit that the caller's own scan
accepts has start codes for lengths and is the unit as it came otherwise.
-/
namespace Lgnome.Ndl

open Lgnome.Native

/-- The scan that `native_video_ingest_au_locked` makes of a unit. -/
def scanAu (sizeMax : Nat) : Scanner
  | .h264, data =>
    match nativeH264ScanAu sizeMax data with
    | some info => { valid := true, canSeedDecoder := info.canSeedDecoder }
    | none => { valid := false, canSeedDecoder := false }
  | .h265, data => hevcScanAnnexb data

/-- What the backend is to get of a unit. -/
def IsNormal (codec : VideoCodec) (data bytes : Bytes) : Prop :=
  match codec with
  | .h264 =>
    (∃ nals info, IsAvc data nals ∧ nals.foldlM NativeH264Info.countNal {} = some info ∧
      bytes = encodeAnnexb nals) ∨ (¬∃ info, ScansAsAvc data info) ∧ bytes = data
  | .h265 => bytes = data

variable {sizeMax : Nat} {v : NativeVideo} {data bytes : Bytes} {memory : Option Bytes}

theorem IsNormal.length {codec : VideoCodec} (h : IsNormal codec data bytes) :
    bytes.length = data.length := by
  cases codec with
  | h264 =>
    rcases h with ⟨nals, info, ⟨rfl, -, -⟩, -, rfl⟩ | ⟨-, rfl⟩
    · exact encodeAnnexb_length nals
    · rfl
  | h265 => exact congrArg List.length h

/-- What is left of a unit in the buffer: the bytes for the backend with the scan's
verdict, or a reason to refuse it. -/
def Normalized (sizeMax : Nat) (v : NativeVideo) (data annexb : Bytes) (memory : Option Bytes) :
    Option NativeVideo.Ready → Prop
  | none => (scanAu sizeMax v.codec data).valid = false ∨
      v.annexb.length < data.length ∧ memory = none
  | some ready => (scanAu sizeMax v.codec data).valid = true ∧
      (data.length ≤ v.annexb.length ∨ memory ≠ none) ∧
      ready = ⟨data.length, (scanAu sizeMax v.codec data).canSeedDecoder⟩ ∧
      IsNormal v.codec data (annexb.take data.length)

/-- A conversion changes nothing of the track but its buffer. -/
def Normalizes (sizeMax : Nat) (v : NativeVideo) (data : Bytes) (memory : Option Bytes)
    (done : Option (NativeVideo × Option NativeVideo.Ready)) : Prop :=
  ∃ annexb r, done = some ({ v with annexb }, r) ∧ Normalized sizeMax v data annexb memory r

/-- Room is made by `realloc` alone, and what is in the buffer stays in front. -/
theorem reserveAnnexb_cases (v : NativeVideo) (needed : Nat) (memory : Option Bytes) :
    v.reserveAnnexb needed memory = none ∧ v.annexb.length < needed ∧ memory = none ∨
      ∃ annexb, v.reserveAnnexb needed memory = some { v with annexb } ∧
        needed ≤ annexb.length ∧ (needed ≤ v.annexb.length ∨ memory ≠ none) := by
  rw [NativeVideo.reserveAnnexb]
  by_cases hroom : needed ≤ v.annexb.length
  · rw [if_pos hroom]
    exact .inr ⟨v.annexb, rfl, hroom, .inl hroom⟩
  · rw [if_neg hroom]
    cases memory with
    | none => exact .inl ⟨rfl, by omega, rfl⟩
    | some found =>
      refine .inr ⟨_, rfl, ?_, .inr nofun⟩
      simp only [List.length_append, List.length_take, List.length_replicate]
      omega

theorem copyUnit_cases {decoderSeed : Bool} (hvalid : (scanAu sizeMax v.codec data).valid = true)
    (hseed : (scanAu sizeMax v.codec data).canSeedDecoder = decoderSeed)
    (hnormal : IsNormal v.codec data data) :
    Normalizes sizeMax v data memory (v.copyUnit data decoderSeed memory) := by
  rw [NativeVideo.copyUnit]
  rcases reserveAnnexb_cases v data.length memory with ⟨hfull, hshort⟩ | ⟨annexb, hroom, hlen, hhad⟩
  · rw [hfull]
    exact ⟨v.annexb, none, rfl, .inr hshort⟩
  · rw [hroom]
    have hstore := @storeAt_end [] annexb data hlen
    rw [List.nil_append, List.nil_append, List.length_nil] at hstore
    dsimp only
    rw [hstore, Option.map_some]
    refine ⟨_, _, rfl, hvalid, hhad, by rw [hseed], ?_⟩
    rw [List.take_left]
    exact hnormal

/-- A unit behind its lengths that the size check has passed is converted whole. -/
theorem avcToAnnexb_room {info : NativeH264Info} {nals : List Bytes} {out : Bytes}
    (hrow : IsAvc data nals) (hroom : data.length ≤ out.length)
    (hsize : avcAnnexbSize sizeMax data = ⟨.ok, info, data.length⟩) :
    avcToAnnexb sizeMax data out out.length =
      some ⟨.ok, encodeAnnexb nals ++ out.drop data.length, data.length⟩ := by
  obtain ⟨hdata, hne, hfits⟩ := hrow
  have hcopy := @avcConvertLoop_row [] out nals data.length hfits (by rw [← hdata])
    (by rw [← hdata]; exact hroom)
  rw [← hdata, List.length_nil, Nat.zero_add, List.nil_append, List.nil_append] at hcopy
  have hpos : data.length ≠ 0 := by
    cases nals with
    | nil => exact absurd rfl hne
    | cons nal nals =>
      rw [hdata, encodeAvc_cons, List.length_append, encodeAvcNal_length]
      omega
  simp only [avcToAnnexb, hsize, ne_eq, not_true_eq_false, if_false, if_neg (Nat.not_lt.2 hroom),
    hcopy, Option.map_some, if_neg hpos]

theorem convertUnit_cases {info : NativeH264Info} {nals : List Bytes} (hcodec : v.codec = .h264)
    (hcap : data.length ≤ maxAuBytes) (hrow : IsAvc data nals)
    (hfold : nals.foldlM NativeH264Info.countNal {} = some info)
    (hsize : avcAnnexbSize sizeMax data = ⟨.ok, info, data.length⟩) :
    Normalizes sizeMax v data memory
      (v.convertUnit sizeMax data ⟨.ok, info, data.length⟩ memory) := by
  have hscan : scanAu sizeMax v.codec data = ⟨true, info.canSeedDecoder⟩ := by
    simp only [hcodec, scanAu, nativeH264ScanAu, nativeH264ScanAvc, hsize, if_true]
  rw [NativeVideo.convertUnit, if_neg (Nat.not_lt.2 hcap)]
  rcases reserveAnnexb_cases v data.length memory with ⟨hfull, hshort⟩ | ⟨annexb, hroom, hlen, hhad⟩
  · rw [hfull]
    exact ⟨v.annexb, none, rfl, .inr hshort⟩
  · rw [hroom]
    dsimp only
    rw [avcToAnnexb_room hrow hlen hsize, Option.map_some]
    refine ⟨_, _, rfl, ?_⟩
    rw [if_pos rfl]
    refine ⟨by rw [hscan], hhad, by rw [hscan], ?_⟩
    have hbytes : (encodeAnnexb nals).length = data.length := by
      rw [encodeAnnexb_length, ← hrow.1]
    rw [hcodec, ← hbytes, List.take_left]
    exact .inl ⟨nals, info, hrow, hfold, rfl⟩

/-- No unit makes the adapter leave a buffer; what comes of it is what the caller's
scan and memory say. -/
theorem normalize_cases (v : NativeVideo) (data : Bytes) (memory : Option Bytes)
    (hsize : maxAuBytes ≤ sizeMax) (hcap : data.length ≤ maxAuBytes) :
    Normalizes sizeMax v data memory (v.normalize sizeMax data memory) := by
  rw [NativeVideo.normalize]
  cases hcodec : v.codec with
  | h265 =>
    have hscan : scanAu sizeMax v.codec data = hevcScanAnnexb data := by rw [hcodec]; rfl
    dsimp only
    by_cases hvalid : (hevcScanAnnexb data).valid = true
    · rw [if_pos hvalid]
      exact copyUnit_cases (hscan ▸ hvalid) (by rw [hscan]) (by rw [hcodec]; rfl)
    · rw [if_neg hvalid]
      exact ⟨v.annexb, none, rfl, .inl (hscan ▸ Bool.eq_false_iff.2 hvalid)⟩
  | h264 =>
    have hmax : data.length ≤ sizeMax := hcap.trans hsize
    dsimp only
    by_cases hok : (avcAnnexbSize sizeMax data).result = .ok
    · rw [if_pos hok]
      generalize hscan : avcAnnexbSize sizeMax data = scan at hok
      obtain ⟨result, info, needed⟩ := scan
      dsimp only at hok
      subst hok
      obtain ⟨nals, hrow, hfold, rfl⟩ := (avcAnnexbSize_iff hmax).1 hscan
      exact convertUnit_cases hcodec hcap hrow hfold hscan
    · rw [if_neg hok]
      have hnone : nativeH264ScanAvc sizeMax data = none := by
        rw [nativeH264ScanAvc]
        exact if_neg hok
      have hno : ¬∃ info, ScansAsAvc data info := by
        rintro ⟨info, hinfo⟩
        rw [(nativeH264ScanAvc_iff hmax).2 hinfo] at hnone
        cases hnone
      cases hannexb : nativeH264ScanAnnexb data with
      | none =>
        refine ⟨v.annexb, none, rfl, .inl ?_⟩
        simp only [hcodec, scanAu, nativeH264ScanAu, hnone, hannexb]
      | some info =>
        have hscan : scanAu sizeMax v.codec data = ⟨true, info.canSeedDecoder⟩ := by
          simp only [hcodec, scanAu, nativeH264ScanAu, hnone, hannexb]
        exact copyUnit_cases (by rw [hscan]) (by rw [hscan])
          (by rw [hcodec]; exact .inr ⟨hno, rfl⟩)

end Lgnome.Ndl
