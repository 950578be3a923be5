import Lgnome.Native.Avc

/-!
# From lengths to start codes

`native_h264_avc_to_annexb` writes into the caller's buffer. A read or a write
outside a buffer is `none`; a unit that passed the size check never gets there.
-/
namespace Lgnome.Native

/-- `memcpy` into a buffer at an offset. -/
def storeAt (buf : Bytes) (off : Nat) (bytes : Bytes) : Option Bytes :=
  if off + bytes.length ≤ buf.length then
    some (buf.take off ++ (bytes ++ buf.drop (off + bytes.length)))
  else none

/-- The copying loop over what is left of the input: the output buffer and
`*out_len`. The length of the input is fuel enough. -/
def avcConvertLoop : Nat → Bytes → Nat → Bytes → Option (Bytes × Nat)
  | _, out, outLen, [] => some (out, outLen)
  | 0, _, _, _ :: _ => none
  | fuel + 1, out, outLen, b :: more =>
    if (b :: more).length < 4 then none
    else
      let nalLen := readBe32 (b :: more)
      let rest := (b :: more).drop 4
      match storeAt out outLen startCode with
      | none => none
      | some out =>
        if rest.length < nalLen then none
        else
          match storeAt out (outLen + 4) (rest.take nalLen) with
          | none => none
          | some out => avcConvertLoop fuel out (outLen + 4 + nalLen) (rest.drop nalLen)

/-- What a conversion leaves behind: its result, the output buffer, `*out_len`. -/
structure Converted where
  result : NativeH264Result
  out : Bytes
  outLen : Nat
  deriving DecidableEq, Repr

/-- `native_h264_avc_to_annexb` on buffers that are there. -/
def avcToAnnexb (sizeMax : Nat) (data out : Bytes) (outCap : Nat) : Option Converted :=
  let scan := avcAnnexbSize sizeMax data
  if scan.result ≠ .ok then some ⟨scan.result, out, 0⟩
  else if outCap < scan.outLen then some ⟨.outputTooSmall, out, 0⟩
  else
    (avcConvertLoop data.length out 0 data).map fun done =>
      ⟨if done.2 = 0 then .invalid else .ok, done.1, done.2⟩

/-- No start code stands in the NAL unit, as in every one that is emulation-prevented. -/
def NoStartCode (nal : Bytes) : Prop := ¬[0, 0, 1] <:+: nal

variable {nal data out done tail : Bytes} {nals : List Bytes} {info info' : NativeH264Info}
  {sizeMax outCap fuel needed : Nat}

theorem NoStartCode.find (h : NoStartCode nal) : findAnnexbPrefix nal = none := by
  cases hfound : findAnnexbPrefix nal with
  | none => rfl
  | some found =>
    obtain ⟨before, body⟩ := found
    obtain ⟨code, hcode, rfl⟩ := findAnnexbPrefix_split hfound
    refine absurd ?_ h
    rw [List.append_assoc]
    rcases annexbPrefixAt_some.mp hcode with ⟨more, heq, -⟩ | ⟨more, heq, -⟩
    · rw [heq]
      exact ⟨before, more, by simp⟩
    · rw [heq]
      exact ⟨before ++ [0], more, by simp⟩

/-! ## The copy -/

theorem storeAt_end {bytes : Bytes} (h : bytes.length ≤ tail.length) :
    storeAt (done ++ tail) done.length bytes = some (done ++ (bytes ++ tail.drop bytes.length)) := by
  have hfits : done.length + bytes.length ≤ (done ++ tail).length := by
    rw [List.length_append]
    omega
  have hdrop : (done ++ tail).drop (done.length + bytes.length) = tail.drop bytes.length := by
    rw [← List.drop_drop, List.drop_left]
  rw [storeAt, if_pos hfits, List.take_left, hdrop]

/-- The loop puts a start code in the place of each length and copies the rest,
behind what it has written and in front of what is beyond. -/
theorem avcConvertLoop_row (hfits : ∀ nal ∈ nals, nal.length < 2 ^ 32)
    (hfuel : (encodeAvc nals).length ≤ fuel) (hroom : (encodeAvc nals).length ≤ tail.length) :
    avcConvertLoop fuel (done ++ tail) done.length (encodeAvc nals) =
      some (done ++ (encodeAnnexb nals ++ tail.drop (encodeAvc nals).length),
        done.length + (encodeAvc nals).length) := by
  induction nals generalizing done tail fuel with
  | nil => cases fuel <;> rfl
  | cons nal nals ih =>
    obtain ⟨hread, hdrop⟩ := encodeAvcNal_read (hfits nal List.mem_cons_self) (encodeAvc nals)
    have hlen : (encodeAvc (nal :: nals)).length = 4 + nal.length + (encodeAvc nals).length := by
      rw [encodeAvc_cons, List.length_append, encodeAvcNal_length]
    rw [hlen] at hfuel hroom
    have hlong : ¬(encodeAvcNal nal ++ encodeAvc nals).length < 4 := by
      rw [List.length_append, encodeAvcNal_length]
      omega
    have hcode : storeAt (done ++ tail) done.length startCode =
        some (done ++ (startCode ++ tail.drop 4)) := storeAt_end (by
      show 4 ≤ tail.length
      omega)
    have hnal : storeAt (done ++ (startCode ++ tail.drop 4)) (done.length + 4) nal =
        some ((done ++ startCode ++ nal) ++ (tail.drop 4).drop nal.length) := by
      have hsplit : done.length + 4 = (done ++ startCode).length := by
        rw [List.length_append]
        rfl
      rw [← List.append_assoc, hsplit, storeAt_end (by rw [List.length_drop]; omega),
        List.append_assoc (done ++ startCode)]
    have hfits' : ¬(nal ++ encodeAvc nals).length < nal.length := by
      rw [List.length_append]
      omega
    have hnext : done.length + 4 + nal.length = (done ++ startCode ++ nal).length := by
      rw [List.length_append, List.length_append]
      rfl
    cases fuel with
    | zero => omega
    | succ fuel =>
      rw [encodeAvc_cons]
      generalize hrow : encodeAvcNal nal ++ encodeAvc nals = row at hread hdrop hlong
      cases row with
      | nil => exact absurd (by decide) hlong
      | cons b row =>
        rw [avcConvertLoop, if_neg hlong]
        simp only [hread, hdrop, hcode, if_neg hfits', List.take_left, List.drop_left, hnal]
        rw [hnext, ih (fun x hx => hfits x (List.mem_cons_of_mem nal hx)) (by omega)
          (by rw [List.length_drop, List.length_drop]; omega), ← hrow, ← encodeAvc_cons, hlen,
          encodeAnnexb_cons, List.drop_drop, List.drop_drop, ← hnext]
        simp only [List.append_assoc, Nat.add_assoc]

/-! ## The scan of the output -/

/-- The start flag is carried along. -/
theorem scanNal_flag (flag : Bool) (info : NativeH264Info) (nal : Bytes) :
    NativeH264Info.scanNal { info with startsWithAnnexbStartCode := flag } nal =
      (info.scanNal nal).map fun info => { info with startsWithAnnexbStartCode := flag } := by
  cases nal with
  | nil => rfl
  | cons header body =>
    simp only [NativeH264Info.scanNal]
    generalize header &&& 0x1f = t
    by_cases hbad : header &&& 0x80 ≠ 0 ∨ t = 0
    · rw [if_pos hbad, if_pos hbad]
      rfl
    · rw [if_neg hbad, if_neg hbad]
      by_cases hvcl : 1 ≤ t ∧ t ≤ 5
      · simp only [if_pos hvcl]
        split
        · rfl
        · split
          · rfl
          · split <;> rfl
      · simp only [if_neg hvcl]
        split
        · rfl
        · split
          · rfl
          · split <;> rfl

theorem scan_flag (flag : Bool) (hscan : nals.foldlM NativeH264Info.countNal info = some info') :
    nals.foldlM NativeH264Info.countNal { info with startsWithAnnexbStartCode := flag } =
      some { info' with startsWithAnnexbStartCode := flag } := by
  induction nals generalizing info with
  | nil =>
    obtain rfl := Option.some.inj hscan
    rfl
  | cons nal nals ih =>
    rw [List.foldlM_cons] at hscan ⊢
    obtain ⟨next, hfirst, hrest⟩ := Option.bind_eq_some_iff.mp hscan
    obtain ⟨scanned, hscanned, rfl⟩ := Option.map_eq_some_iff.mp hfirst
    have hflag : NativeH264Info.countNal { info with startsWithAnnexbStartCode := flag } nal =
        some { scanned with
          startsWithAnnexbStartCode := flag
          nalCount := scanned.nalCount + 1 } := by
      rw [NativeH264Info.countNal, scanNal_flag, hscanned]
      rfl
    rw [hflag]
    exact ih hrest

theorem annexbPrefixAt_encodeAnnexb (nal : Bytes) (nals : List Bytes) :
    annexbPrefixAt (encodeAnnexb (nal :: nals)) = some 4 := by
  rw [encodeAnnexb_cons]
  rfl

/-- NAL units without a start code in them and without a last zero are found as
they were. -/
theorem nalUnits_encodeAnnexb (h : ∀ nal ∈ nals, NoStartCode nal ∧ nal.getLast? ≠ some 0) :
    nalUnits (encodeAnnexb nals) = nals := by
  induction nals with
  | nil => rfl
  | cons nal nals ih =>
    obtain ⟨hcode, hlast⟩ := h nal List.mem_cons_self
    have hrest := ih fun x hx => h x (List.mem_cons_of_mem nal hx)
    rw [encodeAnnexb_cons]
    cases nals with
    | nil =>
      have hlen : (startCode ++ (nal ++ encodeAnnexb [])).length = nal.length + 3 + 1 := by
        simp only [startCode, encodeAnnexb, List.flatMap_nil, List.append_nil, List.length_append,
          List.length_cons, List.length_nil]
        omega
      have hdrop : (startCode ++ (nal ++ encodeAnnexb [])).drop 4 = nal := List.append_nil nal
      rw [nalUnits, hlen, annexbNals_code (n := 4) rfl, hdrop, hcode.find]
    | cons next nals =>
      obtain ⟨read, hread, hnals⟩ :=
        annexbNals_splice hcode.find (annexbPrefixAt_encodeAnnexb next nals)
      rcases hread with rfl | rfl
      · rw [hnals, hrest]
      · exact absurd (by simp) hlast

/-- A unit that the size check accepts: the output has the size of the input,
with a start code for every length and each NAL unit as it is, and nothing is
written when it does not fit. Where no NAL unit looks like a start code or ends
in a zero, the Annex-B scan of the output finds the NAL units of the input and
reports the same. -/
theorem avc_to_annexb_exact (hmax : data.length ≤ sizeMax) (hcap : outCap ≤ out.length)
    (hsize : avcAnnexbSize sizeMax data = ⟨.ok, info, needed⟩) :
    needed = data.length ∧ ∃ nals, IsAvc data nals ∧
      (encodeAnnexb nals).length = needed ∧
      (needed ≤ outCap → avcToAnnexb sizeMax data out outCap =
        some ⟨.ok, encodeAnnexb nals ++ out.drop needed, needed⟩) ∧
      (outCap < needed → avcToAnnexb sizeMax data out outCap = some ⟨.outputTooSmall, out, 0⟩) ∧
      ((∀ nal ∈ nals, NoStartCode nal ∧ nal.getLast? ≠ some 0) →
        nalUnits (encodeAnnexb nals) = nals ∧
          nativeH264ScanAnnexb (encodeAnnexb nals) =
            some { info with startsWithAnnexbStartCode := true } ∧
          nativeH264AnnexbIsKeyframe (encodeAnnexb nals) = info.canSeedDecoder) := by
  obtain ⟨nals, hrow, hscan, hneeded⟩ := (avcAnnexbSize_iff hmax).1 hsize
  obtain ⟨hdata, hne, hfits⟩ := hrow
  have hlen : (encodeAnnexb nals).length = needed := by
    rw [encodeAnnexb_length, ← hdata, hneeded]
  refine ⟨hneeded, nals, ⟨hdata, hne, hfits⟩, hlen, ?_, ?_, ?_⟩
  · intro hroom
    have hcopy := @avcConvertLoop_row [] out nals data.length hfits (by rw [← hdata])
      (by rw [← hdata]; omega)
    have hpos : (encodeAvc nals).length ≠ 0 := by
      cases nals with
      | nil => exact absurd rfl hne
      | cons nal nals =>
        rw [encodeAvc_cons, List.length_append, encodeAvcNal_length]
        omega
    rw [← hdata] at hcopy hpos
    rw [List.length_nil, Nat.zero_add, List.nil_append, List.nil_append, ← hneeded] at hcopy
    rw [← hneeded] at hpos
    unfold avcToAnnexb
    dsimp only
    rw [hsize, if_neg (not_not.2 rfl), if_neg (Nat.not_lt.2 hroom), ← hneeded, hcopy]
    simp only [Option.map_some, if_neg hpos]
  · intro hsmall
    unfold avcToAnnexb
    dsimp only
    rw [hsize, if_neg (not_not.2 rfl), if_pos hsmall]
  · intro hnals
    have hunits := nalUnits_encodeAnnexb hnals
    have hannexb : nativeH264ScanAnnexb (encodeAnnexb nals) =
        some { info with startsWithAnnexbStartCode := true } := by
      have hstarts : startsWithStartCode (encodeAnnexb nals) = true := by
        cases nals with
        | nil => exact absurd rfl hne
        | cons nal nals => exact startsWithStartCode_iff.2 ⟨4, annexbPrefixAt_encodeAnnexb nal nals⟩
      have hcount := nalCount_of_scan hscan
      have hpos := List.length_pos_of_ne_nil hne
      have hsome : info.nalCount ≠ 0 := by
        rw [hcount]
        omega
      unfold nativeH264ScanAnnexb
      rw [hunits, hstarts, scan_flag true hscan]
      exact if_neg hsome
    have hfour : 4 ≤ (encodeAnnexb nals).length := by
      cases nals with
      | nil => exact absurd rfl hne
      | cons nal nals =>
        rw [encodeAnnexb_length, encodeAvc_cons, List.length_append, encodeAvcNal_length]
        omega
    refine ⟨hunits, hannexb, ?_⟩
    rw [nativeH264AnnexbIsKeyframe, hannexb, decide_eq_true hfour]
    rfl

/-- Parameter sets and a refresh, converted in a buffer that is two bytes larger. -/
theorem avc_to_annexb_exact_seed :
    let data := encodeAvc [[0x67, 0x42], [0x68, 0xce], [0x65, 0x88]]
    ∃ nals, IsAvc data nals ∧ avcToAnnexb (2 ^ 32 - 1) data (List.replicate 20 0xff) 20 =
      some ⟨.ok, encodeAnnexb nals ++ [0xff, 0xff], 18⟩ := by
  have hsize : avcAnnexbSize (2 ^ 32 - 1) (encodeAvc [[0x67, 0x42], [0x68, 0xce], [0x65, 0x88]]) =
      ⟨.ok, { hasVcl := true, hasSps := true, hasPps := true, hasIdr := true,
              canSeedDecoder := true, nalCount := 3, sps := [0x67, 0x42], pps := [0x68, 0xce] },
        18⟩ := by decide +kernel
  have hroom : 20 ≤ (List.replicate 20 (0xff : UInt8)).length := by decide
  obtain ⟨-, nals, hrow, -, hconvert, -⟩ := avc_to_annexb_exact (by decide) hroom hsize
  exact ⟨nals, hrow, hconvert (by decide)⟩

end Lgnome.Native
