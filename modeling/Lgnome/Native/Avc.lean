import Lgnome.Native.H264Scan

/-!
# Length-prefixed units

`native_h264_avc_annexb_size`, the scan and the conversion over it, and
`native_h264_scan_au`, which tries the length-prefixed reading first. A buffer
is accepted exactly when it is a row of NAL units behind their lengths.
-/
namespace Lgnome.Native

inductive NativeH264Result where
  | ok
  | invalid
  | outputTooSmall
  deriving DecidableEq, Repr

/-- `read_be32`. -/
def readBe32 (data : Bytes) : Nat :=
  (((data.getD 0 0).toNat * 256 + (data.getD 1 0).toNat) * 256 + (data.getD 2 0).toNat) * 256 +
    (data.getD 3 0).toNat

/-- What the size check leaves behind: its result, `*info` and `*out_len`. -/
structure AvcScan where
  result : NativeH264Result
  info : NativeH264Info
  outLen : Nat
  deriving DecidableEq, Repr

/-- The loop of the size check over what is left of the buffer. A pass takes at
least four bytes, so the length of the buffer is fuel enough. -/
def avcSizeLoop (sizeMax : Nat) : Nat → NativeH264Info → Nat → Bytes → AvcScan
  | _, info, outLen, [] => ⟨.ok, info, outLen⟩
  | 0, info, outLen, _ :: _ => ⟨.invalid, info, outLen⟩
  | fuel + 1, info, outLen, b :: more =>
    if (b :: more).length < 4 then ⟨.invalid, info, outLen⟩
    else
      let nalLen := readBe32 (b :: more)
      let rest := (b :: more).drop 4
      if nalLen = 0 ∨ rest.length < nalLen then ⟨.invalid, info, outLen⟩
      else if sizeMax - outLen < 4 ∨ sizeMax - outLen - 4 < nalLen then ⟨.invalid, info, outLen⟩
      else
        match info.countNal (rest.take nalLen) with
        | none => ⟨.invalid, info, outLen⟩
        | some info =>
          avcSizeLoop sizeMax fuel info (outLen + (4 + nalLen)) (rest.drop nalLen)

/-- `native_h264_avc_annexb_size` on buffers that are there. -/
def avcAnnexbSize (sizeMax : Nat) (data : Bytes) : AvcScan :=
  let scan := avcSizeLoop sizeMax data.length {} 0 data
  if scan.result = .ok ∧ scan.info.nalCount = 0 then { scan with result := .invalid } else scan

/-- `native_h264_scan_avc`; `none` is `NATIVE_H264_INVALID`. -/
def nativeH264ScanAvc (sizeMax : Nat) (data : Bytes) : Option NativeH264Info :=
  let scan := avcAnnexbSize sizeMax data
  if scan.result = .ok then some scan.info else none

/-- `native_h264_scan_au`. -/
def nativeH264ScanAu (sizeMax : Nat) (data : Bytes) : Option NativeH264Info :=
  match nativeH264ScanAvc sizeMax data with
  | some info => some info
  | none => nativeH264ScanAnnexb data

/-- `native_h264_annexb_is_keyframe`. -/
def nativeH264AnnexbIsKeyframe (data : Bytes) : Bool :=
  decide (4 ≤ data.length) && (nativeH264ScanAnnexb data).any (·.canSeedDecoder)

/-! ## The row of NAL units -/

/-- One NAL unit behind its length. -/
def encodeAvcNal (nal : Bytes) : Bytes := beBytes32 (UInt32.ofNat nal.length) ++ nal

/-- NAL units behind their lengths. -/
def encodeAvc (nals : List Bytes) : Bytes := nals.flatMap encodeAvcNal

/-- NAL units behind long start codes. -/
def encodeAnnexb (nals : List Bytes) : Bytes := nals.flatMap (startCode ++ ·)

/-- The buffer is a row of NAL units whose lengths fit their prefix. -/
def IsAvc (data : Bytes) (nals : List Bytes) : Prop :=
  data = encodeAvc nals ∧ nals ≠ [] ∧ ∀ nal ∈ nals, nal.length < 2 ^ 32

variable {nal data more : Bytes} {nals : List Bytes} {info info' : NativeH264Info}
  {sizeMax fuel outLen : Nat}

theorem encodeAvcNal_length (nal : Bytes) : (encodeAvcNal nal).length = 4 + nal.length := by
  rw [encodeAvcNal, List.length_append]
  rfl

theorem encodeAvc_cons (nal : Bytes) (nals : List Bytes) :
    encodeAvc (nal :: nals) = encodeAvcNal nal ++ encodeAvc nals := List.flatMap_cons

theorem encodeAnnexb_cons (nal : Bytes) (nals : List Bytes) :
    encodeAnnexb (nal :: nals) = startCode ++ (nal ++ encodeAnnexb nals) := by
  rw [encodeAnnexb, List.flatMap_cons, List.append_assoc]
  rfl

theorem encodeAnnexb_length (nals : List Bytes) :
    (encodeAnnexb nals).length = (encodeAvc nals).length := by
  induction nals with
  | nil => rfl
  | cons nal nals ih =>
    rw [encodeAnnexb_cons, encodeAvc_cons, List.length_append, List.length_append,
      List.length_append, encodeAvcNal_length, ih]
    simp only [startCode, List.length_cons, List.length_nil]
    omega

theorem readBe32_beBytes32 (n : UInt32) (rest : Bytes) :
    readBe32 (beBytes32 n ++ rest) = n.toNat := by
  have hlt := n.toNat_lt
  have h8 : n.toNat >>> 8 = n.toNat / 256 := Nat.shiftRight_eq_div_pow _ 8
  have h16 : n.toNat >>> 16 = n.toNat / 65536 := Nat.shiftRight_eq_div_pow _ 16
  have h24 : n.toNat >>> 24 = n.toNat / 16777216 := Nat.shiftRight_eq_div_pow _ 24
  simp only [readBe32, beBytes32, List.cons_append, List.nil_append, List.getD_cons_zero,
    List.getD_cons_succ, UInt32.toNat_toUInt8, UInt32.toNat_shiftRight]
  simp only [UInt32.reduceToNat, Nat.reduceMod, h8, h16, h24]
  omega

theorem readBe32_lt (data : Bytes) : readBe32 data < 2 ^ 32 := by
  have h0 := (data.getD 0 0).toNat_lt
  have h1 := (data.getD 1 0).toNat_lt
  have h2 := (data.getD 2 0).toNat_lt
  have h3 := (data.getD 3 0).toNat_lt
  unfold readBe32
  omega

/-- Writing back what the first four bytes read as. -/
theorem beBytes32_readBe32 (w x y z : UInt8) (rest : Bytes) :
    beBytes32 (UInt32.ofNat (readBe32 (w :: x :: y :: z :: rest))) = [w, x, y, z] := by
  have hread : readBe32 (w :: x :: y :: z :: rest) =
      ((w.toNat * 256 + x.toNat) * 256 + y.toNat) * 256 + z.toNat := rfl
  have hw := w.toNat_lt
  have hx := x.toNat_lt
  have hy := y.toNat_lt
  have hz := z.toNat_lt
  generalize hn : readBe32 (w :: x :: y :: z :: rest) = n at hread
  have hword : (UInt32.ofNat n).toNat = n := Nat.mod_eq_of_lt (by omega)
  have hbyte : ∀ (k : UInt32) (b : UInt8), n >>> (k.toNat % 32) % 256 = b.toNat →
      (UInt32.ofNat n >>> k).toUInt8 = b := by
    intro k b hb
    apply UInt8.toNat_inj.1
    rw [UInt32.toNat_toUInt8, UInt32.toNat_shiftRight, hword]
    exact hb
  have h8 : n >>> 8 = n / 256 := Nat.shiftRight_eq_div_pow _ 8
  have h16 : n >>> 16 = n / 65536 := Nat.shiftRight_eq_div_pow _ 16
  have h24 : n >>> 24 = n / 16777216 := Nat.shiftRight_eq_div_pow _ 24
  have hlow : (UInt32.ofNat n).toUInt8 = z := by
    apply UInt8.toNat_inj.1
    rw [UInt32.toNat_toUInt8, hword]
    omega
  rw [beBytes32, hlow, hbyte 24 w (h24.symm ▸ by omega), hbyte 16 x (h16.symm ▸ by omega),
    hbyte 8 y (h8.symm ▸ by omega)]

theorem countNal_ne_nil (h : info.countNal nal = some info') : nal ≠ [] := by
  rintro rfl
  cases h

theorem countNal_nalCount (h : info.countNal nal = some info') :
    info'.nalCount = info.nalCount + 1 := by
  obtain ⟨next, hnext, rfl⟩ := Option.map_eq_some_iff.mp h
  have hsame : next.nalCount = info.nalCount := by
    cases nal with
    | nil => cases hnext
    | cons header body =>
      simp only [NativeH264Info.scanNal] at hnext
      split at hnext
      · cases hnext
      · split at hnext
        · cases hnext
          dsimp only
          split <;> rfl
        · split at hnext
          · cases hnext
            dsimp only
            split <;> rfl
          · split at hnext
            · cases hnext
              dsimp only
              split <;> rfl
            · cases hnext
              split <;> rfl
  rw [hsame]

/-- Where a length stands, and the NAL unit behind it. -/
theorem encodeAvcNal_read (hnal : nal.length < 2 ^ 32) (more : Bytes) :
    readBe32 (encodeAvcNal nal ++ more) = nal.length ∧
      (encodeAvcNal nal ++ more).drop 4 = nal ++ more := by
  have hassoc : encodeAvcNal nal ++ more =
      beBytes32 (UInt32.ofNat nal.length) ++ (nal ++ more) := List.append_assoc _ _ _
  rw [hassoc, readBe32_beBytes32]
  exact ⟨Nat.mod_eq_of_lt hnal, rfl⟩

/-- One pass over a NAL unit that scans. -/
theorem avcSizeLoop_nal (hnal : nal.length < 2 ^ 32) (hscan : info.countNal nal = some info')
    (hmax : outLen + (4 + nal.length) ≤ sizeMax) :
    avcSizeLoop sizeMax (fuel + 1) info outLen (encodeAvcNal nal ++ more) =
      avcSizeLoop sizeMax fuel info' (outLen + (4 + nal.length)) more := by
  obtain ⟨hread, hdrop⟩ := encodeAvcNal_read hnal more
  have hpos : nal.length ≠ 0 := by
    intro hzero
    exact countNal_ne_nil hscan (List.eq_nil_of_length_eq_zero hzero)
  have hlong : ¬(encodeAvcNal nal ++ more).length < 4 := by
    rw [List.length_append, encodeAvcNal_length]
    omega
  have hbad : ¬(nal.length = 0 ∨ (nal ++ more).length < nal.length) := by
    rw [List.length_append]
    omega
  have hover : ¬(sizeMax - outLen < 4 ∨ sizeMax - outLen - 4 < nal.length) := by omega
  generalize hrow : encodeAvcNal nal ++ more = row at hread hdrop hlong
  cases row with
  | nil => exact absurd (by decide) hlong
  | cons b row =>
    rw [avcSizeLoop, if_neg hlong]
    simp only [hread, hdrop, if_neg hbad, if_neg hover, List.take_left, List.drop_left, hscan]

/-- A row of NAL units that scan passes the check, which counts every byte of it. -/
theorem avcSizeLoop_row (hfits : ∀ nal ∈ nals, nal.length < 2 ^ 32)
    (hscan : nals.foldlM NativeH264Info.countNal info = some info')
    (hfuel : (encodeAvc nals).length ≤ fuel) (hmax : outLen + (encodeAvc nals).length ≤ sizeMax) :
    avcSizeLoop sizeMax fuel info outLen (encodeAvc nals) =
      ⟨.ok, info', outLen + (encodeAvc nals).length⟩ := by
  induction nals generalizing info outLen fuel with
  | nil =>
    obtain rfl := Option.some.inj hscan
    cases fuel <;> rfl
  | cons nal nals ih =>
    rw [List.foldlM_cons] at hscan
    obtain ⟨next, hfirst, hrest⟩ := Option.bind_eq_some_iff.mp hscan
    have hlen : (encodeAvc (nal :: nals)).length =
        4 + nal.length + (encodeAvc nals).length := by
      rw [encodeAvc_cons, List.length_append, encodeAvcNal_length]
    cases fuel with
    | zero => omega
    | succ fuel =>
      rw [encodeAvc_cons, avcSizeLoop_nal (hfits nal List.mem_cons_self) hfirst (by omega),
        ih (fun x hx => hfits x (List.mem_cons_of_mem nal hx)) hrest (by omega) (by omega),
        List.length_append, encodeAvcNal_length, Nat.add_assoc outLen]

theorem four_bytes (h : 4 ≤ data.length) : ∃ w x y z rest, data = w :: x :: y :: z :: rest := by
  match data, h with
  | w :: x :: y :: z :: rest, _ => exact ⟨w, x, y, z, rest, rfl⟩

/-- A length that fits has its NAL unit behind it. -/
theorem head_encodeAvcNal (hlong : 4 ≤ data.length)
    (hfit : readBe32 data ≤ (data.drop 4).length) :
    data = encodeAvcNal ((data.drop 4).take (readBe32 data)) ++
      (data.drop 4).drop (readBe32 data) := by
  obtain ⟨w, x, y, z, rest, rfl⟩ := four_bytes hlong
  have hwrite := beBytes32_readBe32 w x y z rest
  have hdrop : (w :: x :: y :: z :: rest).drop 4 = rest := rfl
  rw [hdrop] at hfit ⊢
  generalize readBe32 (w :: x :: y :: z :: rest) = n at hfit hwrite
  rw [encodeAvcNal, List.length_take_of_le hfit, hwrite, List.append_assoc,
    List.take_append_drop]
  rfl

/-- What passes the check is such a row. -/
theorem avcSizeLoop_ok {final : Nat}
    (h : avcSizeLoop sizeMax fuel info outLen data = ⟨.ok, info', final⟩) :
    ∃ nals, data = encodeAvc nals ∧ (∀ nal ∈ nals, nal.length < 2 ^ 32) ∧
      nals.foldlM NativeH264Info.countNal info = some info' := by
  induction fuel generalizing info outLen data with
  | zero =>
    cases data with
    | nil =>
      cases h
      exact ⟨[], rfl, fun _ hnal => absurd hnal List.not_mem_nil, rfl⟩
    | cons b data => cases h
  | succ fuel ih =>
    match data, h with
    | [], h =>
      cases h
      exact ⟨[], rfl, fun _ hnal => absurd hnal List.not_mem_nil, rfl⟩
    | b :: data, h =>
      rw [avcSizeLoop] at h
      split at h
      · cases h
      · rename_i hlong
        dsimp only at h
        split at h
        · cases h
        · rename_i hfit
          split at h
          · cases h
          · split at h
            · cases h
            · rename_i next hnext
              obtain ⟨nals, hdata, hfits, hscan⟩ := ih h
              have hread := readBe32_lt (b :: data)
              have hrow := @head_encodeAvcNal (b :: data) (by omega) (by omega)
              refine ⟨((b :: data).drop 4).take (readBe32 (b :: data)) :: nals, ?_, ?_, ?_⟩
              · rw [encodeAvc_cons, ← hdata]
                exact hrow
              · intro nal hnal
                rcases List.mem_cons.mp hnal with rfl | hnal
                · rw [List.length_take]
                  omega
                · exact hfits nal hnal
              · rw [List.foldlM_cons, hnext]
                exact hscan

/-- Every scanned NAL unit is counted. -/
theorem nalCount_of_scan (hscan : nals.foldlM NativeH264Info.countNal info = some info') :
    info'.nalCount = info.nalCount + nals.length := by
  induction nals generalizing info with
  | nil =>
    obtain rfl := Option.some.inj hscan
    rfl
  | cons nal nals ih =>
    rw [List.foldlM_cons] at hscan
    obtain ⟨next, hfirst, hrest⟩ := Option.bind_eq_some_iff.mp hscan
    rw [ih hrest, countNal_nalCount hfirst, List.length_cons]
    omega

/-- The size check accepts exactly the rows of NAL units that scan, and the size
is that of the buffer: `SIZE_MAX` is no obstacle to a buffer in memory. -/
theorem avcAnnexbSize_iff (hmax : data.length ≤ sizeMax) {needed : Nat} :
    avcAnnexbSize sizeMax data = ⟨.ok, info, needed⟩ ↔
      ∃ nals, IsAvc data nals ∧ nals.foldlM NativeH264Info.countNal {} = some info ∧
        needed = data.length := by
  constructor
  · intro h
    unfold avcAnnexbSize at h
    dsimp only at h
    split at h
    · cases h
    · rename_i hsome
      obtain ⟨nals, hdata, hfits, hscan⟩ := avcSizeLoop_ok h
      have hrow := @avcSizeLoop_row nals {} info sizeMax data.length 0 hfits hscan
        (by rw [← hdata]) (by rw [← hdata]; omega)
      rw [← hdata, h] at hrow
      have hcount := nalCount_of_scan hscan
      refine ⟨nals, ⟨hdata, ?_, hfits⟩, hscan, ?_⟩
      · rintro rfl
        exact hsome ⟨by rw [h], by rw [h]; exact hcount⟩
      · exact (congrArg AvcScan.outLen hrow).trans (Nat.zero_add _)
  · rintro ⟨nals, ⟨rfl, hne, hfits⟩, hscan, rfl⟩
    have hrow := @avcSizeLoop_row nals {} info sizeMax _ 0 hfits hscan (Nat.le_refl _) (by omega)
    have hcount := nalCount_of_scan hscan
    have hpos := List.length_pos_of_ne_nil hne
    unfold avcAnnexbSize
    dsimp only
    rw [hrow, Nat.zero_add]
    exact if_neg (by rintro ⟨-, hzero⟩; dsimp only at hzero; omega)

/-- What the length-prefixed scan accepts, and what it reports. -/
theorem nativeH264ScanAvc_iff (hmax : data.length ≤ sizeMax) :
    nativeH264ScanAvc sizeMax data = some info ↔
      ∃ nals, IsAvc data nals ∧ nals.foldlM NativeH264Info.countNal {} = some info := by
  unfold nativeH264ScanAvc
  dsimp only
  constructor
  · intro h
    split at h
    · rename_i hok
      cases h
      generalize hscan : avcAnnexbSize sizeMax data = scan at hok
      obtain ⟨result, info, needed⟩ := scan
      dsimp only at hok
      subst hok
      obtain ⟨nals, hrow, hfold, -⟩ := (avcAnnexbSize_iff hmax).1 hscan
      exact ⟨nals, hrow, hfold⟩
    · cases h
  · rintro ⟨nals, hrow, hfold⟩
    rw [(avcAnnexbSize_iff hmax).2 ⟨nals, hrow, hfold, rfl⟩]
    exact if_pos rfl

/-! ## Which reading wins -/

/-- The buffer scans as a row of NAL units behind their lengths. -/
def ScansAsAvc (data : Bytes) (info : NativeH264Info) : Prop :=
  ∃ nals, IsAvc data nals ∧ nals.foldlM NativeH264Info.countNal {} = some info

/-- A short start code, or a long one. -/
def codeOf (long : Bool) : Bytes := if long then startCode else [0, 0, 1]

/-- NAL units with whatever contents behind short or long start codes. -/
def annexbUnit (units : List (Bool × Bytes)) : Bytes :=
  units.flatMap fun u => codeOf u.1 ++ u.2

/-- The length-prefixed scan says nothing about start codes. -/
theorem ScansAsAvc.starts (h : ScansAsAvc data info) : info.startsWithAnnexbStartCode = false := by
  obtain ⟨nals, -, hfold⟩ := h
  exact starts_of_scan hfold

/-- Read as a length, a short start code and the header behind it ask for so
many bytes. -/
theorem ScansAsAvc.short {header : UInt8} (h : ScansAsAvc (0 :: 0 :: 1 :: header :: more) info) :
    256 + header.toNat ≤ more.length := by
  obtain ⟨nals, ⟨hdata, hne, hfits⟩, -⟩ := h
  cases nals with
  | nil => exact absurd rfl hne
  | cons nal nals =>
    rw [encodeAvc_cons] at hdata
    obtain ⟨hread, -⟩ := encodeAvcNal_read (hfits nal List.mem_cons_self) (encodeAvc nals)
    have hlen := congrArg List.length hdata
    have hvalue : readBe32 (0 :: 0 :: 1 :: header :: more) = 256 + header.toNat := by
      simp [readBe32]
    rw [← hdata, hvalue] at hread
    rw [List.length_append, encodeAvcNal_length] at hlen
    simp only [List.length_cons] at hlen
    omega

/-- A unit that begins with a start code and scans as a row of lengths gets the
other summary, whatever the Annex-B scan says. -/
theorem nativeH264ScanAu_eq (hmax : data.length ≤ sizeMax) {n : Nat}
    (hcode : annexbPrefixAt data = some n) :
    nativeH264ScanAu sizeMax data = nativeH264ScanAnnexb data ↔ ¬∃ info, ScansAsAvc data info := by
  unfold nativeH264ScanAu
  cases havc : nativeH264ScanAvc sizeMax data with
  | none =>
    refine ⟨fun _ ⟨info, h⟩ => ?_, fun _ => rfl⟩
    rw [(nativeH264ScanAvc_iff hmax).2 h] at havc
    cases havc
  | some info =>
    have hrow : ScansAsAvc data info := (nativeH264ScanAvc_iff hmax).1 havc
    refine ⟨fun heq => ?_, fun hno => absurd ⟨info, hrow⟩ hno⟩
    obtain ⟨-, hstarts⟩ := nativeH264ScanAnnexb_met heq.symm
    rw [hrow.starts, startsWithStartCode_iff.2 ⟨n, hcode⟩] at hstarts
    cases hstarts

/-- For every Annex-B access unit the combined scan returns what the Annex-B
scan returns, unless the whole unit is at once a row of valid NAL units behind
four-byte lengths. Then that reading wins, and it needs a unit of some size when
the first start code is a short one. -/
theorem scan_au_annexb (units : List (Bool × Bytes)) (hne : units ≠ [])
    (hmax : (annexbUnit units).length ≤ sizeMax) :
    (nativeH264ScanAu sizeMax (annexbUnit units) = nativeH264ScanAnnexb (annexbUnit units) ↔
      ¬∃ info, ScansAsAvc (annexbUnit units) info) ∧
      (∀ info, ScansAsAvc (annexbUnit units) info →
        nativeH264ScanAu sizeMax (annexbUnit units) = some info) ∧
      ∀ header body rest info, units = (false, header :: body) :: rest →
        ScansAsAvc (annexbUnit units) info → 260 + header.toNat ≤ (annexbUnit units).length := by
  refine ⟨?_, ?_, ?_⟩
  · cases units with
    | nil => exact absurd rfl hne
    | cons u units =>
      obtain ⟨long, nal⟩ := u
      cases long
      · exact nativeH264ScanAu_eq hmax (n := 3) rfl
      · exact nativeH264ScanAu_eq hmax (n := 4) rfl
  · intro info h
    unfold nativeH264ScanAu
    rw [(nativeH264ScanAvc_iff hmax).2 h]
  · rintro header body rest info rfl h
    have hshort := @ScansAsAvc.short (body ++ annexbUnit rest) info header h
    show 260 + header.toNat ≤ (0 :: 0 :: 1 :: header :: (body ++ annexbUnit rest)).length
    simp only [List.length_cons]
    omega

/-- A unit of one small NAL unit. -/
theorem scan_au_annexb_small : nativeH264ScanAu (2 ^ 32 - 1) (annexbUnit [(false, [0x65, 0xaa])]) =
    nativeH264ScanAnnexb (annexbUnit [(false, [0x65, 0xaa])]) := by
  obtain ⟨hiff, -, hsize⟩ := @scan_au_annexb (2 ^ 32 - 1) [(false, [0x65, 0xaa])] (by decide)
    (by decide)
  refine hiff.2 ?_
  rintro ⟨info, h⟩
  exact absurd (hsize _ _ _ _ rfl h) (by decide)

/-- An instantaneous refresh of 262 bytes behind a short start code, which is
also the length of the 261 bytes that follow its header. -/
theorem scan_au_avc_wins :
    nalUnits (annexbUnit [(false, 5 :: 0x41 :: List.replicate 260 0x42)]) =
        [5 :: 0x41 :: List.replicate 260 0x42] ∧
      nativeH264ScanAu (2 ^ 64 - 1) (annexbUnit [(false, 5 :: 0x41 :: List.replicate 260 0x42)]) ≠
        nativeH264ScanAnnexb (annexbUnit [(false, 5 :: 0x41 :: List.replicate 260 0x42)]) := by
  constructor
  · decide +kernel
  · decide +kernel

end Lgnome.Native
