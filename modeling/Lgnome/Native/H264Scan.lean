import Lgnome.Native.SnapshotChain

/-!
# Scanning one Annex-B buffer

`native_h264_scan_annexb` with everything it reports about a captured buffer, and how a
buffer is read that has parameter sets put in front of it.
-/
namespace Lgnome.Native

/-- What a scan reports. The views of the parameter sets are the sets themselves. -/
structure NativeH264Info where
  startsWithAnnexbStartCode : Bool := false
  hasVcl : Bool := false
  hasSps : Bool := false
  hasPps : Bool := false
  hasIdr : Bool := false
  canSeedDecoder : Bool := false
  nalCount : Nat := 0
  sps : Bytes := []
  pps : Bytes := []
  deriving DecidableEq, Repr

namespace NativeH264Info

/-- `scan_nal`. -/
def scanNal (info : NativeH264Info) : Bytes → Option NativeH264Info
  | [] => none
  | header :: body =>
    let nalType := header &&& 0x1f
    if header &&& 0x80 ≠ 0 ∨ nalType = 0 then none
    else
      let info := if 1 ≤ nalType ∧ nalType ≤ 5 then { info with hasVcl := true } else info
      if nalType = 7 then some { info with hasSps := true, sps := header :: body }
      else if nalType = 8 then some { info with hasPps := true, pps := header :: body }
      else if nalType = 5 then
        some { info with
          hasIdr := true
          canSeedDecoder := info.canSeedDecoder || (info.hasSps && info.hasPps) }
      else some info

/-- One turn of the scanning loop. -/
def countNal (info : NativeH264Info) (nal : Bytes) : Option NativeH264Info :=
  (info.scanNal nal).map fun info => { info with nalCount := info.nalCount + 1 }

/-- The flags that the routing of a unit asks for. -/
def parameterSets (info : NativeH264Info) : ParameterSets where
  hasSps := info.hasSps
  hasPps := info.hasPps
  canSeedDecoder := info.canSeedDecoder

end NativeH264Info

/-- The NAL units of an Annex-B buffer. -/
abbrev nalUnits (data : Bytes) : List Bytes := annexbNals data.length data

/-- Whether the first start code stands at the head. -/
def startsWithStartCode (data : Bytes) : Bool :=
  match findAnnexbPrefix data with
  | some (skipped, _) => skipped.isEmpty
  | none => false

/-- `native_h264_scan_annexb`; `none` is `NATIVE_H264_INVALID`. -/
def nativeH264ScanAnnexb (data : Bytes) : Option NativeH264Info :=
  match (nalUnits data).foldlM NativeH264Info.countNal
      { startsWithAnnexbStartCode := startsWithStartCode data } with
  | none => none
  | some info => if info.nalCount = 0 then none else some info

/-! ## What the flags say -/

/-- The NAL unit is a coded slice. -/
def IsSlice (nal : Bytes) : Prop := ∃ t, nalType .h264 nal = some t ∧ 1 ≤ t ∧ t ≤ 5

/-- What the scan of the NAL units has to report. -/
structure H264Met (nals : List Bytes) (info : NativeH264Info) : Prop where
  sets : Met .h264 nals info.parameterSets
  vcl : info.hasVcl = true ↔ ∃ nal ∈ nals, IsSlice nal
  idr : info.hasIdr = true ↔ HasType .h264 nals 5
  sps : info.hasSps → info.sps ∈ nals ∧ nalType .h264 info.sps = some 7
  pps : info.hasPps → info.pps ∈ nals ∧ nalType .h264 info.pps = some 8
  ready : info.canSeedDecoder → info.hasSps ∧ info.hasPps

variable {nals rest : List Bytes} {info info' : NativeH264Info} {nal : Bytes}

/-- The snapshot's scanner reads the same flags. -/
theorem NativeH264Info.scanNal_sets (h : info.scanNal nal = some info') :
    h264ScanNal info.parameterSets nal = some info'.parameterSets := by
  cases nal with
  | nil => cases h
  | cons header body =>
    simp only [scanNal] at h
    simp only [h264ScanNal]
    split at h
    · cases h
    · rename_i hvalid
      rw [if_neg hvalid]
      split at h
      · rename_i h7
        obtain rfl := Option.some.inj h
        rw [if_pos h7]
        split <;> rfl
      split at h
      · rename_i h7 h8
        obtain rfl := Option.some.inj h
        rw [if_neg h7, if_pos h8]
        split <;> rfl
      split at h
      · rename_i h7 h8 h5
        obtain rfl := Option.some.inj h
        rw [if_neg h7, if_neg h8, if_pos h5]
        split <;> rfl
      · rename_i h7 h8 h5
        obtain rfl := Option.some.inj h
        rw [if_neg h7, if_neg h8, if_neg h5]
        split <;> rfl

/-- What one NAL unit adds to the report, by its type. -/
theorem NativeH264Info.scanNal_eq (h : info.scanNal nal = some info') :
    ∃ t, nalType .h264 nal = some t ∧ t ≠ 0 ∧
      info'.hasVcl = (info.hasVcl || decide (1 ≤ t ∧ t ≤ 5)) ∧
      info'.hasIdr = (info.hasIdr || decide (t = 5)) ∧
      info'.hasSps = (info.hasSps || decide (t = 7)) ∧
      info'.sps = (if t = 7 then nal else info.sps) ∧
      info'.hasPps = (info.hasPps || decide (t = 8)) ∧
      info'.pps = (if t = 8 then nal else info.pps) ∧
      info'.canSeedDecoder
        = (info.canSeedDecoder || (decide (t = 5) && (info.hasSps && info.hasPps))) ∧
      info'.startsWithAnnexbStartCode = info.startsWithAnnexbStartCode := by
  cases nal with
  | nil => cases h
  | cons header body =>
    refine ⟨header &&& 0x1f, rfl, ?_⟩
    simp only [scanNal] at h
    generalize header &&& 0x1f = t at h ⊢
    split at h
    · cases h
    · rename_i hvalid
      obtain ⟨-, htype⟩ := not_or.mp hvalid
      refine ⟨htype, ?_⟩
      split at h
      · rename_i h7
        obtain rfl := Option.some.inj h
        subst h7
        split <;> simp_all
      split at h
      · rename_i h7 h8
        obtain rfl := Option.some.inj h
        subst h8
        split <;> simp_all
      split at h
      · rename_i h7 h8 h5
        obtain rfl := Option.some.inj h
        subst h5
        split <;> simp_all
      · rename_i h7 h8 h5
        obtain rfl := Option.some.inj h
        split <;> simp_all

theorem isSlice_iff {t : UInt8} (h : nalType .h264 nal = some t) :
    IsSlice nal ↔ 1 ≤ t ∧ t ≤ 5 := by
  constructor
  · rintro ⟨t', ht', hrange⟩
    rw [h] at ht'
    obtain rfl := Option.some.inj ht'
    exact hrange
  · exact fun hrange => ⟨t, h, hrange⟩

theorem H264Met.start (flag : Bool) : H264Met [] { startsWithAnnexbStartCode := flag } where
  sets := ⟨by simp [NativeH264Info.parameterSets], by simp [NativeH264Info.parameterSets],
    by simp [NativeH264Info.parameterSets], by simp [NativeH264Info.parameterSets]⟩
  vcl := by simp
  idr := by simp [HasType]
  sps := by simp
  pps := by simp
  ready := by simp

/-- A view that a NAL unit may have replaced is still one of the NAL units. -/
theorem view_snoc {flag flag' : Bool} {view view' : Bytes} {t t₀ : UInt8}
    (h : flag = true → view ∈ nals ∧ nalType .h264 view = some t₀)
    (htype : nalType .h264 nal = some t) (hflag : flag' = (flag || decide (t = t₀)))
    (hview : view' = if t = t₀ then nal else view) (hset : flag' = true) :
    view' ∈ nals ++ [nal] ∧ nalType .h264 view' = some t₀ := by
  by_cases hthis : t = t₀
  · rw [hview, if_pos hthis]
    exact ⟨List.mem_append_right _ (List.mem_singleton_self _), by rw [htype, hthis]⟩
  · rw [hflag, decide_eq_false hthis, Bool.or_false] at hset
    rw [hview, if_neg hthis]
    exact ⟨List.mem_append_left _ (h hset).1, (h hset).2⟩

theorem H264Met.countNal (h : H264Met nals info) (hscan : info.countNal nal = some info') :
    H264Met (nals ++ [nal]) info' := by
  unfold NativeH264Info.countNal at hscan
  obtain ⟨next, hnext, rfl⟩ := Option.map_eq_some_iff.mp hscan
  obtain ⟨t, htype, -, hvcl, hidr, hsps, hspsView, hpps, hppsView, hseed, -⟩ :=
    NativeH264Info.scanNal_eq hnext
  have hsets : Met .h264 (nals ++ [nal]) next.parameterSets :=
    h.sets.h264 (NativeH264Info.scanNal_sets hnext)
  refine ⟨hsets, ?_, ?_, view_snoc h.sps htype hsps hspsView,
    view_snoc h.pps htype hpps hppsView, ?_⟩
  · show next.hasVcl = true ↔ _
    rw [hvcl, Bool.or_eq_true, decide_eq_true_iff, h.vcl, ← isSlice_iff htype]
    simp only [List.mem_append, List.mem_singleton]
    constructor
    · rintro (⟨slice, hmem, hslice⟩ | hslice)
      · exact ⟨slice, .inl hmem, hslice⟩
      · exact ⟨nal, .inr rfl, hslice⟩
    · rintro ⟨slice, hmem | rfl, hslice⟩
      · exact .inl ⟨slice, hmem, hslice⟩
      · exact .inr hslice
  · show next.hasIdr = true ↔ _
    rw [hidr, Bool.or_eq_true, decide_eq_true_iff, h.idr]
    constructor
    · rintro (hold | rfl)
      · exact hold.append _
      · exact HasType.last htype
    · rintro ⟨idr, hmem, hfive⟩
      rcases List.mem_append.mp hmem with hmem | hmem
      · exact .inl ⟨idr, hmem, hfive⟩
      · obtain rfl := List.mem_singleton.mp hmem
        rw [htype] at hfive
        exact .inr (Option.some.inj hfive)
  · intro hready
    have hmet : next.hasSps = true ∧ next.hasPps = true := by
      rw [hsps, hpps, Bool.or_eq_true, Bool.or_eq_true]
      rcases Bool.or_eq_true _ _ ▸ hseed ▸ hready with hold | hnow
      · exact ⟨.inl (h.ready hold).1, .inl (h.ready hold).2⟩
      · obtain ⟨-, hboth⟩ := Bool.and_eq_true _ _ ▸ hnow
        obtain ⟨hs, hp⟩ := Bool.and_eq_true _ _ ▸ hboth
        exact ⟨.inl hs, .inl hp⟩
    exact hmet

/-- The whole loop, NAL by NAL. -/
theorem H264Met.scan (h : H264Met nals info)
    (hscan : rest.foldlM NativeH264Info.countNal info = some info') :
    H264Met (nals ++ rest) info' := by
  induction rest generalizing nals info with
  | nil =>
    obtain rfl := Option.some.inj hscan
    rwa [List.append_nil]
  | cons nal rest ih =>
    rw [List.foldlM_cons] at hscan
    obtain ⟨next, hfirst, hrest⟩ := Option.bind_eq_some_iff.mp hscan
    have hnext := ih (h.countNal hfirst) hrest
    rwa [List.append_assoc, List.singleton_append] at hnext

/-- The start flag is what the scan began with. -/
theorem starts_of_scan (hscan : rest.foldlM NativeH264Info.countNal info = some info') :
    info'.startsWithAnnexbStartCode = info.startsWithAnnexbStartCode := by
  induction rest generalizing info with
  | nil =>
    obtain rfl := Option.some.inj hscan
    rfl
  | cons nal rest ih =>
    rw [List.foldlM_cons] at hscan
    obtain ⟨next, hfirst, hrest⟩ := Option.bind_eq_some_iff.mp hscan
    obtain ⟨scanned, hscanned, rfl⟩ := Option.map_eq_some_iff.mp hfirst
    obtain ⟨-, -, -, -, -, -, -, -, -, -, hstarts⟩ := NativeH264Info.scanNal_eq hscanned
    rw [ih hrest]
    exact hstarts

/-- **A scan reports the buffer.** -/
theorem nativeH264ScanAnnexb_met {data : Bytes} (h : nativeH264ScanAnnexb data = some info) :
    H264Met (nalUnits data) info ∧
      info.startsWithAnnexbStartCode = startsWithStartCode data := by
  unfold nativeH264ScanAnnexb at h
  split at h
  · cases h
  · rename_i scanned hscan
    split at h
    · cases h
    · obtain rfl := Option.some.inj h
      have hmet := (H264Met.start (startsWithStartCode data)).scan hscan
      rw [List.nil_append] at hmet
      exact ⟨hmet, starts_of_scan hscan⟩

/-! ## Start codes in a longer buffer -/

section Splice

variable {data more body : Bytes} {n : Nat}

/-- The two start codes. -/
theorem annexbPrefixAt_some : annexbPrefixAt data = some n ↔
    (∃ tail, data = 0 :: 0 :: 1 :: tail ∧ n = 3) ∨
      (∃ tail, data = 0 :: 0 :: 0 :: 1 :: tail ∧ n = 4) := by
  constructor
  · intro h
    unfold annexbPrefixAt at h
    split at h
    · exact .inl ⟨_, rfl, (Option.some.inj h).symm⟩
    · exact .inr ⟨_, rfl, (Option.some.inj h).symm⟩
    · cases h
  · rintro (⟨tail, rfl, rfl⟩ | ⟨tail, rfl, rfl⟩)
    · rfl
    · rfl

theorem annexbPrefixAt_bounds (h : annexbPrefixAt data = some n) :
    3 ≤ n ∧ n ≤ data.length := by
  rcases annexbPrefixAt_some.mp h with ⟨tail, rfl, rfl⟩ | ⟨tail, rfl, rfl⟩
  · simp only [List.length_cons]
    omega
  · simp only [List.length_cons]
    omega

/-- A start code is recognised from its own bytes. -/
theorem annexbPrefixAt_append (h : annexbPrefixAt data = some n) (more : Bytes) :
    annexbPrefixAt (data ++ more) = some n := by
  rcases annexbPrefixAt_some.mp h with ⟨tail, rfl, rfl⟩ | ⟨tail, rfl, rfl⟩
  · rfl
  · rfl

/-- A start code over the seam takes one zero from before it and ends behind it. -/
theorem annexbPrefixAt_seam {b : UInt8} {m : Nat} (h : annexbPrefixAt (b :: data) = none)
    (hmore : annexbPrefixAt more = some n) (hat : annexbPrefixAt (b :: (data ++ more)) = some m) :
    b = 0 ∧ data = [] ∧ m = n + 1 := by
  have hnone (code tail : Bytes) (hcode : annexbPrefixAt code = some m)
      (heq : b :: data = code ++ tail) : False := by
    rw [heq, annexbPrefixAt_append hcode tail] at h
    cases h
  have hzeros : ∃ tail, more = 0 :: 0 :: tail := by
    rcases annexbPrefixAt_some.mp hmore with ⟨tail, rfl, rfl⟩ | ⟨tail, rfl, rfl⟩
    · exact ⟨_, rfl⟩
    · exact ⟨_, rfl⟩
  obtain ⟨tail, rfl⟩ := hzeros
  match data with
  | [] =>
    rcases annexbPrefixAt_some.mp hat with ⟨code, heq, rfl⟩ | ⟨code, heq, rfl⟩
    · cases heq
    · obtain ⟨rfl, hrest⟩ := List.cons.inj heq
      have hseam : (0 :: 0 :: tail : Bytes) = 0 :: 0 :: 1 :: code := hrest
      rw [hseam] at hmore
      exact ⟨rfl, rfl, congrArg (· + 1) (Option.some.inj hmore)⟩
  | [c] =>
    rcases annexbPrefixAt_some.mp hat with ⟨code, heq, rfl⟩ | ⟨code, heq, rfl⟩
    · cases heq
    · cases heq
  | [c, d] =>
    rcases annexbPrefixAt_some.mp hat with ⟨code, heq, rfl⟩ | ⟨code, heq, rfl⟩
    · cases heq
      exact (hnone [0, 0, 1] [] rfl rfl).elim
    · cases heq
  | c :: d :: e :: data =>
    rcases annexbPrefixAt_some.mp hat with ⟨code, heq, rfl⟩ | ⟨code, heq, rfl⟩
    · cases heq
      exact (hnone [0, 0, 1] (e :: data) rfl rfl).elim
    · cases heq
      exact (hnone [0, 0, 0, 1] data rfl rfl).elim

theorem findAnnexbPrefix_at (h : annexbPrefixAt data = some n) :
    findAnnexbPrefix data = some ([], data.drop n) := by
  cases data with
  | nil => cases h
  | cons b rest => simp only [findAnnexbPrefix, h]

theorem findAnnexbPrefix_cons (b : UInt8) (h : annexbPrefixAt (b :: data) = none) :
    findAnnexbPrefix (b :: data)
      = (findAnnexbPrefix data).map fun found => (b :: found.1, found.2) := by
  simp only [findAnnexbPrefix, h]

/-- A buffer without a start code has none at its head, and none behind it. -/
theorem findAnnexbPrefix_none {b : UInt8} (h : findAnnexbPrefix (b :: data) = none) :
    annexbPrefixAt (b :: data) = none ∧ findAnnexbPrefix data = none := by
  cases hat : annexbPrefixAt (b :: data) with
  | some n =>
    rw [findAnnexbPrefix_at hat] at h
    cases h
  | none =>
    rw [findAnnexbPrefix_cons b hat] at h
    exact ⟨rfl, Option.map_eq_none_iff.mp h⟩

/-- The bytes before the first start code, the code itself and those behind it. -/
theorem findAnnexbPrefix_split (h : findAnnexbPrefix data = some (nal, body)) :
    ∃ code, annexbPrefixAt (code ++ body) = some code.length ∧ data = nal ++ code ++ body := by
  induction data generalizing nal with
  | nil => cases h
  | cons b data ih =>
    cases hat : annexbPrefixAt (b :: data) with
    | some n =>
      rw [findAnnexbPrefix_at hat] at h
      obtain ⟨rfl, rfl⟩ := Prod.mk.inj (Option.some.inj h)
      have hlen : ((b :: data).take n).length = n :=
        List.length_take_of_le (annexbPrefixAt_bounds hat).2
      refine ⟨(b :: data).take n, ?_, ?_⟩
      · rw [List.take_append_drop, hlen, hat]
      · rw [List.nil_append, List.take_append_drop]
    | none =>
      rw [findAnnexbPrefix_cons b hat] at h
      obtain ⟨found, hfound, heq⟩ := Option.map_eq_some_iff.mp h
      obtain ⟨rfl, rfl⟩ := Prod.mk.inj heq
      obtain ⟨code, hcode, rfl⟩ := ih hfound
      exact ⟨code, hcode, rfl⟩

theorem findAnnexbPrefix_shorter (h : findAnnexbPrefix data = some (nal, body)) :
    nal.length + 3 + body.length ≤ data.length := by
  obtain ⟨code, hcode, rfl⟩ := findAnnexbPrefix_split h
  have hbounds := annexbPrefixAt_bounds hcode
  simp only [List.length_append]
  omega

/-- What stands before the first start code has none of its own. -/
theorem findAnnexbPrefix_before (h : findAnnexbPrefix data = some (nal, body)) :
    findAnnexbPrefix nal = none := by
  induction data generalizing nal with
  | nil => cases h
  | cons b data ih =>
    cases hat : annexbPrefixAt (b :: data) with
    | some n =>
      rw [findAnnexbPrefix_at hat] at h
      obtain ⟨rfl, -⟩ := Prod.mk.inj (Option.some.inj h)
      rfl
    | none =>
      rw [findAnnexbPrefix_cons b hat] at h
      obtain ⟨⟨nal', body'⟩, hfound, heq⟩ := Option.map_eq_some_iff.mp h
      obtain ⟨rfl, rfl⟩ := Prod.mk.inj heq
      have hnone : annexbPrefixAt (b :: nal') = none := by
        cases hcode : annexbPrefixAt (b :: nal') with
        | none => rfl
        | some n =>
          obtain ⟨code, -, rfl⟩ := findAnnexbPrefix_split hfound
          have hfull := annexbPrefixAt_append hcode (code ++ body')
          rw [List.append_assoc] at hat
          rw [List.cons_append, hat] at hfull
          cases hfull
      rw [findAnnexbPrefix_cons b hnone, ih hfound]
      rfl

/-- A start code behind bytes without one is the next found. It may take one zero
from them as its own. -/
theorem findAnnexbPrefix_append (h : findAnnexbPrefix data = none)
    (hmore : annexbPrefixAt more = some n) :
    ∃ nal, findAnnexbPrefix (data ++ more) = some (nal, more.drop n) ∧
      (nal = data ∨ data = nal ++ [0] ∧ annexbPrefixAt (0 :: more) = some (n + 1)) := by
  induction data with
  | nil => exact ⟨[], findAnnexbPrefix_at hmore, .inl rfl⟩
  | cons b data ih =>
    obtain ⟨hhead, htail⟩ := findAnnexbPrefix_none h
    cases hat : annexbPrefixAt (b :: (data ++ more)) with
    | none =>
      obtain ⟨nal, hfound, hnal⟩ := ih htail
      refine ⟨b :: nal, ?_, ?_⟩
      · rw [List.cons_append, findAnnexbPrefix_cons b hat, hfound]
        rfl
      · rcases hnal with rfl | ⟨rfl, hzero⟩
        · exact .inl rfl
        · exact .inr ⟨rfl, hzero⟩
    | some m =>
      obtain ⟨rfl, rfl, rfl⟩ := annexbPrefixAt_seam hhead hmore hat
      refine ⟨[], ?_, .inr ⟨rfl, hat⟩⟩
      rw [List.singleton_append, ← List.nil_append more, findAnnexbPrefix_at hat]
      rfl

/-! ## NAL units behind a start code -/

/-- The long start code. -/
def startCode : Bytes := [0, 0, 0, 1]

theorem annexbNals_nil (fuel : Nat) : annexbNals fuel [] = [] := by
  cases fuel with
  | zero => rfl
  | succ fuel => rfl

/-- More fuel than bytes changes nothing. -/
theorem annexbNals_fuel {fuel fuel' : Nat} (h : data.length ≤ fuel) (h' : data.length ≤ fuel') :
    annexbNals fuel data = annexbNals fuel' data := by
  induction fuel generalizing data fuel' with
  | zero =>
    obtain rfl := List.eq_nil_of_length_eq_zero (Nat.le_zero.mp h)
    rw [annexbNals_nil, annexbNals_nil]
  | succ fuel ih =>
    cases fuel' with
    | zero =>
      obtain rfl := List.eq_nil_of_length_eq_zero (Nat.le_zero.mp h')
      rw [annexbNals_nil, annexbNals_nil]
    | succ fuel' =>
      simp only [annexbNals]
      split
      · rfl
      · rename_i before body hfound
        split
        · rfl
        · rename_i nal rest hnext
          have hshorter := findAnnexbPrefix_shorter hfound
          have hdrop : (body.drop nal.length).length ≤ body.length := by
            rw [List.length_drop]
            omega
          exact congrArg (nal :: ·) (ih (by omega) (by omega))

/-- Only what stands behind the first start code matters. -/
theorem annexbNals_body {fuel m : Nat} (h : annexbPrefixAt data = some n)
    (hmore : annexbPrefixAt more = some m) (hbody : data.drop n = more.drop m) :
    annexbNals (fuel + 1) data = annexbNals (fuel + 1) more := by
  simp only [annexbNals, findAnnexbPrefix_at h, findAnnexbPrefix_at hmore, hbody]

theorem annexbNals_code {fuel : Nat} (h : annexbPrefixAt data = some n) :
    annexbNals (fuel + 1) data
      = match findAnnexbPrefix (data.drop n) with
        | none => [data.drop n]
        | some (nal, _) => nal :: annexbNals fuel ((data.drop n).drop nal.length) := by
  have hfirst : annexbNals (fuel + 1) data
      = match findAnnexbPrefix data with
        | none => []
        | some (_, body) =>
          match findAnnexbPrefix body with
          | none => [body]
          | some (nal, _) => nal :: annexbNals fuel (body.drop nal.length) := rfl
  exact hfirst.trans (congrArg (fun found => match found with
    | none => []
    | some (_, body) =>
      match findAnnexbPrefix body with
      | none => [body]
      | some (nal, _) => nal :: annexbNals fuel (body.drop nal.length)) (findAnnexbPrefix_at h))

/-- No NAL unit of a buffer has a start code in it. -/
theorem findAnnexbPrefix_nal {fuel : Nat} (h : nal ∈ annexbNals fuel data) :
    findAnnexbPrefix nal = none := by
  induction fuel generalizing data with
  | zero => cases h
  | succ fuel ih =>
    simp only [annexbNals] at h
    split at h
    · cases h
    · split at h
      · rename_i hlast
        obtain rfl := List.mem_singleton.mp h
        exact hlast
      · rename_i hnext
        rcases List.mem_cons.mp h with rfl | hmem
        · exact findAnnexbPrefix_before hnext
        · exact ih hmem

/-- One NAL unit put in front of a buffer is read first. It may lose a last zero to a
start code. -/
theorem annexbNals_splice (hnal : findAnnexbPrefix nal = none)
    (hmore : annexbPrefixAt more = some n) :
    ∃ read, (read = nal ∨ nal = read ++ [0]) ∧
      nalUnits (startCode ++ (nal ++ more)) = read :: nalUnits more := by
  obtain ⟨read, hfound, hread⟩ := findAnnexbPrefix_append hnal hmore
  have hlen : (startCode ++ (nal ++ more)).length = (nal.length + more.length + 3) + 1 := by
    simp only [startCode, List.length_append, List.length_cons, List.length_nil]
    omega
  have hdrop : (startCode ++ (nal ++ more)).drop 4 = nal ++ more := rfl
  rw [nalUnits, hlen, annexbNals_code (n := 4) rfl, hdrop, hfound]
  refine ⟨read, hread.imp_right And.left, congrArg (read :: ·) ?_⟩
  rcases hread with rfl | ⟨rfl, hzero⟩
  · rw [List.drop_left]
    exact annexbNals_fuel (by omega) (Nat.le_refl _)
  · have hrest : (read ++ [0] ++ more).drop read.length = 0 :: more := by
      rw [List.append_assoc, List.drop_left]
      rfl
    rw [hrest, annexbNals_body hzero hmore rfl]
    exact annexbNals_fuel (by omega) (Nat.le_refl _)

/-- A parameter set as the stream keeps it: one NAL unit of its type behind a start
code. -/
def IsParameterSet (t : UInt8) (set : Bytes) : Prop :=
  ∃ nal, set = startCode ++ nal ∧ findAnnexbPrefix nal = none ∧ nalType .h264 nal = some t

variable {t : UInt8} {set : Bytes}

theorem IsParameterSet.code (h : IsParameterSet t set) (more : Bytes) :
    annexbPrefixAt (set ++ more) = some 4 := by
  obtain ⟨nal, rfl, -, -⟩ := h
  rfl

/-- The set in front of a buffer is read as a NAL unit of its type. -/
theorem IsParameterSet.splice (h : IsParameterSet t set) (ht : t ≠ 0)
    (hmore : annexbPrefixAt more = some n) :
    ∃ nal, nalType .h264 nal = some t ∧
      nalUnits (set ++ more) = nal :: nalUnits more := by
  obtain ⟨nal, rfl, hnone, htype⟩ := h
  obtain ⟨read, hread, hnals⟩ := annexbNals_splice hnone hmore
  rw [← List.append_assoc] at hnals
  refine ⟨read, ?_, hnals⟩
  rcases hread with rfl | rfl
  · exact htype
  · cases read with
    | nil => exact (ht (Option.some.inj htype).symm).elim
    | cons header body => exact htype

/-- Both sets in front of a buffer that begins with a start code. -/
theorem annexbNals_seed {sps pps : Bytes} (hsps : IsParameterSet 7 sps)
    (hpps : IsParameterSet 8 pps) (hdata : annexbPrefixAt data = some n) :
    ∃ spsNal ppsNal, nalType .h264 spsNal = some 7 ∧ nalType .h264 ppsNal = some 8 ∧
      nalUnits (sps ++ pps ++ data) = spsNal :: ppsNal :: nalUnits data := by
  obtain ⟨ppsNal, hppsType, hppsNals⟩ := hpps.splice (by decide) hdata
  obtain ⟨spsNal, hspsType, hspsNals⟩ := hsps.splice (by decide) (hpps.code data)
  refine ⟨spsNal, ppsNal, hspsType, hppsType, ?_⟩
  rw [List.append_assoc, hspsNals, hppsNals]

theorem startsWithStartCode_iff : startsWithStartCode data = true ↔
    ∃ n, annexbPrefixAt data = some n := by
  unfold startsWithStartCode
  constructor
  · intro h
    cases data with
    | nil => cases h
    | cons b rest =>
      cases hat : annexbPrefixAt (b :: rest) with
      | some n => exact ⟨n, rfl⟩
      | none =>
        rw [findAnnexbPrefix_cons b hat] at h
        cases hfound : findAnnexbPrefix rest with
        | none => simp [hfound] at h
        | some found => simp [hfound] at h
  · rintro ⟨n, hat⟩
    rw [findAnnexbPrefix_at hat]
    rfl

end Splice

end Lgnome.Native
