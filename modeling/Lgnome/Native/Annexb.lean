import Lgnome.Native.Video

/-!
# The bitstream scanners

`h264_annexb.c` and `hevc_annexb.c` as far as the routing of a unit asks them:
whether the unit parses, and whether a fresh decoder can start from it.
-/
namespace Lgnome.Native

/-- The length of the start code at the head, a short or a long one. -/
def annexbPrefixAt : Bytes → Option Nat
  | 0 :: 0 :: 1 :: _ => some 3
  | 0 :: 0 :: 0 :: 1 :: _ => some 4
  | _ => none

/-- The bytes before the first start code and those behind it. -/
def findAnnexbPrefix : Bytes → Option (Bytes × Bytes)
  | [] => none
  | b :: rest =>
    match annexbPrefixAt (b :: rest) with
    | some n => some ([], (b :: rest).drop n)
    | none => (findAnnexbPrefix rest).map fun found => (b :: found.1, found.2)

/-- The NAL units behind the start codes; `fuel` bounds their number. -/
def annexbNals : Nat → Bytes → List Bytes
  | 0, _ => []
  | fuel + 1, data =>
    match findAnnexbPrefix data with
    | none => []
    | some (_, body) =>
      match findAnnexbPrefix body with
      | none => [body]
      | some (nal, _) => nal :: annexbNals fuel (body.drop nal.length)

/-- The NAL units behind big-endian lengths. `none` when a length is cut short,
zero, or longer than what is left. -/
def avcNals : Nat → Bytes → Option (List Bytes)
  | _, [] => some []
  | 0, _ => none
  | fuel + 1, b0 :: b1 :: b2 :: b3 :: rest =>
    let nalLen := ((b0.toNat * 256 + b1.toNat) * 256 + b2.toNat) * 256 + b3.toNat
    if nalLen = 0 ∨ rest.length < nalLen then none
    else (avcNals fuel (rest.drop nalLen)).map fun nals => rest.take nalLen :: nals
  | _ + 1, _ => none

/-- The parameter sets a scan has met so far. -/
structure ParameterSets where
  hasVps : Bool := false
  hasSps : Bool := false
  hasPps : Bool := false
  canSeedDecoder : Bool := false
  deriving DecidableEq, Repr

/-- `scan_nal` of H.264. -/
def h264ScanNal (info : ParameterSets) : Bytes → Option ParameterSets
  | [] => none
  | header :: _ =>
    let nalType := header &&& 0x1f
    if header &&& 0x80 ≠ 0 ∨ nalType = 0 then none
    else if nalType = 7 then some { info with hasSps := true }
    else if nalType = 8 then some { info with hasPps := true }
    else if nalType = 5 then
      some { info with canSeedDecoder := info.canSeedDecoder || (info.hasSps && info.hasPps) }
    else some info

/-- HEVC has a two-byte header with a nonzero temporal id. -/
def hevcScanNal (info : ParameterSets) : Bytes → Option ParameterSets
  | header :: temporal :: _ =>
    let nalType := (header >>> 1) &&& 0x3f
    if header &&& 0x80 ≠ 0 ∨ temporal &&& 7 = 0 then none
    else if nalType = 32 then some { info with hasVps := true }
    else if nalType = 33 then some { info with hasSps := true }
    else if nalType = 34 then some { info with hasPps := true }
    else if 16 ≤ nalType ∧ nalType ≤ 21 then
      some { info with
        canSeedDecoder := info.canSeedDecoder || (info.hasVps && info.hasSps && info.hasPps) }
    else some info
  | _ => none

/-- One unit is scanned NAL by NAL; a bad one, or none at all, spoils it. -/
def scanNals (scanNal : ParameterSets → Bytes → Option ParameterSets) (nals : List Bytes) :
    AuInfo :=
  match nals.foldlM scanNal {} with
  | none => { valid := false, canSeedDecoder := false }
  | some info => { valid := !nals.isEmpty, canSeedDecoder := info.canSeedDecoder }

/-- `native_h264_scan_au`: length-prefixed if that parses, and start codes otherwise. -/
def h264ScanAu (data : Bytes) : AuInfo :=
  let avc := scanNals h264ScanNal ((avcNals data.length data).getD [])
  if avc.valid then avc else scanNals h264ScanNal (annexbNals data.length data)

/-- `native_hevc_scan_annexb`. -/
def hevcScanAnnexb (data : Bytes) : AuInfo := scanNals hevcScanNal (annexbNals data.length data)

/-- The scanner that `native_video_ingest_au_locked` asks. -/
def videoScanAu : Scanner
  | .h264 => h264ScanAu
  | .h265 => hevcScanAnnexb

/-- SPS, PPS and an IDR slice. -/
def idrUnit : AccessUnit :=
  { data := [0, 0, 1, 0x67, 1, 0, 0, 1, 0x68, 1, 0, 0, 1, 0x65, 1], pts90k := 0 }

/-- A slice that refers to earlier pictures. -/
def deltaUnit (pts90k : UInt64) : AccessUnit := { data := [0, 0, 1, 0x41, 2], pts90k }

example : videoScanAu .h264 idrUnit.data = ⟨true, true⟩ ∧
    videoScanAu .h264 (deltaUnit 1).data = ⟨true, false⟩ := by decide

end Lgnome.Native
