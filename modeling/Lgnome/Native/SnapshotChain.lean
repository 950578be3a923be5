import Lgnome.Native.Annexb
import Lgnome.Native.Snapshot
import Lgnome.Transition.Machine
import Mathlib.Algebra.Ring.Nat

/-!
# The snapshot's byte buffer over whole runs

The units of a snapshot lie one behind the other in one allocation, found again
through offsets. Whenever the snapshot is ready, what the offsets read back is
the newest seed and the valid units appended behind it.
-/
namespace Lgnome.Native

open Lgnome.Transition

/-- One element of `NativeAuSnapshot.entries`. -/
structure AuSnapshotEntry where
  offset : Nat
  len : Nat
  pts90k : UInt64
  deriving DecidableEq, Repr

/-- The snapshot as it lies in memory. The allocation is a function of the offset,
and the list is the part of the array below `count`. -/
structure AuSnapshotBuffer where
  buf : Option (Nat → UInt8) := none
  used : Nat := 0
  entries : List AuSnapshotEntry := []
  armed : Bool := false
  hasDecoderSeed : Bool := false

/-- `memcpy(buf + used, data, len)`. -/
def copyAt (used : Nat) (data : Bytes) (buf : Nat → UInt8) : Nat → UInt8 := fun i =>
  if h : used ≤ i ∧ i - used < data.length then data[i - used] else buf i

def readAt (buf : Nat → UInt8) (offset len : Nat) : Bytes :=
  (List.range len).map fun i => buf (offset + i)

namespace AuSnapshotBuffer

open AuSnapshot (maxBytes maxAus)

def reset (_ : AuSnapshotBuffer) : AuSnapshotBuffer := {}

/-- `block` is what `malloc` returned, with whatever it holds. -/
def arm (snap : AuSnapshotBuffer) (block : Option (Nat → UInt8)) : AuSnapshotBuffer × Bool :=
  let snap := { snap.reset with buf := block }
  if block.isNone then (snap, false) else ({ snap with armed := true }, true)

/-- A seed starts over at the head of the buffer. -/
def restart (snap : AuSnapshotBuffer) (decoderSeed : Bool) : AuSnapshotBuffer :=
  if decoderSeed then { snap with used := 0, entries := [], hasDecoderSeed := true } else snap

/-- One unit behind those stored already. -/
def store (snap : AuSnapshotBuffer) (au : AccessUnit) : AuSnapshotBuffer :=
  { snap with
    buf := snap.buf.map (copyAt snap.used au.data)
    entries := snap.entries ++ [⟨snap.used, au.data.length, au.pts90k⟩]
    used := snap.used + au.data.length }

def append (snap : AuSnapshotBuffer) (au : AccessUnit) (validAu decoderSeed : Bool) :
    AuSnapshotBuffer × Bool :=
  if !snap.armed then (snap, false)
  else if !validAu || au.data.isEmpty then
    if !snap.hasDecoderSeed then (snap, true) else (snap.reset, false)
  else if !decoderSeed && !snap.hasDecoderSeed then (snap, true)
  else
    let snap := snap.restart decoderSeed
    if maxBytes - snap.used < au.data.length ∨ maxAus ≤ snap.entries.length then
      (snap.reset, false)
    else (snap.store au, true)

def ready (snap : AuSnapshotBuffer) : Bool :=
  snap.armed && snap.hasDecoderSeed && !snap.entries.isEmpty

/-- What a replay reads through the entries. -/
def units (snap : AuSnapshotBuffer) : List AccessUnit :=
  snap.entries.map fun entry =>
    { data := (snap.buf.map fun buf => readAt buf entry.offset entry.len).getD []
      pts90k := entry.pts90k }

end AuSnapshotBuffer

inductive SnapshotOp
  | arm (block : Option (Nat → UInt8))
  | append (au : AccessUnit) (validAu decoderSeed : Bool)
  | reset

/-- The machine of one snapshot. A call that returns a value records it. -/
def snapshotCache : Machine AuSnapshotBuffer SnapshotOp (Option Bool) where
  init := {}
  step snap op :=
    match op with
    | .arm block => some ((snap.arm block).1, some (snap.arm block).2)
    | .append au validAu decoderSeed =>
      some ((snap.append au validAu decoderSeed).1, some (snap.append au validAu decoderSeed).2)
    | .reset => some (snap.reset, none)

section Memory

variable {buf : Nat → UInt8} {used : Nat} {data : Bytes}

theorem readAt_copyAt_self : readAt (copyAt used data buf) used data.length = data := by
  apply List.ext_getElem
  · simp [readAt]
  · intro i h1 h2
    simp [readAt, copyAt, h2]

/-- A copy leaves what ends before it alone. -/
theorem readAt_copyAt_below {offset len : Nat} (h : offset + len ≤ used) :
    readAt (copyAt used data buf) offset len = readAt buf offset len := by
  unfold readAt
  refine List.map_congr_left fun i hi => ?_
  have hlt := List.mem_range.mp hi
  have hout : ¬ (used ≤ offset + i ∧ offset + i - used < data.length) := by omega
  simp only [copyAt, hout, dif_neg, not_false_eq_true]

end Memory

/-- The bytes of a chain. -/
def chainBytes (chain : List AccessUnit) : Nat := (chain.map fun au => au.data.length).sum

namespace AuSnapshotBuffer

open AuSnapshot (maxBytes maxAus)

/-- The bytes of the units lie in the allocation, within the limits. -/
structure Stored (snap : AuSnapshotBuffer) : Prop where
  allocated : snap.buf.isSome
  used : snap.used = chainBytes snap.units
  within : ∀ entry ∈ snap.entries, entry.offset + entry.len ≤ snap.used
  fits : snap.used ≤ maxBytes
  room : snap.units.length ≤ maxAus

@[simp] theorem units_length (snap : AuSnapshotBuffer) :
    snap.units.length = snap.entries.length := by
  simp [units]

/-- The new bytes lie behind every older unit. -/
theorem Stored.store_units {snap : AuSnapshotBuffer} (h : snap.Stored) (au : AccessUnit) :
    (snap.store au).units = snap.units ++ [au] := by
  obtain ⟨buf, hbuf⟩ := Option.isSome_iff_exists.mp h.allocated
  simp only [units, store, hbuf, Option.map_some, Option.getD_some, List.map_append, List.map_cons,
    List.map_nil, readAt_copyAt_self]
  congr 1
  refine List.map_congr_left fun entry hentry => ?_
  rw [readAt_copyAt_below (h.within entry hentry)]

theorem Stored.store {snap : AuSnapshotBuffer} (h : snap.Stored) {au : AccessUnit}
    (hfit : snap.used + au.data.length ≤ maxBytes) (hroom : snap.entries.length < maxAus) :
    (snap.store au).Stored := by
  constructor
  · simp [AuSnapshotBuffer.store, h.allocated]
  · rw [h.store_units]
    simp [AuSnapshotBuffer.store, chainBytes, h.used]
  · intro entry hentry
    show entry.offset + entry.len ≤ snap.used + au.data.length
    rcases List.mem_append.mp hentry with hold | hnew
    · have hbelow := h.within entry hold
      omega
    · obtain rfl := List.mem_singleton.mp hnew
      exact Nat.le_refl _
  · exact hfit
  · rw [h.store_units, List.length_append, List.length_singleton, units_length]
    omega

/-- An armed snapshot without units is the empty buffer. -/
theorem Stored.of_empty {snap : AuSnapshotBuffer} (hbuf : snap.buf.isSome) (hused : snap.used = 0)
    (hentries : snap.entries = []) : snap.Stored := by
  have hunits : snap.units = [] := by simp [units, hentries]
  refine ⟨hbuf, ?_, ?_, ?_, ?_⟩
  · simp [hused, hunits, chainBytes]
  · simp [hentries]
  · omega
  · simp [hunits]

theorem Stored.restart {snap : AuSnapshotBuffer} (h : snap.Stored) (decoderSeed : Bool) :
    (snap.restart decoderSeed).Stored := by
  unfold AuSnapshotBuffer.restart
  split
  · exact .of_empty h.allocated rfl rfl
  · exact h

/-- What one append comes to. -/
inductive Appended (snap : AuSnapshotBuffer) (au : AccessUnit) (validAu decoderSeed : Bool) :
    AuSnapshotBuffer × Bool → Prop
  | skipped (kept : Bool) (hout : snap.armed = false ∨ snap.hasDecoderSeed = false) :
      Appended snap au validAu decoderSeed (snap, kept)
  | voided : Appended snap au validAu decoderSeed ({}, false)
  | stored (harmed : snap.armed) (hvalid : validAu) (hdata : au.data ≠ [])
      (hseed : decoderSeed ∨ snap.hasDecoderSeed)
      (hfit : (snap.restart decoderSeed).used + au.data.length ≤ maxBytes)
      (hroom : (snap.restart decoderSeed).entries.length < maxAus) :
      Appended snap au validAu decoderSeed ((snap.restart decoderSeed).store au, true)

theorem append_cases (snap : AuSnapshotBuffer) (au : AccessUnit) (validAu decoderSeed : Bool)
    (hstored : snap.armed → snap.Stored) :
    Appended snap au validAu decoderSeed (snap.append au validAu decoderSeed) := by
  unfold append
  by_cases harmed : snap.armed
  · by_cases hbad : !validAu || au.data.isEmpty
    · by_cases hseeded : snap.hasDecoderSeed
      · simpa [harmed, hbad, hseeded] using .voided
      · simpa [harmed, hbad, hseeded] using .skipped true (.inr (by simpa using hseeded))
    · have hgood : validAu ∧ au.data ≠ [] := by simpa using hbad
      by_cases hdelta : !decoderSeed && !snap.hasDecoderSeed
      · have hseedless : decoderSeed = false ∧ snap.hasDecoderSeed = false := by simpa using hdelta
        simpa only [harmed, hbad, hdelta, Bool.not_true, Bool.false_eq_true, if_false, if_true]
          using .skipped true (.inr hseedless.2)
      · have hseed : decoderSeed ∨ snap.hasDecoderSeed := by
          cases decoderSeed <;> simp_all
        simp only [harmed, hbad, hdelta, Bool.not_true, Bool.false_eq_true, if_false]
        split
        · exact .voided
        · rename_i hroom
          have hfits := ((hstored harmed).restart decoderSeed).fits
          exact .stored harmed hgood.1 hgood.2 hseed (by omega) (by omega)
  · simpa [harmed] using .skipped false (.inl (by simpa using harmed))

end AuSnapshotBuffer

/-- A unit that joined a chain behind its seed. -/
def joined (au : AccessUnit) : SnapshotOp × Option Bool := (.append au true false, some true)

open AuSnapshotBuffer in
/-- The state and the record agree: a seeded snapshot holds the newest seed and
what came behind it, and nothing else came behind it. -/
structure Cached (rec : List (SnapshotOp × Option Bool)) (snap : AuSnapshotBuffer) : Prop where
  stored : snap.armed → snap.Stored
  seeded : snap.hasDecoderSeed → snap.armed ∧ ∃ pre seed deltas,
    rec = pre ++ (.append seed true true, some true) :: deltas.map joined ∧
      (∀ au ∈ seed :: deltas, au.data ≠ []) ∧ snap.units = seed :: deltas

namespace Cached

variable {rec : List (SnapshotOp × Option Bool)} {snap : AuSnapshotBuffer}

theorem of_unseeded (hstored : snap.armed → snap.Stored) (hseed : snap.hasDecoderSeed = false) :
    Cached rec snap :=
  ⟨hstored, fun h => by rw [hseed] at h; cases h⟩

theorem empty : Cached rec {} := of_unseeded (by simp) rfl

theorem append (h : Cached rec snap) (au : AccessUnit) (validAu decoderSeed : Bool) :
    Cached (rec ++ [(.append au validAu decoderSeed,
      some (snap.append au validAu decoderSeed).2)]) (snap.append au validAu decoderSeed).1 := by
  have hcases := AuSnapshotBuffer.append_cases snap au validAu decoderSeed h.stored
  generalize snap.append au validAu decoderSeed = after at hcases
  cases hcases with
  | skipped kept hout =>
    refine of_unseeded h.stored ?_
    rcases hout with harmed | hseed
    · cases hseed : snap.hasDecoderSeed with
      | false => rfl
      | true =>
        have hset := (h.seeded hseed).1
        rw [harmed] at hset
        cases hset
    · exact hseed
  | voided => exact empty
  | stored harmed hvalid hdata hseed hfit hroom =>
    obtain rfl : validAu = true := hvalid
    have hbase := (h.stored harmed).restart decoderSeed
    have hstored := hbase.store hfit hroom
    have hunits := hbase.store_units au
    cases decoderSeed with
    | true =>
      refine ⟨fun _ => hstored, fun _ => ⟨harmed, rec, au, [], rfl, ?_, hunits⟩⟩
      intro unit hmem
      obtain rfl := List.mem_singleton.mp hmem
      exact hdata
    | false =>
      have hseeded : snap.hasDecoderSeed := by simpa using hseed
      obtain ⟨-, pre, seed, deltas, hrec, hnonempty, hchain⟩ := h.seeded hseeded
      have hsame : snap.restart false = snap := rfl
      rw [hsame] at hunits hstored ⊢
      refine ⟨fun _ => hstored, fun _ => ⟨harmed, pre, seed, deltas ++ [au], ?_, ?_, ?_⟩⟩
      · rw [hrec]
        simp [joined]
      · intro unit hmem
        rw [← List.cons_append] at hmem
        rcases List.mem_append.mp hmem with hold | hnew
        · exact hnonempty unit hold
        · obtain rfl := List.mem_singleton.mp hnew
          exact hdata
      · rw [hunits, hchain, List.cons_append]

theorem of_run (h : snapshotCache.Run rec snap) : Cached rec snap := by
  refine h.history (I := Cached) empty ?_
  intro rec snap op snap' seen hcached hstep
  cases op with
  | arm block =>
    obtain ⟨rfl, rfl⟩ := Prod.mk.inj (Option.some.inj hstep)
    cases block with
    | none => exact empty
    | some buf => exact of_unseeded (fun _ => .of_empty rfl rfl rfl) rfl
  | append au validAu decoderSeed =>
    obtain ⟨rfl, rfl⟩ := Prod.mk.inj (Option.some.inj hstep)
    exact hcached.append au validAu decoderSeed
  | reset =>
    obtain ⟨rfl, rfl⟩ := Prod.mk.inj (Option.some.inj hstep)
    exact empty

end Cached

/-- The list of units that the slot's snapshot is elsewhere. -/
def AuSnapshotBuffer.toSnapshot (snap : AuSnapshotBuffer) : AuSnapshot where
  entries := snap.units
  armed := snap.armed
  hasDecoderSeed := snap.hasDecoderSeed

theorem snapshot_used (snap : AuSnapshot) : snap.used = chainBytes snap.entries := by
  unfold AuSnapshot.used chainBytes
  rw [List.sum_eq_foldl, List.foldl_map]

/-- In every state of a run the buffer takes a unit as the list of units does. -/
theorem snapshot_refines {rec : List (SnapshotOp × Option Bool)} {snap : AuSnapshotBuffer}
    (h : snapshotCache.Run rec snap) (au : AccessUnit) (validAu decoderSeed : Bool) :
    ((snap.append au validAu decoderSeed).1.toSnapshot, (snap.append au validAu decoderSeed).2)
      = snap.toSnapshot.append au validAu decoderSeed := by
  have hstored := (Cached.of_run h).stored
  have hstart : snap.toSnapshot.armed = snap.armed := rfl
  have hhas : snap.toSnapshot.hasDecoderSeed = snap.hasDecoderSeed := rfl
  unfold AuSnapshotBuffer.append AuSnapshot.append
  rw [hstart, hhas]
  by_cases harmed : !snap.armed
  · rw [if_pos harmed, if_pos harmed]
  rw [if_neg harmed, if_neg harmed]
  by_cases hbad : !validAu || au.data.isEmpty
  · rw [if_pos hbad, if_pos hbad]
    by_cases hseed : !snap.hasDecoderSeed
    · rw [if_pos hseed, if_pos hseed]
    · rw [if_neg hseed, if_neg hseed]
      rfl
  rw [if_neg hbad, if_neg hbad]
  by_cases hdelta : !decoderSeed && !snap.hasDecoderSeed
  · rw [if_pos hdelta, if_pos hdelta]
  rw [if_neg hdelta, if_neg hdelta]
  have hset : snap.armed := by simpa using harmed
  have hbase := (hstored hset).restart decoderSeed
  have hrestart : (if decoderSeed = true then
        ({ entries := [], armed := snap.armed, hasDecoderSeed := true } : AuSnapshot)
      else snap.toSnapshot) = (snap.restart decoderSeed).toSnapshot := by
    cases decoderSeed <;> rfl
  have hused : (snap.restart decoderSeed).toSnapshot.used = (snap.restart decoderSeed).used := by
    rw [snapshot_used]
    exact hbase.used.symm
  have hcount : (snap.restart decoderSeed).toSnapshot.entries.length
      = (snap.restart decoderSeed).entries.length :=
    AuSnapshotBuffer.units_length _
  simp only [hrestart, hused, hcount]
  split
  · rfl
  · have hunits := hbase.store_units au
    simp only [AuSnapshotBuffer.toSnapshot, hunits]
    rfl

section Scanning

/-- The type in the header of a NAL unit. -/
def nalType : VideoCodec → Bytes → Option UInt8
  | .h264, nal => nal.head?.map fun header => header &&& 0x1f
  | .h265, nal => nal.head?.map fun (header : UInt8) => (header >>> 1) &&& 0x3f

def spsType : VideoCodec → UInt8
  | .h264 => 7
  | .h265 => 33

def ppsType : VideoCodec → UInt8
  | .h264 => 8
  | .h265 => 34

def HasType (codec : VideoCodec) (nals : List Bytes) (t : UInt8) : Prop :=
  ∃ nal ∈ nals, nalType codec nal = some t

/-- What a fresh decoder has to be given before its first picture. -/
def HasParameterSets (codec : VideoCodec) (nals : List Bytes) : Prop :=
  HasType codec nals (spsType codec) ∧ HasType codec nals (ppsType codec) ∧
    (codec = .h265 → HasType codec nals 32)

/-- An IDR slice, or an HEVC picture that a decoder may start from. -/
def restartPicture : VideoCodec → Bytes → Prop
  | .h264, nal => nalType .h264 nal = some 5
  | .h265, nal => ∃ t, nalType .h265 nal = some t ∧ 16 ≤ t ∧ t ≤ 21

/-- The ways a unit is cut into NAL units. -/
def framings : VideoCodec → Bytes → List (List Bytes)
  | .h264, data => [(avcNals data.length data).getD [], annexbNals data.length data]
  | .h265, data => [annexbNals data.length data]

/-- Every parameter set precedes some restart picture. -/
def SeedsDecoder (codec : VideoCodec) (nals : List Bytes) : Prop :=
  ∃ before key after, nals = before ++ key :: after ∧ restartPicture codec key ∧
    HasParameterSets codec before

/-- The flags of an append as `native_video_ingest_au_locked` takes them from the scan. -/
def Scanned : SnapshotOp → Prop
  | .append au validAu decoderSeed => ∃ codec, validAu = (videoScanAu codec au.data).valid ∧
      decoderSeed = ((videoScanAu codec au.data).valid && (videoScanAu codec au.data).canSeedDecoder)
  | _ => True

/-- What the flags of a scan say about the NAL units behind it. -/
structure Met (codec : VideoCodec) (nals : List Bytes) (info : ParameterSets) : Prop where
  vps : info.hasVps → HasType codec nals 32
  sps : info.hasSps → HasType codec nals (spsType codec)
  pps : info.hasPps → HasType codec nals (ppsType codec)
  seed : info.canSeedDecoder → SeedsDecoder codec nals

variable {codec : VideoCodec} {nals : List Bytes} {info info' : ParameterSets}

theorem HasType.append {t : UInt8} (h : HasType codec nals t) (rest : List Bytes) :
    HasType codec (nals ++ rest) t := by
  obtain ⟨nal, hmem, htype⟩ := h
  exact ⟨nal, List.mem_append_left _ hmem, htype⟩

theorem HasType.last {t : UInt8} {nal : Bytes} (h : nalType codec nal = some t) :
    HasType codec (nals ++ [nal]) t :=
  ⟨nal, List.mem_append_right _ (List.mem_singleton_self _), h⟩

theorem SeedsDecoder.append (h : SeedsDecoder codec nals) (rest : List Bytes) :
    SeedsDecoder codec (nals ++ rest) := by
  obtain ⟨before, key, after, rfl, hkey, hsets⟩ := h
  exact ⟨before, key, after ++ rest, by simp, hkey, hsets⟩

theorem Met.append (h : Met codec nals info) (rest : List Bytes) : Met codec (nals ++ rest) info :=
  ⟨fun hv => (h.vps hv).append rest, fun hs => (h.sps hs).append rest,
    fun hp => (h.pps hp).append rest, fun hc => (h.seed hc).append rest⟩

theorem Met.h264 (h : Met .h264 nals info) {nal : Bytes} (hscan : h264ScanNal info nal = some info') :
    Met .h264 (nals ++ [nal]) info' := by
  cases nal with
  | nil => cases hscan
  | cons header body =>
    have hkeep := h.append [header :: body]
    have htype : nalType .h264 (header :: body) = some (header &&& 0x1f) := rfl
    simp only [h264ScanNal] at hscan
    split at hscan
    · cases hscan
    split at hscan
    · rename_i hsps
      obtain rfl := Option.some.inj hscan
      rw [hsps] at htype
      exact { hkeep with sps := fun _ => HasType.last htype }
    split at hscan
    · rename_i hpps
      obtain rfl := Option.some.inj hscan
      rw [hpps] at htype
      exact { hkeep with pps := fun _ => HasType.last htype }
    split at hscan
    · rename_i hidr
      obtain rfl := Option.some.inj hscan
      rw [hidr] at htype
      refine { hkeep with seed := fun hseed => ?_ }
      rcases Bool.or_eq_true _ _ ▸ hseed with hold | hsets
      · exact hkeep.seed hold
      · obtain ⟨hs, hp⟩ := Bool.and_eq_true _ _ ▸ hsets
        exact ⟨nals, _, [], rfl, htype, h.sps hs, h.pps hp, fun hcodec => nomatch hcodec⟩
    · obtain rfl := Option.some.inj hscan
      exact hkeep

theorem Met.h265 (h : Met .h265 nals info) {nal : Bytes} (hscan : hevcScanNal info nal = some info') :
    Met .h265 (nals ++ [nal]) info' := by
  rcases nal with _ | ⟨header, _ | ⟨temporal, body⟩⟩
  · cases hscan
  · cases hscan
  · have hkeep := h.append [header :: temporal :: body]
    have htype : nalType .h265 (header :: temporal :: body) = some ((header >>> 1) &&& 0x3f) := rfl
    simp only [hevcScanNal] at hscan
    split at hscan
    · cases hscan
    split at hscan
    · rename_i hvps
      obtain rfl := Option.some.inj hscan
      rw [hvps] at htype
      exact { hkeep with vps := fun _ => HasType.last htype }
    split at hscan
    · rename_i hsps
      obtain rfl := Option.some.inj hscan
      rw [hsps] at htype
      exact { hkeep with sps := fun _ => HasType.last htype }
    split at hscan
    · rename_i hpps
      obtain rfl := Option.some.inj hscan
      rw [hpps] at htype
      exact { hkeep with pps := fun _ => HasType.last htype }
    split at hscan
    · rename_i hirap
      obtain rfl := Option.some.inj hscan
      refine { hkeep with seed := fun hseed => ?_ }
      rcases Bool.or_eq_true _ _ ▸ hseed with hold | hsets
      · exact hkeep.seed hold
      · obtain ⟨hvs, hp⟩ := Bool.and_eq_true _ _ ▸ hsets
        obtain ⟨hv, hs⟩ := Bool.and_eq_true _ _ ▸ hvs
        exact ⟨nals, _, [], rfl, ⟨_, htype, hirap⟩, h.sps hs, h.pps hp, fun _ => h.vps hv⟩
    · obtain rfl := Option.some.inj hscan
      exact hkeep

/-- A whole scan, NAL by NAL. -/
theorem Met.scan {scanNal : ParameterSets → Bytes → Option ParameterSets}
    (hstep : ∀ nals nal info info', Met codec nals info → scanNal info nal = some info' →
      Met codec (nals ++ [nal]) info')
    (rest : List Bytes) (h : Met codec nals info) (hscan : rest.foldlM scanNal info = some info') :
    Met codec (nals ++ rest) info' := by
  induction rest generalizing nals info with
  | nil =>
    obtain rfl := Option.some.inj hscan
    simpa using h
  | cons nal rest ih =>
    rw [List.foldlM_cons] at hscan
    cases hfirst : scanNal info nal with
    | none => simp [hfirst] at hscan
    | some next =>
      simp only [hfirst, Option.bind_eq_bind, Option.bind_some] at hscan
      have hnext := ih (hstep nals nal info next h hfirst) hscan
      simpa using hnext

theorem scanNals_seed {scanNal : ParameterSets → Bytes → Option ParameterSets}
    (hstep : ∀ nals nal info info', Met codec nals info → scanNal info nal = some info' →
      Met codec (nals ++ [nal]) info')
    (hseed : (scanNals scanNal nals).canSeedDecoder = true) : SeedsDecoder codec nals := by
  have hstart : Met codec [] {} := ⟨by simp, by simp, by simp, by simp⟩
  unfold scanNals at hseed
  cases hscan : nals.foldlM scanNal {} with
  | none => simp [hscan] at hseed
  | some info =>
    simp only [hscan] at hseed
    simpa using (Met.scan hstep nals hstart hscan).seed hseed

/-- A unit that a scan lets seed a decoder is a restart picture behind its parameter sets. -/
theorem videoScanAu_seed {data : Bytes} (hseed : (videoScanAu codec data).canSeedDecoder = true) :
    ∃ nals ∈ framings codec data, SeedsDecoder codec nals := by
  cases codec with
  | h264 =>
    have hscan : (h264ScanAu data).canSeedDecoder = true := hseed
    unfold h264ScanAu at hscan
    simp only at hscan
    split at hscan
    · exact ⟨_, List.mem_cons_self, scanNals_seed (fun _ _ _ _ h hs => h.h264 hs) hscan⟩
    · exact ⟨_, List.mem_cons_of_mem _ (List.mem_singleton_self _),
        scanNals_seed (fun _ _ _ _ h hs => h.h264 hs) hscan⟩
  | h265 =>
    exact ⟨_, List.mem_singleton_self _, scanNals_seed (fun _ _ _ _ h hs => h.h265 hs) hseed⟩

end Scanning

open AuSnapshotBuffer in
/-- **A ready snapshot is its newest seed with the valid units behind it.** A bad unit
or an overflow leaves nothing ready before the next seed. -/
theorem snapshot_chain {rec : List (SnapshotOp × Option Bool)} {snap : AuSnapshotBuffer}
    (h : snapshotCache.Run rec snap) :
    (snap.ready → ∃ pre seed deltas,
      rec = pre ++ (.append seed true true, some true) :: deltas.map joined ∧
      snap.units = seed :: deltas ∧ (∀ au ∈ seed :: deltas, au.data ≠ []) ∧
      chainBytes (seed :: deltas) ≤ AuSnapshot.maxBytes ∧
      (seed :: deltas).length ≤ AuSnapshot.maxAus ∧
      ((∀ x ∈ rec, Scanned x.1) →
        ∃ codec, ∃ nals ∈ framings codec seed.data, SeedsDecoder codec nals)) ∧
    (∀ pre au validAu decoderSeed kept post,
      rec = pre ++ (.append au validAu decoderSeed, kept) :: post →
      validAu = false ∨ au.data = [] ∨ kept = some false →
      (∀ seed, (SnapshotOp.append seed true true, some true) ∉ post) → snap.ready = false) := by
  have hcached := Cached.of_run h
  have hchain : snap.ready → snap.Stored ∧ ∃ pre seed deltas,
      rec = pre ++ (.append seed true true, some true) :: deltas.map joined ∧
      (∀ au ∈ seed :: deltas, au.data ≠ []) ∧ snap.units = seed :: deltas := by
    intro hready
    simp only [AuSnapshotBuffer.ready, Bool.and_eq_true] at hready
    exact ⟨hcached.stored hready.1.1, (hcached.seeded hready.1.2).2⟩
  constructor
  · intro hready
    obtain ⟨hstored, pre, seed, deltas, hrec, hdata, hunits⟩ := hchain hready
    refine ⟨pre, seed, deltas, hrec, hunits, hdata, ?_, ?_, ?_⟩
    · rw [← hunits, ← hstored.used]
      exact hstored.fits
    · rw [← hunits]
      exact hstored.room
    · intro hscanned
      have hmem : (SnapshotOp.append seed true true, some true) ∈ rec := by
        rw [hrec]
        exact List.mem_append_right _ List.mem_cons_self
      obtain ⟨codec, -, hflag⟩ := hscanned _ hmem
      exact ⟨codec, videoScanAu_seed (Bool.and_eq_true _ _ ▸ hflag.symm).2⟩
  · intro pre au validAu decoderSeed kept post hrec hbad hnoseed
    cases hready : snap.ready with
    | false => rfl
    | true =>
      obtain ⟨-, pre', seed, deltas, hrec', hdata, -⟩ := hchain hready
      rw [hrec'] at hrec
      have hunit : ∀ unit ∈ seed :: deltas, ∀ flag,
          (SnapshotOp.append au validAu decoderSeed, kept) ≠ (.append unit true flag, some true) := by
        intro unit hmem flag heq
        obtain ⟨hop, rfl⟩ := Prod.mk.inj heq
        obtain ⟨rfl, rfl, -⟩ := SnapshotOp.append.inj hop
        rcases hbad with hinvalid | hempty | hvoid
        · cases hinvalid
        · exact hdata au hmem hempty
        · cases hvoid
      -- The bad unit stands behind the seed, is the seed, or stands before it.
      rcases List.append_eq_append_iff.mp hrec with ⟨mid, -, hrest⟩ | ⟨mid, -, hrest⟩
      · cases mid with
        | nil =>
          have hhead := (List.cons.inj hrest).1
          exact absurd hhead.symm (hunit seed List.mem_cons_self true)
        | cons first mid =>
          have htail := (List.cons.inj hrest).2
          have hmem : (SnapshotOp.append au validAu decoderSeed, kept) ∈ deltas.map joined := by
            rw [htail]
            exact List.mem_append_right _ List.mem_cons_self
          obtain ⟨unit, hin, heq⟩ := List.mem_map.mp hmem
          exact absurd heq.symm (hunit unit (List.mem_cons_of_mem _ hin) false)
      · cases mid with
        | nil =>
          have hhead := (List.cons.inj hrest).1
          exact absurd hhead (hunit seed List.mem_cons_self true)
        | cons first mid =>
          have htail := (List.cons.inj hrest).2
          refine absurd ?_ (hnoseed seed)
          rw [htail]
          exact List.mem_append_right _ List.mem_cons_self

/-- A unit with parameter sets and an IDR slice, in start codes. -/
def seedUnit : AccessUnit where
  data := [0, 0, 1, 0x67, 0, 0, 1, 0x68, 0, 0, 1, 0x65]
  pts90k := 0

def chainedUnit : AccessUnit where
  data := [0, 0, 1, 0x41]
  pts90k := 3000

/-- A seed and one delta behind it are what a replay reads. -/
theorem snapshot_chain_two : ∃ rec snap, snapshotCache.Run rec snap ∧ snap.ready = true ∧
    ∃ pre seed deltas,
      rec = pre ++ (.append seed true true, some true) :: deltas.map joined ∧
      snap.units = seed :: deltas := by
  have hrun := Machine.run_of_exec (M := snapshotCache)
    [.arm (some fun _ => 0), .append seedUnit true true, .append chainedUnit true false] rfl
  obtain ⟨pre, seed, deltas, hrec, hunits, -⟩ := (snapshot_chain hrun).1 rfl
  exact ⟨_, _, hrun, rfl, pre, seed, deltas, hrec, hunits⟩

end Lgnome.Native
