import Lgnome.Capture.H264Stream
import Mathlib.Algebra.Ring.Nat
import Mathlib.Data.List.Chain
import Mathlib.Data.List.Forall2

/-!
# What leaves the camera's H.264 stream

The packets of one capture, from its creation or the last reset to the next, continue
one another: each follows its predecessor without a lost picture or starts afresh with an
IDR picture behind its parameter sets.
-/
namespace Lgnome.Capture

open Lgnome.Native
open Lgnome.Transition

/-! ## Packets and buffers -/

/-- The buffer bears a coded slice. -/
def BearsSlice (data : Bytes) : Prop := ∃ nal ∈ nalUnits data, IsSlice nal

/-- Every IDR slice stands behind an SPS and a PPS. -/
def SetsFirst (data : Bytes) : Prop :=
  ∀ before key after, nalUnits data = before ++ key :: after → restartPicture .h264 key →
    HasParameterSets .h264 before

/-- The packet was made of the captured buffer. One with an IDR slice brings both sets in
front of one: in front of every one, unless it is the buffer itself. -/
structure Carries (packet : NativeCameraOwnedAu) (frame : NativeCameraFrame) : Prop where
  timestampUs : packet.timestampUs = frame.timestampUs
  sequence : packet.sequence = frame.sequence
  data : ∃ seed, packet.data = seed ++ frame.data
  isIdr : packet.isIdr = true ↔ HasType .h264 (nalUnits frame.data) 5
  seeds : packet.isIdr = true → SeedsDecoder .h264 (nalUnits packet.data)
  setsFirst : packet.isIdr = true → SetsFirst packet.data ∨ packet.data = frame.data

/-- Both sets in front of a buffer stand in front of each of its IDR slices. -/
theorem setsFirst_seed {sps pps data : Bytes} {n : Nat} (hsps : IsParameterSet 7 sps)
    (hpps : IsParameterSet 8 pps) (hdata : annexbPrefixAt data = some n) :
    SetsFirst (sps ++ pps ++ data) := by
  obtain ⟨spsNal, ppsNal, hspsType, hppsType, hnals⟩ := annexbNals_seed hsps hpps hdata
  intro before key after hsplit hkey
  have hfive : nalType .h264 key = some 5 := hkey
  rw [hnals] at hsplit
  match before with
  | [] =>
    obtain ⟨rfl, -⟩ := List.cons.inj hsplit
    rw [hspsType] at hfive
    cases hfive
  | [b] =>
    obtain ⟨-, hsplit⟩ := List.cons.inj hsplit
    obtain ⟨rfl, -⟩ := List.cons.inj hsplit
    rw [hppsType] at hfive
    cases hfive
  | b :: b' :: before =>
    obtain ⟨hfirst, hsplit⟩ := List.cons.inj hsplit
    obtain ⟨hsecond, -⟩ := List.cons.inj hsplit
    rw [← hfirst, ← hsecond]
    exact ⟨⟨spsNal, by simp, hspsType⟩, ⟨ppsNal, by simp, hppsType⟩, fun h => by cases h⟩

/-- A buffer with an IDR slice seeds a decoder once both sets stand in front of it. -/
theorem seeds_seed {sps pps data : Bytes} {n : Nat} (hsps : IsParameterSet 7 sps)
    (hpps : IsParameterSet 8 pps) (hdata : annexbPrefixAt data = some n)
    (hidr : HasType .h264 (nalUnits data) 5) :
    SeedsDecoder .h264 (nalUnits (sps ++ pps ++ data)) := by
  obtain ⟨spsNal, ppsNal, hspsType, hppsType, hnals⟩ := annexbNals_seed hsps hpps hdata
  obtain ⟨key, hmem, hkey⟩ := hidr
  obtain ⟨before, after, hsplit⟩ := List.append_of_mem hmem
  refine ⟨spsNal :: ppsNal :: before, key, after, ?_, hkey, ⟨spsNal, by simp, hspsType⟩,
    ⟨ppsNal, by simp, hppsType⟩, fun h => by cases h⟩
  rw [hnals, hsplit]
  rfl

/-! ## One ingest -/

/-- What the stream keeps between calls. -/
structure Formed (stream : NativeCameraH264Stream) : Prop where
  sps : ∀ set, stream.sps = some set → IsParameterSet 7 set
  pps : ∀ set, stream.pps = some set → IsParameterSet 8 set
  seeded : stream.seeded = true → stream.sps ≠ none ∧ stream.pps ≠ none
  waiting : stream.waitingAus < cameraH264WaitAus

/-- The buffer is the one that V4L2 numbers next. -/
def Follows (stream : NativeCameraH264Stream) (frame : NativeCameraFrame) : Prop :=
  stream.haveSequence = true → frame.sequence = stream.lastSequence + 1

/-- The buffer was swallowed. -/
structure Swallowed (stream : NativeCameraH264Stream) (frame : NativeCameraFrame)
    (stream' : NativeCameraH264Stream) : Prop where
  fifo : stream'.fifo = stream.fifo
  bytes : stream'.bytes = stream.bytes
  gate : stream'.seeded = true → stream.seeded = true ∧ Follows stream frame
  skipped : stream'.seeded = true → ¬BearsSlice frame.data
  sequence : stream'.haveSequence = true ∧ stream'.lastSequence = frame.sequence

/-- The buffer was queued as `au`. -/
structure Queued (stream : NativeCameraH264Stream) (frame : NativeCameraFrame)
    (au : NativeCameraOwnedAu) (stream' : NativeCameraH264Stream) : Prop where
  room : stream.fifo.count < cameraH264FifoAus
  fits : au.data.length ≤ cameraH264FifoBytes - stream.bytes
  fifo : stream'.fifo = stream.fifo.push au
  bytes : stream'.bytes = stream.bytes + au.data.length
  gate : au.isIdr = true ∨ stream.seeded = true ∧ Follows stream frame
  carries : Carries au frame
  sequence : stream'.haveSequence = true ∧ stream'.lastSequence = frame.sequence

variable {stream stream' : NativeCameraH264Stream} {frame : NativeCameraFrame}
  {info : NativeH264Info} {memory : Allocations} {result : NativeCameraH264IngestResult}

theorem Formed.empty : Formed {} where
  sps set h := by cases h
  pps set h := by cases h
  seeded h := by cases h
  waiting := by decide

theorem Formed.checkSequence (h : Formed stream) (sequence : UInt32) :
    Formed (stream.checkSequence sequence) := by
  unfold NativeCameraH264Stream.checkSequence
  split
  · exact ⟨h.sps, h.pps, fun hseeded => (by cases hseeded),
      Nat.sub_lt (by decide) (by decide)⟩
  · exact ⟨h.sps, h.pps, h.seeded, h.waiting⟩

/-- The gate is open behind the check when it was, and no buffer was dropped. -/
theorem checkSequence_seeded (h : (stream.checkSequence frame.sequence).seeded = true) :
    stream.seeded = true ∧ Follows stream frame := by
  unfold NativeCameraH264Stream.checkSequence at h
  split at h
  · cases h
  · rename_i hnext
    refine ⟨h, fun hhave => ?_⟩
    by_contra hgap
    exact hnext ⟨hhave, hgap⟩

theorem le_waiting_checkSequence (h : Formed stream) (sequence : UInt32) :
    stream.waitingAus ≤ (stream.checkSequence sequence).waitingAus := by
  unfold NativeCameraH264Stream.checkSequence
  split
  · exact Nat.le_pred_of_lt h.waiting
  · exact Nat.le_refl _

theorem checkSequence_same (stream : NativeCameraH264Stream) (sequence : UInt32) :
    (stream.checkSequence sequence).fifo = stream.fifo ∧
      (stream.checkSequence sequence).bytes = stream.bytes ∧
      (stream.checkSequence sequence).haveSequence = true ∧
      (stream.checkSequence sequence).lastSequence = sequence := by
  unfold NativeCameraH264Stream.checkSequence
  split
  · exact ⟨rfl, rfl, rfl, rfl⟩
  · exact ⟨rfl, rfl, rfl, rfl⟩

/-! ### The cache -/

section Cache

variable {flag allocated : Bool} {view data : Bytes} {old : Option Bytes} {t : UInt8}

/-- A cached set is a copy of one NAL unit, or the one from before. -/
theorem cached_set {new : Option Bytes}
    (hview : flag = true → view ∈ nalUnits data ∧ nalType .h264 view = some t)
    (hnew : (if flag = true then cameraParameterSetCopy view allocated else none) = new)
    (hold : ∀ set, old = some set → IsParameterSet t set) :
    ∀ set, (new <|> old) = some set → IsParameterSet t set := by
  intro set hset
  cases new with
  | none => exact hold set hset
  | some copy =>
    obtain rfl : copy = set := Option.some.inj hset
    split at hnew
    · rename_i hflag
      obtain ⟨hmem, htype⟩ := hview hflag
      unfold cameraParameterSetCopy at hnew
      split at hnew
      · cases hnew
      · split at hnew
        · obtain rfl := Option.some.inj hnew
          exact ⟨view, rfl, findAnnexbPrefix_nal hmem, htype⟩
        · cases hnew
    · cases hnew

theorem orElse_some {new old : Option Bytes} (h : new ≠ none ∨ old ≠ none) :
    (new <|> old) ≠ none := by
  cases new with
  | some set => exact fun hnone => by cases hnone
  | none =>
    rcases h with h | h
    · exact (h rfl).elim
    · exact h

/-- Caching changes the two sets only, and forgets neither. -/
theorem cacheParameterSets_spec (hform : Formed stream) (hmet : H264Met (nalUnits data) info)
    (h : stream.cacheParameterSets info memory = some stream') :
    Formed stream' ∧ (∃ sps pps, stream' = { stream with sps := sps, pps := pps }) ∧
      (info.hasSps = true → stream'.sps ≠ none) ∧ (info.hasPps = true → stream'.pps ≠ none) := by
  unfold NativeCameraH264Stream.cacheParameterSets at h
  simp only at h
  generalize hnewSps : (if info.hasSps = true then
    cameraParameterSetCopy info.sps memory.sps else none) = newSps at h
  generalize hnewPps : (if info.hasPps = true then
    cameraParameterSetCopy info.pps memory.pps else none) = newPps at h
  split at h
  · cases h
  rename_i hsps
  split at h
  · cases h
  rename_i hpps
  split at h
  · cases h
  obtain rfl := Option.some.inj h
  refine ⟨⟨cached_set hmet.sps hnewSps hform.sps, cached_set hmet.pps hnewPps hform.pps,
    fun hseeded => ?_, hform.waiting⟩, ⟨_, _, rfl⟩, fun hflag => orElse_some (.inl fun hnone => hsps ⟨hflag, hnone⟩),
    fun hflag => orElse_some (.inl fun hnone => hpps ⟨hflag, hnone⟩)⟩
  obtain ⟨hs, hp⟩ := hform.seeded hseeded
  exact ⟨orElse_some (.inr hs), orElse_some (.inr hp)⟩

end Cache

/-! ### Waiting and queueing -/

/-- A wait touches the counter only, and reports at the bound. -/
theorem wait_spec (h : stream.wait = (stream', result)) :
    (∃ n < cameraH264WaitAus, stream' = { stream with waitingAus := n }) ∧
      (result = .waiting ∧ stream'.waitingAus = stream.waitingAus + 1 ∨
        result = .sampleError) := by
  unfold NativeCameraH264Stream.wait at h
  split at h
  · obtain ⟨rfl, rfl⟩ := Prod.mk.inj h
    exact ⟨⟨0, by decide, rfl⟩, .inr rfl⟩
  · rename_i hbound
    obtain ⟨rfl, rfl⟩ := Prod.mk.inj h
    exact ⟨⟨_, Nat.lt_of_not_le hbound, rfl⟩, .inl ⟨rfl, rfl⟩⟩

/-- Queueing puts the buffer behind the sets it lacks into a free slot. -/
theorem queue_spec (hform : Formed stream) (hmet : H264Met (nalUnits frame.data) info)
    (hstarts : startsWithStartCode frame.data = true)
    (h : stream.queue frame info memory = some stream') :
    ∃ au, Carries au frame ∧ au.isIdr = info.hasIdr ∧
      stream.fifo.count < cameraH264FifoAus ∧
      au.data.length ≤ cameraH264FifoBytes - stream.bytes ∧
      stream' = { stream with
        fifo := stream.fifo.push au
        bytes := stream.bytes + au.data.length } := by
  obtain ⟨n, hcode⟩ := startsWithStartCode_iff.mp hstarts
  unfold NativeCameraH264Stream.queue at h
  split at h
  · cases h
  rename_i seed hseed
  split at h
  · cases h
  simp only at h
  split at h
  · cases h
  rename_i hroom
  obtain ⟨hcount, hbytes⟩ := not_or.mp hroom
  split at h
  · cases h
  obtain rfl := Option.some.inj h
  have hlen : (seed ++ frame.data).length = seed.length + frame.data.length :=
    List.length_append
  have hseeds : info.hasIdr = true → SeedsDecoder .h264 (nalUnits (seed ++ frame.data)) ∧
      (SetsFirst (seed ++ frame.data) ∨ seed ++ frame.data = frame.data) := by
    intro hidr
    unfold NativeCameraH264Stream.seedBytes at hseed
    split at hseed
    · split at hseed
      · rename_i sps pps hsps hpps
        obtain rfl := Option.some.inj hseed
        have hspsSet := hform.sps sps hsps
        have hppsSet := hform.pps pps hpps
        exact ⟨seeds_seed hspsSet hppsSet hcode (hmet.idr.mp hidr),
          .inl (setsFirst_seed hspsSet hppsSet hcode)⟩
      · cases hseed
    · rename_i hown
      obtain rfl := Option.some.inj hseed
      have hready : info.canSeedDecoder = true := by
        by_contra hnot
        exact hown ⟨hidr, hnot⟩
      exact ⟨hmet.sets.seed hready, .inr rfl⟩
  refine ⟨⟨seed ++ frame.data, frame.timestampUs, frame.sequence, info.hasIdr⟩,
    ⟨rfl, rfl, ⟨seed, rfl⟩, hmet.idr, fun hidr => (hseeds hidr).1,
      fun hidr => (hseeds hidr).2⟩, rfl, Nat.lt_of_not_le hcount, ?_, ?_⟩
  · show (seed ++ frame.data).length ≤ _
    rw [hlen]
    exact Nat.le_of_not_lt hbytes
  · rw [hlen]

/-- A wait swallows the buffer. The gate, if open, has let no slice pass unseen. -/
theorem wait_formed (hform : Formed stream) (h : stream.wait = (stream', result))
    (hslice : stream.seeded = true → ¬BearsSlice frame.data) :
    Formed stream' ∧ (∃ n, stream' = { stream with waitingAus := n }) ∧
      (stream.seeded = true → ¬BearsSlice frame.data) ∧
      (result = .waiting ∧ stream'.waitingAus = stream.waitingAus + 1 ∨
        result = .sampleError) := by
  obtain ⟨⟨n, hn, rfl⟩, hresult⟩ := wait_spec h
  exact ⟨⟨hform.sps, hform.pps, hform.seeded, hn⟩, ⟨n, rfl⟩, hslice, hresult⟩

/-- Behind the scan a buffer is swallowed, queued, or ends the capture. -/
theorem route_spec (hform : Formed stream) (hmet : H264Met (nalUnits frame.data) info)
    (hstarts : startsWithStartCode frame.data = true)
    (hsps : info.hasSps = true → stream.sps ≠ none)
    (hpps : info.hasPps = true → stream.pps ≠ none)
    (h : stream.route frame info memory = (stream', result)) :
    (result = .recover ∧ stream' = {}) ∨
      (Formed stream' ∧ (∃ n, stream' = { stream with waitingAus := n }) ∧
        (stream.seeded = true → ¬BearsSlice frame.data) ∧
        (result = .waiting ∧ stream'.waitingAus = stream.waitingAus + 1 ∨
          result = .sampleError)) ∨
      (Formed stream' ∧ result = .queued ∧ ∃ au, Carries au frame ∧
        stream.fifo.count < cameraH264FifoAus ∧
        au.data.length ≤ cameraH264FifoBytes - stream.bytes ∧
        (au.isIdr = true ∨ stream.seeded = true) ∧
        ∃ seeded, stream' = { stream with
          fifo := stream.fifo.push au
          bytes := stream.bytes + au.data.length
          seeded := seeded
          waitingAus := 0 }) := by
  unfold NativeCameraH264Stream.route at h
  split at h
  · rename_i hvcl
    exact .inr (.inl (wait_formed hform h fun _ hslice => hvcl (hmet.vcl.mpr hslice)))
  split at h
  · rename_i hclosed
    exact .inr (.inl (wait_formed hform h fun hopen => (hclosed.1 hopen).elim))
  rename_i hgate
  split at h
  · rename_i hmissing
    refine .inr (.inl (wait_formed hform h fun hopen => ?_))
    obtain ⟨hs, hp⟩ := hform.seeded hopen
    exact (hmissing.2.2.elim hs hp).elim
  rename_i hsets
  split at h
  · obtain ⟨rfl, rfl⟩ := Prod.mk.inj h
    exact .inl ⟨rfl, rfl⟩
  · rename_i next hqueue
    obtain ⟨rfl, rfl⟩ := Prod.mk.inj h
    obtain ⟨au, hcarries, hidr, hroom, hfits, rfl⟩ := queue_spec hform hmet hstarts hqueue
    refine .inr (.inr ⟨⟨hform.sps, hform.pps, fun hopen => ?_,
      (by decide : 0 < cameraH264WaitAus)⟩, rfl, au, hcarries, hroom, hfits, ?_, _, rfl⟩)
    · show stream.sps ≠ none ∧ stream.pps ≠ none
      by_cases hflag : info.hasIdr = true
      · cases hready : info.canSeedDecoder with
        | true =>
          obtain ⟨hs, hp⟩ := hmet.ready hready
          exact ⟨hsps hs, hpps hp⟩
        | false =>
          have hboth : ¬(stream.sps = none ∨ stream.pps = none) := fun hnone =>
            hsets ⟨hflag, by rw [hready]; exact Bool.false_ne_true, hnone⟩
          exact not_or.mp hboth
      · have hseeded : stream.seeded = true := by
          simpa [hflag] using hopen
        exact hform.seeded hseeded
    · rw [hidr]
      by_contra hnot
      obtain ⟨hflag, hseeded⟩ := not_or.mp hnot
      exact hgate ⟨hseeded, hflag⟩

/-- **One ingest.** The buffer ends the capture, is swallowed, or is queued. -/
theorem ingest_spec (hform : Formed stream)
    (h : stream.ingest frame memory = (stream', result)) :
    Formed stream' ∧
      ((result = .recover ∧ stream' = {}) ∨
        (Swallowed stream frame stream' ∧
          (result = .waiting ∧ stream.waitingAus < stream'.waitingAus ∨
            result = .sampleError)) ∨
        (result = .queued ∧ ∃ au, Queued stream frame au stream')) := by
  have hrecover (heq : stream.recover = (stream', result)) :
      Formed stream' ∧ result = .recover ∧ stream' = {} := by
    obtain ⟨rfl, rfl⟩ := Prod.mk.inj heq
    exact ⟨Formed.empty, rfl, rfl⟩
  unfold NativeCameraH264Stream.ingest at h
  split at h
  · exact ⟨(hrecover h).1, .inl (hrecover h).2⟩
  split at h
  · exact ⟨(hrecover h).1, .inl (hrecover h).2⟩
  simp only at h
  split at h
  · exact ⟨(hrecover h).1, .inl (hrecover h).2⟩
  rename_i info hscan
  obtain ⟨hmet, hstarts⟩ := nativeH264ScanAnnexb_met hscan
  split at h
  · exact ⟨(hrecover h).1, .inl (hrecover h).2⟩
  rename_i hcode
  split at h
  · exact ⟨(hrecover h).1, .inl (hrecover h).2⟩
  rename_i cached hcached
  obtain ⟨hfifo, hbytes, hhave, hlast⟩ := checkSequence_same stream frame.sequence
  have hcount := le_waiting_checkSequence hform frame.sequence
  obtain ⟨hformed, ⟨sps, pps, rfl⟩, hsps, hpps⟩ :=
    cacheParameterSets_spec (hform.checkSequence frame.sequence) hmet hcached
  rw [Bool.not_eq_true, Bool.not_eq_false, hstarts] at hcode
  rcases route_spec hformed hmet hcode hsps hpps h with
    hend | ⟨hkept, ⟨n, rfl⟩, hslice, hresult⟩
      | ⟨hkept, hqueued, au, hcarries, hroom, hfits, hgate, seeded, rfl⟩
  · rw [hend.1, hend.2]
    exact ⟨Formed.empty, .inl ⟨rfl, rfl⟩⟩
  · refine ⟨hkept, .inr (.inl ⟨⟨hfifo, hbytes, checkSequence_seeded, hslice, hhave, hlast⟩, ?_⟩)⟩
    refine hresult.imp_left fun hwait => ⟨hwait.1, ?_⟩
    have hnext : n = (stream.checkSequence frame.sequence).waitingAus + 1 := hwait.2
    show stream.waitingAus < n
    omega
  · refine ⟨hkept, .inr (.inr ⟨hqueued, au, ?_⟩)⟩
    have hroom' : stream.fifo.count < cameraH264FifoAus := hfifo ▸ hroom
    have hfits' : au.data.length ≤ cameraH264FifoBytes - stream.bytes := hbytes ▸ hfits
    exact {
      room := hroom'
      fits := hfits'
      fifo := congrArg (Ring.push · au) hfifo
      bytes := congrArg (· + au.data.length) hbytes
      gate := hgate.imp_right checkSequence_seeded
      carries := hcarries
      sequence := ⟨hhave, hlast⟩ }

/-! ## The gate over a capture -/

/-- A buffer with the answer to its ingest. -/
abbrev Ingested := NativeCameraFrame × NativeCameraH264IngestResult

/-- The buffers that were queued, oldest first. -/
def accepted (buffers : List Ingested) : List NativeCameraFrame :=
  buffers.filterMap fun x => if x.2 = .queued then some x.1 else none

def Skipped (mid : List Ingested) : Prop := ∀ x ∈ mid, x.2 ≠ .queued

/-- V4L2 numbered the buffers one after the other. -/
def Unbroken (frames : List NativeCameraFrame) : Prop :=
  frames.IsChain fun frame next => next.sequence = frame.sequence + 1

/-- No buffer was dropped before `next`, and no slice among the swallowed ones. -/
def Continues (frame : NativeCameraFrame) (mid : List Ingested) (next : NativeCameraFrame) : Prop :=
  Unbroken (frame :: mid.map Prod.fst ++ [next]) ∧ ∀ x ∈ mid, ¬BearsSlice x.1.data

/-- What the gate guarantees of the buffers since the capture began. -/
structure Gated (buffers : List Ingested) (stream : NativeCameraH264Stream) : Prop where
  first : ∀ frame, (accepted buffers).head? = some frame →
    HasType .h264 (nalUnits frame.data) 5
  linked : ∀ pre frame mid next post,
    buffers = (pre ++ (frame, .queued) :: mid) ++ (next, .queued) :: post → Skipped mid →
      HasType .h264 (nalUnits next.data) 5 ∨ Continues frame mid next
  seeded : stream.seeded = true → accepted buffers ≠ []
  open' : stream.seeded = true → ∀ pre frame mid,
    buffers = pre ++ (frame, .queued) :: mid → Skipped mid →
      Unbroken (frame :: mid.map Prod.fst) ∧ ∀ x ∈ mid, ¬BearsSlice x.1.data
  last : ∀ x, buffers.getLast? = some x →
    stream.haveSequence = true ∧ stream.lastSequence = x.1.sequence

variable {buffers : List Ingested} {au : NativeCameraOwnedAu}

theorem accepted_snoc (x : Ingested) :
    accepted (buffers ++ [x]) = accepted buffers ++ if x.2 = .queued then [x.1] else [] := by
  unfold accepted
  rw [List.filterMap_append]
  congr 1
  by_cases h : x.2 = .queued
  · simp [h]
  · simp [h]

/-- An element of a list with one more at its end is that one, or an earlier one. -/
theorem snoc_split {α : Type*} {l pre mid : List α} {x y : α} (h : l ++ [x] = pre ++ y :: mid) :
    (mid = [] ∧ y = x ∧ l = pre) ∨ ∃ mid', mid = mid' ++ [x] ∧ l = pre ++ y :: mid' := by
  rcases List.eq_nil_or_concat' mid with rfl | ⟨mid', z, rfl⟩
  · obtain ⟨hl, hx⟩ := List.append_inj' h rfl
    exact .inl ⟨rfl, (List.cons.inj hx).1.symm, hl⟩
  · rw [← List.cons_append, ← List.append_assoc] at h
    obtain ⟨hl, hx⟩ := List.append_inj' h rfl
    obtain rfl := List.singleton_inj.mp hx
    exact .inr ⟨mid', rfl, hl⟩

theorem Gated.empty : Gated [] {} where
  first frame h := by cases h
  linked pre frame mid next post h := by simp at h
  seeded h := by cases h
  open' h := by cases h
  last x h := by cases h

/-- The numbers go on with a buffer that V4L2 numbers next. -/
theorem Gated.extend (h : Gated buffers stream) {pre mid : List Ingested}
    {first : NativeCameraFrame} (hsplit : buffers = pre ++ (first, .queued) :: mid)
    (hfollows : Follows stream frame) (hchain : Unbroken (first :: mid.map Prod.fst)) :
    Unbroken (first :: mid.map Prod.fst ++ [frame]) := by
  have hmap : first :: mid.map Prod.fst = ((first, .queued) :: mid : List Ingested).map Prod.fst :=
    rfl
  refine List.isChain_append.mpr ⟨hchain, List.isChain_singleton _, ?_⟩
  intro a ha b hb
  obtain rfl : frame = b := Option.some.inj hb
  rw [hmap, List.getLast?_map] at ha
  obtain ⟨x, hx, rfl⟩ := Option.map_eq_some_iff.mp ha
  have hlast : buffers.getLast? = some x := by
    rw [hsplit, List.getLast?_append, hx]
    rfl
  obtain ⟨hhave, hnumber⟩ := h.last x hlast
  rw [hfollows hhave, hnumber]

theorem Gated.swallowed (h : Gated buffers stream) (hs : Swallowed stream frame stream')
    (hresult : result ≠ .queued) : Gated (buffers ++ [(frame, result)]) stream' := by
  have hsame : accepted (buffers ++ [(frame, result)]) = accepted buffers := by
    rw [accepted_snoc, if_neg hresult, List.append_nil]
  refine ⟨?_, ?_, ?_, ?_, ?_⟩
  · rw [hsame]
    exact h.first
  · intro pre first mid next post hsplit hmid
    rcases snoc_split hsplit with ⟨-, hlast, -⟩ | ⟨post', -, hsplit'⟩
    · exact (hresult (congrArg Prod.snd hlast).symm).elim
    · exact h.linked pre first mid next post' hsplit' hmid
  · intro hopen
    rw [hsame]
    exact h.seeded (hs.gate hopen).1
  · intro hopen pre first mid hsplit hmid
    obtain ⟨hseeded, hfollows⟩ := hs.gate hopen
    rcases snoc_split hsplit with ⟨-, hlast, -⟩ | ⟨mid', rfl, hsplit'⟩
    · exact (hresult (congrArg Prod.snd hlast).symm).elim
    · have hmid' : Skipped mid' := fun x hx => hmid x (List.mem_append_left _ hx)
      obtain ⟨hchain, hslices⟩ := h.open' hseeded pre first mid' hsplit' hmid'
      refine ⟨?_, ?_⟩
      · rw [List.map_append]
        exact h.extend hsplit' hfollows hchain
      · intro x hx
        rcases List.mem_append.mp hx with hx | hx
        · exact hslices x hx
        · obtain rfl := List.mem_singleton.mp hx
          exact hs.skipped hopen
  · intro x hx
    rw [List.getLast?_concat] at hx
    obtain rfl := Option.some.inj hx
    exact hs.sequence

theorem Gated.queued (h : Gated buffers stream) (hq : Queued stream frame au stream') :
    Gated (buffers ++ [(frame, .queued)]) stream' := by
  have hmore : accepted (buffers ++ [(frame, .queued)]) = accepted buffers ++ [frame] := by
    rw [accepted_snoc, if_pos rfl]
  refine ⟨?_, ?_, ?_, ?_, ?_⟩
  · intro first hfirst
    rw [hmore] at hfirst
    cases hold : accepted buffers with
    | cons head rest =>
      rw [hold] at hfirst
      exact h.first first (hold ▸ hfirst)
    | nil =>
      rw [hold] at hfirst
      obtain rfl : frame = first := Option.some.inj hfirst
      rcases hq.gate with hidr | ⟨hopen, -⟩
      · exact hq.carries.isIdr.mp hidr
      · exact (h.seeded hopen hold).elim
  · intro pre first mid next post hsplit hmid
    rcases snoc_split hsplit with ⟨-, hlast, hsplit'⟩ | ⟨post', -, hsplit'⟩
    · obtain rfl : next = frame := congrArg Prod.fst hlast
      rcases hq.gate with hidr | ⟨hopen, hfollows⟩
      · exact .inl (hq.carries.isIdr.mp hidr)
      · obtain ⟨hchain, hslices⟩ := h.open' hopen pre first mid hsplit' hmid
        exact .inr ⟨h.extend hsplit' hfollows hchain, hslices⟩
    · exact h.linked pre first mid next post' hsplit' hmid
  · intro _
    rw [hmore]
    exact List.append_ne_nil_of_right_ne_nil _ (List.cons_ne_nil _ _)
  · intro _ pre first mid hsplit hmid
    rcases snoc_split hsplit with ⟨rfl, hlast, -⟩ | ⟨mid', rfl, -⟩
    · exact ⟨List.isChain_singleton _, fun x hx => by cases hx⟩
    · exact (hmid _ (List.mem_append_right _ (List.mem_singleton_self _)) rfl).elim
  · intro x hx
    rw [List.getLast?_concat] at hx
    obtain rfl := Option.some.inj hx
    exact hq.sequence

/-! ## The queue over a run -/

abbrev StreamRecord := List (StreamCall × StreamReply)

/-- The buffers that a record brought, with the answers. -/
def ingests (rec : StreamRecord) : List Ingested :=
  rec.filterMap fun x =>
    match x with
    | (.ingest frame _, .ingested result) => some (frame, result)
    | _ => none

/-- The packets that left, oldest first. -/
def packets (rec : StreamRecord) : List NativeCameraOwnedAu :=
  rec.filterMap fun x =>
    match x with
    | (.pop, .popped packet) => packet
    | _ => none

/-- A recovery or a reset. -/
def Restarts (x : StreamCall × StreamReply) : Prop := x.2 = .done ∨ x.2 = .ingested .recover

instance : DecidablePred Restarts := fun x =>
  inferInstanceAs (Decidable (x.2 = .done ∨ x.2 = .ingested .recover))

/-- The bytes of the packets. -/
def totalBytes (queue : List NativeCameraOwnedAu) : Nat :=
  (queue.map fun au => au.data.length).sum

/-- The FIFO holds the packets, and the byte counter counts them. -/
structure Stored (stream : NativeCameraH264Stream) (queue : List NativeCameraOwnedAu) : Prop where
  fifo : stream.fifo.Holds queue
  bytes : stream.bytes = totalBytes queue
  bounded : stream.bytes ≤ cameraH264FifoBytes

variable {queue : List NativeCameraOwnedAu} {rec : StreamRecord} {call : StreamCall}
  {reply : StreamReply}

theorem Stored.empty : Stored {} [] where
  fifo := Ring.holds_empty (by decide)
  bytes := rfl
  bounded := Nat.zero_le _

theorem Stored.swallowed (h : Stored stream queue) (hs : Swallowed stream frame stream') :
    Stored stream' queue := by
  refine ⟨?_, ?_, ?_⟩
  · rw [hs.fifo]
    exact h.fifo
  · rw [hs.bytes]
    exact h.bytes
  · rw [hs.bytes]
    exact h.bounded

theorem Stored.queued (h : Stored stream queue) (hq : Queued stream frame au stream') :
    Stored stream' (queue ++ [au]) := by
  refine ⟨?_, ?_, ?_⟩
  · rw [hq.fifo]
    exact h.fifo.push hq.room
  · rw [hq.bytes, h.bytes]
    simp only [totalBytes, List.map_append, List.sum_append, List.map_cons, List.map_nil,
      List.sum_cons, List.sum_nil, Nat.add_zero]
  · have hfits := hq.fits
    have hbounded := h.bounded
    rw [hq.bytes]
    omega

/-- A pop takes the head of the queue, if there is one. -/
theorem Stored.pop (h : Stored stream queue) :
    stream.peek = queue.head? ∧ Stored stream.pop queue.tail ∧
      ∃ fifo bytes, stream.pop = { stream with fifo := fifo, bytes := bytes } := by
  have hpeek : stream.peek = queue.head? := h.fifo.peek_eq
  have hcount := h.fifo.count_eq
  refine ⟨hpeek, ?_⟩
  unfold NativeCameraH264Stream.pop
  cases queue with
  | nil =>
    have hempty : stream.fifo.count = 0 := hcount
    rw [if_pos hempty]
    exact ⟨h, _, _, rfl⟩
  | cons head rest =>
    rw [List.length_cons] at hcount
    have htotal : totalBytes (head :: rest) = head.data.length + totalBytes rest := rfl
    have hbytes := h.bytes
    have hbounded := h.bounded
    rw [if_neg (by omega), hpeek]
    refine ⟨⟨h.fifo.pop, ?_, ?_⟩, _, _, rfl⟩
    · show stream.bytes - head.data.length = totalBytes rest
      omega
    · show stream.bytes - head.data.length ≤ cameraH264FifoBytes
      omega

/-- The answer of an ingest is its result. -/
theorem step_ingest
    (h : cameraH264Stream.step stream (.ingest frame memory) = some (stream', reply)) :
    ∃ result, stream.ingest frame memory = (stream', result) ∧ reply = .ingested result := by
  have hpair : ((stream.ingest frame memory).1, StreamReply.ingested
      (stream.ingest frame memory).2) = (stream', reply) := Option.some.inj h
  obtain ⟨hstate, hreply⟩ := Prod.mk.inj hpair
  exact ⟨_, Prod.ext hstate rfl, hreply.symm⟩

/-- **One call.** It starts the capture anew, swallows a buffer, queues one, or takes a
packet. -/
theorem step_spec (hform : Formed stream) (hstored : Stored stream queue)
    (h : cameraH264Stream.step stream call = some (stream', reply)) :
    Formed stream' ∧
      ((Restarts (call, reply) ∧ stream' = {}) ∨
        (∃ frame memory result, call = .ingest frame memory ∧ reply = .ingested result ∧
          result ≠ .queued ∧ Swallowed stream frame stream' ∧ Stored stream' queue) ∨
        (∃ frame memory au, call = .ingest frame memory ∧ reply = .ingested .queued ∧
          Queued stream frame au stream' ∧ Stored stream' (queue ++ [au])) ∨
        (call = .pop ∧ reply = .popped queue.head? ∧ Stored stream' queue.tail ∧
          ∃ fifo bytes, stream' = { stream with fifo := fifo, bytes := bytes })) := by
  cases call with
  | reset =>
    obtain ⟨rfl, rfl⟩ := Prod.mk.inj (Option.some.inj h)
    exact ⟨Formed.empty, .inl ⟨.inl rfl, rfl⟩⟩
  | pop =>
    obtain ⟨rfl, rfl⟩ := Prod.mk.inj (Option.some.inj h)
    obtain ⟨hpeek, hpopped, fifo, bytes, heq⟩ := hstored.pop
    rw [hpeek]
    refine ⟨?_, .inr (.inr (.inr ⟨rfl, rfl, hpopped, fifo, bytes, heq⟩))⟩
    rw [heq]
    exact ⟨hform.sps, hform.pps, hform.seeded, hform.waiting⟩
  | ingest frame memory =>
    obtain ⟨result, hingest, rfl⟩ := step_ingest h
    obtain ⟨hformed, ⟨rfl, hempty⟩ | ⟨hswallowed, hresult⟩ | ⟨rfl, au, hau⟩⟩ :=
      ingest_spec hform hingest
    · exact ⟨hformed, .inl ⟨.inr rfl, hempty⟩⟩
    · refine ⟨hformed, .inr (.inl ⟨frame, memory, result, rfl, rfl, ?_, hswallowed,
        hstored.swallowed hswallowed⟩)⟩
      rcases hresult with ⟨rfl, -⟩ | rfl
      · exact fun hne => by cases hne
      · exact fun hne => by cases hne
    · exact ⟨hformed, .inr (.inr (.inl ⟨frame, memory, au, rfl, rfl, hau,
        hstored.queued hau⟩))⟩

section Snoc

variable {packet : Option NativeCameraOwnedAu}

theorem ingests_ingest : ingests (rec ++ [(.ingest frame memory, .ingested result)])
    = ingests rec ++ [(frame, result)] := by
  simp only [ingests, List.filterMap_append, List.filterMap_cons, List.filterMap_nil]

theorem ingests_pop : ingests (rec ++ [(.pop, .popped packet)]) = ingests rec := by
  simp only [ingests, List.filterMap_append, List.filterMap_cons, List.filterMap_nil,
    List.append_nil]

theorem packets_ingest : packets (rec ++ [(.ingest frame memory, .ingested result)])
    = packets rec := by
  simp only [packets, List.filterMap_append, List.filterMap_cons, List.filterMap_nil,
    List.append_nil]

/-- A pop moves the head of the queue to the packets that left. -/
theorem packets_pop : packets (rec ++ [(.pop, .popped queue.head?)]) ++ queue.tail
    = packets rec ++ queue := by
  cases queue with
  | nil => simp [packets]
  | cons head rest => simp [packets]

theorem packets_restart (h : Restarts (call, reply)) :
    packets (rec ++ [(call, reply)]) = packets rec := by
  rcases h with rfl | rfl
  · cases call <;> simp [packets]
  · cases call <;> simp [packets]

theorem mem_ingests_append {x : Ingested} {more : StreamRecord} (h : x ∈ ingests rec) :
    x ∈ ingests (rec ++ more) := by
  simp only [ingests, List.filterMap_append]
  exact List.mem_append_left _ h

end Snoc

/-- What holds since the last restart. -/
structure Streamed (rec : StreamRecord) (stream : NativeCameraH264Stream) : Prop where
  formed : Formed stream
  gated : Gated (ingests rec) stream
  stored : ∃ queue, Stored stream queue ∧
    List.Forall₂ Carries (packets rec ++ queue) (accepted (ingests rec))

/-- The calls of one capture, step by step. -/
theorem Streamed.step (h : Streamed rec stream)
    (hstep : cameraH264Stream.step stream call = some (stream', reply))
    (hlive : ¬Restarts (call, reply)) : Streamed (rec ++ [(call, reply)]) stream' := by
  obtain ⟨queue, hstored, hcarried⟩ := h.stored
  obtain ⟨hformed, ⟨hrestart, -⟩ | ⟨frame, memory, result, rfl, rfl, hresult, hs, hstored'⟩
    | ⟨frame, memory, au, rfl, rfl, hq, hstored'⟩ | ⟨rfl, rfl, hstored', fifo, bytes, rfl⟩⟩ :=
      step_spec h.formed hstored hstep
  · exact (hlive hrestart).elim
  · refine ⟨hformed, ?_, queue, hstored', ?_⟩
    · rw [ingests_ingest]
      exact h.gated.swallowed hs hresult
    · rw [packets_ingest, ingests_ingest, accepted_snoc, if_neg hresult, List.append_nil]
      exact hcarried
  · refine ⟨hformed, ?_, queue ++ [au], hstored', ?_⟩
    · rw [ingests_ingest]
      exact h.gated.queued hq
    · rw [packets_ingest, ingests_ingest, accepted_snoc, if_pos rfl, ← List.append_assoc]
      exact List.rel_append hcarried (.cons hq.carries .nil)
  · refine ⟨hformed, ?_, queue.tail, hstored', ?_⟩
    · rw [ingests_pop]
      exact ⟨h.gated.first, h.gated.linked, h.gated.seeded, h.gated.open', h.gated.last⟩
    · rw [packets_pop, ingests_pop]
      exact hcarried

/-- A whole capture. -/
theorem streamed_of_path {epoch : StreamRecord} (h : cameraH264Stream.Path {} epoch stream)
    (hlive : ∀ x ∈ epoch, ¬Restarts x) : Streamed epoch stream := by
  have hinv := h.history (I := fun rec s => (∀ x ∈ rec, ¬Restarts x) → Streamed rec s)
    (fun _ => ⟨Formed.empty, Gated.empty, [], Stored.empty, .nil⟩) ?_
  · exact hinv hlive
  · intro rec s call t reply ih hstep hrec
    exact (ih fun x hx => hrec x (List.mem_append_left _ hx)).step hstep
      (hrec _ (List.mem_append_right _ (List.mem_singleton_self _)))

/-- A restart leaves a fresh stream. -/
theorem restart_empty (hform : Formed stream)
    (h : cameraH264Stream.step stream call = some (stream', reply))
    (hrestart : Restarts (call, reply)) : stream' = {} := by
  cases call with
  | reset =>
    obtain ⟨rfl, rfl⟩ := Prod.mk.inj (Option.some.inj h)
    rfl
  | pop =>
    obtain ⟨rfl, rfl⟩ := Prod.mk.inj (Option.some.inj h)
    rcases hrestart with h' | h' <;> cases h'
  | ingest frame memory =>
    obtain ⟨result, hingest, rfl⟩ := step_ingest h
    obtain ⟨-, ⟨-, hempty⟩ | ⟨-, ⟨rfl, -⟩ | rfl⟩ | ⟨rfl, -⟩⟩ := ingest_spec hform hingest
    · exact hempty
    all_goals rcases hrestart with h' | h' <;> cases h'

/-- What holds over all captures: every packet carries a buffer that was queued. -/
structure Loaded (rec : StreamRecord) (stream : NativeCameraH264Stream) : Prop where
  formed : Formed stream
  stored : ∃ queue, Stored stream queue ∧ ∀ au ∈ packets rec ++ queue,
    ∃ frame, (frame, .queued) ∈ ingests rec ∧ Carries au frame

theorem loaded_of_run (h : cameraH264Stream.Run rec stream) : Loaded rec stream := by
  refine h.history (I := Loaded) ⟨Formed.empty, [], Stored.empty, by simp [packets]⟩ ?_
  intro rec s call t reply ih hstep
  obtain ⟨queue, hstored, hcarried⟩ := ih.stored
  obtain ⟨hformed, ⟨hrestart, rfl⟩ | ⟨frame, memory, result, rfl, rfl, -, -, hstored'⟩
    | ⟨frame, memory, au, rfl, rfl, hq, hstored'⟩ | ⟨rfl, rfl, hstored', -⟩⟩ :=
      step_spec ih.formed hstored hstep
  · refine ⟨hformed, [], Stored.empty, fun au hau => ?_⟩
    rw [packets_restart hrestart, List.append_nil] at hau
    obtain ⟨taken, hmem, hcarry⟩ := hcarried au (List.mem_append_left _ hau)
    exact ⟨taken, mem_ingests_append hmem, hcarry⟩
  · refine ⟨hformed, queue, hstored', ?_⟩
    rw [packets_ingest, ingests_ingest]
    intro au hau
    obtain ⟨taken, hmem, hcarry⟩ := hcarried au hau
    exact ⟨taken, List.mem_append_left _ hmem, hcarry⟩
  · refine ⟨hformed, queue ++ [au], hstored', ?_⟩
    rw [packets_ingest, ingests_ingest, ← List.append_assoc]
    intro packet hpacket
    rcases List.mem_append.mp hpacket with hold | hnew
    · obtain ⟨taken, hmem, hcarry⟩ := hcarried packet hold
      exact ⟨taken, List.mem_append_left _ hmem, hcarry⟩
    · obtain rfl := List.mem_singleton.mp hnew
      exact ⟨frame, List.mem_append_right _ (List.mem_singleton_self _), hq.carries⟩
  · refine ⟨hformed, queue.tail, hstored', ?_⟩
    rw [packets_pop, ingests_pop]
    exact hcarried

/-- A related list splits where the other does. -/
theorem forall₂_split {α β : Type*} {R : α → β → Prop} {l₁ l₂ : List α} {m : List β}
    (h : List.Forall₂ R (l₁ ++ l₂) m) :
    ∃ m₁ m₂, m = m₁ ++ m₂ ∧ List.Forall₂ R l₁ m₁ ∧ List.Forall₂ R l₂ m₂ := by
  induction l₁ generalizing m with
  | nil => exact ⟨[], m, rfl, .nil, h⟩
  | cons a l₁ ih =>
    rw [List.cons_append] at h
    cases h with
    | cons hab hrest =>
      obtain ⟨m₁, m₂, rfl, h₁, h₂⟩ := ih hrest
      exact ⟨_ :: m₁, m₂, rfl, .cons hab h₁, h₂⟩

/-- Two neighbours among the queued buffers, with the swallowed ones between them. -/
theorem accepted_neighbours {buffers : List Ingested} {before after : List NativeCameraFrame}
    {f g : NativeCameraFrame} (h : accepted buffers = before ++ f :: g :: after) :
    ∃ pre mid post, buffers = (pre ++ (f, .queued) :: mid) ++ (g, .queued) :: post ∧
      accepted pre = before ∧ Skipped mid := by
  have hkept {x : Ingested} {frame : NativeCameraFrame}
      (hx : (if x.2 = .queued then some x.1 else none) = some frame) : x = (frame, .queued) := by
    split at hx
    · rename_i hqueued
      obtain rfl := Option.some.inj hx
      exact Prod.ext rfl hqueued
    · cases hx
  obtain ⟨pre, rest, rfl, hbefore, hrest⟩ := List.filterMap_eq_append_iff.mp h
  obtain ⟨skipped, x, rest', rfl, hskipped, hx, hrest'⟩ := List.filterMap_eq_cons_iff.mp hrest
  obtain ⟨mid, y, post, rfl, hmid, hy, -⟩ := List.filterMap_eq_cons_iff.mp hrest'
  obtain rfl := hkept hx
  obtain rfl := hkept hy
  have hnone {x : Ingested} (hx : (if x.2 = .queued then some x.1 else none) = none) :
      x.2 ≠ .queued := by
    intro hqueued
    rw [if_pos hqueued] at hx
    cases hx
  refine ⟨pre ++ skipped, mid, post, by simp, ?_, fun x hx => hnone (hmid x hx)⟩
  have hempty : accepted skipped = [] := List.filterMap_eq_nil_iff.mpr hskipped
  show accepted (pre ++ skipped) = before
  rw [accepted, List.filterMap_append]
  show accepted pre ++ accepted skipped = before
  rw [hempty, List.append_nil]
  exact hbefore

/-- The waiting answers of a stretch are counted. -/
theorem waits_counted {stretch : StreamRecord} (hform : Formed stream)
    (h : cameraH264Stream.Path stream stretch stream')
    (hwaits : ∀ x ∈ stretch, x.2 = .ingested .waiting ∨ ∃ packet, x.2 = .popped packet) :
    Formed stream' ∧ stream.waitingAus + (ingests stretch).length ≤ stream'.waitingAus := by
  have hinv := h.history (I := fun rec s =>
    (∀ x ∈ rec, x.2 = .ingested .waiting ∨ ∃ packet, x.2 = .popped packet) →
      Formed s ∧ stream.waitingAus + (ingests rec).length ≤ s.waitingAus)
    (fun _ => ⟨hform, Nat.le_refl _⟩) ?_
  · exact hinv hwaits
  intro rec s call t reply ih hstep hrec
  obtain ⟨hs, hcount⟩ := ih fun x hx => hrec x (List.mem_append_left _ hx)
  have hreply : reply = .ingested .waiting ∨ ∃ packet, reply = .popped packet :=
    hrec _ (List.mem_append_right _ (List.mem_singleton_self _))
  cases call with
  | reset =>
    obtain ⟨rfl, rfl⟩ := Prod.mk.inj (Option.some.inj hstep)
    rcases hreply with h' | ⟨packet, h'⟩ <;> cases h'
  | pop =>
    obtain ⟨rfl, rfl⟩ := Prod.mk.inj (Option.some.inj hstep)
    have hsame : s.pop.waitingAus = s.waitingAus ∧ Formed s.pop := by
      unfold NativeCameraH264Stream.pop
      split
      · exact ⟨rfl, hs⟩
      · exact ⟨rfl, hs.sps, hs.pps, hs.seeded, hs.waiting⟩
    rw [ingests_pop, hsame.1]
    exact ⟨hsame.2, hcount⟩
  | ingest frame memory =>
    obtain ⟨result, hingest, rfl⟩ := step_ingest hstep
    rw [ingests_ingest, List.length_append, List.length_singleton]
    obtain ⟨hformed, ⟨rfl, -⟩ | ⟨-, ⟨-, hmore⟩ | rfl⟩ | ⟨rfl, -⟩⟩ := ingest_spec hs hingest
    · rcases hreply with h' | ⟨packet, h'⟩ <;> cases h'
    · exact ⟨hformed, by omega⟩
    · rcases hreply with h' | ⟨packet, h'⟩ <;> cases h'
    · rcases hreply with h' | ⟨packet, h'⟩ <;> cases h'

/-- The bytes of the packets do not depend on the order of their slots. -/
theorem totalBytes_perm {queue queue' : List NativeCameraOwnedAu} (h : queue.Perm queue') :
    totalBytes queue = totalBytes queue' :=
  (h.map _).sum_nat

/-- The states in which a capture begins. -/
def Begins (pre : StreamRecord) : Prop := ∀ x, pre.getLast? = some x → Restarts x

/-- A capture begins with a fresh stream. -/
theorem begins_empty {pre : StreamRecord} (h : cameraH264Stream.Run pre stream)
    (hbegins : Begins pre) : stream = {} := by
  cases h with
  | refl => rfl
  | snoc hbefore hstep =>
    exact restart_empty (loaded_of_run hbefore).formed hstep (hbegins _ List.getLast?_concat)

/-- The packets that left, by their neighbours. -/
theorem Streamed.chain {epoch : StreamRecord} (h : Streamed epoch stream) :
    (∀ packet, (packets epoch).head? = some packet → packet.isIdr = true) ∧
      ∀ before packet next after, packets epoch = before ++ packet :: next :: after →
        ∃ start frame mid frame' rest,
          ingests epoch = (start ++ (frame, .queued) :: mid) ++ (frame', .queued) :: rest ∧
          (accepted start).length = before.length ∧ Skipped mid ∧
          Carries packet frame ∧ Carries next frame' ∧
          (next.isIdr = true ∨ Continues frame mid frame') := by
  obtain ⟨queue, -, hcarried⟩ := h.stored
  constructor
  · intro packet hhead
    obtain ⟨rest, hpackets⟩ := List.head?_eq_some_iff.mp hhead
    rw [hpackets, List.cons_append] at hcarried
    generalize htaken : accepted (ingests epoch) = taken at hcarried
    cases hcarried with
    | cons hcarry hrest =>
      exact hcarry.isIdr.mpr (h.gated.first _ (by rw [htaken]; rfl))
  · intro before packet next after hpackets
    rw [hpackets, List.append_assoc] at hcarried
    obtain ⟨before', taken, htaken, hbefore, hcarried⟩ := forall₂_split hcarried
    generalize hall : taken = all at hcarried
    cases hcarried with
    | cons hcarry hrest =>
      cases hrest with
      | cons hcarry' hrest =>
        rw [hall] at htaken
        obtain ⟨start, mid, rest, hsplit, hstart, hmid⟩ := accepted_neighbours htaken
        refine ⟨start, _, mid, _, rest, hsplit, ?_, hmid, hcarry, hcarry', ?_⟩
        · rw [hstart, hbefore.length_eq]
        · exact (h.gated.linked _ _ _ _ _ hsplit hmid).imp_left hcarry'.isIdr.mpr

/-- **The packets of a capture continue one another.** The first is an IDR picture, and a
later one is an IDR picture too or follows its predecessor without a dropped buffer or a
swallowed slice. An IDR packet has both parameter sets in front of an IDR slice, and of
every one unless the captured buffer brought them. Count and bytes are those of the packets
in the FIFO, and less than the wait bound of waiting answers come in a row. -/
theorem camera_stream_chain (h : cameraH264Stream.Run rec stream) :
    (∀ pre epoch post, rec = pre ++ epoch ++ post → Begins pre → (∀ x ∈ epoch, ¬Restarts x) →
      (∀ packet, (packets epoch).head? = some packet → packet.isIdr = true) ∧
      ∀ before packet next after, packets epoch = before ++ packet :: next :: after →
        ∃ start frame mid frame' rest,
          ingests epoch = (start ++ (frame, .queued) :: mid) ++ (frame', .queued) :: rest ∧
          (accepted start).length = before.length ∧ Skipped mid ∧
          Carries packet frame ∧ Carries next frame' ∧
          (next.isIdr = true ∨ Continues frame mid frame')) ∧
    (∀ packet ∈ packets rec, packet.isIdr = true →
      SeedsDecoder .h264 (nalUnits packet.data) ∧
      (SetsFirst packet.data ∨ ∃ x ∈ ingests rec, packet.data = x.1.data)) ∧
    stream.fifo.count = stream.fifo.occupied.length ∧
    stream.bytes = totalBytes stream.fifo.occupied ∧
    stream.fifo.count ≤ cameraH264FifoAus ∧ stream.bytes ≤ cameraH264FifoBytes ∧
    (∀ pre stretch post, rec = pre ++ stretch ++ post →
      (∀ x ∈ stretch, x.2 = .ingested .waiting ∨ ∃ packet, x.2 = .popped packet) →
      (ingests stretch).length < cameraH264WaitAus) := by
  obtain ⟨-, queue, hstored, hcarried⟩ := loaded_of_run h
  have hperm := hstored.fifo.occupied_perm
  refine ⟨?_, ?_, ?_, ?_, hstored.fifo.count_le, hstored.bounded, ?_⟩
  · rintro pre epoch post rfl hbegins hlive
    obtain ⟨end', hpath, -⟩ := h.split
    obtain ⟨start, hstart, hepoch⟩ := hpath.split
    rw [begins_empty hstart hbegins] at hepoch
    exact (streamed_of_path hepoch hlive).chain
  · intro packet hmem hidr
    obtain ⟨frame, hframe, hcarry⟩ := hcarried packet (List.mem_append_left _ hmem)
    exact ⟨hcarry.seeds hidr,
      (hcarry.setsFirst hidr).imp_right fun heq => ⟨(frame, .queued), hframe, heq⟩⟩
  · rw [hstored.fifo.count_eq, hperm.length_eq]
  · rw [hstored.bytes, totalBytes_perm hperm]
  · rintro pre stretch post rfl hwaits
    obtain ⟨end', hpre, -⟩ := h.split
    obtain ⟨start, hstart, hstretch⟩ := hpre.split
    obtain ⟨hformed, hcount⟩ := waits_counted (loaded_of_run hstart).formed hstretch hwaits
    have hbound := hformed.waiting
    omega

/-- Both sets, an IDR slice and a picture after it; a lost buffer before the last one. -/
def captured : List StreamCall :=
  [.ingest { data := [0, 0, 1, 0x67, 0, 0, 1, 0x68], sequence := 4 } {},
    .ingest { data := [0, 0, 1, 0x65], sequence := 5 } {},
    .ingest { data := [0, 0, 0, 1, 0x41], sequence := 6 } {}, .pop, .pop,
    .ingest { data := [0, 0, 1, 0x41], sequence := 8 } {}]

theorem captured_accepted : (cameraH264Stream.exec cameraH264Stream.init captured).isSome := by
  decide +kernel

theorem camera_stream_chain_captured : ∃ rec stream packet next frame mid frame',
    cameraH264Stream.Run rec stream ∧ packets rec = [packet, next] ∧ packet.isIdr = true ∧
    SeedsDecoder .h264 (nalUnits packet.data) ∧ Carries next frame' ∧ Continues frame mid frame' ∧
    stream.fifo.count = stream.fifo.occupied.length := by
  have hrun := Machine.run_of_exec captured captured_accepted
  obtain ⟨hepochs, hseeds, hcount, -⟩ := camera_stream_chain hrun
  obtain ⟨hfirst, hnext⟩ := hepochs [] ((cameraH264Stream.exec _ captured).get captured_accepted).2
    [] (by rw [List.nil_append, List.append_nil]) (fun x hx => by cases hx) (by decide +kernel)
  have hidr := hfirst
    ⟨[0, 0, 0, 1, 0x67, 0, 0, 0, 1, 0x68, 0, 0, 1, 0x65], 0, 5, true⟩ (by decide +kernel)
  obtain ⟨start, frame, mid, frame', rest, -, -, -, -, hcarries, hchain⟩ := hnext []
    ⟨[0, 0, 0, 1, 0x67, 0, 0, 0, 1, 0x68, 0, 0, 1, 0x65], 0, 5, true⟩
    ⟨[0, 0, 0, 1, 0x41], 0, 6, false⟩ [] (by decide +kernel)
  exact ⟨_, _, _, _, frame, mid, frame', hrun, by decide +kernel, hidr,
    (hseeds _ (by decide +kernel) hidr).1, hcarries, hchain.resolve_left (by decide), hcount⟩

/-- An access unit of two slices that carries its sets between them. -/
def setsBetween : List StreamCall :=
  [.ingest { data := [0, 0, 1, 0x65, 0, 0, 1, 0x67, 0, 0, 1, 0x68, 0, 0, 1, 0x65] } {}, .pop]

theorem setsBetween_accepted :
    (cameraH264Stream.exec cameraH264Stream.init setsBetween).isSome := by
  decide +kernel

/-- The first slice of the packet has no parameter set in front of it. -/
theorem slice_before_sets : ∃ rec stream packet before key after,
    cameraH264Stream.Run rec stream ∧ packet ∈ packets rec ∧ packet.isIdr = true ∧
      nalUnits packet.data = before ++ key :: after ∧ restartPicture .h264 key ∧
      ¬HasParameterSets .h264 before := by
  refine ⟨_, _, ⟨[0, 0, 1, 0x65, 0, 0, 1, 0x67, 0, 0, 1, 0x68, 0, 0, 1, 0x65], 0, 0, true⟩, [],
    [0x65], [[0x67], [0x68], [0x65]], Machine.run_of_exec setsBetween setsBetween_accepted,
    by decide +kernel, rfl, by decide +kernel, rfl, ?_⟩
  rintro ⟨⟨nal, hmem, -⟩, -⟩
  cases hmem

end Lgnome.Capture
