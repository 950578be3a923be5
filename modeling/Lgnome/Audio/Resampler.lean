import Lgnome.Audio.InputPcm
import Mathlib.Data.List.GetD
import Mathlib.Data.Nat.ModEq

/-!
# What the microphone resampler emits

Output `k` lies at position `k * rate / 44100` of the input and is interpolated between the
frames on its two sides. The loop invariant says that the frames emitted so far are the
outputs up to the current input frame, and that the next one is ahead of the frame before;
so the phase is never more than one input frame, and the counters do not wrap.
-/
namespace Lgnome.Audio.InputPcm

open Lgnome.Transition (While)

/-! ## The outputs as the input defines them -/

/-- The interpolation between two neighbours, `r / 44100` of the way, truncated. -/
def interpolated (x y : Int16) (r : Nat) : Int :=
  (x.toInt * ((wireRate - r : Nat) : Int) + y.toInt * (r : Int)).tdiv wireRate

/-- A Q15 product as the nearest integer; halves go away from zero. -/
def roundedQ15 (v : Int) : Int :=
  if 0 ≤ v then (v + 16384) / 32768 else -((-v + 16384) / 32768)

def saturated (v : Int) : Int :=
  if v < -32768 then -32768 else if 32767 < v then 32767 else v

/-- A sample under the gain. -/
def gained (gainQ15 : Int32) (v : Int) : Int16 :=
  Int16.ofInt (saturated (roundedQ15 (v * gainQ15.toInt)))

/-- Output frame `k` of an input, given frame by frame. -/
def outputFrame (gainQ15 : Int32) (rate : Nat) (input : Nat → Frame) (k : Nat) : Frame :=
  let x := input (k * rate / wireRate)
  let y := input (k * rate / wireRate + 1)
  let r := k * rate % wireRate
  ⟨gained gainQ15 (interpolated x.left y.left r), gained gainQ15 (interpolated x.right y.right r)⟩

/-- The number of outputs of `n` input frames. -/
def outputCount (rate n : Nat) : Nat :=
  if n = 0 then 0 else (n - 1) * wireRate / rate + 1

/-- Frame `i` of an interleaved buffer; mono stands on both sides. -/
def inputFrame (inputChannels : Nat) (samples : List Int16) (i : Nat) : Frame :=
  let left := samples.getD (i * inputChannels) 0
  ⟨left, if inputChannels = 1 then left else samples.getD (i * inputChannels + 1) 0⟩

/-! ## One sample -/

def FitsInt64 (v : Int) : Prop := -2 ^ 63 ≤ v ∧ v < 2 ^ 63

section Sample

variable {previous sample x y : Int16} {fraction : Nat} {gainQ15 : Int32}

theorem sample_range (sample : Int16) : -32768 ≤ sample.toInt ∧ sample.toInt ≤ 32767 := by
  have hlow := sample.le_toInt
  have hhigh := sample.toInt_lt
  omega

theorem gain_range (gainQ15 : Int32) :
    -2147483648 ≤ gainQ15.toInt ∧ gainQ15.toInt ≤ 2147483647 := by
  have hlow := gainQ15.le_toInt
  have hhigh := gainQ15.toInt_lt
  omega

/-- A sample times a weight. -/
theorem weight_range (sample : Int16) (weight : Nat) :
    -32768 * (weight : Int) ≤ sample.toInt * weight ∧ sample.toInt * weight ≤ 32767 * weight := by
  have hrange := sample_range sample
  have hweight : (0 : Int) ≤ weight := Int.natCast_nonneg weight
  exact ⟨Int.mul_le_mul_of_nonneg_right hrange.1 hweight,
    Int.mul_le_mul_of_nonneg_right hrange.2 hweight⟩

/-- The two weights add up to the wire rate, so their sum stays within the samples. -/
theorem weighted_range (previous sample : Int16) (h : fraction ≤ wireRate) :
    -32768 * 44100 ≤ weighted previous sample fraction ∧
      weighted previous sample fraction ≤ 32767 * 44100 := by
  have hprevious := weight_range previous (wireRate - fraction)
  have hsample := weight_range sample fraction
  have hsum : ((wireRate - fraction : Nat) : Int) + (fraction : Int) = 44100 := by
    unfold wireRate at *
    omega
  unfold weighted
  dsimp only
  constructor <;> omega

/-- Truncation in terms of the division that rounds down. -/
theorem tdiv_cases (v d : Int) :
    0 ≤ v ∧ v.tdiv d = v / d ∨ v < 0 ∧ v.tdiv d = -((-v) / d) := by
  by_cases h : 0 ≤ v
  · exact .inl ⟨h, Int.tdiv_eq_ediv_of_nonneg h⟩
  · refine .inr ⟨by omega, ?_⟩
    rw [← Int.tdiv_eq_ediv_of_nonneg (by omega : 0 ≤ -v), Int.neg_tdiv, Int.neg_neg]

theorem truncated_range {v : Int} (hlow : -32768 * 44100 ≤ v) (hhigh : v ≤ 32767 * 44100) :
    -32768 ≤ v.tdiv 44100 ∧ v.tdiv 44100 ≤ 32767 := by
  obtain ⟨hsign, heq⟩ | ⟨hsign, heq⟩ := tdiv_cases v 44100
  · rw [heq]
    omega
  · rw [heq]
    omega

/-- The casts to `int32_t` and `int16_t` lose nothing. -/
theorem interpolate_toInt (h : fraction ≤ wireRate) :
    (interpolate previous sample fraction).toInt
      = (weighted previous sample fraction).tdiv wireRate := by
  obtain ⟨hlow, hhigh⟩ := weighted_range previous sample h
  have hrange := truncated_range hlow hhigh
  unfold interpolate
  show (Int32.ofInt ((weighted previous sample fraction).tdiv 44100)).toInt16.toInt = _
  rw [Int32.toInt_toInt16, Int32.toInt_ofInt_of_le (by omega) (by omega)]
  exact Int.bmod_eq_of_le (by omega) (by omega)

/-- The gain of the code is the rounded and saturated product. -/
theorem applyGain_eq (gainQ15 : Int32) (sample : Int16) :
    applyGain gainQ15 sample = gained gainQ15 sample.toInt := by
  unfold applyGain gained scaledSample
  dsimp only
  generalize sample.toInt * gainQ15.toInt = v
  have hrounded : (if 0 ≤ v then v + 16384 else v - 16384).tdiv 32768 = roundedQ15 v := by
    unfold roundedQ15
    by_cases hsign : 0 ≤ v
    · rw [if_pos hsign, if_pos hsign]
      exact Int.tdiv_eq_ediv_of_nonneg (by omega)
    · rw [if_neg hsign, if_neg hsign]
      obtain ⟨hpos, heq⟩ | ⟨hneg, heq⟩ := tdiv_cases (v - 16384) 32768
      · omega
      · rw [heq]
        congr 2
        omega
  rw [hrounded]
  unfold clampS16 saturated
  by_cases hhigh : 32767 < roundedQ15 v
  · rw [if_pos hhigh, if_neg (by omega), if_pos hhigh]
    rfl
  · rw [if_neg hhigh]
    by_cases hlow : roundedQ15 v < -32768
    · rw [if_pos hlow, if_pos hlow]
      rfl
    · rw [if_neg hlow, if_neg hlow, if_neg hhigh]

/-- The `int64_t` intermediates of the gain. -/
theorem scaled_fits (gainQ15 : Int32) (sample : Int16) :
    FitsInt64 (sample.toInt * gainQ15.toInt) ∧ FitsInt64 (scaledSample gainQ15 sample) := by
  have hsample := sample_range sample
  have hgain := gain_range gainQ15
  have habs : (sample.toInt * gainQ15.toInt).natAbs ≤ 32768 * 2147483648 := by
    rw [Int.natAbs_mul]
    exact Nat.mul_le_mul (by omega) (by omega)
  unfold FitsInt64 scaledSample
  dsimp only
  generalize sample.toInt * gainQ15.toInt = v at *
  by_cases hsign : 0 ≤ v
  · rw [if_pos hsign]
    omega
  · rw [if_neg hsign]
    omega

end Sample

/-! ## The frames of one input frame -/

section Emit

variable {impl start state : NativeAudioInputPcmImpl} {input : Nat → Frame} {m bound : Nat}
  {left right : Int16}

theorem emitFrame_emitted (impl : NativeAudioInputPcmImpl) (left right : Int16) :
    (emitFrame impl left right).emitted
      = impl.emitted ++ [⟨applyGain impl.gainQ15 left, applyGain impl.gainQ15 right⟩] := by
  unfold emitFrame NativeAudioInputPcmImpl.emitted
  dsimp only
  split
  · rw [List.flatten_append, List.flatten_singleton, List.append_nil, List.append_assoc]
  · rw [List.append_assoc]

/-- Packets leave full, and the packet under way is not full. -/
theorem emitFrame_packets (left right : Int16)
    (hpackets : ∀ p ∈ impl.packets, p.length = impl.framesPerPacket)
    (hroom : impl.packetSamples.length < impl.framesPerPacket) :
    (∀ p ∈ (emitFrame impl left right).packets, p.length = impl.framesPerPacket) ∧
      (emitFrame impl left right).packetSamples.length < impl.framesPerPacket := by
  unfold emitFrame
  dsimp only
  split
  · rename_i hfull
    constructor
    · intro p hp
      obtain hp | hp := List.mem_append.mp hp
      · exact hpackets p hp
      · rw [List.mem_singleton.mp hp]
        exact hfull
    · exact Nat.lt_of_le_of_lt (Nat.zero_le _) hroom
  · rename_i hfull
    refine ⟨hpackets, ?_⟩
    rw [List.length_append, List.length_singleton] at hfull
    show (impl.packetSamples ++ [_]).length < _
    rw [List.length_append, List.length_singleton]
    omega

/-- Emitting touches the packets only. -/
theorem emitFrame_frame (impl : NativeAudioInputPcmImpl) (left right : Int16) :
    ∃ packets packetSamples, emitFrame impl left right
      = { impl with packets := packets, packetSamples := packetSamples } := by
  unfold emitFrame
  dsimp only
  split
  · exact ⟨_, _, rfl⟩
  · exact ⟨_, _, rfl⟩

/-- What holds of the converter while it is at input frame `m`: its outputs lie up to frame
`bound`, and the next one lies ahead of the frame before `m`. -/
structure Tracks (start : NativeAudioInputPcmImpl) (input : Nat → Frame) (m bound : Nat)
    (impl : NativeAudioInputPcmImpl) : Prop where
  inputRate_eq : impl.inputRate = start.inputRate
  inputChannels_eq : impl.inputChannels = start.inputChannels
  framesPerPacket_eq : impl.framesPerPacket = start.framesPerPacket
  gainQ15_eq : impl.gainQ15 = start.gainQ15
  index : impl.inputIndex = m
  next : impl.nextOutputNumerator = impl.emitted.length * start.inputRate
  outputs : impl.emitted = (List.range impl.emitted.length).map
    (outputFrame start.gainQ15 start.inputRate input)
  reached : ∀ k < impl.emitted.length, k * start.inputRate ≤ bound * wireRate
  passed : 0 < m → (m - 1) * wireRate < impl.nextOutputNumerator
  previous : 0 < m → impl.havePrevious = true ∧
    impl.previousLeft = (input (m - 1)).left ∧ impl.previousRight = (input (m - 1)).right
  packets : ∀ p ∈ impl.packets, p.length = impl.framesPerPacket
  underWay : impl.packetSamples.length < impl.framesPerPacket

/-- A converter as `init` leaves it. -/
structure Started (start : NativeAudioInputPcmImpl) : Prop where
  rate_ge : 8000 ≤ start.inputRate
  rate_le : start.inputRate ≤ 192000
  channels : start.inputChannels = 1 ∨ start.inputChannels = 2
  packet_pos : 0 < start.framesPerPacket
  packets_nil : start.packets = []
  underWay_nil : start.packetSamples = []
  index : start.inputIndex = 0
  next : start.nextOutputNumerator = 0

theorem Started.emitted_nil (h : Started start) : start.emitted = [] := by
  unfold NativeAudioInputPcmImpl.emitted
  rw [h.packets_nil, h.underWay_nil]
  rfl

theorem Started.tracks (h : Started start) : Tracks start input 0 0 start := by
  have hemitted := h.emitted_nil
  refine ⟨rfl, rfl, rfl, rfl, h.index, ?_, ?_, ?_, ?_, ?_, ?_, ?_⟩
  · rw [h.next, hemitted, List.length_nil, Nat.zero_mul]
  · rw [hemitted]
    rfl
  · intro k hk
    rw [hemitted] at hk
    cases hk
  · intro hpos
    cases hpos
  · intro hpos
    cases hpos
  · rw [h.packets_nil]
    intro p hp
    cases hp
  · rw [h.underWay_nil]
    exact h.packet_pos

/-- The distance the code computes is the distance, and at most one input frame. -/
theorem Tracks.fraction_eq (h : Tracks start input m bound state) (hpos : 0 < m)
    (hm : m < 2 ^ 48) (htest : state.nextOutputNumerator ≤ m * wireRate) :
    fractionOf state = state.nextOutputNumerator - (m - 1) * wireRate ∧
      0 < fractionOf state ∧ fractionOf state ≤ wireRate := by
  have hpassed := h.passed hpos
  have hindex := h.index
  unfold fractionOf u64Sub u64 wireRate at *
  rw [hindex]
  dsimp only
  omega

/-- Between the two neighbours the interpolation is the one of the position. -/
theorem interpolated_position {x : Nat → Int16} {p : Nat} (hpos : 0 < m)
    (hpassed : (m - 1) * wireRate < p) (hreached : p ≤ m * wireRate) :
    (weighted (x (m - 1)) (x m) (p - (m - 1) * wireRate)).tdiv wireRate
      = interpolated (x (p / wireRate)) (x (p / wireRate + 1)) (p % wireRate) := by
  by_cases hlast : p = m * wireRate
  · have hquot : p / wireRate = m := by
      rw [hlast]
      exact Nat.mul_div_cancel m (by decide)
    have hrem : p % wireRate = 0 := by
      rw [hlast]
      exact Nat.mul_mod_left m wireRate
    have hfraction : p - (m - 1) * wireRate = wireRate := by
      unfold wireRate at *
      omega
    rw [hquot, hrem, hfraction]
    unfold weighted interpolated
    dsimp only
    rw [Nat.sub_self, Nat.sub_zero, Int.natCast_zero, Int.mul_zero, Int.mul_zero, Int.zero_add,
      Int.add_zero]
  · have hquot : p / wireRate = m - 1 := by
      unfold wireRate at *
      omega
    have hrem : p % wireRate = p - (m - 1) * wireRate := by
      unfold wireRate at *
      omega
    rw [hquot, hrem, Nat.sub_add_cancel hpos]
    rfl

/-- At a frame of the input the interpolation is that frame. -/
theorem interpolated_zero (x y : Int16) : interpolated x y 0 = x.toInt := by
  unfold interpolated
  rw [Nat.sub_zero, Int.natCast_zero, Int.mul_zero, Int.add_zero]
  exact Int.mul_tdiv_cancel _ (by decide)

/-- The frame that one pass appends is the next output. -/
theorem Tracks.output (h : Tracks start input m bound state) (hpositive : 0 < start.inputRate)
    (hm : m < 2 ^ 48) (htest : state.nextOutputNumerator ≤ m * wireRate) :
    (⟨applyGain state.gainQ15 (outFrame state (input m)).left,
        applyGain state.gainQ15 (outFrame state (input m)).right⟩ : Frame)
      = outputFrame start.gainQ15 start.inputRate input state.emitted.length := by
  rw [applyGain_eq, applyGain_eq, h.gainQ15_eq]
  have hindex := h.index
  have hnext := h.next
  by_cases hpos : 0 < m
  · obtain ⟨hfraction, -, hle⟩ := h.fraction_eq hpos hm htest
    obtain ⟨-, hleft, hright⟩ := h.previous hpos
    have hpassed := h.passed hpos
    have hout : outFrame state (input m)
        = ⟨interpolate state.previousLeft (input m).left (fractionOf state),
          interpolate state.previousRight (input m).right (fractionOf state)⟩ := by
      unfold outFrame
      rw [if_pos (by omega)]
      dsimp only
      rw [Nat.min_eq_left hle]
    rw [hout]
    unfold outputFrame
    dsimp only
    rw [interpolate_toInt hle, interpolate_toInt hle, hleft, hright, hfraction, ← hnext,
      interpolated_position (x := fun i => (input i).left) hpos hpassed htest,
      interpolated_position (x := fun i => (input i).right) hpos hpassed htest]
  · have hzero : m = 0 := by omega
    subst hzero
    have hcount : state.emitted.length = 0 := by
      rw [Nat.zero_mul, hnext] at htest
      exact (Nat.mul_eq_zero.mp (Nat.le_zero.mp htest)).resolve_right (by omega)
    have hout : outFrame state (input 0) = input 0 := by
      unfold outFrame
      rw [if_neg (by omega)]
    rw [hout]
    unfold outputFrame
    dsimp only
    rw [hcount, Nat.zero_mul, Nat.zero_div, Nat.zero_mod, interpolated_zero, interpolated_zero]

/-- The counter of the outputs does not wrap. -/
theorem Tracks.counter (h : Tracks start input m bound state) (hstart : Started start)
    (hm : m < 2 ^ 48) (htest : state.nextOutputNumerator ≤ m * wireRate) :
    u64 (state.nextOutputNumerator + state.inputRate)
      = state.nextOutputNumerator + start.inputRate := by
  have hrate := h.inputRate_eq
  have hwide := hstart.rate_le
  unfold u64 wireRate at *
  omega

/-- The step lemma: a pass appends the next output. -/
theorem Tracks.body (h : Tracks start input m m state) (hstart : Started start)
    (hm : m < 2 ^ 48) (htest : state.nextOutputNumerator ≤ m * wireRate)
    (current : Nat) : Tracks start input m m ((emitLoop (input m) current).body state) := by
  have hpositive : 0 < start.inputRate := Nat.lt_of_lt_of_le (by decide) hstart.rate_ge
  have hnext := h.next
  have hemitted := emitFrame_emitted state (outFrame state (input m)).left
    (outFrame state (input m)).right
  rw [h.output hpositive hm htest] at hemitted
  obtain ⟨hfull, hunder⟩ := emitFrame_packets (outFrame state (input m)).left
    (outFrame state (input m)).right h.packets h.underWay
  obtain ⟨packets, packetSamples, hframe⟩ := emitFrame_frame state
    (outFrame state (input m)).left (outFrame state (input m)).right
  rw [hframe] at hemitted hfull hunder
  have hcounter : u64 (state.nextOutputNumerator + state.inputRate)
      = (state.emitted.length + 1) * start.inputRate := by
    rw [Nat.succ_mul, ← hnext]
    exact h.counter hstart hm htest
  unfold emitLoop
  dsimp only
  rw [hframe]
  dsimp only
  generalize hafter : ({ state with
      packets := packets, packetSamples := packetSamples,
      nextOutputNumerator := u64 (state.nextOutputNumerator + state.inputRate) } :
        NativeAudioInputPcmImpl) = after
  have hall : after.emitted = state.emitted
      ++ [outputFrame start.gainQ15 start.inputRate input state.emitted.length] := by
    rw [← hafter]
    exact hemitted
  have hlength : after.emitted.length = state.emitted.length + 1 := by
    rw [hall, List.length_append, List.length_singleton]
  refine ⟨?_, ?_, ?_, ?_, ?_, ?_, ?_, ?_, ?_, ?_, ?_, ?_⟩
  · rw [← hafter]
    exact h.inputRate_eq
  · rw [← hafter]
    exact h.inputChannels_eq
  · rw [← hafter]
    exact h.framesPerPacket_eq
  · rw [← hafter]
    exact h.gainQ15_eq
  · rw [← hafter]
    exact h.index
  · rw [hlength, ← hcounter, ← hafter]
  · rw [hlength, List.range_succ, List.map_append, List.map_singleton, ← h.outputs, hall]
  · intro k hk
    rw [hlength] at hk
    by_cases hlast : k = state.emitted.length
    · rw [hlast, ← hnext]
      exact htest
    · exact h.reached k (by omega)
  · intro hpos
    have hpassed := h.passed hpos
    rw [← hafter]
    show _ < u64 _
    rw [hcounter, Nat.succ_mul, ← hnext]
    omega
  · intro hpos
    rw [← hafter]
    exact h.previous hpos
  · rw [← hafter]
    exact hfull
  · rw [← hafter]
    exact hunder

/-! ## One input frame -/

/-- The inner loop runs under its invariant and ends. -/
theorem emitLoop_progress (hstart : Started start) (hm : m < 2 ^ 48) :
    (emitLoop (input m) (m * wireRate)).Progress (Tracks start input m m)
      (fun state => m * wireRate + 1 - state.nextOutputNumerator) := by
  constructor
  · intro state h htest
    exact h.body hstart hm (of_decide_eq_true htest) _
  · intro state h htest
    have hle : state.nextOutputNumerator ≤ m * wireRate := of_decide_eq_true htest
    have hrate := hstart.rate_ge
    show m * wireRate + 1 - u64 (state.nextOutputNumerator + state.inputRate) < _
    rw [h.counter hstart hm hle]
    omega

/-- The loop starts under its invariant. -/
theorem Tracks.begin (h : Tracks start input m bound impl) (hbound : bound ≤ m) :
    Tracks start input m m (withPrevious impl (input m)) := by
  have hreached : ∀ k < impl.emitted.length, k * start.inputRate ≤ m * wireRate :=
    fun k hk => Nat.le_trans (h.reached k hk) (Nat.mul_le_mul_right wireRate hbound)
  unfold withPrevious
  split
  · exact { h with reached := hreached }
  · rename_i hnone
    have hfirst : ¬ 0 < m := fun hpos => hnone (h.previous hpos).1
    exact { h with
      reached := hreached
      previous := fun hpos => (hfirst hpos).elim }

/-- The current position does not wrap. -/
theorem Tracks.position (h : Tracks start input m bound impl) (hm : m < 2 ^ 48) :
    u64 (impl.inputIndex * wireRate) = m * wireRate := by
  rw [h.index]
  unfold u64 wireRate
  omega

/-- The loop leaves the fixed fields and the frame before as they are. -/
theorem emitLoop_frame {frame : Frame} {current fuel : Nat}
    (hrun : (emitLoop frame current).run fuel impl = some state) :
    state.inputChannels = impl.inputChannels ∧ state.havePrevious = impl.havePrevious := by
  refine While.run_keeps (fun t => t.inputChannels = impl.inputChannels ∧
    t.havePrevious = impl.havePrevious) ?_ ⟨rfl, rfl⟩ hrun
  intro t ht
  obtain ⟨packets, packetSamples, hframe⟩ := emitFrame_frame t
    (outFrame t frame).left (outFrame t frame).right
  unfold emitLoop
  dsimp only
  rw [hframe]
  exact ht

theorem withPrevious_have (frame : Frame) : (withPrevious impl frame).havePrevious = true := by
  unfold withPrevious
  split
  · assumption
  · rfl

/-- A frame of the input is taken up: the outputs up to it leave. -/
theorem Tracks.pushFrame (h : Tracks start input m bound impl) (hstart : Started start)
    (hbound : bound ≤ m) (hm : m < 2 ^ 48) :
    ∃ after, pushFrame impl (input m) = some after ∧ Tracks start input (m + 1) m after := by
  have hfuel : m * wireRate + 1 - (withPrevious impl (input m)).nextOutputNumerator ≤ 2 ^ 64 := by
    unfold wireRate
    omega
  obtain ⟨state, hrun, hstate, htest⟩ :=
    (emitLoop_progress hstart hm).run (h.begin hbound) hfuel
  have hpassed : m * wireRate < state.nextOutputNumerator := by
    have hfalse := of_decide_eq_false htest
    omega
  have hkept : state.havePrevious = true :=
    (emitLoop_frame hrun).2.trans (withPrevious_have (input m))
  refine ⟨{ state with
    previousLeft := (input m).left, previousRight := (input m).right
    inputIndex := u64 (state.inputIndex + 1) }, ?_, ?_⟩
  · unfold InputPcm.pushFrame
    dsimp only
    rw [h.position hm, hrun]
    rfl
  · have hindex : u64 (state.inputIndex + 1) = m + 1 := by
      rw [hstate.index]
      unfold u64
      omega
    exact { hstate with
      index := hindex
      passed := fun _ => hpassed
      previous := fun _ => ⟨hkept, rfl, rfl⟩ }

end Emit

/-! ## A buffer of input frames -/

section Push

variable {impl start after : NativeAudioInputPcmImpl} {samples : List Int16} {n : Nat}

theorem pushFrame_channels {frame : Frame} (h : pushFrame impl frame = some after) :
    after.inputChannels = impl.inputChannels := by
  unfold pushFrame at h
  obtain ⟨state, hrun, rfl⟩ := Option.map_eq_some_iff.mp h
  have hkept := (emitLoop_frame hrun).1
  unfold withPrevious at hkept
  split at hkept
  · exact hkept
  · exact hkept

/-- Within the buffer a pass reads the frame there. -/
theorem readFrame_eq {channels i : Nat} (hchannels : channels = 1 ∨ channels = 2)
    (h : (i + 1) * channels ≤ samples.length) :
    readFrame channels samples i = some (inputFrame channels samples i) := by
  unfold readFrame inputFrame
  obtain rfl | rfl := hchannels
  · have hleft : i * 1 < samples.length := by omega
    rw [List.getD_eq_getElem?_getD, List.getElem?_eq_getElem hleft]
    rfl
  · have hleft : i * 2 < samples.length := by omega
    have hright : i * 2 + 1 < samples.length := by omega
    rw [List.getD_eq_getElem?_getD, List.getD_eq_getElem?_getD, List.getElem?_eq_getElem hleft,
      List.getElem?_eq_getElem hright]
    rfl

/-- The frames of a buffer, in order. -/
def inputFrames (channels : Nat) (samples : List Int16) (n : Nat) : List Frame :=
  (List.range n).map (inputFrame channels samples)

theorem foldlM_channels {frames : List Frame} (h : frames.foldlM pushFrame impl = some after) :
    after.inputChannels = impl.inputChannels := by
  induction frames generalizing impl with
  | nil =>
    cases h
    rfl
  | cons frame rest ih =>
    rw [List.foldlM_cons] at h
    obtain ⟨next, hfirst, hrest⟩ := Option.bind_eq_some_iff.mp h
    exact (ih hrest).trans (pushFrame_channels hfirst)

/-- A push takes up the frames of its buffer one by one. -/
theorem pushFrames_eq (hchannels : impl.inputChannels = 1 ∨ impl.inputChannels = 2)
    (h : n * impl.inputChannels ≤ samples.length) :
    pushFrames impl samples n
      = (inputFrames impl.inputChannels samples n).foldlM pushFrame impl := by
  induction n with
  | zero => rfl
  | succ n ih =>
    have hbefore := ih (Nat.le_trans (Nat.mul_le_mul_right _ (Nat.le_succ n)) h)
    unfold pushFrames inputFrames at *
    rw [List.range_succ, List.foldlM_append, hbefore, List.map_append, List.foldlM_append]
    refine Option.bind_congr ?_
    intro middle hmiddle
    have hkept := foldlM_channels hmiddle
    rw [List.foldlM_cons, List.map_singleton, List.foldlM_cons, hkept,
      readFrame_eq hchannels h]
    rfl

/-- The frames of two buffers in a row. -/
theorem inputFrames_append {channels k : Nat} {more : List Int16}
    (hchannels : channels = 1 ∨ channels = 2) (h : samples.length = n * channels) :
    inputFrames channels (samples ++ more) (n + k)
      = inputFrames channels samples n ++ inputFrames channels more k := by
  unfold inputFrames
  rw [List.range_add, List.map_append, List.map_map]
  congr 1
  · refine List.map_congr_left ?_
    intro i hi
    have hi' := List.mem_range.mp hi
    have hstep : (i + 1) * channels ≤ n * channels := Nat.mul_le_mul_right _ hi'
    rw [Nat.succ_mul] at hstep
    have hleft : i * channels < samples.length := by omega
    unfold inputFrame
    rw [List.getD_append _ _ _ _ hleft]
    dsimp only
    by_cases hone : channels = 1
    · rw [if_pos hone, if_pos hone]
    · have hright : i * channels + 1 < samples.length := by omega
      rw [if_neg hone, if_neg hone, List.getD_append _ _ _ _ hright]
  · refine List.map_congr_left ?_
    intro i hi
    have hstart : (n + i) * channels = samples.length + i * channels := by
      rw [Nat.add_mul, h]
    unfold inputFrame Function.comp
    dsimp only
    rw [hstart, List.getD_append_right _ _ _ _ (by omega), Nat.add_sub_cancel_left,
      List.getD_append_right _ _ _ _ (by omega)]
    congr 4
    omega

theorem push_eq (hchannels : impl.inputChannels = 1 ∨ impl.inputChannels = 2)
    (h : n * impl.inputChannels ≤ samples.length) :
    push (some impl) (some samples) n
      = ((inputFrames impl.inputChannels samples n).foldlM pushFrame impl).map
          fun impl => (true, some impl) := by
  unfold push
  dsimp only
  rw [pushFrames_eq hchannels h]

theorem whole_length {channels : Nat} {chunks : List (List Int16)}
    (hwhole : ∀ chunk ∈ chunks, channels ∣ chunk.length) : channels ∣ chunks.flatten.length := by
  induction chunks with
  | nil => exact Nat.dvd_zero channels
  | cons chunk rest ih =>
    rw [List.flatten_cons, List.length_append]
    exact Nat.dvd_add (hwhole chunk List.mem_cons_self)
      (ih fun c hc => hwhole c (List.mem_cons_of_mem _ hc))

/-- However the input is cut into calls, they do what one call with all of it does. -/
theorem pushAll_eq {chunks : List (List Int16)}
    (hchannels : impl.inputChannels = 1 ∨ impl.inputChannels = 2)
    (hwhole : ∀ chunk ∈ chunks, impl.inputChannels ∣ chunk.length) :
    pushAll impl.inputChannels (some impl) chunks
      = push (some impl) (some chunks.flatten) (chunks.flatten.length / impl.inputChannels) := by
  have hpos : 0 < impl.inputChannels := by omega
  induction chunks generalizing impl with
  | nil =>
    rw [List.flatten_nil, List.length_nil, Nat.zero_div]
    rfl
  | cons chunk rest ih =>
    have hfirst := hwhole chunk List.mem_cons_self
    have hrest := fun c hc => hwhole c (List.mem_cons_of_mem chunk hc)
    have hall : (chunk.length + rest.flatten.length) / impl.inputChannels
        = chunk.length / impl.inputChannels + rest.flatten.length / impl.inputChannels :=
      Nat.add_div_of_dvd_right hfirst
    have hlength : chunk.length = chunk.length / impl.inputChannels * impl.inputChannels :=
      (Nat.div_mul_cancel hfirst).symm
    rw [List.flatten_cons, List.length_append, hall]
    unfold pushAll
    rw [push_eq hchannels (Nat.le_of_eq hlength.symm), push_eq hchannels (Nat.le_of_eq (by
        rw [Nat.add_mul, List.length_append, ← hlength, Nat.div_mul_cancel (whole_length hrest)])),
      inputFrames_append hchannels hlength, List.foldlM_append]
    cases hrun : (inputFrames impl.inputChannels chunk
        (chunk.length / impl.inputChannels)).foldlM pushFrame impl with
    | none => rfl
    | some middle =>
      have hkept := foldlM_channels hrun
      have hlast := @ih middle (by rw [hkept]; exact hchannels)
        (by rw [hkept]; exact hrest) (by rw [hkept]; exact hpos)
      rw [hkept] at hlast
      show (pushAll impl.inputChannels (some middle) rest).bind _ = _
      have hdone : middle.inputChannels = 1 ∨ middle.inputChannels = 2 := by
        rw [hkept]
        exact hchannels
      rw [hlast, push_eq hdone (Nat.le_of_eq (by
        rw [hkept, Nat.div_mul_cancel (whole_length hrest)])), hkept]
      show _ = Option.map _ ((inputFrames impl.inputChannels rest.flatten
        (rest.flatten.length / impl.inputChannels)).foldlM pushFrame middle)
      cases (inputFrames impl.inputChannels rest.flatten
        (rest.flatten.length / impl.inputChannels)).foldlM pushFrame middle with
      | none => rfl
      | some last => rfl

/-- The run lemma: pushing the first `n` frames of a buffer. -/
theorem Started.pushFrames (h : Started start) (hlength : n * start.inputChannels ≤ samples.length)
    (hn : n < 2 ^ 48) :
    ∃ after, pushFrames start samples n = some after ∧
      Tracks start (inputFrame start.inputChannels samples) n (n - 1) after := by
  rw [pushFrames_eq h.channels hlength]
  clear hlength
  induction n with
  | zero => exact ⟨start, rfl, h.tracks⟩
  | succ n ih =>
    obtain ⟨middle, hrun, htracks⟩ := ih (by omega)
    obtain ⟨after, hstep, hafter⟩ := htracks.pushFrame h (by omega) (by omega)
    refine ⟨after, ?_, hafter⟩
    unfold inputFrames at *
    rw [List.range_succ, List.map_append, List.foldlM_append, hrun, List.map_singleton]
    simp only [Option.bind_eq_bind, Option.bind_some, List.foldlM_cons, List.foldlM_nil, hstep,
      Option.pure_def]

/-- There are as many outputs as positions up to the last input frame. -/
theorem Tracks.count {input : Nat → Frame} (h : Tracks start input (n + 1) n after) :
    after.emitted.length = outputCount start.inputRate (n + 1) := by
  have hnext := h.next
  have hpassed := h.passed (Nat.succ_pos n)
  rw [hnext, Nat.add_sub_cancel] at hpassed
  have hsome : 0 < after.emitted.length := by
    by_contra hzero
    rw [Nat.eq_zero_of_not_pos hzero, Nat.zero_mul] at hpassed
    exact Nat.not_lt_zero _ hpassed
  have hreached := h.reached (after.emitted.length - 1) (by omega)
  have hquot : n * wireRate / start.inputRate = after.emitted.length - 1 := by
    refine Nat.div_eq_of_lt_le hreached ?_
    rw [Nat.sub_add_cancel hsome]
    exact hpassed
  unfold outputCount
  rw [if_neg (Nat.succ_ne_zero n), Nat.add_sub_cancel, hquot]
  omega

theorem Started.count (h : Started start) {input : Nat → Frame}
    (hrun : InputPcm.pushFrames start samples n = some after)
    (htracks : Tracks start input n (n - 1) after) :
    after.emitted.length = outputCount start.inputRate n := by
  cases n with
  | zero =>
    cases hrun
    rw [h.emitted_nil]
    rfl
  | succ n => exact htracks.count

end Push

/-! ## The resampler -/

/-- The inner loop's body is entered in `state` while `frame` of the first `n` frames of the
samples is taken up. -/
def Entered (start : NativeAudioInputPcmImpl) (samples : List Int16) (n : Nat) (frame : Frame)
    (state : NativeAudioInputPcmImpl) : Prop :=
  ∃ i < n, ∃ before, pushFrames start samples i = some before ∧
    readFrame before.inputChannels samples i = some frame ∧
    (emitLoop frame (u64 (before.inputIndex * wireRate))).Enters (withPrevious before frame) state

/-- No intermediate of a pass leaves its type, and the fraction is at most one input frame
before its clamp. -/
structure Exact (frame : Frame) (state : NativeAudioInputPcmImpl) : Prop where
  current : state.inputIndex * wireRate < 2 ^ 64
  next : state.nextOutputNumerator + state.inputRate < 2 ^ 64
  index : state.inputIndex + 1 < 2 ^ 64
  fraction : 0 < state.inputIndex →
    fractionOf state = state.nextOutputNumerator - (state.inputIndex - 1) * wireRate ∧
      fractionOf state ≤ wireRate
  products : ∀ previous sample : Int16,
    (previous, sample) ∈ [(state.previousLeft, frame.left), (state.previousRight, frame.right)] →
    ∀ fraction ≤ wireRate,
      FitsInt64 (previous.toInt * ((wireRate - fraction : Nat) : Int)) ∧
      FitsInt64 (sample.toInt * (fraction : Int)) ∧
      FitsInt64 (weighted previous sample fraction) ∧
      (interpolate previous sample fraction).toInt
        = (weighted previous sample fraction).tdiv wireRate
  scaled : ∀ sample : Int16, FitsInt64 (sample.toInt * state.gainQ15.toInt) ∧
    FitsInt64 (scaledSample state.gainQ15 sample)

section Exactness

variable {start state : NativeAudioInputPcmImpl} {input : Nat → Frame} {samples : List Int16}
  {m n : Nat} {frame : Frame}

theorem products_fit (previous sample : Int16) {fraction : Nat} (h : fraction ≤ wireRate) :
    FitsInt64 (previous.toInt * ((wireRate - fraction : Nat) : Int)) ∧
      FitsInt64 (sample.toInt * (fraction : Int)) ∧
      FitsInt64 (weighted previous sample fraction) := by
  have hprevious := weight_range previous (wireRate - fraction)
  have hsample := weight_range sample fraction
  have hweighted := weighted_range previous sample h
  unfold FitsInt64 wireRate at *
  omega

theorem Tracks.exact (h : Tracks start input m m state) (hstart : Started start)
    (hm : m < 2 ^ 48) (htest : state.nextOutputNumerator ≤ m * wireRate) :
    Exact frame state where
  current := by
    rw [h.index]
    unfold wireRate
    omega
  next := by
    have hrate := h.inputRate_eq
    have hwide := hstart.rate_le
    unfold wireRate at htest
    omega
  index := by
    rw [h.index]
    omega
  fraction hpos := by
    rw [h.index] at hpos ⊢
    obtain ⟨heq, -, hle⟩ := h.fraction_eq hpos hm htest
    exact ⟨heq, hle⟩
  products previous sample _ fraction hle := by
    obtain ⟨hfirst, hsecond, hsum⟩ := products_fit previous sample hle
    exact ⟨hfirst, hsecond, hsum, interpolate_toInt hle⟩
  scaled sample := scaled_fits state.gainQ15 sample

/-- Every pass of every inner loop is exact. -/
theorem Entered.exact (h : Entered start samples n frame state) (hstart : Started start)
    (hlength : n * start.inputChannels ≤ samples.length) (hn : n < 2 ^ 48) :
    Exact frame state := by
  obtain ⟨i, hi, before, hrun, hread, henters⟩ := h
  have hstep : (i + 1) * start.inputChannels ≤ samples.length :=
    Nat.le_trans (Nat.mul_le_mul_right _ hi) hlength
  have hfewer : i * start.inputChannels ≤ samples.length :=
    Nat.le_trans (Nat.mul_le_mul_right _ (Nat.le_succ i)) hstep
  obtain ⟨state', hrun', htracks⟩ := hstart.pushFrames hfewer (by omega)
  obtain rfl : before = state' := Option.some.inj (hrun.symm.trans hrun')
  rw [htracks.inputChannels_eq, readFrame_eq hstart.channels hstep] at hread
  obtain rfl := Option.some.inj hread
  rw [htracks.position (by omega)] at henters
  obtain ⟨hstate, htest⟩ := (emitLoop_progress hstart (by omega)).enters
    (htracks.begin (by omega)) henters
  exact hstate.exact hstart (by omega) (of_decide_eq_true htest)

end Exactness

theorem init_started {powf : Int16 → Int32} {rate channels framesPerPacket : Nat} {gainDb : Int16}
    {allocated : Bool} {start : NativeAudioInputPcmImpl}
    (h : init powf rate channels framesPerPacket gainDb allocated = some start) :
    Started start ∧ start.inputRate = rate ∧ start.inputChannels = channels ∧
      start.framesPerPacket = framesPerPacket ∧ start.gainQ15 = powf gainDb := by
  unfold init at h
  split at h
  · cases h
  · rename_i hvalid
    split at h
    · cases h
    · cases h
      have hlow : 8000 ≤ rate := by omega
      have hhigh : rate ≤ 192000 := by omega
      have hchannels : channels = 1 ∨ channels = 2 := by omega
      have hpacket : 0 < framesPerPacket := by omega
      exact ⟨⟨hlow, hhigh, hchannels, hpacket, rfl, rfl, rfl, rfl⟩, rfl, rfl, rfl, rfl⟩

/-- The resampler: however the input is cut into calls, they do what one call does, every
pass is exact, and the frames emitted are the outputs that the input defines, in full
packets and a part of the next one. -/
theorem resampler_exact {powf : Int16 → Int32} {rate channels framesPerPacket : Nat}
    {gainDb : Int16} {allocated : Bool} {start : NativeAudioInputPcmImpl}
    (hinit : init powf rate channels framesPerPacket gainDb allocated = some start)
    (chunks : List (List Int16)) (hwhole : ∀ chunk ∈ chunks, channels ∣ chunk.length) :
    pushAll channels (some start) chunks
        = push (some start) (some chunks.flatten) (chunks.flatten.length / channels) ∧
      (chunks.flatten.length / channels < 2 ^ 48 →
        (∃ after, pushAll channels (some start) chunks = some (true, some after) ∧
          after.emitted = (List.range (outputCount rate (chunks.flatten.length / channels))).map
            (outputFrame (powf gainDb) rate (inputFrame channels chunks.flatten)) ∧
          (∀ p ∈ after.packets, p.length = framesPerPacket) ∧
          after.packetSamples.length < framesPerPacket) ∧
        ∀ frame state,
          Entered start chunks.flatten (chunks.flatten.length / channels) frame state →
            Exact frame state) := by
  obtain ⟨hstart, rfl, rfl, rfl, hgain⟩ := init_started hinit
  have hsplit := pushAll_eq hstart.channels hwhole
  refine ⟨hsplit, fun hn => ⟨?_, ?_⟩⟩
  · have hlength : chunks.flatten.length / start.inputChannels * start.inputChannels
        ≤ chunks.flatten.length := Nat.div_mul_le_self _ _
    obtain ⟨after, hrun, htracks⟩ := hstart.pushFrames hlength hn
    have hcount : after.emitted.length
        = outputCount start.inputRate (chunks.flatten.length / start.inputChannels) :=
      hstart.count hrun htracks
    refine ⟨after, ?_, ?_, ?_, ?_⟩
    · rw [hsplit]
      unfold push
      dsimp only
      rw [hrun]
      rfl
    · rw [← hcount, ← hgain]
      exact htracks.outputs
    · intro p hp
      rw [htracks.packets p hp, htracks.framesPerPacket_eq]
    · rw [← htracks.framesPerPacket_eq]
      exact htracks.underWay
  · intro frame state hentered
    exact hentered.exact hstart (Nat.div_mul_le_self _ _) hn

/-- Half the rate, stereo, in two calls: the frame between two input frames is their mean. -/
theorem resampler_exact_doubling :
    ∃ after, pushAll 2 (some ⟨22050, 2, 2, 32768, [], [], 0, 0, 0, 0, false⟩)
        [[100, -100], [200, -201, 0, 0]] = some (true, some after) ∧
      after.emitted = [⟨100, -100⟩, ⟨150, -150⟩, ⟨200, -201⟩, ⟨100, -100⟩, ⟨0, 0⟩] := by
  have hinit : init (fun _ => 32768) 22050 2 2 0 true
      = some ⟨22050, 2, 2, 32768, [], [], 0, 0, 0, 0, false⟩ := rfl
  obtain ⟨-, hall⟩ := resampler_exact hinit [[100, -100], [200, -201, 0, 0]] (by decide)
  obtain ⟨⟨after, hpush, hemitted, -⟩, -⟩ := hall (by decide)
  exact ⟨after, hpush, hemitted.trans (by decide +kernel)⟩

end Lgnome.Audio.InputPcm
