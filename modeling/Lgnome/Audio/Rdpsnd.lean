import Lgnome.Bytes.Fixed
import Lgnome.Transition.Log
import Lgnome.Transition.Machine

/-!
# Audio playback over rdpsnd

One handler of the AUDIO_PLAYBACK_DVC channel. The PDU decoder is a parameter,
and the log lines with their two latches are left out. A step is one payload;
what it lets an observer see is the PDU read from it, the callbacks made and the
replies sent, in that order.
-/
namespace Lgnome.Audio

open Lgnome.Transition

/-- `sndpdu::WaveFormat`, the registered number. -/
abbrev WaveFormat := UInt16

def WaveFormat.pcm : WaveFormat := 0x0001
def WaveFormat.opus : WaveFormat := 0x704F

/-- `sndpdu::AudioFormat`. -/
structure AudioFormat where
  format : WaveFormat
  nChannels : UInt16
  nSamplesPerSec : UInt32
  nAvgBytesPerSec : UInt32
  nBlockAlign : UInt16
  bitsPerSample : UInt16
  data : Option Bytes := none
  deriving DecidableEq, Repr

/-- `sndpdu::Version`. -/
inductive Version where
  | v2 | v5 | v6 | v8
  deriving DecidableEq, Repr

/-- `version >= Version::V6`. -/
def Version.hasQualityMode : Version → Bool
  | v2 => false
  | v5 => false
  | v6 => true
  | v8 => true

structure Wave2Pdu where
  timestamp : UInt16
  formatNo : UInt16
  blockNo : UInt8
  audioTimestamp : UInt32
  data : Bytes
  deriving DecidableEq, Repr

/-- `sndpdu::ServerAudioOutputPdu`, with the fields the handler reads. -/
inductive ServerAudioOutputPdu where
  | audioFormat (version : Version) (formats : List AudioFormat)
  | training (timestamp : UInt16) (data : Bytes)
  | wave2 (pdu : Wave2Pdu)
  | volume
  | pitch
  | close
  | wave
  | waveEncrypt
  | cryptKey
  deriving DecidableEq, Repr

structure ClientAudioFormatPdu where
  version : Version
  flags : UInt32
  formats : List AudioFormat
  volumeLeft : UInt16
  volumeRight : UInt16
  pitch : UInt32
  dgramPort : UInt16
  deriving DecidableEq, Repr

/-- `sndpdu::ClientAudioOutputPdu`. -/
inductive ClientAudioOutputPdu where
  | audioFormat (pdu : ClientAudioFormatPdu)
  /-- Quality mode `High`. -/
  | qualityModeHigh
  | trainingConfirm (timestamp packSize : UInt16)
  | waveConfirm (timestamp : UInt16) (blockNo : UInt8)
  deriving DecidableEq, Repr

/-- A call of `CallbackSink`. -/
inductive AudioCallback where
  | audioFormat (codec sampleRate : UInt32) (channels : UInt16)
  | audioData (data : Bytes) (tsMs : UInt32)
  deriving DecidableEq, Repr

/-- What an observer of the handler sees. -/
inductive AudioEvent where
  | received (pdu : ServerAudioOutputPdu)
  | callback (call : AudioCallback)
  | sent (pdu : ClientAudioOutputPdu)
  deriving DecidableEq, Repr

/-- The PDU a reply carries. -/
def AudioEvent.reply : AudioEvent → Option ClientAudioOutputPdu
  | .sent pdu => some pdu
  | _ => none

def rdpAudioCodecOpus : UInt32 := 1
def rdpAudioCodecPcmS16le : UInt32 := 2
def audioFormatFlagAlive : UInt32 := 1

/-- Codec, sample rate and channels. -/
abbrev PlayFormat := UInt32 × UInt32 × UInt16

structure RdpsndDvcHandler where
  stopped : Bool := false
  clientFormats : List AudioFormat := []
  lastFormat : Option PlayFormat := none
  preferPcm : Bool := false
  deriving DecidableEq, Repr

def rdpAudioCodecFor (format : AudioFormat) : Option UInt32 :=
  if format.format = .opus ∧ format.nChannels = 2 ∧ format.nSamplesPerSec = 48000 then
    some rdpAudioCodecOpus
  else if format.format = .pcm ∧ format.nChannels = 2 ∧ format.bitsPerSample = 16 ∧
      (format.nSamplesPerSec = 44100 ∨ format.nSamplesPerSec = 48000) then
    some rdpAudioCodecPcmS16le
  else none

/-- What `on_audio_format` is told about a format of the list. -/
def playFormat (format : AudioFormat) : Option PlayFormat :=
  (rdpAudioCodecFor format).map fun codec => (codec, format.nSamplesPerSec, format.nChannels)

namespace RdpsndDvcHandler

/-- The playable formats, PCM only where that is preferred and possible. -/
def acceptedFormats (preferPcm : Bool) (offered : List AudioFormat) : List AudioFormat :=
  let formats := offered.filter fun format => (rdpAudioCodecFor format).isSome
  let pcmOnly := formats.filter fun format => rdpAudioCodecFor format = some rdpAudioCodecPcmS16le
  if preferPcm ∧ pcmOnly ≠ [] then pcmOnly else formats

def handleAudioFormat (h : RdpsndDvcHandler) (version : Version) (offered : List AudioFormat) :
    RdpsndDvcHandler × List AudioEvent :=
  let formats := acceptedFormats h.preferPcm offered
  ({ h with clientFormats := formats, lastFormat := none },
    .sent (.audioFormat {
      version, formats
      flags := audioFormatFlagAlive
      volumeLeft := 0xFFFF
      volumeRight := 0xFFFF
      pitch := 0x10000
      dgramPort := 0 }) ::
    if version.hasQualityMode then [.sent .qualityModeHigh] else [])

/-- Announces a format that is not the announced one, and plays. -/
def play (h : RdpsndDvcHandler) (pdu : Wave2Pdu) (current : PlayFormat) :
    RdpsndDvcHandler × List AudioEvent :=
  let data := .callback (.audioData pdu.data pdu.audioTimestamp)
  if h.lastFormat ≠ some current then
    ({ h with lastFormat := some current },
      [.callback (.audioFormat current.1 current.2.1 current.2.2), data])
  else (h, [data])

/-- A wave is confirmed whether it was played or not. -/
def handleWave2 (h : RdpsndDvcHandler) (pdu : Wave2Pdu) : RdpsndDvcHandler × List AudioEvent :=
  let played :=
    match (h.clientFormats[pdu.formatNo.toNat]?).bind playFormat with
    | some current => h.play pdu current
    | none => (h, [])
  (played.1, played.2 ++ [.sent (.waveConfirm pdu.timestamp pdu.blockNo)])

/-- `u16::try_from(len.saturating_add(8)).unwrap_or(0)`, the header put back. -/
def packSize (data : Bytes) : UInt16 :=
  if data = [] then 0
  else if data.length + 8 < 2 ^ 16 then UInt16.ofNat (data.length + 8)
  else 0

def handle (h : RdpsndDvcHandler) : ServerAudioOutputPdu → RdpsndDvcHandler × List AudioEvent
  | .audioFormat version formats => h.handleAudioFormat version formats
  | .training timestamp data => (h, [.sent (.trainingConfirm timestamp (packSize data))])
  | .wave2 pdu => h.handleWave2 pdu
  | .close => ({ h with lastFormat := none }, [])
  | .volume => (h, [])
  | .pitch => (h, [])
  | .wave => (h, [])
  | .waveEncrypt => (h, [])
  | .cryptKey => (h, [])

/-- An undecodable payload silences the channel for good. -/
def process (decode : Bytes → Option ServerAudioOutputPdu) (h : RdpsndDvcHandler)
    (payload : Bytes) : RdpsndDvcHandler × List AudioEvent :=
  if h.stopped then (h, [])
  else
    match decode payload with
    | none => ({ h with stopped := true }, [])
    | some pdu => ((h.handle pdu).1, .received pdu :: (h.handle pdu).2)

end RdpsndDvcHandler

/-- One handler from its creation on. -/
def rdpsndMachine (decode : Bytes → Option ServerAudioOutputPdu) (preferPcm : Bool) :
    Machine RdpsndDvcHandler Bytes (List AudioEvent) where
  init := { preferPcm }
  step h payload := some (h.process decode payload)

section Log

def formatsAfter (formats : List AudioFormat) : AudioEvent → List AudioFormat
  | .sent (.audioFormat pdu) => pdu.formats
  | _ => formats

def announcedAfter (format : Option PlayFormat) : AudioEvent → Option PlayFormat
  | .received (.audioFormat _ _) => none
  | .received .close => none
  | .callback (.audioFormat codec sampleRate channels) => some (codec, sampleRate, channels)
  | _ => format

def inHandAfter (pdu : Option ServerAudioOutputPdu) : AudioEvent → Option ServerAudioOutputPdu
  | .received next => some next
  | _ => pdu

/-- The formats of the last client list sent. -/
def sentFormats (log : List AudioEvent) : List AudioFormat := log.foldl formatsAfter []

/-- What the last format callback said, unless the server has sent a new list or
closed the stream since. -/
def announced (log : List AudioEvent) : Option PlayFormat := log.foldl announcedAfter none

/-- The PDU in hand. -/
def inHand (log : List AudioEvent) : Option ServerAudioOutputPdu := log.foldl inHandAfter none

/-- Samples belong to the wave in hand and are of the format that the list sent last has
at its index, which is also the announced one. -/
def Plays (before : List AudioEvent) (data : Bytes) (tsMs : UInt32) : Prop :=
  ∃ wave format current, inHand before = some (.wave2 wave) ∧ data = wave.data ∧
    tsMs = wave.audioTimestamp ∧ (sentFormats before)[wave.formatNo.toNat]? = some format ∧
    playFormat format = some current ∧ announced before = some current

/-- Every piece of audio in the log plays in place. -/
def Consistent (log : List AudioEvent) : Prop :=
  Throughout (fun before event => ∀ data tsMs, event = .callback (.audioData data tsMs) →
    Plays before data tsMs) log

variable {log : List AudioEvent} {event : AudioEvent}

@[simp] theorem sentFormats_snoc :
    sentFormats (log ++ [event]) = formatsAfter (sentFormats log) event := by
  simp [sentFormats]

@[simp] theorem announced_snoc :
    announced (log ++ [event]) = announcedAfter (announced log) event := by
  simp [announced]

@[simp] theorem inHand_snoc : inHand (log ++ [event]) = inHandAfter (inHand log) event := by
  simp [inHand]

end Log

section Result

variable {decode : Bytes → Option ServerAudioOutputPdu} {preferPcm : Bool}
  {h t : RdpsndDvcHandler} {log turn : List AudioEvent} {event : AudioEvent}

/-- The handler's two caches say what the log says. -/
structure Logged (log : List AudioEvent) (h : RdpsndDvcHandler) : Prop where
  formats : h.clientFormats = sentFormats log
  format : h.lastFormat = announced log
  consistent : Consistent log

theorem Logged.init : Logged [] { preferPcm } := by
  exact ⟨rfl, rfl, Throughout.nil⟩

/-- One event more, with the caches as it leaves them. -/
theorem Logged.snoc (hlogged : Logged log h)
    (hformats : t.clientFormats = formatsAfter h.clientFormats event)
    (hformat : t.lastFormat = announcedAfter h.lastFormat event)
    (hplays : ∀ data tsMs, event = .callback (.audioData data tsMs) → Plays log data tsMs) :
    Logged (log ++ [event]) t := by
  refine ⟨?_, ?_, hlogged.consistent.snoc hplays⟩
  · rw [hformats, hlogged.formats, sentFormats_snoc]
  · rw [hformat, hlogged.format, announced_snoc]

theorem Logged.quality (hlogged : Logged log h) (hasQualityMode : Bool) :
    Logged (log ++ if hasQualityMode then [.sent .qualityModeHigh] else []) h := by
  cases hasQualityMode with
  | false => simpa using hlogged
  | true => exact hlogged.snoc rfl rfl nofun

/-- A new list goes out with the announcement withdrawn. -/
theorem Logged.renegotiated (hlogged : Logged log h) (version : Version)
    (offered : List AudioFormat) :
    Logged (log ++ .received (.audioFormat version offered) ::
        (h.handleAudioFormat version offered).2)
      (h.handleAudioFormat version offered).1 := by
  rw [List.append_cons]
  have hwithdrawn : Logged (log ++ [.received (.audioFormat version offered)])
      { h with lastFormat := none } := hlogged.snoc rfl rfl nofun
  unfold RdpsndDvcHandler.handleAudioFormat
  rw [List.append_cons]
  refine Logged.quality ?_ version.hasQualityMode
  exact hwithdrawn.snoc rfl rfl nofun

/-- A wave is played in the format announced just before it, by this wave or an earlier one. -/
theorem Logged.played (hlogged : Logged log h) (pdu : Wave2Pdu) {current : PlayFormat}
    (hhand : inHand log = some (.wave2 pdu))
    (hcurrent : (h.clientFormats[pdu.formatNo.toNat]?).bind playFormat = some current) :
    Logged (log ++ (h.play pdu current).2) (h.play pdu current).1 := by
  obtain ⟨format, hformat, hplay⟩ := Option.bind_eq_some_iff.mp hcurrent
  rw [hlogged.formats] at hformat
  unfold RdpsndDvcHandler.play
  by_cases hchange : h.lastFormat = some current
  · rw [if_neg (not_not_intro hchange)]
    rw [hlogged.format] at hchange
    refine hlogged.snoc rfl rfl fun data tsMs heq => ?_
    cases heq
    exact ⟨pdu, format, current, hhand, rfl, rfl, hformat, hplay, hchange⟩
  · rw [if_pos hchange]
    have hannounced : Logged (log ++ [.callback (.audioFormat current.1 current.2.1 current.2.2)])
        { h with lastFormat := some current } := hlogged.snoc rfl rfl nofun
    rw [List.append_cons]
    refine hannounced.snoc rfl rfl fun data tsMs heq => ?_
    cases heq
    refine ⟨pdu, format, current, ?_, rfl, rfl, ?_, hplay, ?_⟩
    · rw [inHand_snoc, hhand]
      rfl
    · rw [sentFormats_snoc]
      exact hformat
    · rw [announced_snoc]
      rfl

theorem handleWave2_logged (hlogged : Logged log h) (pdu : Wave2Pdu) :
    Logged (log ++ .received (.wave2 pdu) :: (h.handleWave2 pdu).2) (h.handleWave2 pdu).1 := by
  have hreceived : Logged (log ++ [.received (.wave2 pdu)]) h := hlogged.snoc rfl rfl nofun
  have hhand : inHand (log ++ [.received (.wave2 pdu)]) = some (.wave2 pdu) := inHand_snoc
  unfold RdpsndDvcHandler.handleWave2
  rw [List.append_cons]
  generalize log ++ [AudioEvent.received (.wave2 pdu)] = log' at hreceived hhand ⊢
  rw [← List.append_assoc]
  cases hcurrent : (h.clientFormats[pdu.formatNo.toNat]?).bind playFormat with
  | none =>
    rw [List.append_nil]
    exact hreceived.snoc rfl rfl nofun
  | some current => exact (hreceived.played pdu hhand hcurrent).snoc rfl rfl nofun

theorem handle_logged (hlogged : Logged log h) (pdu : ServerAudioOutputPdu) :
    Logged (log ++ .received pdu :: (h.handle pdu).2) (h.handle pdu).1 := by
  cases pdu with
  | audioFormat version offered => exact hlogged.renegotiated version offered
  | wave2 pdu => exact handleWave2_logged hlogged pdu
  | training timestamp data =>
    have hreceived : Logged (log ++ [.received (.training timestamp data)]) h :=
      hlogged.snoc rfl rfl nofun
    rw [List.append_cons]
    exact hreceived.snoc rfl rfl nofun
  | close => exact hlogged.snoc rfl rfl nofun
  | volume => exact hlogged.snoc rfl rfl nofun
  | pitch => exact hlogged.snoc rfl rfl nofun
  | wave => exact hlogged.snoc rfl rfl nofun
  | waveEncrypt => exact hlogged.snoc rfl rfl nofun
  | cryptKey => exact hlogged.snoc rfl rfl nofun

theorem process_logged (decode : Bytes → Option ServerAudioOutputPdu) (hlogged : Logged log h) (payload : Bytes) :
    Logged (log ++ (h.process decode payload).2) (h.process decode payload).1 := by
  unfold RdpsndDvcHandler.process
  split
  · rw [List.append_nil]
    exact hlogged
  · split
    · rw [List.append_nil]
      exact ⟨hlogged.formats, hlogged.format, hlogged.consistent⟩
    · exact handle_logged hlogged _

theorem run_logged {tr : List (Bytes × List AudioEvent)}
    (hr : (rdpsndMachine decode preferPcm).Run tr h) : Logged (tr.flatMap Prod.snd) h := by
  apply hr.history (I := fun tr h => Logged (tr.flatMap Prod.snd) h) Logged.init
  intro tr h payload t turn hlogged hstep
  have hturn := process_logged decode hlogged payload
  rw [Option.some.inj hstep] at hturn
  simpa using hturn

theorem play_frame (h : RdpsndDvcHandler) (wave : Wave2Pdu) (current : PlayFormat) :
    (h.play wave current).1.stopped = h.stopped ∧
      (h.play wave current).2.filterMap AudioEvent.reply = [] ∧
      ∀ pdu, AudioEvent.received pdu ∉ (h.play wave current).2 := by
  unfold RdpsndDvcHandler.play
  split
  · exact ⟨rfl, rfl, by simp⟩
  · exact ⟨rfl, rfl, by simp⟩

/-- A wave is confirmed once, and nothing else is replied to it. -/
theorem handleWave2_confirms (h : RdpsndDvcHandler) (wave : Wave2Pdu) :
    (AudioEvent.received (.wave2 wave) :: (h.handle (.wave2 wave)).2).filterMap AudioEvent.reply =
      [.waveConfirm wave.timestamp wave.blockNo] := by
  show List.filterMap AudioEvent.reply (_ :: (h.handleWave2 wave).2) = _
  unfold RdpsndDvcHandler.handleWave2
  rw [List.filterMap_cons_none rfl, List.filterMap_append]
  split
  · rw [(play_frame h wave _).2.1]
    rfl
  · rfl

theorem handle_frame (h : RdpsndDvcHandler) (pdu : ServerAudioOutputPdu) :
    (h.handle pdu).1.stopped = h.stopped ∧ ∀ other, AudioEvent.received other ∉ (h.handle pdu).2 := by
  cases pdu with
  | audioFormat version offered =>
    cases version <;> simp [RdpsndDvcHandler.handle, RdpsndDvcHandler.handleAudioFormat,
      Version.hasQualityMode]
  | wave2 wave =>
    simp only [RdpsndDvcHandler.handle, RdpsndDvcHandler.handleWave2]
    split
    · obtain ⟨hstopped, -, hnone⟩ := play_frame h wave _
      exact ⟨hstopped, fun other => by simpa using hnone other⟩
    · simp
  | _ => simp [RdpsndDvcHandler.handle]

theorem process_received {payload : Bytes} {pdu : ServerAudioOutputPdu}
    (hmem : .received pdu ∈ (h.process decode payload).2) :
    decode payload = some pdu ∧ (h.process decode payload).2 = .received pdu :: (h.handle pdu).2 := by
  unfold RdpsndDvcHandler.process at hmem ⊢
  split at hmem
  · cases hmem
  · rename_i hrunning
    rw [if_neg hrunning]
    split at hmem
    · cases hmem
    · rename_i pdu' hdecode
      rcases List.mem_cons.mp hmem with heq | hlater
      · cases heq
        exact ⟨hdecode, rfl⟩
      · exact absurd hlater ((handle_frame h pdu').2 pdu)

theorem process_stopped {payload : Bytes} {r : RdpsndDvcHandler × List AudioEvent}
    (hr : h.process decode payload = r) (hstopped : r.1.stopped) :
    h.stopped ∨ decode payload = none := by
  subst hr
  unfold RdpsndDvcHandler.process at hstopped
  split at hstopped
  · exact .inl hstopped
  · split at hstopped
    · exact .inr ‹_›
    · rw [(handle_frame h _).1] at hstopped
      exact .inl hstopped

/-- The channel is silenced by the first payload that cannot be decoded. -/
theorem run_stopped {tr : List (Bytes × List AudioEvent)}
    (hr : (rdpsndMachine decode preferPcm).Run tr h) :
    h.stopped → ∃ x ∈ tr, decode x.1 = none := by
  apply hr.history (I := fun tr h => h.stopped → ∃ x ∈ tr, decode x.1 = none) nofun
  intro tr h payload t turn hbefore hstep hstopped
  rcases process_stopped (Option.some.inj hstep) hstopped with hold | hbad
  · obtain ⟨x, hx, hnone⟩ := hbefore hold
    exact ⟨x, List.mem_append_left _ hx, hnone⟩
  · exact ⟨_, List.mem_append_right _ (List.mem_singleton_self _), hbad⟩

/-- Along every run audio plays in the format that the wave's index has in the list sent
last, which is the announced one; a wave that is decoded is confirmed once; and a
payload that is not decoded leaves no trace. -/
theorem rdpsnd_playback_consistent {tr : List (Bytes × List AudioEvent)}
    (hr : (rdpsndMachine decode preferPcm).Run tr h) :
    (∀ before data tsMs after,
      tr.flatMap Prod.snd = before ++ .callback (.audioData data tsMs) :: after →
      ∃ wave format current, inHand before = some (.wave2 wave) ∧ data = wave.data ∧
        tsMs = wave.audioTimestamp ∧ (sentFormats before)[wave.formatNo.toNat]? = some format ∧
        playFormat format = some current ∧ announced before = some current) ∧
    ∀ pre payload turn post, tr = pre ++ (payload, turn) :: post →
      (∀ pdu, .received pdu ∈ turn → decode payload = some pdu) ∧
      (∀ wave, .received (.wave2 wave) ∈ turn →
        turn.filterMap AudioEvent.reply = [.waveConfirm wave.timestamp wave.blockNo]) ∧
      (∀ pdu, decode payload = some pdu → (∀ x ∈ pre, decode x.1 ≠ none) → .received pdu ∈ turn) ∧
      (decode payload = none → turn = []) := by
  refine ⟨fun before data tsMs after heq => (run_logged hr).consistent _ _ _ heq data tsMs rfl, ?_⟩
  rintro pre payload turn post rfl
  obtain ⟨s, t, hpre, hstep, -⟩ := hr.split_at
  obtain rfl : (s.process decode payload).2 = turn := congrArg Prod.snd (Option.some.inj hstep)
  refine ⟨fun pdu hmem => (process_received hmem).1, fun wave hmem => ?_,
    fun pdu hdecode hgood => ?_, fun hnone => ?_⟩
  · rw [(process_received hmem).2]
    exact handleWave2_confirms s wave
  · have hrunning : ¬s.stopped := by
      intro hstopped
      obtain ⟨x, hx, hnone⟩ := run_stopped hpre hstopped
      exact hgood x hx hnone
    rw [RdpsndDvcHandler.process, if_neg hrunning, hdecode]
    exact List.mem_cons_self
  · rw [RdpsndDvcHandler.process, hnone]
    split <;> rfl

def opus48 : AudioFormat :=
  { format := .opus, nChannels := 2, nSamplesPerSec := 48000, nAvgBytesPerSec := 12000
    nBlockAlign := 4, bitsPerSample := 16 }

def pcm44 : AudioFormat :=
  { format := .pcm, nChannels := 2, nSamplesPerSec := 44100, nAvgBytesPerSec := 176400
    nBlockAlign := 4, bitsPerSample := 16 }

/-- A decoder that knows a list of two formats, a wave in the second of them and the end. -/
def sampleDecode : Bytes → Option ServerAudioOutputPdu
  | [7] => some (.audioFormat .v5 [opus48, pcm44])
  | [13, block] =>
    some (.wave2 {
      timestamp := 100, formatNo := 1, blockNo := block, audioTimestamp := 5000, data := [1, 2] })
  | [1] => some .close
  | _ => none

/-- After a Close the format is announced again before the next wave plays. -/
theorem rdpsnd_playback_consistent_sample :
    ∃ tr h before, (rdpsndMachine sampleDecode false).Run tr h ∧
      tr.map Prod.fst = [[7], [13, 1], [1], [13, 2], [0]] ∧
      (∃ after, tr.flatMap Prod.snd = before ++ .callback (.audioData [1, 2] 5000) :: after ∧
        after = [.sent (.waveConfirm 100 2)]) ∧
      ∃ wave, inHand before = some (.wave2 wave) ∧ announced before = some (2, 44100, 2) := by
  have hr := Machine.run_of_exec (M := rdpsndMachine sampleDecode false)
    [[7], [13, 1], [1], [13, 2], [0]] (by decide)
  obtain ⟨wave, format, current, hhand, -⟩ := (rdpsnd_playback_consistent hr).1
    [.received (.audioFormat .v5 [opus48, pcm44]),
      .sent (.audioFormat ⟨.v5, 1, [opus48, pcm44], 0xFFFF, 0xFFFF, 0x10000, 0⟩),
      .received (.wave2 ⟨100, 1, 1, 5000, [1, 2]⟩), .callback (.audioFormat 2 44100 2),
      .callback (.audioData [1, 2] 5000), .sent (.waveConfirm 100 1), .received .close,
      .received (.wave2 ⟨100, 1, 2, 5000, [1, 2]⟩), .callback (.audioFormat 2 44100 2)]
    [1, 2] 5000 [.sent (.waveConfirm 100 2)] (by decide)
  exact ⟨_, _, _, hr, by decide, ⟨_, by decide, rfl⟩, wave, hhand, by decide⟩

end Result

end Lgnome.Audio
