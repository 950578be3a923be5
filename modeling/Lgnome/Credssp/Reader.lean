import Lgnome.Credssp.Framing

/-!
# Reading TSRequests from the socket

The worker appends what a read gives to its buffer and looks at the framing again, until the
buffer holds a whole message. What a read brought beyond the message stays in the buffer for
the next one, or for the phase behind CredSSP. The framer's verdict, once there, does not
depend on bytes that come later, so the cuts between the reads do not matter.
-/
namespace Lgnome.Credssp

/-- The two kinds of `NativeError` that a read can give. -/
inductive NativeError
  | network (message : String)
  | protocol (message : String)
  deriving DecidableEq, Repr

def readBufferSize : Nat := 8192
def maxTransportBufferSize : Nat := maxTsRequestSize + 8192

/-- What one read gives: at least a byte, and no more than its buffer takes. -/
structure Chunk where
  bytes : Bytes
  ne_nil : bytes ≠ []
  length_le : bytes.length ≤ readBufferSize

/-- What the loop meets, in order: a stop command in the queue, the deadline of the phase, or
the outcome of a read. -/
inductive ReadEvent
  | stop
  | expired
  | read (chunk : Chunk)
  | timeout
  | closed
  | failed (message : String)

def ReadEvent.isStop : ReadEvent → Bool
  | .stop => true
  | _ => false

inductive ReadOutcome
  | message (bytes : Bytes)
  | error (e : NativeError)
  | waiting

def bufferLimitMessage : String := "incoming transport buffer exceeds the size limit"

def bufferLimit : NativeError := .protocol bufferLimitMessage

def appendInput (inbuf bytes : Bytes) : Except NativeError Bytes :=
  match checkedAdd inbuf.length bytes.length with
  | none => .error bufferLimit
  | some size => if maxTransportBufferSize < size then .error bufferLimit else .ok (inbuf ++ bytes)

/-- The length of the message that the buffer starts with, once all of it is there. -/
def completeLen (inbuf : Bytes) : Except NativeError (Option Nat) :=
  match tsRequestLen inbuf with
  | .error e => .error (.protocol e)
  | .ok none => .ok none
  | .ok (some total) => .ok (if total ≤ inbuf.length then some total else none)

/-- `read_ts_request`: the outcome, the buffer, and the events still to come. It waits when
the socket gives nothing more. -/
def readTsRequest (inbuf : Bytes) : List ReadEvent → ReadOutcome × Bytes × List ReadEvent
  | [] =>
    match completeLen inbuf with
    | .error e => (.error e, inbuf, [])
    | .ok (some total) => (.message (inbuf.take total), inbuf.drop total, [])
    | .ok none => (.waiting, inbuf, [])
  | event :: rest =>
    if event.isStop then (.error (.network "CredSSP stopped"), inbuf, rest)
    else match completeLen inbuf with
    | .error e => (.error e, inbuf, event :: rest)
    | .ok (some total) => (.message (inbuf.take total), inbuf.drop total, event :: rest)
    | .ok none =>
      match event with
      | .stop => (.error (.network "CredSSP stopped"), inbuf, rest)
      | .expired =>
        (.error (.network "CredSSP TSRequest: connection phase deadline exceeded"), inbuf, rest)
      | .closed => (.error (.network "CredSSP TSRequest: peer closed connection"), inbuf, rest)
      | .failed message =>
        (.error (.network ("CredSSP TSRequest: read: " ++ message)), inbuf, rest)
      | .timeout => readTsRequest inbuf rest
      | .read chunk =>
        match appendInput inbuf chunk.bytes with
        | .error e => (.error e, inbuf, rest)
        | .ok inbuf => readTsRequest inbuf rest

/-- So many reads in a row, `none` as soon as one gives no message. -/
def readTsRequests : Nat → Bytes → List ReadEvent → Option (List Bytes × Bytes × List ReadEvent)
  | 0, inbuf, events => some ([], inbuf, events)
  | n + 1, inbuf, events =>
    match readTsRequest inbuf events with
    | (.message bytes, inbuf, events) =>
      (readTsRequests n inbuf events).map fun (messages, rest) => (bytes :: messages, rest)
    | _ => none

/-! ## The framer -/

section Framer

variable {a b buf m : Bytes} {n total : Nat}

/-- Another first byte is refused, whatever follows. -/
theorem tsRequestLen_tag {x : UInt8} (h : x ≠ 0x30) (rest : Bytes) :
    tsRequestLen (x :: rest) = .error "CredSSP TSRequest has an invalid DER tag" := by
  unfold tsRequestLen
  rw [List.isEmpty_cons, if_neg (by decide), List.getD_cons_zero, if_pos h]

/-- More bytes change no verdict but the one to wait. -/
theorem tsRequestLen_stable (b : Bytes) (h : tsRequestLen a ≠ .ok none) :
    tsRequestLen (a ++ b) = tsRequestLen a := by
  match a with
  | [] => exact absurd rfl h
  | [x] =>
    by_cases hx : x = 0x30
    · subst hx
      exact absurd rfl h
    · rw [List.singleton_append, tsRequestLen_tag hx, tsRequestLen_tag hx]
  | x :: y :: rest =>
    by_cases hx : x = 0x30
    · subst hx
      rw [List.cons_append, List.cons_append]
      rw [tsRequestLen_cons _ _ _ rfl] at h ⊢
      rw [tsRequestLen_cons _ _ _ rfl]
      by_cases hshort : y < 0x80
      · rw [if_pos hshort, if_pos hshort]
      · rw [if_neg hshort, if_neg hshort]
        rw [if_neg hshort] at h
        by_cases hform : (y &&& 0x7f).toNat = 0 ∨ 4 < (y &&& 0x7f).toNat
        · rw [if_pos hform, if_pos hform]
        · rw [if_neg hform, if_neg hform]
          rw [if_neg hform] at h
          by_cases hwait : rest.length < (y &&& 0x7f).toNat
          · rw [if_pos hwait] at h
            exact absurd rfl h
          · have hmore : ¬ (rest ++ b).length < (y &&& 0x7f).toNat := by
              rw [List.length_append]
              omega
            have hfirst : (rest ++ b).getD 0 0 = rest.getD 0 0 := by
              cases rest with
              | nil =>
                rw [List.length_nil] at hwait
                omega
              | cons z rest => rfl
            rw [if_neg hwait, if_neg hmore, hfirst,
              List.take_append_of_le_length (Nat.le_of_not_lt hwait)]
    · rw [List.cons_append, tsRequestLen_tag hx, tsRequestLen_tag hx]

/-- The verdict is within the size limit, left open only for less than a header, and no
complaint about the buffer. -/
structure Limited (buf : Bytes) (verdict : Except String (Option Nat)) : Prop where
  total_le : ∀ total, verdict = .ok (some total) → total ≤ maxTsRequestSize
  short : verdict = .ok none → buf.length < 6
  other : verdict ≠ .error bufferLimitMessage

theorem limited_error (buf : Bytes) {e : String} (he : e ≠ bufferLimitMessage) :
    Limited buf (.error e) where
  total_le total h := by cases h
  short h := by cases h
  other h := by
    cases h
    exact he rfl

theorem limited_none (h : buf.length < 6) : Limited buf (.ok none) where
  total_le total h := by cases h
  short _ := h
  other h := by cases h

theorem longLength_error {length : Nat} {bytes : Bytes} {e : String}
    (h : longLength length bytes = .error e) : e = "CredSSP TSRequest length overflow" := by
  induction bytes generalizing length with
  | nil =>
    rw [longLength] at h
    cases h
  | cons byte bytes ih =>
    rw [longLength] at h
    split at h
    · cases h
      rfl
    · exact ih h

theorem limited_total (buf : Bytes) (headerLen length : Nat) :
    Limited buf (requestTotal headerLen length) := by
  unfold requestTotal
  split
  · exact limited_error buf (by decide)
  · rename_i found hfound
    constructor
    · intro total h
      cases h
      exact of_decide_eq_true (Option.filter_eq_some_iff.mp hfound).2
    · intro h
      cases h
    · intro h
      cases h

theorem tsRequestLen_limited (buf : Bytes) : Limited buf (tsRequestLen buf) := by
  match buf with
  | [] => exact limited_none (by decide)
  | [x] =>
    by_cases hx : x = 0x30
    · subst hx
      exact limited_none (by decide)
    · rw [tsRequestLen_tag hx]
      exact limited_error _ (by decide)
  | x :: y :: rest =>
    by_cases hx : x = 0x30
    · subst hx
      rw [tsRequestLen_cons _ _ _ rfl]
      by_cases hshort : y < 0x80
      · rw [if_pos hshort]
        exact limited_total _ _ _
      · rw [if_neg hshort]
        by_cases hform : (y &&& 0x7f).toNat = 0 ∨ 4 < (y &&& 0x7f).toNat
        · rw [if_pos hform]
          exact limited_error _ (by decide)
        · rw [if_neg hform]
          by_cases hwait : rest.length < (y &&& 0x7f).toNat
          · rw [if_pos hwait]
            apply limited_none
            rw [List.length_cons, List.length_cons]
            omega
          · rw [if_neg hwait]
            by_cases hzero : rest.getD 0 0 = 0
            · rw [if_pos hzero]
              exact limited_error _ (by decide)
            · rw [if_neg hzero]
              cases hlong : longLength 0 (rest.take (y &&& 0x7f).toNat) with
              | error e =>
                refine limited_error _ ?_
                rw [longLength_error hlong]
                decide
              | ok length =>
                show Limited _ (if length < 128 then _ else requestTotal _ length)
                by_cases hminimal : length < 128
                · rw [if_pos hminimal]
                  exact limited_error _ (by decide)
                · rw [if_neg hminimal]
                  exact limited_total _ _ _
    · rw [tsRequestLen_tag hx]
      exact limited_error _ (by decide)

/-- A buffer without a whole message leaves room for a read. -/
theorem completeLen_short (h : completeLen buf = .ok none) : buf.length < maxTsRequestSize := by
  obtain ⟨hlimit, hshort, -⟩ := tsRequestLen_limited buf
  unfold completeLen at h
  split at h
  · cases h
  · rename_i hnone
    have hheader := hshort hnone
    unfold maxTsRequestSize
    omega
  · rename_i total htotal
    have hle := hlimit total htotal
    by_cases hall : total ≤ buf.length
    · rw [if_pos hall] at h
      cases h
    · omega

/-- Then the read is appended. -/
theorem appendInput_ok (h : completeLen buf = .ok none) (chunk : Chunk) :
    appendInput buf chunk.bytes = .ok (buf ++ chunk.bytes) := by
  have hshort := completeLen_short h
  have hchunk := chunk.length_le
  unfold readBufferSize at hchunk
  unfold maxTsRequestSize at hshort
  unfold appendInput checkedAdd
  rw [if_pos (by omega)]
  show (if maxTransportBufferSize < buf.length + chunk.bytes.length then _ else _) = _
  rw [if_neg (by unfold maxTransportBufferSize maxTsRequestSize; omega)]

end Framer

/-! ## The reader -/

/-- A DER SEQUENCE within the size limit. -/
def WellFramed (m : Bytes) : Prop :=
  ∃ content, m = sequence content ∧ (sequence content).length ≤ maxTsRequestSize

/-- The bytes that the events bring. -/
def received : List ReadEvent → Bytes
  | [] => []
  | .read chunk :: rest => chunk.bytes ++ received rest
  | _ :: rest => received rest

/-- Reads and timeouts only. -/
def Undisturbed (events : List ReadEvent) : Prop :=
  ∀ event ∈ events, event = .timeout ∨ ∃ chunk, event = .read chunk

section Reader

variable {m inbuf rest : Bytes} {events : List ReadEvent}

theorem WellFramed.verdict (h : WellFramed m) : tsRequestLen m = .ok (some m.length) := by
  obtain ⟨content, rfl, hlimit⟩ := h
  refine tsRequestLen_received hlimit List.prefix_rfl ?_
  rw [sequence_eq, List.length_append]
  omega

/-- A part of the message leaves the verdict open or has it right. -/
theorem WellFramed.part (h : WellFramed m) (hpart : inbuf <+: m) :
    tsRequestLen inbuf = .ok none ∨ tsRequestLen inbuf = .ok (some m.length) := by
  obtain ⟨more, hmore⟩ := hpart
  by_cases hopen : tsRequestLen inbuf = .ok none
  · exact .inl hopen
  · have hstable := tsRequestLen_stable more hopen
    rw [hmore, h.verdict] at hstable
    exact .inr hstable.symm

/-- The buffer holds the message, or part of it. -/
theorem WellFramed.completeLen (h : WellFramed m) (heq : inbuf ++ received events = m ++ rest) :
    (∃ more, inbuf = m ++ more ∧ more ++ received events = rest ∧
        Credssp.completeLen inbuf = .ok (some m.length)) ∨
      (inbuf.length < m.length ∧ Credssp.completeLen inbuf = .ok none) := by
  by_cases hall : m.length ≤ inbuf.length
  · have hprefix : m <+: inbuf := by
      refine List.prefix_of_prefix_length_le ⟨rest, rfl⟩ ?_ hall
      rw [← heq]
      exact List.prefix_append _ _
    obtain ⟨more, rfl⟩ := hprefix
    rw [List.append_assoc] at heq
    have hverdict : tsRequestLen (m ++ more) = .ok (some m.length) := by
      rw [tsRequestLen_stable more (by rw [h.verdict]; intro hnone; cases hnone)]
      exact h.verdict
    refine .inl ⟨more, rfl, List.append_cancel_left heq, ?_⟩
    unfold Credssp.completeLen
    rw [hverdict]
    dsimp only
    rw [if_pos hall]
  · have hpart : inbuf <+: m := by
      refine List.prefix_of_prefix_length_le ?_ (List.prefix_append m rest) (by omega)
      rw [← heq]
      exact List.prefix_append _ _
    refine .inr ⟨by omega, ?_⟩
    unfold Credssp.completeLen
    obtain hopen | hknown := h.part hpart
    · rw [hopen]
    · rw [hknown]
      dsimp only
      rw [if_neg hall]

/-- One message is read to its end and no further. -/
theorem readTsRequest_message (h : WellFramed m) (hquiet : Undisturbed events)
    (heq : inbuf ++ received events = m ++ rest) :
    ∃ inbuf' events', readTsRequest inbuf events = (.message m, inbuf', events') ∧
      events' <:+ events ∧ inbuf' ++ received events' = rest := by
  induction events generalizing inbuf with
  | nil =>
    obtain ⟨more, rfl, hrest, hcomplete⟩ | ⟨hshort, -⟩ := h.completeLen heq
    · refine ⟨more, [], ?_, List.suffix_rfl, hrest⟩
      rw [readTsRequest, hcomplete]
      dsimp only
      rw [List.take_left, List.drop_left]
    · have hlength := congrArg List.length heq
      rw [received, List.append_nil, List.length_append] at hlength
      omega
  | cons event events ih =>
    have htail : Undisturbed events := fun x hx => hquiet x (List.mem_cons_of_mem event hx)
    obtain ⟨more, rfl, hrest, hcomplete⟩ | ⟨hshort, hcomplete⟩ := h.completeLen heq
    · refine ⟨more, event :: events, ?_, List.suffix_rfl, hrest⟩
      have hgoes : event.isStop = false := by
        obtain rfl | ⟨chunk, rfl⟩ := hquiet event List.mem_cons_self
        · rfl
        · rfl
      unfold readTsRequest
      rw [hgoes, hcomplete]
      dsimp only
      rw [if_neg (by decide), List.take_left, List.drop_left]
    · obtain rfl | ⟨chunk, rfl⟩ := hquiet event List.mem_cons_self
      · obtain ⟨inbuf', events', hread, hsuffix, hrest⟩ := ih htail heq
        refine ⟨inbuf', events', ?_, hsuffix.trans (List.suffix_cons _ _), hrest⟩
        rw [readTsRequest, hcomplete]
        exact hread
      · have hmore : (inbuf ++ chunk.bytes) ++ received events = m ++ rest := by
          rw [List.append_assoc]
          exact heq
        obtain ⟨inbuf', events', hread, hsuffix, hrest⟩ := ih htail hmore
        refine ⟨inbuf', events', ?_, hsuffix.trans (List.suffix_cons _ _), hrest⟩
        rw [readTsRequest, hcomplete]
        dsimp only
        rw [appendInput_ok hcomplete chunk]
        exact hread

/-- No framing error is the one of the buffer limit. -/
theorem completeLen_ne_limit (inbuf : Bytes) : completeLen inbuf ≠ .error bufferLimit := by
  have hother := (tsRequestLen_limited inbuf).other
  unfold completeLen
  split
  · rename_i e he
    intro h
    cases h
    exact hother he
  · intro h
    cases h
  · intro h
    cases h

/-- No read runs into the buffer limit. -/
theorem readTsRequest_limit (inbuf : Bytes) (events : List ReadEvent) :
    (readTsRequest inbuf events).1 ≠ .error bufferLimit := by
  induction events generalizing inbuf with
  | nil =>
    rw [readTsRequest]
    cases hcomplete : completeLen inbuf with
    | error e =>
      intro h
      cases h
      exact completeLen_ne_limit inbuf hcomplete
    | ok total =>
      cases total with
      | none =>
        intro h
        cases h
      | some total =>
        intro h
        cases h
  | cons event rest ih =>
    unfold readTsRequest
    by_cases hstop : event.isStop
    · rw [if_pos hstop]
      intro h
      cases h
    · rw [if_neg hstop]
      cases hcomplete : completeLen inbuf with
      | error e =>
        intro h
        cases h
        exact completeLen_ne_limit inbuf hcomplete
      | ok total =>
        cases total with
        | some total =>
          intro h
          cases h
        | none =>
          cases event with
          | timeout => exact ih inbuf
          | read chunk =>
            dsimp only
            rw [appendInput_ok hcomplete chunk]
            exact ih _
          | stop =>
            intro h
            cases h
          | expired =>
            intro h
            cases h
          | closed =>
            intro h
            cases h
          | failed message =>
            intro h
            cases h

/-- The run lemma: a run of messages is read, and what lies behind stays. -/
theorem readTsRequests_messages {messages : List Bytes} (hframed : ∀ m ∈ messages, WellFramed m)
    (hquiet : Undisturbed events) (heq : inbuf ++ received events = messages.flatten ++ rest) :
    ∃ inbuf' events', readTsRequests messages.length inbuf events
        = some (messages, inbuf', events') ∧
      events' <:+ events ∧ inbuf' ++ received events' = rest := by
  induction messages generalizing inbuf events with
  | nil => exact ⟨inbuf, events, rfl, List.suffix_rfl, heq⟩
  | cons m messages ih =>
    rw [List.flatten_cons, List.append_assoc] at heq
    obtain ⟨inbuf₁, events₁, hread, hsuffix₁, heq₁⟩ :=
      readTsRequest_message (hframed m List.mem_cons_self) hquiet heq
    have hquiet₁ : Undisturbed events₁ := fun x hx => hquiet x (hsuffix₁.subset hx)
    obtain ⟨inbuf₂, events₂, hmore, hsuffix₂, heq₂⟩ :=
      ih (fun x hx => hframed x (List.mem_cons_of_mem m hx)) hquiet₁ heq₁
    refine ⟨inbuf₂, events₂, ?_, hsuffix₂.trans hsuffix₁, heq₂⟩
    rw [List.length_cons, readTsRequests, hread]
    dsimp only
    rw [hmore]
    rfl

end Reader

/-- The reader: however the stream is cut into reads, it gives the messages one by one and
leaves what lies behind them, in the buffer as far as it was read. No buffer and no reads
bring it to the buffer limit, and a verdict of the framer stands, whatever comes after. -/
theorem credssp_reader :
    (∀ messages rest inbuf events, (∀ m ∈ messages, WellFramed m) → Undisturbed events →
      inbuf ++ received events = messages.flatten ++ rest →
      ∃ inbuf' events', readTsRequests messages.length inbuf events
          = some (messages, inbuf', events') ∧
        events' <:+ events ∧ inbuf' ++ received events' = rest) ∧
    (∀ inbuf events, (readTsRequest inbuf events).1 ≠ .error bufferLimit) ∧
    ∀ a b, tsRequestLen a ≠ .ok none → tsRequestLen (a ++ b) = tsRequestLen a := by
  refine ⟨?_, readTsRequest_limit, ?_⟩
  · intro messages rest inbuf events hframed hquiet heq
    exact readTsRequests_messages hframed hquiet heq
  · intro a b h
    exact tsRequestLen_stable b h

/-- Two messages and a byte of the next phase, cut inside the first header and the second
message. -/
theorem credssp_reader_cut :
    ∃ inbuf' events', readTsRequests 2 [] [.read ⟨[0x30], by decide, by decide⟩, .timeout,
        .read ⟨[0x00, 0x30, 0x02, 7], by decide, by decide⟩,
        .read ⟨[8, 0xff], by decide, by decide⟩]
          = some ([[0x30, 0x00], [0x30, 0x02, 7, 8]], inbuf', events') ∧
      events' <:+ [.read ⟨[0x30], by decide, by decide⟩, .timeout,
        .read ⟨[0x00, 0x30, 0x02, 7], by decide, by decide⟩,
        .read ⟨[8, 0xff], by decide, by decide⟩] ∧
      inbuf' ++ received events' = [0xff] := by
  refine credssp_reader.1 [[0x30, 0x00], [0x30, 0x02, 7, 8]] [0xff] [] _ ?_ ?_ rfl
  · intro m hm
    obtain rfl | hm := List.mem_cons.mp hm
    · exact ⟨[], rfl, by decide⟩
    · obtain rfl := List.mem_singleton.mp hm
      exact ⟨[7, 8], rfl, by decide⟩
  · intro event hevent
    simp only [List.mem_cons, List.not_mem_nil, or_false] at hevent
    obtain rfl | rfl | rfl | rfl := hevent
    · exact .inr ⟨_, rfl⟩
    · exact .inl rfl
    · exact .inr ⟨_, rfl⟩
    · exact .inr ⟨_, rfl⟩

end Lgnome.Credssp
