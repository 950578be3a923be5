import Lgnome.Input.EventQueue

/-!
# The event queue over whole runs

The record of a run says which events were accepted, delivered and discarded.
Between two discards the accepted events of one time are the delivered ones
followed by those still in the ring, and delivery as a whole follows the time.
-/
namespace Lgnome.Input

open Lgnome.Transition
open NativeEventQueue (capacity)

abbrev QueueRecord := List (QueueOp × QueueSeen)

namespace QueueSeen

def acceptedEvent : QueueSeen → Option NativeEvent
  | .accepted event => some event
  | _ => none

def deliveredEvent : QueueSeen → Option NativeEvent
  | .popped event => event
  | _ => none

/-- The calls that empty the ring without delivering. -/
def discards : QueueSeen → Bool
  | .overflowed => true
  | .dropped => true
  | _ => false

/-- Whether a discard is still to be reported after the call. -/
def unreported (before : Bool) : QueueSeen → Bool
  | .overflowed => true
  | .dropped => true
  | .taken _ => false
  | _ => before

end QueueSeen

/-- The watermark after the call. -/
def QueueOp.watermark (before : UInt64) : QueueOp → UInt64
  | .publishBefore timeUs => timeUs
  | _ => before

namespace QueueRecord

def accepted (rec : QueueRecord) : List NativeEvent := rec.filterMap fun x => x.2.acceptedEvent

def delivered (rec : QueueRecord) : List NativeEvent := rec.filterMap fun x => x.2.deliveredEvent

/-- The calls behind the latest discard. -/
def sinceDiscard (rec : QueueRecord) : QueueRecord := rec.rtakeWhile fun x => !x.2.discards

/-- Whether a discard has not been taken by the consumer yet. -/
def unreported (rec : QueueRecord) : Bool :=
  rec.foldl (fun before x => x.2.unreported before) false

/-- The time published last. -/
def watermark (rec : QueueRecord) : UInt64 :=
  rec.foldl (fun before x => x.1.watermark before) 0

section Snoc

variable (rec : QueueRecord) (op : QueueOp) (seen : QueueSeen)

@[simp] theorem accepted_snoc :
    accepted (rec ++ [(op, seen)]) = accepted rec ++ seen.acceptedEvent.toList := by
  simp only [accepted, List.filterMap_append]
  cases h : seen.acceptedEvent <;> simp [h]

@[simp] theorem delivered_snoc :
    delivered (rec ++ [(op, seen)]) = delivered rec ++ seen.deliveredEvent.toList := by
  simp only [delivered, List.filterMap_append]
  cases h : seen.deliveredEvent <;> simp [h]

@[simp] theorem unreported_snoc :
    unreported (rec ++ [(op, seen)]) = seen.unreported (unreported rec) := by
  simp [unreported]

@[simp] theorem watermark_snoc :
    watermark (rec ++ [(op, seen)]) = op.watermark (watermark rec) := by
  simp [watermark]

@[simp] theorem sinceDiscard_snoc :
    sinceDiscard (rec ++ [(op, seen)])
      = if seen.discards then [] else sinceDiscard rec ++ [(op, seen)] := by
  unfold sinceDiscard
  rw [List.rtakeWhile_concat]
  cases seen.discards <;> rfl

end Snoc

end QueueRecord

/-- What the callers keep to: no watermark goes back, and nothing pushed is older
than a watermark that was published before it. -/
def Disciplined (queue : NativeEventQueue) : QueueOp → Prop
  | .push event => queue.publishedBeforeUs ≤ event.timeUs
  | .publishBefore timeUs => queue.publishedBeforeUs ≤ timeUs
  | _ => True

instance (queue : NativeEventQueue) (op : QueueOp) : Decidable (Disciplined queue op) :=
  match op with
  | .push event => inferInstanceAs (Decidable (queue.publishedBeforeUs ≤ event.timeUs))
  | .publishBefore timeUs => inferInstanceAs (Decidable (queue.publishedBeforeUs ≤ timeUs))
  | .pop _ => inferInstanceAs (Decidable True)
  | .takeReset => inferInstanceAs (Decidable True)
  | .reset => inferInstanceAs (Decidable True)

open QueueRecord in
/-- How a record and the list behind the ring belong together. -/
structure Ledger (rec : QueueRecord) (backlog : Backlog) : Prop where
  pending : backlog.resetPending = unreported rec
  bounded : backlog.publicationBounded = true
  before : backlog.publishedBefore = (watermark rec).toNat
  empty : backlog.resetPending = true → backlog.contents = []
  ordered : Stable.Ordered NativeEvent.time (delivered rec ++ backlog.contents)
  behind : ∀ event ∈ delivered rec, event.time < backlog.publishedBefore
  exact : ∀ time, Stable.classOf NativeEvent.time time (accepted (sinceDiscard rec))
    = Stable.classOf NativeEvent.time time (delivered (sinceDiscard rec))
      ++ Stable.classOf NativeEvent.time time backlog.contents
  arrival : ∀ time, (Stable.classOf NativeEvent.time time (delivered rec)
    ++ Stable.classOf NativeEvent.time time backlog.contents).Sublist
      (Stable.classOf NativeEvent.time time (accepted rec))

namespace Ledger

open QueueRecord

variable {rec : QueueRecord} {backlog : Backlog}

theorem start : Ledger [] NativeEventQueue.start.view where
  pending := rfl
  bounded := rfl
  before := rfl
  empty := fun h => nomatch h
  ordered := List.Pairwise.nil
  behind := fun _ h => nomatch h
  exact := fun _ => rfl
  arrival := fun _ => List.Sublist.refl _

/-- A call that leaves the list alone and is no report, publication or discard. -/
theorem quiet (h : Ledger rec backlog) {op : QueueOp} {seen : QueueSeen}
    (hseen : seen = .refused ∨ seen = .popped none)
    (hop : op.watermark (watermark rec) = watermark rec) :
    Ledger (rec ++ [(op, seen)]) backlog := by
  have hquiet : seen.acceptedEvent = none ∧ seen.deliveredEvent = none ∧
      seen.discards = false ∧ ∀ before, seen.unreported before = before := by
    rcases hseen with rfl | rfl <;> exact ⟨rfl, rfl, rfl, fun _ => rfl⟩
  obtain ⟨hacc, hdel, hdis, hrep⟩ := hquiet
  exact {
    pending := by simpa [hrep] using h.pending
    bounded := h.bounded
    before := by simpa [hop] using h.before
    empty := h.empty
    ordered := by simpa [hdel] using h.ordered
    behind := by simpa [hdel] using h.behind
    exact := by simpa [hdis, hacc, hdel] using h.exact
    arrival := by simpa [hacc, hdel] using h.arrival }

/-- An accepted event joins its class at the end, and is not older than any delivered one. -/
theorem accept (h : Ledger rec backlog) (event : NativeEvent)
    (hpending : backlog.resetPending = false) (hold : watermark rec ≤ event.timeUs) :
    Ledger (rec ++ [(.push event, .accepted event)])
      { backlog with
        contents := Stable.insert NativeEvent.time event backlog.contents } := by
  have hlate : ∀ earlier ∈ delivered rec, earlier.time ≤ event.time := by
    intro earlier hmem
    have hlt := h.behind earlier hmem
    rw [h.before] at hlt
    exact le_of_lt (lt_of_lt_of_le hlt (UInt64.le_iff_toNat_le.mp hold))
  obtain ⟨hdel, hcon, hcross⟩ := List.pairwise_append.mp h.ordered
  exact {
    pending := by simpa [QueueSeen.unreported] using h.pending
    bounded := h.bounded
    before := by simpa [QueueOp.watermark] using h.before
    empty := fun hp => by rw [hpending] at hp; cases hp
    ordered := by
      have hins : Stable.Ordered NativeEvent.time backlog.contents := hcon
      simp only [delivered_snoc, QueueSeen.deliveredEvent, Option.toList_none, List.append_nil]
      refine List.pairwise_append.mpr ⟨hdel, hins.insert event, ?_⟩
      intro a ha b hb
      rcases Stable.mem_insert.mp hb with hb | rfl
      · exact hcross a ha b hb
      · exact hlate a ha
    behind := by simpa [QueueSeen.deliveredEvent] using h.behind
    exact := by
      intro time
      have hexact := h.exact time
      simp only [sinceDiscard_snoc, QueueSeen.discards, Bool.false_eq_true, if_false,
        accepted_snoc, delivered_snoc, QueueSeen.acceptedEvent, QueueSeen.deliveredEvent,
        Option.toList_none, Option.toList_some, List.append_nil, Stable.classOf_insert]
      simp only [Stable.classOf, List.filter_append] at hexact ⊢
      rw [hexact, List.append_assoc]
    arrival := by
      intro time
      have harrival := h.arrival time
      simp only [accepted_snoc, delivered_snoc, QueueSeen.acceptedEvent,
        QueueSeen.deliveredEvent, Option.toList_none, Option.toList_some, List.append_nil,
        Stable.classOf_insert]
      simp only [Stable.classOf, List.filter_append] at harrival ⊢
      rw [← List.append_assoc]
      exact harrival.append_right _ }

/-- A discard ends the epoch with an empty list. -/
theorem discard (h : Ledger rec backlog) {op : QueueOp} {seen : QueueSeen}
    (hseen : seen = .overflowed ∨ seen = .dropped)
    (hop : op.watermark (watermark rec) = watermark rec) :
    Ledger (rec ++ [(op, seen)]) backlog.discard := by
  have hloud : seen.acceptedEvent = none ∧ seen.deliveredEvent = none ∧
      seen.discards = true ∧ ∀ before, seen.unreported before = true := by
    rcases hseen with rfl | rfl <;> exact ⟨rfl, rfl, rfl, fun _ => rfl⟩
  obtain ⟨hacc, hdel, hdis, hrep⟩ := hloud
  exact {
    pending := by simp [hrep, Backlog.discard]
    bounded := h.bounded
    before := by simpa [hop, Backlog.discard] using h.before
    empty := fun _ => rfl
    ordered := by
      have hdelivered : Stable.Ordered NativeEvent.time (delivered rec) :=
        (List.pairwise_append.mp h.ordered).1
      simpa [hdel, Backlog.discard] using hdelivered
    behind := by simpa [hdel, Backlog.discard] using h.behind
    exact := by
      intro time
      simp [hdis, accepted, delivered, Stable.classOf, Backlog.discard]
    arrival := by
      intro time
      have harrival := h.arrival time
      have hkept := (List.sublist_append_left _ _).trans harrival
      simpa [hacc, hdel, Backlog.discard, Stable.classOf] using hkept }

theorem publish (h : Ledger rec backlog) (timeUs : UInt64) (hup : watermark rec ≤ timeUs) :
    Ledger (rec ++ [(.publishBefore timeUs, .published)])
      { backlog with
        publicationBounded := true
        publishedBefore := timeUs.toNat } := by
  exact {
    pending := by simpa [QueueSeen.unreported] using h.pending
    bounded := rfl
    before := by simp [QueueOp.watermark]
    empty := h.empty
    ordered := by simpa [QueueSeen.deliveredEvent] using h.ordered
    behind := by
      intro event hmem
      have hlt := h.behind event (by simpa [QueueSeen.deliveredEvent] using hmem)
      rw [h.before] at hlt
      exact lt_of_lt_of_le hlt (UInt64.le_iff_toNat_le.mp hup)
    exact := by
      simpa [QueueSeen.discards, QueueSeen.acceptedEvent, QueueSeen.deliveredEvent] using h.exact
    arrival := by simpa [QueueSeen.acceptedEvent, QueueSeen.deliveredEvent] using h.arrival }

/-- The delivered event leaves the front of the list. -/
theorem deliver (h : Ledger rec backlog) (kind : NativeEventKind) {event : NativeEvent}
    {rest : List NativeEvent} (hcontents : backlog.contents = event :: rest)
    (hvisible : backlog.visible event) :
    Ledger (rec ++ [(.pop kind, .popped (some event))])
      { backlog with contents := rest } := by
  have hmove : delivered (rec ++ [(.pop kind, .popped (some event))]) ++ rest
      = delivered rec ++ backlog.contents := by
    simp [QueueSeen.deliveredEvent, hcontents]
  exact {
    pending := by simpa [QueueSeen.unreported] using h.pending
    bounded := h.bounded
    before := by simpa [QueueOp.watermark] using h.before
    empty := fun hp => by rw [h.empty hp] at hcontents; cases hcontents
    ordered := by
      have hordered := h.ordered
      rw [← hmove] at hordered
      exact hordered
    behind := by
      intro earlier hmem
      simp only [delivered_snoc, QueueSeen.deliveredEvent, Option.toList_some,
        List.mem_append, List.mem_singleton] at hmem
      rcases hmem with hmem | rfl
      · exact h.behind earlier hmem
      · exact hvisible h.bounded
    exact := by
      intro time
      have hexact := h.exact time
      rw [hcontents] at hexact
      simp only [sinceDiscard_snoc, QueueSeen.discards, Bool.false_eq_true, if_false,
        accepted_snoc, delivered_snoc, QueueSeen.acceptedEvent, QueueSeen.deliveredEvent,
        Option.toList_none, Option.toList_some, List.append_nil]
      rw [hexact]
      simp only [Stable.classOf, List.append_assoc, ← List.filter_append, List.singleton_append]
    arrival := by
      intro time
      have harrival := h.arrival time
      rw [hcontents] at harrival
      simp only [accepted_snoc, delivered_snoc, QueueSeen.acceptedEvent,
        QueueSeen.deliveredEvent, Option.toList_none, Option.toList_some, List.append_nil]
      simpa only [Stable.classOf, List.append_assoc, ← List.filter_append,
        List.singleton_append] using harrival }

theorem take (h : Ledger rec backlog) :
    Ledger (rec ++ [(.takeReset, .taken backlog.resetPending)])
      { backlog with resetPending := false } := by
  exact {
    pending := by simp [QueueSeen.unreported]
    bounded := h.bounded
    before := by simpa [QueueOp.watermark] using h.before
    empty := fun hp => nomatch hp
    ordered := by simpa [QueueSeen.deliveredEvent] using h.ordered
    behind := by simpa [QueueSeen.deliveredEvent] using h.behind
    exact := by
      simpa [QueueSeen.discards, QueueSeen.acceptedEvent, QueueSeen.deliveredEvent] using h.exact
    arrival := by simpa [QueueSeen.acceptedEvent, QueueSeen.deliveredEvent] using h.arrival }

/-- Every call of a disciplined caller keeps record and list together. -/
theorem apply (h : Ledger rec backlog) {op : QueueOp}
    (hpush : ∀ event, op = .push event → watermark rec ≤ event.timeUs)
    (hpublish : ∀ timeUs, op = .publishBefore timeUs → watermark rec ≤ timeUs) :
    Ledger (rec ++ [(op, (backlog.apply op).2)]) (backlog.apply op).1 := by
  cases op with
  | push event =>
    cases hpending : backlog.resetPending with
    | true =>
      simp only [Backlog.apply, hpending, if_true]
      exact h.quiet (.inl rfl) rfl
    | false =>
      by_cases hfull : backlog.contents.length = capacity
      · simp only [Backlog.apply, hpending, hfull, Bool.false_eq_true, if_false, if_true]
        exact h.discard (.inl rfl) rfl
      · simp only [Backlog.apply, hpending, hfull, Bool.false_eq_true, if_false]
        have haccept := h.accept event hpending (hpush event rfl)
        rwa [hpending] at haccept
  | publishBefore timeUs => exact h.publish timeUs (hpublish timeUs rfl)
  | pop kind =>
    cases hcontents : backlog.contents with
    | nil =>
      simp only [Backlog.apply, hcontents]
      exact h.quiet (.inr rfl) rfl
    | cons event rest =>
      simp only [Backlog.apply, hcontents]
      split
      · rename_i hok
        exact h.deliver kind hcontents hok.2.1
      · exact h.quiet (.inr rfl) rfl
  | takeReset => exact h.take
  | reset => exact h.discard (.inr rfl) rfl

end Ledger

theorem event_queue_step {queue queue' : NativeEventQueue} {op : QueueOp} {seen : QueueSeen}
    (h : eventQueue.step queue op = some (queue', seen)) :
    queue.view.apply op = (queue'.view, seen) := by
  have happly : queue.apply op = (queue', seen) := Option.some.inj h
  rw [← NativeEventQueue.apply_view, happly]

/-- The ledger holds in every state of a disciplined run. -/
theorem event_queue_ledger {rec : QueueRecord} {queue : NativeEventQueue}
    (h : (eventQueue.restrict Disciplined).Run rec queue) : Ledger rec queue.view := by
  refine h.history (I := fun rec queue => Ledger rec queue.view) Ledger.start ?_
  intro rec queue op queue' seen hledger hstep
  obtain ⟨hdisc, hstep⟩ := Machine.restrict_step.mp hstep
  have hview := event_queue_step hstep
  have hmark : queue.publishedBeforeUs = QueueRecord.watermark rec :=
    UInt64.toNat_inj.mp hledger.before
  have hnext : Ledger (rec ++ [(op, (queue.view.apply op).2)]) (queue.view.apply op).1 := by
    refine hledger.apply ?_ ?_
    · rintro event rfl
      rw [← hmark]
      exact hdisc
    · rintro timeUs rfl
      rw [← hmark]
      exact hdisc
  rwa [hview] at hnext

namespace Backlog

variable {backlog : Backlog} {op : QueueOp}

/-- A delivery needs a visible event and no pending reset. -/
theorem apply_delivered {event : NativeEvent}
    (h : (backlog.apply op).2 = .popped (some event)) :
    backlog.resetPending = false ∧ backlog.visible event := by
  cases op with
  | push event' =>
    simp only [Backlog.apply] at h
    split at h
    · cases h
    · split at h <;> cases h
  | pop kind =>
    cases hcontents : backlog.contents with
    | nil => simp [Backlog.apply, hcontents] at h
    | cons first rest =>
      simp only [Backlog.apply, hcontents] at h
      split at h
      · rename_i hok
        cases h
        exact ⟨hok.1, hok.2.1⟩
      · cases h
  | publishBefore => cases h
  | takeReset => cases h
  | reset => cases h

theorem apply_accepted {event : NativeEvent} (h : (backlog.apply op).2 = .accepted event) :
    backlog.resetPending = false := by
  cases op with
  | push event' =>
    cases hpending : backlog.resetPending with
    | true => simp [Backlog.apply, hpending] at h
    | false => rfl
  | pop kind =>
    simp only [Backlog.apply] at h
    split at h
    · cases h
    · split at h <;> cases h
  | publishBefore => cases h
  | takeReset => cases h
  | reset => cases h

theorem apply_taken {pending : Bool} (h : (backlog.apply op).2 = .taken pending) :
    pending = backlog.resetPending := by
  cases op with
  | push event' =>
    simp only [Backlog.apply] at h
    split at h
    · cases h
    · split at h <;> cases h
  | pop kind =>
    simp only [Backlog.apply] at h
    split at h
    · cases h
    · split at h <;> cases h
  | takeReset => exact (QueueSeen.taken.inj h).symm
  | publishBefore => cases h
  | reset => cases h

end Backlog

open QueueRecord in
/-- What the record and the ring owe to the callers of the queue. -/
structure QueueHistory (rec : QueueRecord) (queue : NativeEventQueue) : Prop where
  delivered_ordered : Stable.Ordered NativeEvent.time (delivered rec)
  arrival_order : ∀ time, (Stable.classOf NativeEvent.time time (delivered rec)).Sublist
    (Stable.classOf NativeEvent.time time (accepted rec))
  exactly_once : ∀ time, Stable.classOf NativeEvent.time time (accepted (sinceDiscard rec))
    = Stable.classOf NativeEvent.time time (delivered (sinceDiscard rec))
      ++ Stable.classOf NativeEvent.time time queue.contents
  deliverable : ∀ event ∈ queue.contents, event.time < (watermark rec).toNat →
    queue.resetPending = false ∧ ∃ first rest, queue.contents = first :: rest ∧
      first.time ≤ event.time ∧
      (first.kind = .mouse ∨ first.kind = .keyboard → (queue.pop first.kind).2 = some first)
  behind_watermark : ∀ pre op event post, rec = pre ++ (op, .popped (some event)) :: post →
    event.time < (watermark pre).toNat
  reset_first : ∀ pre op seen post, rec = pre ++ (op, seen) :: post →
    seen.acceptedEvent.isSome ∨ seen.deliveredEvent.isSome → unreported pre = false
  reports : ∀ pre op pending post, rec = pre ++ (op, .taken pending) :: post →
    pending = unreported pre

/-- The step at a place of a run, seen through the list behind the ring. -/
theorem event_queue_split {rec : QueueRecord} {queue : NativeEventQueue}
    (h : (eventQueue.restrict Disciplined).Run rec queue) {pre post : QueueRecord} {op : QueueOp}
    {seen : QueueSeen} (hrec : rec = pre ++ (op, seen) :: post) :
    ∃ backlog, Ledger pre backlog ∧ (backlog.apply op).2 = seen := by
  subst hrec
  obtain ⟨before, after, hpre, hstep, -⟩ := h.split_at
  have hview := event_queue_step (Machine.restrict_step.mp hstep).2
  exact ⟨before.view, event_queue_ledger hpre, by rw [hview]⟩

/-- **Delivery follows kernel time, loses nothing silently and reports every overflow.** -/
theorem event_queue_history {rec : QueueRecord} {queue : NativeEventQueue}
    (h : (eventQueue.restrict Disciplined).Run rec queue) : QueueHistory rec queue := by
  have hledger := event_queue_ledger h
  constructor
  · exact (List.pairwise_append.mp hledger.ordered).1
  · intro time
    exact (List.sublist_append_left _ _).trans (hledger.arrival time)
  · exact hledger.exact
  · intro event hmem hlt
    have hready : queue.resetPending = false := by
      cases hpending : queue.resetPending with
      | false => rfl
      | true =>
        have hempty : queue.contents = [] := hledger.empty hpending
        rw [hempty] at hmem
        cases hmem
    obtain ⟨first, rest, hcontents⟩ := List.exists_cons_of_ne_nil (List.ne_nil_of_mem hmem)
    have hordered : Stable.Ordered NativeEvent.time queue.contents :=
      (List.pairwise_append.mp hledger.ordered).2.1
    rw [hcontents] at hordered hmem
    have hfirst := hordered.head_le event hmem
    refine ⟨hready, first, rest, hcontents, hfirst, fun hkind => ?_⟩
    have hvisible : queue.view.visible first := by
      intro _
      rw [hledger.before]
      exact lt_of_le_of_lt hfirst hlt
    have hnone : first.kind ≠ .none ∧ first.kind ≠ .reset := by
      rcases hkind with hkind | hkind <;> simp [hkind]
    have hview : queue.view.contents = first :: rest := hcontents
    have hspec : (queue.view.apply (.pop first.kind)).2 = .popped (some first) := by
      simp only [Backlog.apply, hview]
      rw [if_pos ⟨hready, hvisible, trivial, hnone.1, hnone.2⟩]
    rw [← NativeEventQueue.apply_view] at hspec
    exact QueueSeen.popped.inj hspec
  · intro pre op event post hrec
    obtain ⟨backlog, hpre, hseen⟩ := event_queue_split h hrec
    have hlt := (Backlog.apply_delivered hseen).2 hpre.bounded
    rwa [hpre.before] at hlt
  · intro pre op seen post hrec hloud
    obtain ⟨backlog, hpre, hseen⟩ := event_queue_split h hrec
    rw [← hpre.pending]
    cases seen with
    | accepted event => exact Backlog.apply_accepted hseen
    | popped event =>
      cases event with
      | none => simp [QueueSeen.acceptedEvent, QueueSeen.deliveredEvent] at hloud
      | some event => exact (Backlog.apply_delivered hseen).1
    | _ => simp [QueueSeen.acceptedEvent, QueueSeen.deliveredEvent] at hloud
  · intro pre op pending post hrec
    obtain ⟨backlog, hpre, hseen⟩ := event_queue_split h hrec
    rw [← hpre.pending]
    exact Backlog.apply_taken hseen

def wheelAt (timeUs : UInt64) : NativeEvent :=
  ⟨timeUs, .mouse, .mouse { kind := .wheel, wheelY := 1 }⟩

def keyAt (timeUs : UInt64) (down : Bool) : NativeEvent :=
  ⟨timeUs, .keyboard, .keyboard ⟨29, down, false⟩⟩

/-- A wheel read before the older key of another device. -/
def crossedDevices : List QueueOp :=
  [.push (wheelAt 20), .publishBefore 10, .pop .mouse, .push (keyAt 15 true),
    .publishBefore 21, .pop .keyboard, .pop .mouse]

theorem crossedDevices_accepted :
    ((eventQueue.restrict Disciplined).exec (eventQueue.restrict Disciplined).init
      crossedDevices).isSome := by
  decide +kernel

/-- The key of the other device comes out first. -/
theorem event_queue_history_crossed : ∃ rec queue,
    QueueRecord.delivered rec = [keyAt 15 true, wheelAt 20] ∧ QueueHistory rec queue :=
  ⟨_, _, by decide +kernel,
    event_queue_history (Machine.run_of_exec crossedDevices crossedDevices_accepted)⟩

end Lgnome.Input
