import Lgnome.Lifecycle.Slot
import Lgnome.Sessions.Board
import Lgnome.Transition.Undisturbed

/-!
# One slot of the board, with its worker

The lifecycle of a connection follows a single slot through the atomics that its worker and
the SDL thread write. Each routine that runs without the others in between does to the slot
what the board does to it.
-/
namespace Lgnome.Lifecycle

open Lgnome.Native (SlotIndex RdpState RdpDisconnectReason StartResult)
open Lgnome.Sessions (Seat Board Reconnected SwitchAnswers)
open Lgnome.Transition (Prog)
open Lgnome.Transition.Prog (Comes)

/-- The state follows this slot of the board. -/
structure OnBoard (b : Board) (i : SlotIndex) (s : State) : Prop where
  rdp : s.desk.rdp = (b.seats i).rdp
  currentState : s.conn.currentState = (b.seats i).currentState
  terminalState : s.conn.terminalState = (b.seats i).terminalState
  sessionFailed : s.conn.sessionFailed = (b.seats i).sessionFailed
  active : s.desk.active = decide (b.activeIndex = i)
  interactiveUi : s.desk.interactiveUi = b.interactiveUi
  running : s.running = b.running

variable {Q : Answer → Prop} {b : Board} {i : SlotIndex} {s : State} {state : RdpState}

/-- Nothing that the board has is written. -/
theorem OnBoard.unseen {s' : State} (h : OnBoard b i s)
    (hconn : s'.conn.currentState = s.conn.currentState ∧
      s'.conn.terminalState = s.conn.terminalState ∧
      s'.conn.sessionFailed = s.conn.sessionFailed)
    (hdesk : s'.desk.rdp = s.desk.rdp ∧ s'.desk.active = s.desk.active ∧
      s'.desk.interactiveUi = s.desk.interactiveUi)
    (hrunning : s'.running = s.running) : OnBoard b i s' where
  rdp := hdesk.1.trans h.rdp
  currentState := hconn.1.trans h.currentState
  terminalState := hconn.2.1.trans h.terminalState
  sessionFailed := hconn.2.2.trans h.sessionFailed
  active := hdesk.2.1.trans h.active
  interactiveUi := hdesk.2.2.trans h.interactiveUi
  running := hrunning.trans h.running

/-- The slot is written here and there. -/
theorem OnBoard.write {s' : State} (h : OnBoard b i s) {f : Seat → Seat}
    (hrdp : s'.desk.rdp = (f (b.seats i)).rdp)
    (hcurrent : s'.conn.currentState = (f (b.seats i)).currentState)
    (hterminal : s'.conn.terminalState = (f (b.seats i)).terminalState)
    (hfailed : s'.conn.sessionFailed = (f (b.seats i)).sessionFailed)
    (hrest : s'.desk.active = s.desk.active ∧ s'.desk.interactiveUi = s.desk.interactiveUi ∧
      s'.running = s.running) : OnBoard (b.modify i f) i s' := by
  refine ⟨?_, ?_, ?_, ?_, hrest.1.trans h.active, hrest.2.1.trans h.interactiveUi,
    hrest.2.2.trans h.running⟩
  all_goals rw [Board.modify_same]
  · exact hrdp
  · exact hcurrent
  · exact hterminal
  · exact hfailed

/-- What is written on the board is nothing that the state follows. -/
theorem OnBoard.modify (h : OnBoard b i s) {j : SlotIndex} {f : Seat → Seat}
    (hsame : j = i → (f (b.seats i)).rdp = (b.seats i).rdp ∧
      (f (b.seats i)).currentState = (b.seats i).currentState ∧
      (f (b.seats i)).terminalState = (b.seats i).terminalState ∧
      (f (b.seats i)).sessionFailed = (b.seats i).sessionFailed) : OnBoard (b.modify j f) i s := by
  by_cases hj : j = i
  · subst hj
    obtain ⟨hrdp, hcurrent, hterminal, hfailed⟩ := hsame rfl
    exact h.write (h.rdp.trans hrdp.symm) (h.currentState.trans hcurrent.symm)
      (h.terminalState.trans hterminal.symm) (h.sessionFailed.trans hfailed.symm) ⟨rfl, rfl, rfl⟩
  · have hother : (b.modify j f).seats i = b.seats i := Board.modify_other (Ne.symm hj)
    refine ⟨?_, ?_, ?_, ?_, h.active, h.interactiveUi, h.running⟩
    all_goals rw [hother]
    · exact h.rdp
    · exact h.currentState
    · exact h.terminalState
    · exact h.sessionFailed

/-! ## Reports -/

theorem leaveApp_board (h : OnBoard b i s) (exitCode : Nat) :
    Comes Q (leaveApp exitCode) (fun _ t => OnBoard { b with running := false } i t) s := by
  have hleft : ∀ t, OnBoard b i t →
      Comes Q (Prog.store fun s : State => { s with running := false })
      (fun _ t => OnBoard { b with running := false } i t) t :=
    fun t ht => Comes.store { ht with running := rfl }
  have hcode : Comes Q (Prog.when (exitCode ≠ 0) (Prog.store fun s : State => { s with exitCode }))
      (fun _ t => OnBoard b i t) s :=
    Comes.when (fun _ => Comes.store (h.unseen ⟨rfl, rfl, rfl⟩ ⟨rfl, rfl, rfl⟩ rfl)) fun _ => h
  exact hcode.andThen fun _ t ht => hleft t ht

theorem flagEnd_board (h : OnBoard b i s) (exitCode : Nat) :
    Comes Q (flagEnd state exitCode) (fun _ t => OnBoard
      (if b.activeIndex = i ∧ state.isNativeRuntimeFailure then { b with running := false }
      else if ¬b.activeIndex = i ∨ b.interactiveUi then
        b.modify i fun s => { s with sessionFailed := true }
      else { b with running := false }) i t) s := by
  refine Comes.loadThen ?_
  by_cases hends : b.activeIndex = i ∧ state.isNativeRuntimeFailure
  · have hends' : (s.desk.active && state.isNativeRuntimeFailure) = true := by
      rw [h.active, decide_eq_true hends.1, hends.2, Bool.and_self]
    rw [if_pos hends', if_pos hends]
    exact leaveApp_board h exitCode
  have hends' : ¬(s.desk.active && state.isNativeRuntimeFailure) = true := by
    rw [h.active, Bool.and_eq_true, decide_eq_true_eq]
    exact hends
  rw [if_neg hends', if_neg hends]
  refine Comes.loadThen ?_
  by_cases hflags : ¬b.activeIndex = i ∨ b.interactiveUi
  · have hflags' : (!s.desk.active || s.desk.interactiveUi) = true := by
      rw [h.active, h.interactiveUi, Bool.or_eq_true, Bool.not_eq_true', decide_eq_false_iff_not]
      exact hflags
    rw [if_pos hflags', if_pos hflags]
    exact Comes.store (h.write h.rdp h.currentState h.terminalState rfl ⟨rfl, rfl, rfl⟩)
  · have hflags' : ¬(!s.desk.active || s.desk.interactiveUi) = true := by
      rw [h.active, h.interactiveUi, Bool.or_eq_true, Bool.not_eq_true', decide_eq_false_iff_not]
      exact hflags
    rw [if_neg hflags', if_neg hflags]
    exact leaveApp_board h exitCode

theorem reportTerminalReason_board (h : OnBoard b i s) (party : Party)
    (reason : RdpDisconnectReason) (exitCode : Nat) :
    Comes Q (reportTerminalReason party state reason exitCode)
      (fun _ t => OnBoard (b.report i state) i t) s := by
  refine Comes.actThen fun _ _ => ?_
  by_cases hidle : s.conn.terminalState = .idle
  · have hopen : ¬(b.seats i).terminalState ≠ .idle := by
      rw [← h.terminalState]
      exact not_not.mpr hidle
    have hclaimed : OnBoard (b.modify i fun s => { s with terminalState := state }) i
        (s.claim party state reason).2 := by
      rw [State.claim, if_pos hidle]
      exact h.write h.rdp h.currentState rfl h.sessionFailed ⟨rfl, rfl, rfl⟩
    have hfirst : (s.claim party state reason).1 = true := by rw [State.claim, if_pos hidle]
    generalize s.claim party state reason = claimed at hclaimed hfirst ⊢
    rw [hfirst, if_pos rfl, Board.report, if_neg hopen]
    refine Comes.loadThen (Comes.storeThen (Comes.storeThen ?_))
    refine flagEnd_board ?_ exitCode
    exact hclaimed.unseen ⟨rfl, rfl, rfl⟩ ⟨rfl, rfl, rfl⟩ rfl
  · have hreported : (b.seats i).terminalState ≠ .idle := by
      rw [← h.terminalState]
      exact hidle
    rw [State.claim, if_neg hidle, Board.report, if_pos hreported]
    exact h

theorem noteState_board (h : OnBoard b i s) : Comes Q (noteState state) (fun _ t =>
    OnBoard (b.modify i fun s => { s with currentState := state }) i t) s := by
  have hnoted : OnBoard (b.modify i fun s => { s with currentState := state }) i
      (s.onConn fun c => { c with currentState := state }) :=
    h.write h.rdp rfl h.terminalState h.sessionFailed ⟨rfl, rfl, rfl⟩
  refine Comes.storeThen ?_
  split
  · exact Comes.store (hnoted.unseen ⟨rfl, rfl, rfl⟩ ⟨rfl, rfl, rfl⟩ rfl)
  split
  · exact Comes.storeThen (Comes.store (hnoted.unseen ⟨rfl, rfl, rfl⟩ ⟨rfl, rfl, rfl⟩ rfl))
  · exact hnoted

theorem recordState_board (h : OnBoard b i s) (party : Party) (reason : RdpDisconnectReason) :
    Comes Q (recordState party state reason) (fun _ t => OnBoard (b.record i state) i t) s := by
  refine Comes.loadThen ?_
  by_cases hfailed : (b.seats i).sessionFailed = true
  · rw [if_pos (h.sessionFailed.trans hfailed), Board.record, if_pos (.inl hfailed)]
    exact h
  rw [if_neg (h.sessionFailed ▸ hfailed)]
  refine Comes.loadThen ?_
  by_cases hreported : (b.seats i).terminalState ≠ .idle
  · rw [if_pos (h.terminalState ▸ hreported), Board.record, if_pos (.inr hreported)]
    exact h
  have hopen : ¬((b.seats i).sessionFailed ∨ (b.seats i).terminalState ≠ .idle) :=
    fun hdone => hdone.elim hfailed hreported
  rw [if_neg (h.terminalState ▸ hreported), Board.record, if_neg hopen]
  refine (noteState_board h).andThen fun _ t ht => ?_
  have hterminal : state.isTerminal = true ↔
      state.isTerminalError ∨ state = .disconnected ∨ state = .stopped := by
    rw [RdpState.isTerminal, Bool.or_eq_true, Bool.or_eq_true, decide_eq_true_eq,
      decide_eq_true_eq, or_assoc]
  by_cases hends : state.isTerminal = true
  · rw [if_pos hends, if_pos (hterminal.mp hends)]
    exact reportTerminalReason_board ht party reason _
  · rw [if_neg hends, if_neg (hterminal.not.mp hends)]
    exact ht

/-! ## Stop and connect -/

/-- The worker's end is waited for, which changes nothing itself. -/
theorem joinWorker_board : Comes Q joinWorker (fun _ t => t = s) s := by
  refine Comes.iterate (fun _ t => t = s) rfl fun _ t ht => Comes.load ?_
  split <;> exact ht

theorem stopSlot_board (h : OnBoard b i s) :
    Comes Q stopSlot (fun _ t => OnBoard (b.stop i) i t) s := by
  have hended : Comes Q endSession (fun _ t => t.desk.rdp = false ∧
      OnBoard (b.modify i fun s => { s with rdp := false }) i t) s := by
    refine Comes.loadThen ?_
    split
    · refine Comes.storeThen (joinWorker_board.andThen fun _ t ht => Comes.store ?_)
      subst ht
      exact ⟨rfl, h.write rfl h.currentState h.terminalState h.sessionFailed ⟨rfl, rfl, rfl⟩⟩
    · rename_i hnone
      have hnone : s.desk.rdp = false := by simpa using hnone
      exact ⟨hnone, h.write hnone h.currentState h.terminalState h.sessionFailed ⟨rfl, rfl, rfl⟩⟩
  refine hended.andThen fun _ t ht => Comes.storeThen (Comes.storeThen (Comes.store ?_))
  have hstopped : OnBoard ((b.modify i fun s => { s with rdp := false }).modify i Seat.stopped) i
      (((t.onConn fun c => { c with currentState := .idle }).onConn fun c =>
        { c with sessionFailed := false }).onDesk fun d => { d with runtimeActive := false }) :=
    ht.2.write ht.1 rfl ht.2.terminalState rfl ⟨rfl, rfl, rfl⟩
  rw [Board.modify_modify] at hstopped
  exact hstopped

theorem renewConnection_board (h : OnBoard b i s) (logical : Bool) :
    Comes Q (renewConnection logical)
      (fun _ t => OnBoard (b.modify i fun s => { s with terminalState := .idle }) i t) s := by
  refine Comes.storeThen (Comes.storeThen (Comes.storeThen (Comes.store ?_)))
  exact h.write h.rdp h.currentState rfl h.sessionFailed ⟨rfl, rfl, rfl⟩

/-- A session starts, or says that it does not. -/
theorem sessionStart_board (h : OnBoard b i s) : Comes Q sessionStart (fun ok t =>
    ∃ starts : StartResult, match starts.failure with
      | none => ok = true ∧ OnBoard (b.modify i fun s => { s with rdp := true }) i t
      | some state => ok = false ∧ OnBoard (b.record i state) i t) s := by
  refine Comes.askThen fun answer _ => ?_
  cases hstarts : answer.starts.failure with
  | none =>
    refine Comes.storeThen ⟨answer.starts, ?_⟩
    rw [hstarts]
    exact ⟨rfl, h.write rfl h.currentState h.terminalState h.sessionFailed ⟨rfl, rfl, rfl⟩⟩
  | some state =>
    refine (recordState_board h .sdl .none).andThen fun _ t ht => ⟨answer.starts, ?_⟩
    rw [hstarts]
    exact ⟨rfl, ht⟩

theorem slotConnect_board (h : OnBoard b i s) : Comes Q slotConnect (fun ok t =>
    ∃ starts, (b.connect i starts).1 = ok ∧ OnBoard (b.connect i starts).2 i t) s := by
  refine Comes.loadThen ((stopSlot_board h).andThen fun _ t ht => ?_)
  refine (renewConnection_board ht _).andThen fun _ u hu => Comes.loadThen ?_
  have hcode : Comes Q
      (Prog.when u.desk.active (Prog.store fun s : State => { s with exitCode := 0 }))
      (fun _ v => OnBoard ((b.stop i).modify i fun s => { s with terminalState := .idle }) i v) u :=
    Comes.when (fun _ => Comes.store (hu.unseen ⟨rfl, rfl, rfl⟩ ⟨rfl, rfl, rfl⟩ rfl)) fun _ => hu
  refine hcode.andThen fun _ v hv => (sessionStart_board hv).andThen fun ok x hx => ?_
  obtain ⟨starts, hx⟩ := hx
  have hends : (b.connect i starts).1 = ok ∧ OnBoard (b.connect i starts).2 i x := by
    rw [Board.connect]
    cases hstarts : starts.failure with
    | none =>
      rw [hstarts] at hx
      exact ⟨hx.1.symm, hx.2⟩
    | some state =>
      rw [hstarts] at hx
      exact ⟨hx.1.symm, hx.2⟩
  have hlogical : ∀ logical, Comes Q (Prog.when ok (Prog.store
      (State.onDesk fun d => { d with runtimeActive := logical })))
      (fun _ y => OnBoard (b.connect i starts).2 i y) x := fun logical =>
    Comes.when (fun _ => Comes.store (hends.2.unseen ⟨rfl, rfl, rfl⟩ ⟨rfl, rfl, rfl⟩ rfl))
      fun _ => hends.2
  exact (hlogical _).andThen fun _ y hy => ⟨starts, hends.1, hy⟩

theorem reportTerminal_board (h : OnBoard b i s) (party : Party) :
    Comes Q (reportTerminal party state) (fun _ t => OnBoard (b.report i state) i t) s :=
  reportTerminalReason_board h party .none _

theorem reconnectSlot_board (h : OnBoard b i s) : Comes Q reconnectSlot
    (fun _ t => ∃ starts, OnBoard (b.reconnect i starts).2 i t) s := by
  refine (slotConnect_board h).andThen fun ok t ht => ?_
  obtain ⟨starts, hok, ht⟩ := ht
  have hends : (b.reconnect i starts).2 =
      if ok then (b.connect i starts).2 else (b.connect i starts).2.report i .networkError := by
    rw [Board.reconnect]
    generalize b.connect i starts = connected at hok ⊢
    obtain ⟨started, c⟩ := connected
    subst hok
    cases started <;> rfl
  cases ok with
  | true =>
    refine ⟨starts, ?_⟩
    rw [hends]
    exact ht
  | false =>
    refine (reportTerminal_board ht .sdl).mono fun _ u hu => ⟨starts, ?_⟩
    rw [hends]
    exact hu

/-! ## The supervisor -/

/-- The answers are those of a board: what is cached, and whether another slot takes the screen. -/
structure Fits (b : Board) (i : SlotIndex) (shown : Bool) (answer : Answer) : Prop where
  snapshotWanted : answer.snapshotWanted =
    (!(b.seats i).suppressed && ((b.seats i).refreshIneffective || b.snapshotForce))
  survivor : answer.survivor = (shown && (b.survivor i).isSome)

/-- `c` has the slot as it is. -/
theorem backgroundSlot_board {c : Board} {shown : Bool} (h : OnBoard c i s)
    (hseat : c.seats i = b.seats i) (hforce : c.snapshotForce = b.snapshotForce) :
    Comes (Fits b i shown) backgroundSlot
      (fun _ t => ∃ answer, OnBoard (c.background i answer) i t) s := by
  refine Comes.loadThen (Comes.askThen fun answer hfits => Comes.loadThen ?_)
  have hwanted : answer.snapshotWanted =
      (!(c.seats i).suppressed && ((c.seats i).refreshIneffective || c.snapshotForce)) := by
    rw [hfits.snapshotWanted, hseat, hforce]
  rw [h.rdp, h.currentState, hwanted]
  refine Comes.when (fun hgoes => ?_) fun hstays => ⟨{}, ?_⟩
  · obtain ⟨hrdp, hneeded, hactive⟩ := hgoes
    rw [Bool.and_eq_true, Bool.not_eq_true'] at hneeded
    refine (reconnectSlot_board h).mono fun _ t ht => ?_
    obtain ⟨starts, ht⟩ := ht
    refine ⟨⟨starts, true⟩, ?_⟩
    unfold Board.background
    rw [if_neg (by rw [hrdp, hneeded.1]; decide),
      if_pos (by rw [hneeded.2, Bool.true_and]; exact decide_eq_true hactive)]
    dsimp only
    generalize c.reconnect i starts = reconnected at ht ⊢
    obtain ⟨ok, c'⟩ := reconnected
    cases ok with
    | true =>
      exact ht.modify (f := fun s => { s with snapshotPending := true }) fun _ =>
        ⟨rfl, rfl, rfl, rfl⟩
    | false => exact ht
  · unfold Board.background
    by_cases haway : (!(c.seats i).rdp || (c.seats i).suppressed) = true
    · rw [if_pos haway]
      exact h
    have hthere : (c.seats i).rdp = true ∧ (c.seats i).suppressed = false := by simpa using haway
    have hplain : ¬(((c.seats i).refreshIneffective || c.snapshotForce) &&
        (c.seats i).currentState = .active) = true := by
      rw [Bool.and_eq_true, decide_eq_true_eq]
      intro hneeded
      refine hstays ⟨hthere.1, ?_, hneeded.2⟩
      rw [hthere.2, hneeded.1]
      rfl
    rw [if_neg haway, if_neg hplain]
    exact h.modify fun _ => ⟨rfl, rfl, rfl, rfl⟩

theorem presentEnd_board (h : OnBoard b i s) :
    Comes Q presentEnd (fun _ t => OnBoard b i t) s := by
  refine Comes.loadThen (Comes.loadThen (Comes.loadThen (Comes.store ?_)))
  exact h.unseen ⟨rfl, rfl, rfl⟩ ⟨rfl, rfl, rfl⟩ rfl

/-- The slot leaves the screen to `j`, whose cache is shown. -/
theorem yieldScreen_board (h : OnBoard b i s) {shown : Bool} {j : SlotIndex}
    (hactive : b.activeIndex = i) (hj : b.survivor i = some j) :
    Comes (Fits b i shown) yieldScreen
      (fun _ t => ∃ answers, OnBoard (b.switch j answers).2 i t) s := by
  obtain ⟨hother, hlive⟩ := Board.survivor_live hj
  have hlive : ¬(!((b.seats j).rdp && !(b.seats j).sessionFailed)) = true := by
    rw [Seat.isLiveStreamTarget, Bool.and_eq_true] at hlive
    rw [hlive.1]
    decide
  have hseat : (b.modify j fun s => { s with snapshotPending := false }).seats i = b.seats i :=
    Board.modify_other (Ne.symm hother)
  have hleft : OnBoard { b.modify j fun s => { s with snapshotPending := false } with
      activeIndex := j } i (s.onDesk fun d => { d with active := false }) := by
    have hmoved : OnBoard (b.modify j fun s => { s with snapshotPending := false }) i s :=
      h.modify fun _ => ⟨rfl, rfl, rfl, rfl⟩
    refine { hmoved with active := ?_ }
    exact (decide_eq_false hother).symm
  refine Comes.storeThen ((backgroundSlot_board hleft hseat rfl).mono fun _ t ht => ?_)
  obtain ⟨answer, ht⟩ := ht
  refine ⟨{ background := answer }, ?_⟩
  have hresumed : ∀ d : Board, d.resume j true false .started =
      d.modify j fun s => { s with suppressed := false } := fun _ => rfl
  unfold Board.switch
  rw [if_neg hlive, if_neg (hactive ▸ Ne.symm hother), hactive]
  dsimp only
  split
  · rw [hresumed]
    exact ht.modify (f := fun s => { s with suppressed := false }) fun hsame => absurd hsame hother
  · exact ht

theorem supervise_board (h : OnBoard b i s) (shown : Bool) : Comes (Fits b i shown) supervise
    (fun _ t => ∃ answers, OnBoard (b.supervise i shown answers) i t) s := by
  refine Comes.loadThen ?_
  rw [h.sessionFailed]
  by_cases hsound : (!(b.seats i).sessionFailed) = true
  · have hsound' : ¬(b.seats i).sessionFailed = true := by simpa using hsound
    rw [if_neg hsound']
    refine ⟨{}, ?_⟩
    rw [Board.supervise, if_pos hsound]
    exact h
  have hfailed : (b.seats i).sessionFailed = true := by simpa using hsound
  rw [if_pos hfailed]
  refine (presentEnd_board h).andThen fun _ t ht => Comes.loadThen ?_
  refine Comes.askThen fun answer hfits => ?_
  rw [ht.active, hfits.survivor]
  have hyielded : Comes (Fits b i shown)
      (Prog.when (decide (b.activeIndex = i) ∧ (shown && (b.survivor i).isSome)) yieldScreen)
      (fun _ u => ∃ answers c, OnBoard c i u ∧ b.supervise i shown answers = c.stop i) t := by
    refine Comes.when (fun hboth => ?_) fun hnot => ⟨{}, b, ht, ?_⟩
    · obtain ⟨hactive, hshown⟩ := hboth
      rw [decide_eq_true_eq] at hactive
      rw [Bool.and_eq_true] at hshown
      obtain ⟨j, hj⟩ := Option.isSome_iff_exists.mp hshown.2
      refine (yieldScreen_board ht hactive hj).mono fun _ u hu => ?_
      obtain ⟨answers, hu⟩ := hu
      refine ⟨answers, _, hu, ?_⟩
      rw [Board.supervise, if_neg hsound, if_pos ⟨hactive, hshown.1⟩, hj]
    · rw [Board.supervise, if_neg hsound]
      split
      · rename_i hactive
        cases hsurvivor : b.survivor i with
        | none => rfl
        | some j =>
          refine absurd ⟨decide_eq_true hactive.1, ?_⟩ hnot
          rw [hactive.2, hsurvivor]
          rfl
      · rfl
  refine hyielded.andThen fun _ u hu => ?_
  obtain ⟨answers, c, hu, hends⟩ := hu
  refine (stopSlot_board hu).mono fun _ v hv => ⟨answers, ?_⟩
  rw [hends]
  exact hv

/-- A turn of the supervisor that nobody disturbs leaves no failed session. -/
theorem supervise_clears (h : OnBoard b i s) {shown : Bool} {t : State}
    (hrun : supervise.Undisturbed (Fits b i shown) s () t) : t.conn.sessionFailed = false := by
  obtain ⟨answers, ht⟩ := (supervise_board h shown).ends hrun
  have hseat := Board.supervise_seat (b := b) (i := i) shown answers
  rw [ht.sessionFailed]
  split at hseat
  · obtain ⟨before, hstopped⟩ := hseat
    rw [hstopped]
    rfl
  · rename_i hsound
    rw [hseat]
    exact Bool.not_eq_true _ ▸ hsound

end Lgnome.Lifecycle
