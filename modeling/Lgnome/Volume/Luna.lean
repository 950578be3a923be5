import Lgnome.Json.Fields
import Lgnome.Settings.Model
import Lgnome.Transition.Machine

/-!
# The Luna volume client

`luna_volume.c`: the UI thread edits the volume under the cache lock and wakes
the loop thread, which alone talks to the bus. Between two atomic actions of one
thread the other may act. The bus and the clock are inputs: a call is accepted
with a token of its own or refused, and an accepted call is answered at most
once, at any time, also after it was cancelled.
-/
namespace Lgnome.Volume

open Lgnome.Json
open Lgnome.Settings (ascii)
open Lgnome.Transition

/-- `native_luna_volume_parse`: the volume and the mute of a reply that carries both. -/
def lunaVolumeParse (json : List UInt8) : Option (Nat × Bool) :=
  match jsonReadBool json (ascii "returnValue") with
  | .ok status =>
    if status.getD true then
      let fields :=
        match findValue json (ascii "volumeStatus") with
        | .ok fields => fields
        | _ => json
      match jsonReadU16 fields (ascii "volume") 0 100, jsonReadBool fields (ascii "muteStatus") with
      | .ok (some value), .ok mute => some (value, mute.getD false)
      | _, _ => none
    else none
  | _ => none

/-- One user edit. The serial tells edits of one value apart; the code keeps `pct` only. -/
structure Edit where
  serial : Nat
  pct : Nat
  deriving DecidableEq, Repr

inductive CallState
  | flying
  | cancelled
  | answered
  deriving DecidableEq, Repr

/-- A call that the bus accepted: `setVolume` with its edit, or `getVolume`.
`editsBefore` is how many edits had been made when it was issued. -/
structure Call where
  token : Nat
  edit : Option Edit
  editsBefore : Nat
  state : CallState
  deriving DecidableEq, Repr

/-- Where `luna_volume_send_set` returns to. -/
inductive After
  | done
  | pending (now : Int)
  | clear (now : Int)
  deriving DecidableEq, Repr

/-- The loop thread: idle, or in front of its next atomic action. -/
inductive LoopPc
  | idle
  /-- `atomic_exchange(&desired_pct, -1)`. -/
  | sendSet (after : After)
  /-- `LSCallOneReply` of the taken edit. -/
  | callSet (after : After) (edit : Edit)
  /-- The second look of a refresh at `desired_pct`. -/
  | refreshPending (now : Int)
  /-- The last look before the stall check of the poll. -/
  | refreshClear (now : Int)
  /-- The section that stamps `refresh_generation`. -/
  | refreshStamp (now : Int)
  /-- `LSCallOneReply` of `getVolume`. -/
  | callGet (now : Int)
  deriving DecidableEq, Repr

/-- The UI thread inside `native_luna_volume_set`, behind the locked section. -/
inductive UiPc
  | idle
  | ringing
  | attaching
  deriving DecidableEq, Repr

/-- `LUNA_VOLUME_CALL_STALL_US`. -/
def stallUs : Int := 2000000

structure LunaVolume where
  handle : Bool := true
  volumePct : Int := -1
  muted : Bool := false
  available : Bool := false
  replySeq : UInt32 := 0
  desired : Option Edit := none
  invokeQueued : Bool := false
  setInFlight : Bool := false
  refreshInFlight : Bool := false
  refreshIssuedUs : Int := 0
  setIssuedUs : Int := 0
  getToken : Nat := 0
  setToken : Nat := 0
  editGeneration : UInt32 := 0
  refreshGeneration : UInt32 := 0
  dispatches : Nat := 0
  refreshes : Nat := 0
  loop : LoopPc := .idle
  ui : UiPc := .idle
  calls : List Call := []
  /-- The edits made so far: how many, and the last one. -/
  editCount : Nat := 0
  newest : Option Edit := none
  /-- The edits whose own call could not be made. -/
  failed : List Edit := []
  /-- The edits made before `refresh_generation` was stamped. -/
  stampedAt : Nat := 0
  deriving DecidableEq, Repr

/-- What `LSCallOneReply` comes to. A refused call leaves the token as it was, or
one that no call has. -/
inductive CallAnswer
  | sent (token : Nat) (now : Int)
  | refused (token : Nat)
  deriving DecidableEq, Repr

inductive LunaAction
  /-- The locked section of `native_luna_volume_set`. -/
  | edit (pct : Int)
  /-- `atomic_exchange(&invoke_queued, true)`. -/
  | ring
  /-- Attaches the source of `luna_volume_dispatch_cb`. -/
  | attach
  | refresh
  | runDispatch (now : Int)
  | runRefresh (now : Int)
  /-- The next atomic action of the callback that runs; only calls read the answer. -/
  | advance (answer : CallAnswer)
  | getReply (token : Nat) (payload : List UInt8)
  | setReply (token : Nat)
  deriving DecidableEq, Repr

namespace LunaVolume

def isGet (call : Call) : Bool := call.edit.isNone

def fresh (lv : LunaVolume) (token : Nat) : Prop := ∀ call ∈ lv.calls, call.token ≠ token

instance (lv : LunaVolume) (token : Nat) : Decidable (lv.fresh token) :=
  List.decidableBAll _ lv.calls

def mark (state : CallState) (token : Nat) (call : Call) : Call :=
  if call.token = token ∧ call.state ≠ .answered then { call with state := state } else call

/-- `luna_volume_cancel_call`: the bus forgets the call, if it is still there. -/
def cancelCall (lv : LunaVolume) (token : Nat) : LunaVolume :=
  { lv with calls := lv.calls.map (mark .cancelled token) }

def answer (lv : LunaVolume) (token : Nat) : LunaVolume :=
  { lv with calls := lv.calls.map (mark .answered token) }

/-- The locked section of `native_luna_volume_set`. -/
def edit (lv : LunaVolume) (pct : Int) : LunaVolume :=
  let pct := (min (max pct 0) 100).toNat
  let made : Edit := ⟨lv.editCount, pct⟩
  { lv with
    editGeneration := lv.editGeneration + 1
    volumePct := pct
    desired := some made
    ui := .ringing
    editCount := lv.editCount + 1
    newest := some made }

/-- `luna_volume_get_reply_cb`. The answer is whether it wrote the cache. -/
def getReplyCb (lv : LunaVolume) (token : Nat) (payload : List UInt8) : LunaVolume × Bool :=
  if token ≠ lv.getToken then (lv, false)
  else
    let lv := { lv with refreshInFlight := false }
    match lunaVolumeParse payload with
    | none => (lv, false)
    | some (volume, muted) =>
      if lv.refreshGeneration = lv.editGeneration ∧ lv.setInFlight = false ∧ lv.desired = none then
        ({ lv with
            volumePct := volume
            muted := muted
            available := true
            replySeq := lv.replySeq + 1 }, true)
      else (lv, false)

/-- `luna_volume_set_reply_cb` up to `luna_volume_send_set`. -/
def setReplyCb (lv : LunaVolume) (token : Nat) : LunaVolume :=
  if token ≠ lv.setToken then lv
  else
    { lv with
      setInFlight := false
      loop := if lv.desired.isSome then .sendSet .done else .idle }

/-- `luna_volume_dispatch_cb` up to `luna_volume_send_set`. -/
def dispatchCb (lv : LunaVolume) (now : Int) : LunaVolume :=
  let lv := { lv with invokeQueued := false }
  if lv.setInFlight then
    if now - lv.setIssuedUs < stallUs then lv
    else
      { lv.cancelCall lv.setToken with
        setInFlight := false
        loop := .sendSet .done }
  else { lv with loop := .sendSet .done }

/-- `luna_volume_refresh_cb` up to its first look at `desired_pct`. -/
def refreshCb (lv : LunaVolume) (now : Int) : LunaVolume :=
  if !lv.handle then lv
  else if lv.setInFlight && stallUs ≤ now - lv.setIssuedUs then
    { lv.cancelCall lv.setToken with
      setInFlight := false
      loop := .sendSet (.pending now) }
  else { lv with loop := .refreshPending now }

def resume (after : After) : LoopPc :=
  match after with
  | .done => .idle
  | .pending now => .refreshPending now
  | .clear now => .refreshClear now

/-- The call with the next token of the bus. -/
def issue (lv : LunaVolume) (token : Nat) (edit : Option Edit) : LunaVolume :=
  { lv with calls := lv.calls ++ [⟨token, edit, lv.editCount, .flying⟩] }

/-- `luna_volume_send_set` takes the pending edit. -/
def takeDesired (lv : LunaVolume) (after : After) : LunaVolume :=
  let taken := lv.desired
  let lv := { lv with desired := none }
  match taken with
  | none => { lv with loop := resume after }
  | some edit =>
    if lv.handle then { lv with loop := .callSet after edit }
    else
      { lv with
        loop := resume after
        failed := lv.failed ++ [edit] }

/-- `luna_volume_send_set` calls `setVolume`. -/
def callSet (lv : LunaVolume) (after : After) (edit : Edit) : CallAnswer → LunaVolume
  | .sent token now =>
    { lv.issue token (some edit) with
      setToken := token
      setInFlight := true
      setIssuedUs := now
      loop := resume after }
  | .refused token =>
    { lv with
      setToken := token
      failed := lv.failed ++ [edit]
      loop := resume after }

/-- `luna_volume_refresh_cb` calls `getVolume`. -/
def callGet (lv : LunaVolume) (now : Int) : CallAnswer → LunaVolume
  | .sent token _ =>
    { lv.issue token none with
      getToken := token
      refreshInFlight := true
      refreshIssuedUs := now
      loop := .idle }
  | .refused token =>
    { lv with
      getToken := token
      loop := .idle }

/-- `luna_volume_refresh_cb` from its last look at `desired_pct` to the stall check. -/
def refreshClear (lv : LunaVolume) (now : Int) : LunaVolume :=
  if lv.setInFlight || lv.desired.isSome then { lv with loop := .idle }
  else if lv.refreshInFlight then
    if now - lv.refreshIssuedUs < stallUs then { lv with loop := .idle }
    else
      { lv.cancelCall lv.getToken with
        refreshInFlight := false
        loop := .refreshStamp now }
  else { lv with loop := .refreshStamp now }

/-- The section of `luna_volume_refresh_cb` under the cache lock. -/
def refreshStamp (lv : LunaVolume) (now : Int) : LunaVolume :=
  if lv.desired.isSome then { lv with loop := .idle }
  else
    { lv with
      refreshGeneration := lv.editGeneration
      stampedAt := lv.editCount
      loop := .callGet now }

/-- An answer of the bus in the state it is given in. -/
def allows (lv : LunaVolume) (stored : Nat) : CallAnswer → Prop
  | .sent token _ => lv.fresh token
  | .refused token => token = stored ∨ lv.fresh token

instance (lv : LunaVolume) (stored : Nat) (answer : CallAnswer) :
    Decidable (lv.allows stored answer) :=
  match answer with
  | .sent token _ => inferInstanceAs (Decidable (lv.fresh token))
  | .refused token => inferInstanceAs (Decidable (token = stored ∨ lv.fresh token))

/-- The next atomic action of the callback that runs. -/
def advance (lv : LunaVolume) (answer : CallAnswer) : Option LunaVolume :=
  match lv.loop with
  | .idle => none
  | .sendSet after => some (lv.takeDesired after)
  | .callSet after edit =>
    if lv.allows lv.setToken answer then some (lv.callSet after edit answer) else none
  | .refreshPending now =>
    if !lv.setInFlight && lv.desired.isSome then
      some { lv with loop := .sendSet (.clear now) }
    else some { lv with loop := .refreshClear now }
  | .refreshClear now => some (lv.refreshClear now)
  | .refreshStamp now => some (lv.refreshStamp now)
  | .callGet now =>
    if lv.allows lv.getToken answer then some (lv.callGet now answer) else none

/-- The call a reply is for, unless it has been answered. -/
def answerable (lv : LunaVolume) (get : Bool) (token : Nat) : Option Call :=
  lv.calls.find? fun call => call.token = token ∧ isGet call = get ∧ call.state ≠ .answered

/-- One step of a thread or of the bus. The answer is the `getVolume` call whose
reply was written into the cache. -/
def step (lv : LunaVolume) : LunaAction → Option (LunaVolume × Option Call)
  | .edit pct => if lv.ui = .idle then some (lv.edit pct, none) else none
  | .ring =>
    if lv.ui = .ringing then
      if lv.invokeQueued then some ({ lv with ui := .idle }, none)
      else
        some ({ lv with
          invokeQueued := true
          ui := .attaching }, none)
    else none
  | .attach =>
    if lv.ui = .attaching then
      some ({ lv with
        dispatches := lv.dispatches + 1
        ui := .idle }, none)
    else none
  | .refresh =>
    if lv.ui = .idle then some ({ lv with refreshes := lv.refreshes + 1 }, none) else none
  | .runDispatch now =>
    if lv.loop = .idle ∧ 0 < lv.dispatches then
      some (({ lv with dispatches := lv.dispatches - 1 } : LunaVolume).dispatchCb now, none)
    else none
  | .runRefresh now =>
    if lv.loop = .idle ∧ 0 < lv.refreshes then
      some (({ lv with refreshes := lv.refreshes - 1 } : LunaVolume).refreshCb now, none)
    else none
  | .advance answer => (lv.advance answer).map fun lv => (lv, none)
  | .getReply token payload =>
    if lv.loop = .idle then
      (lv.answerable true token).map fun call =>
        ((lv.getReplyCb token payload).1.answer token,
          if (lv.getReplyCb token payload).2 then some call else none)
    else none
  | .setReply token =>
    if lv.loop = .idle then
      (lv.answerable false token).map fun _ => ((lv.setReplyCb token).answer token, none)
    else none

/-- The last edit whose `setVolume` the bus accepted. -/
def lastSent (lv : LunaVolume) : Option Edit := (lv.calls.filterMap fun call => call.edit).getLast?

/-- A call that is neither answered nor cancelled. -/
def Flying (lv : LunaVolume) (get : Bool) (call : Call) : Prop :=
  call ∈ lv.calls ∧ isGet call = get ∧ call.state = .flying

def flyingCalls (lv : LunaVolume) (get : Bool) : List Call :=
  lv.calls.filter fun call => isGet call = get ∧ call.state = .flying

end LunaVolume

/-- The client from the moment its loop is ready. `handle` is whether the bus registered it. -/
def lunaVolume (handle : Bool) : Machine LunaVolume LunaAction (Option Call) where
  init := { handle := handle }
  step := LunaVolume.step

end Lgnome.Volume
