import Lgnome.Volume.Luna

/-!
# The volume protocol over whole runs

At most one call of each kind is out, the newest edit is never lost, and a reply
writes the cache only if nothing was edited since its call. The last holds as long
as no cancelled poll is answered under the token that its failed replacement left
in place, and the 32-bit edit counter does not come around.
-/
namespace Lgnome.Volume

open Lgnome.Transition

namespace LunaVolume

variable {lv lv' : LunaVolume} {call : Call} {get : Bool} {token : Nat} {state : CallState}

section Calls

@[simp] theorem mark_token (c : Call) : (mark state token c).token = c.token := by
  unfold mark
  split <;> rfl

@[simp] theorem mark_edit (c : Call) : (mark state token c).edit = c.edit := by
  unfold mark
  split <;> rfl

@[simp] theorem mark_editsBefore (c : Call) : (mark state token c).editsBefore = c.editsBefore := by
  unfold mark
  split <;> rfl

/-- What still flies behind a mark flew before, under another token. -/
theorem mark_flying {c : Call} (hstate : state ≠ .flying) (h : (mark state token c).state = .flying) :
    c.state = .flying ∧ c.token ≠ token := by
  unfold mark at h
  split at h
  · exact absurd h hstate
  · rename_i hnot
    refine ⟨h, fun htoken => hnot ⟨htoken, ?_⟩⟩
    rw [h]
    exact fun hcall => CallState.noConfusion hcall

/-- Marking the calls with one token leaves only other calls in flight, as they were. -/
theorem flying_of_mark {calls : List Call} (hstate : state ≠ .flying)
    (hcalls : lv'.calls = calls.map (mark state token)) (h : lv'.Flying get call) :
    ∃ before ∈ calls, isGet before = get ∧ before.state = .flying ∧ before.token = call.token ∧
      before.editsBefore = call.editsBefore ∧ call.token ≠ token := by
  obtain ⟨hmem, hget, hflying⟩ := h
  rw [hcalls] at hmem
  obtain ⟨before, hbefore, rfl⟩ := List.mem_map.mp hmem
  obtain ⟨hwas, hother⟩ := mark_flying hstate hflying
  refine ⟨before, hbefore, ?_, hwas, by simp, by simp, by simpa using hother⟩
  simpa [isGet] using hget

end Calls

/-- What a reply to a poll leaves alone. -/
structure ReplyKept (lv lv' : LunaVolume) : Prop where
  calls : lv'.calls = lv.calls
  getToken : lv'.getToken = lv.getToken
  setToken : lv'.setToken = lv.setToken
  setInFlight : lv'.setInFlight = lv.setInFlight
  loop : lv'.loop = lv.loop
  desired : lv'.desired = lv.desired
  newest : lv'.newest = lv.newest
  failed : lv'.failed = lv.failed
  editGeneration : lv'.editGeneration = lv.editGeneration
  refreshGeneration : lv'.refreshGeneration = lv.refreshGeneration
  editCount : lv'.editCount = lv.editCount
  stampedAt : lv'.stampedAt = lv.stampedAt

theorem getReplyCb_kept (lv : LunaVolume) (token : Nat) (payload : List UInt8) :
    ReplyKept lv (lv.getReplyCb token payload).1 := by
  unfold getReplyCb
  split
  · constructor <;> rfl
  · dsimp only
    split
    · constructor <;> rfl
    · split <;> constructor <;> rfl

/-- What the UI thread leaves alone. -/
structure UiKept (lv lv' : LunaVolume) : Prop where
  calls : lv'.calls = lv.calls
  refreshInFlight : lv'.refreshInFlight = lv.refreshInFlight
  getToken : lv'.getToken = lv.getToken
  setInFlight : lv'.setInFlight = lv.setInFlight
  setToken : lv'.setToken = lv.setToken
  loop : lv'.loop = lv.loop
  failed : lv'.failed = lv.failed
  refreshGeneration : lv'.refreshGeneration = lv.refreshGeneration
  stampedAt : lv'.stampedAt = lv.stampedAt
  edited : (lv'.desired = lv.desired ∧ lv'.newest = lv.newest ∧ lv'.editCount = lv.editCount ∧
      lv'.editGeneration = lv.editGeneration) ∨
    (lv'.desired = lv'.newest ∧ lv'.desired.isSome ∧ lv'.editCount = lv.editCount + 1 ∧
      lv'.editGeneration = lv.editGeneration + 1)

/-- What one step can be. -/
inductive Stepped (lv : LunaVolume) : LunaAction → LunaVolume × Option Call → Prop
  | ui {action : LunaAction} {lv' : LunaVolume} (hkept : UiKept lv lv') :
      Stepped lv action (lv', none)
  | dispatch (now : Int) (hidle : lv.loop = .idle) :
      Stepped lv (.runDispatch now)
        (({ lv with dispatches := lv.dispatches - 1 } : LunaVolume).dispatchCb now, none)
  | refresh (now : Int) (hidle : lv.loop = .idle) :
      Stepped lv (.runRefresh now)
        (({ lv with refreshes := lv.refreshes - 1 } : LunaVolume).refreshCb now, none)
  | advance (answer : CallAnswer) {lv' : LunaVolume} (hadvance : lv.advance answer = some lv') :
      Stepped lv (.advance answer) (lv', none)
  | getReply (token : Nat) (payload : List UInt8) (call : Call) (hidle : lv.loop = .idle)
      (hcall : lv.answerable true token = some call) :
      Stepped lv (.getReply token payload) ((lv.getReplyCb token payload).1.answer token,
        if (lv.getReplyCb token payload).2 then some call else none)
  | setReply (token : Nat) (hidle : lv.loop = .idle) :
      Stepped lv (.setReply token) ((lv.setReplyCb token).answer token, none)

theorem step_cases {action : LunaAction} {result : LunaVolume × Option Call}
    (h : lv.step action = some result) : Stepped lv action result := by
  cases action with
  | edit pct =>
    simp only [step] at h
    split at h
    · obtain rfl := Option.some.inj h
      exact .ui ⟨rfl, rfl, rfl, rfl, rfl, rfl, rfl, rfl, rfl, .inr ⟨rfl, rfl, rfl, rfl⟩⟩
    · cases h
  | ring =>
    simp only [step] at h
    split at h
    · split at h
      · obtain rfl := Option.some.inj h
        exact .ui ⟨rfl, rfl, rfl, rfl, rfl, rfl, rfl, rfl, rfl, .inl ⟨rfl, rfl, rfl, rfl⟩⟩
      · obtain rfl := Option.some.inj h
        exact .ui ⟨rfl, rfl, rfl, rfl, rfl, rfl, rfl, rfl, rfl, .inl ⟨rfl, rfl, rfl, rfl⟩⟩
    · cases h
  | attach =>
    simp only [step] at h
    split at h
    · obtain rfl := Option.some.inj h
      exact .ui ⟨rfl, rfl, rfl, rfl, rfl, rfl, rfl, rfl, rfl, .inl ⟨rfl, rfl, rfl, rfl⟩⟩
    · cases h
  | refresh =>
    simp only [step] at h
    split at h
    · obtain rfl := Option.some.inj h
      exact .ui ⟨rfl, rfl, rfl, rfl, rfl, rfl, rfl, rfl, rfl, .inl ⟨rfl, rfl, rfl, rfl⟩⟩
    · cases h
  | runDispatch now =>
    simp only [step] at h
    split at h
    · rename_i hidle
      obtain rfl := Option.some.inj h
      exact .dispatch now hidle.1
    · cases h
  | runRefresh now =>
    simp only [step] at h
    split at h
    · rename_i hidle
      obtain rfl := Option.some.inj h
      exact .refresh now hidle.1
    · cases h
  | advance answer =>
    simp only [step, Option.map_eq_some_iff] at h
    obtain ⟨lv', hadvance, rfl⟩ := h
    exact .advance answer hadvance
  | getReply token payload =>
    simp only [step] at h
    split at h
    · rename_i hidle
      obtain ⟨call, hcall, rfl⟩ := Option.map_eq_some_iff.mp h
      exact .getReply token payload call hidle hcall
    · cases h
  | setReply token =>
    simp only [step] at h
    split at h
    · rename_i hidle
      obtain ⟨call, hcall, rfl⟩ := Option.map_eq_some_iff.mp h
      exact .setReply token hidle
    · cases h

/-- The loop thread is about to call `setVolume`. -/
def sending : LoopPc → Bool
  | .sendSet _ => true
  | .callSet _ _ => true
  | _ => false

/-- The loop thread is about to call `getVolume`. -/
def polling : LoopPc → Bool
  | .refreshStamp _ => true
  | .callGet _ => true
  | _ => false

@[simp] theorem sending_resume (after : After) : sending (resume after) = false := by
  cases after <;> rfl

@[simp] theorem polling_resume (after : After) : polling (resume after) = false := by
  cases after <;> rfl

/-- Which calls are out, as the flags of the loop thread have it. -/
structure OneCall (lv : LunaVolume) : Prop where
  tokens : (lv.calls.map Call.token).Nodup
  gets : ∀ call, lv.Flying true call → lv.refreshInFlight = true ∧ call.token = lv.getToken
  sets : ∀ call, lv.Flying false call → lv.setInFlight = true ∧ call.token = lv.setToken
  quietSet : sending lv.loop → lv.setInFlight = false
  quietGet : polling lv.loop → lv.refreshInFlight = false

namespace OneCall

variable {lv lv' : LunaVolume} {call : Call} {token : Nat} {state : CallState}

/-- A step that leaves the calls and the flags alone. -/
theorem same (h : OneCall lv) (hcalls : lv'.calls = lv.calls)
    (hgets : lv'.refreshInFlight = lv.refreshInFlight ∧ lv'.getToken = lv.getToken)
    (hsets : lv'.setInFlight = lv.setInFlight ∧ lv'.setToken = lv.setToken)
    (hquietSet : sending lv'.loop → lv.setInFlight = false)
    (hquietGet : polling lv'.loop → lv.refreshInFlight = false) : OneCall lv' := by
  constructor
  · rw [hcalls]; exact h.tokens
  · intro call hcall
    rw [hgets.1, hgets.2]
    exact h.gets call ⟨hcalls ▸ hcall.1, hcall.2⟩
  · intro call hcall
    rw [hsets.1, hsets.2]
    exact h.sets call ⟨hcalls ▸ hcall.1, hcall.2⟩
  · rw [hsets.1]; exact hquietSet
  · rw [hgets.1]; exact hquietGet

/-- A flag may fall when the call that it stands for is marked. -/
theorem marked (h : OneCall lv) (hstate : state ≠ .flying)
    (hcalls : lv'.calls = lv.calls.map (mark state token))
    (hgets : lv'.getToken = lv.getToken ∧
      (lv'.refreshInFlight = lv.refreshInFlight ∨ token = lv.getToken))
    (hsets : lv'.setToken = lv.setToken ∧
      (lv'.setInFlight = lv.setInFlight ∨ token = lv.setToken))
    (hquietSet : sending lv'.loop → lv'.setInFlight = false)
    (hquietGet : polling lv'.loop → lv'.refreshInFlight = false) : OneCall lv' := by
  refine ⟨?_, ?_, ?_, hquietSet, hquietGet⟩
  · rw [hcalls, List.map_map]
    have hmap : Call.token ∘ mark state token = Call.token := funext fun c => mark_token c
    rw [hmap]
    exact h.tokens
  · intro call hcall
    obtain ⟨before, hmem, hget, hflying, htoken, -, hother⟩ := flying_of_mark hstate hcalls hcall
    obtain ⟨hflag, hown⟩ := h.gets before ⟨hmem, hget, hflying⟩
    rw [htoken] at hown
    rcases hgets.2 with hkept | hmarked
    · exact ⟨hkept.trans hflag, hown.trans hgets.1.symm⟩
    · exact absurd (hown.trans hmarked.symm) hother
  · intro call hcall
    obtain ⟨before, hmem, hget, hflying, htoken, -, hother⟩ := flying_of_mark hstate hcalls hcall
    obtain ⟨hflag, hown⟩ := h.sets before ⟨hmem, hget, hflying⟩
    rw [htoken] at hown
    rcases hsets.2 with hkept | hmarked
    · exact ⟨hkept.trans hflag, hown.trans hsets.1.symm⟩
    · exact absurd (hown.trans hmarked.symm) hother

/-- The tokens stay apart when the bus accepts one more call. -/
theorem issue_tokens (h : OneCall lv) (hfresh : lv.fresh token) (edit : Option Edit) :
    ((lv.issue token edit).calls.map Call.token).Nodup := by
  simp only [issue, List.map_append, List.map_cons, List.map_nil]
  rw [List.nodup_append]
  refine ⟨h.tokens, List.nodup_singleton _, ?_⟩
  intro a ha b hb
  obtain ⟨call, hcall, rfl⟩ := List.mem_map.mp ha
  obtain rfl := List.mem_singleton.mp hb
  exact hfresh call hcall

theorem dispatchCb (h : OneCall lv) (hidle : lv.loop = .idle) (now : Int) :
    OneCall (lv.dispatchCb now) := by
  unfold LunaVolume.dispatchCb
  dsimp only
  split
  · split
    · exact h.same rfl ⟨rfl, rfl⟩ ⟨rfl, rfl⟩ (by simp [hidle, sending]) (by simp [hidle, polling])
    · exact h.marked (by decide) rfl ⟨rfl, .inl rfl⟩ ⟨rfl, .inr rfl⟩ (fun _ => rfl)
        (by simp [polling])
  · rename_i hnone
    exact h.same rfl ⟨rfl, rfl⟩ ⟨rfl, rfl⟩ (fun _ => by simpa using hnone) (by simp [polling])

theorem refreshCb (h : OneCall lv) (now : Int) : OneCall (lv.refreshCb now) := by
  unfold LunaVolume.refreshCb
  split
  · exact h
  · split
    · exact h.marked (by decide) rfl ⟨rfl, .inl rfl⟩ ⟨rfl, .inr rfl⟩ (fun _ => rfl)
        (by simp [polling])
    · exact h.same rfl ⟨rfl, rfl⟩ ⟨rfl, rfl⟩ (by simp [sending]) (by simp [polling])

theorem takeDesired (h : OneCall lv) {after : After} (hloop : lv.loop = .sendSet after) :
    OneCall (lv.takeDesired after) := by
  have hquiet : lv.setInFlight = false := h.quietSet (by rw [hloop]; rfl)
  unfold LunaVolume.takeDesired
  dsimp only
  split
  · exact h.same rfl ⟨rfl, rfl⟩ ⟨rfl, rfl⟩ (fun _ => hquiet) (by simp)
  · split
    · exact h.same rfl ⟨rfl, rfl⟩ ⟨rfl, rfl⟩ (fun _ => hquiet) (by simp [polling])
    · exact h.same rfl ⟨rfl, rfl⟩ ⟨rfl, rfl⟩ (fun _ => hquiet) (by simp)

theorem callSet (h : OneCall lv) {after : After} {edit : Edit} {answer : CallAnswer}
    (hloop : lv.loop = .callSet after edit) (hanswer : lv.allows lv.setToken answer) :
    OneCall (lv.callSet after edit answer) := by
  have hquiet : lv.setInFlight = false := h.quietSet (by rw [hloop]; rfl)
  have hno : ∀ call, ¬ lv.Flying false call := by
    intro call hcall
    have hflag := (h.sets call hcall).1
    rw [hquiet] at hflag
    cases hflag
  cases answer with
  | refused token =>
    refine ⟨h.tokens, h.gets, ?_, by simp [LunaVolume.callSet], by simp [LunaVolume.callSet]⟩
    intro call hcall
    exact absurd hcall (hno call)
  | sent token now =>
    refine ⟨h.issue_tokens hanswer (some edit), ?_, ?_, by simp [LunaVolume.callSet],
      by simp [LunaVolume.callSet]⟩
    · rintro call ⟨hmem, hget, hflying⟩
      rcases List.mem_append.mp hmem with hold | hnew
      · exact h.gets call ⟨hold, hget, hflying⟩
      · obtain rfl := List.mem_singleton.mp hnew
        cases hget
    · rintro call ⟨hmem, hget, hflying⟩
      rcases List.mem_append.mp hmem with hold | hnew
      · exact absurd ⟨hold, hget, hflying⟩ (hno call)
      · obtain rfl := List.mem_singleton.mp hnew
        exact ⟨rfl, rfl⟩

theorem callGet (h : OneCall lv) {now : Int} {answer : CallAnswer}
    (hloop : lv.loop = .callGet now) (hanswer : lv.allows lv.getToken answer) :
    OneCall (lv.callGet now answer) := by
  have hquiet : lv.refreshInFlight = false := h.quietGet (by rw [hloop]; rfl)
  have hno : ∀ call, ¬ lv.Flying true call := by
    intro call hcall
    have hflag := (h.gets call hcall).1
    rw [hquiet] at hflag
    cases hflag
  cases answer with
  | refused token =>
    refine ⟨h.tokens, ?_, h.sets, by simp [LunaVolume.callGet, sending],
      by simp [LunaVolume.callGet, polling]⟩
    intro call hcall
    exact absurd hcall (hno call)
  | sent token issued =>
    refine ⟨h.issue_tokens hanswer none, ?_, ?_, by simp [LunaVolume.callGet, sending],
      by simp [LunaVolume.callGet, polling]⟩
    · rintro call ⟨hmem, hget, hflying⟩
      rcases List.mem_append.mp hmem with hold | hnew
      · exact absurd ⟨hold, hget, hflying⟩ (hno call)
      · obtain rfl := List.mem_singleton.mp hnew
        exact ⟨rfl, rfl⟩
    · rintro call ⟨hmem, hget, hflying⟩
      rcases List.mem_append.mp hmem with hold | hnew
      · exact h.sets call ⟨hold, hget, hflying⟩
      · obtain rfl := List.mem_singleton.mp hnew
        cases hget

theorem refreshClear (h : OneCall lv) (now : Int) : OneCall (lv.refreshClear now) := by
  unfold LunaVolume.refreshClear
  split
  · exact h.same rfl ⟨rfl, rfl⟩ ⟨rfl, rfl⟩ (by simp [sending]) (by simp [polling])
  split
  · split
    · exact h.same rfl ⟨rfl, rfl⟩ ⟨rfl, rfl⟩ (by simp [sending]) (by simp [polling])
    · exact h.marked (by decide) rfl ⟨rfl, .inr rfl⟩ ⟨rfl, .inl rfl⟩ (by simp [sending])
        (fun _ => rfl)
  · rename_i hnone
    exact h.same rfl ⟨rfl, rfl⟩ ⟨rfl, rfl⟩ (by simp [sending]) (fun _ => by simpa using hnone)

theorem refreshStamp (h : OneCall lv) {now : Int} (hloop : lv.loop = .refreshStamp now) :
    OneCall (lv.refreshStamp now) := by
  have hquiet : lv.refreshInFlight = false := h.quietGet (by rw [hloop]; rfl)
  unfold LunaVolume.refreshStamp
  split
  · exact h.same rfl ⟨rfl, rfl⟩ ⟨rfl, rfl⟩ (by simp [sending]) (by simp [polling])
  · exact h.same rfl ⟨rfl, rfl⟩ ⟨rfl, rfl⟩ (by simp [sending]) (fun _ => hquiet)

theorem advance (h : OneCall lv) {answer : CallAnswer} (hstep : lv.advance answer = some lv') :
    OneCall lv' := by
  unfold LunaVolume.advance at hstep
  split at hstep
  · cases hstep
  · rename_i after hloop
    obtain rfl := Option.some.inj hstep
    exact h.takeDesired hloop
  · rename_i after edit hloop
    split at hstep
    · rename_i hanswer
      obtain rfl := Option.some.inj hstep
      exact h.callSet hloop hanswer
    · cases hstep
  · rename_i now hloop
    split at hstep
    · rename_i hfree
      obtain rfl := Option.some.inj hstep
      have hquiet : lv.setInFlight = false := by
        simp only [Bool.and_eq_true, Bool.not_eq_true'] at hfree
        exact hfree.1
      exact h.same rfl ⟨rfl, rfl⟩ ⟨rfl, rfl⟩ (fun _ => hquiet) (by simp [polling])
    · obtain rfl := Option.some.inj hstep
      exact h.same rfl ⟨rfl, rfl⟩ ⟨rfl, rfl⟩ (by simp [sending]) (by simp [polling])
  · obtain rfl := Option.some.inj hstep
    exact h.refreshClear _
  · rename_i now hloop
    obtain rfl := Option.some.inj hstep
    exact h.refreshStamp hloop
  · rename_i now hloop
    split at hstep
    · rename_i hanswer
      obtain rfl := Option.some.inj hstep
      exact h.callGet hloop hanswer
    · cases hstep

theorem getReply (h : OneCall lv) (hidle : lv.loop = .idle) (token : Nat) (payload : List UInt8) :
    OneCall ((lv.getReplyCb token payload).1.answer token) := by
  have hkept := getReplyCb_kept lv token payload
  have hcalls : ((lv.getReplyCb token payload).1.answer token).calls
      = lv.calls.map (mark .answered token) := by
    rw [← hkept.calls]
    rfl
  refine h.marked (by decide) hcalls ?_ ?_ ?_ ?_
  · refine ⟨hkept.getToken, ?_⟩
    by_cases htoken : token = lv.getToken
    · exact .inr htoken
    · exact .inl (by simp [LunaVolume.getReplyCb, htoken, LunaVolume.answer])
  · exact ⟨hkept.setToken, .inl hkept.setInFlight⟩
  · have hloop : ((lv.getReplyCb token payload).1.answer token).loop = .idle :=
      hkept.loop.trans hidle
    simp [hloop, sending]
  · have hloop : ((lv.getReplyCb token payload).1.answer token).loop = .idle :=
      hkept.loop.trans hidle
    simp [hloop, polling]

theorem setReply (h : OneCall lv) (hidle : lv.loop = .idle) (token : Nat) :
    OneCall ((lv.setReplyCb token).answer token) := by
  unfold LunaVolume.setReplyCb
  split
  · exact h.marked (by decide) rfl ⟨rfl, .inl rfl⟩ ⟨rfl, .inl rfl⟩
      (by simp [LunaVolume.answer, hidle, sending]) (by simp [LunaVolume.answer, hidle, polling])
  · rename_i htoken
    refine h.marked (by decide) rfl ⟨rfl, .inl rfl⟩ ⟨rfl, .inr (not_not.mp htoken)⟩
      (fun _ => rfl) ?_
    simp only [LunaVolume.answer]
    split <;> simp [polling]

theorem next (h : OneCall lv) {action : LunaAction} {written : Option Call}
    (hstep : lv.step action = some (lv', written)) : OneCall lv' := by
  cases step_cases hstep with
  | ui hui =>
    exact h.same hui.calls ⟨hui.refreshInFlight, hui.getToken⟩ ⟨hui.setInFlight, hui.setToken⟩
      (by rw [hui.loop]; exact h.quietSet) (by rw [hui.loop]; exact h.quietGet)
  | dispatch now hidle =>
    have hbase : OneCall { lv with dispatches := lv.dispatches - 1 } :=
      h.same rfl ⟨rfl, rfl⟩ ⟨rfl, rfl⟩ h.quietSet h.quietGet
    exact hbase.dispatchCb hidle now
  | refresh now =>
    have hbase : OneCall { lv with refreshes := lv.refreshes - 1 } :=
      h.same rfl ⟨rfl, rfl⟩ ⟨rfl, rfl⟩ h.quietSet h.quietGet
    exact hbase.refreshCb now
  | advance answer hadvance => exact h.advance hadvance
  | getReply token payload call hidle => exact h.getReply hidle token payload
  | setReply token hidle => exact h.setReply hidle token

end OneCall

/-- Where the newest edit is: pending, in the loop thread's hand, sent last, or failed. -/
structure NewestKept (lv : LunaVolume) : Prop where
  pending : ∀ edit, lv.desired = some edit → lv.newest = some edit
  hand : ∀ after edit, lv.loop = .callSet after edit → lv.desired = none → lv.newest = some edit
  settled : lv.desired = none → (∀ after edit, lv.loop ≠ .callSet after edit) →
    lv.newest = none ∨ lv.lastSent = lv.newest ∨ ∃ edit ∈ lv.failed, lv.newest = some edit

namespace NewestKept

variable {lv lv' : LunaVolume}

theorem lastSent_mark {state : CallState} {token : Nat}
    (hcalls : lv'.calls = lv.calls.map (mark state token)) : lv'.lastSent = lv.lastSent := by
  unfold lastSent
  rw [hcalls, List.filterMap_map]
  have hmap : (fun call => Call.edit call) ∘ mark state token = fun call => call.edit :=
    funext fun c => mark_edit c
  rw [hmap]

theorem lastSent_issue_set (lv : LunaVolume) (token : Nat) (edit : Edit) :
    (lv.issue token (some edit)).lastSent = some edit := by
  simp [lastSent, issue]

theorem lastSent_issue_get (lv : LunaVolume) (token : Nat) :
    (lv.issue token none).lastSent = lv.lastSent := by
  simp [lastSent, issue]

/-- A step between two places that hold no edit. -/
theorem same (h : NewestKept lv) (hdesired : lv'.desired = lv.desired)
    (hnewest : lv'.newest = lv.newest) (hfailed : lv'.failed = lv.failed)
    (hsent : lv'.lastSent = lv.lastSent) (hempty : ∀ after edit, lv.loop ≠ .callSet after edit)
    (hempty' : ∀ after edit, lv'.loop ≠ .callSet after edit) : NewestKept lv' := by
  refine ⟨?_, ?_, ?_⟩
  · rw [hdesired, hnewest]
    exact h.pending
  · intro after edit hloop
    exact absurd hloop (hempty' after edit)
  · intro hnone _
    rw [hnewest, hsent, hfailed]
    exact h.settled (hdesired ▸ hnone) hempty

theorem ui (h : NewestKept lv) (hui : UiKept lv lv') : NewestKept lv' := by
  have hsent : lv'.lastSent = lv.lastSent := by
    unfold lastSent
    rw [hui.calls]
  rcases hui.edited with ⟨hdesired, hnewest, -, -⟩ | ⟨hdesired, hsome, -, -⟩
  · refine ⟨?_, ?_, ?_⟩
    · rw [hdesired, hnewest]
      exact h.pending
    · rw [hdesired, hnewest, hui.loop]
      exact h.hand
    · rw [hdesired, hnewest, hui.loop, hsent, hui.failed]
      exact h.settled
  · -- The new edit is pending, and everything older is out of sight.
    have hnone : lv'.desired ≠ none := Option.isSome_iff_ne_none.mp hsome
    refine ⟨?_, ?_, ?_⟩
    · intro edit hedit
      rw [← hdesired]
      exact hedit
    · intro _ _ _ hempty
      exact absurd hempty hnone
    · intro hempty
      exact absurd hempty hnone

theorem takeDesired (h : NewestKept lv) {after : After} (hloop : lv.loop = .sendSet after) :
    NewestKept (lv.takeDesired after) := by
  have hempty : ∀ after' edit, lv.loop ≠ .callSet after' edit := by simp [hloop]
  have hresume : ∀ after' edit, resume after ≠ .callSet after' edit := by
    cases after <;> simp [resume]
  unfold LunaVolume.takeDesired
  dsimp only
  cases hdesired : lv.desired with
  | none => exact h.same hdesired.symm rfl rfl rfl hempty hresume
  | some edit =>
    have hnewest := h.pending edit hdesired
    dsimp only
    split
    · refine ⟨by simp, ?_, by simp⟩
      intro after' edit' hcall _
      obtain ⟨-, rfl⟩ := LoopPc.callSet.inj hcall
      exact hnewest
    · refine ⟨by simp, ?_, ?_⟩
      · intro after' edit' hcall
        exact absurd hcall (hresume after' edit')
      · intro _ _
        exact .inr (.inr ⟨edit, by simp, hnewest⟩)

theorem callSet (h : NewestKept lv) {after : After} {edit : Edit} (answer : CallAnswer)
    (hloop : lv.loop = .callSet after edit) : NewestKept (lv.callSet after edit answer) := by
  have hresume : ∀ after' edit', resume after ≠ .callSet after' edit' := by
    cases after <;> simp [resume]
  cases answer with
  | sent token now =>
    refine ⟨h.pending, ?_, ?_⟩
    · intro after' edit' hcall
      exact absurd hcall (hresume after' edit')
    · intro hnone _
      have hsent : (lv.callSet after edit (.sent token now)).lastSent = some edit :=
        lastSent_issue_set lv token edit
      exact .inr (.inl (hsent.trans (h.hand after edit hloop hnone).symm))
  | refused token =>
    refine ⟨h.pending, ?_, ?_⟩
    · intro after' edit' hcall
      exact absurd hcall (hresume after' edit')
    · intro hnone _
      exact .inr (.inr ⟨edit, by simp [LunaVolume.callSet], h.hand after edit hloop hnone⟩)

theorem callGet (h : NewestKept lv) {now : Int} (answer : CallAnswer)
    (hloop : lv.loop = .callGet now) : NewestKept (lv.callGet now answer) := by
  have hempty : ∀ after' edit, lv.loop ≠ .callSet after' edit := by simp [hloop]
  cases answer with
  | sent token issued =>
    exact h.same rfl rfl rfl (lastSent_issue_get lv token) hempty (by simp [LunaVolume.callGet])
  | refused token => exact h.same rfl rfl rfl rfl hempty (by simp [LunaVolume.callGet])

theorem advance (h : NewestKept lv) {answer : CallAnswer} (hstep : lv.advance answer = some lv') :
    NewestKept lv' := by
  unfold LunaVolume.advance at hstep
  split at hstep
  · cases hstep
  · rename_i after hloop
    obtain rfl := Option.some.inj hstep
    exact h.takeDesired hloop
  · rename_i after edit hloop
    split at hstep
    · obtain rfl := Option.some.inj hstep
      exact h.callSet answer hloop
    · cases hstep
  · rename_i now hloop
    split at hstep
    · obtain rfl := Option.some.inj hstep
      exact h.same rfl rfl rfl rfl (by simp [hloop]) (by simp)
    · obtain rfl := Option.some.inj hstep
      exact h.same rfl rfl rfl rfl (by simp [hloop]) (by simp)
  · rename_i now hloop
    obtain rfl := Option.some.inj hstep
    unfold LunaVolume.refreshClear
    split
    · exact h.same rfl rfl rfl rfl (by simp [hloop]) (by simp)
    split
    · split
      · exact h.same rfl rfl rfl rfl (by simp [hloop]) (by simp)
      · exact h.same rfl rfl rfl (lastSent_mark rfl) (by simp [hloop]) (by simp)
    · exact h.same rfl rfl rfl rfl (by simp [hloop]) (by simp)
  · rename_i now hloop
    obtain rfl := Option.some.inj hstep
    unfold LunaVolume.refreshStamp
    split
    · exact h.same rfl rfl rfl rfl (by simp [hloop]) (by simp)
    · exact h.same rfl rfl rfl rfl (by simp [hloop]) (by simp)
  · rename_i now hloop
    split at hstep
    · obtain rfl := Option.some.inj hstep
      exact h.callGet answer hloop
    · cases hstep

theorem next (h : NewestKept lv) {action : LunaAction} {written : Option Call}
    (hstep : lv.step action = some (lv', written)) : NewestKept lv' := by
  cases step_cases hstep with
  | ui hui => exact h.ui hui
  | dispatch now hidle =>
    unfold dispatchCb
    dsimp only
    split
    · split
      · exact h.same rfl rfl rfl rfl (by simp [hidle]) (by simp [hidle])
      · exact h.same rfl rfl rfl (lastSent_mark rfl) (by simp [hidle]) (by simp)
    · exact h.same rfl rfl rfl rfl (by simp [hidle]) (by simp)
  | refresh now hidle =>
    unfold refreshCb
    split
    · exact h.same rfl rfl rfl rfl (by simp [hidle]) (by simp [hidle])
    · split
      · exact h.same rfl rfl rfl (lastSent_mark rfl) (by simp [hidle]) (by simp)
      · exact h.same rfl rfl rfl rfl (by simp [hidle]) (by simp)
  | advance answer hadvance => exact h.advance hadvance
  | getReply token payload call hidle =>
    have hkept := getReplyCb_kept lv token payload
    have hcalls : ((lv.getReplyCb token payload).1.answer token).calls
        = lv.calls.map (mark .answered token) := by
      rw [← hkept.calls]
      rfl
    have hloop : ((lv.getReplyCb token payload).1.answer token).loop = .idle :=
      hkept.loop.trans hidle
    exact h.same hkept.desired hkept.newest hkept.failed (lastSent_mark hcalls) (by simp [hidle])
      (by simp [hloop])
  | setReply token hidle =>
    unfold setReplyCb
    split
    · exact h.same rfl rfl rfl (lastSent_mark rfl) (by simp [hidle])
        (by simp [LunaVolume.answer, hidle])
    · refine h.same rfl rfl rfl (lastSent_mark rfl) (by simp [hidle]) ?_
      simp only [LunaVolume.answer]
      split <;> simp

end NewestKept

/-- The generations are the counts of edits, as far as 32 bits go. -/
structure Counted (lv : LunaVolume) : Prop where
  generation : lv.editGeneration.toNat = lv.editCount % 4294967296
  stamp : lv.refreshGeneration.toNat = lv.stampedAt % 4294967296
  stamped : lv.stampedAt ≤ lv.editCount
  issued : ∀ call, lv.Flying true call →
    lv.stampedAt ≤ call.editsBefore ∧ call.editsBefore ≤ lv.editCount

namespace Counted

variable {lv lv' : LunaVolume}

/-- A step that neither edits nor stamps, and calls nothing. -/
theorem same (h : Counted lv) (hedit : lv'.editGeneration = lv.editGeneration)
    (hrefresh : lv'.refreshGeneration = lv.refreshGeneration) (hcount : lv'.editCount = lv.editCount)
    (hstamp : lv'.stampedAt = lv.stampedAt)
    (hcalls : ∀ call, lv'.Flying true call →
      ∃ before, lv.Flying true before ∧ before.editsBefore = call.editsBefore) : Counted lv' := by
  constructor
  · rw [hedit, hcount]; exact h.generation
  · rw [hrefresh, hstamp]; exact h.stamp
  · rw [hstamp, hcount]; exact h.stamped
  · intro call hcall
    obtain ⟨before, hbefore, hissued⟩ := hcalls call hcall
    rw [hstamp, hcount, ← hissued]
    exact h.issued before hbefore

theorem flying_same (hcalls : lv'.calls = lv.calls) (call : Call) (h : lv'.Flying true call) :
    ∃ before, lv.Flying true before ∧ before.editsBefore = call.editsBefore :=
  ⟨call, ⟨hcalls ▸ h.1, h.2⟩, rfl⟩

theorem flying_mark {state : CallState} {token : Nat} (hstate : state ≠ .flying)
    (hcalls : lv'.calls = lv.calls.map (mark state token)) (call : Call)
    (h : lv'.Flying true call) :
    ∃ before, lv.Flying true before ∧ before.editsBefore = call.editsBefore := by
  obtain ⟨before, hmem, hget, hflying, -, hissued, -⟩ := flying_of_mark hstate hcalls h
  exact ⟨before, ⟨hmem, hget, hflying⟩, hissued⟩

theorem ui (h : Counted lv) (hui : UiKept lv lv') : Counted lv' := by
  rcases hui.edited with ⟨-, -, hcount, hedit⟩ | ⟨-, -, hcount, hedit⟩
  · exact h.same hedit hui.refreshGeneration hcount hui.stampedAt (flying_same hui.calls)
  · have hstamped := h.stamped
    constructor
    · rw [hedit, hcount, UInt32.toNat_add, h.generation]
      simp only [UInt32.toNat_one, Nat.reducePow]
      omega
    · rw [hui.refreshGeneration, hui.stampedAt]; exact h.stamp
    · rw [hui.stampedAt, hcount]; omega
    · intro call hcall
      have hissued := h.issued call ⟨hui.calls ▸ hcall.1, hcall.2⟩
      rw [hui.stampedAt, hcount]
      omega

theorem callGet (h : Counted lv) (now : Int) (answer : CallAnswer) :
    Counted (lv.callGet now answer) := by
  cases answer with
  | refused token => exact h.same rfl rfl rfl rfl (flying_same rfl)
  | sent token issued =>
    refine ⟨h.generation, h.stamp, h.stamped, ?_⟩
    rintro call ⟨hmem, hget, hflying⟩
    rcases List.mem_append.mp hmem with hold | hnew
    · exact h.issued call ⟨hold, hget, hflying⟩
    · obtain rfl := List.mem_singleton.mp hnew
      exact ⟨h.stamped, Nat.le_refl _⟩

theorem callSet (h : Counted lv) (after : After) (edit : Edit) (answer : CallAnswer) :
    Counted (lv.callSet after edit answer) := by
  cases answer with
  | refused token => exact h.same rfl rfl rfl rfl (flying_same rfl)
  | sent token now =>
    refine ⟨h.generation, h.stamp, h.stamped, ?_⟩
    rintro call ⟨hmem, hget, hflying⟩
    rcases List.mem_append.mp hmem with hold | hnew
    · exact h.issued call ⟨hold, hget, hflying⟩
    · obtain rfl := List.mem_singleton.mp hnew
      cases hget

/-- The stamp is taken while no poll is out. -/
theorem refreshStamp (h : Counted lv) (hone : OneCall lv) {now : Int}
    (hloop : lv.loop = .refreshStamp now) : Counted (lv.refreshStamp now) := by
  unfold LunaVolume.refreshStamp
  split
  · exact h.same rfl rfl rfl rfl (flying_same rfl)
  · refine ⟨h.generation, h.generation, Nat.le_refl _, ?_⟩
    intro call hcall
    have hflag := (hone.gets call hcall).1
    have hquiet : lv.refreshInFlight = false := hone.quietGet (by rw [hloop]; rfl)
    rw [hquiet] at hflag
    cases hflag

theorem advance (h : Counted lv) (hone : OneCall lv) {answer : CallAnswer}
    (hstep : lv.advance answer = some lv') : Counted lv' := by
  unfold LunaVolume.advance at hstep
  split at hstep
  · cases hstep
  · obtain rfl := Option.some.inj hstep
    unfold LunaVolume.takeDesired
    dsimp only
    split
    · exact h.same rfl rfl rfl rfl (flying_same rfl)
    · split <;> exact h.same rfl rfl rfl rfl (flying_same rfl)
  · split at hstep
    · obtain rfl := Option.some.inj hstep
      exact h.callSet _ _ answer
    · cases hstep
  · split at hstep
    · obtain rfl := Option.some.inj hstep
      exact h.same rfl rfl rfl rfl (flying_same rfl)
    · obtain rfl := Option.some.inj hstep
      exact h.same rfl rfl rfl rfl (flying_same rfl)
  · obtain rfl := Option.some.inj hstep
    unfold LunaVolume.refreshClear
    split
    · exact h.same rfl rfl rfl rfl (flying_same rfl)
    split
    · split
      · exact h.same rfl rfl rfl rfl (flying_same rfl)
      · exact h.same rfl rfl rfl rfl (flying_mark (by decide) rfl)
    · exact h.same rfl rfl rfl rfl (flying_same rfl)
  · rename_i now hloop
    obtain rfl := Option.some.inj hstep
    exact h.refreshStamp hone hloop
  · split at hstep
    · obtain rfl := Option.some.inj hstep
      exact h.callGet _ answer
    · cases hstep

theorem next (h : Counted lv) (hone : OneCall lv) {action : LunaAction} {written : Option Call}
    (hstep : lv.step action = some (lv', written)) : Counted lv' := by
  cases step_cases hstep with
  | ui hui => exact h.ui hui
  | dispatch now hidle =>
    unfold dispatchCb
    dsimp only
    split
    · split
      · exact h.same rfl rfl rfl rfl (flying_same rfl)
      · exact h.same rfl rfl rfl rfl (flying_mark (by decide) rfl)
    · exact h.same rfl rfl rfl rfl (flying_same rfl)
  | refresh now hidle =>
    unfold refreshCb
    split
    · exact h.same rfl rfl rfl rfl (flying_same rfl)
    · split
      · exact h.same rfl rfl rfl rfl (flying_mark (by decide) rfl)
      · exact h.same rfl rfl rfl rfl (flying_same rfl)
  | advance answer hadvance => exact h.advance hone hadvance
  | getReply token payload call hidle =>
    have hkept := getReplyCb_kept lv token payload
    have hcalls : ((lv.getReplyCb token payload).1.answer token).calls
        = lv.calls.map (mark .answered token) := by
      rw [← hkept.calls]
      rfl
    exact h.same hkept.editGeneration hkept.refreshGeneration hkept.editCount hkept.stampedAt
      (flying_mark (by decide) hcalls)
  | setReply token hidle =>
    unfold setReplyCb
    split
    · exact h.same rfl rfl rfl rfl (flying_mark (by decide) rfl)
    · exact h.same rfl rfl rfl rfl (flying_mark (by decide) rfl)

end Counted

/-- A reply writes the cache only under the token of the poll, with nothing edited
since the stamp and no set pending or out. -/
theorem getReplyCb_wrote {lv : LunaVolume} {token : Nat} {payload : List UInt8}
    (h : (lv.getReplyCb token payload).2 = true) :
    token = lv.getToken ∧ lv.refreshGeneration = lv.editGeneration ∧ lv.setInFlight = false ∧
      lv.desired = none := by
  unfold getReplyCb at h
  split at h
  · cases h
  · rename_i htoken
    dsimp only at h
    split at h
    · cases h
    · split at h
      · rename_i hclear
        exact ⟨not_not.mp htoken, hclear⟩
      · cases h

/-- No cancelled poll is answered under the token that a failed replacement left in
place, and fewer than 2³² edits were made since the stamp. -/
def Prompt (lv : LunaVolume) : LunaAction → Prop
  | .getReply token _ =>
    (∀ call ∈ lv.calls, call.token = token → call.state = .cancelled → token ≠ lv.getToken) ∧
      lv.editCount < lv.stampedAt + 4294967296
  | _ => True

instance (lv : LunaVolume) (action : LunaAction) : Decidable (lv.Prompt action) :=
  match action with
  | .getReply token _ =>
    have : Decidable (∀ call ∈ lv.calls, call.token = token → call.state = .cancelled →
        token ≠ lv.getToken) := List.decidableBAll _ lv.calls
    inferInstanceAs (Decidable (_ ∧ _))
  | .edit _ => inferInstanceAs (Decidable True)
  | .ring => inferInstanceAs (Decidable True)
  | .attach => inferInstanceAs (Decidable True)
  | .refresh => inferInstanceAs (Decidable True)
  | .runDispatch _ => inferInstanceAs (Decidable True)
  | .runRefresh _ => inferInstanceAs (Decidable True)
  | .advance _ => inferInstanceAs (Decidable True)
  | .setReply _ => inferInstanceAs (Decidable True)

/-- Nothing was edited since the call, and no set is out, pending or about to go out. -/
structure Untouched (lv : LunaVolume) (call : Call) : Prop where
  edits : lv.editCount = call.editsBefore
  pending : lv.desired = none
  idle : lv.loop = .idle
  sets : lv.flyingCalls false = []

/-- A written reply is the newest word on the volume. -/
theorem written_untouched {lv lv' : LunaVolume} (hone : OneCall lv) (hcount : Counted lv)
    {action : LunaAction} (hprompt : lv.Prompt action) {call : Call}
    (hstep : lv.step action = some (lv', some call)) : lv.Untouched call := by
  generalize hresult : (lv', some call) = result at hstep
  cases step_cases hstep with
  | getReply token payload found hidle hfound =>
    obtain ⟨rfl, hwritten⟩ := Prod.mk.inj hresult
    have hwrote : (lv.getReplyCb token payload).2 = true := by
      by_contra hno
      rw [if_neg hno] at hwritten
      cases hwritten
    rw [if_pos hwrote] at hwritten
    obtain rfl := Option.some.inj hwritten
    obtain ⟨htoken, hgenerations, hset, hdesired⟩ := getReplyCb_wrote hwrote
    have hspec := List.find?_some hfound
    simp only [decide_eq_true_eq, Bool.decide_and, Bool.and_eq_true] at hspec
    obtain ⟨hown, hget, hanswer⟩ := hspec
    have hmem := List.mem_of_find?_eq_some hfound
    -- The call still flies: it is neither answered nor, by the condition, cancelled.
    have hflying : call.state = .flying := by
      cases hstate : call.state with
      | flying => rfl
      | cancelled => exact absurd htoken (hprompt.1 call hmem hown hstate)
      | answered => exact absurd hstate hanswer
    obtain ⟨hstamped, hissued⟩ := hcount.issued call ⟨hmem, hget, hflying⟩
    have hbound := hprompt.2
    have hsame : lv.stampedAt % 4294967296 = lv.editCount % 4294967296 := by
      rw [← hcount.stamp, ← hcount.generation, hgenerations]
    refine ⟨by omega, hdesired, hidle, ?_⟩
    refine List.filter_eq_nil_iff.mpr fun other hother hout => ?_
    simp only [Bool.decide_and, Bool.and_eq_true, decide_eq_true_eq] at hout
    have hflag := (hone.sets other ⟨hother, hout.1, hout.2⟩).1
    rw [hset] at hflag
    cases hflag
  | _ => cases (Prod.mk.inj hresult).2

/-- One call of each kind at most, and the newest edit pending, about to go out,
sent last, or failed. -/
structure Orderly (lv : LunaVolume) : Prop where
  oneGet : (lv.flyingCalls true).length ≤ 1
  oneSet : (lv.flyingCalls false).length ≤ 1
  newest : ∀ edit, lv.newest = some edit → lv.desired = some edit ∨
    (∃ after, lv.loop = .callSet after edit) ∨ lv.lastSent = some edit ∨ edit ∈ lv.failed

theorem length_le_one {xs : List Nat} {a : Nat} (hnodup : xs.Nodup) (hall : ∀ x ∈ xs, x = a) :
    xs.length ≤ 1 := by
  have hrepeat : xs = List.replicate xs.length a := List.eq_replicate_of_mem hall
  rw [hrepeat] at hnodup
  exact List.nodup_replicate.mp hnodup

theorem flyingCalls_length {get : Bool} (hone : OneCall lv)
    (hown : ∀ call, lv.Flying get call → call.token = token) :
    (lv.flyingCalls get).length ≤ 1 := by
  have hsub : ((lv.flyingCalls get).map Call.token).Sublist (lv.calls.map Call.token) :=
    List.filter_sublist.map Call.token
  have hlength := length_le_one (hsub.nodup hone.tokens) (a := token) (by
    intro x hx
    obtain ⟨call, hcall, rfl⟩ := List.mem_map.mp hx
    obtain ⟨hmem, hfly⟩ := List.mem_filter.mp hcall
    simp only [Bool.decide_and, Bool.and_eq_true, decide_eq_true_eq] at hfly
    exact hown call ⟨hmem, hfly.1, hfly.2⟩)
  simpa using hlength

theorem orderly (hone : OneCall lv) (hnewest : NewestKept lv) : lv.Orderly := by
  refine ⟨flyingCalls_length hone fun call hcall => (hone.gets call hcall).2,
    flyingCalls_length hone fun call hcall => (hone.sets call hcall).2, ?_⟩
  intro edit hedit
  cases hdesired : lv.desired with
  | some pending =>
    have hsame := hnewest.pending pending hdesired
    rw [hedit] at hsame
    exact .inl hsame.symm
  | none =>
    by_cases hhand : ∃ after held, lv.loop = .callSet after held
    · obtain ⟨after, held, hloop⟩ := hhand
      have hsame := hnewest.hand after held hloop hdesired
      rw [hedit] at hsame
      obtain rfl := Option.some.inj hsame
      exact .inr (.inl ⟨after, hloop⟩)
    · have hempty : ∀ after held, lv.loop ≠ .callSet after held :=
        fun after held hloop => hhand ⟨after, held, hloop⟩
      rcases hnewest.settled hdesired hempty with hnone | hsent | ⟨failed, hfailed, hsame⟩
      · rw [hedit] at hnone
        cases hnone
      · exact .inr (.inr (.inl (hsent.trans hedit)))
      · rw [hedit] at hsame
        obtain rfl := Option.some.inj hsame
        exact .inr (.inr (.inr hfailed))

end LunaVolume

open LunaVolume

variable {handle : Bool} {rec : List (LunaAction × Option Call)} {lv : LunaVolume}

/-- What holds in every state, whatever the bus does. -/
theorem luna_kept (h : (lunaVolume handle).Run rec lv) :
    OneCall lv ∧ NewestKept lv ∧ Counted lv := by
  refine h.invariant (I := fun lv => OneCall lv ∧ NewestKept lv ∧ Counted lv) ?_ ?_
  · refine ⟨⟨List.nodup_nil, ?_, ?_, by simp [lunaVolume, sending], by simp [lunaVolume, polling]⟩,
      ⟨by simp [lunaVolume], by simp [lunaVolume], fun _ _ => .inl rfl⟩, rfl, rfl, Nat.le_refl _, ?_⟩
    · rintro call ⟨hmem, -⟩
      cases hmem
    · rintro call ⟨hmem, -⟩
      cases hmem
    · rintro call ⟨hmem, -⟩
      cases hmem
  · intro lv action lv' written hkept hstep
    exact ⟨hkept.1.next hstep, hkept.2.1.next hstep, hkept.2.2.next hkept.1 hstep⟩

/-- **The volume protocol under a prompt bus.** -/
theorem luna_volume_protocol (h : ((lunaVolume handle).restrict Prompt).Run rec lv) :
    lv.Orderly ∧ ∀ action lv' call, lv.Prompt action →
      lv.step action = some (lv', some call) → lv.Untouched call := by
  obtain ⟨hone, hnewest, hcount⟩ := luna_kept h.of_restrict
  exact ⟨orderly hone hnewest, fun _ _ _ hprompt hstep => written_untouched hone hcount hprompt hstep⟩

def reply30 : List UInt8 :=
  [0x7b, 0x22, 0x76, 0x6f, 0x6c, 0x75, 0x6d, 0x65, 0x22, 0x3a, 0x33, 0x30, 0x7d]

/-- A poll, an edit during it, and the poll's answer behind the edit's own. -/
def editDuringPoll : List LunaAction :=
  [.refresh, .runRefresh 0, .advance (.refused 0), .advance (.refused 0), .advance (.refused 0),
    .advance (.sent 1 0), .edit 40, .ring, .attach, .runDispatch 10, .advance (.refused 0),
    .advance (.sent 2 10), .setReply 2]

/-- The same, until the poll is given up and its replacement refused. -/
def refusedReplacement : List LunaAction :=
  editDuringPoll ++ [.refresh, .runRefresh 3000000, .advance (.refused 0), .advance (.refused 0),
    .advance (.refused 0), .advance (.refused 1)]

theorem editDuringPoll_accepted :
    (((lunaVolume true).restrict Prompt).exec { handle := true } editDuringPoll).isSome := by
  decide +kernel

/-- The late answer of the poll is dropped: the edit stays in the cache. -/
theorem luna_volume_protocol_edit :
    ∃ rec lv, ((lunaVolume true).restrict Prompt).Run rec lv ∧ lv.Orderly ∧
      lv.lastSent = some ⟨0, 40⟩ ∧ lv.volumePct = 40 := by
  have hrun := Machine.path_of_exec (M := (lunaVolume true).restrict Prompt)
    { handle := true } editDuringPoll editDuringPoll_accepted
  exact ⟨_, _, hrun, (luna_volume_protocol hrun).1, by decide +kernel, by decide +kernel⟩

theorem refusedReplacement_accepted :
    ((lunaVolume true).exec { handle := true } refusedReplacement).isSome := by
  decide +kernel

def lateState : LunaVolume :=
  (((lunaVolume true).exec { handle := true } refusedReplacement).get
    refusedReplacement_accepted).1

/-- Given up, replaced in vain and answered at last, the poll undoes the edit. -/
theorem late_reply_undoes_edit :
    ∃ rec lv lv' call, (lunaVolume true).Run rec lv ∧
      lv.step (.getReply 1 reply30) = some (lv', some call) ∧ ¬ lv.Untouched call ∧
      lv.volumePct = 40 ∧ lv'.volumePct = 30 := by
  have hrun := Machine.path_of_exec (M := lunaVolume true)
    { handle := true } refusedReplacement refusedReplacement_accepted
  refine ⟨_, _, ((lateState.getReplyCb 1 reply30).1.answer 1), ⟨1, none, 0, .cancelled⟩, hrun,
    by decide +kernel, fun h => absurd h.edits (by decide +kernel), by decide +kernel,
    by decide +kernel⟩

end Lgnome.Volume
