import Lgnome.Logging.Levels
import Mathlib.Data.UInt
import Mathlib.Algebra.Group.Nat.Defs

/-!
# Rate limiting

A limiter lets a burst of messages through in each window, counts the rest, and hands
the count to the first call of the next window. The windows follow from the times of
the calls alone; the state of the limiter agrees with them.
-/
namespace Lgnome.Logging

structure ClogxRateLimit where
  windowStartNs : UInt64
  emitted : UInt32
  suppressed : UInt32
  deriving DecidableEq, Repr

/-- `CLOGX_RATE_LIMIT_INITIALIZER`. -/
def ClogxRateLimit.initial : ClogxRateLimit := ⟨0, 0, 0⟩

/-- One call: the clock when it is made, and whether there is a place for the count. -/
structure LimitCall where
  now : UInt64
  asks : Bool
  deriving DecidableEq, Repr

/-- What the call is told: whether to log, and the number of suppressed messages. -/
structure LimitAnswer where
  allowed : Bool
  suppressed : UInt32
  deriving DecidableEq, Repr

/-- `UINT64_MAX / CLOGX_NS_PER_MILLISECOND` and more milliseconds are as long as can be. -/
def intervalNs (intervalMs : UInt64) : UInt64 :=
  if 18446744073709551615 / 1000000 < intervalMs then 18446744073709551615
  else intervalMs * 1000000

/-- `clogx_rate_limit_allow`. -/
def rateLimitAllow (burst : UInt32) (intervalMs : UInt64) (limit : ClogxRateLimit)
    (call : LimitCall) : ClogxRateLimit × LimitAnswer :=
  if burst = 0 ∨ intervalMs = 0 then (limit, ⟨true, 0⟩)
  else if limit.emitted = 0 ∨ call.now < limit.windowStartNs ∨
      intervalNs intervalMs ≤ call.now - limit.windowStartNs then
    (⟨call.now, 1, 0⟩, ⟨true, if call.asks then limit.suppressed else 0⟩)
  else if limit.emitted < burst then ({ limit with emitted := limit.emitted + 1 }, ⟨true, 0⟩)
  else if limit.suppressed ≠ 4294967295 then
    ({ limit with suppressed := limit.suppressed + 1 }, ⟨false, 0⟩)
  else (limit, ⟨false, 0⟩)

/-- One call after the other: the limiter in the end, and the answers. -/
def limitRun (burst : UInt32) (intervalMs : UInt64) (limit : ClogxRateLimit) :
    List LimitCall → ClogxRateLimit × List LimitAnswer
  | [] => (limit, [])
  | call :: calls =>
    let (limit, answer) := rateLimitAllow burst intervalMs limit call
    let (limit, answers) := limitRun burst intervalMs limit calls
    (limit, answer :: answers)

/-! ## Windows -/

/-- The first time opens a window, and so does a time past the end of the current one. -/
def windowAt (interval : Nat) (current : Option Nat) (t : Nat) : Nat :=
  match current with
  | none => t
  | some w => if w + interval ≤ t then t else w

/-- The window each time falls into, by its start. -/
def windowStarts (interval : Nat) (current : Option Nat) : List Nat → List Nat
  | [] => []
  | t :: ts =>
    windowAt interval current t :: windowStarts interval (some (windowAt interval current t)) ts

/-- The clock does not go back. -/
def NonDecreasing (calls : List LimitCall) : Prop := calls.Pairwise fun a b => a.now ≤ b.now

def timesOf (calls : List LimitCall) : List Nat := calls.map fun call => call.now.toNat

/-- The windows of the calls. -/
def windowsOf (intervalMs : UInt64) (calls : List LimitCall) : List Nat :=
  windowStarts (intervalNs intervalMs).toNat none (timesOf calls)

/-- How many calls of a window are allowed. -/
def allowedIn (w : Nat) (windows : List Nat) (answers : List LimitAnswer) : Nat :=
  (windows.zip answers).countP fun entry => entry.1 = w && entry.2.allowed

def allowedCount (answers : List LimitAnswer) : Nat := answers.countP (·.allowed)

def reportedCount (answers : List LimitAnswer) : Nat :=
  (answers.map fun answer => answer.suppressed.toNat).sum

theorem windowAt_some (interval w t : Nat) :
    windowAt interval (some w) t = if w + interval ≤ t then t else w := rfl

theorem windowAt_le {interval t : Nat} {current : Option Nat} (h : ∀ w ∈ current, w ≤ t) :
    windowAt interval current t ≤ t := by
  cases current with
  | none => exact Nat.le_refl t
  | some w =>
    have hw := h w rfl
    rw [windowAt_some]
    split <;> omega

theorem le_windowAt {interval t w : Nat} (h : w ≤ t) : w ≤ windowAt interval (some w) t := by
  rw [windowAt_some]
  split <;> omega

/-- Later windows do not start earlier. -/
theorem le_of_mem_windowStarts {interval w : Nat} {ts : List Nat}
    (hsorted : ts.Pairwise (· ≤ ·)) (hw : ∀ t ∈ ts, w ≤ t) :
    ∀ v ∈ windowStarts interval (some w) ts, w ≤ v := by
  induction ts generalizing w with
  | nil => exact fun v hv => absurd hv List.not_mem_nil
  | cons t ts ih =>
    obtain ⟨ht, hrest⟩ := List.pairwise_cons.mp hsorted
    have hwt := hw t List.mem_cons_self
    have hle : windowAt interval (some w) t ≤ t :=
      windowAt_le fun v hv => by obtain rfl := Option.some.inj hv; exact hwt
    intro v hv
    rcases List.mem_cons.mp hv with rfl | hv
    · exact le_windowAt hwt
    · exact Nat.le_trans (le_windowAt hwt) (ih hrest (fun u hu => hle.trans (ht u hu)) v hv)

theorem allowedIn_eq_zero {w : Nat} {windows : List Nat} (answers : List LimitAnswer)
    (h : w ∉ windows) : allowedIn w windows answers = 0 := by
  rw [allowedIn, List.countP_eq_zero]
  intro entry hentry
  have hne : entry.1 ≠ w := fun he => h (he ▸ (List.of_mem_zip hentry).1)
  simp [hne]

theorem allowedIn_cons (w v : Nat) (windows : List Nat) (answer : LimitAnswer)
    (answers : List LimitAnswer) :
    allowedIn w (v :: windows) (answer :: answers) =
      allowedIn w windows answers + if v = w ∧ answer.allowed = true then 1 else 0 := by
  rw [allowedIn, List.zip_cons_cons, List.countP_cons]
  simp only [Bool.and_eq_true, decide_eq_true_eq]
  rfl

/-! ## One call -/

section Limit

variable {burst : UInt32} {intervalMs : UInt64} {limit : ClogxRateLimit} {call : LimitCall}
  {current : Option Nat}

theorem intervalNs_pos (h : intervalMs ≠ 0) : 0 < (intervalNs intervalMs).toNat := by
  have hpos : 0 < intervalMs.toNat := Nat.pos_of_ne_zero fun h0 => h (UInt64.toNat_inj.mp h0)
  unfold intervalNs
  split
  · decide
  · rename_i hle
    have hle : intervalMs.toNat ≤ 18446744073709551615 / 1000000 :=
      Nat.not_lt.mp fun hlt => hle (UInt64.lt_iff_toNat_lt.mpr hlt)
    rw [UInt64.toNat_mul]
    have hmul : intervalMs.toNat * (1000000 : UInt64).toNat < 2 ^ 64 :=
      Nat.lt_of_le_of_lt (Nat.mul_le_mul_right _ hle) (by decide)
    rw [Nat.mod_eq_of_lt hmul]
    exact Nat.mul_pos hpos (by decide)

/-- The limiter is in that window; nothing is counted before the burst is out. -/
structure ClogxRateLimit.In (burst : UInt32) (current : Option Nat) (limit : ClogxRateLimit) :
    Prop where
  fresh : current = none → limit = .initial
  start : ∀ w ∈ current, limit.windowStartNs.toNat = w ∧ limit.emitted ≠ 0
  bounded : limit.emitted.toNat ≤ burst.toNat
  full : limit.suppressed ≠ 0 → limit.emitted = burst

/-- What a call can do, in the order of the branches. -/
theorem rateLimitAllow_cases (hburst : burst ≠ 0) (hms : intervalMs ≠ 0)
    (h : limit.In burst current) (ht : ∀ w ∈ current, w ≤ call.now.toNat) :
    let w := windowAt (intervalNs intervalMs).toNat current call.now.toNat
    let result := rateLimitAllow burst intervalMs limit call
    (current ≠ some w ∧ result =
      (⟨call.now, 1, 0⟩, ⟨true, if call.asks then limit.suppressed else 0⟩) ∧
        w = call.now.toNat) ∨
    (current = some w ∧ limit.emitted.toNat < burst.toNat ∧
      result = ({ limit with emitted := limit.emitted + 1 }, ⟨true, 0⟩)) ∨
    (current = some w ∧ limit.emitted = burst ∧ limit.suppressed.toNat < 2 ^ 32 - 1 ∧
      result = ({ limit with suppressed := limit.suppressed + 1 }, ⟨false, 0⟩)) ∨
    (current = some w ∧ limit.emitted = burst ∧ limit.suppressed.toNat = 2 ^ 32 - 1 ∧
      result = (limit, ⟨false, 0⟩)) := by
  cases current with
  | none =>
    obtain rfl := h.fresh rfl
    refine .inl ⟨by simp, ?_, rfl⟩
    simp [rateLimitAllow, hburst, hms, ClogxRateLimit.initial]
  | some w =>
    obtain ⟨hstart, hemitted⟩ := h.start w rfl
    have hwt : w ≤ call.now.toNat := ht w rfl
    have hback : ¬ call.now < limit.windowStartNs := by
      rw [UInt64.lt_iff_toNat_lt, hstart]
      omega
    have hexpired : intervalNs intervalMs ≤ call.now - limit.windowStartNs ↔
        w + (intervalNs intervalMs).toNat ≤ call.now.toNat := by
      have hle : limit.windowStartNs ≤ call.now := by
        rw [UInt64.le_iff_toNat_le, hstart]
        exact hwt
      rw [UInt64.le_iff_toNat_le, UInt64.toNat_sub_of_le _ _ hle, hstart]
      omega
    have hpos := intervalNs_pos hms
    simp only [rateLimitAllow, hburst, hms, hemitted, hback, hexpired, false_or, if_false,
      windowAt_some]
    by_cases hnew : w + (intervalNs intervalMs).toNat ≤ call.now.toNat
    · rw [if_pos hnew, if_pos hnew]
      exact .inl ⟨fun he => by have hw := Option.some.inj he; omega, rfl, rfl⟩
    · rw [if_neg hnew, if_neg hnew]
      refine .inr ?_
      by_cases hmore : limit.emitted < burst
      · rw [if_pos hmore]
        exact .inl ⟨rfl, UInt32.lt_iff_toNat_lt.mp hmore, rfl⟩
      · have heq : limit.emitted = burst := UInt32.toNat_inj.mp
          (Nat.le_antisymm h.bounded (UInt32.le_iff_toNat_le.mp (UInt32.not_lt.mp hmore)))
        rw [if_neg hmore]
        refine .inr ?_
        by_cases hcount : limit.suppressed = 4294967295
        · rw [if_neg (not_not.mpr hcount)]
          exact .inr ⟨rfl, heq, by rw [hcount]; rfl, rfl⟩
        · have hlt := limit.suppressed.toNat_lt
          have hne : limit.suppressed.toNat ≠ 2 ^ 32 - 1 := fun hval =>
            hcount (UInt32.toNat_inj.mp hval)
          rw [if_pos hcount]
          exact .inl ⟨rfl, heq, by omega, rfl⟩

theorem emitted_succ (hmore : limit.emitted.toNat < burst.toNat) :
    (limit.emitted + 1).toNat = limit.emitted.toNat + 1 := by
  rw [UInt32.toNat_add]
  exact Nat.mod_eq_of_lt (Nat.lt_of_le_of_lt hmore burst.toNat_lt)

/-- The limiter follows the windows. -/
theorem ClogxRateLimit.In.step (hburst : burst ≠ 0) (hms : intervalMs ≠ 0)
    (h : limit.In burst current) (ht : ∀ w ∈ current, w ≤ call.now.toNat) :
    (rateLimitAllow burst intervalMs limit call).1.In burst
      (some (windowAt (intervalNs intervalMs).toNat current call.now.toNat)) := by
  have hpos : 0 < burst.toNat := Nat.pos_of_ne_zero fun h0 => hburst (UInt32.toNat_inj.mp h0)
  rcases rateLimitAllow_cases hburst hms h ht with ⟨-, hresult, hw⟩ | ⟨hcurrent, hmore, hresult⟩ |
    ⟨hcurrent, hfull, hlt, hresult⟩ | ⟨hcurrent, hfull, hmax, hresult⟩
  · rw [hresult, hw]
    refine ⟨fun hn => (Option.some_ne_none _ hn).elim, ?_, hpos, fun hne => absurd rfl hne⟩
    intro w hmem
    exact ⟨Option.some.inj hmem, show (1 : UInt32) ≠ 0 by decide⟩
  · obtain ⟨hstart, -⟩ := h.start _ hcurrent
    have hval := emitted_succ hmore
    rw [hresult]
    refine ⟨fun hn => (Option.some_ne_none _ hn).elim, ?_, ?_, fun hne => ?_⟩
    · intro w hmem
      obtain rfl := Option.some.inj hmem
      have hne : limit.emitted + 1 ≠ 0 := fun h0 => by
        rw [h0] at hval
        exact Nat.succ_ne_zero _ hval.symm
      exact ⟨hstart, hne⟩
    · exact hval ▸ hmore
    · have hfull := congrArg UInt32.toNat (h.full hne)
      omega
  · rw [hresult]
    refine ⟨fun hn => (Option.some_ne_none _ hn).elim, ?_, h.bounded, fun _ => hfull⟩
    intro w hmem
    obtain rfl := Option.some.inj hmem
    exact h.start _ hcurrent
  · rw [hresult, ← hcurrent]
    exact h

end Limit

/-! ## All calls -/

section Run

variable {burst : UInt32} {intervalMs : UInt64}

theorem limitRun_cons (limit : ClogxRateLimit) (call : LimitCall) (calls : List LimitCall) :
    limitRun burst intervalMs limit (call :: calls) =
      ((limitRun burst intervalMs (rateLimitAllow burst intervalMs limit call).1 calls).1,
        (rateLimitAllow burst intervalMs limit call).2 ::
          (limitRun burst intervalMs (rateLimitAllow burst intervalMs limit call).1 calls).2) :=
  rfl

/-- What the current window was given already. -/
def ClogxRateLimit.given (limit : ClogxRateLimit) (current : Option Nat) (w : Nat) : Nat :=
  if current = some w then limit.emitted.toNat else 0

/-- What of the current window was counted already. -/
def ClogxRateLimit.counted (limit : ClogxRateLimit) (current : Option Nat) (w : Nat) : Nat :=
  if current = some w then limit.emitted.toNat + limit.suppressed.toNat else 0

theorem ClogxRateLimit.given_of_ne {limit : ClogxRateLimit} {current : Option Nat} {w : Nat}
    (h : current ≠ some w) : limit.given current w = 0 := if_neg h

theorem ClogxRateLimit.given_some (limit : ClogxRateLimit) (v w : Nat) :
    limit.given (some v) w = if v = w then limit.emitted.toNat else 0 := by
  simp only [given, Option.some.injEq]

/-- The calls of the rest are not before their window. -/
theorem windowAt_le_rest {call : LimitCall} {calls : List LimitCall} {current : Option Nat}
    (hclock : NonDecreasing (call :: calls))
    (hcurrent : ∀ w ∈ current, ∀ c ∈ call :: calls, w ≤ c.now.toNat) (interval : Nat) :
    ∀ w ∈ some (windowAt interval current call.now.toNat), ∀ c ∈ calls, w ≤ c.now.toNat := by
  intro w hw c hc
  obtain rfl := Option.some.inj hw
  have hle : windowAt interval current call.now.toNat ≤ call.now.toNat :=
    windowAt_le fun v hv => hcurrent v hv call List.mem_cons_self
  exact hle.trans (UInt64.le_iff_toNat_le.mp ((List.pairwise_cons.mp hclock).1 c hc))

theorem timesOf_sorted {calls : List LimitCall} (h : NonDecreasing calls) :
    (timesOf calls).Pairwise (· ≤ ·) :=
  List.pairwise_map.mpr (h.imp fun hab => UInt64.le_iff_toNat_le.mp hab)

/-- No window gets more than its burst. -/
theorem allowedIn_le (hburst : burst ≠ 0) (hms : intervalMs ≠ 0) {calls : List LimitCall}
    (hclock : NonDecreasing calls) {limit : ClogxRateLimit} {current : Option Nat}
    (h : limit.In burst current) (hcurrent : ∀ w ∈ current, ∀ call ∈ calls, w ≤ call.now.toNat)
    (w : Nat) :
    allowedIn w (windowStarts (intervalNs intervalMs).toNat current (timesOf calls))
        (limitRun burst intervalMs limit calls).2 + limit.given current w ≤ burst.toNat := by
  induction calls generalizing limit current with
  | nil =>
    have hnone : allowedIn w [] [] = 0 := rfl
    have hgiven : limit.given current w ≤ limit.emitted.toNat := by
      unfold ClogxRateLimit.given
      split <;> omega
    exact (Nat.le_of_eq (Nat.zero_add _)).trans (hgiven.trans h.bounded)
  | cons call calls ih =>
    have ht : ∀ v ∈ current, v ≤ call.now.toNat := fun v hv =>
      hcurrent v hv call List.mem_cons_self
    have hrest := windowAt_le_rest hclock hcurrent (intervalNs intervalMs).toNat
    have hih := ih (List.pairwise_cons.mp hclock).2 (h.step hburst hms ht) hrest
    have hcases := rateLimitAllow_cases hburst hms h ht
    rw [limitRun_cons, timesOf, List.map_cons, windowStarts, allowedIn_cons]
    rw [ClogxRateLimit.given_some, timesOf] at hih
    generalize hw' : windowAt (intervalNs intervalMs).toNat current call.now.toNat = w' at *
    rcases hcases with ⟨hne, hresult, -⟩ | ⟨heq, hmore, hresult⟩ |
      ⟨heq, hfull, -, hresult⟩ | ⟨heq, hfull, -, hresult⟩
    · rw [hresult] at hih ⊢
      by_cases hw : w' = w
      · subst hw
        rw [ClogxRateLimit.given_of_ne hne]
        simpa using hih
      · by_cases hold : current = some w
        · -- the old window is over
          have hlt : w < w' := by
            have hle : w ≤ w' := by
              rw [← hw', hold]
              exact le_windowAt (ht w hold)
            omega
          have hover : w ∉ windowStarts (intervalNs intervalMs).toNat (some w')
              (calls.map fun call => call.now.toNat) := fun hmem =>
            Nat.not_le.mpr hlt (le_of_mem_windowStarts
              (timesOf_sorted (List.pairwise_cons.mp hclock).2)
              (fun t ht' => by
                obtain ⟨c, hc, rfl⟩ := List.mem_map.mp ht'
                exact hrest w' rfl c hc) w hmem)
          rw [allowedIn_eq_zero _ hover]
          have hgiven : limit.given current w = limit.emitted.toNat := if_pos hold
          simpa [hw, hgiven] using h.bounded
        · rw [ClogxRateLimit.given_of_ne hold]
          simpa [hw] using hih
    · rw [hresult] at hih ⊢
      rw [heq, ClogxRateLimit.given_some]
      simp only [emitted_succ hmore, and_true] at hih ⊢
      by_cases hw : w' = w
      · simp only [hw, if_true] at hih ⊢
        omega
      · simpa only [hw, if_false] using hih
    · rw [hresult] at hih ⊢
      rw [heq, ClogxRateLimit.given_some]
      simpa using hih
    · rw [hresult] at hih ⊢
      rw [heq, ClogxRateLimit.given_some]
      simpa using hih

theorem allowedCount_cons (answer : LimitAnswer) (answers : List LimitAnswer) :
    allowedCount (answer :: answers) =
      allowedCount answers + if answer.allowed = true then 1 else 0 :=
  List.countP_cons ..

theorem reportedCount_cons (answer : LimitAnswer) (answers : List LimitAnswer) :
    reportedCount (answer :: answers) = answer.suppressed.toNat + reportedCount answers :=
  rfl

theorem ClogxRateLimit.counted_some (limit : ClogxRateLimit) (v w : Nat) :
    limit.counted (some v) w =
      if v = w then limit.emitted.toNat + limit.suppressed.toNat else 0 := by
  simp only [counted, Option.some.injEq]

/-- Every call is allowed, reported or still counted, if the count is taken and no window
overflows it. -/
theorem balance_from (hburst : burst ≠ 0) (hms : intervalMs ≠ 0) {calls : List LimitCall}
    (hclock : NonDecreasing calls) {limit : ClogxRateLimit} {current : Option Nat}
    (h : limit.In burst current) (hcurrent : ∀ w ∈ current, ∀ call ∈ calls, w ≤ call.now.toNat)
    (hasks : ∀ call ∈ calls, call.asks = true)
    (hfits : ∀ w, (windowStarts (intervalNs intervalMs).toNat current (timesOf calls)).count w +
      limit.counted current w ≤ burst.toNat + (2 ^ 32 - 1)) :
    allowedCount (limitRun burst intervalMs limit calls).2 +
        reportedCount (limitRun burst intervalMs limit calls).2 +
        (limitRun burst intervalMs limit calls).1.suppressed.toNat =
      calls.length + limit.suppressed.toNat := by
  induction calls generalizing limit current with
  | nil => rfl
  | cons call calls ih =>
    have ht : ∀ v ∈ current, v ≤ call.now.toNat := fun v hv =>
      hcurrent v hv call List.mem_cons_self
    have hrest := windowAt_le_rest hclock hcurrent (intervalNs intervalMs).toNat
    have hih := ih (List.pairwise_cons.mp hclock).2 (h.step hburst hms ht) hrest
      fun c hc => hasks c (List.mem_cons_of_mem _ hc)
    have hcases := rateLimitAllow_cases hburst hms h ht
    rw [timesOf, List.map_cons, windowStarts] at hfits
    rw [limitRun_cons, allowedCount_cons, reportedCount_cons, List.length_cons]
    rw [timesOf] at hih
    generalize hw' : windowAt (intervalNs intervalMs).toNat current call.now.toNat = w' at *
    simp only [List.count_cons, beq_iff_eq, ClogxRateLimit.counted_some] at hih hfits
    rcases hcases with ⟨hne, hresult, -⟩ | ⟨heq, hmore, hresult⟩ |
      ⟨heq, hfull, hlt, hresult⟩ | ⟨heq, hfull, hmax, hresult⟩
    · rw [hasks call List.mem_cons_self] at hresult
      rw [hresult] at hih ⊢
      have hgoes := hih fun w => by
        have hw := hfits w
        by_cases hww : w' = w
        · simp only [hww, if_true] at hw ⊢
          have hone : (1 : UInt32).toNat + (0 : UInt32).toNat = 1 := rfl
          omega
        · simp only [hww, if_false] at hw ⊢
          omega
      simp only [if_true] at hgoes ⊢
      have hzero : (0 : UInt32).toNat = 0 := rfl
      omega
    · rw [hresult] at hih ⊢
      have hgoes := hih fun w => by
        have hw := hfits w
        rw [heq, ClogxRateLimit.counted_some] at hw
        have hval := emitted_succ hmore
        by_cases hww : w' = w
        · simp only [hww, if_true] at hw ⊢
          omega
        · simp only [hww, if_false] at hw ⊢
          omega
      simp only [if_true] at hgoes ⊢
      have hzero : (0 : UInt32).toNat = 0 := rfl
      omega
    · have hval : (limit.suppressed + 1).toNat = limit.suppressed.toNat + 1 := by
        rw [UInt32.toNat_add]
        exact Nat.mod_eq_of_lt (show limit.suppressed.toNat + 1 < 2 ^ 32 by omega)
      rw [hresult] at hih ⊢
      have hgoes := hih fun w => by
        have hw := hfits w
        rw [heq, ClogxRateLimit.counted_some] at hw
        by_cases hww : w' = w
        · simp only [hww, if_true] at hw ⊢
          omega
        · simp only [hww, if_false] at hw ⊢
          omega
      have hzero : (0 : UInt32).toNat = 0 := rfl
      simp only [Bool.false_eq_true, if_false] at hgoes ⊢
      omega
    · -- the count would have overflowed
      exfalso
      have hw := hfits w'
      rw [heq, ClogxRateLimit.counted_some, if_pos rfl, if_pos rfl, hfull, hmax] at hw
      omega

end Run

/-! ## Levels and limits -/

/-- Categories have the level of the last valid specification, whenever they were
registered, and messages go out by it; a refused specification changes nothing. A limiter
that is on keeps to its burst, and loses no call unless the count has no taker or no room. -/
theorem levels_and_limits :
    (∀ {ι : Type} [DecidableEq ι] (defs : ι → CategoryDef) (actions : List (LogAction ι)),
      (∀ c, .register c ∈ actions → (runLog defs actions).registered c = true) ∧
      (∀ c, (runLog defs actions).registered c = true →
        LevelOf (lastRules actions) (defs c) ((runLog defs actions).effectiveLevel c)) ∧
      (∀ c level, level ≠ .off → ((enabled defs (runLog defs actions) c level).2 = true ↔
        ∃ threshold, LevelOf (lastRules actions) (defs c) threshold ∧ threshold ≠ .off ∧
          threshold.toNat ≤ level.toNat)) ∧
      ∀ spec, (configure defs (runLog defs actions) spec).2 ≠ .ok →
        (configure defs (runLog defs actions) spec).1 = runLog defs actions) ∧
    (∀ (burst : UInt32) (intervalMs : UInt64) (calls : List LimitCall), burst ≠ 0 →
      intervalMs ≠ 0 → NonDecreasing calls →
      let result := limitRun burst intervalMs .initial calls
      (∀ w, allowedIn w (windowsOf intervalMs calls) result.2 ≤ burst.toNat) ∧
      ((∀ call ∈ calls, call.asks = true) →
        (∀ w, (windowsOf intervalMs calls).count w ≤ burst.toNat + (2 ^ 32 - 1)) →
        allowedCount result.2 + reportedCount result.2 + result.1.suppressed.toNat =
          calls.length)) := by
  constructor
  · intro ι _ defs actions
    exact ⟨fun c hc => runLog_registered actions hc, fun c hc => runLog_level actions hc,
      fun c level hlevel => enabled_iff actions c hlevel, fun spec h => configure_refused h⟩
  · intro burst intervalMs calls hburst hms hclock
    have hinit : ClogxRateLimit.initial.In burst none :=
      ⟨fun _ => rfl, fun w hw => (Option.some_ne_none w hw.symm).elim, Nat.zero_le _,
        fun h => (h rfl).elim⟩
    have hnone : ∀ w ∈ (none : Option Nat), ∀ call ∈ calls, w ≤ call.now.toNat :=
      fun w hw => (Option.some_ne_none w hw.symm).elim
    refine ⟨fun w => ?_, fun hasks hfits => ?_⟩
    · exact allowedIn_le hburst hms hclock hinit hnone w
    · exact balance_from hburst hms hclock hinit hnone hasks hfits

/-- Two categories, one in use before its rule came and one after, and a limiter that
refuses a call in its first window. -/
theorem levels_and_limits_used :
    (∃ threshold, LevelOf (lastRules [.register false, .configure (some (chars "a=warn")),
        .configure (some (chars "a=loud")), .register true])
      ⟨chars "a.b", .info⟩ threshold ∧
      (runLog (fun _ : Bool => ⟨chars "a.b", .info⟩) [.register false,
        .configure (some (chars "a=warn")), .configure (some (chars "a=loud")),
        .register true]).effectiveLevel true = .warn) ∧
    let result := limitRun 1 1 .initial [⟨0, true⟩, ⟨0, true⟩, ⟨1000000, true⟩]
    result.2 = [⟨true, 0⟩, ⟨false, 0⟩, ⟨true, 1⟩] ∧
      allowedCount result.2 + reportedCount result.2 + result.1.suppressed.toNat = 3 := by
  constructor
  · have h := levels_and_limits.1 (fun _ : Bool => ⟨chars "a.b", .info⟩)
      [.register false, .configure (some (chars "a=warn")),
        .configure (some (chars "a=loud")), .register true]
    have hreg := h.1 true (by simp)
    exact ⟨_, h.2.1 true hreg, by decide +kernel⟩
  · have h := levels_and_limits.2 1 1 [⟨0, true⟩, ⟨0, true⟩, ⟨1000000, true⟩] (by decide)
      (by decide) (by unfold NonDecreasing; decide +kernel)
    refine ⟨by decide +kernel, h.2 (by decide) fun w => ?_⟩
    exact List.count_le_length.trans (by decide +kernel)

/-! ## Outside these bounds -/

/-- A call after the first one, all in one window with a burst of one. -/
theorem rateLimitAllow_refuses (s : UInt32) :
    ∃ t, rateLimitAllow 1 1 ⟨0, 1, s⟩ ⟨0, true⟩ = (⟨0, 1, t⟩, ⟨false, 0⟩) ∧
      t.toNat = min (s.toNat + 1) (2 ^ 32 - 1) := by
  have hslt := s.toNat_lt
  by_cases hs : s = 4294967295
  · subst hs
    exact ⟨4294967295, by decide +kernel, by decide +kernel⟩
  · have hne : s.toNat ≠ 2 ^ 32 - 1 := fun h => hs (UInt32.toNat_inj.mp h)
    refine ⟨s + 1, by simp [rateLimitAllow, intervalNs, hs], ?_⟩
    have hval : (s + 1).toNat = s.toNat + 1 := by
      rw [UInt32.toNat_add]
      exact Nat.mod_eq_of_lt (show s.toNat + 1 < 2 ^ 32 by omega)
    omega

theorem limitRun_saturates (n : Nat) (s : UInt32) :
    (limitRun 1 1 ⟨0, 1, s⟩ (List.replicate n ⟨0, true⟩)).1.suppressed.toNat =
        min (s.toNat + n) (2 ^ 32 - 1) ∧
      (limitRun 1 1 ⟨0, 1, s⟩ (List.replicate n ⟨0, true⟩)).2 = List.replicate n ⟨false, 0⟩ := by
  have hslt := s.toNat_lt
  induction n generalizing s with
  | zero => exact ⟨by simp only [List.replicate_zero, limitRun]; omega, rfl⟩
  | succ n ih =>
    obtain ⟨t, hstep, ht⟩ := rateLimitAllow_refuses s
    obtain ⟨hcount, hanswers⟩ := ih t t.toNat_lt
    rw [List.replicate_succ, limitRun_cons, hstep]
    exact ⟨by rw [hcount]; omega, by rw [hanswers, List.replicate_succ]⟩

/-- One call and `n` more at the same time: the count stops at its largest value. -/
theorem refused_total (n : Nat) :
    allowedCount (limitRun 1 1 .initial (⟨0, true⟩ :: List.replicate n ⟨0, true⟩)).2 +
        reportedCount (limitRun 1 1 .initial (⟨0, true⟩ :: List.replicate n ⟨0, true⟩)).2 +
        (limitRun 1 1 .initial
          (⟨0, true⟩ :: List.replicate n ⟨0, true⟩)).1.suppressed.toNat =
      1 + min n (2 ^ 32 - 1) := by
  have hopen : rateLimitAllow 1 1 .initial ⟨0, true⟩ = (⟨0, 1, 0⟩, ⟨true, 0⟩) := by
    decide +kernel
  obtain ⟨hcount, hanswers⟩ := limitRun_saturates n 0
  have hallowed : allowedCount (List.replicate n ⟨false, 0⟩) = 0 := by
    rw [allowedCount, List.countP_replicate]
    rfl
  have hreported : reportedCount (List.replicate n ⟨false, 0⟩) = 0 := by
    rw [reportedCount, List.map_replicate, List.sum_replicate_nat]
    exact Nat.mul_zero n
  rw [limitRun_cons, hopen, allowedCount_cons, reportedCount_cons, hanswers, hallowed, hreported,
    hcount]
  have hzero : (0 : UInt32).toNat = 0 := rfl
  simp only [if_true]
  omega

theorem nonDecreasing_replicate (n : Nat) (call : LimitCall) :
    NonDecreasing (call :: List.replicate n call) := by
  rw [← List.replicate_succ]
  exact List.pairwise_replicate.mpr (.inr (UInt64.le_refl _))

/-- A limiter without a burst lets everything through; one that refuses more than the
count can hold, or whose count nobody takes, loses calls. -/
theorem limits_at_the_edge :
    (∃ calls, NonDecreasing calls ∧ (0 : UInt32).toNat <
      allowedIn 0 (windowsOf 1 calls) (limitRun 0 1 .initial calls).2) ∧
    (∃ calls, NonDecreasing calls ∧ (∀ call ∈ calls, call.asks = true) ∧
      allowedCount (limitRun 1 1 .initial calls).2 +
        reportedCount (limitRun 1 1 .initial calls).2 +
        (limitRun 1 1 .initial calls).1.suppressed.toNat < calls.length) ∧
    (∃ calls, NonDecreasing calls ∧ calls.length < 4 ∧
      allowedCount (limitRun 1 1 .initial calls).2 +
        reportedCount (limitRun 1 1 .initial calls).2 +
        (limitRun 1 1 .initial calls).1.suppressed.toNat < calls.length) := by
  refine ⟨⟨[⟨0, true⟩], nonDecreasing_replicate 0 _, by decide +kernel⟩,
    ⟨⟨0, true⟩ :: List.replicate (2 ^ 32) ⟨0, true⟩, nonDecreasing_replicate _ _, ?_, ?_⟩,
    ⟨[⟨0, true⟩, ⟨0, true⟩, ⟨1000000, false⟩], by unfold NonDecreasing; decide +kernel,
      by decide, by decide +kernel⟩⟩
  · intro call hcall
    rw [← List.replicate_succ] at hcall
    rw [List.eq_of_mem_replicate hcall]
  · rw [refused_total, List.length_cons, List.length_replicate]
    decide

end Lgnome.Logging
