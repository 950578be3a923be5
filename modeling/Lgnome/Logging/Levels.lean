import Lgnome.Bytes.Fixed
import Mathlib.Data.List.DropRight
import Mathlib.Data.List.Induction
import Mathlib.Logic.Function.Basic

/-!
# Log levels

Categories register on first use and carry a cached level; a configuration replaces
the rules and refreshes the cache of every registered category. The lock makes each
of the two a single step. A cached level is always the one the rules in force give.
-/
namespace Lgnome.Logging

/-- A text as `char`s, without the final NUL. -/
def chars (s : String) : Bytes := s.toList.map Char.toUInt8

inductive ClogxLevel
  | trace
  | debug
  | info
  | notice
  | warn
  | error
  | fatal
  | off
  deriving DecidableEq, Repr

def ClogxLevel.toNat : ClogxLevel → Nat
  | .trace => 0
  | .debug => 1
  | .info => 2
  | .notice => 3
  | .warn => 4
  | .error => 5
  | .fatal => 6
  | .off => 7

structure ClogxRule where
  selector : Bytes
  level : ClogxLevel
  deriving DecidableEq, Repr

/-- The part of a category that is fixed when it is defined. -/
structure CategoryDef where
  name : Bytes
  defaultLevel : ClogxLevel
  deriving DecidableEq, Repr

/-- The categories in use, with their caches, and `g_rules`. -/
structure LogState (ι : Type) where
  registered : ι → Bool
  effectiveLevel : ι → ClogxLevel
  categories : List ι
  rules : List ClogxRule

inductive ConfigStatus
  | ok
  | invalid
  | tooManyRules
  deriving DecidableEq, Repr

/-! ## Rules -/

/-- `clogx_selector_matches`. -/
def selectorMatches (selector category : Bytes) : Bool :=
  if selector = chars "*" then true
  else if category.length < selector.length then false
  else category.take selector.length = selector &&
    match category.drop selector.length with
    | [] => true
    | next :: _ => next = '.'.toUInt8

/-- `clogx_effective_level_locked`. -/
def effectiveLevelLocked (rules : List ClogxRule) (category : CategoryDef) : ClogxLevel :=
  rules.foldl
    (fun level rule => if selectorMatches rule.selector category.name then rule.level else level)
    category.defaultLevel

/-- The loop of `clogx_valid_selector`. -/
def validFrom (previousDot : Bool) : Bytes → Bool
  | [] => !previousDot
  | c :: rest =>
    if c = '.'.toUInt8 then if previousDot then false else validFrom true rest
    else if ('a'.toUInt8 ≤ c && c ≤ 'z'.toUInt8) || ('A'.toUInt8 ≤ c && c ≤ 'Z'.toUInt8) ||
        ('0'.toUInt8 ≤ c && c ≤ '9'.toUInt8) || c = '_'.toUInt8 || c = '-'.toUInt8 then
      validFrom false rest
    else false

/-- `clogx_valid_selector`. -/
def validSelector (selector : Bytes) : Bool :=
  if selector = [] then false
  else if selector = chars "*" then true
  else validFrom true selector

/-- `clogx_parse_level`. -/
def parseLevel (text : Bytes) : Option ClogxLevel :=
  [("trace", ClogxLevel.trace), ("debug", .debug), ("info", .info), ("notice", .notice),
    ("warn", .warn), ("error", .error), ("fatal", .fatal), ("off", .off)].findSome?
    fun entry => if text = chars entry.1 then some entry.2 else none

/-- `isspace`, of the C locale. -/
def isSpace (c : UInt8) : Bool := c = 32 || (9 ≤ c && c ≤ 13)

/-- `clogx_trim`. -/
def trim (text : Bytes) : Bytes := (text.dropWhile isSpace).rdropWhile isSpace

/-- One turn of the loop of `clogx_configure`, on what is before the next comma. -/
def parseSegment (parsed : List ClogxRule) (segment : Bytes) :
    Except ConfigStatus (List ClogxRule) :=
  if segment.length = 0 || 63 + 16 < segment.length then .error .invalid
  else
    let entry := trim segment
    match entry.dropWhile (· ≠ '='.toUInt8) with
    | [] => .error .invalid
    | _ :: value =>
      if '='.toUInt8 ∈ value then .error .invalid
      else
        let selector := trim (entry.takeWhile (· ≠ '='.toUInt8))
        let levelText := trim value
        if 32 ≤ parsed.length then .error .tooManyRules
        else if !validSelector selector || 63 < selector.length then .error .invalid
        else match parseLevel levelText with
          | none => .error .invalid
          | some level => .ok (parsed ++ [⟨selector, level⟩])

/-- The loop of `clogx_configure`, which looks for the next comma from `cursor`; what was
passed already is `segment`. -/
def parseFrom (parsed : List ClogxRule) (segment : Bytes) :
    Bytes → Except ConfigStatus (List ClogxRule)
  | [] => parseSegment parsed segment
  | c :: cursor =>
    if c = ','.toUInt8 then do
      let parsed ← parseSegment parsed segment
      if cursor = [] then .error .invalid else parseFrom parsed [] cursor
    else parseFrom parsed (segment ++ [c]) cursor

/-- What `clogx_configure` reads before it takes the lock. -/
def parseSpec (spec : Bytes) : Except ConfigStatus (List ClogxRule) :=
  if spec = [] then .ok [] else parseFrom [] [] spec

/-! ## Steps -/

section Steps

variable {ι : Type} [DecidableEq ι] (defs : ι → CategoryDef)

/-- `CLOGX_CATEGORY_INITIALIZER`, for each category. -/
def LogState.initial : LogState ι where
  registered := fun _ => false
  effectiveLevel := fun c => (defs c).defaultLevel
  categories := []
  rules := []

/-- `clogx_register_category`. -/
def registerCategory (s : LogState ι) (c : ι) : LogState ι :=
  if s.registered c then s
  else { s with
    registered := Function.update s.registered c true
    effectiveLevel := Function.update s.effectiveLevel c (effectiveLevelLocked s.rules (defs c))
    categories := c :: s.categories }

/-- `clogx_enabled`, for a level that can be logged. -/
def enabled (s : LogState ι) (c : ι) (level : ClogxLevel) : LogState ι × Bool :=
  if level = .off then (s, false)
  else
    let s := registerCategory defs s c
    let threshold := s.effectiveLevel c
    (s, threshold.toNat ≤ level.toNat && threshold.toNat < ClogxLevel.off.toNat)

/-- `clogx_configure`; a missing specification is `none`. -/
def configure (s : LogState ι) (spec : Option Bytes) : LogState ι × ConfigStatus :=
  match spec with
  | none => (s, .invalid)
  | some spec =>
    match parseSpec spec with
    | .error status => (s, status)
    | .ok rules =>
      ({ s with
          rules
          effectiveLevel := s.categories.foldl
            (fun levels c => Function.update levels c (effectiveLevelLocked rules (defs c)))
            s.effectiveLevel }, .ok)

/-- What the threads of the program do to the log, one lock section at a time. -/
inductive LogAction (ι : Type)
  | register (c : ι)
  | configure (spec : Option Bytes)

def LogAction.apply (s : LogState ι) : LogAction ι → LogState ι
  | .register c => registerCategory defs s c
  | .configure spec => (Logging.configure defs s spec).1

/-- Any interleaving, from the start of the program. -/
def runLog (actions : List (LogAction ι)) : LogState ι :=
  actions.foldl (LogAction.apply defs) (LogState.initial defs)

end Steps

/-! ## What the levels are to be -/

/-- A selector covers everything, or one category with all that is below it. -/
def Matches (selector category : Bytes) : Prop :=
  selector = chars "*" ∨ category = selector ∨ ∃ below, category = selector ++ '.'.toUInt8 :: below

/-- The level of the last rule that matches, or the default. -/
inductive LevelOf (rules : List ClogxRule) (category : CategoryDef) : ClogxLevel → Prop
  | rule (earlier later : List ClogxRule) (rule : ClogxRule)
      (split : rules = earlier ++ rule :: later) (here : Matches rule.selector category.name)
      (last : ∀ r ∈ later, ¬ Matches r.selector category.name) : LevelOf rules category rule.level
  | default (none : ∀ r ∈ rules, ¬ Matches r.selector category.name) :
      LevelOf rules category category.defaultLevel

/-- The rules of a configuration that is accepted. -/
def LogAction.validRules {ι : Type} : LogAction ι → Option (List ClogxRule)
  | .configure (some spec) => (parseSpec spec).toOption
  | _ => none

/-- The rules of the last valid configuration; there are none at the start. -/
def lastRules {ι : Type} (actions : List (LogAction ι)) : List ClogxRule :=
  (actions.reverse.findSome? LogAction.validRules).getD []

theorem selectorMatches_iff (selector category : Bytes) :
    selectorMatches selector category = true ↔ Matches selector category := by
  unfold selectorMatches Matches
  by_cases hall : selector = chars "*"
  · simp [hall]
  · rw [if_neg hall]
    by_cases hlen : category.length < selector.length
    · rw [if_pos hlen]
      simp only [Bool.false_eq_true, hall, false_or, false_iff, not_or, not_exists]
      refine ⟨fun h => ?_, fun below h => ?_⟩
      · rw [h] at hlen
        omega
      · rw [h, List.length_append] at hlen
        omega
    · rw [if_neg hlen, Bool.and_eq_true, decide_eq_true_eq]
      simp only [hall, false_or]
      constructor
      · rintro ⟨hfront, hnext⟩
        have hsplit := List.take_append_drop selector.length category
        rw [hfront] at hsplit
        cases hrest : category.drop selector.length with
        | nil => exact .inl (by rw [← hsplit, hrest, List.append_nil])
        | cons next below =>
          rw [hrest, decide_eq_true_eq] at hnext
          exact .inr ⟨below, by rw [← hsplit, hrest, hnext]⟩
      · rintro (rfl | ⟨below, rfl⟩)
        · simp
        · simp

theorem effectiveLevelLocked_concat (rules : List ClogxRule) (rule : ClogxRule)
    (category : CategoryDef) :
    effectiveLevelLocked (rules ++ [rule]) category =
      if selectorMatches rule.selector category.name then rule.level
      else effectiveLevelLocked rules category :=
  List.foldl_concat ..

/-- The loop over the rules ends with the last one that matches. -/
theorem levelOf_effectiveLevelLocked (rules : List ClogxRule) (category : CategoryDef) :
    LevelOf rules category (effectiveLevelLocked rules category) := by
  induction rules using List.reverseRecOn with
  | nil => exact .default fun r hr => absurd hr List.not_mem_nil
  | append_singleton rules rule ih =>
    rw [effectiveLevelLocked_concat]
    split
    · rename_i h
      exact .rule rules [] rule rfl ((selectorMatches_iff _ _).mp h) fun r hr =>
        absurd hr List.not_mem_nil
    · rename_i h
      have hnot : ¬ Matches rule.selector category.name := fun hm =>
        h ((selectorMatches_iff _ _).mpr hm)
      generalize effectiveLevelLocked rules category = level at ih
      cases ih with
      | rule earlier later r hsplit here last =>
        refine .rule earlier (later ++ [rule]) r ?_ here ?_
        · rw [hsplit, List.append_assoc, List.cons_append]
        · intro r' hr'
          rcases List.mem_append.mp hr' with hr' | hr'
          · exact last r' hr'
          · rwa [List.mem_singleton.mp hr']
      | default none =>
        refine .default fun r' hr' => ?_
        rcases List.mem_append.mp hr' with hr' | hr'
        · exact none r' hr'
        · rwa [List.mem_singleton.mp hr']

theorem effectiveLevelLocked_append_of_not {rules later : List ClogxRule}
    {category : CategoryDef} (h : ∀ r ∈ later, ¬ Matches r.selector category.name) :
    effectiveLevelLocked (rules ++ later) category = effectiveLevelLocked rules category := by
  induction later using List.reverseRecOn with
  | nil => rw [List.append_nil]
  | append_singleton later rule ih =>
    have hrule : ¬ selectorMatches rule.selector category.name = true := fun hm =>
      h rule List.mem_concat_self ((selectorMatches_iff _ _).mp hm)
    rw [← List.append_assoc, effectiveLevelLocked_concat, if_neg hrule]
    exact ih fun r hr => h r (List.mem_append_left _ hr)

theorem LevelOf.eq {rules : List ClogxRule} {category : CategoryDef} {level : ClogxLevel}
    (h : LevelOf rules category level) : effectiveLevelLocked rules category = level := by
  cases h with
  | rule earlier later rule hsplit here last =>
    rw [hsplit, List.append_cons, effectiveLevelLocked_append_of_not last,
      effectiveLevelLocked_concat, if_pos ((selectorMatches_iff _ _).mpr here)]
  | default none =>
    have hnone : effectiveLevelLocked ([] ++ rules) category = effectiveLevelLocked [] category :=
      effectiveLevelLocked_append_of_not none
    exact hnone

/-! ## The caches -/

section Steps

variable {ι : Type} [DecidableEq ι] {defs : ι → CategoryDef} {s : LogState ι}

/-- The categories of the list are the registered ones, and each has the level of the
rules in force. -/
structure LogState.Fresh (defs : ι → CategoryDef) (s : LogState ι) : Prop where
  listed : ∀ c, s.registered c = true ↔ c ∈ s.categories
  level : ∀ c, s.registered c = true → s.effectiveLevel c = effectiveLevelLocked s.rules (defs c)

omit [DecidableEq ι] in
theorem LogState.Fresh.initial : (LogState.initial defs).Fresh defs where
  listed := fun c => by simp [LogState.initial]
  level := fun c h => by cases h

theorem LogState.Fresh.register (h : s.Fresh defs) (c : ι) :
    (registerCategory defs s c).Fresh defs := by
  unfold registerCategory
  split
  · exact h
  · rename_i hnew
    constructor
    · intro d
      by_cases hd : d = c
      · subst hd
        simp
      · simp [h.listed, hd]
    · intro d hreg
      by_cases hd : d = c
      · subst hd
        simp
      · simp only [Function.update_of_ne hd] at hreg ⊢
        exact h.level d hreg

/-- The loop over the categories reaches each of them. -/
theorem foldl_update (rules : List ClogxRule) (categories : List ι) (levels : ι → ClogxLevel)
    (c : ι) :
    categories.foldl (fun levels c => Function.update levels c (effectiveLevelLocked rules (defs c)))
        levels c =
      if c ∈ categories then effectiveLevelLocked rules (defs c) else levels c := by
  induction categories using List.reverseRecOn with
  | nil => rfl
  | append_singleton categories d ih =>
    rw [List.foldl_concat]
    by_cases hc : c = d
    · subst hc
      simp
    · rw [Function.update_of_ne hc, ih]
      simp [hc]

theorem LogState.Fresh.configure (h : s.Fresh defs) (spec : Option Bytes) :
    (configure defs s spec).1.Fresh defs := by
  unfold Logging.configure
  split
  · exact h
  · split
    · exact h
    · refine ⟨h.listed, fun c hreg => ?_⟩
      exact (foldl_update _ _ _ c).trans (if_pos ((h.listed c).mp hreg))

theorem LogState.Fresh.apply (h : s.Fresh defs) (a : LogAction ι) :
    (a.apply defs s).Fresh defs := by
  cases a with
  | register c => exact h.register c
  | configure spec => exact h.configure spec

theorem runLog_concat (actions : List (LogAction ι)) (a : LogAction ι) :
    runLog defs (actions ++ [a]) = a.apply defs (runLog defs actions) :=
  List.foldl_concat ..

theorem runLog_fresh (actions : List (LogAction ι)) : (runLog defs actions).Fresh defs := by
  induction actions using List.reverseRecOn with
  | nil => exact .initial
  | append_singleton actions a ih =>
    rw [runLog_concat]
    exact ih.apply a

omit [DecidableEq ι] in
theorem lastRules_concat (actions : List (LogAction ι)) (a : LogAction ι) :
    lastRules (actions ++ [a]) = a.validRules.getD (lastRules actions) := by
  unfold lastRules
  rw [List.reverse_concat, List.findSome?_cons]
  cases a.validRules <;> rfl

/-- A configuration that is refused changes nothing. -/
theorem configure_refused {spec : Option Bytes} (h : (configure defs s spec).2 ≠ .ok) :
    (configure defs s spec).1 = s := by
  cases spec with
  | none => rfl
  | some spec =>
    simp only [configure] at h ⊢
    cases hparse : parseSpec spec with
    | error status => rfl
    | ok rules =>
      rw [hparse] at h
      exact absurd rfl h

theorem apply_rules (a : LogAction ι) :
    (a.apply defs s).rules = a.validRules.getD s.rules := by
  cases a with
  | register c =>
    simp only [LogAction.apply, registerCategory, LogAction.validRules]
    split <;> rfl
  | configure spec =>
    cases spec with
    | none => rfl
    | some spec =>
      simp only [LogAction.apply, configure, LogAction.validRules]
      cases parseSpec spec <;> rfl

theorem runLog_rules (actions : List (LogAction ι)) :
    (runLog defs actions).rules = lastRules actions := by
  induction actions using List.reverseRecOn with
  | nil => rfl
  | append_singleton actions a ih => rw [runLog_concat, apply_rules, lastRules_concat, ih]

/-- Whenever it was registered, a category has the level of the last valid specification. -/
theorem runLog_level (actions : List (LogAction ι)) {c : ι}
    (hc : (runLog defs actions).registered c = true) :
    LevelOf (lastRules actions) (defs c) ((runLog defs actions).effectiveLevel c) := by
  rw [(runLog_fresh actions).level c hc, runLog_rules]
  exact levelOf_effectiveLevelLocked _ _

theorem registerCategory_registered (s : LogState ι) (c : ι) :
    (registerCategory defs s c).registered c = true := by
  unfold registerCategory
  split
  · assumption
  · exact Function.update_self ..

theorem registered_apply {c : ι} (h : s.registered c = true) (a : LogAction ι) :
    (a.apply defs s).registered c = true := by
  cases a with
  | register d =>
    simp only [LogAction.apply, registerCategory]
    split
    · exact h
    · by_cases hc : c = d
      · rw [hc]
        exact Function.update_self ..
      · exact (Function.update_of_ne hc ..).trans h
  | configure spec =>
    simp only [LogAction.apply, configure]
    split
    · exact h
    · split <;> exact h

/-- A category that was used once is there to be reconfigured. -/
theorem runLog_registered (actions : List (LogAction ι)) {c : ι}
    (hc : .register c ∈ actions) : (runLog defs actions).registered c = true := by
  induction actions using List.reverseRecOn with
  | nil => exact absurd hc List.not_mem_nil
  | append_singleton actions a ih =>
    rw [runLog_concat]
    rcases List.mem_append.mp hc with hc | hc
    · exact registered_apply (ih hc) a
    · rw [← List.mem_singleton.mp hc]
      exact registerCategory_registered _ c

/-- A message goes out if that level lets it. -/
theorem enabled_iff (actions : List (LogAction ι)) (c : ι) {level : ClogxLevel}
    (hlevel : level ≠ .off) :
    (enabled defs (runLog defs actions) c level).2 = true ↔
      ∃ threshold, LevelOf (lastRules actions) (defs c) threshold ∧ threshold ≠ .off ∧
        threshold.toNat ≤ level.toNat := by
  have hfresh : (registerCategory defs (runLog defs actions) c).Fresh defs :=
    (runLog_fresh actions).register c
  have hlevel' := hfresh.level c (registerCategory_registered _ c)
  have hrules : (registerCategory defs (runLog defs actions) c).rules = lastRules actions := by
    have happly : ((LogAction.register c).apply defs (runLog defs actions)).rules = _ :=
      apply_rules _
    exact happly.trans (runLog_rules actions)
  rw [hrules] at hlevel'
  rw [enabled, if_neg hlevel]
  simp only [hlevel', Bool.and_eq_true, decide_eq_true_eq]
  constructor
  · rintro ⟨hle, hoff⟩
    exact ⟨_, levelOf_effectiveLevelLocked _ _, fun h => by rw [h] at hoff; omega, hle⟩
  · rintro ⟨threshold, hlevelOf, hne, hle⟩
    rw [hlevelOf.eq]
    refine ⟨hle, ?_⟩
    cases threshold <;> first | decide | exact absurd rfl hne

end Steps

end Lgnome.Logging
