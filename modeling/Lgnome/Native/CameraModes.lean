import Lgnome.Native.DirtyRect
import Lgnome.Transition.Best
import Mathlib.Order.OrderDual

/-!
# Camera mode lists

The frame rates and frame sizes a device reports, as the capture side keeps them:
`native_camera_v4l2_insert_frame_rate` and `native_camera_v4l2_insert_frame_size`
write into the caller's array, largest first. Every read, write and product is
checked. What is kept is the best of what was offered, in whatever order.
-/
namespace Lgnome.Native

open Lgnome.Transition.Stable

/-! ## The array -/

/-- The caller's array with `*count`. -/
structure ModeList (α : Type) where
  slots : List α
  count : Nat
deriving DecidableEq, Repr

/-- What the array holds. -/
def ModeList.entries {α : Type} (l : ModeList α) : List α := l.slots.take l.count

section Insert

variable {α : Type} (same : α → Bool) (value : Option Nat) (valueOf : α → Option Nat)

/-- `slots[i] = x`; an index outside the array is `none`. -/
def writeSlot (slots : List α) (i : Nat) (x : α) : Option (List α) :=
  if i < slots.length then some (slots.set i x) else none

/-- Is one of the next `n` entries from `i` the one offered? -/
def knows (slots : List α) (i : Nat) : Nat → Option Bool
  | 0 => some false
  | n + 1 => do
    let entry ← slots[i]?
    if same entry then some true else knows slots (i + 1) n

/-- `while (position > 0u && …) position--`. -/
def positionFrom (slots : List α) (offered : Nat) : Nat → Option Nat
  | 0 => some 0
  | position + 1 => do
    let entry ← slots[position]?
    let current ← valueOf entry
    if current < offered then positionFrom slots offered position else some (position + 1)

/-- `for (move = tail; move > position; move--)`. -/
def shiftFrom (position : Nat) (slots : List α) : Nat → Option (List α)
  | 0 => some slots
  | move + 1 =>
    if position < move + 1 then do
      let entry ← slots[move]?
      let slots ← writeSlot slots (move + 1) entry
      shiftFrom position slots move
    else some slots

/-- What both functions do with a mode that may be kept. -/
def insertMode (mode : α) (l : ModeList α) : Option (ModeList α × Bool) :=
  if l.slots.length = 0 ∨ l.slots.length < l.count then some (l, false)
  else do
    if ← knows same l.slots 0 l.count then some (l, true)
    else
      let offered ← value
      let position ← positionFrom valueOf l.slots offered l.count
      if l.slots.length ≤ position then some (l, false)
      else
        let tail := if l.count < l.slots.length then l.count else l.slots.length - 1
        let slots ← shiftFrom position l.slots tail
        let slots ← writeSlot slots position mode
        some ({ slots, count := if l.count < l.slots.length then l.count + 1 else l.count }, true)

end Insert

/-- `fps == 0u || fps > NATIVE_CAMERA_MAX_FPS` refuses a rate. -/
def validRate (fps : UInt32) : Bool := fps ≠ 0 && fps ≤ 30

/-- `native_camera_v4l2_insert_frame_rate`. -/
def insertFrameRate (l : ModeList UInt16) (fps : UInt32) : Option (ModeList UInt16 × Bool) :=
  if validRate fps then
    insertMode (fun rate => rate.toUInt32 = fps) (some fps.toUInt16.toNat)
      (fun rate => some rate.toNat) fps.toUInt16 l
  else some (l, false)

/-- The envelope of the sizes, `NATIVE_CAMERA_MIN_WIDTH` and the like; odd geometry is
refused by the capture open. -/
def validSize (width height : UInt32) : Bool :=
  640 ≤ width && width ≤ 1920 && width &&& 1 = 0 && 480 ≤ height && height ≤ 1080 &&
    height &&& 1 = 0

/-- `native_camera_v4l2_insert_frame_size`. -/
def insertFrameSize (l : ModeList (UInt16 × UInt16)) (size : UInt32 × UInt32) :
    Option (ModeList (UInt16 × UInt16) × Bool) :=
  if validSize size.1 size.2 then
    insertMode (fun entry => entry.1.toUInt32 = size.1 && entry.2.toUInt32 = size.2)
      (checked 32 (size.1.toNat * size.2.toNat))
      (fun entry => checked 32 (entry.1.toNat * entry.2.toNat))
      (size.1.toUInt16, size.2.toUInt16) l
  else some (l, false)

/-- One report after the other. -/
def insertAll {α β : Type} (insert : ModeList α → β → Option (ModeList α × Bool))
    (l : ModeList α) (reports : List β) : Option (ModeList α) :=
  reports.foldlM (fun l report => (insert l report).map Prod.fst) l

/-! ## One insertion -/

section Insert

variable {α : Type} {slots : List α}

theorem knows_eq [DecidableEq α] {same : α → Bool} {mode : α} (hsame : ∀ entry, same entry = decide (entry = mode))
    {i n : Nat} (h : i + n ≤ slots.length) :
    knows same slots i n = some (decide (mode ∈ (slots.drop i).take n)) := by
  induction n generalizing i with
  | zero => simp [knows]
  | succ n ih =>
    have hi : i < slots.length := by omega
    rw [knows, List.getElem?_eq_getElem hi, List.drop_eq_getElem_cons hi, List.take_succ_cons]
    simp only [Option.bind_eq_bind, Option.bind_some, hsame, ih (show i + 1 + n ≤ _ by omega),
      List.mem_cons, decide_eq_true_eq]
    by_cases he : slots[i] = mode
    · simp [he]
    · simp [he, Ne.symm he]

/-- Entries that are larger or equal stay in front. -/
theorem positionFrom_eq {valueOf : α → Option Nat} {f : α → Nat}
    (hvalue : ∀ entry ∈ slots, valueOf entry = some (f entry)) (offered : Nat) {n : Nat}
    (hn : n ≤ slots.length) :
    positionFrom valueOf slots offered n =
      some ((slots.take n).rdropWhile fun entry => f entry < offered).length := by
  induction n with
  | zero => simp [positionFrom]
  | succ n ih =>
    have hlt : n < slots.length := hn
    rw [positionFrom, List.getElem?_eq_getElem hlt, List.take_succ_eq_append_getElem hlt,
      List.rdropWhile_concat]
    simp only [Option.bind_eq_bind, Option.bind_some, hvalue _ (List.getElem_mem hlt),
      ih (Nat.le_of_succ_le hn), decide_eq_true_eq]
    split
    · rfl
    · rw [List.length_append, List.length_take_of_le (Nat.le_of_succ_le hn)]
      rfl

theorem writeSlot_eq {i : Nat} (h : i < slots.length) (x : α) :
    writeSlot slots i x = some (slots.set i x) := if_pos h

theorem shiftFrom_eq (position : Nat) {tail : Nat} (ht : tail < slots.length) :
    ∃ moved, shiftFrom position slots tail = some moved ∧ moved.length = slots.length ∧
      ∀ i, moved[i]? = if position < i ∧ i ≤ tail then slots[i - 1]? else slots[i]? := by
  induction tail generalizing slots with
  | zero =>
    refine ⟨slots, rfl, rfl, fun i => ?_⟩
    rw [if_neg (by omega)]
  | succ move ih =>
    by_cases h : position < move + 1
    · have hm : move < slots.length := by omega
      have hlen : move < (slots.set (move + 1) slots[move]).length := by
        rwa [List.length_set]
      obtain ⟨moved, hrun, hlength, hget⟩ := ih hlen
      refine ⟨moved, ?_, by rw [hlength, List.length_set], fun i => ?_⟩
      · rw [shiftFrom, if_pos h, List.getElem?_eq_getElem hm]
        simp only [Option.bind_eq_bind, Option.bind_some, writeSlot_eq ht]
        exact hrun
      · rw [hget i]
        by_cases htop : i = move + 1
        · subst htop
          rw [if_neg (by omega), if_pos ⟨h, Nat.le_refl _⟩, List.getElem?_set_self ht,
            Nat.add_sub_cancel, List.getElem?_eq_getElem hm]
        · by_cases hi : position < i ∧ i ≤ move
          · rw [if_pos hi, if_pos ⟨hi.1, by omega⟩, List.getElem?_set_ne (by omega)]
          · rw [if_neg hi, if_neg (by omega), List.getElem?_set_ne (Ne.symm htop)]
    · refine ⟨slots, by rw [shiftFrom, if_neg h], rfl, fun i => ?_⟩
      rw [if_neg (by omega)]

/-- Larger modes come first. -/
def larger (f : α → Nat) (entry : α) : Natᵒᵈ := OrderDual.toDual (f entry)

theorem getElem?_insert {f : α → Nat} {mode : α} {xs : List α} (position : Nat)
    (hp : position = (xs.rdropWhile fun entry => f entry < f mode).length) (i : Nat) :
    (insert (larger f) mode xs)[i]? =
      if i < position then xs[i]? else if i = position then some mode else xs[i - 1]? := by
  have hxs : xs.rdropWhile (fun entry => f entry < f mode) ++
      xs.rtakeWhile (fun entry => f entry < f mode) = xs := List.rdropWhile_append_rtakeWhile ..
  generalize hkept : xs.rdropWhile (fun entry => f entry < f mode) = kept at hp hxs
  generalize hmoved : xs.rtakeWhile (fun entry => f entry < f mode) = moved at hxs
  have hinsert : insert (larger f) mode xs = kept ++ mode :: moved := by
    rw [← hkept, ← hmoved]
    rfl
  subst hp
  rw [hinsert, ← hxs]
  by_cases hlt : i < kept.length
  · rw [if_pos hlt, List.getElem?_append_left hlt, List.getElem?_append_left hlt]
  · rw [if_neg hlt, List.getElem?_append_right (by omega)]
    by_cases heq : i = kept.length
    · rw [if_pos heq, heq, Nat.sub_self]
      rfl
    · obtain ⟨k, rfl⟩ : ∃ k, i = kept.length + (k + 1) := ⟨i - kept.length - 1, by omega⟩
      rw [if_neg heq, List.getElem?_append_right (by omega)]
      simp

theorem ModeList.length_entries {l : ModeList α} (h : l.count ≤ l.slots.length) :
    l.entries.length = l.count := List.length_take_of_le h

/-- Where `position` ends up among the entries. -/
def ModeList.place (l : ModeList α) (f : α → Nat) (mode : α) : Nat :=
  (l.entries.rdropWhile fun entry => f entry < f mode).length

theorem ModeList.place_le {l : ModeList α} (h : l.count ≤ l.slots.length) (f : α → Nat)
    (mode : α) : l.place f mode ≤ l.count := by
  rw [← length_entries h]
  exact (List.rdropWhile_prefix _ _).length_le

/-- The last slot that is written to. -/
def ModeList.tail (l : ModeList α) : Nat :=
  if l.count < l.slots.length then l.count else l.slots.length - 1

/-- After the shift and the write the array holds the front of the insertion. -/
theorem entries_written {l : ModeList α} {f : α → Nat} {mode : α} {moved : List α}
    (hl : l.count ≤ l.slots.length) (hp : l.place f mode < l.slots.length)
    (hlen : moved.length = l.slots.length)
    (hmoved : ∀ i, moved[i]? =
      if l.place f mode < i ∧ i ≤ l.tail then l.slots[i - 1]? else l.slots[i]?) :
    (moved.set (l.place f mode) mode).take
        (if l.count < l.slots.length then l.count + 1 else l.count) =
      (insert (larger f) mode l.entries).take l.slots.length := by
  have hle := l.place_le hl f mode
  have hentries : ∀ j, j < l.count → l.entries[j]? = l.slots[j]? := fun j hj =>
    List.getElem?_take_of_lt hj
  apply List.ext_getElem?
  intro i
  rw [List.getElem?_take, List.getElem?_take]
  by_cases hi : i < if l.count < l.slots.length then l.count + 1 else l.count
  · have hcapacity : i < l.slots.length := by split at hi <;> omega
    have htail : i ≤ l.tail := by unfold ModeList.tail; split at hi <;> split <;> omega
    rw [if_pos hi, if_pos hcapacity, getElem?_insert (l.place f mode) rfl]
    by_cases heq : i = l.place f mode
    · rw [if_neg (by omega), if_pos heq, heq, List.getElem?_set_self (by omega)]
    · rw [List.getElem?_set_ne (Ne.symm heq), hmoved, if_neg heq]
      by_cases hlt : i < l.place f mode
      · rw [if_pos hlt, if_neg (by omega), hentries i (by omega)]
      · rw [if_neg hlt, if_pos ⟨by omega, htail⟩]
        exact (hentries (i - 1) (by split at hi <;> omega)).symm
  · rw [if_neg hi]
    split
    · refine (List.getElem?_eq_none ?_).symm
      rw [length_insert, l.length_entries hl]
      split at hi <;> omega
    · rfl

/-- The insertion is the abstract one: nothing leaves the array, and the list keeps the
best. -/
theorem insertMode_eq [DecidableEq α] {same : α → Bool} {valueOf : α → Option Nat} {f : α → Nat}
    {mode : α} {l : ModeList α} (hsame : ∀ entry, same entry = decide (entry = mode))
    (hvalue : ∀ entry, valueOf entry = some (f entry)) (hl : l.count ≤ l.slots.length) :
    ∃ next kept, insertMode same (some (f mode)) valueOf mode l = some (next, kept) ∧
      next.slots.length = l.slots.length ∧ next.count ≤ next.slots.length ∧
      next.entries = keepBest (larger f) l.slots.length l.entries mode := by
  by_cases hzero : l.slots.length = 0
  · refine ⟨l, false, if_pos (.inl hzero), rfl, hl, ?_⟩
    have hnone : l.entries = [] := by
      rw [ModeList.entries, List.eq_nil_of_length_eq_zero hzero, List.take_nil]
    rw [hnone, hzero, keepBest, if_neg List.not_mem_nil, List.take_zero]
  · have hknows : knows same l.slots 0 l.count = some (decide (mode ∈ l.entries)) := by
      rw [knows_eq hsame (by omega), List.drop_zero]
      rfl
    have hposition : positionFrom valueOf l.slots (f mode) l.count = some (l.place f mode) :=
      positionFrom_eq (fun entry _ => hvalue entry) _ hl
    unfold insertMode
    rw [if_neg (by omega), hknows]
    simp only [Option.bind_eq_bind, Option.bind_some, decide_eq_true_eq, hposition]
    by_cases hmem : mode ∈ l.entries
    · exact ⟨l, true, if_pos hmem, rfl, hl, (if_pos hmem).symm⟩
    · rw [if_neg hmem, keepBest, if_neg hmem]
      have hle := l.place_le hl f mode
      by_cases hfull : l.slots.length ≤ l.place f mode
      · -- the list is full of modes that are no smaller
        refine ⟨l, false, if_pos hfull, rfl, hl, ?_⟩
        have hall : l.entries.rdropWhile (fun entry => f entry < f mode) = l.entries :=
          (List.rdropWhile_prefix _ _).eq_of_length_le
            (by rw [l.length_entries hl]; exact Nat.le_trans hl hfull)
        have hfront : insert (larger f) mode l.entries = l.entries ++
            mode :: l.entries.rtakeWhile (fun entry => f entry < f mode) :=
          congrArg (· ++ mode :: l.entries.rtakeWhile fun entry => f entry < f mode) hall
        rw [hfront, List.take_left' (by rw [l.length_entries hl]; omega)]
      · have htail : l.tail < l.slots.length := by unfold ModeList.tail; split <;> omega
        obtain ⟨moved, hshift, hlen, hmoved⟩ := shiftFrom_eq (l.place f mode) htail
        rw [if_neg hfull, show (if l.count < l.slots.length then l.count else
          l.slots.length - 1) = l.tail from rfl, hshift, Option.bind_some,
          writeSlot_eq (by omega), Option.bind_some]
        refine ⟨_, true, rfl, ?_, ?_, entries_written hl (by omega) hlen hmoved⟩
        · rw [List.length_set, hlen]
        · have hcount : (if l.count < l.slots.length then l.count + 1 else l.count) ≤
              l.slots.length := by split <;> omega
          rw [List.length_set, hlen]
          exact hcount

/-- A list of modes as both functions keep it: within its array, and the best. -/
structure ModeList.Kept [DecidableEq α] (f : α → Nat) (capacity : Nat) (l : ModeList α)
    (modes : List α) : Prop where
  length : l.slots.length = capacity
  count : l.count ≤ capacity
  entries : l.entries = best (larger f) capacity modes

theorem ModeList.Kept.insertMode [DecidableEq α] {f : α → Nat} {capacity : Nat}
    {l : ModeList α} {modes : List α} (h : l.Kept f capacity modes) (same : α → Bool)
    (valueOf : α → Option Nat) (mode : α) (hsame : ∀ entry, same entry = decide (entry = mode))
    (hvalue : ∀ entry, valueOf entry = some (f entry)) :
    ∃ next kept, insertMode same (some (f mode)) valueOf mode l = some (next, kept) ∧
      next.Kept f capacity (modes ++ [mode]) := by
  obtain ⟨next, kept, hrun, hlen, hcount, hentries⟩ :=
    insertMode_eq hsame hvalue (h.length ▸ h.count)
  rw [h.length] at hlen hentries
  refine ⟨next, kept, hrun, hlen, hlen ▸ hcount, ?_⟩
  rw [hentries, h.entries, best_concat]

theorem ModeList.Kept.empty [DecidableEq α] (f : α → Nat) (slots : List α) :
    ({ slots, count := 0 } : ModeList α).Kept f slots.length [] where
  length := rfl
  count := Nat.zero_le _
  entries := List.take_nil.symm

end Insert

/-! ## The two lists -/

/-- The area of a kept size. -/
def areaOf (size : UInt16 × UInt16) : Nat := size.1.toNat * size.2.toNat

/-- The valid rates of the reports, as kept. -/
def validRates (reports : List UInt32) : List UInt16 :=
  (reports.filter validRate).map UInt32.toUInt16

/-- The valid sizes of the reports, as kept. -/
def validSizes (reports : List (UInt32 × UInt32)) : List (UInt16 × UInt16) :=
  (reports.filter fun size => validSize size.1 size.2).map fun size =>
    (size.1.toUInt16, size.2.toUInt16)

theorem areaOf_lt (size : UInt16 × UInt16) : areaOf size < 2 ^ 32 := calc
  areaOf size < 2 ^ 16 * 2 ^ 16 := Nat.mul_lt_mul'' size.1.toNat_lt size.2.toNat_lt
  _ = 2 ^ 32 := rfl

/-- A number that fits is compared as it is. -/
theorem toUInt32_eq_iff {x : UInt16} {y : UInt32} (hy : y.toNat < 2 ^ 16) :
    x.toUInt32 = y ↔ x = y.toUInt16 := by
  rw [← UInt32.toNat_inj, ← UInt16.toNat_inj, UInt16.toNat_toUInt32, UInt32.toNat_toUInt16,
    Nat.mod_eq_of_lt hy]

theorem validRate_fits {fps : UInt32} (h : validRate fps = true) : fps.toNat < 2 ^ 16 := by
  have hle : fps ≤ 30 := by
    simp only [validRate, Bool.and_eq_true, decide_eq_true_eq] at h
    exact h.2
  have hnat : fps.toNat ≤ 30 := UInt32.le_iff_toNat_le.mp hle
  omega

theorem validSize_fits {width height : UInt32} (h : validSize width height = true) :
    width.toNat < 2 ^ 16 ∧ height.toNat < 2 ^ 16 := by
  simp only [validSize, Bool.and_eq_true, decide_eq_true_eq] at h
  have hwidth : width.toNat ≤ 1920 := UInt32.le_iff_toNat_le.mp h.1.1.1.1.2
  have hheight : height.toNat ≤ 1080 := UInt32.le_iff_toNat_le.mp h.1.2
  omega

theorem insertFrameRate_kept {capacity : Nat} {l : ModeList UInt16} {reports : List UInt32}
    (h : l.Kept UInt16.toNat capacity (validRates reports)) (fps : UInt32) :
    ∃ next, (insertFrameRate l fps).map Prod.fst = some next ∧
      next.Kept UInt16.toNat capacity (validRates (reports ++ [fps])) := by
  unfold insertFrameRate validRates
  rw [List.filter_append, List.map_append]
  by_cases hv : validRate fps = true
  · have hfits := validRate_fits hv
    obtain ⟨next, kept, hrun, hkept⟩ := h.insertMode
      (fun rate => rate.toUInt32 = fps) (fun rate => some rate.toNat) fps.toUInt16
      (fun entry => by rw [decide_eq_decide, toUInt32_eq_iff hfits]) (fun _ => rfl)
    refine ⟨next, by rw [if_pos hv, hrun]; rfl, ?_⟩
    rw [List.filter_cons_of_pos hv]
    exact hkept
  · refine ⟨l, by rw [if_neg hv]; rfl, ?_⟩
    rw [List.filter_cons_of_neg hv, List.filter_nil, List.map_nil, List.append_nil]
    exact h

theorem insertFrameSize_kept {capacity : Nat} {l : ModeList (UInt16 × UInt16)}
    {reports : List (UInt32 × UInt32)} (h : l.Kept areaOf capacity (validSizes reports))
    (size : UInt32 × UInt32) :
    ∃ next, (insertFrameSize l size).map Prod.fst = some next ∧
      next.Kept areaOf capacity (validSizes (reports ++ [size])) := by
  unfold insertFrameSize validSizes
  rw [List.filter_append, List.map_append]
  by_cases hv : validSize size.1 size.2 = true
  · obtain ⟨hwidth, hheight⟩ := validSize_fits hv
    have harea : areaOf (size.1.toUInt16, size.2.toUInt16) = size.1.toNat * size.2.toNat := by
      rw [areaOf, UInt32.toNat_toUInt16, UInt32.toNat_toUInt16, Nat.mod_eq_of_lt hwidth,
        Nat.mod_eq_of_lt hheight]
    obtain ⟨next, kept, hrun, hkept⟩ := h.insertMode
      (fun entry => entry.1.toUInt32 = size.1 && entry.2.toUInt32 = size.2)
      (fun entry => checked 32 (entry.1.toNat * entry.2.toNat))
      (size.1.toUInt16, size.2.toUInt16)
      (fun entry => by
        rw [← Bool.decide_and, decide_eq_decide, toUInt32_eq_iff hwidth, toUInt32_eq_iff hheight,
          Prod.ext_iff])
      (fun entry => checked_some (areaOf_lt entry))
    rw [harea, ← checked_some (harea ▸ areaOf_lt _)] at hrun
    refine ⟨next, by rw [if_pos hv, hrun]; rfl, ?_⟩
    rw [List.filter_singleton, hv, cond_true]
    exact hkept
  · refine ⟨l, by rw [if_neg hv]; rfl, ?_⟩
    rw [List.filter_singleton, Bool.eq_false_iff.mpr hv, cond_false, List.map_nil, List.append_nil]
    exact h

theorem insertAll_concat {α β : Type} (insert : ModeList α → β → Option (ModeList α × Bool))
    (l : ModeList α) (reports : List β) (report : β) :
    insertAll insert l (reports ++ [report]) =
      (insertAll insert l reports).bind fun l => (insert l report).map Prod.fst := by
  simp only [insertAll, List.foldlM_append, List.foldlM_cons, List.foldlM_nil, bind_pure]
  rfl

/-- Any number of reports, from the empty list. -/
theorem insertAll_kept {α β : Type} [DecidableEq α] {f : α → Nat}
    {insert : ModeList α → β → Option (ModeList α × Bool)} {valid : List β → List α}
    {slots : List α} (hnil : valid [] = [])
    (hstep : ∀ {l reports}, l.Kept f slots.length (valid reports) → ∀ report, ∃ next,
      (insert l report).map Prod.fst = some next ∧
        next.Kept f slots.length (valid (reports ++ [report]))) (reports : List β) :
    ∃ l, insertAll insert { slots, count := 0 } reports = some l ∧
      l.Kept f slots.length (valid reports) := by
  induction reports using List.reverseRecOn with
  | nil => exact ⟨_, rfl, hnil ▸ ModeList.Kept.empty f slots⟩
  | append_singleton reports report ih =>
    obtain ⟨l, hrun, hkept⟩ := ih
    obtain ⟨next, hnext, hnextKept⟩ := hstep hkept report
    exact ⟨next, by rw [insertAll_concat, hrun]; exact hnext, hnextKept⟩

theorem frameRates_kept (slots : List UInt16) (reports : List UInt32) :
    ∃ l, insertAll insertFrameRate { slots, count := 0 } reports = some l ∧
      l.Kept UInt16.toNat slots.length (validRates reports) :=
  insertAll_kept rfl insertFrameRate_kept reports

theorem frameSizes_kept (slots : List (UInt16 × UInt16)) (reports : List (UInt32 × UInt32)) :
    ∃ l, insertAll insertFrameSize { slots, count := 0 } reports = some l ∧
      l.Kept areaOf slots.length (validSizes reports) :=
  insertAll_kept rfl insertFrameSize_kept reports

/-! ## Every order -/

/-- Another enumeration of the same reports. -/
def SameSet {β : Type} (reports other : List β) : Prop := ∀ r, r ∈ reports ↔ r ∈ other

/-- No two of the valid sizes have the same area. -/
def DistinctAreas (reports : List (UInt32 × UInt32)) : Prop :=
  ∀ a ∈ validSizes reports, ∀ b ∈ validSizes reports, areaOf a = areaOf b → a = b

instance (reports : List (UInt32 × UInt32)) : Decidable (DistinctAreas reports) :=
  decidable_of_iff
    (((validSizes reports).all fun a => (validSizes reports).all fun b =>
      areaOf a != areaOf b || a == b) = true) <| by
    simp only [DistinctAreas, List.all_eq_true, Bool.or_eq_true, bne_iff_ne, beq_iff_eq, ne_eq,
      ← imp_iff_not_or]

theorem SameSet.validRates {reports other : List UInt32} (h : SameSet reports other)
    (rate : UInt16) : rate ∈ validRates reports ↔ rate ∈ Native.validRates other := by
  simp only [Native.validRates, List.mem_map, List.mem_filter, h _]

theorem SameSet.validSizes {reports other : List (UInt32 × UInt32)} (h : SameSet reports other)
    (size : UInt16 × UInt16) : size ∈ validSizes reports ↔ size ∈ Native.validSizes other := by
  simp only [Native.validSizes, List.mem_map, List.mem_filter, h _]

/-- Whatever the device reports, each array ends up with the best of it: frame rates the
same for every order, frame sizes with equals as they came. -/
theorem mode_lists :
    (∀ (slots : List UInt16) (reports : List UInt32),
      ∃ l, insertAll insertFrameRate { slots, count := 0 } reports = some l ∧
        l.count ≤ slots.length ∧
        IsBest (larger UInt16.toNat) slots.length (validRates reports) l.entries ∧
        ∀ other, SameSet reports other → ∃ l',
          insertAll insertFrameRate { slots, count := 0 } other = some l' ∧
            l'.entries = l.entries) ∧
    (∀ (slots : List (UInt16 × UInt16)) (reports : List (UInt32 × UInt32)),
      ∃ l, insertAll insertFrameSize { slots, count := 0 } reports = some l ∧
        l.count ≤ slots.length ∧
        IsBest (larger areaOf) slots.length (validSizes reports) l.entries ∧
        l.entries = best (larger areaOf) slots.length (validSizes reports) ∧
        (DistinctAreas reports → ∀ other, SameSet reports other → ∃ l',
          insertAll insertFrameSize { slots, count := 0 } other = some l' ∧
            l'.entries = l.entries)) := by
  constructor
  · intro slots reports
    obtain ⟨l, hrun, hkept⟩ := frameRates_kept slots reports
    refine ⟨l, hrun, hkept.count, hkept.entries ▸ best_isBest _ _, fun other hsame => ?_⟩
    obtain ⟨l', hrun', hkept'⟩ := frameRates_kept slots other
    refine ⟨l', hrun', ?_⟩
    rw [hkept'.entries, hkept.entries]
    refine (best_eq_of_same hsame.validRates ?_ _).symm
    intro a _ b _ hab
    exact UInt16.toNat_inj.mp (OrderDual.toDual_inj.mp hab)
  · intro slots reports
    obtain ⟨l, hrun, hkept⟩ := frameSizes_kept slots reports
    refine ⟨l, hrun, hkept.count, hkept.entries ▸ best_isBest _ _, hkept.entries, ?_⟩
    intro hdistinct other hsame
    obtain ⟨l', hrun', hkept'⟩ := frameSizes_kept slots other
    refine ⟨l', hrun', ?_⟩
    rw [hkept'.entries, hkept.entries]
    refine (best_eq_of_same hsame.validSizes ?_ _).symm
    intro a ha b hb hab
    exact hdistinct a ha b hb (OrderDual.toDual_inj.mp hab)

/-- Three sizes, and three rates, in both directions. -/
theorem mode_lists_reversed :
    (∃ l l', insertAll insertFrameRate ⟨[0, 0], 0⟩ [10, 30, 15] = some l ∧
      insertAll insertFrameRate ⟨[0, 0], 0⟩ [15, 30, 10] = some l' ∧
      l.entries = [30, 15] ∧ l'.entries = l.entries) ∧
    ∃ l l', insertAll insertFrameSize ⟨[(0, 0), (0, 0)], 0⟩ [(640, 480), (1920, 1080), (800, 600)] =
        some l ∧
      insertAll insertFrameSize ⟨[(0, 0), (0, 0)], 0⟩ [(800, 600), (1920, 1080), (640, 480)] =
        some l' ∧ l.entries = [(1920, 1080), (800, 600)] ∧ l'.entries = l.entries := by
  constructor
  · obtain ⟨l, hrun, -, -, hother⟩ := mode_lists.1 [0, 0] [10, 30, 15]
    obtain ⟨l', hrun', hsame⟩ := hother [15, 30, 10] fun r => List.mem_reverse.symm
    obtain rfl := Option.some.inj (hrun.symm.trans (by decide +kernel :
      _ = some ⟨[30, 15], 2⟩))
    exact ⟨_, l', hrun, hrun', rfl, hsame⟩
  · obtain ⟨l, hrun, -, -, -, hother⟩ := mode_lists.2 [(0, 0), (0, 0)]
      [(640, 480), (1920, 1080), (800, 600)]
    obtain ⟨l', hrun', hsame⟩ := hother (by decide +kernel)
      [(800, 600), (1920, 1080), (640, 480)] fun r => List.mem_reverse.symm
    obtain rfl := Option.some.inj (hrun.symm.trans (by decide +kernel :
      _ = some ⟨[(1920, 1080), (800, 600)], 2⟩))
    exact ⟨_, l', hrun, hrun', rfl, hsame⟩

/-- Two sizes with the same area: the one that is reported first has the only slot. -/
theorem equal_areas_by_order :
    ∃ reports other, SameSet reports other ∧
      (insertAll insertFrameSize ⟨[(0, 0)], 0⟩ reports).map ModeList.entries =
        some [(960, 720)] ∧
      (insertAll insertFrameSize ⟨[(0, 0)], 0⟩ other).map ModeList.entries =
        some [(1080, 640)] :=
  ⟨[(960, 720), (1080, 640)], [(1080, 640), (960, 720)], fun _ => List.mem_reverse.symm,
    by decide +kernel, by decide +kernel⟩

end Lgnome.Native
