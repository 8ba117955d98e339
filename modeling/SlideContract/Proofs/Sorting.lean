import Mathlib.Data.List.Perm.Basic
import Mathlib.Tactic.Common
import SlideContract.Sorting.Sort

/-!
# Sorting keeps the items

Whatever the comparison answers, a sorted list holds exactly the items that were to be sorted. Every
step of a merge moves items from one of its three parts to another, so that the three together stay
a permutation of the two runs.

* `Merge.Holds`: what a merge has left and has taken are together the given items;
* `perm_of_mergeRuns?`: a merge of two runs is a permutation of the two;
* `perm_of_sort?`: a sorted list is a permutation of the list.
-/

namespace SlideContract.Sorting

variable {α : Type}

/-! ## Cutting arrays -/

lemma extract_split (items : Array α) {i j k : ℕ} (hij : i ≤ j) (hjk : j ≤ k) :
    (items.extract i k).toList = (items.extract i j).toList ++ (items.extract j k).toList := by
  rw [← Array.toList_append, Array.extract_append_extract, Nat.min_eq_left hij,
    Nat.max_eq_right hjk]

/-- A cut that reaches beyond the end is the cut of its own size. -/
lemma extract_eq_extract_size (items : Array α) (i j : ℕ) :
    items.extract i j = items.extract i (i + (items.extract i j).size) := by
  rw [Array.extract_eq_extract_right, Array.size_extract]
  omega

/-! ## Searching -/

namespace Stretch

/-- The stretch lies within its items. -/
def Fits (s : Stretch α) : Prop := s.start + s.size ≤ s.items.size

/-- Halving ends between the two places, or at the first one if they are the wrong way round. -/
lemma halve?_le {holds : α → Option Bool} {s : Stretch α} {fuel low high n : ℕ}
    (h : s.halve? holds fuel low high = some n) : n ≤ max low high := by
  -- by the fuel: each half lies between the two places
  induction fuel generalizing low high with
  | zero =>
    simp only [halve?, Option.some.injEq] at h
    omega
  | succ fuel ih =>
    unfold halve? at h
    split at h
    · simp only [Option.some.injEq] at h
      omega
    · simp only [Option.bind_eq_bind, Option.bind_eq_some_iff] at h
      obtain ⟨_, -, b, -, h⟩ := h
      split at h
      · have := ih h
        omega
      · have := ih h
        omega

/-- The last stride lies below the limit, and so does the next one or it is the limit itself. -/
lemma strides?_le {goesOn : ℕ → Option Bool} {limit fuel last next a b : ℕ}
    (hlast : last = 0 ∨ last < limit) (h : strides? goesOn limit fuel last next = some (a, b)) :
    (a = 0 ∨ a < limit) ∧ b ≤ limit := by
  -- by the fuel: the next stride becomes the last only when it is below the limit
  induction fuel generalizing last next with
  | zero =>
    simp only [strides?, Option.some.injEq, Prod.mk.injEq] at h
    omega
  | succ fuel ih =>
    unfold strides? at h
    split at h
    · simp only [Option.some.injEq, Prod.mk.injEq] at h
      omega
    · simp only [Option.bind_eq_bind, Option.bind_eq_some_iff] at h
      obtain ⟨go, -, h⟩ := h
      split at h
      · exact ih (by omega) h
      · simp only [Option.some.injEq, Prod.mk.injEq] at h
        omega

/-- No more items than there are satisfy a condition. -/
lemma count?_zero_le {holds : α → Option Bool} {s : Stretch α} {n : ℕ} (hs : 0 < s.size)
    (h : s.count? holds 0 = some n) : n ≤ s.size := by
  simp only [count?, Option.bind_eq_bind, Option.bind_eq_some_iff] at h
  obtain ⟨first, -, h⟩ := h
  split at h
  · simp only [Option.bind_eq_some_iff, Prod.exists] at h
    obtain ⟨last, next, hstrides, h⟩ := h
    have := strides?_le (Or.inl rfl) hstrides
    have := halve?_le h
    omega
  · simp only [Option.bind_eq_some_iff, Prod.exists] at h
    obtain ⟨last, next, hstrides, h⟩ := h
    have := strides?_le (Or.inl rfl) hstrides
    have := halve?_le h
    omega

lemma countEnd?_le {holds : α → Option Bool} {s : Stretch α} {n : ℕ} (side : Side)
    (hs : 0 < s.size) (h : s.countEnd? holds side = some n) : n ≤ s.size := by
  cases side with
  | front => exact count?_zero_le hs h
  | back =>
    simp only [countEnd?, Option.bind_eq_bind, Option.pure_def, Option.bind_eq_some_iff,
      Option.some.injEq] at h
    obtain ⟨_, -, h⟩ := h
    omega

/-! ## Taking items -/

/-- What is taken at an end and what is left are together the stretch. -/
lemma perm_appendEnd (s : Stretch α) {count : ℕ} (hcount : count ≤ s.size) (side : Side)
    (taken : Array α) :
    ((s.appendEnd count side taken).toList ++ (s.without count side).toArray.toList).Perm
      (taken.toList ++ s.toArray.toList) := by
  cases side with
  | front =>
    rw [appendEnd, without, toArray, toArray, Array.toList_append, List.append_assoc,
      show s.start + count + (s.size - count) = s.start + s.size by omega,
      ← extract_split _ (by omega) (by omega)]
  | back =>
    rw [appendEnd, without, toArray, toArray, Array.toList_append, Array.toList_reverse,
      List.append_assoc, show s.start + (s.size - count) = s.start + s.size - count by omega,
      extract_split s.items (show s.start ≤ s.start + s.size - count by omega)
        (Nat.sub_le (s.start + s.size) count)]
    exact (((List.reverse_perm _).append_right _).trans List.perm_append_comm).append_left _

lemma fits_without {s : Stretch α} (hs : s.Fits) {count : ℕ} (hcount : count ≤ s.size)
    (side : Side) : (s.without count side).Fits := by
  unfold Fits at hs ⊢
  cases side with
  | front =>
    show s.start + count + (s.size - count) ≤ s.items.size
    omega
  | back =>
    show s.start + (s.size - count) ≤ s.items.size
    omega

lemma size_without (s : Stretch α) (count : ℕ) (side : Side) :
    (s.without count side).size = s.size - count := by
  cases side <;> rfl

end Stretch

/-! ## Merging -/

namespace Merge

/-- What is left of the two runs and what is taken already are together the given items. -/
structure Holds (m : Merge α) (items : List α) : Prop where
  held : m.held.Fits
  moving : m.moving.Fits
  perm : (m.taken.toList ++ (m.held.toArray.toList ++ m.moving.toArray.toList)).Perm items

variable {m m' : Merge α} {items : List α}

lemma Holds.takeHeld (h : m.Holds items) {count : ℕ} (hcount : count ≤ m.held.size) :
    (m.takeHeld count).Holds items where
  held := Stretch.fits_without h.held hcount m.side
  moving := h.moving
  perm := by
    show ((m.held.appendEnd count m.side m.taken).toList
      ++ ((m.held.without count m.side).toArray.toList ++ m.moving.toArray.toList)).Perm items
    rw [← List.append_assoc]
    refine ((Stretch.perm_appendEnd _ hcount m.side m.taken).append_right _).trans ?_
    rw [List.append_assoc]
    exact h.perm

lemma Holds.takeMoving (h : m.Holds items) {count : ℕ} (hcount : count ≤ m.moving.size) :
    (m.takeMoving count).Holds items where
  held := h.held
  moving := Stretch.fits_without h.moving hcount m.side
  perm := by
    show ((m.moving.appendEnd count m.side m.taken).toList
      ++ (m.held.toArray.toList ++ (m.moving.without count m.side).toArray.toList)).Perm items
    refine (List.perm_append_comm.append_left _).trans ?_
    rw [← List.append_assoc]
    refine ((Stretch.perm_appendEnd _ hcount m.side m.taken).append_right _).trans ?_
    rw [List.append_assoc]
    exact (List.perm_append_comm.append_left _).trans h.perm

lemma toArray_eq_empty {s : Stretch α} (hs : s.size = 0) : s.toArray = #[] := by
  apply Array.eq_empty_of_size_eq_zero
  rw [Stretch.toArray, Array.size_extract, hs]
  omega

/-- However a merge ends, its result holds all items. -/
lemma Holds.result (h : m.Holds items) : m.result.toList.Perm items := by
  have hall := (h.takeMoving (Nat.le_refl _)).takeHeld (Nat.le_refl m.held.size)
  have hheld : ((m.takeMoving m.moving.size).takeHeld m.held.size).held.size = 0 := by
    show (m.held.without m.held.size m.side).size = 0
    rw [Stretch.size_without]
    omega
  have hmoving : ((m.takeMoving m.moving.size).takeHeld m.held.size).moving.size = 0 := by
    show (m.moving.without m.moving.size m.side).size = 0
    rw [Stretch.size_without]
    omega
  have hperm := hall.perm
  rw [toArray_eq_empty hheld, toArray_eq_empty hmoving] at hperm
  simp only [List.append_nil] at hperm
  unfold Merge.result
  simp only
  split
  · exact hperm
  · rw [Array.toList_reverse]
    exact (List.reverse_perm _).trans hperm

lemma not_isFinished (h : ¬ m.isFinished = true) : 1 < m.held.size ∧ 0 < m.moving.size := by
  simp only [isFinished, Bool.or_eq_true, decide_eq_true_eq, beq_iff_eq, not_or] at h
  omega

lemma Holds.inTurns? {less : Comparison α} {enough fuel heldWins movingWins : ℕ}
    (h : m.Holds items) (hm : m.inTurns? less enough fuel heldWins movingWins = some m') :
    m'.Holds items := by
  -- by the fuel: every step takes one item from either side, which keeps what the merge holds
  induction fuel generalizing m heldWins movingWins with
  | zero =>
    rw [Merge.inTurns?, Option.some.injEq] at hm
    exact hm ▸ h
  | succ fuel ih =>
    unfold Merge.inTurns? at hm
    split at hm
    · rw [Option.some.injEq] at hm
      exact hm ▸ h
    · rename_i hrun
      have hleft := not_isFinished (m := m) (fun hf => hrun (by simp [hf]))
      simp only [Option.bind_eq_bind, Option.bind_eq_some_iff] at hm
      obtain ⟨wins, -, hm⟩ := hm
      split at hm
      · exact ih (h.takeMoving (by omega)) hm
      · exact ih (h.takeHeld (by omega)) hm

lemma Holds.heldStretch? {less : Comparison α} {count : ℕ} (h : m.Holds items)
    (hrun : ¬ m.isFinished = true) (hm : m.heldStretch? less = some (m', count)) :
    m'.Holds items := by
  have hleft := not_isFinished hrun
  have htaken : ∀ n, n ≤ m.held.size →
      (if (m.takeHeld n).isFinished then m.takeHeld n else (m.takeHeld n).takeMoving 1).Holds
        items := by
    intro n hn
    split
    · exact h.takeHeld hn
    · exact (h.takeHeld hn).takeMoving (show 1 ≤ m.moving.size by omega)
  simp only [Merge.heldStretch?, Option.bind_eq_bind, Option.pure_def,
    Option.bind_eq_some_iff] at hm
  obtain ⟨key, -, hm⟩ := hm
  cases hside : m.side <;> rw [hside] at hm <;>
    simp only [Option.bind_eq_some_iff, Option.some.injEq, Prod.mk.injEq] at hm <;>
    obtain ⟨n, hn, rfl, -⟩ := hm <;>
    exact htaken n (Stretch.countEnd?_le _ (by omega) hn)

lemma Holds.movingStretch? {less : Comparison α} {count : ℕ} (h : m.Holds items)
    (hrun : ¬ m.isFinished = true) (hm : m.movingStretch? less = some (m', count)) :
    m'.Holds items := by
  have hleft := not_isFinished hrun
  have htaken : ∀ n, n ≤ m.moving.size →
      (if (m.takeMoving n).isFinished then m.takeMoving n else (m.takeMoving n).takeHeld 1).Holds
        items := by
    intro n hn
    split
    · exact h.takeMoving hn
    · exact (h.takeMoving hn).takeHeld (show 1 ≤ m.held.size by omega)
  simp only [Merge.movingStretch?, Option.bind_eq_bind, Option.pure_def,
    Option.bind_eq_some_iff] at hm
  obtain ⟨key, -, hm⟩ := hm
  cases hside : m.side <;> rw [hside] at hm <;>
    simp only [Option.bind_eq_some_iff, Option.some.injEq, Prod.mk.injEq] at hm <;>
    obtain ⟨n, hn, rfl, -⟩ := hm <;>
    exact htaken n (Stretch.countEnd?_le _ (by omega) hn)

/-- One search of a merge by stretches, whichever run it begins with. -/
lemma Holds.search {less : Comparison α} {count : ℕ} {heldFirst : Prop} [Decidable heldFirst]
    (h : m.Holds items) (hrun : ¬ m.isFinished = true)
    (hm : (if heldFirst then Merge.heldStretch? less else Merge.movingStretch? less) m
      = some (m', count)) : m'.Holds items := by
  split at hm
  · exact h.heldStretch? hrun hm
  · exact h.movingStretch? hrun hm

lemma Holds.byStretches? {less : Comparison α} {fuel enough enough' : ℕ} (h : m.Holds items)
    (hrun : ¬ m.isFinished = true)
    (hm : Merge.byStretches? less fuel enough m = some (m', enough')) : m'.Holds items := by
  induction fuel generalizing m enough with
  | zero =>
    simp only [Merge.byStretches?, Option.some.injEq, Prod.mk.injEq] at hm
    exact hm.1 ▸ h
  | succ fuel ih =>
    simp only [Merge.byStretches?, Option.bind_eq_bind, Option.bind_eq_some_iff] at hm
    obtain ⟨⟨m₁, count₁⟩, h₁, hm⟩ := hm
    have hold₁ := h.search hrun h₁
    split at hm
    · simp only [Option.pure_def, Option.some.injEq, Prod.mk.injEq] at hm
      exact hm.1 ▸ hold₁
    · rename_i hrun₁
      simp only [Option.bind_eq_some_iff] at hm
      obtain ⟨⟨m₂, count₂⟩, h₂, hm⟩ := hm
      -- the two searches take turns, and each keeps that the items are those moved and those left
      have hold₂ : m₂.Holds items := by
        split at h₂
        · exact hold₁.movingStretch? hrun₁ h₂
        · exact hold₁.heldStretch? hrun₁ h₂
      split at hm
      · simp only [Option.pure_def, Option.some.injEq, Prod.mk.injEq] at hm
        exact hm.1 ▸ hold₂
      · rename_i hrun₂
        split at hm
        · exact ih hold₂ hrun₂ hm
        · simp only [Option.pure_def, Option.some.injEq, Prod.mk.injEq] at hm
          exact hm.1 ▸ hold₂

lemma Holds.finish? {less : Comparison α} {fuel enough enough' : ℕ} (h : m.Holds items)
    (hm : m.finish? less fuel enough = some (m', enough')) : m'.Holds items := by
  induction fuel generalizing m enough with
  | zero =>
    simp only [Merge.finish?, Option.some.injEq, Prod.mk.injEq] at hm
    exact hm.1 ▸ h
  | succ fuel ih =>
    simp only [Merge.finish?, Option.bind_eq_bind, Option.bind_eq_some_iff] at hm
    obtain ⟨m₁, h₁, hm⟩ := hm
    have hold₁ := h.inTurns? h₁
    split at hm
    · simp only [Option.pure_def, Option.some.injEq, Prod.mk.injEq] at hm
      exact hm.1 ▸ hold₁
    · rename_i hrun₁
      simp only [Option.bind_eq_some_iff] at hm
      obtain ⟨⟨m₂, enough₂⟩, h₂, hm⟩ := hm
      have hold₂ := hold₁.byStretches? hrun₁ h₂
      split at hm
      · simp only [Option.pure_def, Option.some.injEq, Prod.mk.injEq] at hm
        exact hm.1 ▸ hold₂
      · exact ih hold₂ hm

/-- The merge of two stretches that has taken nothing yet; the shorter one is held. -/
def start (left right : Stretch α) : Merge α :=
  if left.size ≤ right.size then ⟨.front, left, right, #[]⟩ else ⟨.back, right, left, #[]⟩

lemma holds_start {left right : Stretch α} (hleft : left.Fits) (hright : right.Fits) :
    (start left right).Holds (left.toArray.toList ++ right.toArray.toList) := by
  unfold start
  split
  · exact ⟨hleft, hright, List.Perm.refl _⟩
  · refine ⟨hright, hleft, ?_⟩
    show ([] ++ (right.toArray.toList ++ left.toArray.toList)).Perm _
    rw [List.nil_append]
    exact List.perm_append_comm

lemma moving_start {left right : Stretch α} (hleft : 0 < left.size) (hright : 0 < right.size) :
    1 ≤ (start left right).moving.size := by
  unfold start
  split
  · exact hright
  · exact hleft

end Merge

/-- Two runs that are merged keep their items. -/
theorem perm_of_mergeRuns? {less : Comparison α} {enough enough' : ℕ}
    {first second merged : Array α}
    (h : mergeRuns? less enough first second = some (merged, enough')) :
    merged.toList.Perm (first.toList ++ second.toList) := by
  simp only [mergeRuns?, Option.bind_eq_bind, Option.bind_eq_some_iff] at h
  obtain ⟨key, hkey, settled, hsettled, h⟩ := h
  split at h
  · simp only [Option.pure_def, Option.some.injEq, Prod.mk.injEq] at h
    rw [← h.1, Array.toList_append]
  simp only [Option.bind_eq_some_iff] at h
  obtain ⟨last, hlast, back, hback, h⟩ := h
  split at h
  · simp only [Option.pure_def, Option.some.injEq, Prod.mk.injEq] at h
    rw [← h.1, Array.toList_append]
  simp only [Option.bind_eq_some_iff, Prod.exists, Option.pure_def, Option.some.injEq,
    Prod.mk.injEq] at h
  obtain ⟨m, _, hm, hmerged, -⟩ := h
  -- both runs have items, as the first of one and the last of the other were looked up
  have hfirst : 0 < first.size := by
    have := (Array.getElem?_eq_some_iff.1 hlast).1
    omega
  have hsecond : 0 < second.size := (Array.getElem?_eq_some_iff.1 hkey).1
  have hle : settled ≤ first.size := Stretch.countEnd?_le .front hfirst hsettled
  have hleback : back ≤ second.size := Stretch.countEnd?_le .back hsecond hback
  set left : Stretch α := ⟨first, settled, first.size - settled⟩ with hleft
  set right : Stretch α := ⟨second, 0, second.size - back⟩ with hright
  have hstart : (Merge.start left right).Holds (left.toArray.toList ++ right.toArray.toList) :=
    Merge.holds_start (show settled + (first.size - settled) ≤ first.size by omega)
      (show 0 + (second.size - back) ≤ second.size by omega)
  have hmoving : 1 ≤ (Merge.start left right).moving.size :=
    Merge.moving_start (show 0 < first.size - settled by omega)
      (show 0 < second.size - back by omega)
  have hrest := ((hstart.takeMoving hmoving).finish? hm).result
  have hend : settled + (first.size - settled) = first.size := by omega
  unfold Stretch.toArray at hrest
  simp only [hleft, hright, Nat.zero_add, hend] at hrest
  have hfront := extract_split first (Nat.zero_le settled) hle
  have hrear := extract_split second (Nat.zero_le (second.size - back)) (Nat.sub_le _ _)
  rw [Array.extract_size] at hfront hrear
  rw [← hmerged, Array.toList_append, Array.toList_append, hfront, hrear, List.append_assoc,
    List.append_assoc, ← List.append_assoc (first.extract settled first.size).toList]
  exact (hrest.append_right _).append_left _

/-! ## Runs -/

/-- The items of runs that are listed from the latest on, in the order of their places. -/
def itemsOf (runs : List (Run α)) : List α := (runs.reverse.map (·.items.toList)).flatten

lemma itemsOf_cons (run : Run α) (runs : List (Run α)) :
    itemsOf (run :: runs) = itemsOf runs ++ run.items.toList := by
  simp [itemsOf]

lemma perm_of_mergeDeeper? {less : Comparison α} {depth fuel : ℕ} {p p' : Pending α}
    (h : mergeDeeper? less depth fuel p = some p') :
    (itemsOf p'.runs).Perm (itemsOf p.runs) ∧ p'.runs.length ≤ p.runs.length
      ∧ (p.runs ≠ [] → p'.runs ≠ []) := by
  -- each step merges the two runs on top, which keeps the items and leaves one run less but never
  -- none
  induction fuel generalizing p with
  | zero =>
    rw [mergeDeeper?, Option.some.injEq] at h
    rw [h]
    exact ⟨.refl _, Nat.le_refl _, id⟩
  | succ fuel ih =>
    unfold mergeDeeper? at h
    split at h
    · rename_i second first rest hruns
      split at h
      · simp only [Option.bind_eq_bind, Option.bind_eq_some_iff, Prod.exists] at h
        obtain ⟨merged, enough, hmerged, h⟩ := h
        obtain ⟨hperm, hlength, hne⟩ := ih h
        rw [hruns]
        refine ⟨hperm.trans ?_, ?_, fun _ => hne (by simp)⟩
        · rw [itemsOf_cons, itemsOf_cons, itemsOf_cons, List.append_assoc]
          exact (perm_of_mergeRuns? hmerged).append_left _
        · simp only [List.length_cons] at hlength ⊢
          omega
      · rw [Option.some.injEq] at h
        rw [h]
        exact ⟨.refl _, Nat.le_refl _, id⟩
    · rw [Option.some.injEq] at h
      rw [h]
      exact ⟨.refl _, Nat.le_refl _, id⟩

lemma perm_of_push? {less : Comparison α} {size : ℕ} {run : Array α} {p p' : Pending α}
    (h : push? less size run p = some p') :
    (itemsOf p'.runs).Perm (itemsOf p.runs ++ run.toList)
      ∧ p'.runs.length ≤ p.runs.length + 1 := by
  unfold push? at h
  split at h
  · rename_i hruns
    rw [Option.some.injEq] at h
    rw [← h, hruns, itemsOf_cons]
    exact ⟨.refl _, Nat.le_refl _⟩
  · rename_i hruns
    simp only [Option.bind_eq_bind, Option.bind_eq_some_iff] at h
    obtain ⟨q, hq, h⟩ := h
    -- merging deeper keeps the items that wait, and leaves a run for the new one to go on top of
    obtain ⟨hperm, hlength, hne⟩ := perm_of_mergeDeeper? hq
    split at h
    · rename_i last rest hlast
      rw [Option.pure_def, Option.some.injEq] at h
      rw [hlast] at hperm hlength
      rw [← h]
      refine ⟨?_, by simpa using hlength⟩
      rw [itemsOf_cons, itemsOf_cons]
      rw [itemsOf_cons] at hperm
      exact hperm.append_right _
    · rename_i hnil
      exact absurd hnil (hne (by rw [hruns]; exact List.cons_ne_nil _ _))

/-- Runs that are merged until one is left keep their items, given enough steps. -/
lemma perm_of_mergeAll? {less : Comparison α} {fuel : ℕ} {p : Pending α} {merged : Array α}
    (hfuel : p.runs.length < fuel) (h : mergeAll? less fuel p = some merged) :
    merged.toList.Perm (itemsOf p.runs) := by
  -- each step merges two neighbouring runs, so there is one run less and the items are permuted
  induction fuel generalizing p with
  | zero => omega
  | succ fuel ih =>
    unfold mergeAll? at h
    split at h
    · rename_i hruns
      rw [Option.some.injEq] at h
      rw [← h, hruns]
      rfl
    · rename_i run hruns
      rw [Option.some.injEq] at h
      rw [← h, hruns]
      simp [itemsOf]
    · rename_i second first hruns
      simp only [Option.bind_eq_bind, Option.bind_eq_some_iff, Prod.exists] at h
      obtain ⟨both, enough, hboth, h⟩ := h
      rw [hruns] at hfuel ⊢
      refine (ih (by simp only [List.length_cons, List.length_nil] at hfuel ⊢; omega) h).trans ?_
      rw [itemsOf_cons, itemsOf_cons, itemsOf_cons, List.append_assoc]
      exact (perm_of_mergeRuns? hboth).append_left _
    · rename_i third second first rest hruns
      rw [hruns] at hfuel ⊢
      simp only [List.length_cons] at hfuel
      split at h
      · simp only [Option.bind_eq_bind, Option.bind_eq_some_iff, Prod.exists] at h
        obtain ⟨both, enough, hboth, h⟩ := h
        refine (ih (by simp only [List.length_cons]; omega) h).trans ?_
        rw [itemsOf_cons, itemsOf_cons, itemsOf_cons, itemsOf_cons, itemsOf_cons,
          List.append_assoc (itemsOf rest) first.items.toList]
        exact ((perm_of_mergeRuns? hboth).append_left _).append_right _
      · simp only [Option.bind_eq_bind, Option.bind_eq_some_iff, Prod.exists] at h
        obtain ⟨both, enough, hboth, h⟩ := h
        refine (ih (by simp only [List.length_cons]; omega) h).trans ?_
        rw [itemsOf_cons, itemsOf_cons, itemsOf_cons, itemsOf_cons, itemsOf_cons,
          List.append_assoc (itemsOf rest ++ first.items.toList)]
        exact (perm_of_mergeRuns? hboth).append_left _

/-- An insertion adds its items. -/
lemma perm_of_insertAll? {less : Comparison α} {run merged : Array α} {added : List α}
    (h : insertAll? less run added = some merged) :
    merged.toList.Perm (run.toList ++ added) := by
  induction added generalizing run with
  | nil =>
    rw [insertAll?, Option.some.injEq] at h
    rw [h, List.append_nil]
  | cons item rest ih =>
    simp only [insertAll?, Option.bind_eq_bind, Option.bind_eq_some_iff] at h
    obtain ⟨place, hplace, h⟩ := h
    have hle : place ≤ run.size := by
      have := Stretch.halve?_le hplace
      omega
    -- the item goes between what is in front of its place and what is behind
    have hsplit : run.toList
        = (run.extract 0 place).toList ++ (run.extract place run.size).toList := by
      rw [← Array.toList_append, Array.extract_append_extract, Nat.min_eq_left (by omega),
        Nat.max_eq_right (by omega), Array.extract_size]
    refine (ih h).trans ?_
    rw [hsplit, Array.toList_append, Array.toList_append]
    simp only [List.append_assoc, List.singleton_append]
    exact List.perm_middle.symm.append_left _

/-- A run that begins at a place holds the items from there on, and at least one. -/
lemma perm_of_run? {less : Comparison α} {items run : Array α} {place : ℕ}
    (hplace : place < items.size) (h : run? less items place = some run) :
    run.toList.Perm (items.extract place (place + run.size)).toList ∧ 0 < run.size := by
  unfold run? at h
  split at h
  · rw [Option.some.injEq] at h
    have hsize : run.size = items.size - place := by
      rw [← h, Array.size_extract, Nat.min_self]
    rw [hsize, show place + (items.size - place) = items.size by omega, h]
    exact ⟨.refl _, by omega⟩
  · simp only [Option.bind_eq_bind, Option.bind_eq_some_iff, Option.pure_def,
      Option.some.injEq] at h
    obtain ⟨_, -, _, -, falling, -, length, -, h⟩ := h
    -- a falling run is reversed, a rising one is taken as it stands
    have hperm : run.toList.Perm (items.extract place (place + (length + 2))).toList := by
      rw [← h]
      split
      · rw [Array.toList_reverse]
        exact List.reverse_perm _
      · exact .refl _
    have hsize : run.size = (items.extract place (place + (length + 2))).size := by
      rw [← Array.length_toList, hperm.length_eq, Array.length_toList]
    rw [hsize, ← extract_eq_extract_size]
    refine ⟨hperm, ?_⟩
    rw [Array.size_extract]
    omega

lemma perm_of_collect? {less : Comparison α} {shortest fuel place : ℕ} {items : Array α}
    {p p' : Pending α} (hfuel : items.size ≤ place + fuel) (hplace : place ≤ items.size)
    (hperm : (itemsOf p.runs).Perm (items.extract 0 place).toList) (hlength : p.runs.length ≤ place)
    (h : collect? less shortest items fuel place p = some p') :
    (itemsOf p'.runs).Perm items.toList ∧ p'.runs.length ≤ items.size := by
  induction fuel generalizing place p with
  | zero =>
    rw [collect?, Option.some.injEq] at h
    rw [show place = items.size by omega, Array.extract_size] at hperm
    exact h ▸ ⟨hperm, by omega⟩
  | succ fuel ih =>
    unfold collect? at h
    split at h
    · rw [Option.some.injEq] at h
      rw [show place = items.size by omega, Array.extract_size] at hperm
      exact h ▸ ⟨hperm, by omega⟩
    · simp only [Option.bind_eq_bind, Option.bind_eq_some_iff] at h
      obtain ⟨run, hrun, full, hfull, q, hq, h⟩ := h
      obtain ⟨hrunperm, hpos⟩ := perm_of_run? (by omega) hrun
      obtain ⟨hqperm, hqlength⟩ := perm_of_push? hq
      -- the run with what was inserted holds the items up to the next place
      have hinserted := perm_of_insertAll? hfull
      rw [extract_eq_extract_size items (place + run.size)] at hinserted
      set added := (items.extract (place + run.size) (place + shortest)).size with hadded
      have hfullsize : full.size = run.size + added := by
        rw [← Array.length_toList, hinserted.length_eq, List.length_append, Array.length_toList,
          Array.length_toList, ← extract_eq_extract_size]
      have hrunsize : run.size ≤ items.size - place := by
        have := hrunperm.length_eq
        rw [Array.length_toList, Array.length_toList, Array.size_extract] at this
        omega
      have haddedle : added ≤ items.size - (place + run.size) := by
        rw [hadded, Array.size_extract]
        omega
      have hfullperm : full.toList.Perm (items.extract place (place + full.size)).toList := by
        refine hinserted.trans ((hrunperm.append_right _).trans (.of_eq ?_))
        rw [hfullsize, ← Nat.add_assoc, ← extract_split _ (by omega) (by omega)]
      refine ih (by omega) (by omega) ?_ (by omega) h
      refine hqperm.trans ((hperm.append hfullperm).trans (.of_eq ?_))
      rw [← extract_split _ (by omega) (by omega)]

/-- A sorted list is a permutation of the list, whatever the comparison answers. -/
theorem perm_of_sort? {less : Comparison α} {items sorted : Array α}
    (h : sort? less items = some sorted) : sorted.toList.Perm items.toList := by
  simp only [sort?, Option.bind_eq_bind, Option.bind_eq_some_iff] at h
  obtain ⟨p, hp, h⟩ := h
  obtain ⟨hperm, hlength⟩ := perm_of_collect? (p := {}) (by omega) (Nat.zero_le _)
    (by simp [itemsOf]) (Nat.le_refl _) hp
  exact (perm_of_mergeAll? (by omega) h).trans hperm

end SlideContract.Sorting
