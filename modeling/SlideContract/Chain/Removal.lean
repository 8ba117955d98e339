import SlideContract.Scan.Balanced
import SlideContract.Text.Blank

/-!
# Removing calls

Every call of some given methods is cut out of a text, the first one first, until none is left.
Calls whose parentheses do not close stay.
-/

namespace SlideContract.Chain

/-- The number of characters from the dot that a text begins with to the opening parenthesis of a
call of one of the methods; blanks may stand around the name. More blanks before the name are tried
first, then the names in order. -/
def callOpening? (names : List (List Char)) (text : List Char) : Option Nat :=
  let after := text.drop 1
  let blanks := (after.takeWhile Text.isBlank).length
  (List.range (blanks + 1)).reverse.findSome? fun skipped =>
    names.findSome? fun name => do
      let rest ← Text.after? name (after.drop skipped)
      let gap := (rest.takeWhile Text.isBlank).length
      if (rest.drop gap).head? = some '(' then some (1 + skipped + name.length + gap) else none

/-- The length of the call of one of the methods that begins with the dot a text begins with. -/
def callLength? (names : List (List Char)) (text : List Char) : Option Nat := do
  let opening ← callOpening? names text
  let region ← Scan.regionLength? (text.drop opening)
  return opening + region

/-- The place and length of the first call of one of the methods. -/
def firstCall? (names : List (List Char)) (text : List Char) : Option (Nat × Nat) :=
  (Scan.walk text).findSome? fun v =>
    if v.outside && v.char == '.' then
      (callLength? names (text.drop v.index)).map fun length => (v.index, length)
    else none

theorem length_of_callLength? {names : List (List Char)} {text : List Char} {n : Nat}
    (h : callLength? names text = some n) : 0 < n := by
  simp only [callLength?, Option.bind_eq_bind, Option.bind_eq_some_iff, Option.pure_def,
    Option.some.injEq] at h
  obtain ⟨opening, h1, region, -, h3⟩ := h
  simp only [callOpening?] at h1
  obtain ⟨skipped, -, h4⟩ := List.exists_of_findSome?_eq_some h1
  obtain ⟨name, -, h5⟩ := List.exists_of_findSome?_eq_some h4
  simp only [Option.bind_eq_bind, Option.bind_eq_some_iff] at h5
  obtain ⟨rest, -, h6⟩ := h5
  split at h6
  · simp only [Option.some.injEq] at h6
    omega
  · simp at h6

/-- A call that is found lies in the text and is not empty. -/
theorem length_of_firstCall? {names : List (List Char)} {text : List Char} {start n : Nat}
    (h : firstCall? names text = some (start, n)) : start < text.length ∧ 0 < n := by
  obtain ⟨v, hv, h1⟩ := List.exists_of_findSome?_eq_some h
  split at h1
  · obtain ⟨m, h2, h3⟩ := Option.map_eq_some_iff.1 h1
    simp only [Prod.mk.injEq] at h3
    have hi := (Scan.index_of_mem_visits hv).2
    have hn := length_of_callLength? h2
    omega
  · simp at h1

/-- The text without the calls of the methods. -/
def removeCalls (names : List (List Char)) (text : List Char) : List Char :=
  match h : firstCall? names text with
  | none => text
  | some (start, length) =>
    have := length_of_firstCall? h
    removeCalls names (text.take start ++ text.drop (start + length))
  termination_by text.length
  decreasing_by
    simp only [List.length_append, List.length_take, List.length_drop]
    omega

/-- The text without the calls that set a default. -/
def withoutDefaults (text : List Char) : List Char := removeCalls ["default".toList] text

end SlideContract.Chain
