import Mathlib.Tactic.Common
import SlideContract.Text.Blank

/-!
# Blanks at the ends

Clearing a text of blanks leaves it as it is where there are none, and takes blanks away where they
stand.
-/

namespace SlideContract.Text

/-- The text does not begin with a blank. -/
def Starts (text : List Char) : Prop := ∀ c ∈ text.head?, isBlank c = false

/-- The text does not end with a blank. -/
def Stops (text : List Char) : Prop := ∀ c ∈ text.getLast?, isBlank c = false

/-- The first character decides. -/
lemma starts_cons {c : Char} (h : isBlank c = false) (text : List Char) : Starts (c :: text) := by
  intro d hd
  rw [← Option.some.inj (show some c = some d from hd)]
  exact h

/-- The last character decides. -/
lemma stops_of_getLast? {c : Char} {text : List Char} (hlast : text.getLast? = some c)
    (h : isBlank c = false) : Stops text := by
  intro d hd
  rw [Option.mem_def, hlast, Option.some.injEq] at hd
  rw [← hd]
  exact h

/-- A text between two characters. -/
lemma stops_between {closer : Char} (h : isBlank closer = false) (opener : Char)
    (text : List Char) : Stops (opener :: (text ++ [closer])) := by
  rw [← List.cons_append]
  exact stops_of_getLast? List.getLast?_concat h

/-- What stands in front does not matter for the end. -/
lemma Stops.append {more : List Char} (h : Stops more) (hne : more ≠ []) (text : List Char) :
    Stops (text ++ more) := by
  intro c hc
  rw [List.getLast?_append, List.getLast?_eq_some_getLast hne] at hc
  apply h c
  rw [List.getLast?_eq_some_getLast hne]
  exact hc

lemma Starts.append {text : List Char} (h : Starts text) (hne : text ≠ []) (more : List Char) :
    Starts (text ++ more) := by
  cases text with
  | nil => exact absurd rfl hne
  | cons c rest => exact h

lemma dropBlanks_of_starts {text : List Char} (h : Starts text) : dropBlanks text = text := by
  cases text with
  | nil => rfl
  | cons c rest =>
    have hc := h c rfl
    unfold dropBlanks
    rw [List.dropWhile_cons, hc]
    rfl

lemma starts_dropBlanks (text : List Char) : Starts (dropBlanks text) := by
  intro c hc
  unfold dropBlanks at hc
  have hdrop := List.head?_dropWhile_not isBlank text
  rw [Option.mem_def] at hc
  rw [hc] at hdrop
  simpa using hdrop

lemma dropTrailingBlanks_of_stops {text : List Char} (h : Stops text) :
    dropTrailingBlanks text = text := by
  have hreverse : Starts text.reverse := by
    intro c hc
    rw [List.head?_reverse] at hc
    exact h c hc
  unfold dropTrailingBlanks
  rw [dropBlanks_of_starts hreverse, List.reverse_reverse]

/-- A text without blanks at its ends is trimmed already. -/
lemma trim_of_starts_stops {text : List Char} (hstarts : Starts text) (hstops : Stops text) :
    trim text = text := by
  unfold trim
  rw [dropBlanks_of_starts hstarts, dropTrailingBlanks_of_stops hstops]

/-- Blanks before a text are dropped with those it begins with. -/
lemma dropBlanks_append {blanks : List Char} (h : ∀ c ∈ blanks, isBlank c = true)
    (text : List Char) : dropBlanks (blanks ++ text) = dropBlanks text := by
  unfold dropBlanks
  rw [List.dropWhile_append_of_pos h]

lemma stops_dropTrailingBlanks (text : List Char) : Stops (dropTrailingBlanks text) := by
  intro c hc
  unfold dropTrailingBlanks at hc
  rw [List.getLast?_reverse] at hc
  exact starts_dropBlanks _ c hc

/-- Trimming leaves no blanks at the ends. -/
lemma trim_ends (text : List Char) : Starts (trim text) ∧ Stops (trim text) := by
  refine ⟨?_, stops_dropTrailingBlanks _⟩
  intro c hc
  have hsuffix := @List.dropWhile_suffix _ (dropBlanks text).reverse isBlank
  obtain ⟨blanks, hblanks⟩ := hsuffix
  have hreverse := congrArg List.reverse hblanks
  rw [List.reverse_append, List.reverse_reverse] at hreverse
  have hfront : trim text ++ blanks.reverse = dropBlanks text := hreverse
  apply starts_dropBlanks text c
  rw [← hfront, List.head?_append, Option.mem_def.1 hc]
  rfl

lemma trim_trim (text : List Char) : trim (trim text) = trim text :=
  trim_of_starts_stops (trim_ends text).1 (trim_ends text).2

lemma sublist_dropBlanks (text : List Char) : (dropBlanks text).Sublist text :=
  List.dropWhile_sublist _

/-- Trimming puts nothing in. -/
lemma sublist_trim (text : List Char) : (trim text).Sublist text := by
  have hfront := sublist_dropBlanks text
  have hback := (sublist_dropBlanks (dropBlanks text).reverse).reverse
  rw [List.reverse_reverse] at hback
  exact hback.trans hfront

end SlideContract.Text
