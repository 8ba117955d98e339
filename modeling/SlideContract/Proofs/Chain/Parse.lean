import SlideContract.Chain.Basic
import SlideContract.Proofs.Scan.Reach
import SlideContract.Proofs.Text.Name

/-!
# Parsing spelled chains

A chain that is spelled as names with argument lists, blanks around each part, is parsed into these
names and lists, if each list is closed where its text ends.

* `Enclosed`, `enclosed_of_balanced`: the texts of argument lists;
* `part?_called`, `part?_bare`: a name at the front, with or without a list, is the first part;
* `parts?_dot`: what stands behind a dot is the next part.
-/

namespace SlideContract.Chain
open Scan Text

/-- A text of blanks. -/
def Blanks (text : List Char) : Prop := ∀ c ∈ text, isBlank c = true

lemma blanks_nil : Blanks [] := fun _ h => absurd h List.not_mem_nil

lemma Blanks.cons {c : Char} {blanks : List Char} (hc : isBlank c = true) (h : Blanks blanks) :
    Blanks (c :: blanks) :=
  List.forall_mem_cons.2 ⟨hc, h⟩

lemma Blanks.append {blanks more : List Char} (h : Blanks blanks) (hmore : Blanks more) :
    Blanks (blanks ++ more) :=
  List.forall_mem_append.2 ⟨h, hmore⟩

lemma Blanks.not_mem_marks {blanks : List Char} (h : Blanks blanks) : ∀ c ∈ blanks, c ∉ marks :=
  fun c hc => not_mem_marks_of_isBlank (h c hc)

lemma not_mem_marks_of_isIdentifier {name : List Char} (h : IsIdentifier name) :
    ∀ c ∈ name, c ∉ marks :=
  fun c hc => not_mem_marks_of_isNameChar (h.isNameChar c hc)

variable {before after name gap args rest : List Char}

/-- A name is read up to what does not go on with it. -/
lemma identifier?_append (hname : IsIdentifier name) (hrest : EndsName rest) :
    identifier? (name ++ rest) = some (name, rest) := by
  obtain ⟨c, cs, rfl, hstart, hchars⟩ := hname
  have htake : (cs ++ rest).takeWhile isNameChar = cs := by
    rw [List.takeWhile_append_of_pos hchars]
    cases rest with
    | nil => simp
    | cons d rest => simp [hrest d rfl]
  have hdrop : (cs ++ rest).dropWhile isNameChar = rest := by
    rw [List.dropWhile_append_of_pos hchars]
    cases rest with
    | nil => rfl
    | cons d rest => rw [List.dropWhile_cons, hrest d rfl]; rfl
  rw [List.cons_append, identifier?, if_pos hstart, htake, hdrop]

/-- Between parentheses the text ends where they are closed. -/
def Enclosed (args : List Char) : Prop :=
  regionLength? ('(' :: (args ++ [')'])) = some (args.length + 2)

lemma enclosed_of_balanced (hargs : Balanced args) : Enclosed args :=
  regionLength?_bracket rfl hargs.commented []

/-- What stands behind the parenthesis that closes a list does not matter. -/
lemma enclosed_iff (rest : List Char) :
    Enclosed args ↔ regionLength? ('(' :: (args ++ ')' :: rest)) = some (args.length + 2) := by
  constructor
  · intro h
    have hmore := @regionLength?_append_of_some _ rest _ h
    rwa [List.cons_append, List.append_assoc] at hmore
  · intro h
    obtain ⟨inner, behind, hsplit, hlength, hmore⟩ := regionLength?_through rfl h
    obtain ⟨rfl, -⟩ := List.append_inj hsplit (Nat.add_right_cancel hlength)
    exact hmore []

/-- An argument list is read up to its end. -/
lemma arguments?_called (hargs : Enclosed args) (rest : List Char) :
    arguments? ('(' :: (args ++ ')' :: rest)) = some (some args, rest) := by
  have hregion := (enclosed_iff rest).1 hargs
  have htake : (args ++ ')' :: rest).take (args.length + 2 - 2) = args := by
    rw [Nat.add_sub_cancel, List.take_left]
  have hdrop : ('(' :: (args ++ ')' :: rest)).drop (args.length + 2) = rest := by
    show (args ++ ')' :: rest).drop (args.length + 1) = rest
    rw [← List.drop_drop, List.drop_left]
    rfl
  unfold arguments?
  rw [if_pos List.head?_cons, hregion, Option.map_some, List.drop_one, List.tail_cons, htake, hdrop]

/-- What opens an argument list goes on with no name and is no blank. -/
lemma endsName_paren (text : List Char) : EndsName ('(' :: text) :=
  endsName_of_isSeparator (by decide) text

lemma endsName_dot (text : List Char) : EndsName ('.' :: text) :=
  endsName_of_isSeparator (by decide) text

/-- A name with its argument list is read as a call. -/
lemma part?_called (hname : IsIdentifier name) (hgap : Blanks gap) (hargs : Enclosed args)
    (rest : List Char) :
    part? (name ++ (gap ++ '(' :: (args ++ ')' :: rest)))
      = some (⟨String.ofList name, some args⟩, dropBlanks rest) := by
  have hends : EndsName (gap ++ '(' :: (args ++ ')' :: rest)) :=
    endsName_append hgap (endsName_paren _)
  have hdrop : dropBlanks (gap ++ '(' :: (args ++ ')' :: rest)) = '(' :: (args ++ ')' :: rest) := by
    rw [dropBlanks_append hgap]
    rfl
  unfold part?
  rw [identifier?_append hname hends]
  simp only [Option.bind_eq_bind, Option.bind_some, hdrop, arguments?_called hargs, Option.pure_def]

/-- A name before something else than an argument list is read as it stands. -/
lemma part?_bare (hname : IsIdentifier name) (hends : EndsName rest)
    (hrest : (dropBlanks rest).head? ≠ some '(') :
    part? (name ++ rest) = some (⟨String.ofList name, none⟩, dropBlanks (dropBlanks rest)) := by
  unfold part? arguments?
  rw [identifier?_append hname hends]
  simp only [Option.bind_eq_bind, Option.bind_some, if_neg hrest, Option.pure_def]

lemma dropBlanks_dropBlanks (text : List Char) :
    dropBlanks (dropBlanks text) = dropBlanks text :=
  dropBlanks_of_starts (starts_dropBlanks text)

@[simp] lemma parts?_nil : parts? [] = some [] := by
  unfold parts?
  rfl

/-- A part behind a dot comes before the parts that follow it. -/
lemma parts?_dot {call : Call} {left : List Char} (hbefore : Blanks before)
    (hpart : part? (dropBlanks rest) = some (call, left)) :
    parts? (before ++ '.' :: rest) = (parts? left).map (call :: ·) := by
  have hdrop : dropBlanks (before ++ '.' :: rest) = '.' :: rest := by
    rw [dropBlanks_append hbefore]
    rfl
  generalize hwhole : before ++ '.' :: rest = whole at hdrop
  cases whole with
  | nil => simp at hwhole
  | cons c cs =>
    -- only the equation for a part that is read applies; the others contradict `hdrop` or `hpart`
    conv_lhs => unfold parts?
    split
    · rename_i more heq
      rw [hdrop] at heq
      obtain ⟨-, rfl⟩ := List.cons.inj heq
      split
      · rename_i call' left' hpart'
        rw [hpart] at hpart'
        obtain ⟨rfl, rfl⟩ := Prod.mk.inj (Option.some.inj hpart')
        rfl
      · rename_i hnone
        rw [hpart] at hnone
        exact absurd hnone (by simp)
    · rename_i hno
      exact absurd hdrop (hno rest)

end SlideContract.Chain
