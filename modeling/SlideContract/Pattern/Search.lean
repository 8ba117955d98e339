import SlideContract.Pattern.Query

/-!
# Searching for patterns

A pattern is tried at the places of a text from left to right. At a place its parts are tried in
order, and what follows a part decides whether another way of matching it is tried.

Groups leave marks at the places where they begin and end. The marks outlive a try that fails: only
within a repetition are those of earlier groups set back before the next try, which matters to
references and conditions that come after it.
-/

namespace SlideContract.Pattern

/-- The places at which the groups passed so far have begun and ended last: those of group `n` stand
at `2 * n` and `2 * n + 1`. -/
abbrev Marks := List (Option Nat)

namespace Marks

/-- The marks with one of them set. -/
def put (marks : Marks) (index place : Nat) : Marks :=
  if index < marks.length then marks.set index (some place)
  else marks ++ List.replicate (index - marks.length) none ++ [some place]

/-- The marks as a group begins. -/
def opened (marks : Marks) (group place : Nat) : Marks := marks.put (2 * group) place

/-- The marks as a group ends. -/
def closed (marks : Marks) (group place : Nat) : Marks := marks.put (2 * group + 1) place

/-- The places at which a group has begun and ended last. -/
def ends? (marks : Marks) (group : Nat) : Option (Nat × Nat) := do
  return (← (← marks[2 * group]?), ← (← marks[2 * group + 1]?))

/-- The places between which a group has matched last. A group that has begun again and not ended
since has matched nothing, unless it has begun where it ended before. -/
def extent? (marks : Marks) (group : Nat) : Option (Nat × Nat) :=
  (marks.ends? group).filter fun (start, stop) => start ≤ stop

end Marks

/-- How a try ends: behind a match or nowhere, and the marks that it leaves. -/
structure Outcome where
  stop : Option Nat
  marks : Marks
  deriving DecidableEq, Repr

namespace Outcome

/-- The try ends nowhere. -/
def failed (marks : Marks) : Outcome := ⟨none, marks⟩

/-- A failed try from `marks` on is given up. Of the marks that it leaves, those of groups that were
not known before are dropped; those of the others are set back only if the try `restores` them. -/
def givenUp (restores : Bool) (marks : Marks) (o : Outcome) : Marks :=
  if restores then marks else o.marks.take marks.length

/-- A try from `marks` on and, once it has failed, another one. -/
def orElse (restores : Bool) (marks : Marks) (first : Outcome) (second : Marks → Outcome) :
    Outcome :=
  if first.stop.isSome then first else second (first.givenUp restores marks)

/-- A try, and what is tried from the place on at which it ends. -/
def andThen (first : Outcome) (second : Nat → Marks → Outcome) : Outcome :=
  match first.stop with
  | some place => second place first.marks
  | none => first

end Outcome

/-- A character of a word stands at a place. -/
def isWordAt (alphabet : Alphabet) (text : Array Char) (place : Nat) : Bool :=
  text[place]?.any (Class.word.holds alphabet)

/-- A word begins or ends at a place. -/
def isWordEdge (alphabet : Alphabet) (text : Array Char) (place : Nat) : Bool :=
  (0 < place && isWordAt alphabet text (place - 1)) != isWordAt alphabet text place

/-- The condition holds at a place. An empty text has no place that is no edge of a word. -/
def Place.holds (text : Array Char) (place : Nat) : Place → Bool
  | .textStart => place == 0
  | .lineStart => place == 0 || text[place - 1]? == some '\n'
  | .textEnd => place == text.size
  | .finalLineEnd =>
    place == text.size || (place + 1 == text.size && text[place]? == some '\n')
  | .lineEnd => place == text.size || text[place]? == some '\n'
  | .wordEdge alphabet => isWordEdge alphabet text place
  | .noWordEdge alphabet => !isWordEdge alphabet text place && !text.isEmpty

/-- The text goes on at `place` as it does at `start`, for `count` characters, case aside if so
wanted. -/
def goesOnAlike (fold : Option Alphabet) (text : Array Char) (start place : Nat) : Nat → Bool
  | 0 => true
  | count + 1 =>
    let lowered (i : Nat) : Option Nat :=
      text[i]?.map fun c => (fold.map (·.lower c.toNat)).getD c.toNat
    text[place]?.isSome && lowered start == lowered place &&
      goesOnAlike fold text (start + 1) (place + 1) count

/-- The way on from a place. -/
abbrev Way := Nat → Marks → Outcome

/-- The end of every way. -/
def arrive : Way := fun place marks => ⟨some place, marks⟩

/-- The test of a pattern that always takes one character. -/
def charTest? : Pattern → Option (Char → Bool)
  | .leaf (.char set) => some set.holds
  | .leaf (.any lineBreaks) => some fun c => lineBreaks || c != '\n'
  | .apart body => charTest? body
  | _ => none

/-- The place behind the longest run of at most `limit` characters that pass a test. -/
def runEnd (text : Array Char) (test : Char → Bool) : Nat → Nat → Nat
  | 0, place => place
  | limit + 1, place =>
    if text[place]?.any test then runEnd text test limit (place + 1) else place

/-- The way on from one of the `count + 1` places from `place` on, the last one first. -/
def fromLast (within : Bool) (next : Way) (place : Nat) : Nat → Marks → Outcome
  | 0, marks => (next place marks).orElse within marks .failed
  | count + 1, marks =>
    (next (place + count + 1) marks).orElse within marks (fromLast within next place count)

/-- The way on from one of the `count + 1` places from `place` on, the first one first. -/
def fromFirst (within : Bool) (next : Way) (place : Nat) : Nat → Marks → Outcome
  | 0, marks => (next place marks).orElse within marks .failed
  | count + 1, marks =>
    (next place marks).orElse within marks (fromFirst within next (place + 1) count)

/-- The way through a run of characters that pass a test, and on. -/
def throughRun (text : Array Char) (test : Char → Bool) (within : Bool) (least : Nat)
    (most : Option Nat) (eagerness : Eagerness) (next : Way) : Way := fun place marks =>
  let left := text.size - place
  let count := runEnd text test (min left (most.getD left)) place - place
  if count < least then .failed marks
  else
    match eagerness with
    | .most => fromLast within next (place + least) (count - least) marks
    | .least => fromFirst within next (place + least) (count - least) marks
    | .final => next (place + count) marks

/-- A further pass may be tried after `count` passes, the last optional one of which began at
`last`: the greatest number is not reached, and that pass has taken something. -/
def mayGoOn (most : Option Nat) (count : Nat) (last : Option Nat) (place : Nat) : Bool :=
  most.all (count < ·) && last != some place

/-- The way through passes of a body and on, with as many passes as possible. -/
def passMost (body : Way → Way) (least : Nat) (most : Option Nat) (next : Way) :
    Nat → Nat → Option Nat → Way
  | 0, _, _, _, marks => .failed marks
  | fuel + 1, count, last, place, marks =>
    if count < least then
      body (passMost body least most next fuel (count + 1) last) place marks
    else if mayGoOn most count last place then
      (body (passMost body least most next fuel (count + 1) (some place)) place marks).orElse
        true marks (next place)
    else next place marks

/-- The way through passes of a body and on, with as few passes as possible. -/
def passLeast (body : Way → Way) (within : Bool) (least : Nat) (most : Option Nat) (next : Way) :
    Nat → Nat → Option Nat → Way
  | 0, _, _, _, marks => .failed marks
  | fuel + 1, count, last, place, marks =>
    if count < least then
      body (passLeast body within least most next fuel (count + 1) last) place marks
    else
      (next place marks).orElse within marks fun marks =>
        if mayGoOn most count last place then
          body (passLeast body within least most next fuel (count + 1) (some place)) place marks
        else .failed marks

/-- The way through passes of a body, each of which is settled before the next one. -/
def passFinal (body : Way) (least : Nat) (most : Option Nat) : Nat → Nat → Option Nat → Way
  | 0, _, _, _, marks => .failed marks
  | fuel + 1, count, last, place, marks =>
    if count < least then
      (body place marks).andThen (passFinal body least most fuel (count + 1) last)
    else if mayGoOn most count last place then
      let pass := body place marks
      if pass.stop.isSome then
        pass.andThen (passFinal body least most fuel (count + 1) (some place))
      else arrive place marks
    else arrive place marks

/-- The way through a leaf and on. -/
def throughLeaf (text : Array Char) (next : Way) (place : Nat) (marks : Marks) : Leaf → Outcome
  | .char set => if text[place]?.any set.holds then next (place + 1) marks else .failed marks
  | .any lineBreaks =>
    if text[place]?.any (fun c => lineBreaks || c != '\n') then next (place + 1) marks
    else .failed marks
  | .place condition => if condition.holds text place then next place marks else .failed marks
  | .sameAs index fold =>
    match marks.extent? index with
    | some (start, stop) =>
      if goesOnAlike fold text start place (stop - start) then next (place + (stop - start)) marks
      else .failed marks
    | none => .failed marks

/-- The way through a pattern, which may stand `within` a repetition, and on. -/
def through (text : Array Char) (within : Bool) : Pattern → Way → Way
  | .empty, next, place, marks => next place marks
  | .leaf l, next, place, marks => throughLeaf text next place marks l
  | .sequence a b, next, place, marks =>
    through text within a (through text within b next) place marks
  | .choice a b, next, place, marks =>
    (through text within a next place marks).orElse within marks fun marks =>
      (through text within b next place marks).orElse within marks .failed
  | .group index body, next, place, marks =>
    through text within body (fun stop marks => next stop (marks.closed index stop)) place
      (marks.opened index place)
  | .apart body, next, place, marks => through text within body next place marks
  | .given index present absent, next, place, marks =>
    if (marks.extent? index).isSome then through text within present next place marks
    else through text within absent next place marks
  | .ahead false body, next, place, marks =>
    (through text within body arrive place marks).andThen fun _ => next place
  | .ahead true body, next, place, marks =>
    let found := through text within body arrive place marks
    if found.stop.isSome then .failed found.marks else next place (found.givenUp within marks)
  | .behind false width body, next, place, marks =>
    if width ≤ place then
      (through text within body arrive (place - width) marks).andThen fun _ => next place
    else .failed marks
  | .behind true width body, next, place, marks =>
    if width ≤ place then
      let found := through text within body arrive (place - width) marks
      if found.stop.isSome then .failed found.marks else next place (found.givenUp within marks)
    else next place marks
  | .atomic body, next, place, marks =>
    (through text within body arrive place marks).andThen next
  | .repeated least most eagerness body, next, place, marks =>
    match charTest? body with
    | some test => throughRun text test within least most eagerness next place marks
    | none =>
      let fuel := least + (text.size - place) + 2
      match eagerness with
      | .most => passMost (through text true body) least most next fuel 0 none place marks
      | .least => passLeast (through text true body) within least most next fuel 0 none place marks
      | .final =>
        let pass := through text within body arrive
        (passFinal pass least most fuel 0 none place marks).andThen next

/-- Where the pattern matches at a place of a text, and the marks of its groups. -/
def matchAt? (p : Pattern) (text : Array Char) (place : Nat) : Option (Nat × Marks) :=
  let found := through text false p arrive place []
  found.stop.map (·, found.marks)

/-- The places of a text at which the pattern of a query is tried. A text that is shorter than the
least width has none. Otherwise, unless the front is known, they are one place more than those
behind which a match of that width has room. -/
def Query.places (q : Query) (text : Array Char) : List Nat :=
  if text.size < q.least then []
  else
    match q.front with
    | .unknown => List.range (text.size + 1 - (q.least - 1))
    | .literal => List.range (text.size + 1)
    | .oneOf set =>
      (List.range (text.size + 1 - q.least)).filter fun place => text[place]?.any set.holds

/-- Where a query finds the first match in a text: the places at which it begins and ends, and the
marks of its groups. -/
def Query.find? (q : Query) (text : Array Char) : Option (Nat × Nat × Marks) :=
  (q.places text).findSome? fun place => (q.pattern.matchAt? text place).map (place, ·)

/-- A query finds a match in a text. A match with a group that has begun behind its end is no
answer. -/
def Query.foundIn (q : Query) (text : List Char) : Except Fault Bool :=
  match q.find? text.toArray with
  | none => .ok false
  | some (_, _, marks) =>
    let isCrossed (group : Nat) : Bool := (marks.ends? group).any fun (start, stop) => stop < start
    if (List.range marks.length).any isCrossed then .error .crossedGroup else .ok true

end SlideContract.Pattern
