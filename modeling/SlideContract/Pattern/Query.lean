import SlideContract.Pattern.Basic

/-!
# Queries

What a pattern begins with tells where it is worth trying: at places where a certain character
stands, or one of a set. The set knows the letters and digits of the alphabet of the whole pattern,
also where a part of the pattern has chosen another one.
-/

namespace SlideContract.Pattern

/-- The set is one character, in either case. -/
def CharSet.isCased (fold : Option Alphabet) (code : Nat) : Bool :=
  fold.any fun alphabet => alphabet.lower code != code || alphabet.upper code != code

/-- The only character of a set that is written without brackets and has no case to disregard. -/
def CharSet.literal? (s : CharSet) : Option Nat :=
  match s.items with
  | [.char code] =>
    if s.bracketed || s.negated || CharSet.isCased s.fold code then none else some code
  | _ => none

/-- A part of a set has no case to disregard. -/
def SetItem.isCaseless (fold : Option Alphabet) : SetItem → Bool
  | .char code => !CharSet.isCased fold code
  | .range first last =>
    fold.isNone || (last ≤ basicPlaneEnd &&
      (List.range (last + 1 - first)).all fun i => !CharSet.isCased fold (first + i))
  | .named .. => true

/-- A part of a set as an alphabet knows it. -/
def SetItem.inAlphabet (alphabet : Alphabet) : SetItem → SetItem
  | .named kind _ negated => .named kind alphabet negated
  | item => item

/-- A set that is written with brackets, as an alphabet knows it, if it has no case to disregard. -/
def CharSet.opening? (alphabet : Alphabet) (s : CharSet) : Option CharSet :=
  if s.bracketed && s.items.all (SetItem.isCaseless s.fold) then
    some { s with items := s.items.map (SetItem.inAlphabet alphabet), fold := none }
  else none

/-- The pattern begins with a literal character. It has no answer if it has no parts. -/
def beginsLiterally? : Pattern → Option Bool
  | .empty => none
  | .leaf (.char set) => some set.literal?.isSome
  | .sequence a b => a.beginsLiterally?.or b.beginsLiterally?
  | .group _ body | .apart body => body.beginsLiterally?
  | _ => some false

/-- The literal character that the first part of a sequence is. -/
def firstLiteral? : Pattern → Option Nat
  | .leaf (.char set) => set.literal?
  | .sequence a _ => a.firstLiteral?
  | _ => none

/-- The literal characters that alternatives begin with, if all of them do. -/
def firstLiterals? : Pattern → Option (List Nat)
  | .choice a b => do return (← a.firstLiteral?) :: (← b.firstLiterals?)
  | p => p.firstLiteral?.map ([·])

/-- The set of characters with which a match begins, as far as the first part of the pattern
tells. -/
def openingSet? (alphabet : Alphabet) : Pattern → Option CharSet
  | .leaf (.char set) => set.opening? alphabet
  | .sequence a _ | .group _ a | .apart a => a.openingSet? alphabet
  | p@(.choice ..) => p.firstLiterals?.map fun codes => { items := codes.map .char }
  | _ => none

/-- What is known of the character with which a match begins. -/
inductive Front where
  | unknown
  | literal
  | oneOf (set : CharSet)
  deriving DecidableEq, Repr

/-- A pattern to be searched for, with the least number of characters of a match and what is known
of its first one. -/
structure Query where
  pattern : Pattern
  least : Nat
  front : Front
  deriving DecidableEq, Repr

/-- The query for a pattern of a certain width in an alphabet. -/
def Query.ofPattern (p : Pattern) (width : Width) (alphabet : Alphabet) : Query where
  pattern := p
  least := width.least
  front :=
    if width.least = 0 then .unknown
    else if p.beginsLiterally? = some true then .literal
    else (p.openingSet? alphabet).elim .unknown .oneOf

end SlideContract.Pattern
