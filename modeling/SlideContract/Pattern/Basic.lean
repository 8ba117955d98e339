import SlideContract.Number.Basic
import SlideContract.Pattern.CharSet

/-!
# Patterns

A pattern describes pieces of text: sets of characters, sequences, choices, repetitions, groups
that are remembered, and conditions on what stands before or behind.
-/

namespace SlideContract

namespace Pattern

/-- Why a text is no pattern that can be used, or what ends a search. -/
inductive Fault where
  /-- The text breaks the rules for patterns. -/
  | malformed
  /-- A repetition is to make too many passes. -/
  | tooManyPasses
  /-- The number of passes has too many digits. -/
  | tooManyDigits (fault : TooManyDigits)
  /-- The whole pattern is to know two alphabets. -/
  | twoAlphabets
  /-- A group was found to begin behind its end. -/
  | crossedGroup
  deriving DecidableEq, Repr

/-- A condition on a place in a text. -/
inductive Place where
  | textStart
  | lineStart
  | textEnd
  | finalLineEnd
  | lineEnd
  | wordEdge (alphabet : Alphabet)
  | noWordEdge (alphabet : Alphabet)
  deriving DecidableEq, Repr

/-- A pattern without parts: a character of a set, any character, a condition on the place, or
what a group has matched, case aside if `fold` says by which alphabet. -/
inductive Leaf where
  | char (set : CharSet)
  | any (lineBreaks : Bool)
  | place (condition : Place)
  | sameAs (index : Nat) (fold : Option Alphabet)
  deriving DecidableEq, Repr

/-- How often a repetition tries: as often as it can, as seldom as it can, or as often as it can
without coming back to it. -/
inductive Eagerness where
  | most
  | least
  | final
  deriving DecidableEq, Repr

end Pattern

/-- A pattern. What stands `apart` is not looked into to find out what a match begins with. -/
inductive Pattern where
  | empty
  | leaf (leaf : Pattern.Leaf)
  | sequence (first second : Pattern)
  | choice (first second : Pattern)
  | group (index : Nat) (body : Pattern)
  | apart (body : Pattern)
  | given (index : Nat) (present absent : Pattern)
  | ahead (negated : Bool) (body : Pattern)
  | behind (negated : Bool) (width : Nat) (body : Pattern)
  | atomic (body : Pattern)
  | repeated (least : Nat) (most : Option Nat) (eagerness : Pattern.Eagerness) (body : Pattern)
  deriving DecidableEq, Repr, Inhabited

namespace Pattern

/-- The least and the greatest number of characters that a pattern takes; none if there is no
greatest. -/
structure Width where
  least : Nat
  most : Option Nat
  deriving DecidableEq, Repr

namespace Width

/-- The width of a pattern that takes `n` characters. -/
def exactly (n : Nat) : Width := ⟨n, some n⟩

/-- The width of two patterns in sequence. -/
def plus (a b : Width) : Width :=
  ⟨a.least + b.least, do return (← a.most) + (← b.most)⟩

/-- The width of either of two patterns. -/
def either (a b : Width) : Width :=
  ⟨min a.least b.least, do return max (← a.most) (← b.most)⟩

/-- The width of a number of passes. -/
def times (least : Nat) (most : Option Nat) (a : Width) : Width :=
  let greatest :=
    if a.most = some 0 ∨ most = some 0 then some 0 else do return (← most) * (← a.most)
  ⟨least * a.least, greatest⟩

end Width

/-- The width of a pattern, given that of the groups before it. -/
def width (groups : Nat → Width) : Pattern → Width
  | .empty | .leaf (.place _) | .ahead .. | .behind .. => .exactly 0
  | .leaf (.char _) | .leaf (.any _) => .exactly 1
  | .leaf (.sameAs index _) => groups index
  | .sequence a b => (a.width groups).plus (b.width groups)
  | .choice a b | .given _ a b => (a.width groups).either (b.width groups)
  | .group _ body | .apart body | .atomic body => body.width groups
  | .repeated least most _ body => (body.width groups).times least most

end Pattern
end SlideContract
