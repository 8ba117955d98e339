import SlideContract.Pattern.Basic

/-!
# Pieces of patterns

A sequence is read piece by piece. Alternatives that begin with the same leaves share these, and
alternatives that are single characters make a set.
-/

namespace SlideContract.Pattern

/-- A piece of a sequence: a leaf, or a pattern that is not looked into. -/
inductive Piece where
  | leaf (leaf : Leaf)
  | whole (pattern : Pattern)
  deriving DecidableEq, Repr

/-- The pattern of a piece. -/
def Piece.pattern : Piece → Pattern
  | .leaf l => .leaf l
  | .whole p => p

/-- The pieces in sequence. -/
def ofPieces : List Piece → Pattern
  | [] => .empty
  | piece :: rest => rest.foldl (fun p q => .sequence p q.pattern) piece.pattern

/-- The leaf that every alternative begins with. -/
def sharedLeaf? (alternatives : List (List Piece)) : Option Leaf :=
  match alternatives with
  | (.leaf l :: _) :: rest => if rest.all (·.head? == some (.leaf l)) then some l else none
  | _ => none

/-- The leaves that every alternative begins with, and the rests of the alternatives; at most
`fuel` leaves are looked at. -/
def splitShared : Nat → List (List Piece) → List Piece × List (List Piece)
  | 0, alternatives => ([], alternatives)
  | fuel + 1, alternatives =>
    match sharedLeaf? alternatives with
    | some l =>
      let (shared, rests) := splitShared fuel (alternatives.map (·.drop 1))
      (.leaf l :: shared, rests)
    | none => ([], alternatives)

/-- The set that an alternative is, if it is one and no complement. -/
def plainSet? : List Piece → Option CharSet
  | [.leaf (.char set)] => if set.negated then none else some set
  | _ => none

/-- The set of the alternatives, if they are sets. -/
def unionSet? (alternatives : List (List Piece)) : Option CharSet := do
  let sets ← alternatives.mapM plainSet?
  let first ← sets.head?
  return { items := (sets.flatMap (·.items)).eraseDups, fold := first.fold }

/-- The choice between patterns. If the last one is a choice itself, its alternatives are not those
of the whole. -/
def choiceOf : List Pattern → Pattern
  | [] => .empty
  | [p@(.choice ..)] => .apart p
  | [p] => p
  | p :: rest => .choice p (choiceOf rest)

/-- The pieces of several alternatives, or of the only one. -/
def joinAlternatives (alternatives : List (List Piece)) : List Piece :=
  match alternatives with
  | [pieces] => pieces
  | _ =>
    let (shared, rests) := splitShared (alternatives.flatten.length + 1) alternatives
    shared ++
      match unionSet? rests with
      | some set => [.leaf (.char set)]
      | none => [.whole (choiceOf (rests.map ofPieces))]

end SlideContract.Pattern
