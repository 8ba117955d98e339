import SlideContract.Pattern.Escape
import SlideContract.Pattern.Piece
import SlideContract.Text.Blank
import SlideContract.Text.Identifier

/-!
# Reading patterns

A pattern is read from its text; a text that is no pattern is refused. Besides characters, sets and
classes there are groups with numbers and names, references to them and conditions on them,
conditions on the text ahead and behind, repetitions in three degrees of eagerness, and switches
that hold for a group or, at the very start, for the whole.
-/

namespace SlideContract.Pattern

/-- A part of a sequence that was read, and whether it may be repeated. A group that is not
remembered gives its own pieces to the sequence. -/
structure Part where
  pieces : List Piece
  repeatable : Bool := true

/-- The part of a single leaf; a condition on the place may not be repeated. -/
def Part.ofLeaf (leaf : Leaf) : Part :=
  { pieces := [.leaf leaf]
    repeatable :=
      match leaf with
      | .place _ => false
      | _ => true }

/-- The part of a pattern. -/
def Part.ofPattern (p : Pattern) : Part := { pieces := [.whole p] }

/-- The pieces of parts that were read, the latest first. -/
def piecesOf (parts : List Part) : List Piece := parts.reverse.flatMap (·.pieces)

/-- What a letter switches. -/
inductive Switch where
  | anyCase
  | lines
  | dotAll
  | spaced
  | alphabet (alphabet : Alphabet)
  | unrepeated
  deriving DecidableEq, Repr

/-- The switch of a letter. -/
def switchOf? : Char → Option Switch
  | 'i' => some .anyCase
  | 'm' => some .lines
  | 's' => some .dotAll
  | 'x' => some .spaced
  | 'a' => some (.alphabet .ascii)
  | 'u' => some (.alphabet .unicode)
  | 't' => some .unrepeated
  | _ => none

/-- The switches with one of them turned on or off. -/
def Switches.turn (on : Bool) (switches : Switches) : Switch → Switches
  | .anyCase => { switches with anyCase := on }
  | .lines => { switches with lines := on }
  | .dotAll => { switches with dotAll := on }
  | .spaced => { switches with spaced := on }
  | .alphabet a => { switches with alphabet := a }
  | .unrepeated => switches

/-- The alphabet that a switch chooses, if it is one that does. -/
def Switch.alphabet? : Switch → Option Alphabet
  | .alphabet a => some a
  | _ => none

/-- The number of passes that starts at `least` and goes up to `most`, how it is asked for, and what
follows it. -/
structure Counts where
  least : List Char
  most : Option (List Char)
  rest : List Sign

/-- The digits at the front of some signs, and what follows them. -/
def digitsFront (signs : List Sign) : List Char × List Sign :=
  let digits := Reading.plainFront Char.isDigit signs.length signs
  (digits, signs.drop digits.length)

/-- The digits between an opening brace, which is read already, and the closing one; none if
something else stands there. A single number is the least and the greatest, and the numbers beside a
comma may be left out. -/
def countsOf? (signs : List Sign) : Option Counts :=
  let (least, rest) := digitsFront signs
  match rest with
  | .plain ',' :: rest =>
    let (most, rest) := digitsFront rest
    match rest with
    | .plain '\x7d' :: rest => some ⟨least, if most.isEmpty then none else some most, rest⟩
    | _ => none
  | .plain '\x7d' :: rest => if least.isEmpty then none else some ⟨least, some least, rest⟩
  | _ => none

/-- One more than the greatest number of passes that can be asked for. -/
def passLimit : Nat := 4294967295

/-- The greatest width of a condition on the text behind. -/
def behindLimit : Nat := 4294967295

/-- One more than the greatest number of a group that can be asked for. -/
def groupLimit : Nat := 1073741823

/-- The digits of the number of a group, with blanks around it, a plus before it and single
underscores inside it. -/
def groupDigits? (name : List Char) : Option (List Char) :=
  let name := Text.trimOuter name
  let name := if name.head? = some '+' then name.drop 1 else name
  let parts := Text.pieces (· == '_') name
  if parts.all fun part => !part.isEmpty && part.all Text.isDigit then some parts.flatten else none

namespace Reading

/-- The number of passes that some digits write. -/
def passCount (digits : List Char) : Reading Nat := do
  match readNat digits with
  | .error fault => throw (.tooManyDigits fault)
  | .ok n => if passLimit ≤ n then throw .tooManyPasses else return n

/-- The numbers of passes behind the sign `c`; none if the sign asks for no repetition. -/
def passCounts? (c : Char) : Reading (Option (Nat × Option Nat)) := do
  match c with
  | '*' => return some (0, none)
  | '+' => return some (1, none)
  | '?' => return some (0, some 1)
  | '\x7b' =>
    match countsOf? (← get).signs with
    | none => return none
    | some counts =>
      goOn counts.rest
      let least ← if counts.least.isEmpty then pure 0 else passCount counts.least
      match counts.most with
      | none => return some (least, none)
      | some digits =>
        let most ← passCount digits
        if most < least then malformed else return some (least, some most)
  | _ => return none

/-- The eagerness that is written behind the number of passes. -/
def eagerness : Reading Eagerness := do
  if ← skips '?' then return .least
  else if ← skips '+' then return .final
  else return .most

/-- The parts with the last one repeated. -/
def repeatLast (least : Nat) (most : Option Nat) (parts : List Part) : Reading (List Part) := do
  match parts with
  | last :: earlier =>
    unless last.repeatable do malformed
    let eagerness ← eagerness
    modify fun source => { source with refused := source.refused || source.unrepeated }
    let p := .repeated least most eagerness (ofPieces last.pieces)
    return { Part.ofPattern p with repeatable := false } :: earlier
  | [] => malformed

/-- One character or class of a set, which begins with the given sign. -/
def setItem : Sign → Reading SetItem
  | .plain c => return .char c.toNat
  | .escaped c => setEscape c

/-- The range between two parts of a set, which have to be characters in order. -/
def rangeBetween : SetItem → SetItem → Reading SetItem
  | .char first, .char last => if last < first then malformed else return .range first last
  | _, _ => malformed

/-- The parts of a set up to its closing bracket, which may itself be the first part. -/
def setItems : Nat → Bool → Reading (List SetItem)
  | 0, _ => malformed
  | fuel + 1, isFirst => do
    let sign ← takeSign
    if sign = .plain ']' ∧ !isFirst then return []
    else
      let item ← setItem sign
      if ← skips '-' then
        let sign ← takeSign
        if sign = .plain ']' then return [item, .char '-'.toNat]
        else
          let range ← rangeBetween item (← setItem sign)
          return range :: (← setItems fuel false)
      else return item :: (← setItems fuel false)

/-- The set behind an opening bracket. A single character makes no difference to one without
brackets. -/
def setLeaf : Reading Leaf := do
  let negated ← skips '^'
  let items := (← setItems ((← get).signs.length + 1) true).eraseDups
  let bracketed :=
    match items with
    | [.char _] => false
    | _ => true
  return .char { items, negated, bracketed, fold := (← get).switches.fold }

/-- The switches whose letters come next, the first of which is given, and the mark that ends
them. -/
def switchesFrom (isEnd : Char → Bool) : Nat → Sign → Reading (List Switch × Char)
  | 0, _ => malformed
  | fuel + 1, sign => do
    match sign with
    | .escaped _ => malformed
    | .plain c =>
      match switchOf? c with
      | none => malformed
      | some switch =>
        match ← takeSign with
        | .plain mark =>
          if isEnd mark then return ([switch], mark)
          else
            let (others, mark) ← switchesFrom isEnd fuel (.plain mark)
            return (switch :: others, mark)
        | .escaped _ => malformed

/-- The switches that letters turn on and off, the first of which or a minus is given, and whether
they are for the whole pattern. At most one alphabet is chosen, no switch is both turned on and off,
and an alphabet is not turned off. -/
def switchSets (c : Char) : Reading (List Switch × List Switch × Bool) := do
  let fuel := (← get).signs.length + 1
  let (on, mark) ←
    if c = '-' then pure ([], '-')
    else switchesFrom (fun c => c = ')' || c = '-' || c = ':') fuel (.plain c)
  if 1 < (on.filterMap Switch.alphabet?).eraseDups.length then malformed
  else if mark = ')' then return (on, [], true)
  else if on.contains .unrepeated then malformed
  else
    let off ←
      if mark = '-' then
        pure (← switchesFrom (· = ':') fuel (← takeSign)).1
      else pure []
    if off.any (fun s => s.alphabet?.isSome || s = .unrepeated || on.contains s) then malformed
    else return (on, off, false)

/-- Turns switches on for the whole pattern. -/
def turnForAll (on : List Switch) : Reading Unit :=
  modify fun source =>
    { source with
      switches := on.foldl (Switches.turn true) source.switches
      alphabets := source.alphabets ++ on.filterMap Switch.alphabet?
      unrepeated := source.unrepeated || on.contains .unrepeated }

/-- The name of a group, which is an identifier, up to a closing mark. -/
def groupName (close : Char) : Reading String := do
  let name ← takeUntil close
  if Text.isIdentifier name then return String.ofList name else malformed

/-- Opens the next group, which may have a name that no other group has. -/
def openGroup (name : Option String) : Reading Nat := do
  let source ← get
  let index := source.opened + 1
  match name with
  | some name =>
    if (source.names.lookup name).isSome then malformed
    else set { source with opened := index, names := (name, index) :: source.names }
  | none => set { source with opened := index }
  return index

/-- Closes a group with the given body. -/
def closeGroup (index : Nat) (body : Pattern) : Reading Unit :=
  modify fun source =>
    { source with widths := (index, body.width source.widthOf) :: source.widths }

/-- The group that a condition asks for, by its name or its number. A number may belong to a group
that comes later. -/
def askedGroup : Reading Nat := do
  let name ← takeUntil ')'
  let index ←
    if Text.isIdentifier name then
      match (← get).names.lookup (String.ofList name) with
      | some index => pure index
      | none => malformed
    else
      match (groupDigits? name).map readNat with
      | some (.ok index) =>
        if index = 0 ∨ groupLimit ≤ index then malformed
        else
          modify fun source => { source with asked := index :: source.asked }
          pure index
      | _ => malformed
  if (← get).isBefore index then return index else malformed

/-- The condition on the text behind a place that a body describes. A body whose width is not
settled or too great is refused later. -/
def behindPart (negated : Bool) (body : Pattern) : Reading Part := do
  let source ← get
  let width := body.width source.widthOf
  if behindLimit < width.least ∨ width.most ≠ some width.least then
    set { source with refused := true }
  return .ofPattern (.behind negated width.least body)

/-- Reads inside a condition on the text behind. -/
def readBehind {α : Type} (read : Reading α) : Reading α := do
  let openedBefore := (← get).openedBefore
  modify fun source => { source with openedBefore := openedBefore.or (some source.opened) }
  let a ← read
  modify fun source => { source with openedBefore }
  return a

mutual

/-- The alternatives up to a closing parenthesis or the end. -/
def alternatives : Nat → Bool → Reading (List (List Piece))
  | 0, _ => malformed
  | fuel + 1, isTop => do
    let first ← sequenceAfter fuel isTop []
    if ← skips '|' then return first :: (← alternatives fuel false)
    else return [first]

/-- The pieces of the sequence that goes on behind the given parts, the latest first. Switches for
the whole pattern may stand only at the front of it. -/
def sequenceAfter : Nat → Bool → List Part → Reading (List Piece)
  | 0, _, _ => malformed
  | fuel + 1, isTop, parts => do
    let next ← next?
    if next = none ∨ next = some (.plain '|') ∨ next = some (.plain ')') then
      return piecesOf parts
    else
      let switches := (← get).switches
      match ← takeSign with
      | .escaped c => sequenceAfter fuel isTop (.ofLeaf (← escapeLeaf c) :: parts)
      | .plain c =>
        if switches.spaced ∧ Class.blank.holds .ascii c then sequenceAfter fuel isTop parts
        else if switches.spaced ∧ c = '#' then
          skipLine
          sequenceAfter fuel isTop parts
        else if c = '[' then sequenceAfter fuel isTop (.ofLeaf (← setLeaf) :: parts)
        else if c = '.' then
          sequenceAfter fuel isTop (.ofLeaf (.any switches.dotAll) :: parts)
        else if c = '^' then
          let condition := if switches.lines then .lineStart else .textStart
          sequenceAfter fuel isTop (.ofLeaf (.place condition) :: parts)
        else if c = '$' then
          let condition := if switches.lines then .lineEnd else .finalLineEnd
          sequenceAfter fuel isTop (.ofLeaf (.place condition) :: parts)
        else if c = '(' then
          match ← group fuel (isTop && parts.isEmpty) with
          | some part => sequenceAfter fuel isTop (part :: parts)
          | none => sequenceAfter fuel isTop parts
        else
          match ← passCounts? c with
          | some (least, most) =>
            sequenceAfter fuel isTop (← repeatLast least most parts)
          | none => sequenceAfter fuel isTop (.ofLeaf (← charLeaf c.toNat) :: parts)

/-- The alternatives up to a closing parenthesis, and the parenthesis. -/
def inside : Nat → Reading (List Piece)
  | 0 => malformed
  | fuel + 1 => do
    let pieces := joinAlternatives (← alternatives fuel false)
    expect ')'
    return pieces

/-- The rest of a group that is remembered, under a name if it has one. -/
def numberedGroup : Nat → Option String → Reading Part
  | 0, _ => malformed
  | fuel + 1, name => do
    let index ← openGroup name
    let body := ofPieces (← inside fuel)
    closeGroup index body
    return .ofPattern (.group index body)

/-- The rest of a condition on a group, behind its number or name. -/
def givenGroup : Nat → Nat → Reading Part
  | 0, _ => malformed
  | fuel + 1, index => do
    let present := ofPieces (← sequenceAfter fuel false [])
    let absent ←
      if ← skips '|' then pure (ofPieces (← sequenceAfter fuel false []))
      else pure .empty
    expect ')'
    return .ofPattern (.given index present absent)

/-- The rest of a group for which switches are turned on and off, which stays a piece of its own. -/
def switchedGroup : Nat → List Switch → List Switch → Reading Part
  | 0, _, _ => malformed
  | fuel + 1, on, off => keepSwitches do
    modify fun source =>
      let switches := on.foldl (Switches.turn true) source.switches
      { source with switches := off.foldl (Switches.turn false) switches }
    return .ofPattern (.apart (ofPieces (← inside fuel)))

/-- What follows an opening parenthesis: a part, or a remark or switches, which are none. -/
def group : Nat → Bool → Reading (Option Part)
  | 0, _ => malformed
  | fuel + 1, isFirst => do
    if ← skips '?' then
      match ← takeSign with
      | .escaped _ => malformed
      | .plain ':' => return some { pieces := ← inside fuel }
      | .plain '>' => return some (.ofPattern (.atomic (ofPieces (← inside fuel))))
      | .plain '=' => return some (.ofPattern (.ahead false (ofPieces (← inside fuel))))
      | .plain '!' => return some (.ofPattern (.ahead true (ofPieces (← inside fuel))))
      | .plain '#' =>
        skipPast ')'
        return none
      | .plain '(' => return some (← givenGroup fuel (← askedGroup))
      | .plain '<' =>
        let sign ← takeSign
        if sign = .plain '=' ∨ sign = .plain '!' then
          let body := ofPieces (← readBehind (inside fuel))
          return some (← behindPart (sign = .plain '!') body)
        else malformed
      | .plain 'P' =>
        if ← skips '<' then return some (← numberedGroup fuel (some (← groupName '>')))
        else if ← skips '=' then
          match (← get).names.lookup (← groupName ')') with
          | some index => return some (.ofLeaf (← groupLeaf index))
          | none => malformed
        else malformed
      | .plain c =>
        if c = '-' ∨ (switchOf? c).isSome then
          let (on, off, forAll) ← switchSets c
          if forAll then
            if isFirst then
              turnForAll on
              return none
            else malformed
          else return some (← switchedGroup fuel on off)
        else malformed
    else return some (← numberedGroup fuel none)

end

/-- The whole pattern. Faults that do not stop the reading are looked for at its end. -/
def whole (fuel : Nat) : Reading Query := do
  goOn (← get).signs
  let p := ofPieces (joinAlternatives (← alternatives fuel true))
  let source ← get
  if 1 < source.alphabets.eraseDups.length then throw .twoAlphabets
  else if !source.signs.isEmpty || source.asked.any (source.opened < ·) || source.refused then
    malformed
  else return .ofPattern p (p.width source.widthOf) source.switches.alphabet

end Reading

/-- The query for the pattern that a text writes. -/
def read (text : List Char) : Except Fault Query :=
  let (signs, dangling) := signs text
  (Reading.whole (6 * signs.length + 6)).run' { signs, dangling }

end SlideContract.Pattern
