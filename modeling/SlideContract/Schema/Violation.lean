import SlideContract.Json.Display
import SlideContract.Location
import SlideContract.Pattern.Basic

/-!
# Violations

What checking a value against a schema finds: violations in the order of the schema's keywords, and
a fault if the schema turns out to be unusable on the way. The violations before a fault count where
only the first one is asked for.
-/

namespace SlideContract.Schema

/-- Why a schema cannot be used. -/
inductive Fault where
  /-- A keyword has a value that its rule cannot be applied to. -/
  | wrongOperand
  /-- A value stands in the place of a schema, or of named schemas. -/
  | noSchema
  /-- A type is named that does not exist. -/
  | unknownType
  /-- A text is no pattern, or the search for it fails. -/
  | badPattern (fault : Pattern.Fault)
  /-- A number is to be a multiple of zero. -/
  | zeroDivisor
  /-- An integer or an infinity is too large to be divided. -/
  | overflow
  /-- A quotient is not a number. -/
  | noQuotient
  deriving DecidableEq, Repr

/-- A way in which a value breaks a schema: the place, a message, the keyword that is broken, what
that keyword expects and what the value holds. -/
structure Violation where
  location : Location := []
  message : String
  keyword : Option String
  expected : Json
  actual : Json

/-- What checking a value finds. -/
structure Found where
  violations : List Violation := []
  fault : Option Fault := none

namespace Found

/-- Nothing is found. -/
def nothing : Found := {}

/-- The check ends with a fault. -/
def failed (fault : Fault) : Found := { fault := some fault }

/-- One violation is found. -/
def one (v : Violation) : Found := { violations := [v] }

/-- What two checks find one after the other. -/
def andThen (a b : Found) : Found :=
  match a.fault with
  | some _ => a
  | none => { violations := a.violations ++ b.violations, fault := b.fault }

/-- What checks find one after the other. -/
def all : List Found → Found
  | [] => nothing
  | a :: rest => a.andThen (all rest)

/-- What is found below a step. -/
def below (step : Step) (a : Found) : Found :=
  { a with violations := a.violations.map fun v => { v with location := step :: v.location } }

/-- What a check that may fail leads to. -/
def ofResult {α : Type} (result : Except Fault α) (next : α → Found) : Found :=
  match result with
  | .ok a => next a
  | .error fault => failed fault

/-- Every violation, unless there is a fault. -/
def complete (a : Found) : Except Fault (List Violation) :=
  match a.fault with
  | some fault => .error fault
  | none => .ok a.violations

/-- There is no violation. A fault counts only if no violation comes before it. -/
def accepts (a : Found) : Except Fault Bool :=
  if !a.violations.isEmpty then .ok false
  else
    match a.fault with
    | some fault => .error fault
    | none => .ok true

end Found
end SlideContract.Schema
