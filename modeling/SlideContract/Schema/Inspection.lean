import SlideContract.Schema.Violation

/-!
# Inspections

What is wrong with a value that ought to be a schema: the first problem is the one that counts. A
pattern in the value may be beyond use, which ends the inspection; that is no problem but a fault.
-/

namespace SlideContract.Schema

/-- What an inspection comes to: the first problem if it is found before any fault, and the first
fault, which is also met by an inspection that goes on behind a problem. -/
structure Inspection where
  problem : Option String := none
  fault : Option Fault := none
  deriving DecidableEq, Repr

namespace Inspection

/-- Nothing is wrong. -/
def clear : Inspection := {}

/-- There is a problem. -/
def ofProblem (problem : String) : Inspection := { problem := some problem }

/-- Two inspections one after the other. -/
def andThen (a b : Inspection) : Inspection :=
  { problem := a.problem.or (if a.fault.isSome then none else b.problem)
    fault := a.fault.or b.fault }

/-- Inspections one after the other. -/
def all : List Inspection → Inspection
  | [] => clear
  | a :: rest => a.andThen (all rest)

/-- One of several inspections has to find nothing wrong, or else there is the given problem. Each
one is carried to its end, until one finds nothing. -/
def either (problem : String) : List Inspection → Inspection
  | [] => ofProblem problem
  | a :: rest =>
    match a.fault, a.problem with
    | some fault, _ => { fault := some fault }
    | none, none => clear
    | none, some _ => either problem rest

/-- The first problem, unless a fault comes before it. -/
def first (a : Inspection) : Except Fault (Option String) :=
  match a.problem, a.fault with
  | none, some fault => .error fault
  | problem, _ => .ok problem

end Inspection
end SlideContract.Schema
