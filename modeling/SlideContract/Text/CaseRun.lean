/-!
# Runs of letters

Most letters change case by a distance that they share with their neighbours, or with every other
one where capitals and small letters take turns. A case mapping is a list of such runs.
-/

namespace SlideContract.Text

/-- Letters from `first` to `last`, `step` apart, whose other case lies `shift` code points on. -/
structure CaseRun where
  first : Nat
  last : Nat
  step : Nat
  shift : Int

namespace CaseRun

/-- The code point is one of the letters of a run. -/
def holds (run : CaseRun) (n : Nat) : Bool :=
  run.first ≤ n && n ≤ run.last && (n - run.first) % run.step == 0

/-- The other case of a code point by runs that ascend, or itself if none holds it. -/
def shiftAll (runs : List CaseRun) (n : Nat) : Nat :=
  match runs.find? fun run => n ≤ run.last with
  | some run => if run.holds n then (n + run.shift).toNat else n
  | none => n

/-- The letters whose other case by the runs is the given code point. -/
def sources (runs : List CaseRun) (n : Nat) : List Nat :=
  runs.filterMap fun run =>
    let source := ((n : Int) - run.shift).toNat
    if run.holds source then some source else none

end CaseRun
end SlideContract.Text
