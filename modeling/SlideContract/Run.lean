import SlideContract.Event

/-!
# Runs

A run is a computation that leaves events in order and ends with a value or a fault. The events
that came before a fault stay.
-/

namespace SlideContract

/-- A result, and the events on the way to it. -/
structure Run (α : Type) where
  result : Except Fault α
  events : List Event := []

namespace Run

variable {α β : Type}

/-- The run that ends at once with a value. -/
def value (a : α) : Run α := { result := .ok a }

/-- The run that ends at once with a fault. -/
def fail (fault : Fault) : Run α := { result := .error fault }

/-- The run that leaves one event. -/
def emit (event : Event) : Run Unit := { result := .ok (), events := [event] }

/-- The run that goes on with the value of another. -/
def andThen (run : Run α) (next : α → Run β) : Run β :=
  match run.result with
  | .error fault => { result := .error fault, events := run.events }
  | .ok a => { result := (next a).result, events := run.events ++ (next a).events }

instance : Monad Run where
  pure := value
  bind := andThen

/-- The run that ends at once with a result in which an integer may have had too many digits. -/
def ofDigits (result : Except TooManyDigits α) : Run α := { result := result.mapError .digits }

end Run
end SlideContract
