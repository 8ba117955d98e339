import SlideContract.Console.Display

/-!
# Acts

An act shows things, writes text and files, and ends with a value or is broken off: with an exit
code, or with a message that is still to be shown.
-/

namespace SlideContract.Console

/-- Why an act is broken off. -/
inductive BreakOff where
  | exit (code : Nat)
  | failed (message : String)
  deriving DecidableEq, Repr

/-- What has been shown and written. -/
structure Transcript where
  shown : List Shown := []
  stdout : String := ""
  written : List (String × String) := []

/-- What was shown and written first, and then. -/
def Transcript.followedBy (a b : Transcript) : Transcript :=
  { shown := a.shown ++ b.shown, stdout := a.stdout ++ b.stdout, written := a.written ++ b.written }

/-- A result and what was shown and written on the way to it. -/
structure Act (α : Type) where
  result : Except BreakOff α
  transcript : Transcript := {}

namespace Act

variable {α β : Type}

/-- The act that ends at once with a value. -/
def value (a : α) : Act α := { result := .ok a }

/-- The act that goes on with the value of another. -/
def andThen (act : Act α) (next : α → Act β) : Act β :=
  match act.result with
  | .error stop => { result := .error stop, transcript := act.transcript }
  | .ok a =>
    { result := (next a).result
      transcript := act.transcript.followedBy (next a).transcript }

instance : Monad Act where
  pure := value
  bind := andThen

/-- The act that shows things. -/
def display (shown : List Shown) : Act Unit := { result := .ok (), transcript := { shown } }

/-- The act that writes text. -/
def print (text : String) : Act Unit := { result := .ok (), transcript := { stdout := text } }

/-- The act that writes a file. -/
def save (path text : String) : Act Unit :=
  { result := .ok (), transcript := { written := [(path, text)] } }

/-- The act that is broken off with an exit code. -/
def exit (code : Nat) : Act α := { result := .error (.exit code) }

/-- The act that is broken off with a message. -/
def fail (message : String) : Act α := { result := .error (.failed message) }

end Act
end SlideContract.Console
