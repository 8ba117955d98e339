import SlideContract.Console.Command
import SlideContract.Console.Plain

/-!
# The program

The program looks at the files that its arguments name, answers, and then shows, prints and writes
what the answer says.
-/

namespace SlideContract.Console

/-- The paths from where a path begins to its end. -/
def leadingPaths (path : String) : List String :=
  let steps := Disk.steps path
  (List.range (steps.length + 1)).map fun n =>
    String.ofList (Disk.rootOf path.toList) ++ String.intercalate "/" (steps.take n)

/-- Takes note of a folder. -/
def lookForFolder (disk : Disk) (path : String) : IO Disk := do
  match ← (IO.FS.realPath (Disk.plainPath path ++ "/.")).toBaseIO with
  | .ok _ => return { disk with folders := disk.folders ++ [disk.resolve path] }
  | .error _ => return disk

/-- Takes note of a file and of the folders on the way to it. -/
def lookForFile (disk : Disk) (path : String) : IO Disk := do
  let disk ← (leadingPaths path).foldlM lookForFolder disk
  match ← (IO.FS.readBinFile path).toBaseIO with
  | .ok bytes => return { disk with files := disk.files ++ [(disk.resolve path, bytes.toList)] }
  | .error _ => return disk

/-- The files and folders that the arguments lead to. -/
def lookAround (arguments : List String) : IO Disk :=
  match request arguments with
  | .run command => (neededFiles command ++ (outputFile? command).toList).foldlM lookForFile {}
  | .version | .help | .unusable => return {}

/-- Shows, prints and writes what a transcript holds. -/
def perform (transcript : Transcript) : IO Unit := do
  for (path, text) in transcript.written do
    IO.FS.writeFile path text
  for shown in transcript.shown do
    IO.print shown.plain
  IO.print transcript.stdout

end SlideContract.Console

open SlideContract.Console in
/-- Answers to the arguments with what they ask for. -/
def main (arguments : List String) : IO UInt32 := do
  match request arguments with
  | .help => IO.print usage
  | .unusable => IO.eprint usage
  | .version | .run _ => pure ()
  let outcome := answer (← lookAround arguments) arguments
  perform outcome.transcript
  return outcome.exitCode.toUInt32
