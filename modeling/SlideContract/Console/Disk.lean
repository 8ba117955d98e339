import SlideContract.Json.Display

/-!
# Files

The files and folders that a run of the program can see, below the folder it runs in. A path is
written without empty parts and dots, and `..` leads out of a folder that exists.
-/

namespace SlideContract.Console

/-- The files and folders that can be seen, by their paths. -/
structure Disk where
  files : List (String × List UInt8) := []
  folders : List String := []

/-- Why a file cannot be written. -/
inductive WriteFault where
  | missingFolder (path : String)
  | folder (path : String)
  | belowFile (path : String)
  deriving DecidableEq, Repr

/-- The message of a file that cannot be written. -/
def WriteFault.message : WriteFault → String
  | .missingFolder path => "[Errno 2] No such file or directory: " ++ path.quoted
  | .folder path => "[Errno 21] Is a directory: " ++ path.quoted
  | .belowFile path => "[Errno 20] Not a directory: " ++ path.quoted

namespace Disk

/-- The parts of a path between its slashes. -/
def partsOf (part : List Char) : List Char → List (List Char)
  | [] => [part.reverse]
  | c :: rest => if c = '/' then part.reverse :: partsOf [] rest else partsOf (c :: part) rest

/-- What a path begins with if it does not start from the folder of the run. -/
def rootOf (path : List Char) : List Char :=
  let slashes := (path.takeWhile (· = '/')).length
  if slashes = 0 then [] else if slashes = 2 then ['/', '/'] else ['/']

/-- The parts of a path other than empty ones and dots. -/
def steps (path : String) : List String :=
  ((partsOf [] path.toList).filter fun part => part ≠ [] && part ≠ ['.']).map String.ofList

/-- The path without empty parts and dots. -/
def plainPath (path : String) : String :=
  let text := String.ofList (rootOf path.toList) ++ String.intercalate "/" (steps path)
  if text.isEmpty then "." else text

/-- There is a folder of a plain path. -/
def hasFolder (disk : Disk) (path : String) : Bool := path = "." || disk.folders.contains path

/-- The plain path that further steps lead to, with every `..` taken back. -/
def follow (disk : Disk) (root : String) (taken : List String) : List String → List String
  | [] => taken
  | ".." :: rest =>
    if disk.hasFolder (plainPath (root ++ String.intercalate "/" taken)) && !taken.isEmpty then
      disk.follow root taken.dropLast rest
    else disk.follow root (taken ++ [".."]) rest
  | step :: rest => disk.follow root (taken ++ [step]) rest

/-- The plain path of what a path names, with every `..` taken back that leads out of a folder. -/
def resolve (disk : Disk) (path : String) : String :=
  let root := String.ofList (rootOf path.toList)
  plainPath (root ++ String.intercalate "/" (disk.follow root [] (steps path)))

/-- The bytes of the file that a path names. -/
def bytes? (disk : Disk) (path : String) : Option (List UInt8) :=
  (disk.files.find? (·.1 == disk.resolve path)).map (·.2)

/-- A path as it is given names a file: it is not empty and does not end in a slash or a dot as its
last part. -/
def isFile (disk : Disk) (path : String) : Bool :=
  match (partsOf [] path.toList).getLast? with
  | some [] | some ['.'] => false
  | _ => (disk.bytes? path).isSome

/-- The path of the folder that a plain path lies in. -/
def parent (path : String) : String :=
  let root := String.ofList (rootOf path.toList)
  plainPath (root ++ String.intercalate "/" (steps path).dropLast)

/-- The file of a path can be written, or there is a reason why not. -/
def writeFault? (disk : Disk) (path : String) : Option WriteFault :=
  let shown := plainPath path
  let resolved := disk.resolve path
  if disk.hasFolder resolved then some (.folder shown)
  else if disk.hasFolder (parent resolved) then none
  else if disk.files.any (·.1 == parent resolved) then some (.belowFile shown)
  else some (.missingFolder shown)

end Disk
end SlideContract.Console
