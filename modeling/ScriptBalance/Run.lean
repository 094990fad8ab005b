-- A whole run: how a path leads to the bytes of a file in a folder, how a script is
-- read from them, and how it is checked and the report on it written.
import ScriptBalance.Recorder

namespace ScriptBalance

/-! ## Folders -/

/-- Why a script cannot be read. -/
inductive ReadError where
  | notFound
  | isADirectory
  /-- The path goes on past a file. -/
  | notADirectory
  /-- The bytes of the file are no UTF-8 text. -/
  | invalidText
  /-- The path holds a NUL, which no name may hold. -/
  | nulInPath
  /-- The path, or one name on it, is too long. -/
  | nameTooLong
  /-- Any other failure of the system, in its own words. -/
  | other (text : String)
  deriving Repr, DecidableEq

def ReadError.message : ReadError → String
  | .notFound => "No such file or directory (os error 2)"
  | .isADirectory => "Is a directory (os error 21)"
  | .notADirectory => "Not a directory (os error 20)"
  | .invalidText => "stream did not contain valid UTF-8"
  | .nulInPath => "file name contained an unexpected NUL byte"
  | .nameTooLong => "File name too long (os error 36)"
  | .other text => text

/-- What stands at a path of a folder. -/
inductive Node where
  | file (bytes : ByteArray)
  | directory

/-- A folder: paths as lists of names, outermost first, and what stands at
each of them, the newest first. -/
structure Folder where
  nodes : List (List String × Node) := []

/-- Where a walk along a path has come to. -/
inductive Place where
  | file (bytes : ByteArray)
  /-- A directory of the folder, by its path. -/
  | directory (path : List String)
  /-- Some directory that holds the folder. Nothing else in it is known. -/
  | outside

namespace Folder

/-- The parts of a path between its slashes. -/
def parts (path : String) : List String := path.splitOn "/"

/-- One part of the path of a new file or directory. A name makes a directory,
two dots leave one, and an empty part and a dot do nothing. -/
def enter (nodes : List (List String × Node)) (path : List String) (name : String) :
    List (List String × Node) × List String :=
  if name = "" ∨ name = "." then (nodes, path)
  else if name = ".." then (nodes, path.dropLast)
  else ((path ++ [name], .directory) :: nodes, path ++ [name])

/-- The folder with one more file or directory in it, and the directories on
the way to it. -/
def insert (folder : Folder) (path : String) (node : Node) : Folder :=
  let (nodes, place) := (parts path).foldl (fun (nodes, place) => enter nodes place)
    (folder.nodes, [])
  ⟨(place, node) :: nodes⟩

/-- What stands at a path of the folder, given as names. -/
def find? (folder : Folder) (path : List String) : Option Node :=
  (folder.nodes.find? (·.1 = path)).map (·.2)

/-- The most bytes that one name may have. -/
def nameLimit : Nat := 255

/-- The most bytes that a path may have. -/
def pathLimit : Nat := 4095

/-- One step of a walk. An empty part and a dot stay in a directory, and two
dots leave it. -/
def step (folder : Folder) : Place → String → Except ReadError Place
  | .file _, _ => .error .notADirectory
  | .directory path, name =>
    if name = "" ∨ name = "." then .ok (.directory path)
    else if name = ".." then .ok (if path.isEmpty then .outside else .directory path.dropLast)
    else if nameLimit < name.utf8ByteSize then .error .nameTooLong
    else
      match folder.find? (path ++ [name]) with
      | some (.file bytes) => .ok (.file bytes)
      | some .directory => .ok (.directory (path ++ [name]))
      | none => .error .notFound
  | .outside, name =>
    if name = "" ∨ name = "." ∨ name = ".." then .ok .outside
    else if nameLimit < name.utf8ByteSize then .error .nameTooLong
    else .error .notFound

/-- The place that a path leads to. A path that starts with a slash starts
outside the folder, and an empty path leads nowhere. -/
def walk (folder : Folder) (path : String) : Except ReadError Place :=
  if path.toList.contains '\x00' then .error .nulInPath
  else if pathLimit < path.utf8ByteSize then .error .nameTooLong
  else if path.isEmpty then .error .notFound
  else
    let start : Place := if path.toList.head? = some '/' then .outside else .directory []
    (parts path).foldlM folder.step start

/-- The bytes of the file that a path leads to. -/
def read (folder : Folder) (path : String) : Except ReadError ByteArray :=
  match folder.walk path with
  | .ok (.file bytes) => .ok bytes
  | .ok _ => .error .isADirectory
  | .error err => .error err

end Folder

/-! ## Runs -/

/-- How a run gets at the bytes of a file. -/
abbrev Reader := String → Except ReadError ByteArray

/-- Why a run fails. -/
inductive RunError where
  | read (path : String) (cause : ReadError)
  | write (cause : WriteError)
  deriving Repr, DecidableEq

namespace RunError

/-- What the run could not do. -/
def context : RunError → String
  | .read path _ => "failed to read " ++ path
  | .write _ => "failed to write report"

/-- What was in its way. -/
def cause : RunError → String
  | .read _ cause => cause.message
  | .write cause => cause.message

def message (e : RunError) : String := e.context ++ ": " ++ e.cause

end RunError

/-- The text of a file, which has to be UTF-8. -/
def readText (read : Reader) (path : String) : Except ReadError String :=
  match read path with
  | .error err => .error err
  | .ok bytes =>
    match String.fromUTF8? bytes with
    | some text => .ok text
    | none => .error .invalidText

/-- The script at a path. -/
def loadSource (read : Reader) (path : String) : Except RunError Source :=
  match readText read path with
  | .error err => .error (.read path err)
  | .ok text => .ok { Source.ofText text with path := some path }

/-- Reads the script at a path and writes the report on it. The script is read
before anything is written. -/
def run (read : Reader) (path : String) : CheckM Report RunError Summary :=
  match loadSource read path with
  | .error err => throw err
  | .ok source => do
    CheckM.note (.loaded path source.size)
    let summary ← EStateM.adaptExcept RunError.write (check Report.take source)
    CheckM.note (.counted summary.structural summary.patterns)
    return summary

end ScriptBalance
