import EngineClient.System.Failure
import EngineClient.Text.Blank
import EngineClient.Text.Utf8
/-!
# Files

The files a program can meet: those in its working directory, and some around it.
-/

namespace EngineClient

/-- How a process ended. -/
inductive Ended where
  | exited (code : Nat)
  | signalled
deriving Repr, DecidableEq

/-- What a program does when it is started. -/
structure Behaviour where
  stdout : Bytes
  stderr : Bytes
  ended : Ended
  /-- Whether it reads its whole standard input first. -/
  reads : Bool
  /-- Whether it writes what it read before its own output. -/
  echoes : Bool
  /-- The variables it tells of, when it tells of any. -/
  tells : Option (List String)
  /-- Whether it goes on longer than anyone waits. -/
  lingers : Bool
deriving Repr, DecidableEq

/-- A program: what it does when it is started the first, the second time and so on; the last entry
repeats. -/
structure Program where
  number : Nat
  /-- Variables it sets for itself. -/
  own : List (String × String)
  behaviours : List Behaviour
deriving Repr, DecidableEq

/-- What a path can lead to. -/
inductive Entry where
  | directory
  | file (content : Bytes) (executable : Bool)
  | program (program : Program) (executable : Bool)
  | socket (listening : Bool)
deriving Repr, DecidableEq

/-- Whether an entry is a regular file. -/
def Entry.isFile : Entry → Bool
  | .file .. => true
  | .program .. => true
  | _ => false

/-- Whether an entry is a regular file that may be executed. -/
def Entry.isExecutable : Entry → Bool
  | .file _ executable => executable
  | .program _ executable => executable
  | _ => false

/-- A place in the tree of files. -/
inductive Place where
  /-- In the working directory or below it. -/
  | inside (parts : List String)
  /-- In the root or below it, elsewhere. -/
  | outside (parts : List String)
deriving Repr, DecidableEq

namespace Place

/-- The path that is another name of the working directory. -/
def workingDirectory : List String := ["proc", "self", "cwd"]

/-- The place of that name in a directory. -/
def child (place : Place) (name : String) : Place :=
  match place with
  | .inside parts => .inside (parts ++ [name])
  | .outside parts =>
    let below := parts ++ [name]
    if below = workingDirectory then .inside [] else .outside below

/-- The directory that a place is in; the one of the working directory is not told. -/
def parent : Place → Place
  | .inside [] => .outside ["tmp"]
  | .inside parts => .inside parts.dropLast
  | .outside parts => .outside parts.dropLast

end Place

/-- The entries at all places that matter. -/
structure Files where
  entries : List (Place × Entry)
deriving Repr, DecidableEq

namespace Files

/-- Directories that exist without being entries. -/
def standing : List (List String) :=
  [[], ["proc"], ["proc", "self"], ["tmp"], ["bin"], ["usr"], ["usr", "bin"], ["etc"], ["home"],
    ["root"], ["var"], ["var", "run"], ["run"], ["dev"]]

/-- Whether a place is one of those directories. -/
def isStanding : Place → Bool
  | .inside parts => parts.isEmpty
  | .outside parts => standing.contains parts

/-- What is at a place. -/
def entryAt (files : Files) (place : Place) : Option Entry :=
  if isStanding place then some .directory else files.entries.lookup place

/-- The entries with one put at a place, or taken away. -/
def set (files : Files) (place : Place) (entry : Option Entry) : Files :=
  let others := files.entries.filter fun (other, _) => other != place
  match entry with
  | some entry => ⟨others ++ [(place, entry)]⟩
  | none => ⟨others⟩

@[simp] theorem set_set (files : Files) (place : Place) (first second : Option Entry) :
    (files.set place first).set place second = files.set place second := by
  cases first <;> cases second <;> simp [set, List.filter_append]

/-- The names in a path; a slash at the end asks for a directory, as a last `.` does. -/
def parts (path : String) : List String :=
  let names := ((Text.splitAt '/' path.toList).map String.ofList).filter fun name => name != ""
  if path.toList.getLast? = some '/' then names ++ ["."] else names

/-- Where a path starts: at the root or in the working directory. -/
def startOf (path : String) : Place :=
  if path.toList.head? = some '/' then .outside [] else .inside []

/-- The entries with one put where the names lead to, and directories made on the way. -/
def addAt (files : Files) (place : Place) (entry : Entry) : List String → Files
  | [] => files
  | [name] => files.set (place.child name) (some entry)
  | name :: rest =>
    let next := place.child name
    let made := if (files.entryAt next).isSome then files else files.set next (some .directory)
    addAt made next entry rest

/-- The entries with one put at a path, and the directories above it. -/
def add (files : Files) (path : String) (entry : Entry) : Files :=
  files.addAt (startOf path) entry (parts path)

/-- The longest name in a directory. -/
def maxNameLength : Nat := 255

/-- The longest path. -/
def maxPathLength : Nat := 4095

/-- The failure of a name or path that is too long. -/
def tooLong : Failure := .numbered 36

/-- The place the names lead to, one directory after the other. -/
def walk (files : Files) (place : Place) : List String → Except Failure Place
  | [] => .ok place
  | name :: rest =>
    match files.entryAt place with
    | none => .error .noEntry
    | some .directory =>
      if name = "." then walk files place rest
      else if name = ".." then walk files place.parent rest
      else if maxNameLength < name.utf8ByteSize then .error tooLong
      else if (files.entryAt (place.child name)).isSome then walk files (place.child name) rest
      else .error .noEntry
    | some _ => .error .notDirectory

/-- The place a path leads to. -/
def locate (files : Files) (path : String) : Except Failure Place :=
  if path.toList.contains '\x00' then .error .zeroByteInPath
  else if path.isEmpty then .error .noEntry
  else if maxPathLength < path.utf8ByteSize then .error tooLong
  else files.walk (startOf path) (parts path)

/-- What a path leads to. -/
def find (files : Files) (path : String) : Except Failure Entry :=
  match files.locate path with
  | .error cause => .error cause
  | .ok place => (files.entryAt place).elim (.error .noEntry) .ok

/-- Whether a path leads to a regular file. -/
def isFile (files : Files) (path : String) : Bool :=
  match files.find path with
  | .ok entry => entry.isFile
  | .error _ => false

/-- The content of a file that is text. -/
def readText (files : Files) (path : String) : Except Failure String :=
  match files.find path with
  | .error cause => .error cause
  | .ok .directory => .error .isDirectory
  | .ok (.socket _) => .error (.numbered 6)
  | .ok (.program ..) => .ok ""
  | .ok (.file content _) =>
    match Text.decode content with
    | .ok text => .ok text
    | .error _ => .error .notText

/-- A path continued by a name: a path that is empty or ends in a slash needs no other one. -/
def join (directory name : String) : String :=
  if directory.isEmpty || directory.toList.getLast? = some '/' then directory ++ name
  else directory ++ "/" ++ name

end Files

end EngineClient
