import EngineClient.System.Environment
import EngineClient.System.Sink
import EngineClient.System.World
/-!
# Starting programs

Finding a program by its name, starting it, and what comes of it.
-/

namespace EngineClient

/-- What a program left behind. -/
structure Outcome where
  stdout : Bytes
  stderr : Bytes
  ended : Ended
deriving Repr, DecidableEq

/-- What comes of starting a program. -/
inductive Launch where
  | failed (cause : Failure)
  | ended (outcome : Outcome)
  /-- It was still running when the wait was over. -/
  | overdue
deriving Repr, DecidableEq

namespace Files

/-- Whether a path leads to a program. -/
def isExecutable (files : Files) (path : String) : Bool :=
  match files.find path with
  | .ok entry => entry.isExecutable
  | .error _ => false

/-- The program of that name: in the first directory of the search path that has it, or where the name says
when it has a slash. -/
def findProgram (files : Files) (searchPath name : String) : Option String :=
  if name.toList.contains '/' then (if files.isExecutable name then some name else none)
  else
    ((Text.splitAt ':' searchPath.toList).map fun directory => join (String.ofList directory) name).find?
      files.isExecutable

/-- The path of the interpreter that a file names in its first line. -/
def interpreter (content : Bytes) : Option String :=
  match content with
  | 0x23 :: 0x21 :: rest =>
    let isPad (b : UInt8) : Bool := b == 0x20 || b == 9
    let line := (rest.takeWhile (· != 0x0A)).dropWhile isPad
    match line.takeWhile fun b => !isPad b with
    | [] => none
    | path => some (Text.decodeLossy path)
  | _ => none

/-- Why a file that is no program of its own cannot be started. -/
def startFault (files : Files) (content : Bytes) : Failure :=
  match interpreter content with
  | none => .notExecutable
  | some path =>
    match files.find path with
    | .error cause => cause
    | .ok _ => .denied

end Files

/-- The program after one more start: what it did this time, and what is left to do. -/
def Program.next (program : Program) : Option Behaviour × Program :=
  match program.behaviours with
  | [] => (none, program)
  | [last] => (some last, program)
  | first :: rest => (some first, { program with behaviours := rest })

/-- How many bytes a pipe has room for while nobody reads them. -/
def pipeRoom : Nat := 65536

/-- The pipe into a program that does this. A program that does not read leaves what the pipe has room for there, and
with its end the pipe breaks. -/
def Behaviour.inlet (behaviour : Behaviour) : Sink :=
  .fresh (fun _ => pipeRoom) (if behaviour.reads then none else some (pipeRoom, .failing .brokenPipe))

namespace World

/-- What the program at a path does when it is started now, if there is one. -/
def awaiting (w : World) (path : String) : Option Behaviour :=
  match w.files.locate path with
  | .error _ => none
  | .ok place =>
    match w.files.entryAt place with
    | some (.program program true) => program.next.1
    | _ => none

/-- The pipe into the program at a path; there is none where nothing is started. -/
def inlet (w : World) (path : String) : Option Sink := (w.awaiting path).map Behaviour.inlet

/-- Whether a text can be given to a program. -/
def isPassable (text : String) : Bool := !text.toList.contains '\x00'

/-- What a program was given, as far as it tells. -/
def startedWith (program : Program) (behaviour : Behaviour) (arguments : List String) (env : Environment)
    (input : Option Bytes) : Started :=
  let own := env.overlay program.own
  ⟨program.number, arguments, if behaviour.reads then some (input.getD []) else none,
    behaviour.tells.map fun names => names.map fun name => (name, own.value name)⟩

/-- What a program that does this leaves behind. -/
def outcome (behaviour : Behaviour) (input : Option Bytes) : Outcome :=
  let echoed := if behaviour.reads && behaviour.echoes then input.getD [] else []
  ⟨echoed ++ behaviour.stdout, behaviour.stderr, behaviour.ended⟩

/-- Starting the program at a path with arguments, variables and an input, and waiting for its end: for ever,
or until a deadline. -/
def start (w : World) (path : String) (arguments : List String) (env : Environment)
    (input : Option Bytes) (hasDeadline : Bool) : Launch × World :=
  if !(env.all fun (name, value) => isPassable name && isPassable value) then (.failed .zeroByte, w)
  else
    match w.files.locate path with
    | .error cause => (.failed cause, w)
    | .ok place =>
      match w.files.entryAt place with
      | some (.program program true) =>
        match program.next with
        | (none, _) => (.ended ⟨[], [], .exited 0⟩, w)
        | (some behaviour, later) =>
          let started := startedWith program behaviour arguments env input
          let w := { w with
            files := w.files.set place (some (.program later true))
            started := w.started ++ [started] }
          if behaviour.lingers && hasDeadline then (.overdue, w)
          else (.ended (outcome behaviour input), w)
      | some (.file content true) => (.failed (w.files.startFault content), w)
      | none => (.failed .noEntry, w)
      | some _ => (.failed .denied, w)

end World

end EngineClient
