import EngineClient.Command.Run
/-!
# The program

The outermost layer: it gathers what a command line can read, has it completed, and writes what is left
behind. It sees files and variables; it opens no socket and starts no program, so a daemon and the helpers are
never found.
-/

namespace EngineClient.Main

/-- The variables that are looked at. -/
def variableNames : List String :=
  ["HOME", "PATH", "XDG_CONFIG_HOME", "DOCKER_CONFIG", Settings.hostVariable, Settings.versionVariable,
    Settings.verifyVariable, Settings.certificatesVariable, timeoutVariable]

/-- The home directory of a process that has no variable for it. -/
def home : String := "/"

/-- The files that a command line can read: the settings and the registry file. -/
def paths (words : List String) (env : Environment) : List String :=
  let config := match Command.Arguments.parse words with
    | .ok a => a.config
    | .error _ => none
  [config.getD (Settings.standardPath env home), RegistryFile.standardPath env home]

/-- Whether a command line stores what is in the input. -/
def readsInput (words : List String) : Bool :=
  match Command.Arguments.parse words with
  | .ok a =>
    match a.command with
    | .store .. => true
    | _ => false
  | .error _ => false

/-- The variables of this process, as far as they are looked at. -/
def gatherVariables : IO Environment := do
  let found ← variableNames.mapM fun name => return (name, ← IO.getEnv name)
  return found.filterMap fun (name, value) => value.map fun value => (name, value)

/-- What is at a path, as far as it can be read. -/
def entry (path : String) : IO (Option Entry) := do
  try
    return some (.file (← IO.FS.readBinFile path).toList false)
  catch
    | .inappropriateType _ 21 _ => return some .directory
    | _ => return none

/-- What can be read at the paths. -/
def gatherFiles (paths : List String) : IO Files :=
  paths.foldlM (fun files path => do
    match ← entry path with
    | some found => return files.add path found
    | none => return files) ⟨[]⟩

/-- Running a command line; the answer is the code of the process. -/
def runWords (words : List String) : IO UInt32 := do
  let env ← gatherVariables
  let files ← gatherFiles (paths words env)
  let stdin ← if readsInput words then IO.FS.readBinFile "/dev/stdin" else pure .empty
  let surroundings : Command.Surroundings := ⟨env, env, home, stdin.toList, ⟨[], true⟩⟩
  let exit := Command.exitOf (Command.complete words surroundings (.fresh files))
  IO.print exit.stdout
  if let some report := exit.report then IO.eprint report
  return exit.code.toUInt32

end EngineClient.Main

/-- Completing the command line of this process. -/
def main (words : List String) : IO UInt32 := EngineClient.Main.runWords words
