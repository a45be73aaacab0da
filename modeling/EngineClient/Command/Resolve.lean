import EngineClient.Command.Arguments
import EngineClient.Settings.Document
import EngineClient.Settings.Variables
/-!
# Effective settings

The settings of a file, below those of variables, below those of the command line.
-/

namespace EngineClient.Command

/-- Why a command fails: what was being done, and the causes below it, outermost first. -/
abbrev Chain := List String

/-- The chain of a configuration error. -/
def configChain (error : ConfigError) : Chain := error.message :: error.causes

/-- Values given on the command line. -/
structure Overrides where
  host : Option String
  apiVersion : Option String
  timeoutSeconds : Option Nat
deriving Repr, DecidableEq

/-- The overrides of a command line. -/
def Arguments.overrides (a : Arguments) : Overrides := ⟨a.host, a.apiVersion, a.timeout⟩

/-- The settings with the version of the command line. -/
def overrideVersion (s : Settings) (version : Option String) : Except Chain Settings :=
  match version with
  | none => .ok s
  | some source =>
    match ApiVersion.ofSetting source with
    | .ok version => .ok { s with version }
    | .error error => .error (("invalid --api-version '" ++ source ++ "'") :: configChain error)

/-- The settings with everything the command line says. -/
def override (s : Settings) (o : Overrides) : Except Chain Settings :=
  let s := { s with baseUrl := o.host.getD s.baseUrl }
  match overrideVersion s o.apiVersion with
  | .error chain => .error chain
  | .ok s =>
    let s := { s with timeoutSeconds := o.timeoutSeconds.getD s.timeoutSeconds }
    match s.validate with
    | .ok () => .ok s
    | .error error => .error (configChain error)

/-- The effective settings. `process` has the variables by which the usual file is found, `env` those that
are read for settings. -/
def resolve (files : Files) (process env : Environment) (home : String) (path : Option String)
    (o : Overrides) : Except Chain Settings :=
  match Settings.load files process home path with
  | .error error => .error ("loading config file" :: configChain error)
  | .ok s =>
    match s.applyEnvironment env home with
    | (.error error, _) => .error ("reading DOCKER_* environment" :: configChain error)
    | (.ok (), s) => override s o

end EngineClient.Command
