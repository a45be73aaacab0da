import EngineClient.System.Files
/-!
# Variables

The environment of a process: named texts, and the directories they tell of.
-/

namespace EngineClient

/-- Variables and their values. -/
abbrev Environment := List (String × String)

namespace Environment

/-- The value of a variable. -/
def value (env : Environment) (name : String) : Option String := env.lookup name

/-- The value of a variable that is not empty. -/
def filled (env : Environment) (name : String) : Option String := (env.value name).filter (!·.isEmpty)

/-- The value of a variable without the blanks around it, if that leaves anything. -/
def trimmed (env : Environment) (name : String) : Option String :=
  ((env.value name).map Text.trim).filter (!·.isEmpty)

/-- The variables of `env` with those of `own` in their place. -/
def overlay (env own : Environment) : Environment :=
  own ++ env.filter fun (name, _) => (own.lookup name).isNone

/-- The home directory: the variable for it, or `elsewhere`. -/
def home (env : Environment) (elsewhere : String) : String := (env.filled "HOME").getD elsewhere

/-- The directory of configuration files: the variable for it when it is an absolute path, or one in the
home directory. -/
def configHome (env : Environment) (elsewhere : String) : String :=
  match env.value "XDG_CONFIG_HOME" with
  | some directory =>
    if directory.toList.head? = some '/' then directory
    else Files.join (env.home elsewhere) ".config"
  | none => Files.join (env.home elsewhere) ".config"

end Environment

end EngineClient
