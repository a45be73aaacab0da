import EngineClient.Text.Blank
import EngineClient.Text.Numeral
/-!
# Arguments

The command line: which words are options, values, commands and operands, and what is wrong with those that are
none of them.
-/

namespace EngineClient.Command

/-- How much is logged. -/
inductive LogLevel where
  | off
  | error
  | warn
  | info
  | debug
  | trace
deriving Repr, DecidableEq

/-- The name of a level. -/
def LogLevel.name : LogLevel → String
  | .off => "off"
  | .error => "error"
  | .warn => "warn"
  | .info => "info"
  | .debug => "debug"
  | .trace => "trace"

/-- All levels. -/
def logLevels : List LogLevel := [.off, .error, .warn, .info, .debug, .trace]

/-- The level of that name. -/
def LogLevel.ofName (name : String) : Option LogLevel := logLevels.find? (·.name == name)

/-- What is wrong with a command line, or what it asks for instead of a command. -/
inductive Usage where
  | unknownArgument
  | invalidSubcommand
  | invalidValue
  | valueValidation
  | argumentConflict
  | tooManyValues
  | missingRequiredArgument
  | missingSubcommand
  | displayHelp
  | displayVersion
  /-- Nothing at all was given where a command is needed. -/
  | helpOnMissing
deriving Repr, DecidableEq

/-- The options. -/
inductive Flag where
  | logLevel
  | verbose
  | config
  | host
  | apiVersion
  | timeout
  | all
  | helper
  | username
  | help
  | version
deriving Repr, DecidableEq

namespace Flag

/-- The long name of an option. -/
def long : Flag → String
  | .logLevel => "log-level"
  | .verbose => "verbose"
  | .config => "config"
  | .host => "host"
  | .apiVersion => "api-version"
  | .timeout => "timeout"
  | .all => "all"
  | .helper => "helper"
  | .username => "username"
  | .help => "help"
  | .version => "version"

/-- The letter of an option. -/
def short : Flag → Option Char
  | .logLevel => some 'l'
  | .verbose => some 'v'
  | .config => some 'C'
  | .host => some 'H'
  | .all => some 'a'
  | .username => some 'u'
  | .help => some 'h'
  | .version => some 'V'
  | _ => none

/-- Whether an option has a value. -/
def hasValue : Flag → Bool
  | .verbose => false
  | .all => false
  | .help => false
  | .version => false
  | _ => true

/-- The options that every command has. -/
def shared : List Flag := [.logLevel, .verbose, .config, .host, .apiVersion, .timeout, .help]

/-- What is wrong with a value. -/
def fault (flag : Flag) (value : String) : Option Usage :=
  match flag with
  | .logLevel => if (LogLevel.ofName value).isSome then none else some .invalidValue
  | .config => if value.isEmpty then some .invalidValue else none
  | .timeout => if (Text.decimal Text.limit64 value).isSome then none else some .valueValidation
  | _ => none

end Flag

/-- The words at which commands begin, and the places where one may stand. -/
inductive Level where
  | root
  | credentials
  | ping
  | version
  | info
  | ps
  | df
  | get
  | store
  | erase
  | list
  | lookup
deriving Repr, DecidableEq

namespace Level

/-- The commands below a level, each with its name. -/
def commands : Level → List (String × Level)
  | .root =>
    [("ping", .ping), ("version", .version), ("info", .info), ("ps", .ps), ("df", .df),
      ("credentials", .credentials)]
  | .credentials =>
    [("get", .get), ("store", .store), ("erase", .erase), ("list", .list), ("lookup", .lookup)]
  | _ => []

/-- The options of a level. -/
def flags : Level → List Flag
  | .root => Flag.shared ++ [.version]
  | .ps => Flag.shared ++ [.all]
  | .get => Flag.shared ++ [.helper]
  | .store => Flag.shared ++ [.helper, .username]
  | .erase => Flag.shared ++ [.helper]
  | .list => Flag.shared ++ [.helper]
  | _ => Flag.shared

/-- Whether a level has an operand. -/
def hasOperand : Level → Bool
  | .get => true
  | .store => true
  | .erase => true
  | .lookup => true
  | _ => false

/-- Whether a level only leads to commands. -/
def isGroup (level : Level) : Bool := !level.commands.isEmpty

end Level

/-- What has been read at a level. -/
structure Reading where
  /-- The options that are complete, with their values. -/
  given : List (Flag × String)
  /-- The option read last, while it is not complete, and the value it has got. -/
  pending : Option (Flag × Option String)
  operand : Option String
  /-- Nothing after this is an option. -/
  trailing : Bool
deriving Repr, DecidableEq

namespace Reading

/-- Nothing has been read. -/
def start : Reading := ⟨[], none, none, false⟩

/-- Whether the last option still waits for its value. -/
def awaitsValue (r : Reading) : Bool :=
  match r.pending with
  | some (_, none) => true
  | _ => false

/-- Adding a complete option. -/
def complete (r : Reading) (flag : Flag) (value : String) : Except Usage Reading :=
  if (r.given.lookup flag).isSome then .error .argumentConflict
  else
    match flag.fault value with
    | some fault => .error fault
    | none => .ok { r with given := r.given ++ [(flag, value)] }

/-- Completing the option read last. -/
def settle (r : Reading) : Except Usage Reading :=
  match r.pending with
  | none => .ok r
  | some (_, none) => .error .invalidValue
  | some (flag, some value) => complete { r with pending := none } flag value

/-- An option without a value. -/
def addSwitch (r : Reading) (flag : Flag) : Except Usage Reading :=
  match r.settle with
  | .error fault => .error fault
  | .ok r =>
    match flag with
    | .help => .error .displayHelp
    | .version => .error .displayVersion
    | _ => r.complete flag "true"

/-- An option whose value comes with it, or in the next word. -/
def addOption (r : Reading) (flag : Flag) (value : Option String) : Except Usage Reading :=
  match r.settle with
  | .error fault => .error fault
  | .ok r =>
    match value with
    | some value => r.complete flag value
    | none => .ok { r with pending := some (flag, none) }

/-- A word that starts with two hyphens. -/
def addLong (r : Reading) (level : Level) (name : String) (value : Option String) :
    Except Usage Reading :=
  match level.flags.find? (·.long == name) with
  | none => .error .unknownArgument
  | some flag =>
    if flag.hasValue then r.addOption flag value
    else if value.isSome then .error .tooManyValues
    else r.addSwitch flag

/-- The letters after one hyphen: switches, up to an option that takes the rest as its value. -/
def addShort (r : Reading) (level : Level) : List Char → Except Usage Reading
  | [] => .ok r
  | letter :: rest =>
    match level.flags.find? (·.short == some letter) with
    | none => .error .unknownArgument
    | some flag =>
      if flag.hasValue then
        match rest with
        | [] => r.addOption flag none
        | '=' :: value => r.addOption flag (some (String.ofList value))
        | value => r.addOption flag (some (String.ofList value))
      else
        match r.addSwitch flag with
        | .ok next => addShort next level rest
        | .error fault => .error fault

/-- A word that is no option: the value that is awaited, or the operand. -/
def addWord (r : Reading) (level : Level) (word : String) : Except Usage Reading :=
  if level.hasOperand && r.operand.isNone then
    match r.settle with
    | .ok r => .ok { r with operand := some word }
    | .error fault => .error fault
  else if level.isGroup && !(r.trailing && (level.commands.lookup word).isSome) &&
      !(r.trailing && word == "help") then .error .invalidSubcommand
  else .error .unknownArgument

end Reading

/-- What a word is, by its form. -/
inductive Word where
  | escape
  | long (name : String) (value : Option String)
  | short (letters : List Char)
  | plain
deriving Repr, DecidableEq

/-- The form of a word. -/
def Word.of (word : String) : Word :=
  match word.toList with
  | ['-', '-'] => .escape
  | '-' :: '-' :: rest =>
    let (name, value) := Text.cutAt '=' rest
    .long (String.ofList name) (value.map String.ofList)
  | '-' :: letter :: rest => .short (letter :: rest)
  | _ => .plain

/-- A command line that has been read through: the command, its own options and operand, and the options
shared by all commands. -/
structure Read where
  level : Level
  given : List (Flag × String)
  operand : Option String
deriving Repr, DecidableEq

/-- What follows the word `help`: names of commands, one below the other. -/
def helpFor (level : Level) : List String → Usage
  | [] => .displayHelp
  | name :: rest =>
    match level.commands.lookup name with
    | some below => helpFor below rest
    | none => if name = "help" ∧ level.isGroup ∧ rest.isEmpty then .displayHelp else .invalidSubcommand

/-- The check at the end of a level. -/
def finish (level : Level) (r : Reading) : Except Usage Read :=
  match r.settle with
  | .error fault => .error fault
  | .ok r =>
    if level.isGroup then .error (if r.given.isEmpty then .helpOnMissing else .missingSubcommand)
    else if level.hasOperand && r.operand.isNone then .error .missingRequiredArgument
    else if level = .store ∧ (r.given.lookup .username).isNone then .error .missingRequiredArgument
    else .ok ⟨level, r.given, r.operand⟩

/-- The options of a level joined with those of the command below it, which count more. -/
def join (r : Reading) (below : Read) : Except Usage Read :=
  match r.settle with
  | .error fault => .error fault
  | .ok r =>
    let more := r.given.filter fun (flag, _) => (below.given.lookup flag).isNone
    .ok { below with given := below.given ++ more }

/-- The words of a level and of the commands below it. -/
def readWords (level : Level) (r : Reading) : List String → Except Usage Read
  | [] => finish level r
  | word :: rest =>
    let goOn (next : Except Usage Reading) : Except Usage Read :=
      match next with
      | .ok next => readWords level next rest
      | .error fault => .error fault
    if r.trailing then goOn (r.addWord level word)
    else
      match (if r.awaitsValue then none else level.commands.lookup word) with
      | some below =>
        match readWords below .start rest with
        | .ok read => join r read
        | .error fault => .error fault
      | none =>
        if word = "help" ∧ level.isGroup ∧ !r.awaitsValue then .error (helpFor level rest)
        else
          match Word.of word with
          | .escape => goOn (.ok { r with trailing := true })
          | .long name value => goOn (r.addLong level name value)
          | .short letters => goOn (r.addShort level letters)
          | .plain =>
            match r.pending with
            | some (flag, none) => goOn (.ok { r with pending := some (flag, some word) })
            | _ => goOn (r.addWord level word)

/-! ## Commands -/

/-- What the program is asked to do. -/
inductive Action where
  | ping
  | version
  | info
  | ps (all : Bool)
  | df
  | get (helper : Option String) (server : String)
  | store (helper : Option String) (server username : String)
  | erase (helper : Option String) (server : String)
  | list (helper : Option String)
  | lookup (registry : String)
deriving Repr, DecidableEq

/-- A command line. -/
structure Arguments where
  command : Action
  logLevel : Option LogLevel
  verbose : Bool
  config : Option String
  host : Option String
  apiVersion : Option String
  timeout : Option Nat
deriving Repr, DecidableEq

namespace Arguments

/-- The level of logging that is asked for. -/
def levelFilter (a : Arguments) : Option LogLevel :=
  match a.logLevel with
  | some level => some level
  | none => if a.verbose then some .debug else none

/-- The command of a line that has been read through. -/
def commandOf (r : Read) : Action :=
  let helper := r.given.lookup .helper
  let operand := r.operand.getD ""
  match r.level with
  | .version => .version
  | .info => .info
  | .ps => .ps (r.given.lookup .all).isSome
  | .df => .df
  | .get => .get helper operand
  | .store => .store helper operand ((r.given.lookup .username).getD "")
  | .erase => .erase helper operand
  | .list => .list helper
  | .lookup => .lookup operand
  | _ => .ping

/-- The command line that the words after the name of the program write. -/
def parse (words : List String) : Except Usage Arguments :=
  match readWords .root .start words with
  | .error fault => .error fault
  | .ok r =>
    .ok ⟨commandOf r, (r.given.lookup .logLevel).bind LogLevel.ofName, (r.given.lookup .verbose).isSome,
      r.given.lookup .config, r.given.lookup .host, r.given.lookup .apiVersion,
      (r.given.lookup .timeout).bind (Text.decimal Text.limit64)⟩

end Arguments

end EngineClient.Command
