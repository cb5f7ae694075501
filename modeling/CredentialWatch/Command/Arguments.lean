import CredentialWatch.Text.Quoted

/-!
# Command-line arguments

There are two commands: `inspect` takes the path of a settings file and the flag `--json`, `watch`
takes the path alone. The path may be left out but not be empty; it is looked at only when the next
flag that takes effect or the end is reached. Asking for help ends the reading of arguments, and so
does the first one that does not fit.
-/
namespace CredentialWatch

inductive Command where
  | inspect (settings? : Option String) (json : Bool)
  | watch (settings? : Option String)
  deriving DecidableEq, Repr

/-- Why arguments do not give a command. -/
inductive UsageError where
  | help
  | missingCommand
  | unknownCommand
  | unknownArgument
  | tooManyValues
  | repeatedFlag
  | emptyValue
  deriving DecidableEq, Repr

namespace UsageError

/-- The exit code of the program: asking for help is no failure. -/
def exitCode : UsageError → Nat
  | help => 0
  | _ => 2

end UsageError

namespace Command

def settings? : Command → Option String
  | inspect settings? _ => settings?
  | watch settings? => settings?

/-- Whether a command runs until it is told to stop. -/
def isLongRunning : Command → Bool
  | inspect _ _ => false
  | watch _ => true

def shown : Command → String
  | inspect settings? json =>
    Text.Quoted.record "Inspect"
      [("settings", Text.Quoted.optional (settings?.map Text.Quoted.quote)),
        ("json", toString json)]
  | watch settings? =>
    Text.Quoted.record "Watch"
      [("settings", Text.Quoted.optional (settings?.map Text.Quoted.quote))]

namespace Arguments

/-- The names of the commands. -/
inductive Name where
  | inspect
  | watch
  deriving DecidableEq, Repr

def name? (word : String) : Option Name :=
  if word = "inspect" then some .inspect
  else if word = "watch" then some .watch
  else none

/-- What an argument is by its form. -/
inductive Form where
  /-- Two dashes alone: no flags follow. -/
  | separator
  | longFlag (name : List Char) (hasValue : Bool)
  | shortFlags (first : Char)
  | word
  deriving DecidableEq, Repr

def Form.of (argument : String) : Form :=
  match argument.toList with
  | ['-', '-'] => .separator
  | '-' :: '-' :: rest => .longFlag (rest.takeWhile (· != '=')) (rest.contains '=')
  | '-' :: first :: _ => .shortFlags first
  | _ => .word

/-- The arguments of a command as far as they are read. -/
structure Progress where
  path? : Option String
  json : Bool
  deriving DecidableEq, Repr

/-- Look at the path. -/
def checkPath (progress : Progress) : Except UsageError Unit :=
  if progress.path? = some "" then .error .emptyValue else .ok ()

def takeWord (progress : Progress) (word : String) : Except UsageError Progress :=
  if progress.path?.isSome then .error .unknownArgument
  else .ok { progress with path? := some word }

/-- Read the arguments of a command. -/
def read (name : Name) : Bool → Progress → List String → Except UsageError Progress
  | _, progress, [] => do
    checkPath progress
    return progress
  | flagsEnded, progress, argument :: rest => do
    if flagsEnded then
      read name true (← takeWord progress argument) rest
    else
      match Form.of argument with
      | .separator => read name true progress rest
      | .word => read name false (← takeWord progress argument) rest
      | .shortFlags first =>
        if first ≠ 'h' then throw .unknownArgument
        checkPath progress
        throw .help
      | .longFlag flag hasValue =>
        if flag = ['h', 'e', 'l', 'p'] then
          if hasValue then throw .tooManyValues
          checkPath progress
          throw .help
        else if flag = ['j', 's', 'o', 'n'] ∧ name = .inspect then
          if hasValue then throw .tooManyValues
          checkPath progress
          if progress.json then throw .repeatedFlag
          read name false { progress with json := true } rest
        else throw .unknownArgument

/-- What asking for help about some words comes to. A word has to be a command or the request for
help itself, none of which has commands below it. -/
def helpAbout : List String → UsageError
  | [] => .help
  | [word] => if (name? word).isSome ∨ word = "help" then .help else .unknownCommand
  | _ => .unknownCommand

end Arguments

/-- The command that arguments give. -/
def ofArguments : List String → Except UsageError Command
  | [] => .error .missingCommand
  | argument :: rest =>
    match Arguments.Form.of argument with
    | .separator =>
      match rest with
      | [] => .error .missingCommand
      | word :: _ =>
        if (Arguments.name? word).isSome ∨ word = "help" then .error .unknownArgument
        else .error .unknownCommand
    | .shortFlags first => .error (if first = 'h' then .help else .unknownArgument)
    | .longFlag flag hasValue =>
      if flag = ['h', 'e', 'l', 'p'] then .error (if hasValue then .tooManyValues else .help)
      else .error .unknownArgument
    | .word =>
      if argument = "help" then .error (Arguments.helpAbout rest)
      else
        match Arguments.name? argument with
        | none => .error .unknownCommand
        | some name => do
          let progress ← Arguments.read name false ⟨none, false⟩ rest
          return match name with
            | .inspect => .inspect progress.path? progress.json
            | .watch => .watch progress.path?

end Command

end CredentialWatch
