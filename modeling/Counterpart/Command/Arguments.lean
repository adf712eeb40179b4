import Counterpart.Command.Invocation

/-!
# Arguments of the command line

Arguments are read on two levels, in front of the name of a task and behind it.  Each level
has options with a value, flags and words; the general options may stand on both levels, and
the inner level decides.  Any argument that does not fit makes the command line unusable.
-/

namespace Counterpart

/-- The options of a command line. -/
inductive OptionName
  | verbose
  | format
  | settings
  | library
  | check
  deriving DecidableEq

namespace OptionName

def longName : OptionName → String
  | verbose => "verbose"
  | format => "format"
  | settings => "config"
  | library => "library"
  | check => "check"

def hasValue : OptionName → Bool
  | verbose => false
  | format => true
  | settings => true
  | library => true
  | check => false

end OptionName

/-- The options of a level, each with its letter if it has one. -/
abbrev Options := List (OptionName × Option Char)

def generalOptions : Options :=
  [(.verbose, some 'v'), (.format, some 'f')]

/-- The name of a task. -/
inductive TaskName
  | diff
  | batch
  | explain
  deriving DecidableEq

namespace TaskName

def ofName? : String → Option TaskName
  | "diff" => some diff
  | "batch" => some batch
  | "explain" => some explain
  | _ => none

/-- The options behind the name of a task. -/
def options : TaskName → Options
  | diff =>
    [(.settings, some 'c'), (.library, none), (.check, none)] ++ generalOptions
  | batch => [(.library, some 'l'), (.check, none)] ++ generalOptions
  | explain => [(.settings, some 'c')] ++ generalOptions

end TaskName

/-- A part of a level of arguments. -/
inductive Argument
  | flag (option : OptionName)
  | value (option : OptionName) (text : String)
  | word (text : String)
  deriving DecidableEq

/-- Whether an argument is read as an option; a single dash is a word. -/
def looksLikeOption (argument : String) : Bool :=
  match argument.toList with
  | '-' :: _ :: _ => true
  | _ => false

/-- The flags of a group of letters, and the option with a value at its end: with the rest of
the group as its value, or still without one. -/
def readLetters? (options : Options) : List Char → Option (List Argument × Option OptionName)
  | [] => some ([], none)
  | letter :: rest =>
    match options.find? (fun option => option.2 == some letter) with
    | none => none
    | some (option, _) =>
      if option.hasValue then
        match rest with
        | [] => some ([], some option)
        | '=' :: text => some ([.value option (String.ofList text)], none)
        | text => some ([.value option (String.ofList text)], none)
      else
        (readLetters? options rest).map fun (arguments, open?) =>
          (.flag option :: arguments, open?)

/-- A long option, with the value after an equals sign or still without one. -/
def readLong? (options : Options) (chars : List Char) :
    Option (List Argument × Option OptionName) :=
  let name := String.ofList (chars.takeWhile (· != '='))
  match options.find? (fun option => option.1.longName == name), chars.dropWhile (· != '=') with
  | none, _ => none
  | some (option, _), [] =>
    if option.hasValue then some ([], some option) else some ([.flag option], none)
  | some (option, _), _ :: text =>
    if option.hasValue then some ([.value option (String.ofList text)], none) else none

/-- An argument that is read as an option. -/
def readOption? (options : Options) (argument : String) :
    Option (List Argument × Option OptionName) :=
  match argument.toList with
  | '-' :: '-' :: chars => readLong? options chars
  | '-' :: letters => readLetters? options letters
  | _ => none

/-- The arguments of the inner level; an option may be waiting for its value. -/
def readArguments? (options : Options) : Option OptionName → List String → Option (List Argument)
  | none, [] => some []
  | some _, [] => none
  | some option, argument :: rest =>
    if looksLikeOption argument then none
    else (readArguments? options none rest).map (.value option argument :: ·)
  | none, argument :: rest =>
    if argument = "--" then some (rest.map .word)
    else if looksLikeOption argument then
      match readOption? options argument with
      | none => none
      | some (arguments, open?) => (readArguments? options open? rest).map (arguments ++ ·)
    else (readArguments? options none rest).map (.word argument :: ·)

/-- The arguments of the outer level, up to the first word: the name of a task, behind which
the inner level begins. -/
def readOuter? :
    Option OptionName → List String → Option (List Argument × TaskName × List String)
  | _, [] => none
  | some option, argument :: rest =>
    if looksLikeOption argument then none
    else
      (readOuter? none rest).map fun (arguments, task) =>
        (.value option argument :: arguments, task)
  | none, argument :: rest =>
    if looksLikeOption argument then
      match readOption? generalOptions argument with
      | none => none
      | some (arguments, open?) =>
        (readOuter? open? rest).map fun (others, task) => (arguments ++ others, task)
    else (TaskName.ofName? argument).map fun task => ([], task, rest)

namespace Arguments

def words (arguments : List Argument) : List String :=
  arguments.filterMap fun
    | .word text => some text
    | _ => none

/-- The values of an option on a level. -/
def values (option : OptionName) (arguments : List Argument) : List String :=
  arguments.filterMap fun
    | .value other text => if other = option then some text else none
    | _ => none

/-- The value of an option that may be given once on a level. -/
def value? (option : OptionName) (arguments : List Argument) : Option (Option String) :=
  match values option arguments with
  | [] => some none
  | [text] => some (some text)
  | _ => none

/-- The value of an option that may be given once on a level and has to satisfy a reader. -/
def valueBy?
    {α : Type} (option : OptionName) (read : String → Option α) (arguments : List Argument) :
    Option (Option α) :=
  match value? option arguments with
  | none => none
  | some none => some none
  | some (some text) => (read text).map some

/-- A flag that may be given once on a level. -/
def flag? (option : OptionName) (arguments : List Argument) : Option Bool :=
  match arguments.count (.flag option) with
  | 0 => some false
  | 1 => some true
  | _ => none

/-- A path, which is not empty. -/
def path? (text : String) : Option String :=
  if text = "" then none else some text

end Arguments

open Arguments in
/-- The task that the arguments behind its name ask for. -/
def readTask? (name : TaskName) (arguments : List Argument) : Option Task :=
  match name, words arguments with
  | .diff, [reference, target] => do
    let reference ← path? reference
    let target ← path? target
    let settings ← valueBy? .settings path? arguments
    let library ← value? .library arguments
    let check ← flag? .check arguments
    return .diff { reference, target, settings, library, check }
  | .batch, [settings] => do
    let settings ← path? settings
    let check ← flag? .check arguments
    return .batch { settings, libraries := values .library arguments, check }
  | .explain, [reference, target, typeName] => do
    let reference ← path? reference
    let target ← path? target
    let settings ← valueBy? .settings path? arguments
    return .explain { reference, target, typeName, settings }
  | _, _ => none

open Arguments in
/-- What a list of arguments asks for, if it can be used. -/
def Invocation.ofArguments? (arguments : List String) : Option Invocation := do
  let (outer, name, rest) ← readOuter? none arguments
  let inner ← readArguments? name.options none rest
  let task ← readTask? name inner
  let outerFormat ← valueBy? .format Format.ofName? outer
  let innerFormat ← valueBy? .format Format.ofName? inner
  let outerVerbose ← flag? .verbose outer
  let innerVerbose ← flag? .verbose inner
  return {
    task
    format := (innerFormat.or outerFormat).getD .text
    verbose := outerVerbose || innerVerbose }

end Counterpart
