import SemanticLayer.Generation
namespace SemanticLayer.CommandLine

/-! What the arguments of the program ask for.

An option is given at most once on each level; those of the program may also come after the name
of a command, where they win. -/

inductive Format where
  | lookml | json
deriving DecidableEq, Repr, Inhabited

def format? (text : String) : Option Format :=
  if text == "lookml" then some .lookml
  else if text == "json" then some .json
  else none

structure GenerateRequest where
  input : String
  output : Option String := none
  /-- Goes before the mode of the settings. -/
  mode : Option Mode := none
  dryRun : Bool := false
  format : Format := .lookml
deriving DecidableEq, Repr, Inhabited

inductive Command where
  | generate (request : GenerateRequest)
  | validate (input : String)
  | list (input : String)
deriving DecidableEq, Repr, Inhabited

structure Invocation where
  /-- The settings file, if one is named. -/
  config : Option String := none
  verbose : Bool := false
  command : Command
deriving DecidableEq, Repr, Inhabited

inductive Request where
  | invocation (invocation : Invocation)
  | version
  | help
deriving DecidableEq, Repr, Inhabited

inductive OptionName where
  | config | verbose | version | help | output | strict | lenient | dryRun | format
deriving DecidableEq, Repr, Inhabited

namespace OptionName

def long : OptionName → String
  | .config => "config"
  | .verbose => "verbose"
  | .version => "version"
  | .help => "help"
  | .output => "output"
  | .strict => "strict"
  | .lenient => "lenient"
  | .dryRun => "dry-run"
  | .format => "format"

def short? : OptionName → Option Char
  | .config => some 'c'
  | .verbose => some 'v'
  | .version => some 'V'
  | .help => some 'h'
  | .output => some 'o'
  | .format => some 'f'
  | _ => none

def takesValue : OptionName → Bool
  | .config | .output | .format => true
  | _ => false

def mayRepeat (name : OptionName) : Bool := name == .verbose

/-- A path must not be empty, and only known formats are accepted. -/
def accepts (name : OptionName) (value : String) : Bool :=
  match name with
  | .config | .output => !value.isEmpty
  | .format => (format? value).isSome
  | _ => true

/-- Options that answer by themselves, whatever comes after them. -/
def answer? : OptionName → Option Request
  | .version => some .version
  | .help => some .help
  | _ => none

end OptionName

/-- The options of the program itself. -/
def programOptions : List OptionName := [.config, .verbose, .version, .help]

def sharedOptions : List OptionName := [.config, .verbose, .help]

def generateOptions : List OptionName :=
  sharedOptions ++ [.output, .strict, .lenient, .dryRun, .format]

/-- What was given on one level. -/
structure Given where
  options : List (OptionName × String) := []
  operands : List String := []
deriving Repr

namespace Given

def has (given : Given) (name : OptionName) : Bool :=
  given.options.any fun option => option.1 == name

def value? (given : Given) (name : OptionName) : Option String := given.options.lookup name

def add (given : Given) (name : OptionName) (value : String) : Option Given :=
  if (given.has name && !name.mayRepeat) || !name.accepts value then none
  else some { given with options := given.options ++ [(name, value)] }

end Given

/-- Is the argument one that options start with, and so no value of an option? -/
def looksLikeOption (argument : String) : Bool := argument.startsWith "-" && argument != "-"

/-- The value of an option that stands in an argument of its own. -/
def nextValue? : List String → Option (String × List String)
  | [] => none
  | argument :: rest => if looksLikeOption argument then none else some (argument, rest)

/-- What reading an option leads to: an answer, or more options and the arguments after
them. -/
inductive Step where
  | answer (request : Request)
  | proceed (given : Given) (rest : List String)
deriving Repr

/-- `--name`, `--name=value` or `--name value`. -/
def readLong (known : List OptionName) (written : List Char) (rest : List String)
    (given : Given) : Option Step := do
  let name := written.takeWhile (· != '=')
  let option ← known.find? fun option => option.long.toList == name
  match written.drop name.length with
  | _ :: value =>
      if option.takesValue then return .proceed (← given.add option (String.ofList value)) rest
      else none
  | [] =>
      if option.takesValue then
        let (value, rest) ← nextValue? rest
        return .proceed (← given.add option value) rest
      else
        match option.answer? with
        | some request => return .answer request
        | none => return .proceed (← given.add option "") rest

/-- Letters after one hyphen. An option with a value takes what is left of the argument,
with or without an equals sign, or else the next argument. -/
def readShort (known : List OptionName) (rest : List String) :
    List Char → Given → Option Step
  | [], given => some (.proceed given rest)
  | c :: letters, given => do
      let option ← known.find? fun option => option.short? == some c
      if option.takesValue then
        match letters with
        | [] =>
            let (value, rest) ← nextValue? rest
            return .proceed (← given.add option value) rest
        | '=' :: value => return .proceed (← given.add option (String.ofList value)) rest
        | value => return .proceed (← given.add option (String.ofList value)) rest
      else
        match option.answer? with
        | some request => return .answer request
        | none => readShort known rest letters (← given.add option "")

/-- An argument for which `looksLikeOption` holds, with those after it. -/
def readOption (known : List OptionName) (argument : String) (rest : List String)
    (given : Given) : Option Step :=
  match argument.toList with
  | '-' :: '-' :: written => readLong known written rest given
  | '-' :: letters => readShort known rest letters given
  | _ => none

/-- Options and operands in any order; after `--` there are only operands. -/
def readLevel (known : List OptionName) (given : Given) :
    List String → Nat → Option (Except Request Given)
  | [], _ => some (.ok given)
  | _ :: _, 0 => none
  | argument :: rest, fuel + 1 =>
      if argument == "--" then some (.ok { given with operands := given.operands ++ rest })
      else if looksLikeOption argument then do
        match ← readOption known argument rest given with
        | .answer request => return .error request
        | .proceed given rest => readLevel known given rest fuel
      else readLevel known { given with operands := given.operands ++ [argument] } rest fuel

/-- The only operand, a path that must not be empty. -/
def input? (given : Given) : Option String :=
  match given.operands with
  | [input] => if input.isEmpty then none else some input
  | _ => none

/-- One of the two modes, not both. -/
def mode? (given : Given) : Option (Option Mode) :=
  match given.has .strict, given.has .lenient with
  | true, true => none
  | true, false => some (some .strict)
  | false, true => some (some .lenient)
  | false, false => some none

def generateRequest? (given : Given) : Option GenerateRequest := do
  return {
    input := ← input? given
    output := given.value? .output
    mode := ← mode? given
    dryRun := given.has .dryRun
    format := ((given.value? .format).bind format?).getD .lookml }

def command? (name : String) (given : Given) : Option Command :=
  match name with
  | "generate" => (generateRequest? given).map .generate
  | "validate" => (input? given).map .validate
  | "list" => (input? given).map .list
  | _ => none

def commandOptions? (name : String) : Option (List OptionName) :=
  match name with
  | "generate" => some generateOptions
  | "validate" | "list" => some sharedOptions
  | _ => none

/-- The command with its arguments, after the options of the program in `outer`. -/
def readCommand (outer : Given) (name : String) (arguments : List String) : Option Request := do
  if name == "help" then
    if arguments.all fun argument => (commandOptions? argument).isSome || argument == "help" then
      return .help
    else none
  let known ← commandOptions? name
  match ← readLevel known {} arguments arguments.length with
  | .error request => return request
  | .ok given =>
      return .invocation {
        config := given.value? .config <|> outer.value? .config
        verbose := given.has .verbose || outer.has .verbose
        command := ← command? name given }

/-- The options of the program and then the command. -/
def readArguments (outer : Given) : List String → Nat → Option Request
  | [], _ => none
  | _ :: _, 0 => none
  | argument :: rest, fuel + 1 =>
      if looksLikeOption argument then do
        match ← readOption programOptions argument rest outer with
        | .answer request => return request
        | .proceed outer rest => readArguments outer rest fuel
      else readCommand outer argument rest

/-- What the arguments ask for, unless they are not allowed. -/
def Request.ofArguments? (arguments : List String) : Option Request :=
  readArguments {} arguments arguments.length

end SemanticLayer.CommandLine
