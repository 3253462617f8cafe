/-!
# Command-line options

The arguments of the command are read from left to right, and the first one that settles the matter
wins: a request for help or for the version is granted at once, and an argument that makes no sense
is refused at once.
-/

namespace Lexis.Command

structure Options where
  input : String
  all : Bool
  verbose : Bool
  deriving DecidableEq, Repr

inductive UsageError where
  | unknownOption (option : String)
  | unexpectedValue (option : String)
  | repeatedOption (option : String)
  | emptyInput
  | unexpectedArgument (argument : String)
  deriving DecidableEq, Repr

namespace UsageError

def message : UsageError → String
  | .unknownOption option => "unexpected option '" ++ option ++ "'"
  | .unexpectedValue option => "option '" ++ option ++ "' takes no value"
  | .repeatedOption option => "option '" ++ option ++ "' is given more than once"
  | .emptyInput => "the input path is empty"
  | .unexpectedArgument argument => "unexpected argument '" ++ argument ++ "'"

end UsageError

inductive Flag where
  | all
  | verbose
  | help
  | version
  deriving DecidableEq, Repr

namespace Flag

def every : List Flag :=
  [.all, .verbose, .help, .version]

def longName : Flag → String
  | .all => "all"
  | .verbose => "verbose"
  | .help => "help"
  | .version => "version"

def letter? : Flag → Option Char
  | .all => none
  | .verbose => some 'v'
  | .help => some 'h'
  | .version => some 'V'

def ofLongName? (name : String) : Option Flag :=
  every.find? (·.longName == name)

def ofLetter? (letter : Char) : Option Flag :=
  every.find? (·.letter? == some letter)

end Flag

/-- What an argument that settles the matter leads to. -/
inductive Verdict where
  | help
  | version
  | refused (error : UsageError)
  deriving DecidableEq, Repr

/-- What is known after some of the arguments. The remaining ones may be known to be operands,
whatever they look like. -/
structure Reading where
  input : Option String
  all : Bool
  verbose : Bool
  operandsOnly : Bool
  deriving DecidableEq, Repr

namespace Reading

def initial : Reading where
  input := none
  all := false
  verbose := false
  operandsOnly := false

def defaultInput : String := "input.txt"

def options (reading : Reading) : Options where
  input := reading.input.getD defaultInput
  all := reading.all
  verbose := reading.verbose

/-- Takes an option into account, `shown` being the way it was written. -/
def flag (reading : Reading) (shown : String) : Flag → Except Verdict Reading
  | .help => .error .help
  | .version => .error .version
  | .all =>
      if reading.all then
        .error (.refused (.repeatedOption shown))
      else
        .ok { reading with all := true }
  | .verbose =>
      if reading.verbose then
        .error (.refused (.repeatedOption shown))
      else
        .ok { reading with verbose := true }

def operand (reading : Reading) (argument : String) : Except Verdict Reading :=
  match reading.input with
  | some _ => .error (.refused (.unexpectedArgument argument))
  | none =>
      if argument = "" then
        .error (.refused .emptyInput)
      else
        .ok { reading with input := some argument }

def longOption (reading : Reading) (name : List Char) : Except Verdict Reading :=
  let shown := "--" ++ String.ofList (name.takeWhile (· != '='))
  match Flag.ofLongName? (String.ofList (name.takeWhile (· != '='))) with
  | none => .error (.refused (.unknownOption shown))
  | some flag =>
      if '=' ∈ name then
        .error (.refused (.unexpectedValue shown))
      else
        reading.flag shown flag

/-- Takes a run of letters that stand for options into account. -/
def letters (reading : Reading) : List Char → Except Verdict Reading
  | [] => .ok reading
  | letter :: later =>
      let shown := String.ofList ['-', letter]
      match Flag.ofLetter? letter with
      | none => .error (.refused (.unknownOption shown))
      | some flag => (reading.flag shown flag).bind fun next => next.letters later

/-- Takes an argument into account. Two hyphens alone end the options; one hyphen alone is a path.
-/
def argument (reading : Reading) (argument : String) : Except Verdict Reading :=
  if reading.operandsOnly then
    reading.operand argument
  else
    match argument.toList with
    | ['-', '-'] => .ok { reading with operandsOnly := true }
    | '-' :: '-' :: name => reading.longOption name
    | ['-'] => reading.operand argument
    | '-' :: flags => reading.letters flags
    | _ => reading.operand argument

end Reading

def parseArguments (arguments : List String) : Except Verdict Options :=
  (arguments.foldlM Reading.argument Reading.initial).map Reading.options

end Lexis.Command
