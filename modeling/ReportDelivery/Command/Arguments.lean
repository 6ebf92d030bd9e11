import ReportDelivery.Setting

/-! Command line arguments.

A verb comes first, then options of that verb in any order. A long option may be shortened as far
as it stays clear, and its value may follow an equals sign; one-letter options may share a dash.
What looks like a negative number is a value, and after `--` everything is. Given as a value after
an equals sign, `--` empties the option. -/
namespace ReportDelivery

inductive Flag where
  | help
  | reportData
  | target
  | gitContext
  | rulesVersion
  | verbose
  | output
  | strict
  | apiKey
  | host
  | timeout
deriving DecidableEq

namespace Flag

def spellings : Flag → List String
  | .help => ["-h", "--help"]
  | .reportData => ["--report-data"]
  | .target => ["--target"]
  | .gitContext => ["--git-context"]
  | .rulesVersion => ["--rules-version"]
  | .verbose => ["-v", "--verbose"]
  | .output => ["--output"]
  | .strict => ["--strict"]
  | .apiKey => ["--api-key"]
  | .host => ["--host"]
  | .timeout => ["--timeout"]

def takesValue : Flag → Bool
  | .help | .verbose | .strict => false
  | _ => true

def name (flag : Flag) : Text := Text.join "/" (flag.spellings.map Text.ofString)

end Flag

inductive Verb where
  | build
  | send
deriving DecidableEq

namespace Verb

def all : List Verb := [.build, .send]

def name : Verb → Text
  | .build => "build"
  | .send => "send"

def flags : Verb → List Flag
  | .build =>
    [.help, .reportData, .target, .gitContext, .rulesVersion, .verbose, .output, .strict]
  | .send =>
    [.help, .reportData, .target, .gitContext, .rulesVersion, .verbose, .apiKey, .host, .timeout]

def required : Verb → List Flag
  | .build => [.reportData, .output]
  | .send => [.reportData]

end Verb

/-! ### Errors -/

inductive UsageProblem where
  | missing (names : List Text)
  | valueExpected (flag : Flag)
  | valueIgnored (flag : Flag) (value : Text)
  | ambiguous (argument : Text) (candidates : List Text)
  | notANumber (flag : Flag) (value : Text)
  | unknownVerb (name : Text)
  | unrecognized (arguments : List Text)

def UsageProblem.message : UsageProblem → Text
  | .missing names => "the following arguments are required: " ++ Text.join ", " names
  | .valueExpected flag => "argument " ++ flag.name ++ ": expected one argument"
  | .valueIgnored flag value =>
    "argument " ++ flag.name ++ ": ignored explicit argument " ++ value.quoted
  | .ambiguous argument candidates =>
    "ambiguous option: " ++ argument ++ " could match " ++ Text.join ", " candidates
  | .notANumber flag value =>
    "argument " ++ flag.name ++ ": invalid float value: " ++ value.quoted
  | .unknownVerb name =>
    "argument command: invalid choice: " ++ name.quoted ++ " (choose from "
      ++ Text.join ", " (Verb.all.map (·.name.quoted)) ++ ")"
  | .unrecognized arguments => "unrecognized arguments: " ++ Text.join " " arguments

/-- A problem with the arguments of a verb, or with those before it. -/
structure UsageError where
  verb : Option Verb
  problem : UsageProblem

def programName : Text := "scanreport"

def UsageError.message (e : UsageError) : Text :=
  let program := match e.verb with
    | none => programName
    | some verb => programName ++ " " ++ verb.name
  program ++ ": error: " ++ e.problem.message

/-- Why there are no arguments to run with. -/
inductive ArgumentStop where
  | help
  | problem (problem : UsageProblem)

/-! ### Tokens -/

inductive Token where
  /-- An argument that is no option. -/
  | plain (argument : Text)
  /-- The argument `--`. -/
  | separator
  /-- An option, with the text that the same argument gives it. -/
  | option (flag : Flag) (short : Bool) (attached : Option Text)
  | unknown (argument : Text)

def Token.argument : Token → Text
  | .plain argument => argument
  | .separator => "--"
  | .option flag _ _ => flag.name
  | .unknown argument => argument

/-- Every spelling with its option, in the order of definition. -/
def spelled (flags : List Flag) : List (Text × Flag) :=
  flags.flatMap fun flag => flag.spellings.map fun s => (Text.ofString s, flag)

def isShort (spelling : Text) : Bool := spelling[1]? != some (.char '-')

/-- The argument before and after the first equals sign, if it has one. -/
def splitEquals (argument : Text) : Text × Option Text :=
  match argument.dropWhile (· ≠ .char '=') with
  | [] => (argument, none)
  | _ :: rest => (argument.takeWhile (· ≠ .char '='), some rest)

/-- The spellings that a shortened option, or a one-letter option with text after it, can mean. -/
def candidates (flags : List Flag) (argument : Text) : List (Text × Token) :=
  (spelled flags).filterMap fun (spelling, flag) =>
    if isShort argument then
      if spelling = argument.take 2 then
        some (spelling, .option flag true (some (argument.drop 2)))
      else if argument.isPrefixOf spelling then
        some (spelling, .option flag (isShort spelling) none)
      else none
    else
      let (start, attached) := splitEquals argument
      if start.isPrefixOf spelling then some (spelling, .option flag (isShort spelling) attached)
      else none

/-- A minus sign before digits, which may have a point among them or before them. -/
def looksNegative (argument : Text) : Bool :=
  let isDigit := fun c => (Text.decimalDigit? c).isSome
  match (if argument.getLast? = some (.char '\n') then argument.dropLast else argument) with
  | .char '-' :: number =>
    match number.dropWhile isDigit with
    | [] => !number.isEmpty
    | .char '.' :: fraction => !fraction.isEmpty && fraction.all isDigit
    | _ => false
  | _ => false

def classify (flags : List Flag) (argument : Text) : Except UsageProblem Token :=
  let known := spelled flags
  if argument.head? ≠ some (.char '-') || argument = [.char '-'] then .ok (.plain argument)
  else
    let (start, attached) := splitEquals argument
    match known.lookup argument, known.lookup start with
    | some flag, _ => .ok (.option flag (isShort argument) none)
    | none, some flag => .ok (.option flag (isShort start) attached)
    | none, none =>
      match candidates flags argument with
      | [(_, token)] => .ok token
      | [] =>
        if looksNegative argument || argument.contains (.char ' ') then .ok (.plain argument)
        else .ok (.unknown argument)
      | several => .error (.ambiguous argument (several.map (·.1)))

def tokens (flags : List Flag) : List Text → Except UsageProblem (List Token)
  | [] => .ok []
  | argument :: rest =>
    if argument = "--" then .ok (.separator :: rest.map .plain)
    else return (← classify flags argument) :: (← tokens flags rest)

/-! ### Options -/

/-- What the options of either verb have been set to. -/
structure Options where
  reportData : Option (Setting Text) := none
  target : Setting Text := .value "."
  gitContext : Option (Setting Text) := none
  rulesVersion : Setting Text := .value []
  verbose : Bool := false
  output : Option (Setting Text) := none
  strict : Bool := false
  apiKey : Option (Setting Text) := none
  host : Option (Setting Text) := none
  timeout : Setting Binary64 := .value (.ofDecimal false 30 0)
  /-- Arguments that no option took. -/
  extra : List Text := []

namespace Options

/-- Sets an option; a value that is not needed is ignored. -/
def set (options : Options) (flag : Flag) (value : Setting Text) : Except ArgumentStop Options :=
  match flag with
  | .help => .error .help
  | .reportData => .ok { options with reportData := some value }
  | .target => .ok { options with target := value }
  | .gitContext => .ok { options with gitContext := some value }
  | .rulesVersion => .ok { options with rulesVersion := value }
  | .verbose => .ok { options with verbose := true }
  | .output => .ok { options with output := some value }
  | .strict => .ok { options with strict := true }
  | .apiKey => .ok { options with apiKey := some value }
  | .host => .ok { options with host := some value }
  | .timeout =>
    match value with
    | .emptied => .ok { options with timeout := .emptied }
    | .value text =>
      match text.readDecimal? with
      | some x => .ok { options with timeout := .value x }
      | none => .error (.problem (.notANumber flag text))

def addExtra (options : Options) (argument : Text) : Options :=
  { options with extra := options.extra ++ [argument] }

def isSet (options : Options) : Flag → Bool
  | .reportData => options.reportData.isSome
  | .output => options.output.isSome
  | _ => true

end Options

/-- The one-letter options that share a dash with `flag`, itself first. None of them takes a
value, so every letter has to be one of them. -/
def cluster (flags : List Flag) (flag : Flag) : Text → Except UsageProblem (List Flag)
  | [] => .ok [flag]
  | letter :: rest =>
    match (spelled flags).lookup [.char '-', letter] with
    | none => .error (.valueIgnored flag (letter :: rest))
    | some next => return flag :: (← cluster flags next rest)

/-- Sets an option that takes no value. Letters attached to a one-letter option are further ones,
also after an equals sign. -/
def applySwitch (flags : List Flag) (options : Options) (flag : Flag) (short : Bool) :
    Option Text → Except ArgumentStop Options
  | none => options.set flag .emptied
  | some text =>
    if short && !text.isEmpty then do
      let together ← (cluster flags flag text).mapError .problem
      together.foldlM (fun options flag => options.set flag .emptied) options
    else .error (.problem (.valueIgnored flag text))

/-- The value that an option takes from its own argument. -/
def attachedValue (text : Text) : Setting Text := if text = "--" then .emptied else .value text

def applyTokens (flags : List Flag) (options : Options) : List Token → Except ArgumentStop Options
  | [] => .ok options
  | .option flag short attached :: rest =>
    if flag.takesValue then
      match attached, rest with
      | some text, rest => do applyTokens flags (← options.set flag (attachedValue text)) rest
      | none, .plain value :: rest => do applyTokens flags (← options.set flag value) rest
      | none, _ => .error (.problem (.valueExpected flag))
    else do applyTokens flags (← applySwitch flags options flag short attached) rest
  | token :: rest => applyTokens flags (options.addExtra token.argument) rest

/-! ### Arguments -/

structure BuildArguments where
  output : Setting Text
  strict : Bool

structure SendArguments where
  apiKey : Option (Setting Text)
  host : Option (Setting Text)
  timeout : Setting Binary64

inductive VerbArguments where
  | build (arguments : BuildArguments)
  | send (arguments : SendArguments)

structure Arguments where
  reportData : Setting Text
  target : Setting Text
  gitContext : Option (Setting Text)
  rulesVersion : Setting Text
  verbose : Bool
  verb : VerbArguments

def Arguments.ofOptions (verb : Verb) (options : Options) : Arguments where
  reportData := options.reportData.getD .emptied
  target := options.target
  gitContext := options.gitContext
  rulesVersion := options.rulesVersion
  verbose := options.verbose
  verb := match verb with
    | .build => .build ⟨options.output.getD .emptied, options.strict⟩
    | .send => .send ⟨options.apiKey, options.host, options.timeout⟩

/-- Help was asked for, or the arguments are wrong. -/
inductive UsageStop where
  | help (verb : Option Verb)
  | error (error : UsageError)

/-- The stop as it concerns the arguments of `verb`, or those before any verb. -/
def UsageStop.within (verb : Option Verb) : ArgumentStop → UsageStop
  | .help => .help verb
  | .problem problem => .error ⟨verb, problem⟩

/-- The options of a verb, all required ones among them. -/
def Verb.readOptions (verb : Verb) (arguments : List Text) : Except ArgumentStop Options := do
  let tokens ← (tokens verb.flags arguments).mapError .problem
  let options ← applyTokens verb.flags {} tokens
  match verb.required.filter (!options.isSet ·) with
  | [] => return options
  | missing => .error (.problem (.missing (missing.map (·.name))))

/-- What follows a verb. `extra` holds unknown options from before it. -/
def readVerb (extra : List Text) (name : Text) (rest : List Text) : Except UsageStop Arguments :=
  match Verb.all.find? (·.name = name) with
  | none => .error (.error ⟨none, .unknownVerb name⟩)
  | some verb => do
    let options ← (verb.readOptions rest).mapError (.within (some verb))
    match extra ++ options.extra with
    | [] => return .ofOptions verb options
    | extra => .error (.error ⟨none, .unrecognized extra⟩)

def readArguments (extra : List Text) : List Text → Except UsageStop Arguments
  | [] => .error (.error ⟨none, .missing ["command"]⟩)
  | argument :: rest =>
    if argument = "--" then
      if rest.isEmpty then .error (.error ⟨none, .missing ["command"]⟩)
      else readVerb extra argument rest
    else do
      match ← (classify [.help] argument).mapError (fun problem => .error ⟨none, problem⟩) with
      | .option flag short attached =>
        let _ ← (applySwitch [.help] {} flag short attached).mapError (.within none)
        readArguments extra rest
      | .unknown argument => readArguments (extra ++ [argument]) rest
      | _ => readVerb extra argument rest

/-- The meaning of a whole command line. -/
def Arguments.read (arguments : List Text) : Except UsageStop Arguments :=
  readArguments [] arguments

end ReportDelivery
