import Arboretum.Command.Generate
import Arboretum.Command.OptionValue
import Arboretum.Command.Simulate

/-!
The command line. A command is named first and takes options in any order; an option's value follows
it as the next argument or after an equals sign, the last value of an option counts, and nothing
else may stand on the line. Two hyphens end the options, those before the command or those after it.
-/

namespace Arboretum.CommandLine

set_option autoImplicit false

inductive OptionKind where
  | value
  | flag
  deriving DecidableEq, Repr

abbrev GivenOptions : Type := List (String × String)

def generateKinds : List (String × OptionKind) :=
  [
    ("--score", .value), ("--seed", .value), ("--rule-set", .value), ("--name", .value),
    ("--json", .flag), ("--help", .flag)
  ]

def simulateKinds : List (String × OptionKind) :=
  [
    ("--score", .value), ("--seed", .value), ("--rule-set", .value), ("--frames", .value),
    ("--frame-ms", .value), ("--help", .flag)
  ]

def splitArgument (argument : String) : String × Option String :=
  let symbols := argument.toList
  match symbols.dropWhile (· != '=') with
  | [] => (argument, none)
  | _ :: value =>
      (String.ofList (symbols.takeWhile (· != '=')), some (String.ofList value))

structure GivenLine where
  options : GivenOptions
  others : List String

def GivenLine.withOption (name value : String) (line : GivenLine) : GivenLine :=
  { line with options := (name, value) :: line.options }

def looksLikeOption (argument : String) : Bool :=
  argument.toList.head? == some '-' && argument != "-"

/-- Tells the options of a command from other arguments; `none` if an option is unknown, or has a
value too many or too few. -/
def readLine (kinds : List (String × OptionKind)) : List String → Option GivenLine
  | [] => some ⟨[], []⟩
  | "--" :: rest => some ⟨[], rest⟩
  | argument :: rest =>
      let (name, carried) := splitArgument argument
      match kinds.find? fun kind => kind.1 == name with
      | none =>
          if looksLikeOption argument then none
          else (readLine kinds rest).map fun line => { line with others := argument :: line.others }
      | some (_, .flag) =>
          match carried with
          | some _ => none
          | none => (readLine kinds rest).map (GivenLine.withOption name "")
      | some (_, .value) =>
          match carried with
          | some value => (readLine kinds rest).map (GivenLine.withOption name value)
          | none =>
              match rest with
              | [] => none
              | value :: others => (readLine kinds others).map (GivenLine.withOption name value)

def lastValue? (given : GivenOptions) (name : String) : Option String :=
  (given.reverse.find? fun option => option.1 == name).map Prod.snd

def readValue? {β : Type} (given : GivenOptions) (name : String) (read : String → Option β)
    (usual : β) : Option β :=
  match lastValue? given name with
  | none => some usual
  | some text => read text

def readSource? (given : GivenOptions) (entropy : Int) : Option Chance.Source :=
  (readValue? given "--seed" OptionValue.readInteger? entropy).map Chance.Source.ofSeed

def readGenerate? (given : GivenOptions) (entropy : Int) : Option GenerateOptions := do
  let score ← readValue? given "--score" OptionValue.readReal? 0.0
  let source ← readSource? given entropy
  return {
    score := .real score
    source
    ruleSet := lastValue? given "--rule-set"
    displayName := (lastValue? given "--name").getD ""
    asDocument := (lastValue? given "--json").isSome }

def usualFrames : Int := 600

def usualFrameMs : Float := 16.0

def readSimulate? (given : GivenOptions) (entropy : Int) : Option SimulateOptions := do
  let score ← readValue? given "--score" OptionValue.readReal? 0.0
  let source ← readSource? given entropy
  let frames ← readValue? given "--frames" OptionValue.readInteger? usualFrames
  let frameMs ← readValue? given "--frame-ms" OptionValue.readReal? usualFrameMs
  if 1 ≤ frames ∧ 1.0 ≤ frameMs then
    return {
      score := .real score
      source
      ruleSet := lastValue? given "--rule-set"
      frames
      frameMs }
  else none

def help : List String :=
  [
    "Grow an animated L-system tree from an activity score.",
    "generate [--score NUMBER] [--seed INTEGER] [--rule-set NAME] [--name TEXT] [--json]",
    "simulate [--score NUMBER] [--seed INTEGER] [--rule-set NAME] [--frames COUNT] " ++
      "[--frame-ms NUMBER]"
  ]

def helpRun : CommandRun := ⟨[], .ok (.done (.lines help))⟩

def usageRun : CommandRun := ⟨[], .ok ⟨CommandReport.usageCode, .lines []⟩⟩

/-- Runs a command on the arguments after its name. Help that is asked for comes before any
complaint about a value or an argument that belongs to no option. -/
def runCommand {β : Type} (kinds : List (String × OptionKind)) (arguments : List String)
    (read : GivenOptions → Option β) (run : β → CommandRun) : CommandRun :=
  match readLine kinds arguments with
  | none => usageRun
  | some line =>
      if (lastValue? line.options "--help").isSome then helpRun
      else
        match read line.options, line.others with
        | some options, [] => run options
        | _, _ => usageRun

def runNamed (environment : Environment) (entropy : Int) : List String → CommandRun
  | "generate" :: arguments =>
      runCommand generateKinds arguments (readGenerate? · entropy) (GenerateOptions.run environment)
  | "simulate" :: arguments =>
      runCommand simulateKinds arguments (readSimulate? · entropy) (SimulateOptions.run environment)
  | "--help" :: _ => helpRun
  | _ => usageRun

def run (environment : Environment) (entropy : Int) : List String → CommandRun
  | "--" :: arguments => runNamed environment entropy arguments
  | arguments => runNamed environment entropy arguments

end Arboretum.CommandLine
