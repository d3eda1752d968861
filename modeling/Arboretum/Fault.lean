import Arboretum.Text.Quoted

/-!
What can go wrong while a tree is grown, configured or animated. A fault names its cause;
the wording is `Fault.message`.
-/

namespace Arboretum

set_option autoImplicit false

inductive Fault where
  /-- A word cannot be expanded a negative number of times. -/
  | negativeIterations
  | ruleKeyNotSymbol (ruleSet key : String)
  | unknownRuleSet (name : String) (known : List String)
  | unknownStrategy
  | strategyWithoutRuleSet
  /-- The text of an entry of the environment is not of the kind the entry needs. -/
  | notAnInteger (entry : String)
  | notAReal (entry : String)
  | notANumber (entry : String)
  | belowMinimum (entry bound : String)
  | aboveMaximum (entry bound : String)
  | negativeLogInterval
  /-- A format template was named where the name of a level belongs. -/
  | templateAsLevel (template : String)
  /-- A list of format styles was named where the name of a level belongs. -/
  | stylesAsLevel (styles : String)
  /-- A text for the operating system has a null character in it. -/
  | textWithNull
  /-- No home directory is known that a tilde could stand for. -/
  | homeUnknown
  /-- A message has more place marks than there are arguments. -/
  | argumentsMissing
  /-- There are more arguments than a message has place marks. -/
  | argumentsLeftOver
  | placeMarkIncomplete
  /-- An integer has more digits than are ever written out. -/
  | integerTooLong
  /-- A run was started with something that cannot receive its frames. -/
  | receiverNotCallable
  | rendererFailed
  | integerBeyondReals
  | quotientBeyondReals
  | integerDividedByZero
  | realDividedByZero
  | integerOfNaN
  | integerOfInfinity
  | angleWithoutDirection
  /-- A source of chance yields no draw that a choice can use. -/
  | noUsableDraw
  deriving DecidableEq, Repr

def Fault.message : Fault → String
  | .negativeIterations => "iterations must be >= 0"
  | .ruleKeyNotSymbol ruleSet key =>
      "rule set " ++ Text.quoted ruleSet ++ ": rule keys must be single symbols, got " ++
        Text.quoted key
  | .unknownRuleSet name known =>
      "unknown rule set " ++ Text.quoted name ++ " (known: " ++
        String.intercalate ", " known ++ ")"
  | .unknownStrategy => "CANOPY_RULE_SET_STRATEGY must be 'score' or 'fixed'"
  | .strategyWithoutRuleSet =>
      "CANOPY_RULE_SET must be set when CANOPY_RULE_SET_STRATEGY is 'fixed'"
  | .notAnInteger entry => entry ++ " must be an integer"
  | .notAReal entry => entry ++ " must be a float"
  | .notANumber entry => entry ++ " must be a number"
  | .belowMinimum entry bound => entry ++ " must be at least " ++ bound
  | .aboveMaximum entry bound => entry ++ " must be at most " ++ bound
  | .negativeLogInterval => "every_frames must be >= 0"
  | .templateAsLevel template => "Unknown level: " ++ Text.quoted template
  | .stylesAsLevel styles => "Level not an integer or a valid string: " ++ styles
  | .textWithNull => "embedded null byte"
  | .homeUnknown => "Could not determine home directory."
  | .argumentsMissing => "not enough arguments for format string"
  | .argumentsLeftOver => "not all arguments converted during string formatting"
  | .placeMarkIncomplete => "incomplete format"
  | .integerTooLong =>
      "Exceeds the limit (4300 digits) for integer string conversion; use " ++
        "sys.set_int_max_str_digits() to increase the limit"
  | .receiverNotCallable => "on_frame must be callable"
  | .rendererFailed => "renderer failed"
  | .integerBeyondReals => "int too large to convert to float"
  | .quotientBeyondReals => "integer division result too large for a float"
  | .integerDividedByZero => "division by zero"
  | .realDividedByZero => "float division by zero"
  | .integerOfNaN => "cannot convert float NaN to integer"
  | .integerOfInfinity => "cannot convert float infinity to integer"
  | .angleWithoutDirection => "math domain error"
  | .noUsableDraw => "no usable draw"

end Arboretum
