import DiceBot.Text.Decimal

/-!
# Issues with data

What is wrong with data that was handed in, and where: the way from the outside
in, through fields, places in a list, and the variants that were tried.
-/

namespace DiceBot.Intake

inductive Cause where
  | missing
  | notInteger
  | fractional
  | unreadableInteger
  | oversized
  | notFinite
  | below (least : Nat)
  | above (most : Nat)
  | notText
  | brokenText
  | emptyText
  | longerThan (most : Nat)
  | notList
  | emptyList
  | notRecord (name : Text)
  | notExtreme
  | refused (why : Text)
deriving DecidableEq, Repr

namespace Cause

def code : Cause → Text
  | .missing => "missing".toList
  | .notInteger => "int_type".toList
  | .fractional => "int_from_float".toList
  | .unreadableInteger => "int_parsing".toList
  | .oversized => "int_parsing_size".toList
  | .notFinite => "finite_number".toList
  | .below _ => "greater_than_equal".toList
  | .above _ => "less_than_equal".toList
  | .notText => "string_type".toList
  | .brokenText => "string_unicode".toList
  | .emptyText => "string_too_short".toList
  | .longerThan _ => "string_too_long".toList
  | .notList => "list_type".toList
  | .emptyList => "too_short".toList
  | .notRecord _ => "model_type".toList
  | .notExtreme => "enum".toList
  | .refused _ => "value_error".toList

def message : Cause → Text
  | .missing => "Field required".toList
  | .notInteger => "Input should be a valid integer".toList
  | .fractional =>
    "Input should be a valid integer, got a number with a fractional part".toList
  | .unreadableInteger =>
    "Input should be a valid integer, unable to parse string as an integer".toList
  | .oversized =>
    "Unable to parse input string as an integer, exceeded maximum size".toList
  | .notFinite => "Input should be a finite number".toList
  | .below least => "Input should be greater than or equal to ".toList ++ Decimal.ofNat least
  | .above most => "Input should be less than or equal to ".toList ++ Decimal.ofNat most
  | .notText => "Input should be a valid string".toList
  | .brokenText =>
    "Input should be a valid string, unable to parse raw data as a unicode string".toList
  | .emptyText => "String should have at least 1 character".toList
  | .longerThan most =>
    "String should have at most ".toList ++ Decimal.ofNat most ++ " characters".toList
  | .notList => "Input should be a valid list".toList
  | .emptyList => "List should have at least 1 item after validation, not 0".toList
  | .notRecord name =>
    "Input should be a valid dictionary or instance of ".toList ++ name
  | .notExtreme => "Input should be 'h' or 'l'".toList
  | .refused why => "Value error, ".toList ++ why

end Cause

inductive Step where
  | field (name : Text)
  | index (i : Nat)
  | variant (name : Text)
deriving DecidableEq, Repr

structure Issue where
  path : List Step
  cause : Cause
deriving DecidableEq, Repr

end DiceBot.Intake
