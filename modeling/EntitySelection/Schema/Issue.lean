/-!
# Issues of checked data

Checking data against a model gives the checked record or a list of issues, in the order of the
model's fields. An issue says what is wrong and where: a path of field names and positions from
the top of the data.
-/

namespace EntitySelection.Schema

/-- One step of the path to a piece of data. -/
inductive Step where
  | field (name : String)
  | index (i : Int)
  deriving DecidableEq, Repr

/-- What is wrong with a piece of data. -/
inductive Problem where
  | missing
  | textType
  | textUnicode
  | numberType
  | numberParsing
  | intType
  | intParsing
  | intTooLarge
  | intFraction
  | notFinite
  | flagType
  | flagParsing
  | listType
  | mapType
  | modelType (model : String)
  | choice (names : List String)
  | tooSmall (least : Int)
  | frozen
  | refused (reason : String)
  deriving DecidableEq, Repr

namespace Problem

/-- Texts in a row, the last two joined by "or". -/
def alternatives : List String → String
  | [] => ""
  | [a] => a
  | [a, b] => a ++ " or " ++ b
  | a :: rest => a ++ ", " ++ alternatives rest

/-- The short name of a problem. -/
def code : Problem → String
  | missing => "missing"
  | textType => "string_type"
  | textUnicode => "string_unicode"
  | numberType => "float_type"
  | numberParsing => "float_parsing"
  | intType => "int_type"
  | intParsing => "int_parsing"
  | intTooLarge => "int_parsing_size"
  | intFraction => "int_from_float"
  | notFinite => "finite_number"
  | flagType => "bool_type"
  | flagParsing => "bool_parsing"
  | listType => "list_type"
  | mapType => "dict_type"
  | modelType _ => "model_type"
  | choice _ => "enum"
  | tooSmall _ => "greater_than_equal"
  | frozen => "frozen_instance"
  | refused _ => "value_error"

def message : Problem → String
  | missing => "Field required"
  | textType => "Input should be a valid string"
  | textUnicode => "Input should be a valid string, unable to parse raw data as a unicode string"
  | numberType => "Input should be a valid number"
  | numberParsing => "Input should be a valid number, unable to parse string as a number"
  | intType => "Input should be a valid integer"
  | intParsing => "Input should be a valid integer, unable to parse string as an integer"
  | intTooLarge => "Unable to parse input string as an integer, exceeded maximum size"
  | intFraction => "Input should be a valid integer, got a number with a fractional part"
  | notFinite => "Input should be a finite number"
  | flagType => "Input should be a valid boolean"
  | flagParsing => "Input should be a valid boolean, unable to interpret input"
  | listType => "Input should be a valid list"
  | mapType => "Input should be a valid dictionary"
  | modelType model => "Input should be a valid dictionary or instance of " ++ model
  | choice names => "Input should be " ++ alternatives (names.map fun n => "'" ++ n ++ "'")
  | tooSmall least => "Input should be greater than or equal to " ++ toString least
  | frozen => "Instance is frozen"
  | refused reason => "Value error, " ++ reason

end Problem

/-- A problem and where it is. -/
structure Issue where
  path : List Step
  problem : Problem
  deriving DecidableEq, Repr

/-- The issue one step further down. -/
def Issue.under (s : Step) (i : Issue) : Issue := { i with path := s :: i.path }

/-- Data that do not fit the model of a name. -/
structure Invalid where
  model : String
  issues : List Issue
  deriving DecidableEq, Repr

end EntitySelection.Schema
