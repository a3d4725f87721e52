import ResourceScript.Text.Basic

/-!
# Problems of supplied settings

What can be wrong with supplied settings, where it is, and how it is reported.

## Main definitions

* `Settings.Problem` : what is wrong.
* `Settings.Problem.code`, `Settings.Problem.message` : how it is reported.
* `Settings.Issue` : a problem at a place.
-/

namespace ResourceScript.Settings

/-- What is wrong with a supplied value. -/
inductive Problem where
  | notText
  | undecodable
  | empty
  | notBlank
  | notInteger
  | unreadableInteger
  | oversizedInteger
  | hasFraction
  | notFinite
  | negative
  | unknownField
  | keyNotText
  | notMapping
  | frozen
  deriving DecidableEq

/-- The short name of a problem. -/
def Problem.code : Problem → Text
  | notText => "string_type".toList
  | undecodable => "string_unicode".toList
  | empty | notBlank => "value_error".toList
  | notInteger => "int_type".toList
  | unreadableInteger => "int_parsing".toList
  | oversizedInteger => "int_parsing_size".toList
  | hasFraction => "int_from_float".toList
  | notFinite => "finite_number".toList
  | negative => "greater_than_equal".toList
  | unknownField => "extra_forbidden".toList
  | keyNotText => "invalid_key".toList
  | notMapping => "model_type".toList
  | frozen => "frozen_instance".toList

/-- The explanation of a problem. -/
def Problem.message : Problem → Text
  | notText => "Input should be a valid string".toList
  | undecodable =>
    "Input should be a valid string, unable to parse raw data as a unicode string".toList
  | empty => "Value error, must not be empty".toList
  | notBlank => "Value error, indent may only contain whitespace".toList
  | notInteger => "Input should be a valid integer".toList
  | unreadableInteger =>
    "Input should be a valid integer, unable to parse string as an integer".toList
  | oversizedInteger =>
    "Unable to parse input string as an integer, exceeded maximum size".toList
  | hasFraction =>
    "Input should be a valid integer, got a number with a fractional part".toList
  | notFinite => "Input should be a finite number".toList
  | negative => "Input should be greater than or equal to 0".toList
  | unknownField => "Extra inputs are not permitted".toList
  | keyNotText => "Keys should be strings".toList
  | notMapping => "Input should be a valid dictionary or instance of RenderSettings".toList
  | frozen => "Instance is frozen".toList

/-- A step on the way to the place of a problem. -/
inductive Step where
  | name (s : Text)
  | index (n : Int)
  deriving DecidableEq

/-- A problem and the way to its place; the empty way leads to the settings as a whole. -/
structure Issue where
  location : List Step
  problem : Problem
  deriving DecidableEq

end ResourceScript.Settings
