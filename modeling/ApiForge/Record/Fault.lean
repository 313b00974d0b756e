import ApiForge.Text.Basic

/-!
# Field faults

Why a value does not fit a field of a record, and where in the record it stands.
A location names fields, mapping keys and list positions from the outside in.
-/

namespace ApiForge

inductive FieldCause where
  | missing
  | notText
  | notTruth
  | unreadableTruth
  | notInteger
  | unreadableInteger
  | fractional
  | notFinite
  | tooManyDigits
  | notNumber
  | unreadableNumber
  | notPositive
  | notList
  | notSequence
  | notMembers
  | notMapping
  | notRecord (record : Text)
  | notOneOf (choices : List Text)
  | inconsistent (reason : Text)
  deriving DecidableEq, Repr

namespace FieldCause

/-- The stable name of a cause. -/
def code : FieldCause → Text
  | .missing => "missing"
  | .notText => "string_type"
  | .notTruth => "bool_type"
  | .unreadableTruth => "bool_parsing"
  | .notInteger => "int_type"
  | .unreadableInteger => "int_parsing"
  | .fractional => "int_from_float"
  | .notFinite => "finite_number"
  | .tooManyDigits => "int_parsing_size"
  | .notNumber => "float_type"
  | .unreadableNumber => "float_parsing"
  | .notPositive => "greater_than"
  | .notList => "list_type"
  | .notSequence => "tuple_type"
  | .notMembers => "frozen_set_type"
  | .notMapping => "dict_type"
  | .notRecord _ => "model_type"
  | .notOneOf _ => "enum"
  | .inconsistent _ => "value_error"

/-- Choices in apostrophes, with commas and a last "or". -/
def enumerated : List Text → Text
  | [] => []
  | [choice] => "'" ++ choice ++ "'"
  | [choice, last] => "'" ++ choice ++ "' or '" ++ last ++ "'"
  | choice :: rest => "'" ++ choice ++ "', " ++ enumerated rest

def message : FieldCause → Text
  | .missing => "Field required"
  | .notText => "Input should be a valid string"
  | .notTruth => "Input should be a valid boolean"
  | .unreadableTruth => "Input should be a valid boolean, unable to interpret input"
  | .notInteger => "Input should be a valid integer"
  | .unreadableInteger =>
      "Input should be a valid integer, unable to parse string as an integer"
  | .fractional => "Input should be a valid integer, got a number with a fractional part"
  | .notFinite => "Input should be a finite number"
  | .tooManyDigits => "Unable to parse input string as an integer, exceeded maximum size"
  | .notNumber => "Input should be a valid number"
  | .unreadableNumber => "Input should be a valid number, unable to parse string as a number"
  | .notPositive => "Input should be greater than 0"
  | .notList => "Input should be a valid list"
  | .notSequence => "Input should be a valid tuple"
  | .notMembers => "Input should be a valid frozenset"
  | .notMapping => "Input should be a valid dictionary"
  | .notRecord record => "Input should be a valid dictionary or instance of " ++ record
  | .notOneOf choices => "Input should be " ++ enumerated choices
  | .inconsistent reason => "Value error, " ++ reason

end FieldCause

structure FieldFault where
  location : List Text
  cause : FieldCause
  deriving DecidableEq, Repr

/-- The fault as seen from the record around it. -/
def FieldFault.within (place : Text) (fault : FieldFault) : FieldFault :=
  { fault with location := place :: fault.location }

end ApiForge
