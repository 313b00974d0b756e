import ApiForge.Text.Basic

/-!
# Violations

What is wrong with a description that breaks a rule.
-/

namespace ApiForge.Validation

inductive Violation where
  | version
  | noInfo
  | infoField (name : Text)
  | noPaths
  | badPath (path : Text)
  | badOperation (label : Text)
  | noResponses (label : Text)
  | badField (label name : Text)
  | repeatedIdentifier (identifier : Text)
  | badTemplate (path : Text)
  | undeclared (label name : Text)
  | badParameter (label : Text)
  | badType (type : Text)
  | badReference (reference : Text)
  deriving DecidableEq, Repr

def Violation.message : Violation → Text
  | .version => "the version is not supported"
  | .noInfo => "'info' is missing or no object"
  | .infoField name => "'" ++ name ++ "' of 'info' is missing or no string"
  | .noPaths => "'paths' is missing or no object"
  | .badPath path => "'" ++ path ++ "' is no path"
  | .badOperation label => label ++ " is no object"
  | .noResponses label => label ++ " has no responses"
  | .badField label name => "'" ++ name ++ "' of " ++ label ++ " has the wrong type"
  | .repeatedIdentifier identifier => "the operation id '" ++ identifier ++ "' is not unique"
  | .badTemplate path => "the placeholders of '" ++ path ++ "' are not closed"
  | .undeclared label name => "the path parameter '" ++ name ++ "' of " ++ label ++ " is missing"
  | .badParameter label => "a parameter of " ++ label ++ " lacks a name or a location"
  | .badType type => type ++ " is no type of a schema"
  | .badReference reference => "'" ++ reference ++ "' cannot be resolved"

end ApiForge.Validation
