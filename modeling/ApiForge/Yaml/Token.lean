import ApiForge.Text.Basic

/-!
# Tokens

The pieces of a YAML text. Where block collections begin and end is a token of
its own, and so is the start of a key that no question mark announces.
-/

namespace ApiForge.Yaml

inductive Directive where
  | version (major minor : Nat)
  | tag (handle start : Text)
  | other
  deriving DecidableEq, Repr

inductive Token where
  | streamEnd
  | directive (directive : Directive)
  | documentStart
  | documentEnd
  | blockSequenceStart
  | blockMappingStart
  | blockEnd
  | flowSequenceStart
  | flowSequenceEnd
  | flowMappingStart
  | flowMappingEnd
  | blockEntry
  | flowEntry
  | key
  | value
  | alias (name : Text)
  | anchor (name : Text)
  | tag (handle : Option Text) (suffix : Text)
  | scalar (text : Text) (plain : Bool)
  deriving DecidableEq, Repr

end ApiForge.Yaml
