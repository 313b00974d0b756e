import ApiForge.Text.Basic

/-!
# YAML faults

Why a text is not a YAML document.
-/

namespace ApiForge.Yaml

inductive Fault where
  | unprintable (letter : Char)
  | badToken
  | badIndent
  | misplacedKey
  | missingColon
  | badDirective
  | badTag
  | badAnchor
  | badEscape
  | unclosedQuote
  | badBlockHeader
  | unexpectedToken
  | unknownTagHandle
  | repeatedAnchor (name : Text)
  | unknownAlias (name : Text)
  | severalDocuments
  | noConstructor (tag : Text)
  | badContent (tag : Text)
  | unusableKey
  deriving DecidableEq, Repr

namespace Fault

def message : Fault → Text
  | .unprintable _ => "a character that cannot be printed"
  | .badToken => "a character that starts no token"
  | .badIndent => "an indentation that closes no collection"
  | .misplacedKey => "a key or value where none may stand"
  | .missingColon => "a key without a colon"
  | .badDirective => "an unreadable directive"
  | .badTag => "an unreadable tag"
  | .badAnchor => "an unreadable anchor or alias"
  | .badEscape => "an unknown escape"
  | .unclosedQuote => "a quoted text without an end"
  | .badBlockHeader => "an unreadable block header"
  | .unexpectedToken => "a token that cannot follow"
  | .unknownTagHandle => "a tag handle that is not declared"
  | .repeatedAnchor name => "the anchor " ++ name ++ " a second time"
  | .unknownAlias name => "no anchor " ++ name
  | .severalDocuments => "a second document"
  | .noConstructor tag => "no value with the tag " ++ tag
  | .badContent tag => "unusable content for the tag " ++ tag
  | .unusableKey => "a key that is a collection"

end Fault

/-- What ends the reading of a text: a fault of the text, or content that nothing is prepared
for. -/
inductive Stop where
  | fault (fault : Fault)
  | unforeseen
  deriving DecidableEq, Repr

/-- Ends reading with a fault. -/
def refuse {α : Type} (fault : Fault) : Except Stop α :=
  .error (.fault fault)

end ApiForge.Yaml
