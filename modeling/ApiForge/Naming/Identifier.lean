import ApiForge.Text.LowerCase

/-!
# Identifiers

The names that generated code uses. A name is cut into words at everything that
is not an ASCII letter or digit. In the Pascal form every word begins with a
capital; capitals inside a word stay. The camel form differs in its first letter
only. A name that is an identifier is used as it is; other names are quoted as
keys and put into Pascal form as type names.
-/

namespace ApiForge.Naming

/-- The letters and digits of a text, with a capital for each one that begins a word. `fresh`
says that a word begins here. -/
def capitalized (fresh : Bool) : Text → Text
  | [] => []
  | letter :: rest =>
      if letter.isAlphanum then
        (if fresh then letter.toUpper else letter) :: capitalized false rest
      else capitalized true rest

/-- An underscore goes before a leading digit. -/
def guardDigit : Text → Text
  | [] => []
  | letter :: rest => if letter.isDigit then '_' :: letter :: rest else letter :: rest

/-- The Pascal form; a text without words is called `Default`. -/
def pascal (text : Text) : Text :=
  match capitalized true text with
  | [] => "Default"
  | name => guardDigit name

/-- The camel form: a small first letter, unless an underscore guards a digit. -/
def camel (text : Text) : Text :=
  match pascal text with
  | [] => []
  | letter :: rest => letter.toLower :: rest

/-! ## Identifiers and keys -/

def isIdentifierStart (letter : Char) : Bool :=
  letter.isAlpha || letter == '_' || letter == '$'

def isIdentifierPart (letter : Char) : Bool :=
  letter.isAlphanum || letter == '_' || letter == '$'

/-- The text is one identifier. -/
def isIdentifier : Text → Bool
  | [] => false
  | first :: rest => isIdentifierStart first && rest.all isIdentifierPart

/-- The text is an identifier, with at most one line feed after it. -/
def isPlain (text : Text) : Bool :=
  isIdentifier text || (text.getLast? == some '\n' && isIdentifier text.dropLast)

/-- The text between double quotes, with backslashes before quotes and backslashes. -/
def quotedKey (text : Text) : Text :=
  '"' :: text.flatMap (fun letter =>
    if letter = '\\' ∨ letter = '"' then ['\\', letter] else [letter]) ++ ['"']

/-- The key of an object member. -/
def propertyKey (name : Text) : Text :=
  if isPlain name then name else quotedKey name

/-- The expression that reads a member. -/
def memberAccess (target name : Text) : Text :=
  if isPlain name then target ++ "." ++ name
  else target ++ "[" ++ propertyKey name ++ "]"

/-- The type of a named schema. -/
def schemaType (name : Text) : Text :=
  if isPlain name then name else pascal name

/-- The ends of the types that belong to one operation. -/
def requestSuffix : Text := "Request"
def responseSuffix : Text := "Response"
def paramsSuffix : Text := "Params"

/-- A type that belongs to one operation. -/
def operationType (identifier suffix : Text) : Text :=
  pascal identifier ++ suffix

/-- The member of the client that holds the operations of a tag. -/
def group (tag : Text) : Text :=
  camel tag

/-- The class of the client with an output name. -/
def clientClass (name : Text) : Text :=
  pascal name ++ "Client"

/-- The segment is a placeholder in braces. -/
def isPlaceholder (segment : Text) : Bool :=
  segment.startsWith ['\x7b'] && segment.endsWith ['\x7d']

/-- The identifier of an operation that has none: its method and the fixed segments of its path. -/
def synthesized (method path : Text) : Text :=
  let segments := (path.splitOn '/').filter fun segment =>
    !segment.isEmpty && !isPlaceholder segment
  method.lower ++ segments.flatMap pascal

end ApiForge.Naming
