import ApiForge.Markdown.Cell
import ApiForge.Model.Operation
import ApiForge.Naming.Identifier

/-!
# Type labels

What the page says about the type of a value, in one cell of a table.
-/

namespace ApiForge.Markdown

/-- A text in backticks as it is. -/
def ticked (text : Text) : Text :=
  "\x60" ++ text ++ "\x60"

/-- The label with null as another choice, if a schema's notes say so. -/
def noted (notes : Notes) (label : Text) : Text :=
  if notes.nullable then label ++ " \\| \x60null\x60" else label

/-- The values of an enumeration, in quotes. -/
def valuesLabel : List Text → Text
  | [] => "\x60never\x60"
  | values => Text.join " \\| " (values.map fun value => codeSpan ("\"" ++ value ++ "\""))

/-- A primitive with its format. -/
def primitiveLabel (notes : Notes) (type : Primitive) : Text :=
  match notes.format.filter (!·.isEmpty) with
  | some format => ticked type.name ++ " (" ++ cell (some format) ++ ")"
  | none => ticked type.name

mutual

/-- The label of a schema. -/
def schemaLabel : Schema → Text
  | .primitive notes type => noted notes (primitiveLabel notes type)
  | .enumeration notes values => noted notes (valuesLabel values)
  | .array notes items => noted notes (schemaLabel items ++ "[]")
  | .object notes [] _ additional => noted notes (additionalLabel additional)
  | .object notes (_ :: _) _ _ => noted notes "\x60object\x60"
  | .reference notes name => noted notes (ticked (Naming.schemaType name))
  termination_by structural schema => schema

/-- The label of an object without properties. -/
def additionalLabel : Option Schema → Text
  | none => "\x60object\x60"
  | some schema => "map of " ++ schemaLabel schema
  termination_by structural additional => additional

end

/-- The label of what may hold no value at all. -/
def contentLabel : Option Schema → Text
  | none => "No content"
  | some schema => schemaLabel schema

/-- The label of a parameter's type. -/
def parameterLabel (parameter : Parameter) : Text :=
  match parameter.itemsType.filter (!·.isEmpty), parameter.format.filter (!·.isEmpty) with
  | some items, format =>
      if parameter.type = "array".toList then ticked items ++ "[]" else plain format
  | none, format => plain format
where
  /-- The type with its format. -/
  plain : Option Text → Text
    | some format => ticked parameter.type ++ " (" ++ format ++ ")"
    | none => ticked parameter.type

end ApiForge.Markdown
