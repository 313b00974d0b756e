import ApiForge.Text.Blank

/-!
# Markup

A tag in square brackets styles what follows it up to its closing tag. Where
styles are not shown, only the text between the tags is left. A backslash takes
the meaning from a tag.
-/

namespace ApiForge.Markup

def isTagStart (letter : Char) : Bool :=
  letter.isLower || letter == '#' || letter == '/' || letter == '@'

/-- The tag whose opening bracket comes right before the text. -/
def tagAfterBracket? : Text → Option Text
  | [] => none
  | first :: rest =>
      if isTagStart first then
        match rest.span fun letter => letter != ']' && letter != '[' with
        | (body, ']' :: _) => some (first :: body)
        | _ => none
      else none

/-- The name in a tag, without its parameters. -/
def nameOf (tag : Text) : Text :=
  (Text.strip (tag.cutAt '=').1).map Char.toLower

/-- The tags that stay open after a tag, the latest first; a closing tag needs an open one. -/
def openAfter? (opened : List Text) (tag : Text) : Option (List Text) :=
  match nameOf tag with
  | '/' :: name =>
      let name := Text.strip name
      if name.isEmpty then
        match opened with
        | [] => none
        | _ :: rest => some rest
      else if opened.contains name then some (opened.erase name)
      else none
  | name => some (name :: opened)

/-- The text without its tags, where `slashes` backslashes come right before it, `skip` characters
belong to a tag already read and `opened` are the tags still open. -/
def plainAfter? : List Text → Nat → Nat → Text → Option Text
  | _, slashes, _, [] => some (List.replicate slashes '\\')
  | opened, slashes, skip + 1, _ :: rest => plainAfter? opened slashes skip rest
  | opened, slashes, 0, letter :: rest =>
      if letter = '\\' then plainAfter? opened (slashes + 1) 0 rest
      else if letter = '[' then
        match tagAfterBracket? rest with
        | none =>
            (plainAfter? opened 0 0 rest).map fun text =>
              List.replicate (slashes - 1) '\\' ++ '[' :: text
        | some tag =>
            if slashes % 2 = 1 then
              (plainAfter? opened 0 0 rest).map fun text =>
                List.replicate (slashes / 2) '\\' ++ '[' :: text
            else
              match openAfter? opened tag with
              | none => none
              | some opened =>
                  (plainAfter? opened 0 (tag.length + 1) rest).map fun text =>
                    List.replicate (slashes / 2) '\\' ++ text
      else
        (plainAfter? opened 0 0 rest).map fun text =>
          List.replicate slashes '\\' ++ letter :: text

/-- The text without its tags, if every closing tag closes one that is open. -/
def plain? (text : Text) : Option Text :=
  plainAfter? [] 0 0 text

end ApiForge.Markup
