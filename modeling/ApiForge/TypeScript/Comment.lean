import ApiForge.Text.Blank

/-!
# Documentation comments

A text as a documentation comment in front of a declaration. An end mark
inside the text is broken up by a backslash.
-/

namespace ApiForge.TypeScript

/-- One line of a comment of several lines. -/
def commentLine (pad line : Text) : Text :=
  (pad ++ " * " ++ line).stripEnd

/-- The comment, each of its lines after `pad`. -/
def comment (pad text : Text) : Text :=
  match (text.strip.replace "*/" "*\\/").splitLines with
  | [] => pad ++ "/**  */"
  | [line] => pad ++ "/** " ++ line ++ " */"
  | lines =>
      pad ++ "/**\n" ++ Text.lines (lines.map (commentLine pad)) ++ "\n" ++ pad ++ " */"

end ApiForge.TypeScript
