import ApiForge.Text.Blank

/-!
# Table cells

Texts made fit for a cell of a Markdown table: a bar is escaped, and a line
feed becomes a break, or a space inside a code span.
-/

namespace ApiForge.Markdown

/-- The text with a backslash before every bar. -/
def escapeBars (text : Text) : Text :=
  text.replaceChar '|' "\\|"

/-- A hyphen stands for an absent or empty text. -/
def cell (text : Option Text) : Text :=
  match text with
  | none => "-"
  | some [] => "-"
  | some text => (escapeBars (text.replace "\r\n" "\n").strip).replaceChar '\n' "<br>"

/-- A code span on one line; a text with backticks stands between two of them and spaces. -/
def codeSpan (text : Text) : Text :=
  let content := escapeBars (Text.join " " text.splitLines)
  if content.contains '`' then "`` " ++ content ++ " ``" else "`" ++ content ++ "`"

end ApiForge.Markdown
