import ApiForge.Naming.Identifier

/-!
# Path templates

A path with placeholders in braces as a template literal. Placeholders of
declared parameters become interpolations; all other text stands for itself.
-/

namespace ApiForge.TypeScript

/-- A stretch of a path. -/
inductive PathPiece where
  | fixed (text : Text)
  | placeholder (name : Text)
  deriving DecidableEq, Repr

/-- Cuts a path; `fixed` is the text since the last placeholder, and `inside` the text since a
brace that may open one. -/
def cutPathFrom (fixed : Text) (inside : Option Text) : Text → List PathPiece
  | [] =>
      match inside with
      | none => [.fixed fixed]
      | some name => [.fixed (fixed ++ '\x7b' :: name)]
  | letter :: rest =>
      if letter = '\x7b' then
        match inside with
        | none => cutPathFrom fixed (some []) rest
        | some name => cutPathFrom (fixed ++ '\x7b' :: name) (some []) rest
      else if letter = '\x7d' then
        match inside with
        | none => cutPathFrom (fixed ++ [letter]) none rest
        | some [] => cutPathFrom (fixed ++ ['\x7b', letter]) none rest
        | some (first :: name) =>
            .fixed fixed :: .placeholder (first :: name) :: cutPathFrom [] none rest
      else
        match inside with
        | none => cutPathFrom (fixed ++ [letter]) none rest
        | some name => cutPathFrom fixed (some (name ++ [letter])) rest

/-- The stretches of a path; a placeholder has a name without braces. -/
def cutPath (path : Text) : List PathPiece :=
  cutPathFrom [] none path

/-- The text with backslashes before backslashes, backticks and starts of interpolations. -/
def escapeTemplate : Text → Text
  | [] => []
  | '$' :: '\x7b' :: rest => '\\' :: '$' :: '\x7b' :: escapeTemplate rest
  | letter :: rest =>
      if letter = '\\' ∨ letter = '\x60' then '\\' :: letter :: escapeTemplate rest
      else letter :: escapeTemplate rest

/-- The text of a stretch, `declared` being the names of the parameters. -/
def PathPiece.render (declared : List Text) : PathPiece → Text
  | .fixed text => escapeTemplate text
  | .placeholder name =>
      if declared.contains name then
        "$\x7bencodeURIComponent(String(" ++ Naming.memberAccess "params" name ++ "))\x7d"
      else escapeTemplate ('\x7b' :: name ++ ['\x7d'])

/-- The template literal of a path. -/
def pathTemplate (declared : List Text) (path : Text) : Text :=
  '\x60' :: (cutPath path).flatMap (PathPiece.render declared) ++ ['\x60']

end ApiForge.TypeScript
