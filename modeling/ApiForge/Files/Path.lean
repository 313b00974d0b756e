import ApiForge.Text.Basic

/-!
# Paths

A path is an anchor and its parts. Empty parts and single dots say nothing and
are dropped; double dots stay, since what they lead to depends on the disk.
-/

namespace ApiForge

/-- The anchor is empty for a path from the current folder, and one or two slashes otherwise. -/
structure Path where
  anchor : Text
  parts : List Text
  deriving DecidableEq, Repr

namespace Path

/-- The anchor of a text that begins with this many slashes. -/
def anchorOf : Nat → Text
  | 0 => []
  | 2 => ['/', '/']
  | _ => ['/']

/-- The pieces between slashes that say something. -/
def partsOf (text : Text) : List Text :=
  (Text.splitOn '/' text).filter fun piece => !piece.isEmpty && piece != ['.']

def ofText (text : Text) : Path :=
  ⟨anchorOf (text.takeWhile (· == '/')).length, partsOf text⟩

/-- The path of these steps from the top of the disk. -/
def ofSteps (steps : List Text) : Path :=
  ⟨['/'], steps⟩

def isAnchored (path : Path) : Bool :=
  !path.anchor.isEmpty

/-- The path as a text; the current folder is a dot. -/
def spell (path : Path) : Text :=
  if path.anchor.isEmpty && path.parts.isEmpty then ['.']
  else path.anchor ++ Text.join ['/'] path.parts

/-- The path that `other` names as seen from `path`. -/
def append (path other : Path) : Path :=
  if other.isAnchored then other else { path with parts := path.parts ++ other.parts }

/-- A child by its name. -/
def child (path : Path) (name : Text) : Path :=
  path.append (ofText name)

/-- The last part, if there is one. -/
def name (path : Path) : Text :=
  path.parts.getLast?.getD []

/-- A name cut at its last dot; a dot at either end cuts nothing. -/
def cutName (name : Text) : Text × Text :=
  let suffix := name.reverse.takeWhile (· != '.')
  let stem := (name.reverse.drop (suffix.length + 1)).reverse
  if suffix.isEmpty || stem.isEmpty then (name, []) else (stem, '.' :: suffix.reverse)

/-- The last part without its suffix. -/
def stem (path : Path) : Text :=
  (cutName path.name).1

/-- The end of the last part from its last dot on. -/
def suffix (path : Path) : Text :=
  (cutName path.name).2

end Path

end ApiForge
