import ApiForge.Text.Blank
import ApiForge.Text.LowerCase
import ApiForge.Text.WordChar

/-!
# Heading anchors

The link target of a Markdown heading: its word characters, hyphens and spaces
in lower case, the spaces as hyphens. A heading whose target is taken gets the
number of headings before it with the same base.
-/

namespace ApiForge.Naming

/-- The target of a heading by itself. -/
def anchor (heading : Text) : Text :=
  let kept := heading.strip.lower.filter fun letter =>
    isWordChar letter || letter == '-' || letter == ' '
  kept.map fun letter => if letter = ' ' then '-' else letter

/-- The bases used so far, latest first. -/
abbrev Anchors := List Text

/-- The target of one more heading. -/
def Anchors.add (used : Anchors) (heading : Text) : Text × Anchors :=
  let base := anchor heading
  let target := match used.count base with
    | 0 => base
    | count => base ++ "-" ++ Text.ofNat count
  (target, base :: used)

/-- The targets of headings in order. -/
def Anchors.addAll (used : Anchors) : List Text → List Text × Anchors
  | [] => ([], used)
  | heading :: rest =>
      let (target, used) := Anchors.add used heading
      let (targets, used) := Anchors.addAll used rest
      (target :: targets, used)

end ApiForge.Naming
