import ApiForge.Failure

/-!
# Unique identifiers

Every name gets the identifier derived from it, and no two names get the same
one. Names that occur again are passed over.
-/

namespace ApiForge.Naming

/-- Extends `known`, the names already met with their identifiers. -/
def assignFrom (kind : Text) (derive : Text → Text) (known : List (Text × Text)) :
    List Text → Except Failure (List (Text × Text))
  | [] => .ok known
  | name :: rest =>
      if known.any (·.1 == name) then assignFrom kind derive known rest
      else
        match known.find? (·.2 == derive name) with
        | some (owner, _) => .error (.collision kind (derive name) owner name)
        | none => assignFrom kind derive (known ++ [(name, derive name)]) rest

/-- The distinct names in first-seen order, each with its identifier. -/
def assign (kind : Text) (derive : Text → Text) (names : List Text) :
    Except Failure (List (Text × Text)) :=
  assignFrom kind derive [] names

end ApiForge.Naming
