import ApiForge.Reference.Pointer
import ApiForge.Text.Distinct

/-!
# Expanding references

A mapping whose `$ref` is a text stands for the value that the text names.
Expanding a document puts these values in the place of the mappings. A mapping
inside the expansion of its own reference stays as it is. A reference in
progress is taken off the list of the document's references, so every chain of
references ends.
-/

namespace ApiForge.Reference

/-- The reference that a mapping with these entries stands for. -/
def ofEntries? (entries : Entries) : Option Text :=
  (Entries.field? "$ref" entries).bind Value.text?

/-- The reference that a value stands for. -/
def ofValue? : Value → Option Text
  | .map entries => ofEntries? entries
  | _ => none

mutual

/-- The references of a value, with repetitions. -/
def all : Value → List Text
  | .map entries => (ofEntries? entries).toList ++ allOfEntries entries
  | .list items => allOfItems items
  | _ => []
  termination_by structural value => value

def allOfEntries : List (Scalar × Value) → List Text
  | [] => []
  | (_, value) :: rest => all value ++ allOfEntries rest
  termination_by structural entries => entries

def allOfItems : List Value → List Text
  | [] => []
  | item :: rest => all item ++ allOfItems rest
  termination_by structural items => items

end

mutual

/-- The value with `follow` applied to every mapping that stands for a reference. -/
def mapReferences (follow : Text → Entries → Except Failure Value) :
    Value → Except Failure Value
  | .map entries =>
      match ofEntries? entries with
      | some reference => follow reference entries
      | none => (mapEntries follow entries).map .map
  | .list items => (mapItems follow items).map .list
  | value => .ok value
  termination_by structural value => value

def mapEntries (follow : Text → Entries → Except Failure Value) :
    List (Scalar × Value) → Except Failure (List (Scalar × Value))
  | [] => .ok []
  | (key, value) :: rest => do
      let first ← mapReferences follow value
      let others ← mapEntries follow rest
      pure ((key, first) :: others)
  termination_by structural entries => entries

def mapItems (follow : Text → Entries → Except Failure Value) :
    List Value → Except Failure (List Value)
  | [] => .ok []
  | item :: rest => do
      let first ← mapReferences follow item
      let others ← mapItems follow rest
      pure (first :: others)
  termination_by structural items => items

end

theorem length_erase_lt {reference : Text} {pending : List Text} (member : reference ∈ pending) :
    (pending.erase reference).length < pending.length := by
  have erased := List.length_erase_of_mem member
  have positive := List.length_pos_of_mem member
  omega

/-- Expands a value of the document `root`; `pending` are the references not in progress. -/
def expandFrom (root : Value) (pending : List Text) (value : Value) : Except Failure Value :=
  mapReferences (fun reference entries =>
    if _member : reference ∈ pending then
      match target root reference with
      | .ok found => expandFrom root (pending.erase reference) found
      | .error failure => .error failure
    else .ok (.map entries)) value
termination_by pending.length
decreasing_by exact length_erase_lt _member

/-- The distinct references of a document. -/
def distinctIn (root : Value) : List Text :=
  Text.distinct (all root)

/-- The document with its references expanded. -/
def expand (root : Value) : Except Failure Value :=
  expandFrom root (distinctIn root) root

/-- Follows references until a value that stands for none, from a value of the document `root`. -/
def followFrom (root : Value) (pending : List Text) (value : Value) : Except Failure Value :=
  match ofValue? value with
  | none => .ok value
  | some reference =>
      if _member : reference ∈ pending then
        match target root reference with
        | .ok found => followFrom root (pending.erase reference) found
        | .error failure => .error failure
      else .error (.unresolvable reference .circular)
termination_by pending.length
decreasing_by exact length_erase_lt _member

end ApiForge.Reference
