import ApiForge.Markdown.Layout
import ApiForge.Proofs.Success
import Mathlib.Data.List.Basic
import Mathlib.Data.List.Flatten

/-!
# Parts of a page

The lines of a page are those of its parts in turn. Besides the lines that stand
around them, the parts are the entries of the table of contents, the blocks of
the operations and the blocks of the models.
-/

namespace ApiForge.Markdown

inductive Part
  | around (lines : List Text)
  | contents (entry : OperationEntry)
  | operation (entry : OperationEntry)
  | model (entry : ModelEntry)
  deriving Repr

namespace Part

def lines : Part → List Text
  | .around lines => lines
  | .contents entry => [contentsLine 2 entry.heading entry.target]
  | .operation entry => operationLines entry
  | .model entry => modelLines entry

/-- The operation that an entry of the table of contents leads to. -/
def contents? : Part → Option OperationEntry
  | .contents entry => some entry
  | _ => none

/-- The operation that a block is about. -/
def operation? : Part → Option OperationEntry
  | .operation entry => some entry
  | _ => none

/-- The model that a block is about. -/
def model? : Part → Option ModelEntry
  | .model entry => some entry
  | _ => none

end Part

/-- The parts of the table of contents for a group. -/
def GroupEntry.contentsParts (group : GroupEntry) : List Part :=
  .around [contentsLine 1 group.title group.target] :: group.operations.map .contents

def GroupEntry.parts (group : GroupEntry) : List Part :=
  .around (heading 3 group.title ++ paragraph group.description) ::
    group.operations.map .operation

namespace Page

def modelParts (page : Page) : List Part :=
  if page.models.isEmpty then [.around ["_No models defined._"]] else page.models.map .model

def parts (page : Page) : List Part :=
  [.around (opening page ++ rule ++ usage page ++ rule ++ heading 2 "Table of Contents" ++
      [contentsLine 0 "Endpoints" page.endpointsTarget])] ++
    page.groups.flatMap (·.contentsParts) ++
    [.around (contentsLine 0 "Models" page.modelsTarget :: [] :: rule ++ heading 2 "Endpoints")] ++
    page.groups.flatMap (·.parts) ++ [.around (heading 2 "Models")] ++ page.modelParts

/-- The operations of all groups. -/
def operations (page : Page) : List OperationEntry :=
  page.groups.flatMap (·.operations)

end Page

/-! ## Lines of parts -/

theorem flatMap_lines_contentsParts (group : GroupEntry) :
    group.contentsParts.flatMap Part.lines = groupContents group := by
  rw [GroupEntry.contentsParts, List.flatMap_cons, List.flatMap_map, groupContents,
    List.map_eq_flatMap]
  rfl

theorem flatMap_lines_groupParts (group : GroupEntry) :
    group.parts.flatMap Part.lines = groupLines group := by
  rw [GroupEntry.parts, List.flatMap_cons, List.flatMap_map]
  rfl

theorem flatMap_lines_modelParts (page : Page) :
    page.modelParts.flatMap Part.lines = models page := by
  unfold Page.modelParts models
  split
  · rfl
  · exact List.flatMap_map ..

/-- A page consists of its parts. -/
theorem pageLines_eq (page : Page) : pageLines page = page.parts.flatMap Part.lines := by
  have contents : (page.groups.flatMap (·.contentsParts)).flatMap Part.lines =
      page.groups.flatMap groupContents := by
    rw [List.flatMap_assoc]
    exact List.flatMap_congr fun group _ => flatMap_lines_contentsParts group
  have blocks : (page.groups.flatMap (·.parts)).flatMap Part.lines =
      page.groups.flatMap groupLines := by
    rw [List.flatMap_assoc]
    exact List.flatMap_congr fun group _ => flatMap_lines_groupParts group
  unfold Page.parts
  rw [List.flatMap_append, List.flatMap_append, List.flatMap_append, List.flatMap_append,
    List.flatMap_append, contents, blocks, flatMap_lines_modelParts, List.flatMap_singleton,
    List.flatMap_singleton, List.flatMap_singleton]
  simp only [pageLines, Markdown.contents, Part.lines, List.append_assoc, List.cons_append,
    List.nil_append]

/-! ## What the parts are about -/

/-- Where a kind of parts is read, only those of operations and of models matter. -/
theorem filterMap_parts {β : Type} {read : Part → Option β}
    (around : ∀ lines, read (.around lines) = none) (page : Page) :
    page.parts.filterMap read =
      page.operations.filterMap (fun entry => read (.contents entry)) ++
        page.operations.filterMap (fun entry => read (.operation entry)) ++
        page.models.filterMap (fun entry => read (.model entry)) := by
  have models : page.modelParts.filterMap read =
      page.models.filterMap (fun entry => read (.model entry)) := by
    unfold Page.modelParts
    split
    · next none =>
        rw [List.isEmpty_iff.mp none]
        exact List.filterMap_cons_none (around _)
    · exact List.filterMap_map
  simp only [Page.parts, Page.operations, GroupEntry.contentsParts, GroupEntry.parts,
    List.filterMap_append, List.filterMap_flatMap, List.filterMap_cons_none (around _), models,
    List.filterMap_nil, List.nil_append, List.append_nil, List.filterMap_map]
  rfl

/-- The table of contents has one entry for each operation. -/
theorem filterMap_contents? (page : Page) :
    page.parts.filterMap Part.contents? = page.operations := by
  rw [filterMap_parts fun _ => rfl]
  simp [Part.contents?]

/-- A page has one block for each operation. -/
theorem filterMap_operation? (page : Page) :
    page.parts.filterMap Part.operation? = page.operations := by
  rw [filterMap_parts fun _ => rfl]
  simp [Part.operation?]

/-- A page has one block for each model. -/
theorem filterMap_model? (page : Page) : page.parts.filterMap Part.model? = page.models := by
  rw [filterMap_parts fun _ => rfl]
  simp [Part.model?]

/-! ## Entries of a page -/

/-- But for their targets, entries are made of their operations alone. -/
theorem map_operationEntries (used : Naming.Anchors) (operations : List Operation) :
    (operationEntries used operations).1.map
        (fun entry => (entry.operation, entry.heading, entry.call)) =
      operations.map fun operation => (operation, headingOf operation, callOf operation) := by
  induction operations generalizing used with
  | nil => rfl
  | cons operation rest ih => exact congrArg _ (ih _)

theorem map_groupEntries (api : Api) (used : Naming.Anchors)
    (groups : List (Text × List Operation)) :
    ((groupEntries api used groups).1.flatMap (·.operations)).map
        (fun entry => (entry.operation, entry.heading, entry.call)) =
      (groups.flatMap (·.2)).map fun operation =>
        (operation, headingOf operation, callOf operation) := by
  induction groups generalizing used with
  | nil => rfl
  | cons group rest ih =>
      rw [groupEntries, List.flatMap_cons, List.flatMap_cons, List.map_append, List.map_append, ih,
        map_operationEntries]

theorem map_modelEntries (used : Naming.Anchors) (schemas : List (Text × Schema)) :
    (modelEntries used schemas).map (fun entry => (entry.name, entry.schema)) =
      schemas.map fun schema => (Naming.schemaType schema.1, schema.2) := by
  induction schemas generalizing used with
  | nil => rfl
  | cons schema rest ih => exact congrArg _ (ih _)

/-- A page of an API has the operations of the groups with their headings and their calls, and
the named schemas. -/
structure IsPageOf (page : Page) (api : Api) : Prop where
  operations : page.operations.map
      (fun entry => (entry.operation, entry.heading, entry.call)) =
    (api.groups.flatMap (·.2)).map fun operation =>
      (operation, headingOf operation, callOf operation)
  models : page.models.map (fun entry => (entry.name, entry.schema)) =
    api.schemas.map fun schema => (Naming.schemaType schema.1, schema.2)

theorem isPageOf_of_page {api : Api} {clientName : Text} {page : Page}
    (made : Page.ofApi api clientName = .ok page) : IsPageOf page api := by
  unfold Page.ofApi at made
  obtain ⟨_, _, made⟩ := Success.of_bind made
  obtain ⟨_, _, made⟩ := Success.of_bind made
  cases made
  exact ⟨map_groupEntries api _ _, map_modelEntries _ _⟩

end ApiForge.Markdown
