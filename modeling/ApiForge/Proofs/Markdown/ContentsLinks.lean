import ApiForge.Proofs.Markdown.Headings
import ApiForge.Proofs.Naming.Forms
import ApiForge.Proofs.Success

/-!
# Links of the table of contents

A page numbers the targets of its own headings, and a reader those of all the
headings that the page turns out to have. A link leads to the section that it
names unless the texts before that section bring in headings of their own with
the same base, or leave code open.
-/

namespace ApiForge.Markdown

/-! ## Blocks -/

/-- A heading of the page, with its target if the table of contents links to it, or the lines up to
the next heading of the page. -/
inductive Block where
  | heading (level : Nat) (title : Text) (target : Option Text)
  | text (lines : List Text)
  deriving Repr

namespace Block

def lines : Block → List Text
  | .heading level title _ => Markdown.heading level title
  | .text lines => lines

/-- The line of the table of contents that links to the block. -/
def link? : Block → Option Text
  | .heading level title (some target) => some (contentsLine (level - 2) title target)
  | _ => none

/-- The base of the block's own heading. -/
def base? : Block → Option Text
  | .heading _ title _ => some (Naming.anchor title)
  | .text _ => none

/-- The bases of the headings that a reader finds in the block beside its own. -/
def broughtIn : Block → Naming.Anchors
  | .heading .. => []
  | .text lines => (Reading.ofText (Text.ended lines)).used

/-- The level of the block's heading is one that a heading can have. -/
def IsLeveled : Block → Prop
  | .heading level _ _ => 1 ≤ level ∧ level ≤ 6
  | .text _ => True

/-- The block's heading is one line with a title, or its lines leave no code open. -/
def IsWhole : Block → Prop
  | .heading _ title _ => title ≠ [] ∧ title.IsLine
  | .text lines => (Reading.ofText (Text.ended lines)).inCode = false

instance (block : Block) : Decidable block.IsWhole :=
  match block with
  | .heading _ title _ => inferInstanceAs (Decidable (title ≠ [] ∧ title.IsLine))
  | .text lines => inferInstanceAs (Decidable ((Reading.ofText (Text.ended lines)).inCode = false))

end Block

def textOf (blocks : List Block) : Text :=
  Text.ended (blocks.flatMap Block.lines)

/-- The bases of the blocks' own headings. -/
def basesOf (blocks : List Block) : List Text :=
  blocks.filterMap Block.base?

theorem basesOf_heading (level : Nat) (title : Text) (target : Option Text) (rest : List Block) :
    basesOf (.heading level title target :: rest) = Naming.anchor title :: basesOf rest :=
  rfl

def OperationEntry.blocks (entry : OperationEntry) : List Block :=
  [.heading 4 entry.heading (some entry.target), .text ((operationLines entry).drop 2)]

def GroupEntry.blocks (group : GroupEntry) : List Block :=
  [.heading 3 group.title (some group.target), .text (paragraph group.description)] ++
    group.operations.flatMap OperationEntry.blocks

def ModelEntry.blocks (model : ModelEntry) : List Block :=
  [.heading 3 model.name none, .text ((modelLines model).drop 2)]

namespace Page

variable (page : Page)

/-- What stands before the endpoints. -/
def frontBlocks : List Block :=
  [.heading 1 page.title none, .text ((opening page).drop 2 ++ rule),
    .heading 2 "Quick Start" none, .heading 3 "Installation" none,
    .text (((usage page).drop 4).take 2), .heading 3 "Usage" none,
    .text ((usage page).drop 8 ++ rule), .heading 2 "Table of Contents" none,
    .text ((contents page).drop 2 ++ [] :: rule)]

def modelBlocks : List Block :=
  if page.models.isEmpty then [.text ["_No models defined._"]]
  else page.models.flatMap ModelEntry.blocks

def blocks : List Block :=
  page.frontBlocks ++ [.heading 2 "Endpoints" (some page.endpointsTarget)] ++
    page.groups.flatMap GroupEntry.blocks ++ [.heading 2 "Models" (some page.modelsTarget)] ++
    page.modelBlocks

end Page

/-! ## Lines of blocks -/

/-- Lines that open with a heading are those of its block and of the block of the other lines. -/
theorem flatMap_lines_of_heading {level : Nat} {title : Text} {target : Option Text}
    {lines : List Text} (opens : ∃ rest, lines = heading level title ++ rest) :
    [Block.heading level title target, .text (lines.drop 2)].flatMap Block.lines = lines := by
  obtain ⟨rest, rfl⟩ := opens
  rw [List.flatMap_cons, List.flatMap_singleton]
  rfl

theorem exists_operationLines_eq (entry : OperationEntry) :
    ∃ rest, operationLines entry = heading 4 entry.heading ++ rest := by
  unfold operationLines
  simp only [List.append_assoc]
  exact ⟨_, rfl⟩

theorem exists_modelLines_eq (model : ModelEntry) :
    ∃ rest, modelLines model = heading 3 model.name ++ rest := by
  unfold modelLines
  simp only [List.append_assoc]
  exact ⟨_, rfl⟩

theorem flatMap_operationBlocks (operations : List OperationEntry) :
    (operations.flatMap OperationEntry.blocks).flatMap Block.lines =
      operations.flatMap operationLines := by
  rw [List.flatMap_assoc]
  exact List.flatMap_congr fun entry _ => flatMap_lines_of_heading (exists_operationLines_eq entry)

theorem flatMap_groupBlocks (groups : List GroupEntry) :
    (groups.flatMap GroupEntry.blocks).flatMap Block.lines = groups.flatMap groupLines := by
  rw [List.flatMap_assoc]
  refine List.flatMap_congr fun group _ => ?_
  rw [GroupEntry.blocks, List.flatMap_append, flatMap_operationBlocks, groupLines]
  simp only [List.flatMap_cons, List.flatMap_nil, List.append_nil, Block.lines]

theorem flatMap_modelBlocks (page : Page) :
    page.modelBlocks.flatMap Block.lines = models page := by
  unfold Page.modelBlocks models
  split
  · rfl
  · rw [List.flatMap_assoc]
    exact List.flatMap_congr fun model _ => flatMap_lines_of_heading (exists_modelLines_eq model)

theorem flatMap_frontBlocks (page : Page) :
    page.frontBlocks.flatMap Block.lines =
      opening page ++ rule ++ usage page ++ rule ++ contents page ++ [[]] ++ rule := by
  simp [Page.frontBlocks, Block.lines, opening, usage, contents, heading, spaced]

theorem render_eq (page : Page) : page.render = textOf page.blocks := by
  have lines : pageLines page = page.blocks.flatMap Block.lines := by
    rw [Page.blocks, List.flatMap_append, List.flatMap_append, List.flatMap_append,
      List.flatMap_append, flatMap_frontBlocks, flatMap_groupBlocks, flatMap_modelBlocks]
    simp [pageLines, Block.lines]
  rw [Page.render, lines]
  rfl

/-! ## Links -/

theorem filterMap_link?_operations (operations : List OperationEntry) :
    (operations.flatMap OperationEntry.blocks).filterMap Block.link? =
      operations.map fun entry => contentsLine 2 entry.heading entry.target := by
  rw [List.filterMap_flatMap, List.map_eq_flatMap]
  rfl

theorem filterMap_link?_groups (groups : List GroupEntry) :
    (groups.flatMap GroupEntry.blocks).filterMap Block.link? = groups.flatMap groupContents := by
  rw [List.filterMap_flatMap]
  refine List.flatMap_congr fun group _ => ?_
  rw [GroupEntry.blocks, List.filterMap_append, filterMap_link?_operations]
  rfl

theorem filterMap_link?_models (page : Page) : page.modelBlocks.filterMap Block.link? = [] := by
  unfold Page.modelBlocks
  split
  · rfl
  · rw [List.filterMap_flatMap]
    exact List.flatMap_eq_nil_iff.mpr fun _ _ => rfl

/-- The table of contents has the links to the page's blocks in order. -/
theorem contents_eq (page : Page) :
    contents page = heading 2 "Table of Contents" ++ page.blocks.filterMap Block.link? := by
  rw [Page.blocks, List.filterMap_append, List.filterMap_append, List.filterMap_append,
    List.filterMap_append, filterMap_link?_groups, filterMap_link?_models, contents]
  simp [Page.frontBlocks, Block.link?]

/-! ## Numbers of headings -/

/-- Levels are those of headings, and each target is numbered by the headings before; the first
bases are those before the blocks, the second those after them, latest first. -/
inductive IsNumbered : Naming.Anchors → List Block → Naming.Anchors → Prop where
  | nil {used : Naming.Anchors} : IsNumbered used [] used
  | text {used after : Naming.Anchors} {lines : List Text} {rest : List Block}
      (others : IsNumbered used rest after) : IsNumbered used (.text lines :: rest) after
  | heading {used after : Naming.Anchors} {level : Nat} {title : Text} {rest : List Block}
      (least : 1 ≤ level) (most : level ≤ 6)
      (others : IsNumbered (Naming.anchor title :: used) rest after) :
      IsNumbered used (.heading level title none :: rest) after
  | linked {used after : Naming.Anchors} {level : Nat} {title : Text} {rest : List Block}
      (least : 1 ≤ level) (most : level ≤ 6) (filled : title ≠ [])
      (others : IsNumbered (Naming.anchor title :: used) rest after) :
      IsNumbered used (.heading level title (some (Naming.Anchors.add used title).1) :: rest) after

namespace IsNumbered

variable {used middle after : Naming.Anchors} {first second blocks : List Block}

theorem append (numbered : IsNumbered used first middle)
    (others : IsNumbered middle second after) : IsNumbered used (first ++ second) after := by
  induction numbered with
  | nil => exact others
  | text _ ih => exact .text (ih others)
  | heading least most _ ih => exact .heading least most (ih others)
  | linked least most filled _ ih => exact .linked least most filled (ih others)

theorem of_append (numbered : IsNumbered used (first ++ second) after) :
    ∃ middle, IsNumbered used first middle ∧ IsNumbered middle second after := by
  induction first generalizing used with
  | nil => exact ⟨used, .nil, numbered⟩
  | cons block rest ih =>
      cases numbered with
      | text others =>
          obtain ⟨middle, here, there⟩ := ih others
          exact ⟨middle, .text here, there⟩
      | heading least most others =>
          obtain ⟨middle, here, there⟩ := ih others
          exact ⟨middle, .heading least most here, there⟩
      | linked least most filled others =>
          obtain ⟨middle, here, there⟩ := ih others
          exact ⟨middle, .linked least most filled here, there⟩

/-- The bases after the blocks are theirs and those before. -/
theorem count_eq (numbered : IsNumbered used blocks after) (base : Text) :
    after.count base = (basesOf blocks).count base + used.count base := by
  induction numbered with
  | nil => simp [basesOf]
  | text _ ih => exact ih
  | heading _ _ _ ih | linked _ _ _ _ ih =>
      rw [ih, basesOf_heading, List.count_cons, List.count_cons]
      omega

theorem isLeveled (numbered : IsNumbered used blocks after) :
    ∀ block ∈ blocks, block.IsLeveled := by
  induction numbered with
  | nil => exact fun _ none => nomatch none
  | text _ ih => exact List.forall_mem_cons.mpr ⟨trivial, ih⟩
  | heading least most _ ih => exact List.forall_mem_cons.mpr ⟨⟨least, most⟩, ih⟩
  | linked least most _ _ ih => exact List.forall_mem_cons.mpr ⟨⟨least, most⟩, ih⟩

end IsNumbered

theorem headingOf_ne_nil (operation : Operation) : headingOf operation ≠ [] := by
  simp [headingOf]

theorem pascal_ne_nil (text : Text) : Naming.pascal text ≠ [] := by
  intro empty
  have identified := Naming.isIdentifier_pascal text
  rw [empty] at identified
  cases identified

theorem isNumbered_operationEntries (used : Naming.Anchors) (operations : List Operation) :
    IsNumbered used ((operationEntries used operations).1.flatMap OperationEntry.blocks)
      (operationEntries used operations).2 := by
  induction operations generalizing used with
  | nil => exact .nil
  | cons operation rest ih =>
      exact .linked (by decide) (by decide) (headingOf_ne_nil operation) (.text (ih _))

theorem isNumbered_groupEntries (api : Api) (used : Naming.Anchors)
    (groups : List (Text × List Operation)) :
    IsNumbered used ((groupEntries api used groups).1.flatMap GroupEntry.blocks)
      (groupEntries api used groups).2 := by
  induction groups generalizing used with
  | nil => exact .nil
  | cons group rest ih =>
      obtain ⟨name, operations⟩ := group
      exact .append (.linked (by decide) (by decide) (pascal_ne_nil name)
        (.text (isNumbered_operationEntries _ operations))) (ih _)

theorem isNumbered_modelEntries (used : Naming.Anchors) (models : List ModelEntry) :
    ∃ after, IsNumbered used (models.flatMap ModelEntry.blocks) after := by
  induction models generalizing used with
  | nil => exact ⟨used, .nil⟩
  | cons model rest ih =>
      obtain ⟨after, numbered⟩ := ih (Naming.anchor model.name :: used)
      exact ⟨after, .heading (by decide) (by decide) (.text numbered)⟩

theorem isNumbered_modelBlocks (used : Naming.Anchors) (page : Page) :
    ∃ after, IsNumbered used page.modelBlocks after := by
  unfold Page.modelBlocks
  split
  · exact ⟨used, .text .nil⟩
  · exact isNumbered_modelEntries used page.models

theorem isNumbered_frontBlocks (page : Page) :
    IsNumbered [] page.frontBlocks (Naming.Anchors.addAll [] (page.title :: fixedHeadings)).2 :=
  .heading (by decide) (by decide) <| .text <|
    .heading (by decide) (by decide) <| .heading (by decide) (by decide) <| .text <|
    .heading (by decide) (by decide) <| .text <| .heading (by decide) (by decide) <| .text .nil

/-- The page of an API numbers its headings as they follow each other. -/
theorem isNumbered_blocks {api : Api} {clientName : Text} {page : Page}
    (made : Page.ofApi api clientName = .ok page) :
    ∃ after, IsNumbered [] page.blocks after := by
  unfold Page.ofApi at made
  obtain ⟨_, _, made⟩ := Success.of_bind made
  obtain ⟨_, _, made⟩ := Success.of_bind made
  cases made
  have endpoints (used : Naming.Anchors) :
      IsNumbered used [.heading 2 "Endpoints" (some (used.add "Endpoints").1)]
        (used.add "Endpoints").2 :=
    .linked (by decide) (by decide) (by decide) .nil
  have toModels (used : Naming.Anchors) :
      IsNumbered used [.heading 2 "Models" (some (used.add "Models").1)] (used.add "Models").2 :=
    .linked (by decide) (by decide) (by decide) .nil
  obtain ⟨after, ofModels⟩ := isNumbered_modelBlocks _ _
  exact ⟨after, ((((isNumbered_frontBlocks _).append (endpoints _)).append
    (isNumbered_groupEntries api _ _)).append (toModels _)).append ofModels⟩

/-! ## Reading blocks -/

/-- A reader finds the heading of a block if it is a line with a title. -/
theorem ofText_heading {level : Nat} {title : Text} (least : 1 ≤ level) (most : level ≤ 6)
    (filled : title ≠ []) (line : title.IsLine) :
    Reading.ofText (Text.ended (heading level title)) = ⟨false, [Naming.anchor title]⟩ := by
  have lines : (Text.ended (heading level title)).splitLines = [headingLine level title, []] := by
    have cut := Text.splitLines_of_isLine (isLine_headingLine level line)
    rw [headingLine] at cut
    rw [Text.splitLines_ended, heading, spaced, List.flatMap_cons, cut]
    rfl
  have first : Reading.start.after (headingLine level title) = ⟨false, [Naming.anchor title]⟩ := by
    unfold Reading.after
    rw [title?_headingLine least most filled, isFence_headingLine least]
    rfl
  unfold Reading.ofText Reading.afterAll
  rw [lines, List.foldl_cons, first]
  rfl

/-- After a whole block a reader is outside code, and has found the block's own heading and those
that it brings in. -/
theorem ofText_block {block : Block} (leveled : block.IsLeveled) (whole : block.IsWhole) :
    Reading.ofText (Text.ended block.lines) = ⟨false, basesOf [block] ++ block.broughtIn⟩ := by
  cases block with
  | heading level title target => exact ofText_heading leveled.1 leveled.2 whole.1 whole.2
  | text lines => exact congrArg (Reading.mk · _) whole

/-- After whole blocks a reader is outside code, and has found their own headings and those that
they bring in. -/
theorem ofText_textOf {blocks : List Block} (leveled : ∀ block ∈ blocks, block.IsLeveled)
    (whole : ∀ block ∈ blocks, block.IsWhole) :
    (Reading.ofText (textOf blocks)).inCode = false ∧ ∀ base,
      (Reading.ofText (textOf blocks)).used.count base =
        (basesOf blocks).count base + (blocks.flatMap Block.broughtIn).count base := by
  induction blocks with
  | nil => exact ⟨rfl, fun _ => rfl⟩
  | cons block rest ih =>
      obtain ⟨outside, counts⟩ := ih (List.forall_mem_cons.mp leveled).2
        (List.forall_mem_cons.mp whole).2
      have read : Reading.ofText (textOf (block :: rest)) =
          ⟨(Reading.ofText (textOf rest)).inCode,
            (Reading.ofText (textOf rest)).used ++ (basesOf [block] ++ block.broughtIn)⟩ := by
        rw [textOf, List.flatMap_cons, Reading.ofText_ended_append,
          ofText_block (leveled block List.mem_cons_self) (whole block List.mem_cons_self),
          Reading.afterAll_used]
        rfl
      have bases : basesOf (block :: rest) = basesOf [block] ++ basesOf rest :=
        List.filterMap_append (l := [block])
      refine ⟨by rw [read]; exact outside, fun base => ?_⟩
      rw [read, bases, List.flatMap_cons]
      simp only [List.count_append, counts]
      omega

/-! ## Where links lead -/

/-- The heading that begins after these blocks of the page has this target for a reader. -/
def LeadsTo (page : Page) (before : List Block) (target : Text) : Prop :=
  (targetsIn page.render)[(textOf before).splitLines.length]? = some (some target)

theorem splitLines_render {page : Page} {before after : List Block} {level : Nat} {title : Text}
    {target : Option Text} (split : page.blocks = before ++ .heading level title target :: after)
    (line : title.IsLine) :
    page.render.splitLines =
      (textOf before).splitLines ++ headingLine level title :: [] :: (textOf after).splitLines := by
  have cut := Text.splitLines_of_isLine (isLine_headingLine level line)
  rw [headingLine] at cut
  rw [render_eq, split, textOf, List.flatMap_append, Text.splitLines_ended_append,
    List.flatMap_cons, Text.splitLines_ended_append, Block.lines, heading, spaced,
    Text.splitLines_ended [_, _], List.flatMap_cons, cut]
  rfl

/-- A heading of the page that is one line has its target for a reader who is outside code there and
has found as many headings with its base as the page has counted. -/
theorem leadsTo_iff {page : Page} {before after : List Block} {level : Nat} {title : Text}
    {target : Text} {used : Naming.Anchors}
    (numbered : IsNumbered [] page.blocks used)
    (split : page.blocks = before ++ .heading level title (some target) :: after)
    (line : title.IsLine) :
    LeadsTo page before target ↔ (Reading.ofText (textOf before)).inCode = false ∧
      (Reading.ofText (textOf before)).used.count (Naming.anchor title) =
        (basesOf before).count (Naming.anchor title) := by
  rw [split] at numbered
  obtain ⟨counted, front, here⟩ := numbered.of_append
  have own := front.count_eq (Naming.anchor title)
  rw [List.count_nil, Nat.add_zero] at own
  unfold LeadsTo targetsIn
  rw [splitLines_render split line, Reading.getElem?_targets]
  change some (((Reading.ofText (textOf before)).title? _).map _) = _ ↔ _
  cases here with
  | linked least most filled _ =>
      rw [title?_headingLine least most filled, ← own]
      cases (Reading.ofText (textOf before)).inCode with
      | true => simp
      | false => simpa [Reading.ofText] using Naming.add_eq_iff

/-- The table of contents has a link for each linked heading of the page, in order. A heading that
is one line has its own line on the page, and its link leads there exactly if no code is open and as
many headings with its base stand before it as the page counts; where the texts before are whole,
exactly if none of them brings in a heading with its base. -/
theorem links_of_page {api : Api} {clientName : Text} {page : Page}
    (made : Page.ofApi api clientName = .ok page) :
    contents page = heading 2 "Table of Contents" ++ page.blocks.filterMap Block.link? ∧
      ∀ before level title target after,
        page.blocks = before ++ .heading level title (some target) :: after → title.IsLine →
        page.render.splitLines[(textOf before).splitLines.length]? =
            some (headingLine level title) ∧
          (LeadsTo page before target ↔ (Reading.ofText (textOf before)).inCode = false ∧
            (Reading.ofText (textOf before)).used.count (Naming.anchor title) =
              (basesOf before).count (Naming.anchor title)) ∧
          ((∀ block ∈ before, block.IsWhole) → (LeadsTo page before target ↔
            ∀ block ∈ before, Naming.anchor title ∉ block.broughtIn)) := by
  obtain ⟨used, numbered⟩ := isNumbered_blocks made
  refine ⟨contents_eq page, fun before level title target after split line => ?_⟩
  have leads := leadsTo_iff numbered split line
  refine ⟨?_, leads, fun whole => ?_⟩
  · rw [splitLines_render split line, List.getElem?_append_right (Nat.le_refl _), Nat.sub_self]
    rfl
  · have leveled : ∀ block ∈ before, block.IsLeveled := fun block member =>
      numbered.isLeveled block (split ▸ List.mem_append_left _ member)
    obtain ⟨outside, counts⟩ := ofText_textOf leveled whole
    rw [leads, counts, Nat.add_eq_left, List.count_eq_zero, List.mem_flatMap]
    simp [outside]

/-- An operation without parameters and responses. -/
def listPets : Operation where
  identifier := "listPets"
  method := .get
  path := "/pets"
  summary := none
  description := none
  tags := ["pets"]
  parameters := []
  body := none
  responses := []
  deprecated := false

/-- An API with one operation and a description. -/
def guideApi (description : Text) : Api where
  title := "Pets"
  version := "1"
  description := some description
  baseUrl := none
  operations := [listPets]
  schemas := []
  tags := []

/-- The page of this API. -/
def guidePage (description : Text) : Page where
  title := "Pets"
  version := "1"
  description := some description
  baseUrl := none
  factory := "createPetsClient"
  quickStart := some ⟨"listPets", "api.pets.listPets()"⟩
  endpointsTarget := "endpoints"
  groups := [⟨"Pets", "pets-1", none, [⟨listPets, "GET \x60/pets\x60", "get-pets",
    "api.pets.listPets"⟩]⟩]
  modelsTarget := "models"
  models := []

/-- Under a description without headings the link to the operation leads to its section. -/
theorem links_of_guidePage :
    ∃ page before after, Page.ofApi (guideApi "All about pets") "PetsClient" = .ok page ∧
      page.blocks = before ++ .heading 4 "GET \x60/pets\x60" (some "get-pets") :: after ∧
      (∀ block ∈ before, block.IsWhole) ∧ LeadsTo page before "get-pets" := by
  have made : Page.ofApi (guideApi "All about pets") "PetsClient" =
    .ok (guidePage "All about pets") := by rfl
  have split : (guidePage "All about pets").blocks = (guidePage "All about pets").blocks.take 12 ++
      .heading 4 "GET \x60/pets\x60" (some "get-pets") ::
        (guidePage "All about pets").blocks.drop 13 := by rfl
  have whole : ∀ block ∈ (guidePage "All about pets").blocks.take 12, block.IsWhole := by
    decide +kernel
  obtain ⟨_, leads⟩ := links_of_page made
  refine ⟨_, _, _, made, split, whole, ((leads _ _ _ _ _ split (by decide)).2.2 whole).mpr ?_⟩
  decide +kernel

/-- Under a description that is a heading itself the link to the endpoints leads to the description:
the section of the endpoints has another target. -/
theorem not_leadsTo_endpoints :
    ∃ page after, Page.ofApi (guideApi "## Endpoints") "PetsClient" = .ok page ∧
      contentsLine 0 "Endpoints" "endpoints" ∈ contents page ∧
      page.blocks = page.frontBlocks ++ .heading 2 "Endpoints" (some "endpoints") :: after ∧
      ¬ LeadsTo page page.frontBlocks "endpoints" ∧ LeadsTo page page.frontBlocks "endpoints-1" := by
  have made : Page.ofApi (guideApi "## Endpoints") "PetsClient" = .ok (guidePage "## Endpoints") := by
    rfl
  have found : LeadsTo (guidePage "## Endpoints") (guidePage "## Endpoints").frontBlocks
      "endpoints-1" := by
    unfold LeadsTo
    decide +kernel
  refine ⟨_, _, made, by decide +kernel, rfl, fun leads => ?_, found⟩
  have same := Option.some.inj (Option.some.inj (leads.symm.trans found))
  revert same
  decide

end ApiForge.Markdown
