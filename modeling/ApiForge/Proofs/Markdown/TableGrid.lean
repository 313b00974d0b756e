import ApiForge.Proofs.Markdown.Bars
import ApiForge.Proofs.Markdown.PageParts
import ApiForge.Proofs.Model.Groups
import ApiForge.Proofs.Naming.Forms

/-!
# The grid of tables

A row is put together from texts of the API and from words of its own. Each cell
is kept with the stretches in it that are made from texts, so that the bars and
the ends of lines of a row are those of its stretches. The tables of an API stand
on its page, and a row keeps the grid if none of its stretches breaks it.
-/

namespace ApiForge.Markdown

/-! ## What a row shows -/

/-- A stretch of a row that is made from a text of the API. -/
inductive Shown where
  | code (text : Text)
  | prose (text : Option Text)
  | type (name : Text)
  deriving DecidableEq, Repr

namespace Shown

def render : Shown → Text
  | .code text => codeSpan text
  | .prose text => cell text
  | .type name => ticked (Naming.schemaType name)

/-- The bars of the stretch that are not escaped. -/
def strayBars : Shown → Nat
  | .code text => guardedBars text
  | .prose text => guardedBars (text.getD [])
  | .type _ => 0

/-- The stretch does not stay on one line. -/
def BreaksLine : Shown → Prop
  | .code _ => False
  | .prose text => HasBareReturn (text.getD [])
  | .type name => Naming.EndsInFeed name

end Shown

/-- The text has the bars and the ends of lines of what it shows, and no others. -/
structure Shows (text : Text) (shown : List Shown) : Prop where
  bars : openBars text = (shown.map Shown.strayBars).sum
  oneLine : IsOneLine text ↔ ∀ part ∈ shown, ¬ part.BreaksLine

/-- The letter has no part in counting bars and ends no line. -/
def isHarmless (letter : Char) : Bool :=
  letter != '\\' && letter != '|' && letter != '\n' && letter != '\r'

theorem isHarmless_iff {letter : Char} :
    isHarmless letter = true ↔ IsNeutral letter ∧ letter ≠ '\n' ∧ letter ≠ '\r' := by
  simp only [isHarmless, IsNeutral, Bool.and_eq_true, bne_iff_ne, and_assoc]

namespace Shows

variable {first second : Text} {before after : List Shown}

/-- Two texts with a harmless letter between them show what both show. -/
theorem append (letter : Char) (harmless : isHarmless letter = true)
    (start : Shows first before) (final : Shows second after) :
    Shows (first ++ letter :: second) (before ++ after) where
  bars := by
    rw [List.map_append, List.sum_append, ← start.bars, ← final.bars]
    exact barsFrom_append (isHarmless_iff.mp harmless).1 second
  oneLine := by
    rw [isOneLine_append, isOneLine_cons (isHarmless_iff.mp harmless).2, start.oneLine,
      final.oneLine, List.forall_mem_append]

theorem of_harmless {text : Text} (harmless : text.all isHarmless = true) : Shows text [] := by
  have each letter (member : letter ∈ text) :=
    isHarmless_iff.mp (List.all_eq_true.mp harmless letter member)
  exact {
    bars := barsFrom_of_neutral fun letter member => (each letter member).1
    oneLine := iff_of_true
      ⟨fun feed => (each _ feed).2.1 rfl, fun ret => (each _ ret).2.2 rfl⟩
      fun _ none => nomatch none }

theorem nil : Shows [] [] :=
  of_harmless rfl

/-- Harmless letters around a text that shows something. -/
theorem between {opening closing : Text} (starts : opening.all isHarmless = true)
    (ends : closing.all isHarmless = true) (opened : opening ≠ []) (closed : closing ≠ [])
    (shows : Shows first before) : Shows (opening ++ first ++ closing) before := by
  have start : opening = opening.dropLast ++ [opening.getLast opened] :=
    (List.dropLast_append_getLast opened).symm
  obtain ⟨letter, rest, rfl⟩ := List.exists_cons_of_ne_nil closed
  rw [List.all_cons, Bool.and_eq_true] at ends
  rw [start, List.all_append, Bool.and_eq_true, List.all_cons, List.all_nil,
    Bool.and_true] at starts
  have both :=
    append _ starts.2 (of_harmless starts.1) (append _ ends.1 shows (of_harmless ends.2))
  rw [List.nil_append, List.append_nil] at both
  rw [start]
  simpa using both

theorem ticked (shows : Shows first before) : Shows (Markdown.ticked first) before :=
  between rfl rfl (by simp) (by simp) shows

end Shows

/-- A stretch shows what it is made from. -/
theorem shows_render (shown : Shown) : Shows shown.render [shown] := by
  have alone {text : Text} (bars : openBars text = shown.strayBars)
      (oneLine : IsOneLine text ↔ ¬ shown.BreaksLine) : Shows text [shown] :=
    ⟨by simp [bars], by simp [oneLine]⟩
  cases shown with
  | code text =>
      have bars : openBars (escapeBars (Text.join " " text.splitLines)) = guardedBars text := by
        rw [openBars, guardedBars, barsFrom_escapeBars, barsFrom_joinLines]
      have oneLine : IsOneLine (escapeBars (Text.join " " text.splitLines)) := by
        have plain := isOneLine_of_isLine
          (Text.isNotLineBreak_join (Text.splitLines_isLineBreak text))
        rwa [IsOneLine, mem_escapeBars (by decide), mem_escapeBars (by decide)]
      have content := alone bars (iff_of_true oneLine not_false)
      change Shows (if _ then _ else _) _
      split
      · exact .between rfl rfl (by simp) (by simp) content
      · exact content.ticked
  | prose text => exact alone (openBars_cell text) (isOneLine_cell text)
  | type name =>
      have parts := @Naming.isIdentifierPart_of_mem_schemaType name
      have apart {letter : Char} (strange : Naming.isIdentifierPart letter = false)
          (noFeed : letter ≠ '\n') : letter ∉ Naming.schemaType name := fun member =>
        (parts letter member).elim (fun part => by rw [strange] at part; cases part) noFeed
      have neutral : ∀ letter ∈ Naming.schemaType name, IsNeutral letter := fun letter member => by
        constructor
        · rintro rfl
          exact apart (by decide) (by decide) member
        · rintro rfl
          exact apart (by decide) (by decide) member
      have oneLine : IsOneLine (Naming.schemaType name) ↔ ¬ Naming.EndsInFeed name := by
        rw [IsOneLine, and_iff_left (apart (by decide) (by decide)), Naming.feed_mem_schemaType_iff]
      exact Shows.ticked (alone (barsFrom_of_neutral neutral) oneLine)

/-! ## Labels -/

mutual

/-- What the label of a schema shows. -/
def shownOf : Schema → List Shown
  | .primitive notes _ =>
      (notes.format.filter (!·.isEmpty)).toList.map fun format => .prose (some format)
  | .enumeration _ values => values.map fun value => .code ("\"" ++ value ++ "\"")
  | .array _ items => shownOf items
  | .object _ [] _ additional => shownOfAdditional additional
  | .object _ (_ :: _) _ _ => []
  | .reference _ name => [.type name]
  termination_by structural schema => schema

/-- What the label of an object without properties shows. -/
def shownOfAdditional : Option Schema → List Shown
  | none => []
  | some schema => shownOf schema
  termination_by structural additional => additional

end

theorem shows_noted {notes : Notes} {label : Text} {shown : List Shown}
    (shows : Shows label shown) : Shows (noted notes label) shown := by
  unfold noted
  split
  · have null : Shows "\\| \x60null\x60" [] :=
      ⟨by decide, iff_of_true (by decide) fun _ none => nomatch none⟩
    have both : Shows (label ++ ' ' :: "\\| \x60null\x60") (shown ++ []) :=
      shows.append ' ' rfl null
    rwa [List.append_nil] at both
  · exact shows

theorem shows_primitiveLabel (notes : Notes) (type : Primitive) :
    Shows (primitiveLabel notes type)
      ((notes.format.filter (!·.isEmpty)).toList.map fun format => .prose (some format)) := by
  have name : Shows (ticked type.name) [] :=
    Shows.ticked (.of_harmless (by cases type <;> rfl))
  unfold primitiveLabel
  cases given : notes.format.filter (!·.isEmpty) with
  | none => exact name
  | some format =>
      have inside : Shows ("(" ++ cell (some format) ++ ")") [.prose (some format)] :=
        .between rfl rfl (by simp) (by simp) (shows_render (.prose (some format)))
      have both := name.append ' ' rfl inside
      simpa using both

theorem shows_valuesLabel (values : List Text) :
    Shows (valuesLabel values) (values.map fun value => .code ("\"" ++ value ++ "\"")) := by
  have bar : Shows "\\|" [] := ⟨by decide, iff_of_true (by decide) fun _ none => nomatch none⟩
  have joined : Shows (Text.join " \\| " (values.map fun value => codeSpan ("\"" ++ value ++ "\"")))
      (values.map fun value => .code ("\"" ++ value ++ "\"")) := by
    induction values with
    | nil => exact .nil
    | cons value rest ih =>
        have first := shows_render (.code ("\"" ++ value ++ "\""))
        cases rest with
        | nil => exact first
        | cons other others =>
            have gap := Shows.append ' ' rfl bar ih
            have both := first.append ' ' rfl gap
            simpa [Text.join, Shown.render] using both
  cases values with
  | nil =>
      have never : Shows "\x60never\x60" [] := .of_harmless rfl
      exact never
  | cons value rest => exact joined

theorem additionalLabel_none : additionalLabel none = "\x60object\x60" :=
  rfl

theorem additionalLabel_some (schema : Schema) :
    additionalLabel (some schema) = "map of " ++ schemaLabel schema :=
  rfl

mutual

/-- The label of a schema shows the formats, values and names in it. -/
theorem shows_schemaLabel : (schema : Schema) → Shows (schemaLabel schema) (shownOf schema)
  | .primitive notes type => by
      rw [schemaLabel, shownOf]
      exact shows_noted (shows_primitiveLabel notes type)
  | .enumeration notes values => by
      rw [schemaLabel, shownOf]
      exact shows_noted (shows_valuesLabel values)
  | .array notes items => by
      have list : Shows (schemaLabel items ++ '[' :: "]") (shownOf items ++ []) :=
        (shows_schemaLabel items).append '[' rfl (.of_harmless rfl)
      rw [List.append_nil] at list
      rw [schemaLabel, shownOf]
      exact shows_noted list
  | .object notes [] required additional => by
      rw [schemaLabel, shownOf]
      exact shows_noted (shows_additionalLabel additional)
  | .object notes (property :: rest) required additional => by
      rw [schemaLabel, shownOf]
      exact shows_noted (.of_harmless rfl)
  | .reference notes name => by
      rw [schemaLabel, shownOf]
      exact shows_noted (shows_render (.type name))
  termination_by structural schema => schema

theorem shows_additionalLabel : (additional : Option Schema) →
    Shows (additionalLabel additional) (shownOfAdditional additional)
  | none => by
      rw [additionalLabel_none]
      exact .of_harmless rfl
  | some schema => by
      rw [additionalLabel_some]
      have words : Shows ("map of".toList ++ ' ' :: schemaLabel schema) ([] ++ shownOf schema) :=
        .append ' ' rfl (.of_harmless rfl) (shows_schemaLabel schema)
      exact words
  termination_by structural additional => additional

end

/-- What the label of what may hold no value shows. -/
def shownOfContent (schema : Option Schema) : List Shown :=
  (schema.map shownOf).getD []

theorem shows_contentLabel (schema : Option Schema) :
    Shows (contentLabel schema) (shownOfContent schema) := by
  cases schema with
  | none => exact .of_harmless rfl
  | some schema => exact shows_schemaLabel schema

/-! ## Rows -/

/-- A cell of a row with what it shows. -/
structure Cell where
  text : Text
  shown : List Shown
  shows : Shows text shown

namespace Cell

def ofShown (shown : Shown) : Cell :=
  ⟨shown.render, [shown], shows_render shown⟩

def yesNo (value : Bool) : Cell :=
  ⟨Markdown.yesNo value, [], by cases value <;> exact .of_harmless rfl⟩

def ofLocation (location : Location) : Cell :=
  ⟨location.name, [], by cases location <;> exact .of_harmless rfl⟩

def ofSchema (schema : Option Schema) : Cell :=
  ⟨contentLabel schema, shownOfContent schema, shows_contentLabel schema⟩

end Cell


/-- The row with these cells. -/
def rowOf (cells : List Cell) : Text :=
  row (cells.map Cell.text)

def shownIn (cells : List Cell) : List Shown :=
  cells.flatMap Cell.shown

theorem openBars_between (first second : Text) :
    openBars (first ++ " | " ++ second) = openBars first + 1 + openBars second := by
  have cut : first ++ " | " ++ second = first ++ ' ' :: '|' :: ' ' :: second := by simp
  rw [cut, openBars, barsFrom_append (by decide), openBars, openBars, Nat.add_assoc]
  rfl

theorem openBars_join {cells : List Cell} (filled : cells ≠ []) :
    openBars (Text.join " | " (cells.map Cell.text)) + 1 =
      cells.length + ((shownIn cells).map Shown.strayBars).sum := by
  induction cells with
  | nil => exact absurd rfl filled
  | cons cell rest ih =>
      rw [shownIn, List.flatMap_cons, List.map_append, List.sum_append, ← cell.shows.bars]
      cases rest with
      | nil => exact Nat.add_comm ..
      | cons other others =>
          have inRest := ih (List.cons_ne_nil _ _)
          have joined := openBars_between cell.text
            (Text.join " | " ((other :: others).map Cell.text))
          have unfolded : Text.join " | " ((cell :: other :: others).map Cell.text) =
              cell.text ++ " | " ++ Text.join " | " ((other :: others).map Cell.text) := rfl
          rw [unfolded, joined, List.length_cons]
          rw [shownIn] at inRest
          omega

theorem isOneLine_join (cells : List Cell) :
    IsOneLine (Text.join " | " (cells.map Cell.text)) ↔
      ∀ part ∈ shownIn cells, ¬ part.BreaksLine := by
  induction cells with
  | nil => exact iff_of_true (by decide) fun _ none => nomatch none
  | cons cell rest ih =>
      rw [shownIn, List.flatMap_cons, List.forall_mem_append, ← cell.shows.oneLine]
      cases rest with
      | nil => exact (and_iff_left fun _ none => nomatch none).symm
      | cons other others =>
          have unfolded : Text.join " | " ((cell :: other :: others).map Cell.text) =
              cell.text ++ " | " ++ Text.join " | " ((other :: others).map Cell.text) := rfl
          rw [unfolded, isOneLine_append, isOneLine_append, ih, shownIn]
          exact and_congr_left' (and_iff_left (by decide))

/-- The row is one line and has a bar on either side of each column. -/
def KeepsGrid (columns : Nat) (text : Text) : Prop :=
  IsOneLine text ∧ openBars text = columns + 1

instance (columns : Nat) (text : Text) : Decidable (KeepsGrid columns text) :=
  inferInstanceAs (Decidable (_ ∧ _))

/-- Beside the bars of its columns a row has those that its texts have escaped, and it is one line
if none of its texts breaks it. -/
structure IsLaidOut (columns : Nat) (cells : List Cell) : Prop where
  bars : openBars (rowOf cells) = columns + 1 + ((shownIn cells).map Shown.strayBars).sum
  oneLine : IsOneLine (rowOf cells) ↔ ∀ part ∈ shownIn cells, ¬ part.BreaksLine
  keepsGrid : KeepsGrid columns (rowOf cells) ↔
    ∀ part ∈ shownIn cells, part.strayBars = 0 ∧ ¬ part.BreaksLine

theorem isLaidOut_of_ne_nil {cells : List Cell} (filled : cells ≠ []) :
    IsLaidOut cells.length cells := by
  have bars : openBars (rowOf cells) =
      cells.length + 1 + ((shownIn cells).map Shown.strayBars).sum := by
    have cut : rowOf cells =
        '|' :: ' ' :: (Text.join " | " (cells.map Cell.text) ++ ' ' :: ['|']) := by
      simp [rowOf, row]
    have joined := openBars_join filled
    have outer : openBars (rowOf cells) =
        1 + (openBars (Text.join " | " (cells.map Cell.text)) + 1) := by
      rw [cut]
      exact congrArg (1 + ·) (barsFrom_append (by decide) ['|'])
    omega
  have oneLine : IsOneLine (rowOf cells) ↔ ∀ part ∈ shownIn cells, ¬ part.BreaksLine := by
    rw [← isOneLine_join, rowOf, row, isOneLine_append, isOneLine_append,
      and_iff_left (by decide), and_iff_right (by decide)]
  refine ⟨bars, oneLine, ?_⟩
  have none : openBars (rowOf cells) = cells.length + 1 ↔
      ∀ part ∈ shownIn cells, part.strayBars = 0 := by
    rw [bars, Nat.add_eq_left, List.sum_eq_zero_iff, List.forall_mem_map]
  rw [KeepsGrid, oneLine, none, and_comm]
  exact forall₂_and.symm

/-! ## Tables -/

/-- A table: each row has a cell under every title. -/
structure Table where
  titles : List Text
  titled : titles ≠ []
  widths : List Nat
  rows : List (List Cell)
  aligned : ∀ cells ∈ rows, cells.length = titles.length

namespace Table

def lines (table : Table) : List Text :=
  tableHead table.titles table.widths ++ table.rows.map rowOf

def ofParameters (parameters : List Parameter) : Table where
  titles := ["Parameter", "Type", "Required", "Location", "Description"]
  titled := List.cons_ne_nil _ _
  widths := [11, 6, 10, 10, 13]
  rows := parameters.map fun parameter =>
    [.ofShown (.code parameter.name), .ofShown (.prose (some (parameterLabel parameter))),
      .yesNo parameter.required, .ofLocation parameter.location,
      .ofShown (.prose parameter.description)]
  aligned := List.forall_mem_map.mpr fun _ _ => rfl

def ofResponses (responses : List Response) : Table where
  titles := ["Status", "Description", "Type"]
  titled := List.cons_ne_nil _ _
  widths := [8, 13, 6]
  rows := responses.map fun response =>
    [.ofShown (.code response.status), .ofShown (.prose (some response.description)),
      .ofSchema response.schema]
  aligned := List.forall_mem_map.mpr fun _ _ => rfl

def ofProperties (properties : List (Text × Schema)) (required : List Text) : Table where
  titles := ["Field", "Type", "Required", "Description"]
  titled := List.cons_ne_nil _ _
  widths := [7, 6, 10, 13]
  rows := properties.map fun (name, schema) =>
    [.ofShown (.code name), .ofSchema (some schema), .yesNo (required.contains name),
      .ofShown (.prose schema.notes.description)]
  aligned := List.forall_mem_map.mpr fun _ _ => rfl

/-- The table of parameters and the table of responses. -/
def ofOperation (operation : Operation) : List Table :=
  (if operation.parameters.isEmpty then [] else [ofParameters operation.parameters]) ++
    if operation.responses.isEmpty then [] else [ofResponses operation.responses]

/-- The table of fields. -/
def ofModel : Schema → List Table
  | .object _ (property :: rest) required _ => [ofProperties (property :: rest) required]
  | _ => []

/-- The tables in the documentation of an API. -/
def ofApi (api : Api) : List Table :=
  api.operations.flatMap ofOperation ++ api.schemas.flatMap fun named => ofModel named.2

end Table

theorem parametersTable_eq {parameters : List Parameter} (filled : parameters.isEmpty = false) :
    parametersTable parameters =
      [] :: spaced "**Parameters:**" ++ (Table.ofParameters parameters).lines := by
  rw [parametersTable, if_neg (by rw [filled]; exact Bool.false_ne_true), List.append_assoc]
  simp only [Table.lines, Table.ofParameters, List.map_map]
  rfl

theorem responsesTable_eq {responses : List Response} (filled : responses.isEmpty = false) :
    responsesTable responses = (Table.ofResponses responses).lines := by
  rw [responsesTable, if_neg (by rw [filled]; exact Bool.false_ne_true)]
  simp only [Table.lines, Table.ofResponses, List.map_map]
  rfl

theorem shapeLines_eq (notes : Notes) (property : Text × Schema) (rest : List (Text × Schema))
    (required : List Text) (additional : Option Schema) :
    shapeLines (.object notes (property :: rest) required additional) =
      (Table.ofProperties (property :: rest) required).lines := by
  simp only [shapeLines, fieldsOf, Table.lines, Table.ofProperties, List.map_map, List.map_cons]
  rfl

/-! ## Pages -/

theorem mem_unless_empty {α β : Type} {list : List α} {only value : β}
    (member : value ∈ if list.isEmpty then [] else [only]) :
    list.isEmpty = false ∧ value = only := by
  split at member
  · cases member
  · next filled => exact ⟨Bool.eq_false_iff.mpr filled, List.mem_singleton.mp member⟩

theorem lines_infix_of_mem_parts {page : Page} {part : Part} (member : part ∈ page.parts) :
    part.lines <:+: pageLines page := by
  rw [pageLines_eq, List.flatMap_def]
  exact List.infix_of_mem_flatten (List.mem_map_of_mem member)

theorem operation_mem_parts {page : Page} {entry : OperationEntry}
    (member : entry ∈ page.operations) : .operation entry ∈ page.parts := by
  rw [← filterMap_operation?] at member
  obtain ⟨part, inParts, about⟩ := List.mem_filterMap.mp member
  cases part with
  | operation _ => exact Option.some.inj about ▸ inParts
  | _ => cases about

theorem model_mem_parts {page : Page} {model : ModelEntry} (member : model ∈ page.models) :
    .model model ∈ page.parts := by
  rw [← filterMap_model?] at member
  obtain ⟨part, inParts, about⟩ := List.mem_filterMap.mp member
  cases part with
  | model _ => exact Option.some.inj about ▸ inParts
  | _ => cases about

theorem lines_infix_of_mem_ofOperation {entry : OperationEntry} {table : Table}
    (member : table ∈ Table.ofOperation entry.operation) :
    table.lines <:+: operationLines entry := by
  rcases List.mem_append.mp member with isParameters | isResponses
  · obtain ⟨filled, rfl⟩ := mem_unless_empty isParameters
    have inPart : (Table.ofParameters entry.operation.parameters).lines <:+:
        parametersTable entry.operation.parameters := by
      rw [parametersTable_eq filled]
      exact (List.suffix_append _ _).isInfix
    have before : ∀ first second third : List Text,
        first <:+: first ++ second ++ third := fun first second third =>
      ((List.prefix_append first second).trans (List.prefix_append _ third)).isInfix
    exact inPart.trans ((List.infix_append _ _ _).trans
      ((before _ _ _).trans (List.prefix_append _ _).isInfix))
  · obtain ⟨filled, rfl⟩ := mem_unless_empty isResponses
    rw [← responsesTable_eq filled]
    exact List.infix_append _ _ _

theorem lines_infix_of_mem_ofModel {model : ModelEntry} {table : Table}
    (member : table ∈ Table.ofModel model.schema) : table.lines <:+: modelLines model := by
  unfold Table.ofModel at member
  split at member
  · next notes property rest required additional schema =>
      rw [List.mem_singleton.mp member, ← shapeLines_eq notes property rest required additional,
        ← schema]
      exact ⟨_, _, rfl⟩
  · cases member

/-- The tables of an API stand on its page. -/
theorem lines_infix_of_mem_ofApi {api : Api} {clientName : Text} {page : Page}
    (made : Page.ofApi api clientName = .ok page) {table : Table}
    (member : table ∈ Table.ofApi api) : table.lines <:+: pageLines page := by
  have about := isPageOf_of_page made
  rcases List.mem_append.mp member with ofOperation | ofModel
  · obtain ⟨operation, inApi, ofOperation⟩ := List.mem_flatMap.mp ofOperation
    have listed := List.mem_map_of_mem (f := fun operation =>
      (operation, headingOf operation, callOf operation))
      (api.isGrouping.complete.mem_iff.mpr inApi)
    rw [← about.operations] at listed
    obtain ⟨entry, inPage, same⟩ := List.mem_map.mp listed
    rw [← (Prod.mk.inj same).1] at ofOperation
    exact (lines_infix_of_mem_ofOperation ofOperation).trans
      (lines_infix_of_mem_parts (operation_mem_parts inPage))
  · obtain ⟨⟨name, schema⟩, inApi, ofModel⟩ := List.mem_flatMap.mp ofModel
    have listed := List.mem_map_of_mem (f := fun schema : Text × Schema =>
      (Naming.schemaType schema.1, schema.2)) inApi
    rw [← about.models] at listed
    obtain ⟨model, inPage, same⟩ := List.mem_map.mp listed
    rw [← (Prod.mk.inj same).2] at ofModel
    exact (lines_infix_of_mem_ofModel ofModel).trans
      (lines_infix_of_mem_parts (model_mem_parts inPage))

/-- In every table of a page each row is laid out under the titles: it keeps the grid unless a text
in it has escaped a bar itself or does not stay on one line. -/
theorem isLaidOut_of_page {api : Api} {clientName : Text} {page : Page}
    (made : Page.ofApi api clientName = .ok page) {table : Table}
    (member : table ∈ Table.ofApi api) :
    table.lines <:+: pageLines page ∧
      ∀ cells ∈ table.rows, IsLaidOut table.titles.length cells := by
  refine ⟨lines_infix_of_mem_ofApi made member, fun cells inTable => ?_⟩
  rw [← table.aligned cells inTable]
  refine isLaidOut_of_ne_nil fun none => table.titled (List.length_eq_zero_iff.mp ?_)
  rw [← table.aligned cells inTable, none]
  rfl

/-! ## A page with two rows -/

def kindParameter (description : Text) : Parameter where
  name := "kind"
  location := .query
  required := false
  type := "string"
  format := none
  itemsType := none
  description := some description

def petsResponse (type : Text) : Response :=
  ⟨"200", "The pets", none, some (.reference .none type)⟩

/-- An API with one operation, which takes the kind and gives the pets. -/
def kindApi (description type : Text) : Api where
  title := "Pets"
  version := "1"
  description := none
  baseUrl := none
  operations := [{
    identifier := "listPets"
    method := .get
    path := "/pets"
    summary := none
    description := none
    tags := ["pets"]
    parameters := [kindParameter description]
    body := none
    responses := [petsResponse type]
    deprecated := false }]
  schemas := []
  tags := []

theorem rows_of_kindApi {description type : Text} {page : Page}
    (made : Page.ofApi (kindApi description type) "PetsClient" = .ok page) :
    parameterRow (kindParameter description) ∈ pageLines page ∧
      responseRow (petsResponse type) ∈ pageLines page := by
  have ofParameters := lines_infix_of_mem_ofApi made
    (List.mem_cons_self (a := Table.ofParameters [kindParameter description]))
  have ofResponses := lines_infix_of_mem_ofApi made
    (List.mem_cons_of_mem _ (List.mem_cons_self (a := Table.ofResponses [petsResponse type])))
  exact ⟨ofParameters.subset (List.mem_append_right _ List.mem_cons_self),
    ofResponses.subset (List.mem_append_right _ List.mem_cons_self)⟩

/-- A bar in a description and a sound name keep the grid. -/
theorem isLaidOut_of_kindApi :
    ∃ page, Page.ofApi (kindApi "cat | dog" "Pets") "PetsClient" = .ok page ∧
      ∀ table ∈ Table.ofApi (kindApi "cat | dog" "Pets"), table.lines <:+: pageLines page ∧
        ∀ cells ∈ table.rows, IsLaidOut table.titles.length cells ∧
          KeepsGrid table.titles.length (rowOf cells) := by
  obtain ⟨page, made⟩ :
      ∃ page, Page.ofApi (kindApi "cat | dog" "Pets") "PetsClient" = .ok page := ⟨_, rfl⟩
  have kept : ∀ table ∈ Table.ofApi (kindApi "cat | dog" "Pets"), ∀ cells ∈ table.rows,
      KeepsGrid table.titles.length (rowOf cells) :=
    List.forall_mem_cons.mpr ⟨List.forall_mem_singleton.mpr (by decide),
      List.forall_mem_singleton.mpr (List.forall_mem_singleton.mpr (by decide))⟩
  refine ⟨page, made, fun table member => ?_⟩
  obtain ⟨onPage, laidOut⟩ := isLaidOut_of_page made member
  exact ⟨onPage, fun cells inTable => ⟨laidOut cells inTable, kept table member cells inTable⟩⟩

/-- A bar that a description has escaped itself gives the row one more column, a carriage return in
it ends the line of the row, and so does a line feed at the end of a name. -/
theorem not_keepsGrid_of_kindApi :
    (∃ page, Page.ofApi (kindApi "cat\\|dog" "Pets") "PetsClient" = .ok page ∧
      parameterRow (kindParameter "cat\\|dog") ∈ pageLines page ∧
      ¬ KeepsGrid 5 (parameterRow (kindParameter "cat\\|dog"))) ∧
    (∃ page, Page.ofApi (kindApi "cat\rdog" "Pets") "PetsClient" = .ok page ∧
      parameterRow (kindParameter "cat\rdog") ∈ pageLines page ∧
      ¬ KeepsGrid 5 (parameterRow (kindParameter "cat\rdog"))) ∧
    ∃ page, Page.ofApi (kindApi "cat" "Pets\n") "PetsClient" = .ok page ∧
      responseRow (petsResponse "Pets\n") ∈ pageLines page ∧
      ¬ KeepsGrid 3 (responseRow (petsResponse "Pets\n")) := by
  have made (description type : Text) :
      ∃ page, Page.ofApi (kindApi description type) "PetsClient" = .ok page := ⟨_, rfl⟩
  obtain ⟨guarded, ofGuarded⟩ := made "cat\\|dog" "Pets"
  obtain ⟨broken, ofBroken⟩ := made "cat\rdog" "Pets"
  obtain ⟨named, ofNamed⟩ := made "cat" "Pets\n"
  exact ⟨⟨guarded, ofGuarded, (rows_of_kindApi ofGuarded).1, by decide⟩,
    ⟨broken, ofBroken, (rows_of_kindApi ofBroken).1, by decide⟩,
    named, ofNamed, (rows_of_kindApi ofNamed).2, by decide⟩

end ApiForge.Markdown
