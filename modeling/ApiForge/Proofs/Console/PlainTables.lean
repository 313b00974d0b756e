import ApiForge.Console.Table
import ApiForge.Proofs.Text.Pieces
import Mathlib.Tactic.MkIffOfInductiveProp

/-!
# Plain tables read back

A plain table is written without escapes: a line feed after every row and a tab
between its cells. A reader who cuts the output into lines and each line at its
tabs finds the rows again exactly if every row has a cell and no cell holds a
tab or a letter at which the reader ends a line. A line feed in a cell makes one
line more.
-/

namespace ApiForge.Table

/-- All rows, that of the headers first. -/
def allRows (table : Table) : List (List Text) :=
  table.headers :: table.rows

/-- The line of a row. -/
def rowText (cells : List Text) : Text :=
  Text.join ['\t'] cells

/-! ## What is printed -/

theorem output_rowLine (cells : List Text) : (rowLine cells).output = rowText cells ++ ['\n'] :=
  rfl

theorem output_foldl (rows : List (List Text)) (printed : Printed) :
    (rows.foldl (fun printed cells => printed ++ rowLine cells) printed).output =
      printed.output ++ Text.ended (rows.map rowText) := by
  induction rows generalizing printed with
  | nil => exact (List.append_nil _).symm
  | cons cells rest ih =>
      rw [List.foldl_cons, ih]
      change (printed.output ++ (rowLine cells).output) ++ _ = _
      rw [output_rowLine, List.append_assoc]
      rfl

/-- A plain table is the line of each row in order, the headers first. -/
theorem output_print {console : Console} (plain : console.format = .plain) (table : Table) :
    (table.print console).output = Text.ended (table.allRows.map rowText) := by
  unfold print
  rw [plain]
  exact output_foldl table.allRows .nothing

/-! ## Readers -/

/-- The rows in an output: the cells of a line stand between its tabs. -/
def readRows (linesOf : Text → List Text) (output : Text) : List (List Text) :=
  (linesOf output).map (List.splitOn '\t')

/-- Cutting a text into lines takes away the letters that end a line, and gives lines without such
letters back. -/
structure CutsAt (breaks : Char → Bool) (linesOf : Text → List Text) : Prop where
  ended : ∀ lines, (∀ line ∈ lines, ∀ letter ∈ line, breaks letter = false) →
    linesOf (Text.ended lines) = lines
  unbroken : ∀ text, ∀ line ∈ linesOf text, ∀ letter ∈ line, breaks letter = false

theorem cutsAt_splitLines : CutsAt isLineBreak Text.splitLines where
  ended := by
    intro lines plain
    rw [Text.splitLines_ended,
      List.flatMap_congr fun line member => Text.splitLines_of_isLine (plain line member),
      List.flatMap_singleton']
  unbroken := Text.splitLines_isLineBreak

theorem cutsAt_feedLines : CutsAt (· == '\n') Text.feedLines where
  ended := by
    intro lines plain
    rw [Text.feedLines_ended]
    refine Text.flatMap_splitOn_of_not_mem fun line member feed => ?_
    exact absurd (plain line member '\n' feed) (by decide)
  unbroken := by
    intro text line listed letter member
    have apart := (Text.of_mem_splitOn (List.dropLast_subset _ listed) member).1
    exact beq_eq_false_iff_ne.mpr apart

/-- A row that is read back: it has a cell, and no cell holds a tab or a letter that ends a line. -/
@[mk_iff]
structure IsPlainRow (breaks : Char → Bool) (cells : List Text) : Prop where
  filled : cells ≠ []
  untabbed : ∀ cell ∈ cells, '\t' ∉ cell
  unbroken : ∀ cell ∈ cells, ∀ letter ∈ cell, breaks letter = false

variable {breaks : Char → Bool} {linesOf : Text → List Text}

instance (cells : List Text) : Decidable (IsPlainRow breaks cells) :=
  -- Only the letters of the cell are tried; left to itself, the search would try every character.
  have _ (cell : Text) : Decidable (∀ letter ∈ cell, breaks letter = false) :=
    List.decidableBAll _ cell
  decidable_of_iff _ (isPlainRow_iff breaks cells).symm

/-- The tabs of a line give the cells of its row back. -/
theorem splitOn_rowText {cells : List Text} (filled : cells ≠ [])
    (untabbed : ∀ cell ∈ cells, '\t' ∉ cell) : List.splitOn '\t' (rowText cells) = cells := by
  cases cells with
  | nil => exact absurd rfl filled
  | cons first rest =>
      calc List.splitOn '\t' (rowText (first :: rest))
        _ = (first :: rest).flatMap (List.splitOn '\t') := Text.splitOn_join [] first rest
        _ = first :: rest := Text.flatMap_splitOn_of_not_mem untabbed

/-- The rows are read back exactly if all of them are plain. -/
theorem readRows_ended_iff (cuts : CutsAt breaks linesOf) (tab : breaks '\t' = false)
    (rows : List (List Text)) :
    readRows linesOf (Text.ended (rows.map rowText)) = rows ↔
      ∀ cells ∈ rows, IsPlainRow breaks cells := by
  constructor
  · intro same cells member
    rw [← same] at member
    obtain ⟨line, listed, rfl⟩ := List.mem_map.mp member
    exact {
      filled := List.splitOn_ne_nil _ _
      untabbed := fun _ => Text.not_mem_of_mem_splitOn
      unbroken := fun cell inLine letter inCell =>
        cuts.unbroken _ line listed letter (Text.of_mem_splitOn inLine inCell).2 }
  · intro plain
    have lines : linesOf (Text.ended (rows.map rowText)) = rows.map rowText := by
      refine cuts.ended _ fun line listed letter member => ?_
      obtain ⟨cells, inRows, rfl⟩ := List.mem_map.mp listed
      rcases Text.exists_of_mem_join member with between | ⟨cell, inCells, inCell⟩
      · rw [List.mem_singleton.mp between, tab]
      · exact (plain cells inRows).unbroken cell inCells letter inCell
    rw [readRows, lines, List.map_map]
    refine (List.map_congr_left fun cells inRows => ?_).trans (List.map_id _)
    exact splitOn_rowText (plain cells inRows).filled (plain cells inRows).untabbed

/-! ## Lines of a table -/

theorem count_join {letter : Char} {between : Text} (unmet : letter ∉ between)
    (parts : List Text) : (Text.join between parts).count letter = parts.flatten.count letter := by
  fun_induction Text.join between parts with
  | case1 => rfl
  | case2 part => simp
  | case3 part other rest ih =>
      rw [List.count_append, List.count_append, List.count_eq_zero_of_not_mem unmet, ih,
        Nat.add_zero, ← List.count_append]
      rfl

/-- Every row has a line, and every line feed in a cell makes one more. -/
theorem length_feedLines_ended (rows : List (List Text)) :
    (Text.feedLines (Text.ended (rows.map rowText))).length =
      rows.length + rows.flatten.flatten.count '\n' := by
  rw [Text.feedLines_ended]
  induction rows with
  | nil => rfl
  | cons cells rest ih =>
      rw [List.map_cons, List.flatMap_cons, List.length_append, ih, Text.length_splitOn, rowText,
        count_join (by decide), List.flatten_cons, List.flatten_append, List.count_append,
        List.length_cons]
      omega

/-- A plain table is read back by its lines and tabs exactly if every row has a cell and no cell
holds a tab or a line break, whether a line feed alone or every line break ends a line. At its line
feeds it has a line for every row and one more for every line feed in a cell. -/
theorem readRows_print_iff {console : Console} (plain : console.format = .plain) (table : Table) :
    (readRows Text.feedLines (table.print console).output = table.allRows ↔
        ∀ cells ∈ table.allRows, IsPlainRow (· == '\n') cells) ∧
      (readRows Text.splitLines (table.print console).output = table.allRows ↔
        ∀ cells ∈ table.allRows, IsPlainRow isLineBreak cells) ∧
      (Text.feedLines (table.print console).output).length =
        table.allRows.length + table.allRows.flatten.flatten.count '\n' := by
  rw [output_print plain]
  exact ⟨readRows_ended_iff cutsAt_feedLines (by decide) _,
    readRows_ended_iff cutsAt_splitLines (by decide) _, length_feedLines_ended _⟩

def plainConsole : Console :=
  { format := .plain, isColorless := true, isQuiet := false, isVerbose := false }

/-- A table of clients with one row. -/
def clientOf (title : Text) : Table :=
  { headers := ["Name", "Title"], rows := [["pets", title]] }

theorem readRows_print_of_blank :
    plainConsole.format = .plain ∧
      (∀ cells ∈ (clientOf "Pets and owners").allRows, IsPlainRow isLineBreak cells) ∧
      readRows Text.feedLines ((clientOf "Pets and owners").print plainConsole).output =
        (clientOf "Pets and owners").allRows ∧
      readRows Text.splitLines ((clientOf "Pets and owners").print plainConsole).output =
        (clientOf "Pets and owners").allRows ∧
      (Text.feedLines ((clientOf "Pets and owners").print plainConsole).output).length = 2 := by
  have plain : plainConsole.format = .plain := rfl
  obtain ⟨byFeeds, byBreaks, lines⟩ := readRows_print_iff plain (clientOf "Pets and owners")
  have read : ∀ cells ∈ (clientOf "Pets and owners").allRows, IsPlainRow isLineBreak cells := by
    decide
  exact ⟨plain, read, byFeeds.mpr (by decide), byBreaks.mpr read, lines⟩

/-- A line feed in a title puts the rest of the row on a line of its own, and a tab in it makes one
cell more. -/
theorem not_readRows_print_of_feed :
    (∀ cells ∈ (clientOf "Pets\nand owners").rows,
        cells.length = (clientOf "Pets\nand owners").headers.length) ∧
      Text.feedLines ((clientOf "Pets\nand owners").print plainConsole).output =
        ["Name\tTitle".toList, "pets\tPets".toList, "and owners".toList] ∧
      readRows Text.feedLines ((clientOf "Pets\nand owners").print plainConsole).output ≠
        (clientOf "Pets\nand owners").allRows ∧
      readRows Text.feedLines ((clientOf "Pets\tand owners").print plainConsole).output =
        [["Name".toList, "Title".toList], ["pets".toList, "Pets".toList, "and owners".toList]] := by
  decide

end ApiForge.Table
