import ApiForge.TypeScript.PathTemplate

/-!
# Reading template literals

A reader of template literals, and what it finds in the literal of a path: one
expression for each placeholder of a declared parameter, and the bare text of
every other placeholder that stands right after a dollar sign. The stretches of
a path are escaped one by one, so the dollar sign and the brace after it are
not seen together.
-/

namespace ApiForge.TypeScript

/-! ## The reader -/

/-- Where a reader of a template literal stands: in its text, after a dollar sign or a backslash of
the text, in an interpolation of which it has read a part, after the end, or past it. -/
inductive TemplateState where
  | text
  | dollar
  | escape
  | expression (read : Text)
  | closed
  | broken
  deriving DecidableEq, Repr

/-- A reader with the expressions found so far. -/
structure TemplateReader where
  state : TemplateState
  found : List Text
  deriving DecidableEq, Repr

namespace TemplateReader

/-- The state after a letter of the text. -/
def afterLetter (letter : Char) : TemplateState :=
  if letter = '\\' then .escape
  else if letter = '\x60' then .closed
  else if letter = '$' then .dollar
  else .text

/-- Reads one letter. The interpolations of generated literals hold no braces of their own, so a
closing brace ends one. -/
def step (reader : TemplateReader) (letter : Char) : TemplateReader :=
  match reader.state with
  | .text => { reader with state := afterLetter letter }
  | .dollar =>
      if letter = '\x7b' then { reader with state := .expression [] }
      else { reader with state := afterLetter letter }
  | .escape => { reader with state := .text }
  | .expression read =>
      if letter = '\x7d' then ⟨.text, reader.found ++ [read]⟩
      else { reader with state := .expression (read ++ [letter]) }
  | .closed => { reader with state := .broken }
  | .broken => reader

def run (reader : TemplateReader) (text : Text) : TemplateReader :=
  text.foldl step reader

@[simp]
theorem run_nil (reader : TemplateReader) : reader.run [] = reader :=
  rfl

@[simp]
theorem run_cons (reader : TemplateReader) (letter : Char) (rest : Text) :
    reader.run (letter :: rest) = (reader.step letter).run rest :=
  rfl

theorem run_append (reader : TemplateReader) (first second : Text) :
    reader.run (first ++ second) = (reader.run first).run second :=
  List.foldl_append

end TemplateReader

/-- The expressions of a text that is one template literal. -/
def interpolations (literal : Text) : Option (List Text) :=
  match literal with
  | '\x60' :: rest =>
      match TemplateReader.run ⟨.text, []⟩ rest with
      | ⟨.closed, found⟩ => some found
      | _ => none
  | _ => none

/-! ## Escaped text -/

namespace TemplateState

/-- The state after a text in which nothing is escaped and no interpolation begins. -/
def afterText (state : TemplateState) : Text → TemplateState
  | [] => state
  | letter :: rest => afterText (if letter = '$' then .dollar else .text) rest

theorem afterText_eq_dollar_iff (text : Text) :
    TemplateState.text.afterText text = .dollar ↔ text.getLast? = some '$' := by
  -- The induction needs every state: after a first letter the reader may stand after a dollar sign.
  have general : ∀ state : TemplateState, state.afterText text = .dollar ↔
      text.getLast? = some '$' ∨ text = [] ∧ state = .dollar := by
    induction text with
    | nil => simp [afterText]
    | cons letter rest ih =>
        intro state
        rw [afterText, ih]
        cases rest with
        | nil => by_cases dollar : letter = '$' <;> simp [dollar]
        | cons second rest => simp
  rw [general]
  simp

/-- Plain text never leads into an interpolation. -/
theorem afterText_text (text : Text) :
    TemplateState.text.afterText text = .text ∨ TemplateState.text.afterText text = .dollar := by
  have general : ∀ state : TemplateState, state = .text ∨ state = .dollar →
      state.afterText text = .text ∨ state.afterText text = .dollar := by
    induction text with
    | nil => exact fun _ outside => outside
    | cons letter rest ih =>
        intro state _
        refine ih _ ?_
        split
        · exact .inr rfl
        · exact .inl rfl
  exact general .text (.inl rfl)

theorem afterText_append (state : TemplateState) (first second : Text) :
    state.afterText (first ++ second) = (state.afterText first).afterText second := by
  induction first generalizing state with
  | nil => rfl
  | cons letter rest ih => exact ih _

/-- A reader outside of interpolations that the text does not lead into one at once. -/
def IsOutside (state : TemplateState) (text : Text) : Prop :=
  state = .text ∨ state = .dollar ∧ text.head? ≠ some '\x7b'

end TemplateState

namespace TemplateReader

theorem step_outside {state : TemplateState} {letter : Char} {rest : Text}
    (outside : state.IsOutside (letter :: rest)) (found : List Text) :
    step ⟨state, found⟩ letter = ⟨afterLetter letter, found⟩ := by
  rcases outside with rfl | ⟨rfl, other⟩
  · rfl
  · have unlike : letter ≠ '\x7b' := fun same => other (congrArg some same)
    simp only [step, if_neg unlike]

/-- Escaped text is read as text: no expression is found in it, and it does not end the literal. -/
theorem run_escapeTemplate {state : TemplateState} {text : Text} (outside : state.IsOutside text)
    (found : List Text) :
    run ⟨state, found⟩ (escapeTemplate text) = ⟨state.afterText text, found⟩ := by
  fun_induction escapeTemplate text generalizing state with
  | case1 => rfl
  | case2 rest ih =>
      have escaped : state.IsOutside ('\\' :: rest) := outside.imp_right fun after =>
        ⟨after.1, by simp⟩
      rw [run_cons, step_outside escaped]
      exact ih (.inl rfl)
  | case3 letter rest unlike special ih =>
      have escaped : state.IsOutside ('\\' :: rest) := outside.imp_right fun after =>
        ⟨after.1, by simp⟩
      have text : TemplateState.text.afterText rest = state.afterText (letter :: rest) := by
        rcases special with rfl | rfl <;> rfl
      rw [run_cons, step_outside escaped, ← text]
      exact ih (.inl rfl)
  | case4 letter rest unlike ordinary ih =>
      have after : afterLetter letter = if letter = '$' then .dollar else .text := by
        rw [not_or] at ordinary
        simp [afterLetter, ordinary]
      rw [run_cons, step_outside outside, after]
      refine ih ?_
      split
      · next dollar =>
          refine .inr ⟨rfl, fun brace => ?_⟩
          obtain ⟨others, same⟩ := List.head?_eq_some_iff.mp brace
          exact unlike others dollar same
      · exact .inl rfl

/-- An expression is read up to its closing brace. -/
theorem run_expression {expression : Text} (closed : '\x7d' ∉ expression) (read : Text)
    (found : List Text) :
    run ⟨.expression read, found⟩ (expression ++ ['\x7d']) =
      ⟨.text, found ++ [read ++ expression]⟩ := by
  induction expression generalizing read with
  | nil => simp [step]
  | cons letter rest ih =>
      rw [List.mem_cons, not_or] at closed
      have unlike : letter ≠ '\x7d' := fun same => closed.1 same.symm
      rw [List.cons_append, run_cons]
      simp only [step, if_neg unlike]
      rw [ih closed.2, List.append_assoc]
      rfl

/-- An interpolation is read as its expression. -/
theorem run_interpolation {state : TemplateState} {expression : Text}
    (outside : state = .text ∨ state = .dollar) (closed : '\x7d' ∉ expression)
    (found : List Text) :
    run ⟨state, found⟩ ('$' :: '\x7b' :: (expression ++ ['\x7d'])) =
      ⟨.text, found ++ [expression]⟩ := by
  have begun : step ⟨state, found⟩ '$' = ⟨.dollar, found⟩ := by
    rcases outside with rfl | rfl <;> rfl
  rw [run_cons, begun, run_cons]
  exact run_expression closed [] found

end TemplateReader

/-! ## Letters of escaped texts -/

theorem mem_escapeTemplate {text : Text} {letter : Char} (member : letter ∈ escapeTemplate text) :
    letter ∈ text ∨ letter = '\\' := by
  fun_induction escapeTemplate text with
  | case1 => cases member
  | case2 rest ih =>
      simp only [List.mem_cons] at member ⊢
      rcases member with rfl | rfl | rfl | inRest
      · exact .inr rfl
      · exact .inl (.inl rfl)
      · exact .inl (.inr (.inl rfl))
      · exact (ih inRest).imp_left fun old => .inr (.inr old)
  | case3 first rest _ _ ih =>
      simp only [List.mem_cons] at member ⊢
      rcases member with rfl | rfl | inRest
      · exact .inr rfl
      · exact .inl (.inl rfl)
      · exact (ih inRest).imp_left .inr
  | case4 first rest _ _ ih =>
      simp only [List.mem_cons] at member ⊢
      rcases member with rfl | inRest
      · exact .inl (.inl rfl)
      · exact (ih inRest).imp_left .inr

/-- A closing brace after a text is written as it is. -/
theorem escapeTemplate_concat (text : Text) :
    escapeTemplate (text ++ ['\x7d']) = escapeTemplate text ++ ['\x7d'] := by
  fun_induction escapeTemplate text with
  | case1 => rfl
  | case2 rest ih =>
      rw [List.cons_append, List.cons_append, escapeTemplate, ih]
      rfl
  | case3 letter rest unlike special ih =>
      rw [List.cons_append, escapeTemplate.eq_3, if_pos special, ih]
      · rfl
      · intro others dollar same
        cases rest with
        | nil => cases same
        | cons second rest => exact unlike rest dollar (by cases same; rfl)
  | case4 letter rest unlike ordinary ih =>
      rw [List.cons_append, escapeTemplate.eq_3, if_neg ordinary, ih]
      · rfl
      · intro others dollar same
        cases rest with
        | nil => cases same
        | cons second rest => exact unlike rest dollar (by cases same; rfl)

/-! ## Stretches of paths -/

/-- Fixed stretches with placeholders between them, whose names hold no braces. -/
def IsAlternating : List PathPiece → Prop
  | [.fixed _] => True
  | .fixed _ :: .placeholder name :: rest =>
      ('\x7b' ∉ name ∧ '\x7d' ∉ name) ∧ IsAlternating rest
  | _ => False

/-- A path is cut into fixed stretches with placeholders between them. -/
theorem isAlternating_cutPathFrom {fixed : Text} {inside : Option Text} {text : Text}
    (plain : ∀ name, inside = some name → '\x7b' ∉ name ∧ '\x7d' ∉ name) :
    IsAlternating (cutPathFrom fixed inside text) := by
  have empty : ∀ name : Text, some [] = some name → '\x7b' ∉ name ∧ '\x7d' ∉ name := by
    rintro name ⟨⟩
    simp
  have outside : ∀ name : Text, none = some name → '\x7b' ∉ name ∧ '\x7d' ∉ name := by
    rintro name ⟨⟩
  fun_induction cutPathFrom fixed inside text with
  | case1 | case2 => trivial
  | case3 _ _ ih | case4 _ _ _ ih => exact ih empty
  | case5 _ _ _ ih | case6 _ _ _ ih | case8 _ _ _ _ _ ih => exact ih outside
  | case7 fixed rest first name _ ih => exact ⟨plain _ rfl, ih outside⟩
  | case9 fixed letter rest noOpening noClosing name ih =>
      refine ih ?_
      rintro longer ⟨⟩
      obtain ⟨opening, closing⟩ := plain name rfl
      simp only [List.mem_append, List.mem_singleton, not_or]
      exact ⟨⟨opening, fun same => noOpening same.symm⟩,
        ⟨closing, fun same => noClosing same.symm⟩⟩

/-- The expression by which a path reads a parameter. -/
def encodedRead (name : Text) : Text :=
  "encodeURIComponent(String(" ++ Naming.memberAccess "params" name ++ "))"

/-- The expressions in the literal of a path: the reads of declared parameters, and the text of every
other placeholder that stands right after a dollar sign. -/
def interpolated (declared : List Text) : List PathPiece → List Text
  | .fixed text :: .placeholder name :: rest =>
      (if declared.contains name then [encodedRead name]
        else if text.getLast? = some '$' then [escapeTemplate name]
        else []) ++ interpolated declared rest
  | _ => []

theorem closing_not_mem_quotedKey {name : Text} (closed : '\x7d' ∉ name) :
    '\x7d' ∉ Naming.quotedKey name := by
  unfold Naming.quotedKey
  simp only [List.mem_cons, List.mem_append, List.mem_flatMap, List.not_mem_nil, or_false, not_or,
    not_exists, not_and]
  refine ⟨⟨by decide, fun letter member inside => ?_⟩, by decide⟩
  split at inside
  · next special =>
      rcases special with rfl | rfl <;> revert inside <;> decide
  · rw [List.mem_singleton.mp inside] at closed
    exact closed member

theorem closing_not_mem_encodedRead {name : Text} (closed : '\x7d' ∉ name) :
    '\x7d' ∉ encodedRead name := by
  have before : '\x7d' ∉ "encodeURIComponent(String(".toList := by decide
  have after : '\x7d' ∉ "))".toList := by decide
  have access : '\x7d' ∉ Naming.memberAccess "params" name := by
    unfold Naming.memberAccess Naming.propertyKey
    split
    · simp [closed]
    · simp [closing_not_mem_quotedKey closed]
  unfold encodedRead
  simp only [List.mem_append, not_or]
  exact ⟨⟨before, access⟩, after⟩

theorem render_declared {declared : List Text} {name : Text}
    (known : declared.contains name = true) :
    (PathPiece.placeholder name).render declared =
      '$' :: '\x7b' :: (encodedRead name ++ ['\x7d']) := by
  rw [PathPiece.render, if_pos known]
  have ending : "))\x7d".toList = "))".toList ++ ['\x7d'] := by decide
  unfold encodedRead
  rw [ending, ← List.append_assoc]
  rfl

theorem render_undeclared {declared : List Text} {name : Text}
    (unknown : ¬ declared.contains name = true) :
    (PathPiece.placeholder name).render declared =
      escapeTemplate ('\x7b' :: (name ++ ['\x7d'])) := by
  rw [PathPiece.render, if_neg unknown]
  rfl

namespace TemplateReader

/-- A placeholder after a fixed stretch is read as an interpolation or as text. -/
theorem run_placeholder {declared : List Text} {text name : Text}
    (plain : '\x7b' ∉ name ∧ '\x7d' ∉ name) (found : List Text) :
    run ⟨TemplateState.text.afterText text, found⟩
        ((PathPiece.placeholder name).render declared) =
      ⟨.text, found ++
        if declared.contains name then [encodedRead name]
        else if text.getLast? = some '$' then [escapeTemplate name]
        else []⟩ := by
  have outside := TemplateState.afterText_text text
  by_cases known : declared.contains name = true
  · rw [render_declared known, if_pos known]
    exact run_interpolation outside (closing_not_mem_encodedRead plain.2) found
  · rw [render_undeclared known, if_neg known]
    by_cases dollar : text.getLast? = some '$'
    · -- The dollar sign of the stretch before makes the brace begin an interpolation.
      have opened : escapeTemplate ('\x7b' :: (name ++ ['\x7d'])) =
          '\x7b' :: (escapeTemplate name ++ ['\x7d']) := by
        rw [escapeTemplate.eq_3 _ _ (fun _ same => absurd same (by decide)),
          if_neg (by decide), escapeTemplate_concat]
      have closed : '\x7d' ∉ escapeTemplate name := by
        intro member
        rcases mem_escapeTemplate member with inName | other
        · exact plain.2 inName
        · exact absurd other (by decide)
      rw [(TemplateState.afterText_eq_dollar_iff text).mpr dollar, opened, if_pos dollar]
      exact run_expression closed [] found
    · have inText : TemplateState.text.afterText text = .text :=
        outside.resolve_right fun after =>
          dollar ((TemplateState.afterText_eq_dollar_iff text).mp after)
      have ended : TemplateState.text.afterText ('\x7b' :: (name ++ ['\x7d'])) = .text := by
        rw [← List.cons_append, TemplateState.afterText_append]
        rfl
      rw [inText, run_escapeTemplate (.inl rfl), ended, if_neg dollar, List.append_nil]

/-- The literal of a path holds its interpolations and is not ended by its stretches. -/
theorem run_pieces {declared : List Text} {pieces : List PathPiece}
    (alternating : IsAlternating pieces) (found : List Text) :
    ∃ state : TemplateState, (state = .text ∨ state = .dollar) ∧
      run ⟨.text, found⟩ (pieces.flatMap (PathPiece.render declared)) =
        ⟨state, found ++ interpolated declared pieces⟩ := by
  fun_induction IsAlternating pieces generalizing found with
  | case1 text =>
      refine ⟨_, TemplateState.afterText_text text, ?_⟩
      rw [List.flatMap_singleton, PathPiece.render, run_escapeTemplate (.inl rfl), interpolated,
        List.append_nil]
      simp
  | case2 text name rest ih =>
      obtain ⟨plain, inRest⟩ := alternating
      obtain ⟨state, outside, read⟩ := ih inRest (found ++
        if declared.contains name then [encodedRead name]
        else if text.getLast? = some '$' then [escapeTemplate name]
        else [])
      refine ⟨state, outside, ?_⟩
      rw [List.flatMap_cons, List.flatMap_cons, run_append, run_append, PathPiece.render,
        run_escapeTemplate (.inl rfl), run_placeholder plain, read, interpolated, List.append_assoc]
  | case3 => cases alternating

end TemplateReader

/-! ## Literals of paths -/

/-- What a reader finds in the literal of a path. -/
theorem interpolations_pathTemplate (declared : List Text) (path : Text) :
    interpolations (pathTemplate declared path) = some (interpolated declared (cutPath path)) := by
  have alternating : IsAlternating (cutPath path) :=
    isAlternating_cutPathFrom fun name none => nomatch none
  obtain ⟨state, outside, read⟩ := @TemplateReader.run_pieces declared _ alternating []
  have ended : TemplateReader.step ⟨state, interpolated declared (cutPath path)⟩ '\x60' =
      ⟨.closed, interpolated declared (cutPath path)⟩ := by
    rcases outside with rfl | rfl <;> rfl
  have run : TemplateReader.run ⟨.text, []⟩
      ((cutPath path).flatMap (PathPiece.render declared) ++ ['\x60']) =
        ⟨.closed, interpolated declared (cutPath path)⟩ := by
    rw [TemplateReader.run_append, read, List.nil_append, TemplateReader.run_cons, ended]
    rfl
  unfold pathTemplate
  rw [List.cons_append, interpolations, run]

/-- The name, if the stretch is a placeholder of a declared parameter. -/
def PathPiece.read? (declared : List Text) : PathPiece → Option Text
  | .fixed _ => none
  | .placeholder name => if declared.contains name then some name else none

/-- The parameters that a path reads, in order. -/
def readNames (declared : List Text) (path : Text) : List Text :=
  (cutPath path).filterMap (PathPiece.read? declared)

/-- The placeholders without a parameter that stand right after a dollar sign. -/
def exposedFrom (declared : List Text) : List PathPiece → List Text
  | .fixed text :: .placeholder name :: rest =>
      (if declared.contains name then []
        else if text.getLast? = some '$' then [name]
        else []) ++ exposedFrom declared rest
  | _ => []

def exposed (declared : List Text) (path : Text) : List Text :=
  exposedFrom declared (cutPath path)

theorem interpolated_perm {declared : List Text} {pieces : List PathPiece}
    (alternating : IsAlternating pieces) :
    (interpolated declared pieces).Perm
      ((pieces.filterMap (PathPiece.read? declared)).map encodedRead ++
        (exposedFrom declared pieces).map escapeTemplate) := by
  fun_induction IsAlternating pieces with
  | case1 text => exact .nil
  | case2 text name rest ih =>
      have inRest := ih alternating.2
      have fixed : (PathPiece.fixed text).read? declared = none := rfl
      rw [interpolated, exposedFrom, List.filterMap_cons_none fixed]
      by_cases known : declared.contains name = true
      · have read : (PathPiece.placeholder name).read? declared = some name := if_pos known
        rw [if_pos known, if_pos known, List.filterMap_cons_some read]
        exact inRest.cons _
      · have unread : (PathPiece.placeholder name).read? declared = none := if_neg known
        rw [if_neg known, if_neg known, List.filterMap_cons_none unread]
        by_cases dollar : text.getLast? = some '$'
        · rw [if_pos dollar, if_pos dollar]
          exact (inRest.cons _).trans List.perm_middle.symm
        · rw [if_neg dollar, if_neg dollar]
          exact inRest
  | case3 => cases alternating

/-- The literal of a path interpolates the reads of the parameters and the texts of the exposed
placeholders, and nothing else. -/
theorem interpolations_perm (declared : List Text) (path : Text) :
    ∃ found, interpolations (pathTemplate declared path) = some found ∧
      found.Perm ((readNames declared path).map encodedRead ++
        (exposed declared path).map escapeTemplate) :=
  ⟨_, interpolations_pathTemplate declared path,
    interpolated_perm (isAlternating_cutPathFrom fun _ none => nomatch none)⟩

theorem mem_of_mem_readNames {declared : List Text} {path name : Text}
    (member : name ∈ readNames declared path) : name ∈ declared := by
  obtain ⟨piece, _, read⟩ := List.mem_filterMap.mp member
  cases piece with
  | fixed _ => cases read
  | placeholder other =>
      obtain ⟨known, same⟩ := Option.ite_none_right_eq_some.mp read
      cases same
      exact List.contains_iff_mem.mp known

theorem not_mem_of_mem_exposed {declared : List Text} {path name : Text}
    (member : name ∈ exposed declared path) : name ∉ declared := by
  unfold exposed at member
  generalize cutPath path = pieces at member
  fun_induction exposedFrom declared pieces with
  | case1 text other rest ih =>
      rcases List.mem_append.mp member with here | inRest
      · split at here
        · cases here
        · next unknown =>
            split at here
            · rw [List.mem_singleton.mp here]
              exact fun declares => unknown (List.contains_iff_mem.mpr declares)
            · cases here
      · exact ih inRest
  | case2 => cases member

end ApiForge.TypeScript
