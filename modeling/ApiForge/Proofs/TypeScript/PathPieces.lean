import ApiForge.Proofs.TypeScript.TemplateReads

/-!
# Pieces of paths

A placeholder is a name without braces that stands in braces. Two of them cannot
overlap, so a path has one way of being cut into placeholders and stretches
without any, and that is how it is cut.
-/

namespace ApiForge.TypeScript

/-! ## Placeholders -/

/-- A stretch of a path as it stands there. -/
def PathPiece.source : PathPiece → Text
  | .fixed text => text
  | .placeholder name => '\x7b' :: (name ++ ['\x7d'])

/-- The text is a name without braces. -/
def IsBare (name : Text) : Prop :=
  '\x7b' ∉ name ∧ '\x7d' ∉ name

/-- A name without braces stands in braces somewhere in the text. -/
def HoldsPlaceholder (text : Text) : Prop :=
  ∃ before name after,
    text = before ++ '\x7b' :: (name ++ '\x7d' :: after) ∧ name ≠ [] ∧ IsBare name

/-- After its last opening brace the text has no closing one. -/
def EndsOpen (text : Text) : Prop :=
  ∃ before name, text = before ++ '\x7b' :: name ∧ IsBare name

theorem IsBare.concat {name : Text} {letter : Char} (bare : IsBare name)
    (plain : letter ≠ '\x7b' ∧ letter ≠ '\x7d') : IsBare (name ++ [letter]) := by
  simp only [IsBare, List.mem_append, List.mem_singleton, not_or]
  exact ⟨⟨bare.1, ne_comm.mp plain.1⟩, bare.2, ne_comm.mp plain.2⟩

/-- Where the placeholder of a text with one more letter stands. -/
theorem holdsPlaceholder_concat {text : Text} {letter : Char}
    (holds : HoldsPlaceholder (text ++ [letter])) :
    HoldsPlaceholder text ∨ letter = '\x7d' ∧
      ∃ before name, text = before ++ '\x7b' :: name ∧ name ≠ [] ∧ IsBare name := by
  obtain ⟨before, name, after, same, filled, bare⟩ := holds
  rcases List.eq_nil_or_concat after with rfl | ⟨others, last, rfl⟩
  · have split : text ++ [letter] = (before ++ '\x7b' :: name) ++ ['\x7d'] := by simp [same]
    obtain ⟨rfl, closing⟩ := List.append_inj' split rfl
    exact .inr ⟨List.singleton_inj.mp closing, before, name, rfl, filled, bare⟩
  · have split : text ++ [letter] = (before ++ '\x7b' :: (name ++ '\x7d' :: others)) ++ [last] := by
      simp [same]
    obtain ⟨rfl, _⟩ := List.append_inj' split rfl
    exact .inl ⟨before, name, others, rfl, filled, bare⟩

theorem endsOpen_of_concat {text : Text} {letter : Char} (plain : letter ≠ '\x7b')
    (opens : EndsOpen (text ++ [letter])) : EndsOpen text ∧ letter ≠ '\x7d' := by
  obtain ⟨before, name, same, bare⟩ := opens
  rcases List.eq_nil_or_concat name with rfl | ⟨others, last, rfl⟩
  · obtain ⟨_, brace⟩ := List.append_inj' same rfl
    exact absurd (List.singleton_inj.mp brace) plain
  · have split : text ++ [letter] = (before ++ '\x7b' :: others) ++ [last] := by simp [same]
    obtain ⟨rfl, sameLast⟩ := List.append_inj' split rfl
    simp only [IsBare, List.concat_eq_append, List.mem_append, List.mem_singleton, not_or] at bare
    obtain ⟨⟨noOpening, _⟩, noClosing, other⟩ := bare
    exact ⟨⟨before, others, rfl, noOpening, noClosing⟩,
      fun closing => other (closing.symm.trans (List.singleton_inj.mp sameLast))⟩

/-- Letters that close nothing complete no placeholder. -/
theorem not_holdsPlaceholder_append {text more : Text} (none : ¬ HoldsPlaceholder text)
    (noClosing : '\x7d' ∉ more) : ¬ HoldsPlaceholder (text ++ more) := by
  induction more generalizing text with
  | nil => rwa [List.append_nil]
  | cons letter rest ih =>
      rw [List.mem_cons, not_or] at noClosing
      rw [List.append_cons]
      refine ih (fun holds => ?_) noClosing.2
      rcases holdsPlaceholder_concat holds with inText | ⟨closing, _⟩
      · exact none inText
      · exact noClosing.1 closing.symm

/-- The stretches are the whole path, fixed ones alternate with placeholders, and fixed ones hold
no placeholders. -/
structure ArePiecesOf (path : Text) (pieces : List PathPiece) : Prop where
  whole : pieces.flatMap PathPiece.source = path
  alternating : IsAlternating pieces
  named : .placeholder [] ∉ pieces
  fixed : ∀ text, .fixed text ∈ pieces → ¬ HoldsPlaceholder text

theorem flatMap_source_cutPathFrom (fixed : Text) (inside : Option Text) (path : Text) :
    (cutPathFrom fixed inside path).flatMap PathPiece.source =
      fixed ++ (inside.map ('\x7b' :: ·)).getD [] ++ path := by
  fun_induction cutPathFrom fixed inside path with
  | case1 | case2 => simp [PathPiece.source]
  | case3 _ _ ih | case4 _ _ _ ih | case5 _ _ _ ih | case6 _ _ _ ih => simp [ih]
  | case7 _ _ _ _ _ ih => simp [ih, PathPiece.source]
  | case8 _ _ _ _ _ ih | case9 _ _ _ _ _ _ ih => simp [ih]

/-- A stretch that is being read is outside of braces and has none open, or inside of them. -/
structure IsReading (fixed : Text) (inside : Option Text) : Prop where
  none : ¬ HoldsPlaceholder fixed
  outside : inside = .none → ¬ EndsOpen fixed
  bare : ∀ name, inside = some name → IsBare name

theorem isReading_nil : IsReading [] none where
  none := by
    rintro ⟨before, name, after, same, _⟩
    exact absurd same.symm (List.append_ne_nil_of_right_ne_nil _ (List.cons_ne_nil _ _))
  outside := by
    rintro - ⟨before, name, same, _⟩
    exact absurd same.symm (List.append_ne_nil_of_right_ne_nil _ (List.cons_ne_nil _ _))
  bare := fun _ none => nomatch none

namespace IsReading

variable {fixed : Text} {inside : Option Text}

/-- A brace that is not closed makes no placeholder. -/
theorem notYet (reading : IsReading fixed inside) (name : Text) (inBraces : inside = some name) :
    ¬ HoldsPlaceholder (fixed ++ '\x7b' :: name) := by
  refine not_holdsPlaceholder_append reading.none ?_
  rw [List.mem_cons, not_or]
  exact ⟨by decide, (reading.bare name inBraces).2⟩

theorem opened (reading : IsReading fixed inside) : IsReading fixed (some []) :=
  ⟨reading.none, (nomatch ·), by rintro name ⟨⟩; exact ⟨List.not_mem_nil, List.not_mem_nil⟩⟩

theorem reopened (reading : IsReading fixed inside) (name : Text) (inBraces : inside = some name) :
    IsReading (fixed ++ '\x7b' :: name) (some []) :=
  ⟨reading.notYet name inBraces, (nomatch ·),
    by rintro name ⟨⟩; exact ⟨List.not_mem_nil, List.not_mem_nil⟩⟩

end IsReading

theorem pieces_of_cutPathFrom {fixed : Text} {inside : Option Text} {path : Text}
    (reading : IsReading fixed inside) :
    .placeholder [] ∉ cutPathFrom fixed inside path ∧
      ∀ text, .fixed text ∈ cutPathFrom fixed inside path → ¬ HoldsPlaceholder text := by
  fun_induction cutPathFrom fixed inside path with
  | case1 fixed =>
      refine ⟨by simp, fun text member => ?_⟩
      cases List.mem_singleton.mp member
      exact reading.none
  | case2 fixed name =>
      refine ⟨by simp, fun text member => ?_⟩
      cases List.mem_singleton.mp member
      exact reading.notYet name rfl
  | case3 fixed rest ih => exact ih reading.opened
  | case4 fixed rest name ih => exact ih (reading.reopened name rfl)
  | case5 fixed rest _ ih =>
      refine ih ⟨fun holds => ?_, fun _ opens => ?_, by rintro _ ⟨⟩⟩
      · rcases holdsPlaceholder_concat holds with inFixed | ⟨_, before, name, same, _, bare⟩
        · exact reading.none inFixed
        · exact reading.outside rfl ⟨before, name, same, bare⟩
      · exact (endsOpen_of_concat (by decide) opens).2 rfl
  | case6 fixed rest _ ih =>
      rw [List.append_cons] at ih ⊢
      refine ih ⟨fun holds => ?_, fun _ opens => ?_, by rintro _ ⟨⟩⟩
      · -- A placeholder that ends with this brace would have no name.
        rcases holdsPlaceholder_concat holds with inOpened | ⟨_, before, name, same, filled, bare⟩
        · exact not_holdsPlaceholder_append reading.none (by decide) inOpened
        · obtain ⟨others, last, rfl⟩ := List.eq_nil_or_concat name |>.resolve_left filled
          have split : fixed ++ ['\x7b'] = (before ++ '\x7b' :: others) ++ [last] := by simp [same]
          have brace := List.singleton_inj.mp (List.append_inj' split rfl).2
          subst brace
          exact bare.1 (by simp)
      · exact (endsOpen_of_concat (by decide) opens).2 rfl
  | case7 fixed rest first name _ ih =>
      obtain ⟨named, others⟩ := ih isReading_nil
      refine ⟨?_, fun text member => ?_⟩
      · simp [named]
      · simp only [List.mem_cons, PathPiece.fixed.injEq, reduceCtorEq, false_or] at member
        rcases member with rfl | inOthers
        · exact reading.none
        · exact others text inOthers
  | case8 fixed letter rest noOpening noClosing ih =>
      refine ih ⟨fun holds => ?_, fun _ opens => ?_, by rintro _ ⟨⟩⟩
      · rcases holdsPlaceholder_concat holds with inFixed | ⟨closing, _⟩
        · exact reading.none inFixed
        · exact noClosing closing
      · exact reading.outside rfl (endsOpen_of_concat noOpening opens).1
  | case9 fixed letter rest noOpening noClosing name ih =>
      refine ih ⟨reading.none, by rintro ⟨⟩, ?_⟩
      rintro longer ⟨⟩
      exact (reading.bare name rfl).concat ⟨noOpening, noClosing⟩

/-- A path is cut into its stretches. -/
theorem arePiecesOf_cutPath (path : Text) : ArePiecesOf path (cutPath path) where
  whole := by
    rw [cutPath, flatMap_source_cutPathFrom]
    rfl
  alternating := isAlternating_cutPathFrom fun _ none => nomatch none
  named := (pieces_of_cutPathFrom isReading_nil).1
  fixed := (pieces_of_cutPathFrom isReading_nil).2

end ApiForge.TypeScript
