import ApiForge.Proofs.TypeScript.TypeReader

/-!
# Types are unambiguous

The text of the type of a schema is read as the meaning of the schema, at any
depth. So schemas whose types have one text have one meaning, and the marks of a
list belong to the whole item.
-/

namespace ApiForge.TypeScript.TypeMeaning

/-! ## Unions and null -/

theorem renderAll_eq_map (depth : Nat) (types : List TypeExpr) :
    renderAll depth types = types.map (TypeExpr.render depth) := by
  induction types with
  | nil => rfl
  | cons type rest ih => rw [renderAll, ih, List.map_cons]

theorem render_union (depth : Nat) (members : List TypeExpr) :
    (TypeExpr.union members).render depth =
      Text.join " | " (members.map (TypeExpr.render depth)) :=
  congrArg (Text.join " | ") (renderAll_eq_map depth members)

theorem join_concat (separator last : Text) {parts : List Text} (filled : parts ≠ []) :
    Text.join separator (parts ++ [last]) = Text.join separator parts ++ separator ++ last := by
  fun_induction Text.join separator parts with
  | case1 => exact absurd rfl filled
  | case2 part => rfl
  | case3 part other rest ih =>
      have inRest := ih (List.cons_ne_nil other rest)
      rw [List.cons_append, List.cons_append, Text.join, ← List.cons_append, inRest]
      simp only [List.append_assoc]

/-- Null stands after a last bar of the text. -/
theorem render_withNull {type : TypeExpr} (depth : Nat) (other : type.hasNullName = false)
    (filled : type ≠ .union []) :
    type.withNull.render depth = type.render depth ++ " | null" := by
  have pair (text : Text) : Text.join " | " [text, "null"] = text ++ " | null" :=
    List.append_assoc ..
  unfold TypeExpr.withNull
  rw [if_neg (Bool.eq_false_iff.mp other)]
  cases type with
  | union members =>
      have some' : members.map (TypeExpr.render depth) ≠ [] := by
        rw [ne_eq, List.map_eq_nil_iff]
        exact fun none => filled (congrArg _ none)
      have last : (TypeExpr.union (members ++ [.builtin .null])).render depth =
          Text.join " | " (members.map (TypeExpr.render depth) ++ ["null".toList]) := by
        rw [render_union, List.map_append]
        rfl
      refine last.trans ?_
      rw [join_concat _ _ some', render_union, List.append_assoc]
      rfl
  | _ => exact pair _

/-- The notes of a schema have the same part in the text and in the meaning. -/
theorem writes_noted (notes : Notes) {type : TypeExpr} {depth : Nat} {meaning : TypeMeaning}
    (writes : Writes (type.render depth) meaning) (alike : type.hasNullName = meaning.isNullName)
    (filled : type ≠ .union []) :
    Writes ((TypeExpr.noted notes type).render depth) (noted notes meaning) := by
  unfold TypeExpr.noted noted
  split
  · by_cases named : meaning.isNullName = true
    · have sameType : type.withNull = type := if_pos (alike.trans named)
      have sameMeaning : meaning.withNull = meaning := if_pos named
      rw [sameType, sameMeaning]
      exact writes
    · rw [Bool.not_eq_true] at named
      rw [render_withNull depth (alike.trans named) filled]
      exact writes.withNull named
  · exact writes

theorem exists_ofPrimitive_eq (notes : Notes) (type : Primitive) :
    ∃ builtin, TypeExpr.ofPrimitive notes type = .builtin builtin ∧
      builtin.name = primitiveName notes.format type := by
  cases type with
  | string =>
      by_cases binary : notes.format = some "binary".toList
      · have chosen : (Primitive.string == .string && notes.format == some "binary".toList) = true :=
          by rw [binary]; rfl
        exact ⟨.blob, if_pos chosen, (if_pos binary).symm⟩
      · have chosen : ¬ (Primitive.string == .string &&
            notes.format == some "binary".toList) = true := by
          rwa [Bool.and_eq_true, beq_iff_eq, beq_iff_eq, and_iff_right rfl]
        exact ⟨.string, if_neg chosen, (if_neg binary).symm⟩
  | _ => exact ⟨_, rfl, rfl⟩

theorem writes_builtin (builtin : Builtin) (depth : Nat) :
    Writes ((TypeExpr.builtin builtin).render depth) (.named builtin.name) := by
  have plain : Naming.isPlain builtin.name = true := by cases builtin <;> decide
  exact writes_named plain

theorem hasNullName_builtin (builtin : Builtin) :
    (TypeExpr.builtin builtin).hasNullName = (named builtin.name).isNullName := by
  cases builtin <;> rfl

theorem isPlain_schemaType (name : Text) : Naming.isPlain (Naming.schemaType name) = true := by
  unfold Naming.schemaType
  split
  · assumption
  · exact Naming.isPlain_iff.mpr ⟨_, Naming.isIdentifier_pascal name, .inl rfl⟩

theorem shows_literals (first : Text) (rest : List Text) :
    Shows (Text.join " | " ((first :: rest).map (Json.quote true)))
      ((first :: rest).map fun value => .literal (Text.joined value)) := by
  induction rest generalizing first with
  | nil => exact .single (isMember_literal first) fun _ same => nomatch same
  | cons second others ih => exact .union (isMember_literal first) (ih second)

theorem writes_ofValues (values : List Text) (depth : Nat) :
    Writes ((TypeExpr.ofValues values).render depth) (ofValues Text.joined values) := by
  cases values with
  | nil => exact writes_builtin .never depth
  | cons first rest =>
      have literals : (TypeExpr.ofValues (first :: rest)).render depth =
          Text.join " | " ((first :: rest).map (Json.quote true)) := by
        refine (render_union depth ((first :: rest).map .literal)).trans ?_
        rw [List.map_map]
        rfl
      rw [literals]
      refine ⟨_, shows_literals first rest, ?_⟩
      cases rest <;> rfl

/-! ## Types of schemas -/

theorem flatMap_feed {lines : List Text} (filled : lines ≠ []) :
    lines.flatMap ('\n' :: ·) = '\n' :: Text.lines lines := by
  unfold Text.lines
  fun_induction Text.join ['\n'] lines with
  | case1 => exact absurd rfl filled
  | case2 part => simp
  | case3 part other rest ih =>
      rw [List.flatMap_cons, ih (List.cons_ne_nil other rest)]
      simp

theorem renderMembers_ne_nil (depth : Nat) (member : Member TypeExpr)
    (rest : List (Member TypeExpr)) : renderMembers depth (member :: rest) ≠ [] := by
  intro none
  obtain ⟨lines, _⟩ := List.append_eq_nil_iff.mp none
  exact List.cons_ne_nil _ _ (List.append_eq_nil_iff.mp lines).2

theorem writes_object {members : List (Member TypeExpr)} {fields : List (Field TypeMeaning)}
    {depth : Nat} (filled : renderMembers (depth + 1) members ≠ [])
    (shown : AreFields ((renderMembers (depth + 1) members).flatMap ('\n' :: ·)) fields) :
    Writes ((TypeExpr.object members).render depth) (.object fields) := by
  have text : (TypeExpr.object members).render depth =
      '\x7b' :: ((renderMembers (depth + 1) members).flatMap ('\n' :: ·) ++
        '\n' :: (indent depth ++ ['\x7d'])) := by
    rw [flatMap_feed filled]
    change "\x7b\n".toList ++ _ ++ _ ++ _ ++ _ = _
    simp
  rw [text]
  exact (isMember_object shown depth).writes (fun _ same => nomatch same) rfl

mutual

/-- The text of the type of a schema shows its meaning. -/
theorem writes_ofSchema : (schema : Schema) → (depth : Nat) →
    Writes ((TypeExpr.ofSchema schema).render depth) (ofSchema Text.joined schema)
  | .primitive notes type, depth => by
      obtain ⟨builtin, same, named⟩ := exists_ofPrimitive_eq notes type
      rw [TypeExpr.ofSchema, ofSchema, same, ← named]
      exact writes_noted notes (writes_builtin builtin depth) (hasNullName_builtin builtin)
        fun same => nomatch same
  | .enumeration notes values, depth => by
      rw [TypeExpr.ofSchema, ofSchema]
      refine writes_noted notes (writes_ofValues values depth) ?_ ?_
      · cases values <;> rfl
      · cases values with
        | nil => exact fun same => nomatch same
        | cons first rest => exact fun same => nomatch same
  | .array notes items, depth => by
      obtain ⟨members, shows, same⟩ := writes_ofSchema items depth
      rw [TypeExpr.ofSchema, ofSchema, ← same]
      exact writes_noted notes
        ((isMember_listItem shows).writes (fun _ same => nomatch same) rfl) rfl
        fun same => nomatch same
  | .object notes [] required additional, depth => by
      obtain ⟨members, shows, same⟩ := writes_ofAdditional additional depth
      rw [TypeExpr.ofSchema, ofSchema, ← same]
      exact writes_noted notes
        ((isMember_record shows).writes (fun _ same => nomatch same) rfl) rfl
        fun same => nomatch same
  | .object notes ((name, schema) :: rest) required additional, depth => by
      have shown := areFields_membersOf required ((name, schema) :: rest) (depth + 1)
      rw [TypeExpr.ofSchema, ofSchema]
      exact writes_noted notes (writes_object (renderMembers_ne_nil _ _ _) shown) rfl
        fun same => nomatch same
  | .reference notes name, depth => by
      rw [TypeExpr.ofSchema, ofSchema]
      exact writes_noted notes (writes_named (isPlain_schemaType name)) rfl
        fun same => nomatch same
  termination_by structural schema => schema

theorem areFields_membersOf (required : List Text) : (properties : List (Text × Schema)) →
    (depth : Nat) →
    AreFields ((renderMembers depth (TypeExpr.membersOf required properties)).flatMap ('\n' :: ·))
      (fieldsOf Text.joined required properties)
  | [], _ => areFields_nil
  | (name, schema) :: rest, depth => by
      obtain ⟨members, shows, same⟩ := writes_ofSchema schema depth
      have line := (areFields_membersOf required rest depth).field shows depth name
        (!required.contains name)
      rw [same] at line
      rw [TypeExpr.membersOf, fieldsOf, renderMembers, List.flatMap_append, memberLines]
      cases remark schema.notes.description with
      | none => simpa using line
      | some description => simpa using line.comment depth description
  termination_by structural properties => properties

theorem writes_ofAdditional : (additional : Option Schema) → (depth : Nat) →
    Writes ((TypeExpr.ofAdditional additional).render depth)
      (ofAdditional Text.joined additional)
  | none, depth => writes_builtin .unknown depth
  | some schema, depth => writes_ofSchema schema depth
  termination_by structural additional => additional

end

theorem Writes.read? {text : Text} {meaning : TypeMeaning} (writes : Writes text meaning) :
    read? text = some meaning := by
  obtain ⟨members, shows, rfl⟩ := writes
  have found := members?_of_shows shows (2 * text.length + 2) [] (by omega) endsType_nil
  rw [List.append_nil] at found
  rw [TypeMeaning.read?, found]

/-- The type of every schema is read as its meaning, at any depth, and schemas whose types have one
text have one meaning. A literal means its value as a sequence of sixteen-bit units, as the values
of strings are in the language, and is the value as it is unless halves of a pair meet in it. -/
theorem ofSchema_eq_of_render_eq :
    (∀ (schema : Schema) (depth : Nat),
      read? ((TypeExpr.ofSchema schema).render depth) = some (ofSchema Text.joined schema)) ∧
    ∀ (first second : Schema) (depth : Nat),
      (TypeExpr.ofSchema first).render depth = (TypeExpr.ofSchema second).render depth →
        ofSchema Text.joined first = ofSchema Text.joined second ∧
          ((∀ value ∈ first.literals ++ second.literals, Text.IsWhole value) →
            ofSchema id first = ofSchema id second) := by
  have read (schema : Schema) (depth : Nat) : read? ((TypeExpr.ofSchema schema).render depth) =
      some (ofSchema Text.joined schema) := (writes_ofSchema schema depth).read?
  have verbatim (schema : Schema) (each : ∀ value ∈ schema.literals, Text.IsWhole value) :
      ofSchema id schema = ofSchema Text.joined schema :=
    ofSchema_congr schema fun value member => (Text.joined_eq_self (each value member)).symm
  refine ⟨read, fun first second depth same => ?_⟩
  have alike : ofSchema Text.joined first = ofSchema Text.joined second := by
    have found := read first depth
    rw [same, read second depth] at found
    exact (Option.some.inj found).symm
  refine ⟨alike, fun whole => ?_⟩
  rw [verbatim first fun value member => whole value (List.mem_append_left _ member),
    verbatim second fun value member => whole value (List.mem_append_right _ member), alike]

/-- Kinds of pets, one of them with a bar in its name, and what is said about them. -/
def kindsSchema (description : Option Text) : Schema :=
  .array ⟨none, description, false⟩ (.enumeration ⟨none, none, true⟩ ["cat", "cat | dog"])

theorem ofSchema_kindsSchema_eq :
    (TypeExpr.ofSchema (kindsSchema none)).render 0 =
        (TypeExpr.ofSchema (kindsSchema (some "Kinds".toList))).render 0 ∧
      ofSchema id (kindsSchema none) = ofSchema id (kindsSchema (some "Kinds".toList)) := by
  have same : (TypeExpr.ofSchema (kindsSchema none)).render 0 =
      (TypeExpr.ofSchema (kindsSchema (some "Kinds".toList))).render 0 := rfl
  exact ⟨same, (ofSchema_eq_of_render_eq.2 _ _ 0 same).2 (by decide)⟩

/-- The marks of a list belong to the last member of a union unless parentheses say otherwise. -/
example : read? "string | null[]" = some (.union [.named "string", .list (.named "null")]) ∧
    read? "(string | null)[]" = some (.list (.union [.named "string", .named "null"])) :=
  ⟨by cbv, by cbv⟩

end ApiForge.TypeScript.TypeMeaning
