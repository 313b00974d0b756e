import ApiForge.Proofs.Import.ReferencePlaces

/-!
# Fields of expanded values

What the import reads under a key of a mapping it also reads under the key of the
mapping's copy, or it reads the expansion of it. Where a reference may stand, it is
followed in both documents, and leads to a mapping and its copy.
-/

namespace ApiForge.Import

open Reference (IsExpanded IsFree IsPlain KeepsPlainPaths ofValue?)

variable {root : Value}

/-! ## Optional values -/

/-- Both optional values are absent, or the second one is the expansion of the first one. -/
abbrev AreExpanded (root : Value) : Option Value → Option Value → Prop :=
  Option.Rel (IsExpanded root)

theorem isExpanded_getD {first second : Option Value} (known : AreExpanded root first second)
    {other : Value} (free : IsFree other) :
    IsExpanded root (first.getD other) (second.getD other) := by
  cases known with
  | none => exact .free free
  | some here => exact here

theorem ofValue?_of_not_holds {value : Value} (empty : value.holds = false) :
    ofValue? value = none := by
  cases value with
  | map entries =>
      cases entries with
      | nil => rfl
      | cons entry rest => cases empty
  | _ => rfl

/-- A field that is read with another value in its place reads alike in the copy, if what is read is
no reference. -/
theorem isExpanded_fieldOr_of {name : Text} {entries copies : Entries}
    (known : AreExpanded root (Entries.field? name entries) (Entries.field? name copies))
    {other otherCopy : Value} (default : ofValue? other = none → IsExpanded root other otherCopy)
    (plain : ofValue? (Value.fieldOr name entries other) = none) :
    IsExpanded root (Value.fieldOr name entries other) (Value.fieldOr name copies otherCopy) := by
  unfold Value.fieldOr at plain ⊢
  generalize Entries.field? name entries = field at known plain ⊢
  generalize Entries.field? name copies = copied at known ⊢
  cases known with
  | none => exact default plain
  | @some value expanded here =>
      dsimp only at plain ⊢
      cases holds : value.holds with
      | true =>
          rw [holds, if_pos rfl] at plain
          rw [← (here.copy plain).holds, holds]
          exact here
      | false =>
          rw [holds, if_neg Bool.false_ne_true] at plain
          rw [← (here.copy (ofValue?_of_not_holds holds)).holds, holds]
          exact default plain

theorem isExpanded_fieldOr {name : Text} {entries copies : Entries}
    (known : AreExpanded root (Entries.field? name entries) (Entries.field? name copies))
    (other : Value) (free : IsFree other)
    (plain : ofValue? (Value.fieldOr name entries other) = none) :
    IsExpanded root (Value.fieldOr name entries other) (Value.fieldOr name copies other) :=
  isExpanded_fieldOr_of known (fun _ => .free free) plain

variable {entries copies : Entries}

theorem isExpanded_fieldOrNull (alike : entries.AreCopies (IsExpanded root) copies) (name : Text) :
    IsExpanded root (Value.fieldOrNull name entries) (Value.fieldOrNull name copies) :=
  isExpanded_getD (alike.field? name) rfl

theorem ofValue?_fieldOrNull {name : Text} (plain : HasPlain name entries) :
    ofValue? (Value.fieldOrNull name entries) = none := by
  unfold Value.fieldOrNull
  cases found : Entries.field? name entries with
  | none => rfl
  | some value => exact plain value found

theorem ofValue?_fieldOr {name : Text} (plain : HasPlain name entries) (other : Value)
    (default : ofValue? other = none) : ofValue? (Value.fieldOr name entries other) = none := by
  unfold Value.fieldOr
  cases found : Entries.field? name entries with
  | none => exact default
  | some value =>
      dsimp only
      split
      · exact plain value found
      · exact default

theorem holds_fieldOrNull_eq (alike : entries.AreCopies (IsExpanded root) copies) {name : Text}
    (plain : HasPlain name entries) :
    (Value.fieldOrNull name copies).holds = (Value.fieldOrNull name entries).holds :=
  ((isExpanded_fieldOrNull alike name).copy (ofValue?_fieldOrNull plain)).holds.symm

/-- A free field is the same in the copy. -/
theorem field?_eq_of_hasFree (alike : entries.AreCopies (IsExpanded root) copies) {name : Text}
    (free : HasFree name entries) : Entries.field? name copies = Entries.field? name entries := by
  have known := alike.field? name
  cases found : Entries.field? name entries with
  | none => exact eq_none_of_rel known found
  | some value =>
      obtain ⟨expanded, there, here⟩ := exists_of_rel_some known found
      rw [there, here.eq_of_isFree (free value found)]

theorem fieldOrNull_eq_of_hasFree (alike : entries.AreCopies (IsExpanded root) copies) {name : Text}
    (free : HasFree name entries) :
    Value.fieldOrNull name copies = Value.fieldOrNull name entries := by
  unfold Value.fieldOrNull
  rw [field?_eq_of_hasFree alike free]

theorem fieldOr_eq_of_hasFree (alike : entries.AreCopies (IsExpanded root) copies) {name : Text}
    (free : HasFree name entries) (other : Value) :
    Value.fieldOr name copies other = Value.fieldOr name entries other := by
  unfold Value.fieldOr
  rw [field?_eq_of_hasFree alike free]

/-! ## Checked texts -/

variable {value expanded : Value}

theorem optionalText_eq (known : IsExpanded root value expanded) {place : Text}
    {text other : Option Text} (first : (Checked.optionalText value).within place = .ok text)
    (second : (Checked.optionalText expanded).within place = .ok other) : other = text := by
  cases value with
  | scalar value =>
      rw [known.eq_of_isFree rfl] at second
      exact Except.ok.inj (second.symm.trans first)
  | _ => cases first

theorem text_eq (known : IsExpanded root value expanded) {place text other : Text}
    (first : (Checked.text value).within place = .ok text)
    (second : (Checked.text expanded).within place = .ok other) : other = text := by
  rw [Success.of_text first] at known
  rw [known.eq_of_isFree rfl] at second
  exact Except.ok.inj (second.symm.trans rfl)

/-! ## Elements -/

theorem areExpanded_scalars (root : Value) (scalars : List Scalar) :
    List.Forall₂ (IsExpanded root) (scalars.map .scalar) (scalars.map .scalar) := by
  refine List.forall₂_same.mpr (List.forall_mem_map.mpr fun scalar _ => .free rfl)

theorem areExpanded_elements? (known : IsExpanded root value expanded) (plain : IsPlain value) :
    Option.Rel (List.Forall₂ (IsExpanded root)) value.elements? expanded.elements? := by
  cases known.copy plain.notReference with
  | list inside => exact .some inside
  | @map entries copies inside =>
      have keys := inside.keys
      have same : copies.map (fun entry => Value.scalar entry.1) =
          (entries.map (·.1)).map .scalar := by
        rw [keys, List.map_map]
        rfl
      change Option.Rel _ (some (entries.map fun entry => Value.scalar entry.1))
        (some (copies.map fun entry => Value.scalar entry.1))
      rw [same]
      refine .some ?_
      have here := areExpanded_scalars root (entries.map (·.1))
      rwa [List.map_map] at here ⊢
  | set members => exact .some (areExpanded_scalars root members)
  | pair first second =>
      obtain ⟨ofFirst, ofSecond⟩ := plain.pair first second rfl
      exact .some (.cons (.free ofFirst) (.cons (.free ofSecond) .nil))
  | scalar scalar =>
      cases scalar with
      | str text =>
          refine .some (List.forall₂_same.mpr (List.forall_mem_map.mpr fun _ _ => .free rfl))
      | bytes bytes =>
          refine .some (List.forall₂_same.mpr (List.forall_mem_map.mpr fun _ _ => .free rfl))
      | _ => exact .none

theorem areExpanded_first? (known : IsExpanded root value expanded) (plain : IsPlain value) :
    AreExpanded root value.first? expanded.first? := by
  cases known.copy plain.notReference with
  | list inside =>
      cases inside with
      | nil => exact .none
      | cons here _ => exact .some here
  | map inside => exact inside.find? (.int 0)
  | set members => exact .none
  | pair first second => exact .some (.free (plain.pair first second rfl).1)
  | scalar scalar =>
      cases scalar with
      | str text =>
          cases text with
          | nil => exact .none
          | cons letter rest => exact .some (.free rfl)
      | bytes bytes =>
          cases bytes with
          | nil => exact .none
          | cons byte rest => exact .some (.free rfl)
      | _ => exact .none

/-- Entries under a key are entries with the same keys in the copy. -/
theorem areCopies_fieldEntries (alike : entries.AreCopies (IsExpanded root) copies) {name : Text}
    (plain : HasPlain name entries) {found led : Entries}
    (first : Value.fieldEntries name entries = .ok found)
    (second : Value.fieldEntries name copies = .ok led) :
    found.AreCopies (IsExpanded root) led := by
  have plain := ofValue?_fieldOr plain (.map []) rfl
  have known := isExpanded_fieldOr (alike.field? name) (.map []) rfl plain
  have entered := (known.copy plain).entries?
  rw [Success.of_foreseen first, Success.of_foreseen second] at entered
  cases entered with
  | some here => exact here

/-- Elements under a key are as many elements in the copy. -/
theorem areExpanded_fieldElements (alike : entries.AreCopies (IsExpanded root) copies) {name : Text}
    (plain : IsPlain (Value.fieldOr name entries (.list []))) {found led : List Value}
    (first : Value.fieldElements name entries = .ok found)
    (second : Value.fieldElements name copies = .ok led) :
    List.Forall₂ (IsExpanded root) found led := by
  have known := isExpanded_fieldOr (alike.field? name) (.list []) rfl plain.notReference
  have elements := areExpanded_elements? known plain
  rw [Success.of_foreseen first, Success.of_foreseen second] at elements
  cases elements with
  | some pairs => exact pairs

/-! ## Sources -/

/-- The second source is that of the expanded document; the references that the expansion keeps have
plain paths. -/
structure ExpandsTo (source copy : Source) : Prop where
  expanded : Reference.expand source.root = .ok copy.root
  paths : KeepsPlainPaths source.root
  entries : source.entries.AreCopies (IsExpanded source.root) copy.entries
  dialect : copy.dialect = source.dialect
  distinct : source.references.Nodup

variable {source copy : Source}

theorem exists_of_followEntries? {node : Value} {found : Option Entries}
    (success : source.followEntries? node = .ok found) :
    ∃ led, Reference.followFrom source.root source.references node = .ok led ∧
      led.entries? = found := by
  obtain ⟨led, followed, success⟩ := Success.of_bind success
  cases success
  unfold Source.follow at followed
  split at followed
  · next there =>
      cases followed
      exact ⟨led, there, rfl⟩
  · cases followed

theorem AtTarget.key {condition : Entries → Prop} {node found : Value}
    (places : AtTarget source condition node)
    (followed : Reference.followFrom source.root source.references node = .ok found) :
    ∀ inner, found.field? "$ref" = some inner → ofValue? inner = none := by
  intro inner there
  cases found with
  | map entries =>
      have success : source.followEntries? node = .ok (some entries) := by
        unfold Source.followEntries? Source.follow
        rw [followed]
        rfl
      exact (places entries success).1 inner there
  | _ => cases there

/-- Where a reference may stand, it leads to a mapping and in the expanded document to its copy. -/
theorem areCopies_of_followEntries? (expands : ExpandsTo source copy) {node expanded : Value}
    (known : IsExpanded source.root node expanded) {condition : Entries → Prop}
    (places : AtTarget source condition node) {found led : Option Entries}
    (first : source.followEntries? node = .ok found)
    (second : copy.followEntries? expanded = .ok led) :
    Option.Rel (Entries.AreCopies (IsExpanded source.root)) found led := by
  obtain ⟨value, followed, rfl⟩ := exists_of_followEntries? first
  obtain ⟨other, inCopy, rfl⟩ := exists_of_followEntries? second
  have made := known.follow expands.expanded expands.paths expands.distinct followed inCopy
    (places.key followed)
  exact (made.copy (Reference.ofValue?_of_followFrom followed)).entries?

end ApiForge.Import
