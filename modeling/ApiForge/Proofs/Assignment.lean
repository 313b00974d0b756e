import ApiForge.Naming.Unique
import ApiForge.Text.Distinct
import Mathlib.Data.List.Induction
import Mathlib.Data.Set.Function

/-!
# Assigned identifiers

Assigning identifiers succeeds exactly if no two names derive the same one, and
then every name has the identifier derived from it, in first-seen order.
Otherwise it fails at the first name that derives the identifier of another name
before it, and tells of the earliest one that does.
-/

namespace ApiForge.Naming

/-- The distinct names in first-seen order, each with the identifier derived from it. -/
def identifiersOf (derive : Text → Text) (names : List Text) : List (Text × Text) :=
  (Text.distinct names).map fun name => (name, derive name)

/-- Among the names met before, `owner` is the earliest with the identifier of `name`, and it is
another name. -/
structure IsOwner (derive : Text → Text) (before : List Text) (owner name : Text) : Prop where
  earliest : ∃ earlier later, before = earlier ++ owner :: later ∧
    ∀ other ∈ earlier, derive other ≠ derive name
  shared : derive owner = derive name
  apart : owner ≠ name

/-- The first name in the list whose identifier has an owner already, and that owner. -/
def IsFirstClash (derive : Text → Text) (names : List Text) (owner name : Text) : Prop :=
  ∃ before after, names = before ++ name :: after ∧
    Set.InjOn derive {known | known ∈ before} ∧ IsOwner derive before owner name

/-- What assigning identifiers to the names has to answer. -/
inductive IsAnswer (kind : Text) (derive : Text → Text) (names : List Text) :
    Except Failure (List (Text × Text)) → Prop where
  | assigned (distinct : Set.InjOn derive {name | name ∈ names}) :
      IsAnswer kind derive names (.ok (identifiersOf derive names))
  | refused {owner name : Text} (clash : IsFirstClash derive names owner name) :
      IsAnswer kind derive names (.error (.collision kind (derive name) owner name))

variable {kind : Text} {derive : Text → Text} {names before rest : List Text}
  {owner name : Text}

/-! ## Clashes -/

theorem isOwner_iff_find? :
    IsOwner derive before owner name ↔
      before.find? (derive · == derive name) = some owner ∧ owner ≠ name := by
  rw [List.find?_eq_some_iff_append]
  constructor
  · rintro ⟨⟨earlier, later, same, unowned⟩, shared, apart⟩
    exact ⟨⟨beq_iff_eq.mpr shared, earlier, later, same, by simpa using unowned⟩, apart⟩
  · rintro ⟨⟨shared, earlier, later, same, unowned⟩, apart⟩
    exact ⟨⟨earlier, later, same, by simpa using unowned⟩, beq_iff_eq.mp shared, apart⟩

/-- A name whose identifier another one owns is new, if the names before are told apart. -/
theorem IsOwner.not_mem (owned : IsOwner derive before owner name)
    (distinct : Set.InjOn derive {known | known ∈ before}) : name ∉ before := by
  intro met
  have ownerMet := List.mem_of_find?_eq_some (isOwner_iff_find?.mp owned).1
  exact owned.apart (distinct ownerMet met owned.shared)

/-- A name fits after others if it is one of them or no other has its identifier. -/
def Fits (derive : Text → Text) (before : List Text) (name : Text) : Prop :=
  name ∈ before ∨ ∀ other ∈ before, derive other ≠ derive name

/-- One more name keeps the names told apart exactly if it fits. -/
theorem injOn_concat_iff :
    Set.InjOn derive {known | known ∈ before ++ [name]} ↔
      Set.InjOn derive {known | known ∈ before} ∧ Fits derive before name := by
  have members : {known | known ∈ before ++ [name]} = insert name {known | known ∈ before} := by
    ext known
    simp [or_comm]
  by_cases met : name ∈ before
  · have same : insert name {known | known ∈ before} = {known | known ∈ before} :=
      Set.insert_eq_of_mem met
    rw [members, same]
    exact (and_iff_left (.inl met)).symm
  · have unmet : name ∉ {known | known ∈ before} := met
    have fits : Fits derive before name ↔ derive name ∉ derive '' {known | known ∈ before} := by
      simp [Fits, met]
    rw [members, Set.injOn_insert unmet, fits]

/-- Names that are not told apart have a first clash. -/
theorem injOn_or_isFirstClash (derive : Text → Text) (names : List Text) :
    Set.InjOn derive {name | name ∈ names} ∨
      ∃ owner name, IsFirstClash derive names owner name := by
  induction names using List.reverseRecOn with
  | nil => exact .inl fun _ none => nomatch none
  | append_singleton before name ih =>
      rcases ih with distinct | ⟨owner, other, start, after, rfl, told, owned⟩
      · by_cases fits : Fits derive before name
        · exact .inl (injOn_concat_iff.mpr ⟨distinct, fits⟩)
        · obtain ⟨unmet, taken⟩ := not_or.mp fits
          cases asked : before.find? (derive · == derive name) with
          | none => exact absurd (by simpa using asked) taken
          | some owner =>
              have apart : owner ≠ name := fun same =>
                unmet (same ▸ List.mem_of_find?_eq_some asked)
              exact .inr ⟨owner, name, before, [], rfl, distinct,
                isOwner_iff_find?.mpr ⟨asked, apart⟩⟩
      · refine .inr ⟨owner, other, start, after ++ [name], ?_, told, owned⟩
        rw [List.append_assoc, List.cons_append]

/-! ## One name -/

theorem any_identifiersOf :
    (identifiersOf derive before).any (·.1 == name) = true ↔ name ∈ before := by
  simp [identifiersOf, Text.mem_distinct]

theorem find?_identifiersOf (identifier : Text) :
    (identifiersOf derive before).find? (·.2 == identifier) =
      (before.find? (derive · == identifier)).map fun name => (name, derive name) := by
  rw [identifiersOf, List.find?_map, Text.find?_distinct]
  rfl

/-- A name that fits is taken up, or passed over where it is known. -/
theorem assignFrom_of_fits (fits : Fits derive before name) :
    assignFrom kind derive (identifiersOf derive before) (name :: rest) =
      assignFrom kind derive (identifiersOf derive (before ++ [name])) rest := by
  by_cases met : name ∈ before
  · have same : identifiersOf derive (before ++ [name]) = identifiersOf derive before := by
      rw [identifiersOf, Text.distinct_concat_of_mem met, identifiersOf]
    rw [assignFrom, if_pos (any_identifiersOf.mpr met), same]
  · have longer : identifiersOf derive (before ++ [name]) =
        identifiersOf derive before ++ [(name, derive name)] := by
      rw [identifiersOf, Text.distinct_concat_of_not_mem met, List.map_append]
      rfl
    have free : before.find? (derive · == derive name) = none := by
      simpa using fits.resolve_left met
    rw [assignFrom, if_neg (mt any_identifiersOf.mp met), find?_identifiersOf, free, longer]
    rfl

/-- A name whose identifier another one owns is refused. -/
theorem assignFrom_of_isOwner (distinct : Set.InjOn derive {known | known ∈ before})
    (owned : IsOwner derive before owner name) :
    assignFrom kind derive (identifiersOf derive before) (name :: rest) =
      .error (.collision kind (derive name) owner name) := by
  rw [assignFrom, if_neg (mt any_identifiersOf.mp (owned.not_mem distinct)),
    find?_identifiersOf, (isOwner_iff_find?.mp owned).1]
  rfl

/-! ## All names -/

/-- As long as the names are told apart, all of them are taken up. -/
theorem assignFrom_append {more : List Text}
    (distinct : Set.InjOn derive {known | known ∈ before ++ more}) :
    assignFrom kind derive (identifiersOf derive before) (more ++ rest) =
      assignFrom kind derive (identifiersOf derive (before ++ more)) rest := by
  induction more generalizing before with
  | nil => rw [List.append_nil, List.nil_append]
  | cons name more ih =>
      rw [List.append_cons] at distinct ⊢
      have told : Set.InjOn derive {known | known ∈ before ++ [name]} :=
        distinct.mono fun _ => List.mem_append_left more
      rw [List.cons_append, assignFrom_of_fits (injOn_concat_iff.mp told).2, ih distinct]

theorem assign_append (distinct : Set.InjOn derive {known | known ∈ before}) :
    assign kind derive (before ++ rest) =
      assignFrom kind derive (identifiersOf derive before) rest := by
  change assignFrom kind derive (identifiersOf derive []) (before ++ rest) = _
  exact assignFrom_append distinct

theorem assign_of_isAnswer {answer : Except Failure (List (Text × Text))}
    (is : IsAnswer kind derive names answer) : assign kind derive names = answer := by
  cases is with
  | assigned distinct =>
      rw [← List.append_nil names, assign_append distinct, List.append_nil]
      rfl
  | refused clash =>
      obtain ⟨before, after, rfl, distinct, owned⟩ := clash
      rw [assign_append distinct, assignFrom_of_isOwner distinct owned]

theorem isAnswer_assign (kind : Text) (derive : Text → Text) (names : List Text) :
    IsAnswer kind derive names (assign kind derive names) := by
  rcases injOn_or_isFirstClash derive names with distinct | ⟨owner, name, clash⟩
  · have is : IsAnswer kind derive names _ := .assigned distinct
    rwa [assign_of_isAnswer is]
  · have is : IsAnswer kind derive names _ := .refused clash
    rwa [assign_of_isAnswer is]

theorem assign_eq_ok_iff {pairs : List (Text × Text)} :
    assign kind derive names = .ok pairs ↔
      Set.InjOn derive {name | name ∈ names} ∧ pairs = identifiersOf derive names := by
  constructor
  · intro success
    have is := isAnswer_assign kind derive names
    rw [success] at is
    cases is with
    | assigned distinct => exact ⟨distinct, rfl⟩
  · rintro ⟨distinct, rfl⟩
    exact assign_of_isAnswer (.assigned distinct)

/-- Identifiers are assigned exactly if they tell the names apart. Every answer is the one that has
to be given: the distinct names in first-seen order with their identifiers, or the failure that tells
of the first clash. -/
theorem assign_eq_iff (kind : Text) (derive : Text → Text) (names : List Text) :
    ((∃ pairs, assign kind derive names = .ok pairs) ↔
        Set.InjOn derive {name | name ∈ names}) ∧
      ∀ answer, assign kind derive names = answer ↔ IsAnswer kind derive names answer := by
  refine ⟨⟨?_, fun distinct => ⟨_, assign_eq_ok_iff.mpr ⟨distinct, rfl⟩⟩⟩,
    fun answer => ⟨?_, assign_of_isAnswer⟩⟩
  · rintro ⟨pairs, success⟩
    exact (assign_eq_ok_iff.mp success).1
  · rintro rfl
    exact isAnswer_assign kind derive names

/-- A repeated name is no clash; of two names that clash with earlier ones the first is told. -/
example :
    assign "Schema" Text.toUpper ["a", "b", "a", "B", "A"] =
      .error (.collision "Schema" "B" "b" "B") := by
  decide

/-! ## Names with identifiers -/

variable {pairs : List (Text × Text)}

/-- Names whose identifiers could be assigned differ in their identifiers. -/
theorem assign_injective (success : assign kind derive names = .ok pairs) {first second : Text}
    (firstGiven : first ∈ names) (secondGiven : second ∈ names)
    (same : derive first = derive second) : first = second :=
  (assign_eq_ok_iff.mp success).1 firstGiven secondGiven same

/-- Exactly the names given have an identifier, each its own. -/
theorem mem_assign_iff (success : assign kind derive names = .ok pairs) {pair : Text × Text} :
    pair ∈ pairs ↔ pair.1 ∈ names ∧ pair.2 = derive pair.1 := by
  obtain ⟨_, rfl⟩ := assign_eq_ok_iff.mp success
  obtain ⟨name, identifier⟩ := pair
  simp [identifiersOf, Text.mem_distinct, eq_comm]

theorem mem_assign (success : assign kind derive names = .ok pairs) (given : name ∈ names) :
    (name, derive name) ∈ pairs :=
  (mem_assign_iff success).mpr ⟨given, rfl⟩

end ApiForge.Naming
