import ApiForge.Text.Distinct

/-!
# Values by name

A list of names with values, in which the last value of a name takes the place
of its first.
-/

namespace ApiForge.Keyed

/-- Gives a name a value: in the place of the name if it is there, at the end otherwise. -/
def insert {α : Type} (name : Text) (value : α) : List (Text × α) → List (Text × α)
  | [] => [(name, value)]
  | (other, old) :: rest =>
      if other = name then (other, value) :: rest else (other, old) :: insert name value rest

/-- The names in first-seen order, each with its last value. -/
def ofList {α : Type} (pairs : List (Text × α)) : List (Text × α) :=
  pairs.foldl (fun known (name, value) => insert name value known) []

def find? {α : Type} (name : Text) (known : List (Text × α)) : Option α :=
  (known.find? fun entry => entry.1 == name).map (·.2)

/-- Takes the names equal to `name` away. -/
def erase {α : Type} (name : Text) (known : List (Text × α)) : List (Text × α) :=
  known.filter (·.1 != name)

theorem find?_insert {α : Type} (name other : Text) (value : α) (known : List (Text × α)) :
    find? other (insert name value known) =
      if other = name then some value else find? other known := by
  induction known with
  | nil =>
      by_cases same : other = name
      · simp [find?, insert, same]
      · have apart : ¬ name = other := fun h => same h.symm
        simp [find?, insert, same, apart]
  | cons entry rest ih =>
      simp only [find?] at ih
      by_cases here : entry.1 = name
      · by_cases same : other = name
        · simp [find?, insert, here, same]
        · have apart : ¬ name = other := fun h => same h.symm
          simp [find?, insert, here, same, apart]
      · by_cases found : entry.1 = other
        · have apart : ¬ other = name := fun h => here (found.trans h)
          simp [find?, insert, found, apart]
        · simp [find?, insert, here, found, ih]

/-- Giving a name the value that it has changes nothing. -/
theorem insert_of_find? {α : Type} {name : Text} {value : α} {known : List (Text × α)}
    (found : find? name known = some value) : insert name value known = known := by
  induction known with
  | nil => cases found
  | cons entry rest ih =>
      obtain ⟨other, old⟩ := entry
      by_cases same : other = name
      · subst same
        simp only [find?, List.find?_cons_of_pos, beq_self_eq_true, Option.map_some,
          Option.some.injEq] at found
        simp [insert, found]
      · have inRest : find? name rest = some value := by
          simpa [find?, same] using found
        simp only [insert, if_neg same, ih inRest]

/-- Of two values given to one name the later one stays. -/
theorem insert_insert {α : Type} (name : Text) (first second : α) (known : List (Text × α)) :
    insert name second (insert name first known) = insert name second known := by
  induction known with
  | nil => simp [insert]
  | cons entry rest ih =>
      by_cases same : entry.1 = name
      · simp [insert, same]
      · simp [insert, same, ih]

theorem find?_erase {α : Type} (name other : Text) (known : List (Text × α)) :
    find? other (erase name known) = if other = name then none else find? other known := by
  induction known with
  | nil => simp [find?, erase]
  | cons entry rest ih =>
      simp only [find?, erase] at ih
      by_cases here : entry.1 = name
      · by_cases same : other = name
        · simp [find?, erase, here, same]
        · have apart : ¬ name = other := fun h => same h.symm
          simpa [find?, erase, here, same, apart] using ih
      · by_cases found : entry.1 = other
        · have apart : ¬ other = name := fun h => here (found.trans h)
          simp [find?, erase, found, apart]
        · simpa [find?, erase, here, found] using ih

theorem mem_map_insert {α : Type} {name other : Text} {value : α} {known : List (Text × α)} :
    other ∈ (insert name value known).map (·.1) ↔ other = name ∨ other ∈ known.map (·.1) := by
  induction known with
  | nil => simp [insert]
  | cons entry rest ih =>
      by_cases same : entry.1 = name
      · simp [insert, same]
      · simp only [insert, if_neg same, List.map_cons, List.mem_cons, ih]
        constructor <;> (rintro (h | h | h) <;> simp [h])

theorem insert_nodup {α : Type} {name : Text} {value : α} {known : List (Text × α)}
    (distinct : (known.map (·.1)).Nodup) : ((insert name value known).map (·.1)).Nodup := by
  induction known with
  | nil => simp [insert]
  | cons entry rest ih =>
      simp only [List.map_cons, List.nodup_cons] at distinct
      by_cases same : entry.1 = name
      · simp only [insert, if_pos same, List.map_cons, List.nodup_cons]
        exact distinct
      · simp only [insert, if_neg same, List.map_cons, List.nodup_cons, mem_map_insert, not_or]
        exact ⟨⟨same, distinct.1⟩, ih distinct.2⟩

theorem mem_of_mem_insert {α : Type} {name : Text} {value : α} {known : List (Text × α)}
    {entry : Text × α} (member : entry ∈ insert name value known) :
    entry = (name, value) ∨ entry ∈ known := by
  induction known with
  | nil => exact .inl (List.mem_singleton.mp member)
  | cons first rest ih =>
      by_cases same : first.1 = name
      · simp only [insert, if_pos same, List.mem_cons] at member
        rcases member with rfl | inRest
        · exact .inl (by rw [same])
        · exact .inr (List.mem_cons_of_mem _ inRest)
      · simp only [insert, if_neg same, List.mem_cons] at member
        rcases member with rfl | inRest
        · exact .inr List.mem_cons_self
        · rcases ih inRest with new | old
          · exact .inl new
          · exact .inr (List.mem_cons_of_mem _ old)

/-- What holds of a list of pairs and is kept by giving a name a value holds after all of them. -/
theorem ofList_keeps {α : Type} {pairs : List (Text × α)} (holds : List (Text × α) → Prop)
    (atStart : holds [])
    (keeps : ∀ known name value, (name, value) ∈ pairs → holds known →
      holds (insert name value known)) : holds (ofList pairs) := by
  suffices general : ∀ known, holds known →
      holds (pairs.foldl (fun known (name, value) => insert name value known) known) from
    general [] atStart
  induction pairs with
  | nil => exact fun known held => held
  | cons first rest ih =>
      intro known held
      refine ih (fun known name value member => ?_) _ (keeps _ _ _ List.mem_cons_self held)
      exact keeps known name value (List.mem_cons_of_mem _ member)

theorem mem_of_mem_ofList {α : Type} {pairs : List (Text × α)} {entry : Text × α}
    (member : entry ∈ ofList pairs) : entry ∈ pairs := by
  refine ofList_keeps (fun known => ∀ entry ∈ known, entry ∈ pairs) ?_ ?_ entry member
  · intro entry none
    cases none
  · intro known name value given held entry member
    rcases mem_of_mem_insert member with rfl | old
    · exact given
    · exact held entry old

theorem ofList_nodup {α : Type} (pairs : List (Text × α)) : ((ofList pairs).map (·.1)).Nodup :=
  ofList_keeps (fun known => (known.map (·.1)).Nodup) List.nodup_nil
    fun _ _ _ _ distinct => insert_nodup distinct

/-- No name is lost. -/
theorem mem_map_ofList {α : Type} {pairs : List (Text × α)} {name : Text} :
    name ∈ (ofList pairs).map (·.1) ↔ name ∈ pairs.map (·.1) := by
  suffices general : ∀ known : List (Text × α),
      name ∈ (pairs.foldl (fun known (name, value) => insert name value known) known).map (·.1) ↔
        name ∈ known.map (·.1) ∨ name ∈ pairs.map (·.1) from
    (general []).trans (by simp)
  induction pairs with
  | nil => simp
  | cons first rest ih =>
      intro known
      rw [List.foldl_cons, ih, mem_map_insert, List.map_cons, List.mem_cons, or_assoc,
        or_left_comm]

theorem map_insert {α β : Type} (function : α → β) (name : Text) (value : α)
    (known : List (Text × α)) :
    (insert name value known).map (Prod.map id function) =
      insert name (function value) (known.map (Prod.map id function)) := by
  induction known with
  | nil => rfl
  | cons entry rest ih =>
      obtain ⟨other, old⟩ := entry
      by_cases same : other = name
      · simp [insert, same]
      · simpa [insert, same] using ih

/-- Values can be changed before or after. -/
theorem map_ofList {α β : Type} (function : α → β) (pairs : List (Text × α)) :
    (ofList pairs).map (Prod.map id function) = ofList (pairs.map (Prod.map id function)) := by
  suffices general : ∀ known : List (Text × α),
      (pairs.foldl (fun known (name, value) => insert name value known) known).map
          (Prod.map id function) =
        (pairs.map (Prod.map id function)).foldl
          (fun known (name, value) => insert name value known) (known.map (Prod.map id function)) from
    general []
  induction pairs with
  | nil => exact fun _ => rfl
  | cons first rest ih =>
      intro known
      rw [List.foldl_cons, ih, map_insert, List.map_cons, List.foldl_cons]
      rfl

end ApiForge.Keyed
