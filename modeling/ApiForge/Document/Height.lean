import ApiForge.Document.Access

/-!
# Heights of values

The height of a value is the number of collections on the longest way into it.
A value inside a collection is lower than the collection.
-/

namespace ApiForge

mutual

def Value.height : Value → Nat
  | .scalar _ => 0
  | .set _ => 0
  | .list items => heightOfItems items + 1
  | .map entries => heightOfEntries entries + 1
  | .pair first second => max first.height second.height + 1
  termination_by structural value => value

def heightOfItems : List Value → Nat
  | [] => 0
  | item :: rest => max item.height (heightOfItems rest)
  termination_by structural items => items

def heightOfEntries : List (Scalar × Value) → Nat
  | [] => 0
  | (_, value) :: rest => max value.height (heightOfEntries rest)
  termination_by structural entries => entries

end

namespace Value

theorem height_le_of_mem_items {item : Value} {items : List Value} (member : item ∈ items) :
    item.height ≤ heightOfItems items := by
  induction items with
  | nil => cases member
  | cons first rest ih =>
      simp only [heightOfItems]
      rcases List.mem_cons.mp member with same | inRest
      · subst same; omega
      · have := ih inRest; omega

theorem height_le_of_mem_entries {key : Scalar} {value : Value} {entries : Entries}
    (member : (key, value) ∈ entries) : value.height ≤ heightOfEntries entries := by
  induction entries with
  | nil => cases member
  | cons first rest ih =>
      obtain ⟨firstKey, firstValue⟩ := first
      simp only [heightOfEntries]
      rcases List.mem_cons.mp member with same | inRest
      · cases same; omega
      · have := ih inRest; omega

theorem height_field_le {name : Text} {entries : Entries} {value : Value}
    (found : Entries.field? name entries = some value) :
    value.height ≤ heightOfEntries entries := by
  unfold Entries.field? Entries.find? at found
  cases entry : List.find? (fun entry => entry.1.isSameKey (.str name)) entries with
  | none => simp [entry] at found
  | some pair =>
      simp only [entry, Option.map_some, Option.some.injEq] at found
      have member : (pair.1, pair.2) ∈ entries := List.mem_of_find?_eq_some entry
      exact found ▸ height_le_of_mem_entries member

theorem height_fieldOrNull_lt (name : Text) (entries : Entries) :
    (fieldOrNull name entries).height < (Value.map entries).height := by
  unfold fieldOrNull
  simp only [height]
  cases found : Entries.field? name entries with
  | none => simp [height]
  | some value =>
      have := height_field_le found
      simp only [Option.getD_some]
      omega

/-- The entries under a key are lower than the entries around it. -/
theorem height_fieldEntries_le {name : Text} {entries inner : Entries}
    (found : fieldEntries name entries = .ok inner) :
    heightOfEntries inner < heightOfEntries entries ∨ inner = [] := by
  unfold fieldEntries fieldOr at found
  cases value : Entries.field? name entries with
  | none =>
      simp only [value, entries?, foreseen, Except.ok.injEq] at found
      exact .inr found.symm
  | some held =>
      simp only [value] at found
      split at found
      · cases held with
        | map entries =>
            simp only [entries?, foreseen, Except.ok.injEq] at found
            have := height_field_le value
            simp only [height] at this
            subst found
            exact .inl (by omega)
        | _ => simp [entries?, foreseen] at found
      · simp only [entries?, foreseen, Except.ok.injEq] at found
        exact .inr found.symm

end Value

end ApiForge
