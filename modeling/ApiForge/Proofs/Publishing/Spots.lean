import ApiForge.Proofs.Files.Trace
import ApiForge.Publishing.Publish

/-!
# The three spots of a publication

Publishing works in one folder and there with three names: that of the staging
folder, that of the target and that of the backup. Every change of it takes one
of them, gives one of them something else to hold, or moves something from one
to another; all other places hold what they held.
-/

namespace ApiForge.Publication

inductive Spot where
  | staging
  | target
  | backup
  deriving DecidableEq, Repr

namespace Spot

/-- The name of a spot. -/
def name (publication : Publication) : Spot → Text
  | .staging => publication.stagingName
  | .target => publication.name
  | .backup => publication.stagingName ++ ".previous"

/-- The path by which a spot is reached. -/
def path (publication : Publication) (spot : Spot) : Path :=
  publication.root.child (spot.name publication)

/-- The place of a spot in the folder of a publication. -/
def place (publication : Publication) (room : List Text) (spot : Spot) : List Text :=
  room ++ [spot.name publication]

end Spot

/-! ## Names -/

/-- The names of a publication are names of children: the name is accepted, and the token is one of
letters that cut no path. -/
structure IsSound (publication : Publication) : Prop where
  named : publication.isNamed = true
  token : '/' ∉ publication.token

variable {publication : Publication}

/-- The staging folder's name has the target's inside it. -/
theorem stagingName_eq (publication : Publication) :
    publication.stagingName =
      '.' :: (publication.name ++ ('.' :: publication.token ++ ".staging".toList)) := by
  unfold stagingName
  simp

theorem length_stagingName (publication : Publication) :
    publication.stagingName.length = publication.name.length + publication.token.length + 10 := by
  rw [stagingName_eq]
  simp
  omega

/-- No two spots have the same name, since no two names are equally long. -/
theorem name_injective {one other : Spot} (same : one.name publication = other.name publication) :
    one = other := by
  have lengths := congrArg List.length same
  have previous : ".previous".toList.length = 9 := rfl
  cases one <;> cases other <;>
    simp only [Spot.name, List.length_append, length_stagingName, previous] at lengths <;>
    first
      | rfl
      | omega

theorem place_injective {room : List Text} {one other : Spot}
    (same : one.place publication room = other.place publication room) : one = other := by
  have names := List.append_cancel_left same
  exact name_injective (List.singleton_inj.mp names)

/-- No spot is inside another. -/
theorem eq_of_place_inside {room rest : List Text} {one other : Spot}
    (inside : one.place publication room <+: other.place publication room ++ rest) :
    one = other := by
  have lengths : (one.place publication room).length = (other.place publication room).length := by
    unfold Spot.place
    rw [List.length_append, List.length_append, List.length_singleton, List.length_singleton]
  obtain ⟨below, same⟩ := inside
  exact place_injective (List.append_inj same lengths).1

theorem not_place_prefix_place (room : List Text) {one other : Spot} (different : one ≠ other) :
    ¬ one.place publication room <+: other.place publication room := by
  intro inside
  rw [← List.append_nil (other.place publication room)] at inside
  exact different (eq_of_place_inside inside)

/-- Every spot is a single entry of its folder. -/
theorem IsSound.isPlain (sound : IsSound publication) (spot : Spot) :
    Path.IsPlain (spot.name publication) := by
  have named := sound.named
  unfold isNamed at named
  simp only [Bool.and_eq_true, Bool.not_eq_true', bne_iff_ne, ne_eq, List.isEmpty_eq_false_iff,
    List.contains_eq_mem, decide_eq_false_iff_not] at named
  obtain ⟨⟨⟨⟨filled, notDot⟩, notUp⟩, unmet⟩, _⟩ := named
  have long := length_stagingName publication
  have inStaging : '/' ∉ publication.stagingName := by
    have ends : '/' ∉ ".staging".toList := by decide
    rw [stagingName_eq]
    simp only [List.mem_cons, List.mem_append, not_or]
    exact ⟨by decide, unmet, ⟨by decide, sound.token⟩, ends⟩
  cases spot with
  | target => exact ⟨filled, notDot, notUp, unmet⟩
  | staging => exact Path.isPlain_of_length (by simp only [Spot.name]; omega) inStaging
  | backup =>
      have ends : '/' ∉ ".previous".toList := by decide
      refine Path.isPlain_of_length ?_ ?_
      · simp only [Spot.name, List.length_append]
        omega
      · simp only [Spot.name, List.mem_append, not_or]
        exact ⟨inStaging, ends⟩

theorem IsSound.path_injective (sound : IsSound publication) {one other : Spot}
    (same : one.path publication = other.path publication) : one = other := by
  unfold Spot.path at same
  rw [Path.child_of_isPlain (sound.isPlain one), Path.child_of_isPlain (sound.isPlain other)] at same
  have names := List.append_cancel_left (congrArg Path.parts same)
  exact name_injective (List.singleton_inj.mp names)

/-- Only what moves the target sets it aside. -/
theorem IsSound.move_ne_setAside (sound : IsSound publication) {spot : Spot}
    (other : spot ≠ .target) (goal : Path) :
    Change.move (spot.path publication) goal ≠ .move publication.target publication.backup := by
  intro same
  have paths : spot.path publication = Spot.target.path publication := (Change.move.inj same).1
  exact other (sound.path_injective paths)

/-- If the staging folder's name is not too long, neither is the target's. -/
theorem isTooLong_name (short : Disk.isTooLong publication.stagingName = false) :
    Disk.isTooLong publication.name = false := by
  unfold Disk.isTooLong at short ⊢
  rw [stagingName_eq, List.flatMap_cons, List.flatMap_append] at short
  simp only [List.length_append, decide_eq_false_iff_not, Nat.not_lt] at short ⊢
  omega

end ApiForge.Publication
