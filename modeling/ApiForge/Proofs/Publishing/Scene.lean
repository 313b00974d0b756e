import ApiForge.Proofs.Publishing.Spots

/-!
# What the spots hold

The state of a disk on which a client is being published: what the three spots
hold, while everything else is as it was when the staging folder was made. As
long as what was at the target is at the target or, if the root does not lead
through the target, at the backup, the root leads where it led.
-/

namespace ApiForge.Publication

/-- The disk just before the staging folder is made: the root leads to a folder in which the names
of staging and backup are free. -/
structure Ground (publication : Publication) (ground : Disk) (room : List Text) : Prop where
  sound : IsSound publication
  leads : ground.locate publication.root = .ok room
  isFolder : ground.top.HasFolder room
  stagingFree : ground.top.get? (Spot.staging.place publication room) = none
  backupFree : ground.top.get? (Spot.backup.place publication room) = none
  short : Disk.isTooLong publication.stagingName = false
  clean : (Spot.staging.path publication).parts.any (·.contains '\x00') = false

/-- What was at the target. -/
abbrev former (publication : Publication) (ground : Disk) (room : List Text) : Option Node :=
  ground.top.get? (Spot.target.place publication room)

/-- What each spot holds, and that every other place has the entry that it had. -/
structure Holds (publication : Publication) (ground : Node) (room : List Text)
    (held : Spot → Option Node) (top : Node) : Prop where
  outside : ∀ names, (∀ spot : Spot, ¬ spot.place publication room <+: names) →
    top.entryAt names = ground.entryAt names
  inside : ∀ spot : Spot, top.get? (spot.place publication room) = held spot

/-- The three spots with what they hold. -/
def hold (staging target backup : Option Node) : Spot → Option Node
  | .staging => staging
  | .target => target
  | .backup => backup

variable {publication : Publication} {room : List Text}

theorem not_place_prefix_room (room : List Text) (spot : Spot) :
    ¬ spot.place publication room <+: room :=
  Node.not_concat_inside room _

namespace Holds

variable {ground top after : Node} {held next : Spot → Option Node}

theorem hasFolder_room (holds : Holds publication ground room held top)
    (isFolder : ground.HasFolder room) : top.HasFolder room := by
  rw [Node.hasFolder_iff] at isFolder ⊢
  rw [holds.outside room (not_place_prefix_room room), isFolder]

/-- A change of one spot changes what this spot holds. -/
theorem change (holds : Holds publication ground room held top) {spot : Spot}
    (changed : Node.ChangedAt (spot.place publication room) top after)
    (here : after.get? (spot.place publication room) = next spot)
    (others : ∀ other, other ≠ spot → next other = held other) :
    Holds publication ground room next after := by
  constructor
  · intro names beside
    rw [changed.entries names (beside spot), holds.outside names beside]
  · intro other
    by_cases same : other = spot
    · rw [same, here]
    · rw [changed.nodes _ (not_place_prefix_place room fun equal => same equal.symm)
        (not_place_prefix_place room same), holds.inside other, others other same]

theorem put (holds : Holds publication ground room held top) (isFolder : ground.HasFolder room)
    {spot : Spot} {node : Node} (here : next spot = some node)
    (others : ∀ other, other ≠ spot → next other = held other) :
    Holds publication ground room next (top.put (spot.place publication room) node) :=
  holds.change (Node.changedAt_put ..)
    ((Node.get?_put (holds.hasFolder_room isFolder) ..).trans here.symm) others

theorem remove (holds : Holds publication ground room held top) (isFolder : ground.HasFolder room)
    (spot : Spot) (next : Spot → Option Node) (here : next spot = none)
    (others : ∀ other, other ≠ spot → next other = held other) :
    Holds publication ground room next (top.remove (spot.place publication room)) :=
  holds.change (Node.changedAt_remove ..)
    ((Node.get?_remove (holds.hasFolder_room isFolder) _).trans here.symm) others

/-- A file put into the staging folder is one more that it holds. -/
theorem fill (holds : Holds publication ground room held top) {entries : Folder} {name : Text}
    {node : Node} (staged : held .staging = some (.folder entries))
    (here : next .staging = some (.folder (Keyed.insert name node entries)))
    (others : ∀ other, other ≠ Spot.staging → next other = held other) :
    Holds publication ground room next
      (top.put (Spot.staging.place publication room ++ [name]) node) := by
  refine holds.change (Node.changedAt_put _ name top node).above ?_ others
  rw [here]
  exact Node.get?_put_inside ((holds.inside .staging).trans staged) name node

end Holds

/-! ## Where the root leads -/

/-- Where a place is found once the target has been set aside. -/
def carried (publication : Publication) (room place : List Text) : List Text :=
  Disk.relocate (Spot.target.place publication room) (Spot.backup.place publication room) place

/-- The root goes into the target by its name and leaves it again. -/
def EntersTarget (publication : Publication) (ground : Disk) (room : List Text) : Prop :=
  Spot.target.place publication room ∈
    Path.entered (ground.base publication.root) publication.root.parts

/-- What the spots hold on a disk, and that the root starts where it started or, if the target has
been set aside and the start with it, where that is now. -/
structure Stands (publication : Publication) (ground : Disk) (room : List Text) (aside : Bool)
    (held : Spot → Option Node) (disk : Disk) : Prop where
  top : Holds publication ground.top room held disk.top
  base : disk.base publication.root =
    if aside then carried publication room (ground.base publication.root)
    else ground.base publication.root

section

variable {ground disk after : Disk} {held next : Spot → Option Node} {aside : Bool}

namespace Ground

/-- The spots of the ground hold what was at the target and nothing else. -/
theorem holds (grounded : Ground publication ground room) :
    Holds publication ground.top room (hold none (former publication ground room) none)
      ground.top := by
  refine ⟨fun _ _ => rfl, fun spot => ?_⟩
  cases spot with
  | staging => exact grounded.stagingFree
  | target => rfl
  | backup => exact grounded.backupFree

/-- A folder of the ground that is not in the target is in no spot. -/
theorem not_inside (grounded : Ground publication ground room) {place : List Text}
    (isFolder : ground.top.HasFolder place)
    (outside : ¬ Spot.target.place publication room <+: place) (spot : Spot) :
    ¬ spot.place publication room <+: place := by
  obtain ⟨entries, found⟩ := isFolder
  intro inside
  cases spot with
  | target => exact outside inside
  | staging =>
      rw [Node.get?_below inside grounded.stagingFree] at found
      cases found
  | backup =>
      rw [Node.get?_below inside grounded.backupFree] at found
      cases found

/-- No part of the path to a spot holds a null. -/
theorem clean_spot (grounded : Ground publication ground room) (spot : Spot) :
    (spot.path publication).parts.any (·.contains '\x00') = false := by
  have clean := grounded.clean
  unfold Spot.path at clean ⊢
  rw [Path.child_of_isPlain (grounded.sound.isPlain _)] at clean ⊢
  simp only [List.any_append, List.any_cons, List.any_nil, Bool.or_false, Bool.or_eq_false_iff,
    Spot.name] at clean ⊢
  obtain ⟨above, inStaging⟩ := clean
  refine ⟨above, ?_⟩
  cases spot with
  | staging => exact inStaging
  | target =>
      rw [stagingName_eq] at inStaging
      simp_all
  | backup => simp_all

/-- Every place on the way of the root is a folder. -/
theorem hasFolder_of_mem_way (grounded : Ground publication ground room) :
    ∀ place ∈ Path.way (ground.base publication.root) publication.root.parts,
      ground.top.HasFolder place := by
  intro place member
  rcases (Disk.way_of_walk grounded.leads).2 place member with rfl | isFolder
  · exact grounded.isFolder
  · exact isFolder

theorem hasFolder_base (grounded : Ground publication ground room) :
    ground.top.HasFolder (ground.base publication.root) :=
  grounded.hasFolder_of_mem_way _ (Path.start_mem_way ..)

/-- The target keeps its folders if it still holds what it held. -/
theorem folder_stays (grounded : Ground publication ground room)
    (holds : Holds publication ground.top room held disk.top)
    (kept : held .target = former publication ground room ∨
      former publication ground room = none)
    {place : List Text} (isFolder : ground.top.HasFolder place) : disk.top.HasFolder place := by
  by_cases inside : Spot.target.place publication room <+: place
  · obtain ⟨rest, rfl⟩ := inside
    rcases kept with same | nothing
    · rw [Node.hasFolder_iff, Node.entryAt_append] at isFolder ⊢
      rw [holds.inside, same]
      exact isFolder
    · obtain ⟨entries, found⟩ := isFolder
      rw [Node.get?_below (List.prefix_append _ rest) nothing] at found
      cases found
  · rw [Node.hasFolder_iff, holds.outside place (grounded.not_inside isFolder inside)]
    exact Node.hasFolder_iff.mp isFolder

/-- The folders of the target are found at the backup if this holds what the target held. -/
theorem folder_carried (grounded : Ground publication ground room)
    (holds : Holds publication ground.top room held disk.top)
    (kept : held .backup = former publication ground room)
    {place : List Text} (isFolder : ground.top.HasFolder place) :
    disk.top.HasFolder (carried publication room place) := by
  by_cases inside : Spot.target.place publication room <+: place
  · obtain ⟨rest, rfl⟩ := inside
    rw [carried, Disk.relocate_append]
    rw [Node.hasFolder_iff, Node.entryAt_append] at isFolder ⊢
    rw [holds.inside, kept]
    exact isFolder
  · rw [carried, Disk.relocate_outside inside, Node.hasFolder_iff,
      holds.outside place (grounded.not_inside isFolder inside)]
    exact Node.hasFolder_iff.mp isFolder

end Ground

namespace Stands

/-- The root leads where it led while the target holds what it held, or if it held nothing. -/
theorem leads_of_kept (grounded : Ground publication ground room)
    (stands : Stands publication ground room false held disk)
    (kept : held .target = former publication ground room ∨
      former publication ground room = none) :
    disk.locate publication.root = .ok room := by
  unfold Disk.locate
  rw [stands.base]
  exact Disk.walk_of_folders grounded.leads fun _ => grounded.folder_stays stands.top kept

/-- With the target set aside, a root that does not go into it leads where it led. -/
theorem leads_of_aside (grounded : Ground publication ground room)
    (stands : Stands publication ground room true held disk)
    (kept : held .backup = former publication ground room)
    (avoids : ¬ EntersTarget publication ground room) :
    disk.locate publication.root = .ok room := by
  have stays : carried publication room room = room :=
    Disk.relocate_outside (not_place_prefix_room room .target)
  have followed := Disk.walk_relocate grounded.leads avoids
    fun _ => grounded.folder_carried stands.top kept
  unfold Disk.locate
  rw [stands.base]
  exact followed.trans (congrArg Except.ok stays)

/-- With the target set aside, a root that goes into it leads nowhere. -/
theorem lost (grounded : Ground publication ground room)
    (stands : Stands publication ground room true held disk)
    (kept : held .backup = former publication ground room)
    (gone : held .target = none) (enters : EntersTarget publication ground room) (spot : Spot) :
    disk.locate (spot.path publication) = .error .absent := by
  unfold Disk.locate Spot.path
  rw [Path.child_of_isPlain (grounded.sound.isPlain spot)]
  change Disk.walk disk.top (disk.base publication.root) _ = _
  rw [stands.base]
  exact Disk.walk_lost grounded.leads enters
    (fun _ => grounded.folder_carried stands.top kept) ((stands.top.inside .target).trans gone) _

/-! ## Looking at the spots -/

theorem hasFolder_room (grounded : Ground publication ground room)
    (stands : Stands publication ground room aside held disk) : disk.top.HasFolder room :=
  stands.top.hasFolder_room grounded.isFolder

theorem locate_spot (grounded : Ground publication ground room)
    (stands : Stands publication ground room aside held disk)
    (leads : disk.locate publication.root = .ok room) (spot : Spot) :
    disk.locate (spot.path publication) =
      if Disk.isTooLong (spot.name publication) then .error .tooLong
      else .ok (spot.place publication room) :=
  Disk.locate_child_of_locate (grounded.sound.isPlain spot) leads (stands.hasFolder_room grounded)

theorem isPresent_spot (grounded : Ground publication ground room)
    (stands : Stands publication ground room aside held disk)
    (leads : disk.locate publication.root = .ok room) (spot : Spot) :
    disk.isPresent (spot.path publication) =
      if Disk.isTooLong (spot.name publication) then .error .unforeseen
      else .ok (held spot).isSome := by
  unfold Disk.isPresent Disk.look
  rw [stands.locate_spot grounded leads]
  by_cases long : Disk.isTooLong (spot.name publication)
  · rw [if_pos long, if_pos long]
    rfl
  · rw [if_neg long, if_neg long, ← stands.top.inside spot]
    rfl

/-- The names of staging folder and target are short enough to be asked for. -/
theorem isPresent_of_short (grounded : Ground publication ground room)
    (stands : Stands publication ground room aside held disk)
    (leads : disk.locate publication.root = .ok room) (spot : Spot) (other : spot ≠ .backup) :
    disk.isPresent (spot.path publication) = .ok (held spot).isSome := by
  have short : Disk.isTooLong (spot.name publication) = false := by
    cases spot with
    | staging => exact grounded.short
    | target => exact isTooLong_name grounded.short
    | backup => exact absurd rfl other
  rw [stands.isPresent_spot grounded leads, short]
  rfl

/-! ## Changing the spots -/

/-- The place of a spot that is found. -/
theorem place_of_locate (grounded : Ground publication ground room)
    (stands : Stands publication ground room aside held disk)
    (leads : disk.locate publication.root = .ok room) {spot : Spot} {names : List Text}
    (found : disk.locate (spot.path publication) = .ok names) :
    names = spot.place publication room := by
  rw [stands.locate_spot grounded leads] at found
  split at found
  · cases found
  · exact (Except.ok.inj found).symm

/-- A move takes what one spot holds to another. -/
theorem move (grounded : Ground publication ground room)
    (stands : Stands publication ground room aside held disk)
    (leads : disk.locate publication.root = .ok room) (one other : Spot)
    (next : Spot → Option Node)
    (made : disk.apply (.move (one.path publication) (other.path publication)) = .ok after)
    (taken : next one = none) (given : next other = held one)
    (others : ∀ spot, spot ≠ one → spot ≠ other → next spot = held spot) :
    Holds publication ground.top room next after.top ∧
      after.base publication.root = Disk.relocate (one.place publication room)
        (other.place publication room) (disk.base publication.root) := by
  change disk.move _ _ = _ at made
  unfold Disk.move at made
  dsimp only at made
  split at made
  · cases made
  · cases made
  · next start goal fromOne toOther =>
      rw [stands.place_of_locate grounded leads fromOne,
        stands.place_of_locate grounded leads toOther] at made
      rw [stands.top.inside one, stands.top.inside other] at made
      split at made
      · cases made
      · next node holdsNode =>
          split at made
          · cases made
          · cases made
            have middle := stands.top.remove grounded.isFolder one
              (fun spot => if spot = one then none else held spot) (if_pos rfl)
              (fun spot apart => if_neg apart)
            refine ⟨middle.put grounded.isFolder (given.trans holdsNode) ?_,
              Disk.base_of_place rfl⟩
            intro spot apart
            by_cases same : spot = one
            · rw [same, taken, if_pos rfl]
            · rw [if_neg same, others spot same apart]

/-- Setting the target aside carries the start of the root along. -/
theorem setAside (grounded : Ground publication ground room) {staging : Option Node} {node : Node}
    (stands : Stands publication ground room false (hold staging (some node) none) disk)
    (leads : disk.locate publication.root = .ok room)
    (made : disk.apply (.move publication.target publication.backup) = .ok after) :
    Stands publication ground room true (hold staging none (some node)) after := by
  obtain ⟨holds, base⟩ := stands.move grounded leads .target .backup
    (hold staging none (some node)) made rfl rfl (by intro spot; cases spot <;> simp [hold])
  refine ⟨holds, ?_⟩
  rw [base, stands.base]
  rfl

/-- Bringing the target back brings the start of the root back. -/
theorem bringBack (grounded : Ground publication ground room) {staging : Option Node} {node : Node}
    (stands : Stands publication ground room true (hold staging none (some node)) disk)
    (leads : disk.locate publication.root = .ok room)
    (made : disk.apply (.move publication.backup publication.target) = .ok after) :
    Stands publication ground room false (hold staging (some node) none) after := by
  obtain ⟨holds, base⟩ := stands.move grounded leads .backup .target
    (hold staging (some node) none) made rfl rfl (by intro spot; cases spot <;> simp [hold])
  refine ⟨holds, ?_⟩
  rw [base, stands.base]
  change Disk.relocate _ _ (carried publication room _) = ground.base publication.root
  by_cases inside : Spot.target.place publication room <+: ground.base publication.root
  · obtain ⟨rest, same⟩ := inside
    rw [← same, carried, Disk.relocate_append, Disk.relocate_append]
  · rw [carried, Disk.relocate_outside inside, Disk.relocate_outside
      (grounded.not_inside grounded.hasFolder_base inside .backup)]

/-- Swapping the staging folder in leaves the start of the root where it is. -/
theorem swapIn (grounded : Ground publication ground room) {node : Node} {backup : Option Node}
    (stands : Stands publication ground room aside (hold (some node) none backup) disk)
    (leads : disk.locate publication.root = .ok room)
    (made : disk.apply (.move publication.staging publication.target) = .ok after) :
    Stands publication ground room aside (hold none (some node) backup) after := by
  obtain ⟨holds, base⟩ := stands.move grounded leads .staging .target
    (hold none (some node) backup) made rfl rfl (by intro spot; cases spot <;> simp [hold])
  refine ⟨holds, ?_⟩
  have apart : ¬ Spot.staging.place publication room <+: disk.base publication.root := by
    rw [stands.base]
    by_cases inside : Spot.target.place publication room <+: ground.base publication.root
    · obtain ⟨rest, same⟩ := inside
      rw [← same, carried, Disk.relocate_append]
      split
      all_goals
        intro long
        cases eq_of_place_inside long
    · rw [carried, Disk.relocate_outside inside, ite_self]
      exact grounded.not_inside grounded.hasFolder_base inside .staging
  rw [base, Disk.relocate_outside apart, stands.base]

/-- Removing what a spot holds leaves it with nothing. -/
theorem removeFolder (grounded : Ground publication ground room)
    (stands : Stands publication ground room aside held disk)
    (leads : disk.locate publication.root = .ok room) (spot : Spot) (next : Spot → Option Node)
    (made : disk.apply (.removeFolder (spot.path publication)) = .ok after)
    (taken : next spot = none) (others : ∀ other, other ≠ spot → next other = held other) :
    Stands publication ground room aside next after := by
  obtain ⟨names, placed, made⟩ := Success.of_bind made
  rw [stands.place_of_locate grounded leads (Disk.of_placeFor placed).2] at made
  split at made
  · cases made
    exact ⟨stands.top.remove grounded.isFolder _ next taken others, stands.base⟩
  · cases made
  · cases made

/-- What a spot with a short name holds can be moved to one that holds nothing. -/
theorem exists_move (grounded : Ground publication ground room)
    (stands : Stands publication ground room aside held disk)
    (leads : disk.locate publication.root = .ok room) (one other : Spot) {node : Node}
    (shortOne : Disk.isTooLong (one.name publication) = false)
    (shortOther : Disk.isTooLong (other.name publication) = false)
    (holds : held one = some node) (free : held other = none) :
    ∃ after, disk.apply (.move (one.path publication) (other.path publication)) = .ok after := by
  have fromOne := stands.locate_spot grounded leads one
  have toOther := stands.locate_spot grounded leads other
  rw [shortOne, if_neg Bool.false_ne_true] at fromOne
  rw [shortOther, if_neg Bool.false_ne_true] at toOther
  change ∃ after, disk.move _ _ = _
  unfold Disk.move
  dsimp only
  rw [fromOne, toOther]
  dsimp only
  rw [stands.top.inside one, stands.top.inside other, holds, free]
  cases node <;> exact ⟨_, rfl⟩

/-- A name to which something was moved is short. -/
theorem short_of_move (grounded : Ground publication ground room)
    (stands : Stands publication ground room aside held disk)
    (leads : disk.locate publication.root = .ok room) {source : Path} (spot : Spot)
    (made : disk.apply (.move source (spot.path publication)) = .ok after) :
    Disk.isTooLong (spot.name publication) = false := by
  rw [Bool.eq_false_iff]
  intro long
  have lost := stands.locate_spot grounded leads spot
  rw [if_pos long] at lost
  change disk.move _ _ = _ at made
  unfold Disk.move at made
  dsimp only at made
  rw [lost] at made
  cases found : disk.locate source <;> rw [found] at made <;> cases made

/-- A folder at a spot with a short name can be removed. -/
theorem exists_removeFolder (grounded : Ground publication ground room)
    (stands : Stands publication ground room aside held disk)
    (leads : disk.locate publication.root = .ok room) (spot : Spot) {entries : Folder}
    (short : Disk.isTooLong (spot.name publication) = false)
    (holds : held spot = some (.folder entries)) :
    ∃ after, disk.apply (.removeFolder (spot.path publication)) = .ok after := by
  have located := stands.locate_spot grounded leads spot
  rw [short, if_neg Bool.false_ne_true] at located
  change ∃ after, disk.removeFolder _ = _
  unfold Disk.removeFolder Disk.placeFor
  rw [if_neg (by rw [grounded.clean_spot spot]; exact Bool.false_ne_true), located]
  simp only [bind, Except.bind]
  rw [stands.top.inside, holds]
  exact ⟨_, rfl⟩

/-- Nothing but a folder can be removed. -/
theorem exists_folder_of_removeFolder (grounded : Ground publication ground room)
    (stands : Stands publication ground room aside held disk)
    (leads : disk.locate publication.root = .ok room) (spot : Spot)
    (made : disk.apply (.removeFolder (spot.path publication)) = .ok after) :
    ∃ entries, held spot = some (.folder entries) := by
  obtain ⟨names, placed, made⟩ := Success.of_bind made
  rw [stands.place_of_locate grounded leads (Disk.of_placeFor placed).2, stands.top.inside] at made
  split at made
  · next entries holds => exact ⟨entries, holds⟩
  · cases made
  · cases made

/-- A file written into the staging folder is one more that it holds. -/
theorem putFile (grounded : Ground publication ground room)
    (stands : Stands publication ground room aside held disk)
    (leads : disk.locate publication.root = .ok room) {name : Text} (plain : Path.IsPlain name)
    {bytes : List UInt8} {entries : Folder} (staged : held .staging = some (.folder entries))
    (made : disk.putFile ((Spot.staging.path publication).child name) bytes = .ok after)
    (here : next .staging = some (.folder (Keyed.insert name (.file bytes) entries)))
    (others : ∀ other, other ≠ Spot.staging → next other = held other) :
    Stands publication ground room aside next after := by
  obtain ⟨names, placed, made⟩ := Success.of_bind made
  obtain ⟨inStaging, found, _, _, rfl⟩ := Disk.of_locate_child plain (Disk.of_placeFor placed).2
  rw [stands.place_of_locate grounded leads found] at made
  split at made
  · cases made
  · cases made
    exact ⟨stands.top.fill staged here others, stands.base⟩

end Stands

end

end ApiForge.Publication
