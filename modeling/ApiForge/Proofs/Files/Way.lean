import ApiForge.Files.Change
import ApiForge.Proofs.Files.Tree

/-!
# Ways through a tree

A path leads from place to place. Where it ends depends on its parts alone; the
tree decides only whether it can be followed. So a path can still be followed
after a folder has moved if it does not go into that folder by its old name, and
only then.
-/

namespace ApiForge

/-! ## Ways -/

namespace Path

/-- The place that a part leads to. -/
def next (here : List Text) (part : Text) : List Text :=
  if part = ['.', '.'] then here.dropLast else here ++ [part]

/-- The place that the parts lead to. -/
def endOf (here : List Text) (parts : List Text) : List Text :=
  parts.foldl next here

/-- The places that the parts lead through, the first and the last one included. -/
def way (here : List Text) : List Text → List (List Text)
  | [] => [here]
  | part :: rest => here :: way (next here part) rest

/-- The places that the parts go into by name. -/
def entered (here : List Text) : List Text → List (List Text)
  | [] => []
  | part :: rest =>
      if part = ['.', '.'] then entered here.dropLast rest
      else (here ++ [part]) :: entered (here ++ [part]) rest

theorem start_mem_way (here parts : List Text) : here ∈ way here parts := by
  cases parts <;> exact List.mem_cons_self

/-- Every beginning of a path ends on the way. -/
theorem endOf_mem_way {here first : List Text} (second : List Text) :
    endOf here first ∈ way here (first ++ second) := by
  induction first generalizing here with
  | nil => exact start_mem_way here second
  | cons part rest ih => exact List.mem_cons_of_mem _ ih

/-- What a path goes into is on its way. -/
theorem mem_way_of_mem_entered {here parts place : List Text}
    (member : place ∈ entered here parts) : place ∈ way here parts := by
  induction parts generalizing here with
  | nil => cases member
  | cons part rest ih =>
      rw [entered] at member
      split at member
      · next up => exact List.mem_cons_of_mem _ (ih (by rw [next, if_pos up]; exact member))
      · next down =>
          refine List.mem_cons_of_mem _ ?_
          rw [next, if_neg down]
          rcases List.mem_cons.mp member with rfl | later
          · exact start_mem_way _ rest
          · exact ih later

/-! ## Names of children -/

/-- The text names one entry of a folder. -/
structure IsPlain (name : Text) : Prop where
  filled : name ≠ []
  notDot : name ≠ ['.']
  notUp : name ≠ ['.', '.']
  unmet : '/' ∉ name

theorem isPlain_of_length {name : Text} (long : 2 < name.length) (unmet : '/' ∉ name) :
    IsPlain name := by
  refine ⟨?_, ?_, ?_, unmet⟩
  all_goals
    rintro rfl
    simp at long

theorem splitOn_of_not_mem {text : Text} (unmet : '/' ∉ text) : Text.splitOn '/' text = [text] := by
  induction text with
  | nil => rfl
  | cons letter rest ih =>
      rw [List.mem_cons, not_or] at unmet
      rw [Text.splitOn, if_neg fun same => unmet.1 same.symm, ih unmet.2]

theorem ofText_of_isPlain {name : Text} (plain : IsPlain name) : ofText name = ⟨[], [name]⟩ := by
  obtain ⟨filled, notDot, _, unmet⟩ := plain
  have parts : partsOf name = [name] := by
    unfold partsOf
    rw [splitOn_of_not_mem unmet]
    simp [filled, notDot]
  have anchor : name.takeWhile (· == '/') = [] := by
    cases name with
    | nil => rfl
    | cons letter rest =>
        have other : letter ≠ '/' := fun same => unmet (same ▸ List.mem_cons_self)
        simp [other]
  unfold ofText
  rw [parts, anchor]
  rfl

theorem child_of_isPlain {path : Path} {name : Text} (plain : IsPlain name) :
    path.child name = { path with parts := path.parts ++ [name] } := by
  unfold child
  rw [ofText_of_isPlain plain]
  rfl

end Path

namespace Disk

open ApiForge.Path

variable {top later : Node} {here there : List Text} {parts : List Text}

/-! ## Following a way -/

theorem walk_append (top : Node) (here first second : List Text) :
    walk top here (first ++ second) =
      (walk top here first).bind fun there => walk top there second := by
  induction first generalizing here with
  | nil => rfl
  | cons part rest ih =>
      simp only [List.cons_append, walk]
      cases top.get? here with
      | none => rfl
      | some node =>
          cases node with
          | file bytes => rfl
          | folder entries =>
              dsimp only
              split
              · exact ih _
              · split
                · rfl
                · exact ih _

/-- A first step can be followed from a folder, unless its name is too long. -/
theorem walk_cons {part : Text} (isFolder : top.HasFolder here)
    (short : part = ['.', '.'] ∨ isTooLong part = false) :
    walk top here (part :: parts) = walk top (next here part) parts := by
  obtain ⟨entries, found⟩ := isFolder
  rw [walk, found]
  dsimp only
  unfold next
  split
  · rfl
  · next down =>
      rw [if_neg (by rw [short.resolve_left down]; exact Bool.false_ne_true)]

/-- What can be followed has a first step that can be followed. -/
theorem of_walk_cons {part : Text} (followed : walk top here (part :: parts) = .ok there) :
    top.HasFolder here ∧ (part = ['.', '.'] ∨ isTooLong part = false) ∧
      walk top (next here part) parts = .ok there := by
  rw [walk] at followed
  cases found : top.get? here with
  | none =>
      rw [found] at followed
      cases followed
  | some node =>
      rw [found] at followed
      cases node with
      | file bytes => cases followed
      | folder entries =>
          refine ⟨⟨entries, found⟩, ?_⟩
          dsimp only at followed
          unfold next
          split at followed
          · next up =>
              rw [if_pos up]
              exact ⟨.inl up, followed⟩
          · next down =>
              rw [if_neg down]
              split at followed
              · cases followed
              · next short => exact ⟨.inr (eq_false_of_ne_true short), followed⟩

/-- A way that can be followed ends where its parts say and has folders up to there. -/
theorem way_of_walk (followed : walk top here parts = .ok there) :
    there = endOf here parts ∧ ∀ place ∈ way here parts, place = there ∨ top.HasFolder place := by
  induction parts generalizing here with
  | nil =>
      cases followed
      exact ⟨rfl, fun place member => .inl (List.mem_singleton.mp member)⟩
  | cons part rest ih =>
      obtain ⟨isFolder, _, onward⟩ := of_walk_cons followed
      obtain ⟨ends, folders⟩ := ih onward
      refine ⟨ends, fun place member => ?_⟩
      rcases List.mem_cons.mp member with rfl | later
      · exact .inr isFolder
      · exact folders place later

/-! ## Following a way after a folder has moved -/

section

variable {room : List Text} {old new : Text}

theorem relocate_outside {start goal place : List Text} (outside : ¬ start <+: place) :
    relocate start goal place = place :=
  if_neg outside

theorem relocate_append (start goal rest : List Text) :
    relocate start goal (start ++ rest) = goal ++ rest := by
  rw [relocate, if_pos (List.prefix_append start rest), List.drop_left]

/-- A path starts from the current folder, also when this has moved. -/
theorem base_of_place {disk after : Disk} {path : Path} {goal : List Text} {name : Text}
    (placed : after.place = relocate (room ++ [name]) goal disk.place) :
    after.base path = relocate (room ++ [name]) goal (disk.base path) := by
  unfold base
  split
  · exact (relocate_outside fun long => by simpa using List.prefix_nil.mp long).symm
  · exact placed

/-- Going up commutes with a move between two names of one folder. -/
theorem relocate_dropLast (room : List Text) (old new : Text) (place : List Text) :
    relocate (room ++ [old]) (room ++ [new]) place.dropLast =
      (relocate (room ++ [old]) (room ++ [new]) place).dropLast := by
  by_cases inside : room ++ [old] <+: place
  · obtain ⟨rest, rfl⟩ := inside
    rw [relocate_append]
    cases rest with
    | nil =>
        rw [List.append_nil, List.append_nil, List.dropLast_concat, List.dropLast_concat,
          relocate_outside (Node.not_concat_inside room old)]
    | cons first rest =>
        rw [List.dropLast_append_of_ne_nil (List.cons_ne_nil first rest),
          List.dropLast_append_of_ne_nil (List.cons_ne_nil first rest), relocate_append]
  · have above : ¬ room ++ [old] <+: place.dropLast := fun long =>
      inside (long.trans (List.dropLast_prefix place))
    rw [relocate_outside inside, relocate_outside above]

/-- So does going down, unless this goes into what has moved. -/
theorem relocate_concat {start goal place : List Text} {name : Text}
    (other : place ++ [name] ≠ start) :
    relocate start goal (place ++ [name]) = relocate start goal place ++ [name] := by
  by_cases inside : start <+: place
  · obtain ⟨rest, rfl⟩ := inside
    rw [List.append_assoc, relocate_append, relocate_append, List.append_assoc]
  · have below : ¬ start <+: place ++ [name] := fun long => by
      rcases List.prefix_concat_iff.mp long with same | shorter
      · exact other same.symm
      · exact inside shorter
    rw [relocate_outside inside, relocate_outside below]

theorem relocate_next {place : List Text} {part : Text}
    (other : part ≠ ['.', '.'] → place ++ [part] ≠ room ++ [old]) :
    relocate (room ++ [old]) (room ++ [new]) (next place part) =
      next (relocate (room ++ [old]) (room ++ [new]) place) part := by
  unfold next
  split
  · exact relocate_dropLast room old new place
  · next down => exact relocate_concat (other down)

/-- A way that does not go into what has moved by its old name can still be followed. -/
theorem walk_relocate (followed : walk top here parts = .ok there)
    (avoids : room ++ [old] ∉ entered here parts)
    (folders : ∀ place, top.HasFolder place →
      later.HasFolder (relocate (room ++ [old]) (room ++ [new]) place)) :
    walk later (relocate (room ++ [old]) (room ++ [new]) here) parts =
      .ok (relocate (room ++ [old]) (room ++ [new]) there) := by
  induction parts generalizing here with
  | nil =>
      cases followed
      rfl
  | cons part rest ih =>
      obtain ⟨isFolder, short, onward⟩ := of_walk_cons followed
      have beside : (part ≠ ['.', '.'] → here ++ [part] ≠ room ++ [old]) ∧
          room ++ [old] ∉ entered (next here part) rest := by
        unfold next
        rw [entered] at avoids
        split at avoids
        · next up => exact ⟨fun down => absurd up down, by rwa [if_pos up]⟩
        · next down =>
            rw [List.mem_cons, not_or] at avoids
            rw [if_neg down]
            exact ⟨fun _ same => avoids.1 same.symm, avoids.2⟩
      rw [walk_cons (folders here isFolder) short, ← relocate_next beside.1]
      exact ih onward beside.2

/-- A way that goes into what has moved by its old name and on from there is lost. -/
theorem walk_lost (followed : walk top here parts = .ok there)
    (enters : room ++ [old] ∈ entered here parts)
    (folders : ∀ place, top.HasFolder place →
      later.HasFolder (relocate (room ++ [old]) (room ++ [new]) place))
    (gone : later.get? (room ++ [old]) = none) (last : Text) :
    walk later (relocate (room ++ [old]) (room ++ [new]) here) (parts ++ [last]) =
      .error .absent := by
  induction parts generalizing here with
  | nil => cases enters
  | cons part rest ih =>
      obtain ⟨isFolder, short, onward⟩ := of_walk_cons followed
      rw [List.cons_append, walk_cons (folders here isFolder) short]
      rw [entered] at enters
      split at enters
      · next up =>
          rw [← relocate_next fun down => absurd up down]
          refine ih onward ?_
          unfold next
          rwa [if_pos up]
      · next down =>
          by_cases same : here ++ [part] = room ++ [old]
          · have start : here = room := (List.append_inj' same rfl).1
            subst start
            rw [relocate_outside (Node.not_concat_inside here old), next, if_neg down, same]
            cases rest <;> simp only [List.nil_append, List.cons_append, walk, gone]
          · rw [← relocate_next fun _ => same]
            refine ih onward ?_
            unfold next
            rw [if_neg down]
            exact (List.mem_cons.mp enters).resolve_left fun equal => same equal.symm

end

/-- A way can still be followed after a change that left every folder in its place. -/
theorem walk_of_folders (followed : walk top here parts = .ok there)
    (folders : ∀ place, top.HasFolder place → later.HasFolder place) :
    walk later here parts = .ok there := by
  induction parts generalizing here with
  | nil => exact followed
  | cons part rest ih =>
      obtain ⟨isFolder, short, onward⟩ := of_walk_cons followed
      rw [walk_cons (folders here isFolder) short]
      exact ih onward

/-- A way of folders with short names can be followed. -/
theorem walk_of_way (folders : ∀ place ∈ way here parts, top.HasFolder place)
    (short : ∀ part ∈ parts, isTooLong part = false) :
    walk top here parts = .ok (endOf here parts) := by
  induction parts generalizing here with
  | nil => rfl
  | cons part rest ih =>
      rw [walk_cons (folders here List.mem_cons_self) (.inr (short part List.mem_cons_self))]
      exact ih (fun place member => folders place (List.mem_cons_of_mem _ member))
        fun part member => short part (List.mem_cons_of_mem _ member)

/-- Only a part that is too long makes a way too long. -/
theorem walk_ne_tooLong (short : ∀ part ∈ parts, isTooLong part = false) :
    walk top here parts ≠ .error .tooLong := by
  induction parts generalizing here with
  | nil => exact fun impossible => nomatch impossible
  | cons part rest ih =>
      have onward (place : List Text) : walk top place rest ≠ .error .tooLong :=
        ih fun part member => short part (List.mem_cons_of_mem _ member)
      rw [walk]
      split
      · exact fun impossible => nomatch impossible
      · exact fun impossible => nomatch impossible
      · split
        · exact onward _
        · rw [short part List.mem_cons_self, if_neg Bool.false_ne_true]
          exact onward _

/-! ## Children of a path -/

theorem locate_child {disk : Disk} {path : Path} {name : Text} (plain : IsPlain name) :
    disk.locate (path.child name) =
      (disk.locate path).bind fun room => walk disk.top room [name] := by
  rw [child_of_isPlain plain]
  exact walk_append ..

/-- A child is found in the folder of its path, unless its name is too long. -/
theorem locate_child_of_locate {disk : Disk} {path : Path} {name : Text} {room : List Text}
    (plain : IsPlain name) (found : disk.locate path = .ok room)
    (isFolder : disk.top.HasFolder room) :
    disk.locate (path.child name) =
      if isTooLong name then .error .tooLong else .ok (room ++ [name]) := by
  obtain ⟨entries, here⟩ := isFolder
  rw [locate_child plain, found]
  simp only [Except.bind, walk, here, if_neg plain.notUp]

/-- A child that is found is in a folder that its path leads to. -/
theorem of_locate_child {disk : Disk} {path : Path} {name : Text} {names : List Text}
    (plain : IsPlain name)
    (found : disk.locate (path.child name) = .ok names) :
    ∃ room, disk.locate path = .ok room ∧ disk.top.HasFolder room ∧ isTooLong name = false ∧
      names = room ++ [name] := by
  rw [locate_child plain] at found
  cases led : disk.locate path with
  | error cause =>
      rw [led] at found
      cases found
  | ok room =>
      rw [led] at found
      obtain ⟨isFolder, short, onward⟩ := of_walk_cons found
      rw [next, if_neg plain.notUp] at onward
      cases onward
      exact ⟨room, rfl, isFolder, short.resolve_left plain.notUp, rfl⟩

/-- Where a path leads nowhere, nothing is present. -/
theorem isPresent_of_lost {disk : Disk} {path : Path} (lost : disk.locate path = .error .absent) :
    disk.isPresent path = .ok false := by
  rw [isPresent, look, lost]
  rfl

end Disk

end ApiForge
