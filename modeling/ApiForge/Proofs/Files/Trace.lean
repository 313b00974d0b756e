import ApiForge.Proofs.Files.Way
import ApiForge.Proofs.Success

/-!
# Traces of changes

The changes of a run lead from the disk it started with to the disk it has, one
by one. What each of them is allowed to do is known at every state in between.
Making sure of a folder only makes folders on the way to it.
-/

namespace ApiForge

/-- The disk after changes made one by one. -/
def Disk.replay (disk : Disk) (changes : List Change) : Except FileFault Disk :=
  changes.foldlM Disk.apply disk

/-- Changes that lead from `start` to a disk, each allowed together with the disk it leads to. -/
inductive Trace (start : Disk) (allowed : Change → Disk → Prop) : List Change → Disk → Prop where
  | start : Trace start allowed [] start
  | step {changes : List Change} {disk after : Disk} {change : Change}
      (before : Trace start allowed changes disk) (made : disk.apply change = .ok after)
      (fine : allowed change after) : Trace start allowed (changes ++ [change]) after

namespace Trace

variable {start disk : Disk} {allowed : Change → Disk → Prop} {changes : List Change}

theorem mono {other : Change → Disk → Prop} (trace : Trace start allowed changes disk)
    (weaker : ∀ change disk, allowed change disk → other change disk) :
    Trace start other changes disk := by
  induction trace with
  | start => exact .start
  | step before made fine ih => exact .step ih made (weaker _ _ fine)

theorem replay (trace : Trace start allowed changes disk) : start.replay changes = .ok disk := by
  induction trace with
  | start => rfl
  | step before made fine ih =>
      unfold Disk.replay at ih ⊢
      rw [List.foldlM_append, ih]
      change (Disk.apply _ _ >>= pure) = _
      rw [made]
      rfl

/-- Every change of a trace was allowed with some disk. -/
theorem exists_allowed (trace : Trace start allowed changes disk) :
    ∀ change ∈ changes, ∃ after, allowed change after := by
  induction trace with
  | start => exact fun _ none => nomatch none
  | step before made fine ih =>
      intro change member
      rcases List.mem_append.mp member with old | new
      · exact ih change old
      · rw [List.mem_singleton.mp new]
        exact ⟨_, fine⟩

/-- Every state that a trace passes through is the first one or one that a change was allowed to
lead to. -/
theorem exists_passed (trace : Trace start allowed changes disk) {before : List Change}
    (early : before <+: changes) :
    ∃ passed, start.replay before = .ok passed ∧
      (passed = start ∨ ∃ change, allowed change passed) := by
  induction trace with
  | start =>
      rw [List.prefix_nil.mp early]
      exact ⟨start, rfl, .inl rfl⟩
  | step before made fine ih =>
      rcases List.prefix_concat_iff.mp early with same | shorter
      · rw [same]
        exact ⟨_, (before.step made fine).replay, .inr ⟨_, fine⟩⟩
      · exact ih shorter

end Trace

namespace Run

/-- The changes that were made, in order. -/
def changes (run : Run) : List Change :=
  run.made.map (·.2)

variable {trouble : Trouble} {change : Change} {run next : Run}

/-! ## Single attempts -/

/-- An attempt that succeeds makes its change. -/
theorem of_attempt (success : run.attempt trouble change = (next, none)) :
    run.disk.apply change = .ok next.disk ∧ next.changes = run.changes ++ [change] := by
  unfold attempt at success
  split at success
  · cases success
  · split at success
    · next disk made =>
        cases success
        exact ⟨made, List.map_append⟩
    · cases success

/-- An attempt that fails changes nothing. -/
theorem of_attempt_fault {fault : FileFault}
    (failure : run.attempt trouble change = (next, some fault)) :
    next.disk = run.disk ∧ next.changes = run.changes := by
  unfold attempt at failure
  split at failure
  · cases failure
    exact ⟨rfl, rfl⟩
  · split at failure
    · cases failure
    · cases failure
      exact ⟨rfl, rfl⟩

/-- A change that can be made and meets no trouble is made. -/
theorem attempt_of_apply {disk : Disk} (calm : trouble run.tried change = none)
    (made : run.disk.apply change = .ok disk) :
    ∃ next, run.attempt trouble change = (next, none) ∧ next.disk = disk := by
  unfold attempt
  rw [calm, made]
  exact ⟨_, rfl, rfl⟩

end Run

/-! ## Single changes -/

namespace Disk

variable {disk after : Disk} {path : Path}

theorem of_placeFor {names : List Text} (found : disk.placeFor path = .ok names) :
    path.parts.any (·.contains '\x00') = false ∧ disk.locate path = .ok names := by
  unfold placeFor at found
  split at found
  · cases found
  · next clean =>
      split at found
      · next located =>
          cases found
          exact ⟨eq_false_of_ne_true clean, located⟩
      · cases found

/-- A folder is made where nothing is. -/
theorem of_createFolder (made : disk.createFolder path = .ok after) :
    ∃ names, path.parts.any (·.contains '\x00') = false ∧ disk.locate path = .ok names ∧
      disk.top.get? names = none ∧ after = disk.putNode names (.folder []) := by
  obtain ⟨names, placed, made⟩ := Success.of_bind made
  obtain ⟨clean, located⟩ := of_placeFor placed
  split at made
  · cases made
  · next nothing =>
      cases made
      exact ⟨names, clean, located, nothing, rfl⟩

end Disk

namespace Run

variable {trouble : Trouble}

/-! ## Making sure of folders -/

/-- What every attempt at a folder on the way keeps, making sure of the last folder keeps. -/
theorem ensureParts_keeps {run : Run} (holds : Run → Prop) {anchor : Text} {parts : List Text}
    (keeps : ∀ run beginning, beginning <+: parts.reverse → holds run →
      holds (run.attempt trouble (.createFolder ⟨anchor, beginning⟩)).1)
    (atStart : holds run) : holds (ensureParts trouble anchor parts run).1 := by
  have settled : ∀ (path : Path) (run : Run) (fault : FileFault),
      (run.settle path fault).1 = run := by
    intro path run fault
    unfold settle
    split <;> rfl
  induction parts generalizing run with
  | nil =>
      have kept := keeps run [] (List.prefix_refl _) atStart
      unfold ensureParts
      dsimp only
      split
      · next attempted => rwa [attempted] at kept
      · next attempted =>
          rw [attempted] at kept
          rwa [settled]
  | cons last before ih =>
      have kept := keeps run _ (List.prefix_refl _) atStart
      have whole : before.reverse <+: (last :: before).reverse := by
        rw [List.reverse_cons]
        exact List.prefix_append _ _
      unfold ensureParts
      dsimp only
      split
      · next attempted => rwa [attempted] at kept
      · next middle fault attempted =>
          rw [attempted] at kept
          split
          · have parents := ih
              (fun run beginning early => keeps run beginning (early.trans whole)) kept
            split
            · next ensured => rwa [ensured] at parents
            · next ensured =>
                rw [ensured] at parents
                have again := keeps _ _ (List.prefix_refl _) parents
                split
                · next attempted => rwa [attempted] at again
                · next attempted =>
                    rw [attempted] at again
                    rwa [settled]
          · rwa [settled]

/-- Making sure of a folder leaves the current folder where it is and makes folders on the way only,
each of them in a state that still has everything else. -/
theorem ensureFolder_spec (trouble : Trouble) (path : Path) {run : Run} {start : Disk}
    {allowed : Change → Disk → Prop} (trace : Trace start allowed run.changes run.disk)
    (fine : ∀ beginning disk,
      Node.Keeps (Path.way (run.disk.base path) path.parts) run.disk.top [] disk.top [] →
        allowed (.createFolder ⟨path.anchor, beginning⟩) disk) :
    (run.ensureFolder trouble path).1.disk.place = run.disk.place ∧
      Node.Keeps (Path.way (run.disk.base path) path.parts) run.disk.top []
        (run.ensureFolder trouble path).1.disk.top [] ∧
      Trace start allowed (run.ensureFolder trouble path).1.changes
        (run.ensureFolder trouble path).1.disk := by
  refine ensureParts_keeps (fun later => later.disk.place = run.disk.place ∧
    Node.Keeps (Path.way (run.disk.base path) path.parts) run.disk.top [] later.disk.top [] ∧
    Trace start allowed later.changes later.disk) ?_ ⟨rfl, Node.Keeps.refl _ _ _, trace⟩
  rintro later beginning early ⟨place, kept, trace⟩
  rw [List.reverse_reverse] at early
  cases attempted : later.attempt trouble (.createFolder ⟨path.anchor, beginning⟩) with
  | mk next outcome =>
      cases outcome with
      | some fault =>
          obtain ⟨disk, changes⟩ := of_attempt_fault attempted
          rw [disk, changes]
          exact ⟨place, kept, trace⟩
      | none =>
          obtain ⟨made, changes⟩ := of_attempt attempted
          obtain ⟨names, _, located, nothing, after⟩ := Disk.of_createFolder made
          have among : names ∈ Path.way (run.disk.base path) path.parts := by
            have start : later.disk.base ⟨path.anchor, beginning⟩ = run.disk.base path := by
              unfold Disk.base
              rw [place]
              rfl
            obtain ⟨rest, whole⟩ := early
            rw [Disk.locate, start] at located
            rw [(Disk.way_of_walk located).1, ← whole]
            exact Path.endOf_mem_way rest
          have keptNext := kept.putFolder nothing among
          have top : next.disk.top = later.disk.top.put names (.folder []) := by
            rw [after]
            rfl
          rw [← top] at keptNext
          refine ⟨?_, keptNext, ?_⟩
          · rw [after]
            exact place
          · rw [changes]
            exact .step trace made (fine beginning _ keptNext)

end Run

end ApiForge
