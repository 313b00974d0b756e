import ApiForge.Proofs.Markdown.ContentsLinks

/-!
# Distinct targets

A heading's target is its base, with the number of headings before that have the
same base. A base and its number can be read off a numbered target, so only a
base that looks like a numbered one shares its target with another heading.
-/

namespace ApiForge

namespace Naming

/-! ## Numbered bases -/

/-- The target of a heading with this base after `before` others. -/
def numbered (base : Text) (before : Nat) : Text :=
  match before with
  | 0 => base
  | before => base ++ "-" ++ Text.ofNat before

theorem numbered_succ (base : Text) (before : Nat) :
    numbered base (before + 1) = base ++ '-' :: Text.ofNat (before + 1) :=
  List.append_assoc ..

theorem hyphen_not_mem_ofNat (number : Nat) : '-' ∉ Text.ofNat number := fun member => by
  have digit : Char.isDigit '-' = true :=
    Nat.isDigit_of_mem_toDigits (by decide) (by decide) member
  revert digit
  decide

/-- What stands after the last hyphen is the same in equal texts, and so is what stands before. -/
theorem eq_of_append_hyphen_eq {first second tail other : Text}
    (same : first ++ '-' :: tail = second ++ '-' :: other) (last : '-' ∉ tail)
    (otherLast : '-' ∉ other) : first = second ∧ tail = other := by
  have shorter {between tail other : Text} (cut : '-' :: tail = between ++ '-' :: other)
      (last : '-' ∉ tail) : between = [] ∧ tail = other := by
    cases between with
    | nil => exact ⟨rfl, (List.cons.inj cut).2⟩
    | cons letter rest =>
        refine absurd ?_ last
        rw [(List.cons.inj cut).2]
        exact List.mem_append_right _ List.mem_cons_self
  rcases List.append_eq_append_iff.mp same with ⟨between, rfl, cut⟩ | ⟨between, rfl, cut⟩
  · obtain ⟨rfl, rfl⟩ := shorter cut last
    exact ⟨(List.append_nil first).symm, rfl⟩
  · obtain ⟨rfl, rfl⟩ := shorter cut otherLast
    exact ⟨List.append_nil second, rfl⟩

/-- Two targets are the same if base and number are, or if one of them is a base that is spelled
like the other. -/
theorem numbered_eq_iff {first second : Text} {before others : Nat} :
    numbered first before = numbered second others ↔
      (first = second ∧ before = others) ∨
        (before = 0 ∧ 0 < others ∧ first = numbered second others) ∨
        (others = 0 ∧ 0 < before ∧ second = numbered first before) := by
  cases before with
  | zero =>
      cases others with
      | zero => simp [numbered]
      | succ others => simp [numbered]
  | succ before =>
      cases others with
      | zero => simp [numbered, eq_comm]
      | succ others =>
          rw [numbered_succ, numbered_succ]
          constructor
          · intro same
            obtain ⟨bases, numbers⟩ := eq_of_append_hyphen_eq same (hyphen_not_mem_ofNat _)
              (hyphen_not_mem_ofNat _)
            exact .inl ⟨bases, ofNat_injective numbers⟩
          · rintro (⟨rfl, same⟩ | ⟨zero, _⟩ | ⟨zero, _⟩)
            · rw [same]
            · cases zero
            · cases zero

/-! ## Targets of headings -/

/-- The bases in order, each with the number of those before that are the same. -/
def ranked (used : Anchors) : List Text → List (Text × Nat)
  | [] => []
  | base :: rest => (base, used.count base) :: ranked (base :: used) rest

theorem addAll_eq (used : Anchors) (headings : List Text) :
    (Anchors.addAll used headings).1 =
      (ranked used (headings.map anchor)).map fun place => numbered place.1 place.2 := by
  induction headings generalizing used with
  | nil => rfl
  | cons heading rest ih => exact congrArg (List.cons _) (ih _)

/-- A base has all numbers from that of its occurrences before up. -/
theorem mem_ranked {used : Anchors} {bases : List Text} {base : Text} {number : Nat} :
    (base, number) ∈ ranked used bases ↔
      used.count base ≤ number ∧ number < used.count base + bases.count base := by
  induction bases generalizing used with
  | nil => simp [ranked]
  | cons first rest ih =>
      rw [ranked, List.mem_cons, ih, List.count_cons, List.count_cons, Prod.mk.injEq]
      by_cases same : first = base
      · subst same
        simp only [beq_self_eq_true, if_true, true_and]
        omega
      · simp only [beq_iff_eq, same, if_false, ne_comm.mp same, false_and, false_or, Nat.add_zero]

theorem ranked_nodup (used : Anchors) (bases : List Text) : (ranked used bases).Nodup := by
  induction bases generalizing used with
  | nil => exact List.nodup_nil
  | cons base rest ih =>
      refine List.nodup_cons.mpr ⟨fun later => ?_, ih _⟩
      have least := (mem_ranked.mp later).1
      rw [List.count_cons_self] at least
      omega

/-- No base is spelled like a numbered target of another one. -/
def NumbersAreFree (bases : List Text) : Prop :=
  ∀ base number, 0 < number → number < bases.count base → numbered base number ∉ bases

theorem ranked_targets_nodup_iff {bases : List Text} :
    ((ranked [] bases).map fun place => numbered place.1 place.2).Nodup ↔
      NumbersAreFree bases := by
  have isRanked (base : Text) (number : Nat) :
      (base, number) ∈ ranked [] bases ↔ number < bases.count base := by
    rw [mem_ranked, List.count_nil, Nat.zero_add]
    exact and_iff_right (Nat.zero_le _)
  rw [List.nodup_map_iff_inj_on (ranked_nodup [] bases)]
  constructor
  · intro apart base number positive less taken
    have unnumbered := (isRanked _ 0).mpr (List.count_pos_iff.mpr taken)
    have same := apart _ unnumbered _ ((isRanked base number).mpr less) rfl
    exact absurd (congrArg Prod.snd same) (Nat.ne_of_lt positive)
  · rintro free ⟨first, before⟩ inFirst ⟨second, others⟩ inSecond same
    have firstLess := (isRanked _ _).mp inFirst
    have secondLess := (isRanked _ _).mp inSecond
    rcases numbered_eq_iff.mp same with ⟨rfl, rfl⟩ | ⟨rfl, positive, rfl⟩ | ⟨rfl, positive, rfl⟩
    · rfl
    · exact absurd (List.count_pos_iff.mp firstLess) (free _ _ positive secondLess)
    · exact absurd (List.count_pos_iff.mp secondLess) (free _ _ positive firstLess)

end Naming

namespace Markdown

/-! ## Targets of a page -/

/-- The heading of a block with its target, if the table of contents links to it. -/
def Block.heading? : Block → Option (Text × Option Text)
  | .heading _ title target => some (title, target)
  | .text _ => none

/-- The headings of a page in order. -/
def Page.headings (page : Page) : List (Text × Option Text) :=
  page.blocks.filterMap Block.heading?

/-- Links go to the targets of their own headings. -/
theorem IsNumbered.agrees {used after : Naming.Anchors} {blocks : List Block}
    (numbered : IsNumbered used blocks after) :
    List.Forall₂ (fun heading target => heading.2 = none ∨ heading.2 = some target)
      (blocks.filterMap Block.heading?)
      (Naming.Anchors.addAll used ((blocks.filterMap Block.heading?).map (·.1))).1 := by
  induction numbered with
  | nil => exact .nil
  | text _ ih => exact ih
  | heading _ _ _ ih => exact .cons (.inl rfl) ih
  | linked _ _ _ _ ih => exact .cons (.inr rfl) ih

/-- The targets of headings are pairwise distinct exactly if no heading has a base that is spelled
like a numbered target of another one. The links of a page with these headings go to the targets. -/
theorem targets_nodup_iff (headings : List Text) :
    ((Naming.Anchors.addAll [] headings).1.Nodup ↔
      Naming.NumbersAreFree (headings.map Naming.anchor)) ∧
      ∀ api clientName page, Page.ofApi api clientName = .ok page →
        page.headings.map (·.1) = headings →
        List.Forall₂ (fun heading target => heading.2 = none ∨ heading.2 = some target)
          page.headings (Naming.Anchors.addAll [] headings).1 := by
  constructor
  · rw [Naming.addAll_eq]
    exact Naming.ranked_targets_nodup_iff
  · rintro api clientName page made rfl
    obtain ⟨_, numbered⟩ := isNumbered_blocks made
    exact numbered.agrees

/-- The headings of this page have bases that differ, and its links go to them. -/
theorem targets_of_guidePage :
    ∃ page, Page.ofApi (guideApi "All about pets") "PetsClient" = .ok page ∧
      Naming.NumbersAreFree ((page.headings.map (·.1)).map Naming.anchor) ∧
      List.Forall₂ (fun heading target => heading.2 = none ∨ heading.2 = some target)
        page.headings (Naming.Anchors.addAll [] (page.headings.map (·.1))).1 := by
  have made : Page.ofApi (guideApi "All about pets") "PetsClient" =
    .ok (guidePage "All about pets") := by rfl
  have targets := targets_nodup_iff ((guidePage "All about pets").headings.map (·.1))
  exact ⟨_, made, targets.1.mp (by decide +kernel), targets.2 _ _ _ made rfl⟩

/-- An API with an operation at each of three paths. -/
def pathsApi (first second third : Text) : Api :=
  { guideApi "All about pets" with
    operations := [{ listPets with path := first },
      { listPets with identifier := "listAll", path := second },
      { listPets with identifier := "listFirst", path := third }] }

/-- The second heading with a base gets the number that the base of the third one ends in. -/
theorem not_nodup_of_paths :
    ¬ (Naming.Anchors.addAll [] ["GET \x60/pets\x60", "GET \x60/pets/\x60",
      "GET \x60/pets-1\x60"]).1.Nodup ∧
    ∃ page, Page.ofApi (pathsApi "/pets" "/pets/" "/pets-1") "PetsClient" = .ok page ∧
      ("GET \x60/pets/\x60".toList, some "get-pets-1".toList) ∈ page.headings ∧
      ("GET \x60/pets-1\x60".toList, some "get-pets-1".toList) ∈ page.headings := by
  refine ⟨by decide +kernel, _, rfl, by decide +kernel, by decide +kernel⟩

end Markdown

end ApiForge
