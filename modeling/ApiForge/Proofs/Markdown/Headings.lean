import ApiForge.Markdown.Layout
import ApiForge.Proofs.Text.Stretches
import Mathlib.Data.List.TakeWhile

/-!
# Headings of a text

The headings of a text and their link targets, as a reader of the text finds
them line by line. A heading is a line with one to six marks, a space and a
title. The lines from one that begins with a fence to the next one that does are
code, and code has no headings.
-/

namespace ApiForge

/-! ## Targets -/

namespace Naming

theorem ofNat_injective : Function.Injective Text.ofNat := by
  intro number other same
  have spelled := congrArg (Nat.ofDigitChars 10 · 0) same
  rwa [Text.ofNat, Text.ofNat, Nat.ofDigitChars_toDigits (by decide) (by decide),
    Nat.ofDigitChars_toDigits (by decide) (by decide)] at spelled

/-- Two targets of one heading are the same if as many headings before have its base. -/
theorem add_eq_iff {used other : Anchors} {heading : Text} :
    (Anchors.add used heading).1 = (Anchors.add other heading).1 ↔
      used.count (anchor heading) = other.count (anchor heading) := by
  have longer (base : Text) (count : Nat) : base ≠ base ++ "-" ++ Text.ofNat count := by
    intro same
    have lengths := congrArg List.length same
    simp at lengths
  unfold Anchors.add
  dsimp only
  constructor
  · intro same
    split at same
    · next none =>
        split at same
        · next noneOther => rw [none, noneOther]
        · exact absurd same (longer _ _)
    · split at same
      · exact absurd same.symm (longer _ _)
      · exact ofNat_injective (List.append_cancel_left same)
  · intro same
    rw [same]

end Naming

/-! ## Readings -/

namespace Markdown

/-- A line at which code begins or ends. -/
def isFence (line : Text) : Bool :=
  line.startsWith fence

/-- The title on a heading line. -/
def titleOf? (line : Text) : Option Text :=
  match line.dropWhile (· == '#') with
  | ' ' :: letter :: rest =>
      if line.head? = some '#' ∧ (line.takeWhile (· == '#')).length ≤ 6 then some (letter :: rest)
      else none
  | _ => none

/-- What is known after some lines: whether code has begun, and the bases of the headings, latest
first. -/
structure Reading where
  inCode : Bool
  used : Naming.Anchors

namespace Reading

variable (reading : Reading)

/-- Nothing has been read. -/
def start : Reading :=
  ⟨false, []⟩

/-- The title of the next line if it is a heading. -/
def title? (line : Text) : Option Text :=
  if reading.inCode || isFence line then none else titleOf? line

def after (line : Text) : Reading where
  inCode := reading.inCode != isFence line
  used := match reading.title? line with
    | some title => Naming.anchor title :: reading.used
    | none => reading.used

def afterAll (lines : List Text) : Reading :=
  lines.foldl after reading

/-- The link target of each line that is a heading. -/
def targets (reading : Reading) : List Text → List (Option Text)
  | [] => []
  | line :: rest =>
      (reading.title? line).map (fun title => (Naming.Anchors.add reading.used title).1) ::
        targets (reading.after line) rest

/-- What is known after a text. -/
def ofText (text : Text) : Reading :=
  start.afterAll text.splitLines

end Reading

/-- The link targets of the lines of a text. -/
def targetsIn (text : Text) : List (Option Text) :=
  Reading.start.targets text.splitLines

namespace Reading

variable {reading : Reading}

theorem targets_append (first second : List Text) :
    reading.targets (first ++ second) =
      reading.targets first ++ (reading.afterAll first).targets second := by
  induction first generalizing reading with
  | nil => rfl
  | cons line rest ih => rw [List.cons_append, targets, ih]; rfl

theorem length_targets (lines : List Text) : (reading.targets lines).length = lines.length := by
  induction lines generalizing reading with
  | nil => rfl
  | cons line rest ih => rw [targets, List.length_cons, ih, List.length_cons]

/-- The target of a line depends on what stands before it. -/
theorem getElem?_targets (before : List Text) (line : Text) (rest : List Text) :
    (reading.targets (before ++ line :: rest))[before.length]? =
      some (((reading.afterAll before).title? line).map fun title =>
        (Naming.Anchors.add (reading.afterAll before).used title).1) := by
  rw [targets_append, List.getElem?_append_right (by rw [length_targets]), length_targets,
    Nat.sub_self]
  rfl

/-- What was read before is kept. -/
theorem after_used (used : Naming.Anchors) (inCode : Bool) (line : Text) :
    after ⟨inCode, used⟩ line =
      ⟨(after ⟨inCode, []⟩ line).inCode, (after ⟨inCode, []⟩ line).used ++ used⟩ := by
  have same : title? ⟨inCode, used⟩ line = title? ⟨inCode, []⟩ line := rfl
  unfold after
  rw [same]
  cases title? ⟨inCode, []⟩ line <;> rfl

theorem afterAll_used (used : Naming.Anchors) (inCode : Bool) (lines : List Text) :
    afterAll ⟨inCode, used⟩ lines =
      ⟨(afterAll ⟨inCode, []⟩ lines).inCode, (afterAll ⟨inCode, []⟩ lines).used ++ used⟩ := by
  induction lines generalizing inCode used with
  | nil => rfl
  | cons line rest ih =>
      unfold afterAll at ih ⊢
      rw [List.foldl_cons, List.foldl_cons, after_used, ih, ih (after ⟨inCode, []⟩ line).used]
      simp

theorem ofText_ended_append (first second : List Text) :
    ofText (Text.ended (first ++ second)) =
      (ofText (Text.ended first)).afterAll (Text.ended second).splitLines := by
  unfold ofText afterAll
  rw [Text.splitLines_ended_append, List.foldl_append]

end Reading

/-! ## Heading lines -/

/-- A line with a title after the marks of a level. -/
def headingLine (level : Nat) (title : Text) : Text :=
  List.replicate level '#' ++ " " ++ title

theorem titleOf?_headingLine {level : Nat} {title : Text} (least : 1 ≤ level) (most : level ≤ 6)
    (filled : title ≠ []) : titleOf? (headingLine level title) = some title := by
  have marks : ∀ letter ∈ List.replicate level '#', (letter == '#') = true := by simp
  have taken : (headingLine level title).takeWhile (· == '#') = List.replicate level '#' := by
    rw [headingLine, List.append_assoc, List.takeWhile_append_of_pos marks]
    simp
  have dropped : (headingLine level title).dropWhile (· == '#') = ' ' :: title := by
    rw [headingLine, List.append_assoc, List.dropWhile_append_of_pos marks]
    simp
  have first : (headingLine level title).head? = some '#' := by
    obtain ⟨level, rfl⟩ := Nat.exists_eq_add_of_le' least
    rfl
  obtain ⟨letter, rest, rfl⟩ := List.exists_cons_of_ne_nil filled
  unfold titleOf?
  rw [dropped, taken, first]
  simpa using most

theorem isFence_headingLine {level : Nat} {title : Text} (least : 1 ≤ level) :
    isFence (headingLine level title) = false := by
  obtain ⟨level, rfl⟩ := Nat.exists_eq_add_of_le' least
  rfl

theorem isLine_headingLine (level : Nat) {title : Text} (line : title.IsLine) :
    (headingLine level title).IsLine := by
  intro letter member
  rw [headingLine, List.mem_append, List.mem_append] at member
  rcases member with (mark | blank) | inTitle
  · rw [List.eq_of_mem_replicate mark]
    decide
  · rw [List.mem_singleton.mp blank]
    decide
  · exact line letter inTitle

/-- Outside code a heading line has its title. -/
theorem title?_headingLine {reading : Reading} {level : Nat} {title : Text} (least : 1 ≤ level)
    (most : level ≤ 6) (filled : title ≠ []) :
    reading.title? (headingLine level title) = if reading.inCode then none else some title := by
  rw [Reading.title?, isFence_headingLine least, Bool.or_false,
    titleOf?_headingLine least most filled]

end Markdown

end ApiForge
