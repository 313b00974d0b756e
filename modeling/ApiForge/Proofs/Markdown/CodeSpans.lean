import ApiForge.Proofs.Markdown.Bars

/-!
# Code spans

A code span opens with a run of backticks and closes at the first later run of
the same length; what stands between the two is its content, less one space at
both ends if both are there and something else is. A text made into code is one
span exactly if it is not empty, has no run as long as the two backticks put
around it, and has no spaces at both ends that the reader takes off.
-/

namespace ApiForge.Markdown

/-! ## Runs of backticks -/

/-- The text falls into what stands before a run of backticks, the run, and what stands after it; no
backtick goes on with the run. -/
structure IsCutAt (width : Nat) (text before after : Text) : Prop where
  filled : 0 < width
  parts : text = before ++ (List.replicate width '`' ++ after)
  start : before.getLast? ≠ some '`'
  stop : after.head? ≠ some '`'

/-- Some run of backticks in the text has this length. -/
def HasRun (width : Nat) (text : Text) : Prop :=
  ∃ before after, IsCutAt width text before after

section Runs

variable {width : Nat} {first second : Text} {letter : Char}

/-- Backticks alone are one run. -/
theorem hasRun_replicate_iff {count : Nat} (filled : 0 < width) :
    HasRun width (List.replicate count '`') ↔ count = width := by
  constructor
  · rintro ⟨before, after, _, parts, start, stop⟩
    have ticks letter (member : letter ∈ before ++ (List.replicate width '`' ++ after)) :
        letter = '`' := List.eq_of_mem_replicate (parts ▸ member)
    have noBefore : before = [] := by
      by_contra some
      have final := List.getLast?_eq_some_getLast some
      exact start (final.trans (congrArg _ (ticks _ (List.mem_append_left _ (List.getLast_mem some)))))
    have noAfter : after = [] := by
      cases after with
      | nil => rfl
      | cons head rest =>
          exact absurd (congrArg _ (ticks head (by simp))) stop
    have lengths := congrArg List.length parts
    simpa [noBefore, noAfter] using lengths
  · rintro rfl
    exact ⟨[], [], filled, (List.append_nil _).symm, nofun, nofun⟩

theorem mem_of_hasRun (run : HasRun width first) : '`' ∈ first := by
  obtain ⟨before, after, cut⟩ := run
  rw [cut.parts]
  exact List.mem_append_right _
    (List.mem_append_left _ (List.mem_replicate.mpr ⟨Nat.ne_of_gt cut.filled, rfl⟩))

/-- A run stays one where another letter comes after what follows it. -/
theorem IsCutAt.append {before after : Text} (cut : IsCutAt width first before after)
    (other : letter ≠ '`') (second : Text) :
    IsCutAt width (first ++ letter :: second) before (after ++ letter :: second) where
  filled := cut.filled
  parts := by rw [cut.parts, List.append_assoc, List.append_assoc]
  start := cut.start
  stop := by
    have stop := cut.stop
    cases after with
    | nil => simpa using other
    | cons head rest => simpa using stop

/-- A run stays one where another letter comes before what precedes it. -/
theorem IsCutAt.after {before after : Text} (cut : IsCutAt width second before after)
    (other : letter ≠ '`') (first : Text) :
    IsCutAt width (first ++ letter :: second) (first ++ letter :: before) after where
  filled := cut.filled
  parts := by rw [cut.parts, List.append_assoc, List.cons_append]
  start := by
    have start := cut.start
    cases before with
    | nil => simpa using other
    | cons head rest => simpa using start
  stop := cut.stop

/-- Another letter parts the runs before it from those after it. -/
theorem hasRun_append (other : letter ≠ '`') :
    HasRun width (first ++ letter :: second) ↔ HasRun width first ∨ HasRun width second := by
  have noTick : letter ∉ List.replicate width '`' := fun member =>
    other (List.eq_of_mem_replicate member)
  constructor
  · rintro ⟨before, after, filled, parts, start, stop⟩
    rcases List.append_eq_append_iff.mp parts with ⟨between, rfl, rest⟩ | ⟨between, rfl, rest⟩
    · cases between with
      | nil =>
          cases width with
          | zero => cases filled
          | succ width => exact absurd (List.cons.inj rest).1 other
      | cons head between =>
          obtain ⟨rfl, rfl⟩ := List.cons.inj rest
          refine .inr ⟨between, after, filled, rfl, fun final => start ?_, stop⟩
          rw [List.getLast?_append, List.getLast?_cons, final]
          rfl
    · rcases List.append_eq_append_iff.mp rest with ⟨tail, rfl, final⟩ | ⟨tail, ticks, final⟩
      · refine .inl ⟨before, tail, filled, rfl, start, fun first => stop ?_⟩
        rw [final, List.head?_append, first]
        rfl
      · cases tail with
        | nil =>
            rw [List.append_nil] at ticks
            refine .inl ⟨before, [], filled, ?_, start, nofun⟩
            rw [ticks, List.append_nil]
        | cons head tail =>
            obtain ⟨rfl, _⟩ := List.cons.inj final
            refine absurd ?_ noTick
            rw [ticks]
            exact List.mem_append_right _ List.mem_cons_self
  · rintro (⟨before, after, cut⟩ | ⟨before, after, cut⟩)
    · exact ⟨_, _, cut.append other second⟩
    · exact ⟨_, _, cut.after other first⟩

end Runs

/-! ## Reading a code span -/

/-- What stands before the first run of `width` backticks and what stands after it; `run` backticks
stand right before the text. -/
def closeFrom? (width run : Nat) : Text → Option (Text × Text)
  | [] => if run = width then some ([], []) else none
  | letter :: rest =>
      if letter = '`' then closeFrom? width (run + 1) rest
      else if run = width then some ([], letter :: rest)
      else (closeFrom? width 0 rest).map fun (before, after) =>
        (List.replicate run '`' ++ letter :: before, after)

/-- There is a space at both ends, and something else between them. -/
def IsPadded (text : Text) : Prop :=
  text.head? = some ' ' ∧ text.getLast? = some ' ' ∧ ∃ letter ∈ text, letter ≠ ' '

instance (text : Text) : Decidable (IsPadded text) :=
  inferInstanceAs (Decidable (_ ∧ _ ∧ _))

/-- The content that is read: every end of a line is a space, and padding is taken off. -/
def spanContent (inner : Text) : Text :=
  let line := (inner.replace "\r\n" "\n").map fun letter =>
    if letter = '\n' ∨ letter = '\r' then ' ' else letter
  if IsPadded line then line.tail.dropLast else line

/-- The content of the code span that the text begins with, and what follows the span. -/
def readSpan? (text : Text) : Option (Text × Text) :=
  match text.takeWhile (· == '`') with
  | [] => none
  | fence =>
      (closeFrom? fence.length 0 (text.dropWhile (· == '`'))).map fun (inner, rest) =>
        (spanContent inner, rest)

section Closing

variable {width run : Nat} {text inner rest : Text}

theorem replicate_append_cons (run : Nat) (text : Text) :
    List.replicate run '`' ++ '`' :: text = List.replicate (run + 1) '`' ++ text := by
  rw [List.replicate_succ', List.append_assoc]
  rfl

theorem closeFrom?_replicate (width run count : Nat) (rest : Text) :
    closeFrom? width run (List.replicate count '`' ++ rest) =
      closeFrom? width (run + count) rest := by
  induction count generalizing run with
  | zero => rfl
  | succ count ih =>
      rw [List.replicate_succ, List.cons_append, closeFrom?, if_pos rfl, ih]
      congr 1
      omega

/-- The span closes at a run of the right length that no such run comes before. -/
theorem closeFrom?_of_isCutAt (filled : 0 < width) (alone : inner = [] → run = 0)
    (start : inner.getLast? ≠ some '`') (stop : rest.head? ≠ some '`')
    (first : ¬ HasRun width (List.replicate run '`' ++ inner)) :
    closeFrom? width run (inner ++ (List.replicate width '`' ++ rest)) =
      some (List.replicate run '`' ++ inner, rest) := by
  induction inner generalizing run with
  | nil =>
      rw [alone rfl, List.nil_append, closeFrom?_replicate, Nat.zero_add]
      cases rest with
      | nil => exact if_pos rfl
      | cons letter rest =>
          have other : letter ≠ '`' := by simpa using stop
          rw [closeFrom?, if_neg other, if_pos rfl]
          rfl
  | cons letter inner ih =>
      have later : inner.getLast? ≠ some '`' := by
        cases inner with
        | nil => nofun
        | cons head tail => rwa [List.getLast?_cons_cons] at start
      rw [List.cons_append, closeFrom?]
      by_cases tick : letter = '`'
      · subst tick
        have goesOn : inner ≠ [] := by
          rintro rfl
          exact start rfl
        rw [replicate_append_cons] at first ⊢
        rw [if_pos rfl, ih (absurd · goesOn) later first]
      · have apart := not_or.mp (mt (hasRun_append tick).mpr first)
        have longer : run ≠ width := by
          rintro rfl
          exact apart.1 ((hasRun_replicate_iff filled).mpr rfl)
        rw [if_neg tick, if_neg longer, ih (fun _ => rfl) later apart.2]
        rfl

theorem isCutAt_of_closeFrom? (filled : 0 < width)
    (closed : closeFrom? width run text = some (inner, rest)) :
    IsCutAt width (List.replicate run '`' ++ text) inner rest ∧ ¬ HasRun width inner := by
  have empty : ¬ HasRun width [] := fun ran => nomatch mem_of_hasRun ran
  induction text generalizing run inner with
  | nil =>
      rw [closeFrom?] at closed
      split at closed
      · next same =>
          cases closed
          exact ⟨⟨filled, same ▸ rfl, nofun, nofun⟩, empty⟩
      · cases closed
  | cons letter text ih =>
      rw [closeFrom?] at closed
      split at closed
      · next tick =>
          rw [tick, replicate_append_cons]
          exact ih closed
      · next other =>
          split at closed
          · next same =>
              cases closed
              exact ⟨⟨filled, same ▸ rfl, nofun, by simpa using other⟩, empty⟩
          · next longer =>
              obtain ⟨⟨before, after⟩, found, same⟩ := Option.map_eq_some_iff.mp closed
              cases same
              obtain ⟨cut, first⟩ := ih found
              refine ⟨cut.after other _, fun ran => ?_⟩
              exact ((hasRun_append other).mp ran).elim
                (mt (hasRun_replicate_iff filled).mp longer) first

/-- Where no span closes, no run has the right length. -/
theorem not_hasRun_of_closeFrom? (filled : 0 < width) (unclosed : closeFrom? width run text = none) :
    ¬ HasRun width (List.replicate run '`' ++ text) := by
  induction text generalizing run with
  | nil =>
      rw [closeFrom?] at unclosed
      split at unclosed
      · cases unclosed
      · next longer =>
          rw [List.append_nil]
          exact mt (hasRun_replicate_iff filled).mp longer
  | cons letter text ih =>
      rw [closeFrom?] at unclosed
      split at unclosed
      · next tick =>
          rw [tick, replicate_append_cons]
          exact ih unclosed
      · next other =>
          split at unclosed
          · cases unclosed
          · next longer =>
              rw [hasRun_append other, not_or]
              exact ⟨mt (hasRun_replicate_iff filled).mp longer, ih (Option.map_eq_none_iff.mp unclosed)⟩

/-- The first run of a length is where a span of this length closes. -/
theorem exists_first_cut (run : HasRun width text) :
    ∃ before after, IsCutAt width text before after ∧ ¬ HasRun width before := by
  obtain ⟨_, _, cut⟩ := run
  cases closed : closeFrom? width 0 text with
  | none => exact absurd ⟨_, _, cut⟩ (not_hasRun_of_closeFrom? cut.filled closed)
  | some found => exact ⟨found.1, found.2, isCutAt_of_closeFrom? cut.filled closed⟩

/-- A span with a fence of this width ends at the first run as long as the fence. -/
theorem readSpan?_of_isCutAt (cut : IsCutAt width text inner rest) (first : ¬ HasRun width inner)
    (apart : text.head? ≠ some '`') :
    readSpan? (List.replicate width '`' ++ text) = some (spanContent inner, rest) := by
  have ticks : ∀ letter ∈ List.replicate width '`', (letter == '`') = true := fun letter member =>
    beq_iff_eq.mpr (List.eq_of_mem_replicate member)
  have others : ∀ letter ∈ text.head?, (letter == '`') = false := fun letter here =>
    beq_eq_false_iff_ne.mpr fun tick => apart (tick ▸ here)
  obtain ⟨taken, dropped⟩ := Text.takeWhile_append_of_stops ticks others
  have closed : closeFrom? width 0 text = some (inner, rest) := by
    rw [cut.parts]
    exact closeFrom?_of_isCutAt cut.filled (fun _ => rfl) cut.start cut.stop first
  obtain ⟨count, rfl⟩ := Nat.exists_eq_succ_of_ne_zero (Nat.ne_of_gt cut.filled)
  unfold readSpan?
  rw [taken, dropped, List.replicate_succ]
  dsimp only
  rw [← List.replicate_succ, List.length_replicate, closed]
  rfl

end Closing

/-! ## Texts made into code -/

/-- The text on one line, its bars escaped. -/
def codeContent (text : Text) : Text :=
  escapeBars (Text.join " " text.splitLines)

theorem isOneLine_codeContent (text : Text) : IsOneLine (codeContent text) := by
  have plain := isOneLine_of_isLine (Text.isNotLineBreak_join (Text.splitLines_isLineBreak text))
  exact ⟨mt (mem_escapeBars (by decide) _).mp plain.1, mt (mem_escapeBars (by decide) _).mp plain.2⟩

theorem codeSpan_of_mem {text : Text} (ticks : '`' ∈ codeContent text) :
    codeSpan text = "`` " ++ codeContent text ++ " ``" :=
  if_pos (List.contains_iff_mem.mpr ticks)

theorem codeSpan_of_not_mem {text : Text} (plain : '`' ∉ codeContent text) :
    codeSpan text = "`" ++ codeContent text ++ "`" :=
  if_neg (mt List.contains_iff_mem.mp plain)

theorem replace_pairs_of_not_mem {text : Text} (plain : '\r' ∉ text) :
    text.replace "\r\n" "\n" = text := by
  induction text with
  | nil => rfl
  | cons letter rest ih =>
      have other : letter ≠ '\r' := fun same => plain (same ▸ List.mem_cons_self)
      rw [Text.replace_pair_other fun _ same => absurd same other,
        ih (mt (List.mem_cons_of_mem letter) plain)]

theorem spanContent_of_isOneLine {inner : Text} (oneLine : IsOneLine inner) :
    spanContent inner = if IsPadded inner then inner.tail.dropLast else inner := by
  have same : (inner.map fun letter => if letter = '\n' ∨ letter = '\r' then ' ' else letter) =
      inner := by
    refine (List.map_congr_left fun letter member => if_neg ?_).trans (List.map_id _)
    rintro (rfl | rfl)
    · exact oneLine.1 member
    · exact oneLine.2 member
  unfold spanContent
  rw [replace_pairs_of_not_mem oneLine.2, same]

/-- Between two backticks a text without backticks is read as it is, less its padding. -/
theorem readSpan?_codeSpan_of_not_mem {text : Text} (plain : '`' ∉ codeContent text)
    (filled : codeContent text ≠ []) :
    readSpan? (codeSpan text) = some (spanContent (codeContent text), []) := by
  have cut : IsCutAt 1 (codeContent text ++ "`") (codeContent text) [] := {
    filled := Nat.one_pos
    parts := rfl
    start := fun final => plain (List.mem_of_getLast? final)
    stop := nofun }
  have apart : (codeContent text ++ "`".toList).head? ≠ some '`' := by
    rw [List.head?_append, Option.or_of_isSome (List.isSome_head?.mpr filled)]
    exact fun first => plain (List.mem_of_head? first)
  rw [codeSpan_of_not_mem plain]
  exact readSpan?_of_isCutAt cut (fun run => plain (mem_of_hasRun run)) apart

/-- A span between two pairs of backticks goes on to its end, if no pair is in it. -/
theorem readSpan?_codeSpan_of_mem {text : Text} (ticks : '`' ∈ codeContent text)
    (noPair : ¬ HasRun 2 (codeContent text)) :
    readSpan? (codeSpan text) = some (codeContent text, []) := by
  have other : ' ' ≠ '`' := by decide
  have final : (' ' :: (codeContent text ++ " ")).getLast? = some ' ' :=
    show ((' ' :: codeContent text) ++ [' ']).getLast? = _ from List.getLast?_concat
  have cut : IsCutAt 2 (' ' :: (codeContent text ++ " ``")) (' ' :: (codeContent text ++ " ")) [] := {
    filled := Nat.two_pos
    parts := by simp
    start := by rw [final]; decide
    stop := nofun }
  have first : ¬ HasRun 2 ([] ++ ' ' :: (codeContent text ++ ' ' :: [])) := by
    rw [hasRun_append other, hasRun_append other]
    have empty : ¬ HasRun 2 [] := fun ran => nomatch mem_of_hasRun ran
    exact fun ran => ran.elim empty fun ran => ran.elim noPair empty
  have oneLine : IsOneLine (' ' :: (codeContent text ++ " ")) := by
    rw [isOneLine_cons (by decide), isOneLine_append]
    exact ⟨isOneLine_codeContent text, by decide⟩
  have padded : IsPadded (' ' :: (codeContent text ++ " ")) :=
    ⟨rfl, final, '`', by simp [ticks], by decide⟩
  have content : spanContent (' ' :: (codeContent text ++ " ")) = codeContent text := by
    rw [spanContent_of_isOneLine oneLine, if_pos padded, List.tail_cons]
    exact List.dropLast_concat
  rw [codeSpan_of_mem ticks]
  exact (readSpan?_of_isCutAt cut first (by simp)).trans (by rw [content])

/-- A span between two pairs of backticks ends at the first pair that is in it. -/
theorem readSpan?_codeSpan_of_isCutAt {text before after : Text}
    (cut : IsCutAt 2 (codeContent text) before after) (first : ¬ HasRun 2 before) :
    readSpan? (codeSpan text) = some (spanContent (' ' :: before), after ++ " ``") := by
  have other : ' ' ≠ '`' := by decide
  have inSpan : IsCutAt 2 (' ' :: (codeContent text ++ " ``")) (' ' :: before) (after ++ " ``") :=
    (cut.append other "``").after other []
  have still : ¬ HasRun 2 ([] ++ ' ' :: before) := by
    rw [hasRun_append other]
    exact fun ran => ran.elim (fun ran => nomatch mem_of_hasRun ran) first
  rw [codeSpan_of_mem (mem_of_hasRun ⟨before, after, cut⟩)]
  exact readSpan?_of_isCutAt inSpan still (by simp)

/-- The number of backticks that the text begins with. -/
def fenceWidth (text : Text) : Nat :=
  (text.takeWhile (· == '`')).length

theorem fenceWidth_codeSpan {text : Text} (ticks : '`' ∈ codeContent text) :
    fenceWidth (codeSpan text) = 2 := by
  rw [codeSpan_of_mem ticks]
  rfl

theorem spanContent_eq_self_iff {inner : Text} (oneLine : IsOneLine inner) :
    spanContent inner = inner ↔ ¬ IsPadded inner := by
  rw [spanContent_of_isOneLine oneLine]
  split
  · next padded =>
      refine iff_of_false (fun same => ?_) (not_not_intro padded)
      have lengths := congrArg List.length same
      have filled := List.length_pos_of_mem padded.2.2.choose_spec.1
      rw [List.length_dropLast, List.length_tail] at lengths
      omega
  · next plain => exact iff_of_true rfl plain

/-- A text made into code is one code span, of the text on one line with its bars escaped, exactly
if that is not empty, has no run of two backticks, and, if it has no backtick at all, no padding. Of
its runs those of two are the ones as long as the fence, and the first of them ends the span. -/
theorem readSpan?_codeSpan_iff (text : Text) :
    (readSpan? (codeSpan text) = some (codeContent text, []) ↔
      codeContent text ≠ [] ∧ ¬ HasRun 2 (codeContent text) ∧
        ('`' ∈ codeContent text ∨ ¬ IsPadded (codeContent text))) ∧
      ((∀ width, HasRun width (codeContent text) → width ≠ fenceWidth (codeSpan text)) ↔
        ¬ HasRun 2 (codeContent text)) ∧
      ∀ before after, IsCutAt 2 (codeContent text) before after → ¬ HasRun 2 before →
        readSpan? (codeSpan text) = some (spanContent (' ' :: before), after ++ " ``") := by
  have content := spanContent_eq_self_iff (isOneLine_codeContent text)
  refine ⟨⟨fun read => ?_, ?_⟩, ⟨?_, ?_⟩, fun _ _ => readSpan?_codeSpan_of_isCutAt⟩
  · have filled : codeContent text ≠ [] := by
      intro empty
      have bare : codeSpan text = "``" := by
        rw [codeSpan_of_not_mem (empty ▸ nofun), empty]
        rfl
      rw [bare] at read
      exact nomatch read
    refine ⟨filled, fun run => ?_, or_iff_not_imp_left.mpr fun plain => ?_⟩
    · obtain ⟨before, after, cut, first⟩ := exists_first_cut run
      rw [readSpan?_codeSpan_of_isCutAt cut first] at read
      have rest := (Prod.mk.inj (Option.some.inj read)).2
      exact List.append_ne_nil_of_right_ne_nil after (by decide) rest
    · rw [readSpan?_codeSpan_of_not_mem plain filled] at read
      exact content.mp (Prod.mk.inj (Option.some.inj read)).1
  · rintro ⟨filled, noPair, plain⟩
    by_cases ticks : '`' ∈ codeContent text
    · exact readSpan?_codeSpan_of_mem ticks noPair
    · rw [readSpan?_codeSpan_of_not_mem ticks filled,
        content.mpr (plain.resolve_left ticks)]
  · intro apart run
    exact apart 2 run (fenceWidth_codeSpan (mem_of_hasRun run)).symm
  · rintro noPair width run rfl
    rw [fenceWidth_codeSpan (mem_of_hasRun run)] at run
    exact noPair run

/-- Two backticks in a text end its span early: what follows them is no code any more. -/
theorem not_readSpan?_codeSpan_of_pair :
    HasRun 2 (codeContent "a``b") ∧ fenceWidth (codeSpan "a``b") = 2 ∧
      readSpan? (codeSpan "a``b") = some (" a".toList, "b ``".toList) ∧
      readSpan? (codeSpan "a``b") ≠ some (codeContent "a``b", []) := by
  have run : HasRun 2 (codeContent "a``b") :=
    ⟨"a", "b", by decide, by decide, by decide, by decide⟩
  exact ⟨run, by decide, by decide, by decide⟩

end ApiForge.Markdown
