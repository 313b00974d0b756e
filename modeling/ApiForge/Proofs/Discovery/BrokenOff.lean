import ApiForge.Proofs.Discovery.FirstSuccess
import ApiForge.Proofs.Text.Stretches

/-!
# What breaks a search off

A candidate that is no description counts as a failed attempt, and the next one is
tried. Four kinds of candidates are not passed over in this way: a body that is no
text in its character set, a text that the readers of documents are not prepared
for, a description with keys that are no texts, and a refusal without a message. A
search ends well, with a description or with a report, exactly if it meets none of
them and the origin of the start URL is known where it is needed.
-/

namespace ApiForge.Discovery

/-- A validator that accepts with a mapping or refuses. -/
def OnlyRefuses (validator : Validator) : Prop :=
  ∀ description,
    (∃ document, validator description = .ok document ∧ document.isMap = true) ∨
      ∃ message, validator description = .error (.failed (.invalid message))

/-- The search found a description or reports that there is none. -/
def EndsWell (searched : Searched) : Prop :=
  (∃ located, searched.result = .ok located) ∨
    ∃ report, searched.result = .error (.failed (.notFound report))

/-- The answer is of the second hundred. -/
def Page.IsGood (page : Page) : Prop :=
  200 ≤ page.status ∧ page.status < 300

section Candidate

variable (client : Client) (validator : Validator) (asked : List Text) (url : Text)

/-- The body of a good answer is no text in its character set, or a text of a shape that the readers
of documents are not prepared for. -/
inductive IsIllegible : Prop
  | undecodable {page : Page} (answered : (client.ask asked url).result = .ok page)
      (good : page.IsGood) (undecoded : bodyText? page.contentType page.body = none) : IsIllegible
  | unprepared {page : Page} {text : Text} (answered : (client.ask asked url).result = .ok page)
      (good : page.IsGood) (decoded : bodyText? page.contentType page.body = some text)
      (unread : Document.parse (page.contentType.getD []) text = .error .unforeseen) : IsIllegible

/-- What a candidate breaks the search off with. -/
inductive BreaksOff : Prop
  | illegible (body : IsIllegible client asked url) : BreaksOff
  | otherKeys {document : Value} (judged : judge client validator asked url = .ok document)
      (faulty : keyFaults document ≠ []) : BreaksOff
  | silent (judged : judge client validator asked url = .error (.failed (.invalid []))) : BreaksOff

end Candidate

variable {client : Client} {validator : Validator}

theorem returnsMappings_of_onlyRefuses (refuses : OnlyRefuses validator) :
    ReturnsMappings validator := by
  intro description document accepted
  rcases refuses description with ⟨other, same, mapping⟩ | ⟨message, refused⟩
  · rw [same] at accepted
    cases accepted
    exact mapping
  · rw [refused] at accepted
    cases accepted

/-! ## First lines -/

theorem firstLine?_eq_none_iff {failure : Failure} :
    firstLine? failure = none ↔ failure.message = [] := by
  unfold firstLine?
  rw [List.head?_eq_none_iff, Text.splitLines_eq_nil_iff]

/-! ## Fetching a candidate -/

theorem message_unreadable_ne_nil (json : Option Json.Fault) (yaml : Yaml.Fault) :
    (DocumentFault.unreadable json yaml).message ≠ [] := by
  unfold DocumentFault.message
  iterate 3 apply List.append_ne_nil_of_left_ne_nil
  decide

theorem message_notAnObject_ne_nil (kind : Text) :
    (DocumentFault.notAnObject kind).message ≠ [] := by
  unfold DocumentFault.message
  iterate 2 apply List.append_ne_nil_of_left_ne_nil
  decide

theorem message_unreachable_ne_nil (url reason : Text) (status : Option Nat) :
    (Failure.unreachable url reason status).message ≠ [] := by
  unfold Failure.message
  iterate 3 apply List.append_ne_nil_of_left_ne_nil
  decide

theorem parseYaml_cases (json : Option Json.Fault) (text : Text) :
    (∃ value, Document.parseYaml json text = .ok value) ∨
      (∃ cause, Document.parseYaml json text = .error (.failed (.unusable cause)) ∧
        cause.message ≠ []) ∨
      Document.parseYaml json text = .error .unforeseen := by
  unfold Document.parseYaml
  split
  · exact .inl ⟨_, rfl⟩
  · exact .inr (.inl ⟨_, rfl, message_unreadable_ne_nil _ _⟩)
  · exact .inr (.inr rfl)

/-- A text is a document, is refused with a message, or is of a shape that nothing is prepared
for. -/
theorem parse_cases (contentType text : Text) :
    (∃ value, Document.parse contentType text = .ok value) ∨
      (∃ cause, Document.parse contentType text = .error (.failed (.unusable cause)) ∧
        cause.message ≠ []) ∨
      Document.parse contentType text = .error .unforeseen := by
  unfold Document.parse
  split
  · exact .inr (.inl ⟨_, rfl, by decide⟩)
  · split
    · split
      · exact .inl ⟨_, rfl⟩
      · split
        · exact .inr (.inr rfl)
        · exact parseYaml_cases _ text
    · exact parseYaml_cases none text

theorem version_eq_error {value : Value} {fault : DocumentFault}
    (unmarked : Document.version value = .error fault) : fault.message ≠ [] := by
  unfold Document.version at unmarked
  split at unmarked
  · split at unmarked
    · cases unmarked
    · split at unmarked
      · cases unmarked
      · cases unmarked
        decide
  · cases unmarked
    exact message_notAnObject_ne_nil _

/-- A candidate gives a description, a failure with a message, or a body that cannot be read. -/
theorem fetchAfter_cases (client : Client) (asked : List Text) (url : Text) :
    (∃ description, (fetchAfter client asked url).result = .ok description) ∨
      (∃ failure, (fetchAfter client asked url).result = .error (.failed failure) ∧
        failure.message ≠ []) ∨
      ((fetchAfter client asked url).result = .error .unforeseen ∧
        IsIllegible client asked url) := by
  cases answered : (client.ask asked url).result with
  | error trouble =>
      simp only [fetchAfter, answered]
      exact .inr (.inl ⟨_, rfl, message_unreachable_ne_nil _ _ _⟩)
  | ok page =>
      simp only [fetchAfter, answered, pageDescription]
      split
      · next good =>
          split
          · next text decoded =>
              unfold Document.parseDescription
              rcases parse_cases (page.contentType.getD []) text with
                ⟨value, parsed⟩ | ⟨cause, parsed, told⟩ | parsed
              · rw [parsed]
                dsimp only [bind, Except.bind]
                cases marked : Document.version value with
                | ok version => exact .inl ⟨value, rfl⟩
                | error fault => exact .inr (.inl ⟨_, rfl, version_eq_error marked⟩)
              · rw [parsed]
                exact .inr (.inl ⟨_, rfl, told⟩)
              · rw [parsed]
                exact .inr (.inr ⟨rfl, .unprepared answered good decoded parsed⟩)
          · next undecoded => exact .inr (.inr ⟨rfl, .undecodable answered good undecoded⟩)
      · exact .inr (.inl ⟨_, rfl, message_unreachable_ne_nil _ _ _⟩)

theorem result_of_isIllegible {asked : List Text} {url : Text}
    (illegible : IsIllegible client asked url) :
    (fetchAfter client asked url).result = .error .unforeseen := by
  cases illegible with
  | undecodable answered good undecoded =>
      simp only [fetchAfter, answered, pageDescription, undecoded]
      exact if_pos good
  | unprepared answered good decoded unread =>
      simp only [fetchAfter, answered, pageDescription, decoded, Document.parseDescription, unread]
      exact if_pos good

/-! ## Judging a candidate -/

/-- A candidate fails, gives a description, or breaks the search off. -/
theorem judge_cases (client : Client) (refuses : OnlyRefuses validator) (asked : List Text)
    (url : Text) :
    (∃ error, Fails client validator asked ⟨url, error⟩) ∨
      (∃ document, judge client validator asked url = .ok document ∧ keyFaults document = []) ∨
      BreaksOff client validator asked url := by
  have failing {failure : Failure} (told : failure.message ≠ [])
      (judged : judge client validator asked url = .error (.failed failure)) :
      ∃ error, Fails client validator asked ⟨url, error⟩ := by
    cases first : firstLine? failure with
    | none => exact absurd (firstLine?_eq_none_iff.mp first) told
    | some line => exact ⟨some line, failure, line, judged, first, rfl⟩
  rcases fetchAfter_cases client asked url with
    ⟨description, fetched⟩ | ⟨failure, fetched, told⟩ | ⟨_, illegible⟩
  · have judged : judge client validator asked url = validator description := by
      rw [judge, fetched]
      rfl
    rcases refuses description with ⟨document, accepted, _⟩ | ⟨message, refused⟩
    · rw [accepted] at judged
      by_cases faultless : keyFaults document = []
      · exact .inr (.inl ⟨document, judged, faultless⟩)
      · exact .inr (.inr (.otherKeys judged faultless))
    · rw [refused] at judged
      by_cases silent : message = []
      · rw [silent] at judged
        exact .inr (.inr (.silent judged))
      · exact .inl (failing (show (Failure.invalid message).message ≠ [] from silent) judged)
  · refine .inl (failing told ?_)
    rw [judge, fetched]
    rfl
  · exact .inr (.inr (.illegible illegible))

/-- A search that comes to a candidate that breaks it off does not end well. -/
theorem not_endsWell_of_breaksOff (refuses : OnlyRefuses validator) {paths : List Text}
    {start : Text} {failed : List Attempt} {url : Text} {later : List Text}
    (split : candidates paths start = failed.map (·.url) ++ url :: later)
    (inTurn : FailInTurn client validator [] failed)
    (breaks : BreaksOff client validator (failed.map (·.url)) url) :
    ¬ EndsWell (search client validator paths start) := by
  have mappings := returnsMappings_of_onlyRefuses refuses
  have stopped (broken : Trial.ofResult (judge client validator (failed.map (·.url)) url) =
      .brokenOff .unforeseen) : ¬ EndsWell (search client validator paths start) := by
    rintro (⟨located, found⟩ | ⟨report, spent⟩)
    · rw [search_of_brokenOff split inTurn broken] at found
      cases found
    · rw [search_of_brokenOff split inTurn broken] at spent
      cases spent
  cases breaks with
  | illegible body =>
      refine stopped ?_
      rw [judge, result_of_isIllegible body]
      rfl
  | silent judged =>
      refine stopped ?_
      rw [judged]
      rfl
  | otherKeys judged faulty =>
      have accepted := ofResult_of_accepted (isMap_of_judge mappings judged) judged
      rintro (⟨located, found⟩ | ⟨report, spent⟩)
      · rw [search_of_accepted split inTurn accepted] at found
        exact faulty (locatedAt_eq_ok_iff.mp found).1
      · rw [search_of_accepted split inTurn accepted] at spent
        exact not_failed_of_locatedAt spent

theorem candidates_eq_cons (paths : List Text) (start : Text) :
    ∃ rest, candidates paths start = start :: rest := by
  unfold candidates
  split <;> exact ⟨_, rfl⟩

/-- A search that comes to the end of its candidates ends well if the origin is known. -/
theorem endsWell_iff_of_spent {paths : List Text} {start : Text} {failed : List Attempt}
    (split : candidates paths start = failed.map (·.url))
    (inTurn : FailInTurn client validator [] failed) :
    EndsWell (search client validator paths start) ↔
      ∃ origin, Url.origin start = .ok origin := by
  unfold EndsWell
  rw [search_of_spent split inTurn]
  constructor
  · rintro (⟨located, found⟩ | ⟨report, spent⟩)
    · exact absurd found ending_ne_ok
    · obtain ⟨origin, known, _⟩ := ending_eq_failed_iff.mp spent
      exact ⟨origin, known⟩
  · rintro ⟨origin, known⟩
    exact .inr ⟨⟨start, origin, failed.map (·.url), failed.map (·.error.getD [])⟩,
      ending_eq_failed_iff.mpr ⟨origin, known, rfl⟩⟩

/-! ## Searches that end well -/

theorem onlyRefuses_acceptMappings : OnlyRefuses acceptMappings := by
  intro description
  unfold acceptMappings
  split
  · next mapping => exact .inl ⟨description, rfl, mapping⟩
  · exact .inr ⟨_, rfl⟩

/-- One URL answers in sixteen-bit units that do not tell their order, all others with a small
description. -/
def unmarkedWeb : Web := fun url =>
  if url = "https://a.org/docs".toList then
    .answered 200 (some "application/json; charset=utf-16") none [0x7b, 0x7d]
  else .answered 200 smallPage.contentType none smallPage.body

end ApiForge.Discovery
