import ApiForge.Discovery.Search
import ApiForge.Proofs.Success
import Mathlib.Data.List.Basic

/-!
# The first success ends a search

The candidates of a search are the start URL and the conventional paths under its
origin. A search asks for them in order, once each, until one is accepted: all
candidates before it failed, and none after it is asked for. Only if all of them
fail is nothing found. The client may answer the same URL differently each time.
-/

namespace ApiForge.Discovery

/-- The start URL and the paths under its origin; without an origin there are no paths. -/
def candidates (paths : List Text) (start : Text) : List Text :=
  match Url.origin start with
  | .ok origin => start :: paths.map (origin ++ ·)
  | .error _ => [start]

/-- A validator that returns something returns a mapping. -/
def ReturnsMappings (validator : Validator) : Prop :=
  ∀ description document, validator description = .ok document → document.isMap = true

/-- The fetches of URLs one after the other, after those already asked for. -/
def fetchEach (client : Client) (asked : List Text) : List Text → List Fetched
  | [] => []
  | url :: rest => fetchAfter client asked url :: fetchEach client (asked ++ [url]) rest

section Attempts

variable (client : Client) (validator : Validator)

/-- What the validator makes of the description at a candidate that is asked for after others. -/
def judge (asked : List Text) (url : Text) : Except Abort Value :=
  (fetchAfter client asked url).result.bind validator

/-- The candidate of the attempt cannot be fetched or is refused, and the error of the attempt is
the first line of the failure. -/
def Fails (asked : List Text) (attempt : Attempt) : Prop :=
  ∃ failure line, judge client validator asked attempt.url = .error (.failed failure) ∧
    firstLine? failure = some line ∧ attempt.error = some line

/-- Each of the attempts fails when its turn comes. -/
def FailInTurn (asked : List Text) : List Attempt → Prop
  | [] => True
  | attempt :: rest =>
      Fails client validator asked attempt ∧ FailInTurn (asked ++ [attempt.url]) rest

end Attempts

variable {client : Client} {validator : Validator}

/-! ## One candidate -/

theorem ofResult_of_fails {asked : List Text} {attempt : Attempt}
    (fails : Fails client validator asked attempt) :
    Trial.ofResult (judge client validator asked attempt.url) = .passedOver attempt.error := by
  obtain ⟨failure, line, judged, first, error⟩ := fails
  rw [judged, Trial.ofResult, first, error]

theorem isNull_of_isMap {document : Value} (mapping : document.isMap = true) :
    document.isNull = false := by
  cases document with
  | map => rfl
  | _ => cases mapping

theorem ofResult_of_accepted {asked : List Text} {url : Text} {document : Value}
    (mapping : document.isMap = true) (judged : judge client validator asked url = .ok document) :
    Trial.ofResult (judge client validator asked url) = .accepted document := by
  rw [judged, Trial.ofResult, isNull_of_isMap mapping]
  rfl

theorem isMap_of_judge (mappings : ReturnsMappings validator) {asked : List Text} {url : Text}
    {document : Value} (judged : judge client validator asked url = .ok document) :
    document.isMap = true := by
  unfold judge at judged
  cases fetched : (fetchAfter client asked url).result with
  | error abort =>
      rw [fetched] at judged
      cases judged
  | ok description =>
      rw [fetched] at judged
      exact mappings description document judged

/-- A candidate that does not fail is accepted or breaks the search off. -/
theorem ofResult_of_not_fails (mappings : ReturnsMappings validator) {asked : List Text}
    {url : Text} (lasts : ∀ error, ¬ Fails client validator asked ⟨url, error⟩) :
    (∃ document, judge client validator asked url = .ok document ∧
      Trial.ofResult (judge client validator asked url) = .accepted document) ∨
      ∃ abort, Trial.ofResult (judge client validator asked url) = .brokenOff abort ∧
        ∀ failure, abort ≠ .failed failure := by
  cases judged : judge client validator asked url with
  | ok document =>
      have accepted := ofResult_of_accepted (isMap_of_judge mappings judged) judged
      rw [judged] at accepted
      exact .inl ⟨document, rfl, accepted⟩
  | error abort =>
      refine .inr ?_
      cases abort with
      | failed failure =>
          cases first : firstLine? failure with
          | some line => exact absurd ⟨failure, line, judged, first, rfl⟩ (lasts (some line))
          | none =>
              refine ⟨.unforeseen, ?_, by simp⟩
              rw [Trial.ofResult, first]
      | malformed faults => exact ⟨.malformed faults, rfl, by simp⟩
      | unforeseen => exact ⟨.unforeseen, rfl, by simp⟩

/-! ## Candidates in order -/

theorem fetchEach_append (asked first second : List Text) :
    fetchEach client asked (first ++ second) =
      fetchEach client asked first ++ fetchEach client (asked ++ first) second := by
  induction first generalizing asked with
  | nil => simp [fetchEach]
  | cons url rest ih => simp [fetchEach, ih]

/-- Attempts that fail in turn are made one after the other, and the search goes on behind them. -/
theorem tryAll_of_failInTurn (spent : List Attempt → Searched) {attempts failed : List Attempt}
    (inTurn : FailInTurn client validator (attempts.map (·.url)) failed) (rest : List Text) :
    tryAll client validator spent attempts (failed.map (·.url) ++ rest) =
      ⟨fetchEach client (attempts.map (·.url)) (failed.map (·.url)) ++
          (tryAll client validator spent (attempts ++ failed) rest).fetches,
        (tryAll client validator spent (attempts ++ failed) rest).result⟩ := by
  induction failed generalizing attempts with
  | nil => simp [fetchEach]
  | cons attempt others ih =>
      obtain ⟨fails, inTurn⟩ := inTurn
      have later : FailInTurn client validator ((attempts ++ [attempt]).map (·.url)) others := by
        rwa [List.map_append]
      have trial := ofResult_of_fails fails
      unfold judge at trial
      rw [List.map_cons, List.cons_append, tryAll]
      simp only [trial]
      rw [ih later, List.append_assoc, List.map_append]
      rfl

/-- Candidates are a stretch that fails in turn, and what is left of them does not begin with one
that fails. -/
theorem exists_failInTurn (client : Client) (validator : Validator) (asked urls : List Text) :
    ∃ failed rest, urls = failed.map (·.url) ++ rest ∧ FailInTurn client validator asked failed ∧
      ∀ url later, rest = url :: later →
        ∀ error, ¬ Fails client validator (asked ++ failed.map (·.url)) ⟨url, error⟩ := by
  induction urls generalizing asked with
  | nil => exact ⟨[], [], rfl, trivial, fun _ _ none => nomatch none⟩
  | cons url rest ih =>
      by_cases fails : ∃ error, Fails client validator asked ⟨url, error⟩
      · obtain ⟨error, fails⟩ := fails
        obtain ⟨failed, left, split, inTurn, lasts⟩ := ih (asked ++ [url])
        refine ⟨⟨url, error⟩ :: failed, left, ?_, ⟨fails, inTurn⟩, ?_⟩
        · rw [split]
          rfl
        · simpa using lasts
      · refine ⟨[], url :: rest, rfl, trivial, ?_⟩
        rintro _ _ ⟨⟩ error failsNow
        rw [List.map_nil, List.append_nil] at failsNow
        exact fails ⟨error, failsNow⟩

/-! ## The search -/

/-- How a search ends when all candidates failed. -/
def ending (start : Text) (attempts : List Attempt) : Searched :=
  match Url.origin start with
  | .error abort => ⟨[], .error abort⟩
  | .ok origin => ⟨[], .error (.failed (searchReport start origin attempts))⟩

/-- A search tries its candidates in order. -/
theorem search_eq_tryAll (client : Client) (validator : Validator) (paths : List Text)
    (start : Text) :
    search client validator paths start =
      tryAll client validator (ending start) [] (candidates paths start) := by
  unfold search candidates
  cases found : Url.origin start with
  | error abort =>
      have same : probe client validator paths start = ending start := by
        funext attempts
        rw [probe, ending, found]
      rw [same]
  | ok origin =>
      have same : ending start =
          fun attempts => ⟨[], .error (.failed (searchReport start origin attempts))⟩ := by
        funext attempts
        rw [ending, found]
      rw [same]
      simp only [tryAll, probe, found]

theorem search_of_failInTurn {paths : List Text} {start : Text} {failed : List Attempt}
    {rest : List Text} (split : candidates paths start = failed.map (·.url) ++ rest)
    (inTurn : FailInTurn client validator [] failed) :
    search client validator paths start =
      ⟨fetchEach client [] (failed.map (·.url)) ++
          (tryAll client validator (ending start) failed rest).fetches,
        (tryAll client validator (ending start) failed rest).result⟩ := by
  have fromNone : FailInTurn client validator (([] : List Attempt).map (·.url)) failed := inTurn
  rw [search_eq_tryAll, split]
  exact tryAll_of_failInTurn (ending start) fromNone rest

/-- A candidate that is accepted behind those that fail ends the search. -/
theorem search_of_accepted {paths : List Text} {start : Text} {failed : List Attempt}
    {url : Text} {later : List Text} {document : Value}
    (split : candidates paths start = failed.map (·.url) ++ url :: later)
    (inTurn : FailInTurn client validator [] failed)
    (accepted : Trial.ofResult (judge client validator (failed.map (·.url)) url) =
      .accepted document) :
    search client validator paths start =
      ⟨fetchEach client [] (failed.map (·.url) ++ [url]),
        locatedAt document url (failed ++ [⟨url, none⟩])⟩ := by
  unfold judge at accepted
  rw [search_of_failInTurn split inTurn, fetchEach_append]
  simp only [tryAll, accepted]
  rfl

theorem search_of_brokenOff {paths : List Text} {start : Text} {failed : List Attempt}
    {url : Text} {later : List Text} {abort : Abort}
    (split : candidates paths start = failed.map (·.url) ++ url :: later)
    (inTurn : FailInTurn client validator [] failed)
    (broken : Trial.ofResult (judge client validator (failed.map (·.url)) url) =
      .brokenOff abort) :
    (search client validator paths start).result = .error abort := by
  unfold judge at broken
  rw [search_of_failInTurn split inTurn]
  simp only [tryAll, broken]

theorem search_of_spent {paths : List Text} {start : Text} {failed : List Attempt}
    (split : candidates paths start = failed.map (·.url))
    (inTurn : FailInTurn client validator [] failed) :
    search client validator paths start =
      ⟨fetchEach client [] (candidates paths start), (ending start failed).result⟩ := by
  have whole : candidates paths start = failed.map (·.url) ++ [] := by rw [split, List.append_nil]
  have unasked : (ending start failed).fetches = [] := by
    unfold ending
    split <;> rfl
  rw [search_of_failInTurn whole inTurn, split, tryAll, unasked, List.append_nil]

theorem locatedAt_eq_ok_iff {document : Value} {url : Text} {attempts : List Attempt}
    {located : Located} :
    locatedAt document url attempts = .ok located ↔
      keyFaults document = [] ∧ located = ⟨document, url, attempts⟩ := by
  unfold locatedAt
  cases keyFaults document with
  | nil => simp [eq_comm]
  | cons fault others => simp

theorem not_failed_of_locatedAt {document : Value} {url : Text} {attempts : List Attempt}
    {failure : Failure} : locatedAt document url attempts ≠ .error (.failed failure) := by
  unfold locatedAt
  split <;> simp

/-- A URL lacks an origin only where its host cannot be read. -/
theorem unforeseen_of_origin {start : Text} {abort : Abort}
    (lacking : Url.origin start = .error abort) : abort = .unforeseen := by
  unfold Url.origin at lacking
  cases parsed : Url.parse start with
  | error fault => simp [parsed] at lacking
  | ok url =>
      simp only [parsed] at lacking
      split at lacking
      · cases lacking
      · cases shown : Url.shownHost? url.host with
        | none =>
            simp only [Url.hostName, shown, bind, Except.bind] at lacking
            exact (Except.error.inj lacking).symm
        | some host =>
            simp only [Url.hostName, shown, bind, Except.bind] at lacking
            split at lacking <;> cases lacking

theorem ending_eq_failed_iff {start : Text} {attempts : List Attempt} {failure : Failure} :
    (ending start attempts).result = .error (.failed failure) ↔
      ∃ origin, Url.origin start = .ok origin ∧ failure = searchReport start origin attempts := by
  unfold ending
  cases found : Url.origin start with
  | error abort =>
      have unforeseen : abort = .unforeseen := unforeseen_of_origin found
      simp [unforeseen]
  | ok origin => simp [eq_comm]

theorem ending_ne_ok {start : Text} {attempts : List Attempt} {located : Located} :
    (ending start attempts).result ≠ .ok located := by
  unfold ending
  split <;> simp

/-- A search comes to a candidate that the validator accepts, comes to an end of the candidates, or
is broken off. -/
theorem search_cases (client : Client) (mappings : ReturnsMappings validator) (paths : List Text)
    (start : Text) :
    (∃ failed url later document, candidates paths start = failed.map (·.url) ++ url :: later ∧
      FailInTurn client validator [] failed ∧
      judge client validator (failed.map (·.url)) url = .ok document ∧
      search client validator paths start =
        ⟨fetchEach client [] (failed.map (·.url) ++ [url]),
          locatedAt document url (failed ++ [⟨url, none⟩])⟩) ∨
      (∃ failed, candidates paths start = failed.map (·.url) ∧
        FailInTurn client validator [] failed ∧
        search client validator paths start =
          ⟨fetchEach client [] (candidates paths start), (ending start failed).result⟩) ∨
      ∃ failed url later abort, candidates paths start = failed.map (·.url) ++ url :: later ∧
        FailInTurn client validator [] failed ∧
        Trial.ofResult (judge client validator (failed.map (·.url)) url) = .brokenOff abort ∧
        (search client validator paths start).result = .error abort ∧
        ∀ failure, abort ≠ .failed failure := by
  obtain ⟨failed, rest, split, inTurn, lasts⟩ :=
    exists_failInTurn client validator [] (candidates paths start)
  cases rest with
  | nil =>
      rw [List.append_nil] at split
      exact .inr (.inl ⟨failed, split, inTurn, search_of_spent split inTurn⟩)
  | cons url later =>
      rcases ofResult_of_not_fails mappings (lasts url later rfl) with
        ⟨document, judged, accepted⟩ | ⟨abort, broken, apart⟩
      · exact .inl ⟨failed, url, later, document, split, inTurn, judged,
          search_of_accepted split inTurn accepted⟩
      · exact .inr (.inr ⟨failed, url, later, abort, split, inTurn, broken,
          search_of_brokenOff split inTurn broken, apart⟩)

/-- A search finds the first candidate that can be fetched and that the validator accepts. It asks
for the candidates up to this one, once each and in order, and lists them as its attempts, each but
the last with the first line of its failure. -/
theorem search_eq_ok_iff (client : Client) (mappings : ReturnsMappings validator)
    (paths : List Text) (start : Text) (located : Located) :
    (search client validator paths start).result = .ok located ↔
      ∃ failed later,
        candidates paths start = failed.map (·.url) ++ located.foundAt :: later ∧
        FailInTurn client validator [] failed ∧
        judge client validator (failed.map (·.url)) located.foundAt = .ok located.document ∧
        keyFaults located.document = [] ∧
        located.attempts = failed ++ [⟨located.foundAt, none⟩] := by
  constructor
  · intro success
    rcases search_cases client mappings paths start with
      ⟨failed, url, later, document, split, inTurn, judged, searched⟩ |
      ⟨failed, _, _, searched⟩ | ⟨_, _, _, abort, _, _, _, result, _⟩
    · rw [searched] at success
      obtain ⟨faultless, rfl⟩ := locatedAt_eq_ok_iff.mp success
      exact ⟨failed, later, split, inTurn, judged, faultless, rfl⟩
    · rw [searched] at success
      exact absurd success ending_ne_ok
    · rw [result] at success
      cases success
  · rintro ⟨failed, later, split, inTurn, judged, faultless, attempts⟩
    have accepted := ofResult_of_accepted (isMap_of_judge mappings judged) judged
    rw [search_of_accepted split inTurn accepted, ← attempts]
    exact locatedAt_eq_ok_iff.mpr ⟨faultless, rfl⟩

/-- Nothing is found exactly if every candidate failed. -/
theorem search_eq_failed_iff (client : Client) (mappings : ReturnsMappings validator)
    (paths : List Text) (start : Text) (failure : Failure) :
    (search client validator paths start).result = .error (.failed failure) ↔
      ∃ origin failed, Url.origin start = .ok origin ∧
        candidates paths start = failed.map (·.url) ∧ FailInTurn client validator [] failed ∧
        failure = searchReport start origin failed := by
  constructor
  · intro spent
    rcases search_cases client mappings paths start with
      ⟨_, _, _, _, _, _, _, searched⟩ | ⟨failed, split, inTurn, searched⟩ |
      ⟨_, _, _, abort, _, _, _, result, apart⟩
    · rw [searched] at spent
      exact absurd spent not_failed_of_locatedAt
    · rw [searched] at spent
      obtain ⟨origin, found, report⟩ := ending_eq_failed_iff.mp spent
      exact ⟨origin, failed, found, split, inTurn, report⟩
    · rw [result] at spent
      cases spent
      exact absurd rfl (apart failure)
  · rintro ⟨origin, failed, found, split, inTurn, report⟩
    rw [search_of_spent split inTurn]
    exact ending_eq_failed_iff.mpr ⟨origin, found, report⟩

/-- Each candidate up to the last one that was tried is asked for once, in order. -/
theorem fetches_of_search (client : Client) (mappings : ReturnsMappings validator)
    (paths : List Text) (start : Text) :
    (∀ located, (search client validator paths start).result = .ok located →
      (search client validator paths start).fetches =
        fetchEach client [] (located.attempts.map (·.url))) ∧
      ∀ failure, (search client validator paths start).result = .error (.failed failure) →
        (search client validator paths start).fetches =
          fetchEach client [] (candidates paths start) := by
  constructor
  · intro located success
    rcases search_cases client mappings paths start with
      ⟨failed, url, later, document, split, inTurn, judged, searched⟩ |
      ⟨failed, _, _, searched⟩ | ⟨_, _, _, abort, _, _, _, result, _⟩
    · rw [searched] at success ⊢
      obtain ⟨_, rfl⟩ := locatedAt_eq_ok_iff.mp success
      rw [List.map_append]
      rfl
    · rw [searched] at success
      exact absurd success ending_ne_ok
    · rw [result] at success
      cases success
  · intro failure spent
    obtain ⟨origin, failed, _, split, inTurn, _⟩ :=
      (search_eq_failed_iff client mappings paths start failure).mp spent
    rw [search_of_spent split inTurn]

/-- A search finds the first candidate that can be fetched and that the validator accepts. It asks
for the candidates up to this one, once each and in order, and lists them as its attempts, each but
the last with the first line of its failure. Nothing is found exactly if every candidate failed;
then all of them were asked for, and the report has each with the first line of its failure. -/
theorem search_isFirstSuccess (client : Client) (mappings : ReturnsMappings validator)
    (paths : List Text) (start : Text) :
    (∀ located, (search client validator paths start).result = .ok located ↔
      ∃ failed later,
        candidates paths start = failed.map (·.url) ++ located.foundAt :: later ∧
        FailInTurn client validator [] failed ∧
        judge client validator (failed.map (·.url)) located.foundAt = .ok located.document ∧
        keyFaults located.document = [] ∧
        located.attempts = failed ++ [⟨located.foundAt, none⟩]) ∧
      (∀ located, (search client validator paths start).result = .ok located →
        (search client validator paths start).fetches =
          fetchEach client [] (located.attempts.map (·.url))) ∧
      (∀ failure, (search client validator paths start).result = .error (.failed failure) ↔
        ∃ origin failed, Url.origin start = .ok origin ∧
          candidates paths start = failed.map (·.url) ∧ FailInTurn client validator [] failed ∧
          failure = .notFound ⟨start, origin, candidates paths start,
            failed.map (·.error.getD [])⟩) ∧
      ∀ failure, (search client validator paths start).result = .error (.failed failure) →
        (search client validator paths start).fetches =
          fetchEach client [] (candidates paths start) := by
  obtain ⟨found, spent⟩ := fetches_of_search client mappings paths start
  refine ⟨search_eq_ok_iff client mappings paths start, found, ?_, spent⟩
  intro failure
  rw [search_eq_failed_iff client mappings]
  constructor
  · rintro ⟨origin, failed, known, split, inTurn, report⟩
    rw [split]
    exact ⟨origin, failed, known, rfl, inTurn, report⟩
  · rintro ⟨origin, failed, known, split, inTurn, report⟩
    rw [split] at report
    exact ⟨origin, failed, known, split, inTurn, report⟩

/-- Accepts every mapping as it is. -/
def acceptMappings : Validator := fun description =>
  if description.isMap then .ok description else .error (.failed (.invalid "No mapping"))

theorem returnsMappings_acceptMappings : ReturnsMappings acceptMappings := by
  intro description document accepted
  unfold acceptMappings at accepted
  split at accepted
  · next mapping =>
      cases accepted
      exact mapping
  · cases accepted

/-- A page with a small description. -/
def smallPage : Page :=
  ⟨200, some "application/json", "\x7b\"openapi\": \"3.0.0\"\x7d".toList.map (·.toNat.toUInt8)⟩

/-- A client that cannot be reached the first time. -/
def wakingClient : Client where
  ask asked url := ⟨[url], if asked.isEmpty then .error "Connection refused" else .ok smallPage⟩

/-- The same URL fails at first and is found as the first path. -/
theorem search_isFirstSuccess_of_wakingClient :
    let url : Text := "https://a.org/openapi.json"
    let searched := search wakingClient acceptMappings ["/openapi.json", "/swagger.json"] url
    ReturnsMappings acceptMappings ∧ ∃ located, searched.result = .ok located ∧
      located.foundAt = url ∧
      located.attempts =
        [⟨url, some ("Could not fetch " ++ url ++ ": Connection refused")⟩, ⟨url, none⟩] ∧
      searched.fetches = fetchEach wakingClient [] [url, url] := by
  intro url searched
  have evaluated : (Url.origin url).toOption = some "https://a.org".toList ∧
      (judge wakingClient acceptMappings [url] url).toOption.map keyFaults = some [] := by
    decide +kernel
  obtain ⟨document, judged, faultless⟩ := Option.map_eq_some_iff.mp evaluated.2
  have origin := Success.of_toOption evaluated.1
  let unreached : Attempt := ⟨url, some ("Could not fetch " ++ url ++ ": Connection refused")⟩
  let located : Located := ⟨document, url, [unreached, ⟨url, none⟩]⟩
  have split : candidates ["/openapi.json", "/swagger.json"] url =
      [url, url, "https://a.org/swagger.json"] := by
    rw [candidates, origin]
    rfl
  have fails : Fails wakingClient acceptMappings [] unreached :=
    ⟨.unreachable url "Connection refused" none, _, rfl, by decide +kernel, rfl⟩
  obtain ⟨found, fetched, _⟩ := search_isFirstSuccess wakingClient returnsMappings_acceptMappings
    ["/openapi.json", "/swagger.json"] url
  have result : searched.result = .ok located :=
    (found located).mpr ⟨[unreached], ["https://a.org/swagger.json"], split, ⟨fails, trivial⟩,
      Success.of_toOption judged, faultless, rfl⟩
  exact ⟨returnsMappings_acceptMappings, located, result, rfl, rfl, fetched located result⟩

end ApiForge.Discovery
