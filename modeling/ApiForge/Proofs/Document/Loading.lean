import ApiForge.Proofs.Command.CrashLog
import ApiForge.Proofs.Import.AcceptedMarkers
import ApiForge.Proofs.Yaml.Unprepared
import ApiForge.Settings.Precedence

/-!
# Loading files

A local source and the file of the project may hold any bytes. A source is loaded
as a description with an accepted marker, or a failure tells that the file is not
there or that its text is no description; the file of the project gives settings or
a failure of the settings. What escapes these ends are names that are too long to
ask for, bytes that are no UTF-8, numerals of JSON with too many digits, and YAML
that nothing is prepared for. Only an escape ends a run in a crash.
-/

namespace ApiForge.Document

/-! ## Texts -/

section Text

variable (contentType text : Text)

/-- The text is not read as JSON: it is not tried, or it is none, for a reason that is foreseen. -/
inductive PassesJson : Option Json.Fault → Prop
  | untried (skipped : triesJson contentType text = false) : PassesJson none
  | refused {fault : Json.Fault} (tried : triesJson contentType text = true)
      (read : Json.read text = .error fault) (short : fault.cause ≠ .numeralTooLong) :
      PassesJson (some fault)

/-- The text is a document with this value. -/
inductive HasValue (value : Value) : Prop
  | json (tried : triesJson contentType text = true) (read : Json.read text = .ok value) :
      HasValue value
  | yaml {json : Option Json.Fault} (passed : PassesJson contentType text json)
      (read : Yaml.read text = .ok value) : HasValue value

/-- What is wrong with a text that is no description: it is blank, it is neither JSON nor YAML, or
its value carries no accepted marker. -/
inductive IsRefused : DocumentFault → Prop
  | empty (blank : text.isAllBlank = true) : IsRefused .empty
  | unreadable {json : Option Json.Fault} {yaml : Yaml.Fault} (filled : text.isAllBlank = false)
      (passed : PassesJson contentType text json)
      (read : Yaml.read text = .error (.fault yaml)) : IsRefused (.unreadable json yaml)
  | unmarked {value : Value} {cause : DocumentFault} (filled : text.isAllBlank = false)
      (held : HasValue contentType text value) (unmarked : version value = .error cause) :
      IsRefused cause

/-- The readers of documents are not prepared for the text: a numeral of JSON has too many digits,
or its YAML has content of such a kind. -/
inductive Escapes : Prop
  | numeral {fault : Json.Fault} (filled : text.isAllBlank = false)
      (tried : triesJson contentType text = true) (read : Json.read text = .error fault)
      (long : fault.cause = .numeralTooLong) : Escapes
  | yaml {json : Option Json.Fault} (filled : text.isAllBlank = false)
      (passed : PassesJson contentType text json)
      (read : Yaml.read text = .error .unforeseen) : Escapes

/-- How the reading of a description ends. -/
inductive EndsIn : Except Abort Value → Prop
  | description {value : Value} {marker : Text} (filled : text.isAllBlank = false)
      (held : HasValue contentType text value) (marked : version value = .ok marker) :
      EndsIn (.ok value)
  | refused {cause : DocumentFault} (refused : IsRefused contentType text cause) :
      EndsIn (.error (.failed (.unusable cause)))
  | escaped (escapes : Escapes contentType text) : EndsIn (.error .unforeseen)

end Text

variable {contentType text : Text}

/-- A value ends the reading well if it carries a marker. -/
theorem endsIn_of_parse {value : Value} (filled : text.isAllBlank = false)
    (held : HasValue contentType text value) (parsed : parse contentType text = .ok value) :
    EndsIn contentType text (parseDescription contentType text) := by
  unfold parseDescription
  rw [parsed]
  dsimp only [bind, Except.bind]
  cases marked : version value with
  | ok marker => exact .description filled held marked
  | error cause => exact .refused (.unmarked filled held marked)

theorem parse_of_passesJson {json : Option Json.Fault} (filled : text.isAllBlank = false)
    (passed : PassesJson contentType text json) :
    parse contentType text = parseYaml json text := by
  unfold parse
  rw [if_neg (Bool.eq_false_iff.mp filled)]
  cases passed with
  | untried skipped => rw [if_neg (Bool.eq_false_iff.mp skipped)]
  | refused tried read short =>
      rw [if_pos tried, read]
      exact if_neg short

theorem endsIn_of_passesJson {json : Option Json.Fault} (filled : text.isAllBlank = false)
    (passed : PassesJson contentType text json) :
    EndsIn contentType text (parseDescription contentType text) := by
  have parsed := parse_of_passesJson filled passed
  unfold parseYaml at parsed
  split at parsed
  · next value read => exact endsIn_of_parse filled (.yaml passed read) parsed
  · next fault read =>
      rw [parseDescription, parsed]
      exact .refused (.unreadable filled passed read)
  · next read =>
      rw [parseDescription, parsed]
      exact .escaped (.yaml filled passed read)

theorem parseDescription_of_escapes (escapes : Escapes contentType text) :
    parseDescription contentType text = .error .unforeseen := by
  have parsed : parse contentType text = .error .unforeseen := by
    cases escapes with
    | numeral filled tried read long =>
        unfold parse
        rw [if_neg (Bool.eq_false_iff.mp filled), if_pos tried, read]
        exact if_pos long
    | yaml filled passed read =>
        rw [parse_of_passesJson filled passed, parseYaml, read]
  rw [parseDescription, parsed]
  rfl

/-- Every text is read to one of the ends. -/
theorem endsIn_parseDescription (contentType text : Text) :
    EndsIn contentType text (parseDescription contentType text) := by
  cases filled : text.isAllBlank with
  | true =>
      rw [parseDescription, parse, if_pos filled]
      exact .refused (.empty filled)
  | false =>
      cases tried : triesJson contentType text with
      | false => exact endsIn_of_passesJson filled (.untried tried)
      | true =>
          cases read : Json.read text with
          | ok value =>
              refine endsIn_of_parse filled (.json tried read) ?_
              rw [parse, if_neg (Bool.eq_false_iff.mp filled), if_pos tried, read]
          | error fault =>
              by_cases long : fault.cause = .numeralTooLong
              · have escapes : Escapes contentType text := .numeral filled tried read long
                rw [parseDescription_of_escapes escapes]
                exact .escaped escapes
              · exact endsIn_of_passesJson filled (.refused tried read long)

/-- Only a mapping carries a marker. -/
theorem exists_entries_of_version {value : Value} {marker : Text}
    (marked : version value = .ok marker) :
    ∃ entries, value = .map entries ∧ ∃ dialect, IsAcceptedFrom entries dialect marker := by
  cases value with
  | map entries => exact ⟨entries, rfl, version_eq_ok_iff.mp marked⟩
  | _ => cases marked

end ApiForge.Document

namespace ApiForge.Disk

/-! ## Files -/

section File

variable (disk : Disk) (path : Path)

/-- A file at the path holds the text. -/
inductive Holds (text : Text) : Prop
  | file {bytes : List UInt8} {decoded : Text}
      (found : disk.look path = .ok (some (.file bytes)))
      (encoded : Utf8.decodeStrict? bytes = some decoded) (text_eq : unifyLineEnds decoded = text) :
      Holds text

/-- What is at the path cannot be read: a name on the way is too long to ask for, or the bytes of
the file are no UTF-8. -/
inductive CannotRead : Prop
  | name (long : disk.locate path = .error .tooLong) : CannotRead
  | bytes {bytes : List UInt8} (found : disk.look path = .ok (some (.file bytes)))
      (undecoded : Utf8.decodeStrict? bytes = none) : CannotRead

end File

variable {disk : Disk} {path : Path}

theorem readText?_of_holds {text : Text} (holds : disk.Holds path text) :
    disk.readText? path = .ok (some text) := by
  obtain ⟨found, encoded, rfl⟩ := holds
  unfold readText? textOf
  rw [found]
  dsimp only [bind, Except.bind]
  rw [encoded]
  rfl

theorem readText?_of_cannotRead (cannot : disk.CannotRead path) :
    disk.readText? path = .error .unforeseen := by
  unfold readText?
  cases cannot with
  | name long =>
      rw [look, long]
      rfl
  | bytes found undecoded =>
      rw [found]
      dsimp only [bind, Except.bind]
      rw [textOf, undecoded]
      rfl

/-- A path leads to a file with a text, to what cannot be read, or to no file. -/
theorem readText?_cases (disk : Disk) (path : Path) :
    (∃ text, disk.Holds path text) ∨ disk.CannotRead path ∨
      disk.isFile path = .ok false ∧ disk.readText? path = .ok none := by
  cases found : disk.look path with
  | error abort =>
      refine .inr (.inl (.name ?_))
      unfold look at found
      split at found
      · cases found
      · assumption
      · cases found
  | ok node =>
      have isFile : disk.isFile path = .ok ((node.map (·.isFile)).getD false) := by
        rw [Disk.isFile, found]
        rfl
      have absent (isNone : disk.readText? path = .ok none)
          (isNoFile : disk.isFile path = .ok false) :
          (∃ text, disk.Holds path text) ∨ disk.CannotRead path ∨
            disk.isFile path = .ok false ∧ disk.readText? path = .ok none :=
        .inr (.inr ⟨isNoFile, isNone⟩)
      rcases node with _ | (bytes | entries)
      · exact absent (by rw [readText?, found]; rfl) isFile
      · cases encoded : Utf8.decodeStrict? bytes with
        | some decoded => exact .inl ⟨_, .file found encoded rfl⟩
        | none => exact .inr (.inl (.bytes found encoded))
      · exact absent (by rw [readText?, found]; rfl) isFile

end ApiForge.Disk

namespace ApiForge

/-! ## Local sources -/

namespace LocalSource

section Source

variable (disk : Disk) (input source : Text)

/-- The source holds this text, with what its name says about the format. -/
inductive Holds : Text → Text → Prop
  | input (spelled : isInput source = true) : Holds [] input
  | file {text : Text} (named : isInput source = false)
      (holds : disk.Holds (.ofText source) text) : Holds (contentType (.ofText source)) text

/-- Loading the source ends in a way that is not foreseen. -/
inductive Escapes : Prop
  | file (named : isInput source = false) (cannot : disk.CannotRead (.ofText source)) : Escapes
  | text {contentType text : Text} (holds : Holds disk input source contentType text)
      (escapes : Document.Escapes contentType text) : Escapes

/-- Loading the source ends with a mapping that carries an accepted marker, or with a failure that
tells what is wrong: there is no file, or its text is no description. -/
inductive EndsWell : Except Abort Value → Prop
  | description {contentType text : Text} {entries : Entries} {dialect : Dialect} {marker : Text}
      (holds : Holds disk input source contentType text)
      (value : Document.HasValue contentType text (.map entries))
      (accepted : Document.IsAcceptedFrom entries dialect marker) : EndsWell (.ok (.map entries))
  | missing (named : isInput source = false) (absent : disk.isFile (.ofText source) = .ok false) :
      EndsWell (.error (.failed (.unreachable source "file not found" none)))
  | refused {contentType text : Text} {cause : DocumentFault}
      (holds : Holds disk input source contentType text)
      (refused : Document.IsRefused contentType text cause) :
      EndsWell (.error (.failed (.unusable cause)))

end Source

variable {disk : Disk} {input source : Text}

theorem not_endsWell_unforeseen : ¬ EndsWell disk input source (.error .unforeseen) := nofun

theorem load_of_holds {contentType text : Text} (holds : Holds disk input source contentType text) :
    load disk input source = Document.parseDescription contentType text := by
  unfold load
  cases holds with
  | input spelled => rw [if_pos spelled]
  | file named holds =>
      rw [if_neg (Bool.eq_false_iff.mp named)]
      dsimp only [bind, Except.bind]
      rw [Disk.readText?_of_holds holds]

theorem load_of_escapes (escapes : Escapes disk input source) :
    load disk input source = .error .unforeseen := by
  cases escapes with
  | file named cannot =>
      unfold load
      rw [if_neg (Bool.eq_false_iff.mp named)]
      dsimp only [bind, Except.bind]
      rw [Disk.readText?_of_cannotRead cannot]
  | text holds escapes => rw [load_of_holds holds, Document.parseDescription_of_escapes escapes]

theorem endsWell_of_holds {contentType text : Text}
    (holds : Holds disk input source contentType text) :
    EndsWell disk input source (load disk input source) ∨ Escapes disk input source := by
  rw [load_of_holds holds]
  have ended := Document.endsIn_parseDescription contentType text
  generalize Document.parseDescription contentType text = result at ended ⊢
  cases ended with
  | description filled held marked =>
      obtain ⟨entries, rfl, dialect, accepted⟩ := Document.exists_entries_of_version marked
      exact .inl (.description holds held accepted)
  | refused refused => exact .inl (.refused holds refused)
  | escaped escapes => exact .inr (.text holds escapes)

/-- A source is loaded to a good end, or escapes. -/
theorem endsWell_or_escapes (disk : Disk) (input source : Text) :
    EndsWell disk input source (load disk input source) ∨ Escapes disk input source := by
  cases spelled : isInput source with
  | true => exact endsWell_of_holds (.input spelled)
  | false =>
      rcases Disk.readText?_cases disk (.ofText source) with
        ⟨text, holds⟩ | cannot | ⟨absent, none⟩
      · exact endsWell_of_holds (.file spelled holds)
      · exact .inr (.file spelled cannot)
      · left
        unfold load
        rw [if_neg (Bool.eq_false_iff.mp spelled)]
        dsimp only [bind, Except.bind]
        rw [none]
        exact .missing spelled absent

theorem endsWell_iff (disk : Disk) (input source : Text) :
    EndsWell disk input source (load disk input source) ↔ ¬ Escapes disk input source := by
  refine ⟨fun well escapes => ?_, (endsWell_or_escapes disk input source).resolve_right⟩
  rw [load_of_escapes escapes] at well
  exact not_endsWell_unforeseen well

end LocalSource

/-! ## The file of the project -/

namespace Settings

section Project

variable (disk : Disk)

/-- Reading the settings of the project ends in a way that is not foreseen. -/
inductive Escapes : Prop
  | file (cannot : disk.CannotRead (disk.current.child projectFile)) : Escapes
  | numeral {text : Text} {fault : Json.Fault}
      (holds : disk.Holds (disk.current.child projectFile) text)
      (read : Json.read text = .error fault) (long : fault.cause = .numeralTooLong) : Escapes

/-- Reading the settings of the project ends with no settings if there is no file, with those of the
file, or with a failure that tells that the file is no JSON or no object. -/
inductive EndsWell : Except Abort Entries → Prop
  | absent (absent : disk.isFile (disk.current.child projectFile) = .ok false) : EndsWell (.ok [])
  | settings {text : Text} {entries : Entries}
      (holds : disk.Holds (disk.current.child projectFile) text)
      (read : Json.read text = .ok (.map entries)) : EndsWell (.ok entries)
  | otherValue {text : Text} {value : Value}
      (holds : disk.Holds (disk.current.child projectFile) text)
      (read : Json.read text = .ok value) (other : value.isMap = false) :
      EndsWell (.error (.failed (.settings
        (.fileNotAnObject (disk.current.child projectFile).spell))))
  | unreadable {text : Text} {fault : Json.Fault}
      (holds : disk.Holds (disk.current.child projectFile) text)
      (read : Json.read text = .error fault) (short : fault.cause ≠ .numeralTooLong) :
      EndsWell (.error (.failed (.settings
        (.unreadableFile (disk.current.child projectFile).spell fault.message))))

end Project

theorem not_endsWell_unforeseen {disk : Disk} : ¬ EndsWell disk (.error .unforeseen) := nofun

theorem ofProject_of_escapes {disk : Disk} (escapes : Escapes disk) :
    ofProject disk = .error .unforeseen := by
  unfold ofProject
  dsimp only [bind, Except.bind]
  cases escapes with
  | file cannot => rw [Disk.readText?_of_cannotRead cannot]
  | numeral holds read long =>
      rw [Disk.readText?_of_holds holds]
      dsimp only
      rw [read]
      exact if_pos long

theorem endsWell_iff (disk : Disk) : EndsWell disk (ofProject disk) ↔ ¬ Escapes disk := by
  constructor
  · intro well escapes
    rw [ofProject_of_escapes escapes] at well
    exact not_endsWell_unforeseen well
  · intro foreseen
    unfold ofProject
    dsimp only [bind, Except.bind]
    rcases Disk.readText?_cases disk (disk.current.child projectFile) with
      ⟨text, holds⟩ | cannot | ⟨absent, none⟩
    · rw [Disk.readText?_of_holds holds]
      dsimp only
      split
      · next entries read => exact .settings holds read
      · next value other read =>
          refine .otherValue holds read ?_
          cases value with
          | map entries => exact absurd rfl (other entries)
          | _ => rfl
      · next fault read =>
          split
          · next long => exact absurd (.numeral holds read long) foreseen
          · next short => exact .unreadable holds read short
    · exact absurd (.file cannot) foreseen
    · rw [none]
      exact .absent absent

end Settings

/-! ## Ends of runs -/

namespace Program

variable (surroundings : Surroundings) (session : Session)

/-- A run that ends so has one of the exit codes and changes no file: there is no log of a crash. -/
def EndsCleanly (codes : List Int) (abort : Abort) : Prop :=
  let outcome := conclude surroundings session (.aborted abort)
  outcome.exitCode ∈ codes ∧ outcome.session.run = session.run

theorem endsCleanly_failed {codes : List Int} {failure : Failure} (coded : failure.exitCode ∈ codes) :
    EndsCleanly surroundings session codes (.failed failure) :=
  ⟨coded, rfl⟩

theorem not_endsCleanly_unforeseen {codes : List Int} (failing : 1 ∉ codes) :
    ¬ EndsCleanly surroundings session codes .unforeseen := by
  rintro ⟨coded, _⟩
  change (crash surroundings session).exitCode ∈ codes at coded
  rw [exitCode_crash] at coded
  exact failing coded

end Program

theorem endsCleanly_iff_of_load {disk : Disk} {input source : Text} {abort : Abort}
    (surroundings : Surroundings) (session : Session)
    (aborted : LocalSource.load disk input source = .error abort) :
    Program.EndsCleanly surroundings session [6, 7] abort ↔
      ¬ LocalSource.Escapes disk input source := by
  constructor
  · intro clean escapes
    rw [LocalSource.load_of_escapes escapes] at aborted
    cases aborted
    exact Program.not_endsCleanly_unforeseen surroundings session (by decide) clean
  · intro foreseen
    have well := (LocalSource.endsWell_iff disk input source).mpr foreseen
    rw [aborted] at well
    cases well with
    | missing named absent =>
        exact Program.endsCleanly_failed surroundings session List.mem_cons_self
    | refused holds refused =>
        exact Program.endsCleanly_failed surroundings session
          (List.mem_cons_of_mem 6 List.mem_cons_self)

theorem endsCleanly_iff_of_project {disk : Disk} {abort : Abort} (surroundings : Surroundings)
    (session : Session) (aborted : Settings.ofProject disk = .error abort) :
    Program.EndsCleanly surroundings session [2] abort ↔ ¬ Settings.Escapes disk := by
  constructor
  · intro clean escapes
    rw [Settings.ofProject_of_escapes escapes] at aborted
    cases aborted
    exact Program.not_endsCleanly_unforeseen surroundings session (by decide) clean
  · intro foreseen
    have well := (Settings.endsWell_iff disk).mpr foreseen
    rw [aborted] at well
    cases well with
    | otherValue holds read other =>
        exact Program.endsCleanly_failed surroundings session (List.mem_singleton_self 2)
    | unreadable holds read short =>
        exact Program.endsCleanly_failed surroundings session (List.mem_singleton_self 2)

/-- A disk with a description that holds a day of a thirteenth month, and with a file of the project
that holds a byte of no text. -/
def calendarDisk : Disk :=
  ⟨.folder [("work", .folder [
    ("days.yaml", .file ("2001-13-01".toList.flatMap Utf8.encodeChar)),
    ("apimapper.json", .file [0xff])])], ["work"]⟩

end ApiForge
