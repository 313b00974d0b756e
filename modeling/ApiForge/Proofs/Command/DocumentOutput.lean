import ApiForge.Proofs.Command.AllOrNothing
import ApiForge.Proofs.Json.Grammar
import ApiForge.Proofs.Record.StoredManifest

/-!
# One document on the output

A run that is asked for documents prints one on the output when it ends with
exit code 0, the document of its result, and prints nothing there otherwise.
Whatever it says on the way, its warnings and its errors are on the diagnostics.
-/

namespace ApiForge

/-! ## Records -/

/-- Every letter may be in a document. -/
abbrev Json.IsAny (_ : Char) : Prop :=
  True

namespace Command

open Json (IsAny IsPlain keyed)
open Manifest (isPlain_recordOf isPlain_statsRecord isPlain_textOrNull isPlain_toRecord)

theorem isPlain_str (text : Text) : IsPlain IsAny (.str text) :=
  .str fun _ _ => trivial

theorem isPlain_map {α : Type} {items : List α} {record : α → Value}
    (plain : ∀ item, IsPlain IsAny (record item)) : IsPlain IsAny (.list (items.map record)) := by
  refine .list fun value member => ?_
  obtain ⟨item, _, rfl⟩ := List.mem_map.mp member
  exact plain item

theorem isPlain_manifest (manifest : Manifest) : IsPlain IsAny manifest.toRecord :=
  isPlain_toRecord (fun _ _ => trivial) fun _ _ _ _ => trivial

/-- A record with another field behind the others. -/
theorem isPlain_append {entries : Entries} (plain : IsPlain IsAny (.map entries)) {name : Text}
    (new : Scalar.str name ∉ entries.map (·.1)) {value : Value} (added : IsPlain IsAny value) :
    IsPlain IsAny (.map (entries ++ [(.str name, value)])) := by
  cases plain with
  | @record fields distinct _ plain =>
      have apart : name ∉ fields.map (·.1) := by
        intro old
        obtain ⟨field, member, rfl⟩ := List.mem_map.mp old
        exact new (List.mem_map.mpr ⟨_, List.mem_map_of_mem member, rfl⟩)
      have same : keyed fields ++ [(.str name, value)] = keyed (fields ++ [(name, value)]) := by
        simp [keyed]
      rw [same]
      refine .record ?_ (fun _ _ _ _ => trivial) fun field member => ?_
      · rw [List.map_append]
        exact List.nodup_append.mpr ⟨distinct, List.nodup_singleton _, by
          simpa using fun other value member same => apart (List.mem_map.mpr ⟨_, member, same⟩)⟩
      · rcases List.mem_append.mp member with old | final
        · exact plain field old
        · rw [List.mem_singleton.mp final]
          exact added

theorem isPlain_published (published : Published) : IsPlain IsAny (publishedRecord published) :=
  isPlain_append (isPlain_manifest published.manifest) (by simp) (isPlain_str _)

theorem isPlain_clients (clients : List (Text × Option Manifest)) :
    IsPlain IsAny (clientRecords clients) := by
  refine isPlain_map fun (name, manifest) => ?_
  cases manifest with
  | some manifest => exact isPlain_manifest manifest
  | none =>
      exact isPlain_recordOf (fun _ _ => trivial) (by simp) (by rfl) (by simp [isPlain_str])

theorem isPlain_operation (operation : Operation) : IsPlain IsAny (operationRecord operation) :=
  isPlain_recordOf (fun _ _ => trivial) (by simp) (by rfl) (by simp [isPlain_str, IsPlain.bool])

theorem isPlain_api (acquired : Acquired) : IsPlain IsAny (apiRecord acquired) :=
  isPlain_recordOf (fun _ _ => trivial) (by simp) (by rfl)
    (by simp [isPlain_str, isPlain_textOrNull, isPlain_map, isPlain_statsRecord, isPlain_operation])

/-! ## Silence -/

variable {α β : Type} {command : Command α} {next : α → Command β}

/-- The command prints nothing on the output. What it says comes behind what was said before. -/
structure IsSilent (command : Command α) : Prop where
  output : ∀ session, (command session).2.printed.output = session.printed.output
  told : ∀ session, session.printed.diagnostics <+: (command session).2.printed.diagnostics

theorem notify_output {console : Console} {notice : Notice} {message : Text} {printed : Printed}
    (heard : console.notify notice message = .ok printed) : printed.output = [] := by
  unfold Console.notify at heard
  split at heard
  · obtain ⟨line, _, rfl⟩ := Success.of_map heard
    rfl
  · cases heard
    rfl

namespace IsSilent

theorem pure (value : α) : IsSilent (Pure.pure value : Command α) :=
  ⟨fun _ => rfl, fun _ => List.prefix_rfl⟩

theorem step (result : Except Abort α) : IsSilent (Command.step result) :=
  ⟨fun _ => rfl, fun _ => List.prefix_rfl⟩

theorem ofDisk (result : Disk → Except Abort α) : IsSilent (Command.ofDisk result) :=
  ⟨fun _ => rfl, fun _ => List.prefix_rfl⟩

theorem requesting (requested : List Text) (result : Except Abort α) :
    IsSilent (Command.requesting requested result) :=
  ⟨fun _ => rfl, fun _ => List.prefix_rfl⟩

theorem changing (change : Run → Run × Except Abort α) : IsSilent (Command.changing change) :=
  ⟨fun _ => rfl, fun _ => List.prefix_rfl⟩

/-- What a command has said stays. -/
theorem told_bind {said : Text} {session : Session}
    (told : said <+: (command session).2.printed.diagnostics)
    (others : ∀ value, IsSilent (next value)) :
    said <+: ((command >>= next) session).2.printed.diagnostics := by
  rw [bind_apply]
  rcases outcome : command session with ⟨abort | value, after⟩ <;> rw [outcome] at told
  · exact told
  · exact told.trans ((others value).told after)

theorem bind (silent : IsSilent command) (others : ∀ value, IsSilent (next value)) :
    IsSilent (command >>= next) := by
  refine ⟨fun session => ?_, fun session => told_bind (silent.told session) others⟩
  have same := silent.output session
  rw [bind_apply]
  rcases outcome : command session with ⟨abort | value, after⟩ <;> rw [outcome] at same
  · exact same
  · exact ((others value).output after).trans same

theorem ite {condition : Bool} {other : Command α} (one : IsSilent command)
    (another : IsSilent other) : IsSilent (if condition then command else other) := by
  cases condition
  · exact another
  · exact one

theorem print {printed : Printed} (quiet : printed.output = []) : IsSilent (Command.print printed) := by
  refine ⟨fun session => ?_, fun session => List.prefix_append ..⟩
  change session.printed.output ++ printed.output = session.printed.output
  rw [quiet, List.append_nil]

/-- What is said is on the diagnostics. -/
theorem say (console : Console) (notice : Notice) (message : Text) :
    IsSilent (Command.say console notice message) := by
  unfold Command.say
  cases heard : console.notify notice message with
  | error abort => exact step _
  | ok printed => exact print (notify_output heard)

theorem acquire (surroundings : Surroundings) (console : Console) (settings : Settings)
    (source : Text) : IsSilent (Command.acquire surroundings console settings source) := by
  refine (ofDisk _).bind fun isLocal => ite ?_ ?_
  · exact (say ..).bind fun _ => ofDisk _
  · exact (say ..).bind fun _ => (requesting ..).bind fun located => (say ..).bind fun _ => step _

theorem publish (surroundings : Surroundings) (console : Console) (options : GenerateOptions) :
    IsSilent (Command.publish surroundings console options) := by
  refine (ofDisk _).bind fun settings => (step _).bind fun _ => (acquire ..).bind fun acquired => ?_
  refine (ofDisk _).bind fun name => (step _).bind fun files => ?_
  exact (changing _).bind fun target => pure _

end IsSilent

/-- A command that prints a document behind a silent one prints nothing else, and nothing at all if
the silent one is aborted; it says no more. -/
theorem printed_of_print {command : Command Value} (silent : IsSilent command)
    {session after : Session} {outcome : Except Abort Unit}
    (done : (command >>= fun value => print (Console.printRecord value)) session =
      (outcome, after)) :
    after.printed.diagnostics = (command session).2.printed.diagnostics ∧
      ((∃ abort, outcome = .error abort ∧ after.printed.output = session.printed.output) ∨
        ∃ value, (command session).1 = .ok value ∧ outcome = .ok () ∧
          after.printed.output = session.printed.output ++ (Console.printRecord value).output) := by
  have same := silent.output session
  rw [bind_apply] at done
  rcases found : command session with ⟨abort | value, before⟩ <;> rw [found] at done same
  · cases done
    exact ⟨rfl, .inl ⟨abort, rfl, same⟩⟩
  · cases done
    exact ⟨List.append_nil _, .inr ⟨value, rfl, rfl, congrArg (· ++ _) same⟩⟩

/-! ## Progress -/

/-- What is said when the description of a source is about to be read. -/
def openingOf (isLocal : Bool) (source : Text) : Text :=
  if isLocal then
    let shown : Text := if LocalSource.isInput source then "stdin" else source
    "Loading specification from " ++ shown ++ "..."
  else "Locating specification from " ++ source ++ "..."

theorem ofDisk_bind {result : Disk → Except Abort α} {session : Session} {value : α}
    (returned : result session.disk = .ok value) :
    (ofDisk result >>= next) session = next value session := by
  rw [bind_apply, ofDisk, returned]

theorem say_apply {console : Console} {notice : Notice} {message : Text} {printed : Printed}
    (heard : console.notify notice message = .ok printed) (session : Session) :
    say console notice message session =
      (.ok (), { session with printed := session.printed ++ printed }) := by
  rw [say, bind_apply, heard]
  rfl

theorem opening_of_acquire {surroundings : Surroundings} {console : Console} {settings : Settings}
    {source : Text} {session : Session} {isLocal : Bool} {printed : Printed}
    (found : LocalSource.isLocal session.disk source = .ok isLocal)
    (heard : console.notify .info (openingOf isLocal source) = .ok printed) :
    session.printed.diagnostics ++ printed.diagnostics <+:
      (acquire surroundings console settings source session).2.printed.diagnostics := by
  have said : session.printed.diagnostics ++ printed.diagnostics <+:
      (say console .info (openingOf isLocal source) session).2.printed.diagnostics := by
    rw [say_apply heard]
    exact List.prefix_rfl
  unfold acquire
  rw [ofDisk_bind found]
  cases isLocal with
  | true =>
      change _ <+: (acquireLocal surroundings console settings source session).2.printed.diagnostics
      exact IsSilent.told_bind said fun _ => .ofDisk _
  | false =>
      change _ <+: (acquireRemote surroundings console settings source session).2.printed.diagnostics
      exact IsSilent.told_bind said fun _ => (IsSilent.requesting ..).bind fun _ =>
        (IsSilent.say ..).bind fun _ => .step _

/-! ## Results -/

/-- The steps to the result of a request, as a document. -/
def resultOf (surroundings : Surroundings) (console : Console) : Request → Command Value
  | .generate options => do
      let published ← publish surroundings console options
      pure (publishedRecord published)
  | .list outputRoot => do
      let settings ← ofDisk fun disk =>
        Settings.resolve disk surroundings.environment (Request.list outputRoot).settings
      let clients ← ofDisk fun disk => Listing.ofRoot disk (.ofText settings.outputRoot)
      pure (clientRecords clients)
  | .inspect options => do
      let settings ← ofDisk fun disk =>
        Settings.resolve disk surroundings.environment (Request.inspect options).settings
      let acquired ← acquire surroundings console settings options.source
      pure (apiRecord acquired)

/-- The document is the result of the request on a disk: the manifest of the plan that is published
and where it is, what the manifests of the clients say, or what the API of the source holds. -/
inductive ResultsIn (surroundings : Surroundings) (disk : Disk) : Request → Value → Prop where
  | generate {options : GenerateOptions} {plan : Plan} {final : Run} {target : Path}
      (planned : Plan.of surroundings options disk = .ok plan)
      (published : plan.publish surroundings disk = (final, .ok target)) :
      ResultsIn surroundings disk (.generate options)
        (publishedRecord ⟨plan.acquired, plan.manifest surroundings.now, target⟩)
  | list {outputRoot : Option Text} {settings : Settings} {clients : List (Text × Option Manifest)}
      (resolved : Settings.resolve disk surroundings.environment
        (Request.list outputRoot).settings = .ok settings)
      (listed : Listing.ofRoot disk (.ofText settings.outputRoot) = .ok clients) :
      ResultsIn surroundings disk (.list outputRoot) (clientRecords clients)
  | inspect {options : InspectOptions} {settings : Settings} {acquired : Acquired}
      (resolved : Settings.resolve disk surroundings.environment
        (Request.inspect options).settings = .ok settings)
      (found : Acquired.ofSource surroundings settings options.source disk = .ok acquired) :
      ResultsIn surroundings disk (.inspect options) (apiRecord acquired)

variable {surroundings : Surroundings} {disk : Disk} {request : Request} {console : Console}
  {value : Value}

theorem ResultsIn.isPlain (results : ResultsIn surroundings disk request value) :
    IsPlain IsAny value := by
  cases results with
  | generate => exact isPlain_published _
  | list => exact isPlain_clients _
  | inspect => exact isPlain_api _

theorem silent_resultOf (surroundings : Surroundings) (console : Console) (request : Request) :
    IsSilent (resultOf surroundings console request) := by
  cases request with
  | generate options => exact (IsSilent.publish ..).bind fun _ => .pure _
  | list outputRoot => exact (IsSilent.ofDisk _).bind fun _ => (IsSilent.ofDisk _).bind fun _ => .pure _
  | inspect options =>
      exact (IsSilent.ofDisk _).bind fun _ => (IsSilent.acquire ..).bind fun _ => .pure _

/-- The source of a request is about to be read: the settings are known and the options agree. -/
inductive Seeks (surroundings : Surroundings) (disk : Disk) : Request → Text → Prop where
  | generate {options : GenerateOptions} {settings : Settings}
      (resolved : Settings.resolve disk surroundings.environment
        (Request.generate options).settings = .ok settings)
      (agreed : checkDocs options = .ok ()) :
      Seeks surroundings disk (.generate options) options.source
  | inspect {options : InspectOptions} {settings : Settings}
      (resolved : Settings.resolve disk surroundings.environment
        (Request.inspect options).settings = .ok settings) :
      Seeks surroundings disk (.inspect options) options.source

/-- What the steps say begins with their opening. -/
theorem opening_of_seeks {source : Text} {isLocal : Bool} {printed : Printed}
    (seeks : Seeks surroundings disk request source)
    (found : LocalSource.isLocal disk source = .ok isLocal)
    (heard : console.notify .info (openingOf isLocal source) = .ok printed) :
    printed.diagnostics <+:
      (resultOf surroundings console request (.start disk)).2.printed.diagnostics := by
  have atStart : LocalSource.isLocal (Session.start disk).disk source = .ok isLocal := found
  have opening (settings : Settings) : printed.diagnostics <+:
      (acquire surroundings console settings source (.start disk)).2.printed.diagnostics :=
    opening_of_acquire atStart heard
  cases seeks with
  | @generate options settings resolved agreed =>
      refine IsSilent.told_bind ?_ fun _ => .pure _
      unfold publish
      rw [ofDisk_bind resolved, bind_apply, step, agreed]
      exact IsSilent.told_bind (opening settings) fun _ => (IsSilent.ofDisk _).bind fun _ =>
        (IsSilent.step _).bind fun _ => (IsSilent.changing _).bind fun _ => .pure _
  | @inspect options settings resolved =>
      rw [resultOf, ofDisk_bind resolved]
      exact IsSilent.told_bind (opening settings) fun _ => .pure _

/-- What the steps come to is the result of the request. -/
theorem resultsIn_of_resultOf
    (found : (resultOf surroundings console request (.start disk)).1 = .ok value) :
    ResultsIn surroundings disk request value := by
  cases request with
  | generate options =>
      rw [resultOf, bind_apply] at found
      rcases done : publish surroundings console options (.start disk) with ⟨outcome, after⟩
      rw [done] at found
      obtain ⟨abort, rfl, _⟩ | ⟨plan, planned, _, carried⟩ := publish_start done
      · cases found
      · rcases published : plan.publish surroundings disk with ⟨final, abort | target⟩ <;>
          rw [published] at carried <;> cases carried <;> cases found
        exact .generate planned published
  | list outputRoot =>
      have decides : Decides (resultOf surroundings console (.list outputRoot)) _ :=
        (Decides.ofDisk _).bind fun _ => (Decides.ofDisk _).bind fun _ => .pure _
      obtain ⟨settings, resolved, found⟩ := Success.of_bind (decides.value found)
      obtain ⟨clients, listed, found⟩ := Success.of_bind found
      cases found
      exact .list resolved listed
  | inspect options =>
      have decides : Decides (resultOf surroundings console (.inspect options)) _ :=
        (Decides.ofDisk _).bind fun _ => (Decides.acquire ..).bind fun _ => .pure _
      obtain ⟨settings, resolved, found⟩ := Success.of_bind (decides.value found)
      obtain ⟨acquired, acquires, found⟩ := Success.of_bind found
      cases found
      exact .inspect resolved acquires

end Command

/-! ## Runs -/

namespace Program

open Command (ResultsIn Seeks openingOf opening_of_seeks printed_of_print resultOf
  resultsIn_of_resultOf silent_resultOf)

variable {surroundings : Surroundings} {disk : Disk} {globals : GlobalOptions} {request : Request}
  {arguments : List Text}

/-- Where documents are wanted, a request comes to its result and prints it. -/
theorem perform_eq {console : Console} (json : console.format = .json) (request : Request) :
    perform surroundings console request =
      resultOf surroundings console request >>= fun value =>
        Command.print (Console.printRecord value) := by
  cases request with
  | generate options => simp [perform, resultOf, Command.generate, json]
  | list outputRoot => simp [perform, resultOf, Command.list, Command.showClients, json]
  | inspect options => simp [perform, resultOf, Command.inspect, json]

/-- The arguments ask for documents, and neither for the version nor for help. -/
structure AsksForDocument (arguments : List Text) : Prop where
  flag : ∀ read, Arguments.read? Invocation.globalForms false arguments = some read →
    read.has "--json" = true
  noVersion : Invocation.read arguments ≠ .version
  noHelp : Invocation.read arguments ≠ .help

theorem ne_request_of_question? {read : Arguments} {answer : Invocation}
    (asked : Invocation.question? read = some answer) : answer ≠ .request globals request := by
  obtain ⟨⟨name, value⟩, _, asked⟩ := List.exists_of_findSome?_eq_some asked
  rintro rfl
  dsimp only at asked
  split_ifs at asked <;> cases asked

/-- A request has the options that were given before its command. -/
theorem globals_of_ofCommand {options : GlobalOptions} {name : Text} {rest : List Text}
    (asked : Invocation.ofCommand options name rest = .request globals request) :
    globals = options := by
  unfold Invocation.ofCommand at asked
  split at asked
  · cases asked
  · split at asked
    · cases asked
    · split at asked
      · cases asked
      · split at asked
        · cases asked
          rfl
        · cases asked

theorem AsksForDocument.json (asks : AsksForDocument arguments)
    (asked : Invocation.read arguments = .request globals request) : globals.json = true := by
  unfold Invocation.read at asked
  split at asked
  · cases asked
  · next read given =>
      split at asked
      · next answer question => exact absurd asked (ne_request_of_question? question)
      · split at asked
        · cases asked
        · rw [globals_of_ofCommand asked]
          exact asks.flag read given

theorem output_crash (surroundings : Surroundings) (session : Session) :
    (crash surroundings session).session.printed.output = session.printed.output := by
  unfold crash
  dsimp only
  split
  · rfl
  · split
    · rfl
    · exact List.append_nil _

/-- How a run ends is told on the diagnostics. -/
theorem output_conclude (surroundings : Surroundings) (session : Session) (ending : Ending) :
    (conclude surroundings session ending).session.printed.output = session.printed.output := by
  cases ending with
  | finished => rfl
  | aborted abort =>
      cases abort with
      | failed failure => exact List.append_nil _
      | malformed faults => exact output_crash surroundings session
      | unforeseen => exact output_crash surroundings session
  | cancelled => exact List.append_nil _
  | left exitCode => rfl

theorem diagnostics_crash (surroundings : Surroundings) (session : Session) :
    session.printed.diagnostics <+: (crash surroundings session).session.printed.diagnostics := by
  unfold crash
  dsimp only
  split
  · exact List.prefix_rfl
  · split
    · exact List.prefix_rfl
    · exact List.prefix_append ..

/-- What was said before a run ends stays. -/
theorem diagnostics_conclude (surroundings : Surroundings) (session : Session) (ending : Ending) :
    session.printed.diagnostics <+:
      (conclude surroundings session ending).session.printed.diagnostics := by
  cases ending with
  | finished => exact List.prefix_rfl
  | aborted abort =>
      cases abort with
      | failed failure => exact List.prefix_append ..
      | malformed faults => exact diagnostics_crash surroundings session
      | unforeseen => exact diagnostics_crash surroundings session
  | cancelled => exact List.prefix_append ..
  | left exitCode => exact List.prefix_rfl

/-- A run prints one document on the output if it ends with exit code 0, the document of the result
of its request, and otherwise nothing. Its progress and its failure are on the diagnostics. -/
structure PrintsDocument (surroundings : Surroundings) (disk : Disk) (arguments : List Text) :
    Prop where
  document : (run surroundings disk arguments).exitCode = 0 → ∃ globals request value text,
    Invocation.read arguments = .request globals request ∧
      ResultsIn surroundings disk request value ∧ Json.IsDocumentOf text value ∧
        (run surroundings disk arguments).session.printed.output = text ++ ['\n']
  nothing : (run surroundings disk arguments).exitCode ≠ 0 →
    (run surroundings disk arguments).session.printed.output = []
  opening : ∀ {globals request source isLocal printed},
    Invocation.read arguments = .request globals request → Seeks surroundings disk request source →
    LocalSource.isLocal disk source = .ok isLocal →
    (consoleFor surroundings globals).notify .info (openingOf isLocal source) = .ok printed →
    printed.diagnostics <+: (run surroundings disk arguments).session.printed.diagnostics
  failure : ∀ {globals request failure}, Invocation.read arguments = .request globals request →
    (perform surroundings (consoleFor surroundings globals) request (.start disk)).1 =
      .error (.failed failure) →
    (run surroundings disk arguments).exitCode = failure.exitCode ∧
      Notice.error.marker ++ failure.message ++ ['\n'] <:+
        (run surroundings disk arguments).session.printed.diagnostics

/-- A request that fails ends the run with the failure's exit code and its message. -/
theorem told_of_failed {failure : Failure}
    (asked : Invocation.read arguments = .request globals request)
    (failed : (perform surroundings (consoleFor surroundings globals) request (.start disk)).1 =
      .error (.failed failure)) :
    (run surroundings disk arguments).exitCode = failure.exitCode ∧
      Notice.error.marker ++ failure.message ++ ['\n'] <:+
        (run surroundings disk arguments).session.printed.diagnostics := by
  rcases performed : perform surroundings (consoleFor surroundings globals) request
    (.start disk) with ⟨outcome, after⟩
  rw [performed] at failed
  cases failed
  rw [run, asked, answer_request performed]
  exact ⟨rfl, after.printed.diagnostics, rfl⟩

end Program

end ApiForge
