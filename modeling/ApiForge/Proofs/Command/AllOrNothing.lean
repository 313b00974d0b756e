import ApiForge.Proofs.Command.CrashLog
import ApiForge.Proofs.Command.Plan
import ApiForge.Proofs.Publishing.Outcomes

/-!
# All or nothing

A run that ends with exit code 0 has published its plan as a whole. Any other
run leaves every file as it was, the log of a crash apart, unless the client was
published already when the run failed or was lost with the root.
-/

namespace ApiForge.Program

open Publication

variable {surroundings : Surroundings} {globals : GlobalOptions} {options : GenerateOptions}
  {disk reached : Disk} {plan : Plan}

/-! ## Clients that are there -/

/-- The target of a plan holds exactly what was rendered of the API and the manifest, which lists
the files and counts what the API holds. -/
structure HoldsClient (surroundings : Surroundings) (options : GenerateOptions) (start : Disk)
    (plan : Plan) (final : Disk) : Prop where
  rendered : Artifacts.render plan.acquired.api (Naming.clientClass plan.name)
    (Command.selectionFor options plan.settings) = .ok plan.files
  target : ∃ entries, final.top.get? (Spot.target.place (plan.publication surroundings.token)
      ((plan.publication surroundings.token).home start)) = some (.folder entries) ∧
    HoldsExactly (plan.files ++ [(manifestFile, (plan.manifest surroundings.now).stored)]) entries
  listed : (plan.manifest surroundings.now).files = plan.files.map (·.1)
  counted : (plan.manifest surroundings.now).stats =
    ⟨plan.acquired.api.operations.length, plan.acquired.api.schemas.length,
      plan.acquired.api.tags.length⟩

/-- The client of the plan is in its place. -/
def IsInPlace (surroundings : Surroundings) (plan : Plan) (start disk : Disk) : Prop :=
  IsPlaced (plan.publication surroundings.token) plan.files (plan.manifest surroundings.now)
    start disk

/-- The ways in which a run that fails leaves files behind: the root leads through the target; or
the client is in its place, but its backup's name is too long to be asked for, or telling of it
fails in colour. -/
inductive LeavesFiles (surroundings : Surroundings) (globals : GlobalOptions) (plan : Plan)
    (start reached : Disk) : Prop where
  | lost (enters : EntersTarget (plan.publication surroundings.token) start
      ((plan.publication surroundings.token).home start))
  | unasked (placed : IsInPlace surroundings plan start reached)
      (long : Disk.isTooLong (Spot.backup.name (plan.publication surroundings.token)) = true)
      (nothing : start.top.get? (Spot.target.place (plan.publication surroundings.token)
        ((plan.publication surroundings.token).home start)) = none)
  | untold (placed : IsInPlace surroundings plan start reached)
      (colored : (consoleFor surroundings globals).isColorless = false)

/-- What the surroundings have to be like for a run: at most one change is in trouble, no folder is
kept from being removed, and the backup of a plan has a free name. -/
structure IsCalm (surroundings : Surroundings) (disk : Disk) (arguments : List Text) : Prop where
  token : '/' ∉ surroundings.token
  fault : MeetsOneFault surroundings.trouble
  removes : ∀ number path, surroundings.trouble number (.removeFolder path) = none
  free : ∀ {globals options plan},
    Invocation.read arguments = .request globals (.generate options) →
      Plan.of surroundings options disk = .ok plan →
        BackupIsFree surroundings.trouble (plan.publication surroundings.token) disk

/-- A plan is published in one of the ways of publishing. -/
theorem ended_of_plan (token : '/' ∉ surroundings.token)
    (removes : ∀ number path, surroundings.trouble number (.removeFolder path) = none)
    (planned : Plan.of surroundings options disk = .ok plan)
    (free : BackupIsFree surroundings.trouble (plan.publication surroundings.token) disk)
    {final : Run} {outcome : Except Abort Path}
    (published : plan.publish surroundings disk = (final, outcome)) :
    Ended surroundings.trouble (plan.publication surroundings.token) plan.files
      (plan.manifest surroundings.now) disk final.disk outcome :=
  ended_of_publish token (Artifacts.plain_of_render (Plan.rendered planned)) free
    ⟨fun number => removes number _, fun number => removes number _⟩ published

/-- A plan whose client is in its place is there as a whole. -/
theorem holdsClient_of_isInPlace (planned : Plan.of surroundings options disk = .ok plan)
    (placed : IsInPlace surroundings plan disk reached) :
    HoldsClient surroundings options disk plan reached := by
  have rendered := Plan.rendered planned
  obtain ⟨set, whole, target⟩ := placed.target
  have distinct : (plan.files.map (·.1) ++ [manifestFile]).Nodup :=
    Artifacts.nodup_names_of_render rendered
  obtain ⟨entries, same, exactly⟩ := exists_of_written [] (by simpa using distinct) whole
  rw [same] at target
  exact ⟨rendered, ⟨entries, target, exactly⟩, rfl, rfl⟩

/-- A command that fails to generate a client leaves every file as it was or leaves files behind. -/
theorem sameFiles_of_generated (token : '/' ∉ surroundings.token)
    (fault : MeetsOneFault surroundings.trouble)
    (removes : ∀ number path, surroundings.trouble number (.removeFolder path) = none)
    (free : ∀ plan, Plan.of surroundings options disk = .ok plan →
      BackupIsFree surroundings.trouble (plan.publication surroundings.token) disk)
    {final : Run} {abort : Abort}
    (generated : Command.Generated surroundings (consoleFor surroundings globals) options disk final
      (.error abort)) :
    (∀ names, Node.SameFile disk.top final.disk.top names) ∨
      ∃ plan, Plan.of surroundings options disk = .ok plan ∧
        LeavesFiles surroundings globals plan disk final.disk := by
  cases generated with
  | unplanned => exact .inl fun names => .refl _ _
  | unpublished planned failed =>
      cases ended_of_plan token removes planned (free _ planned) failed with
      | undone _ same _ => exact .inl fun names => same.sameFile
      | stranded _ cause =>
          exact .inr ⟨_, planned, .lost (cause.resolve_right fun many => many fault)⟩
      | unasked placed long nothing => exact .inr ⟨_, planned, .unasked placed long nothing⟩
  | untold planned published _ colored =>
      cases ended_of_plan token removes planned (free _ planned) published with
      | placed placed _ => exact .inr ⟨_, planned, .untold placed colored⟩

/-- A command that generates a client has it in its place. -/
theorem isInPlace_of_generated (token : '/' ∉ surroundings.token)
    (removes : ∀ number path, surroundings.trouble number (.removeFolder path) = none)
    (free : ∀ plan, Plan.of surroundings options disk = .ok plan →
      BackupIsFree surroundings.trouble (plan.publication surroundings.token) disk)
    {console : Console} {final : Run}
    (generated : Command.Generated surroundings console options disk final (.ok ())) :
    ∃ plan, Plan.of surroundings options disk = .ok plan ∧
      IsInPlace surroundings plan disk final.disk := by
  cases generated with
  | told planned published =>
      cases ended_of_plan token removes planned (free _ planned) published with
      | placed placed _ => exact ⟨_, planned, placed⟩

/-! ## How a run ends -/

theorem exitCode_ne_zero (failure : Failure) : failure.exitCode ≠ 0 := by
  cases failure <;> simp [Failure.exitCode]

/-- A run that is aborted does not end with exit code 0 and changes no file but the log. -/
theorem conclude_aborted (surroundings : Surroundings) (session : Session) (abort : Abort) :
    (conclude surroundings session (.aborted abort)).exitCode ≠ 0 ∧
      Disk.ChangesOnlyAt (log surroundings) session.disk
        (conclude surroundings session (.aborted abort)).session.disk := by
  have crashed : (crash surroundings session).exitCode ≠ 0 := by
    rw [exitCode_crash]
    decide
  cases abort with
  | failed failure => exact ⟨exitCode_ne_zero failure, .refl _ _⟩
  | malformed faults => exact ⟨crashed, changesOnlyAt_crash surroundings session⟩
  | unforeseen => exact ⟨crashed, changesOnlyAt_crash surroundings session⟩

/-- How the work of a run ends with this outcome. -/
def endingOf : Except Abort Unit → Ending
  | .ok _ => .finished
  | .error abort => .aborted abort

theorem answer_request {request : Request} {session after : Session} {outcome : Except Abort Unit}
    (performed : perform surroundings (consoleFor surroundings globals) request session =
      (outcome, after)) :
    answer surroundings session (.request globals request) =
      conclude surroundings after (endingOf outcome) := by
  rw [answer, performed]
  cases outcome <;> rfl

theorem changesOnlyAt_conclude (surroundings : Surroundings) (session : Session)
    (outcome : Except Abort Unit) :
    Disk.ChangesOnlyAt (log surroundings) session.disk
      (conclude surroundings session (endingOf outcome)).session.disk := by
  cases outcome with
  | ok nothing => exact .refl _ _
  | error abort => exact (conclude_aborted surroundings session abort).2

theorem perform_run (surroundings : Surroundings) (console : Console) {request : Request}
    (other : ∀ options, request ≠ .generate options) (session : Session) :
    (perform surroundings console request session).2.run = session.run := by
  cases request with
  | generate options => exact absurd rfl (other options)
  | list outputRoot => exact Command.list_run surroundings console outputRoot session
  | inspect options => exact Command.inspect_run surroundings console options session

/-- A run that generates no client changes no file but the log of a crash. -/
theorem changesOnlyAt_answer (surroundings : Surroundings) (session : Session)
    {invocation : Invocation}
    (other : ∀ globals options, invocation ≠ .request globals (.generate options)) :
    Disk.ChangesOnlyAt (log surroundings) session.disk
      (answer surroundings session invocation).session.disk := by
  cases invocation with
  | version => exact .refl _ _
  | help => exact .refl _ _
  | misuse => exact .refl _ _
  | request globals request =>
      have still := perform_run surroundings (consoleFor surroundings globals)
        (fun options same => other globals options (same ▸ rfl)) session
      rcases performed : perform surroundings (consoleFor surroundings globals) request session with
        ⟨outcome, after⟩
      rw [performed] at still
      rw [answer_request performed,
        show session.disk = after.disk from congrArg Run.disk still.symm]
      exact changesOnlyAt_conclude surroundings after outcome

variable {arguments : List Text}

/-- A description in which there is one tag. -/
def tagDocument : Value :=
  Manifest.recordOf
    [("openapi", .str "3.0.0"),
      ("info", Manifest.recordOf [("title", .str "T"), ("version", .str "1")]),
      ("tags", .list [Manifest.recordOf [("name", .str "a")]]), ("paths", .map [])]

/-- A folder with a file that spells the description. -/
def tagDisk : Disk :=
  let text : Text := (Json.line? false tagDocument).getD []
  ⟨.folder [("w", .folder [("a.json", .file (text.flatMap Utf8.encodeChar))])], ["w"]⟩

def tagSurroundings : Surroundings where
  environment := [("NO_COLOR", "1"), ("HOME", "/h")]
  web := fun _ => .broken "ConnectError" "offline"
  input := []
  now := ⟨⟨2026, 1, 2⟩, 3, 4, 5, 0, none⟩
  system := "Linux"
  isTerminal := false
  token := "0a1b2c3d"
  trouble := .never

/-- The arguments that ask for a page about it under a name. -/
def tagArguments (name : Text) : List Text :=
  ["generate", "a.json", "--docs-only", "-o", "x", "-n", name]

def tagOptions (name : Text) : GenerateOptions :=
  ⟨"a.json", some "x".toList, some name, true, none, none, none⟩

end ApiForge.Program
