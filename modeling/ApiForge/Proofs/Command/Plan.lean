import ApiForge.Command.Program
import ApiForge.Proofs.Files.Way
import ApiForge.Proofs.Success
import Mathlib.Data.List.Nodup

/-!
# Plans

A command that generates a client first decides on a plan. For this it reads the
disk, requests URLs and says things, but it changes nothing, and the plan depends
on the surroundings, the options and the disk alone.
-/

namespace ApiForge

/-! ## Commands that leave the disk alone -/

namespace Command

variable {α β : Type} {command : Command α} {next : α → Command β}

theorem bind_apply (command : Command α) (next : α → Command β) (session : Session) :
    (command >>= next) session =
      match command session with
      | (.ok value, after) => next value after
      | (.error abort, after) => (.error abort, after) := by
  simp only [bind, ExceptT.bind, ExceptT.mk, StateT.bind]
  rcases command session with ⟨abort | value, after⟩ <;> rfl

theorem changing_apply (change : Run → Run × Except Abort α) (session : Session) :
    changing change session =
      ((change session.run).2, { session with run := (change session.run).1 }) :=
  rfl

/-- The command leaves the disk alone, and what it returns, if it does, is decided by the disk. -/
structure Decides (command : Command α) (result : Disk → Except Abort α) : Prop where
  run : ∀ session, (command session).2.run = session.run
  value : ∀ {session value}, (command session).1 = .ok value → result session.disk = .ok value

namespace Decides

theorem pure (value : α) : Decides (Pure.pure value) fun _ => .ok value :=
  ⟨fun _ => rfl, fun returned => returned⟩

theorem step (result : Except Abort α) : Decides (Command.step result) fun _ => result :=
  ⟨fun _ => rfl, fun returned => returned⟩

theorem ofDisk (result : Disk → Except Abort α) : Decides (Command.ofDisk result) result :=
  ⟨fun _ => rfl, fun returned => returned⟩

theorem requesting (requested : List Text) (result : Except Abort α) :
    Decides (Command.requesting requested result) fun _ => result :=
  ⟨fun _ => rfl, fun returned => returned⟩

theorem print (printed : Printed) : Decides (Command.print printed) fun _ => .ok () :=
  ⟨fun _ => rfl, fun returned => returned⟩

theorem bind {result : Disk → Except Abort α} {onward : α → Disk → Except Abort β}
    (decides : Decides command result) (others : ∀ value, Decides (next value) (onward value)) :
    Decides (command >>= next) fun disk => result disk >>= fun value => onward value disk := by
  have both (session : Session) : ((command >>= next) session).2.run = session.run ∧
      ∀ last, ((command >>= next) session).1 = .ok last →
        (result session.disk >>= fun value => onward value session.disk) = .ok last := by
    have same := decides.run session
    have found : ∀ value, (command session).1 = .ok value → result session.disk = .ok value :=
      fun _ => decides.value
    rw [bind_apply]
    rcases outcome : command session with ⟨abort | value, after⟩ <;> rw [outcome] at same found
    · exact ⟨same, fun _ impossible => nomatch impossible⟩
    · have sameDisk : after.disk = session.disk := congrArg Run.disk same
      refine ⟨((others value).run after).trans same, fun last returned => ?_⟩
      rw [found value rfl, ← sameDisk]
      exact (others value).value returned
  exact ⟨fun session => (both session).1, fun returned => (both _).2 _ returned⟩

theorem ite {condition : Bool} {other : Command α} {result otherResult : Disk → Except Abort α}
    (one : Decides command result) (another : Decides other otherResult) :
    Decides (if condition then command else other)
      fun disk => if condition then result disk else otherResult disk := by
  cases condition
  · exact another
  · exact one

/-- What is said changes nothing. -/
theorem say (console : Console) (notice : Notice) (message : Text) :
    Decides (Command.say console notice message) fun _ => .ok () :=
  ⟨((step _).bind fun printed => print printed).run, fun _ => rfl⟩

theorem sayAll (console : Console) (notice : Notice) (messages : List Text) :
    Decides (Command.sayAll console notice messages) fun _ => .ok () := by
  induction messages with
  | nil => exact pure ()
  | cons message rest ih => exact (say console notice message).bind fun _ => ih

end Decides

end Command

/-! ## Sources -/

/-- The API of a source, whatever is said on the way. -/
def Acquired.ofSource (surroundings : Surroundings) (settings : Settings) (source : Text)
    (disk : Disk) : Except Abort Acquired := do
  if ← LocalSource.isLocal disk source then ofLocal disk surroundings.input source settings
  else
    let located ← (Discovery.search surroundings.web (Validation.validate settings.dereference)
      settings.probePaths source).result
    ofLocated located

namespace Command

theorem Decides.acquire (surroundings : Surroundings) (console : Console) (settings : Settings)
    (source : Text) : Decides (Command.acquire surroundings console settings source)
      (Acquired.ofSource surroundings settings source) := by
  refine (ofDisk _).bind fun isLocal => ite ?_ ?_
  · exact (say ..).bind fun _ => ofDisk _
  · exact (say ..).bind fun _ => (requesting ..).bind fun located => (say ..).bind fun _ => step _

end Command

/-! ## Plans for clients -/

/-- What is published, and under which name. -/
structure Plan where
  settings : Settings
  acquired : Acquired
  name : Text
  files : List (Text × Text)

namespace Plan

/-- The plan for a request. -/
def of (surroundings : Surroundings) (options : GenerateOptions) (disk : Disk) :
    Except Abort Plan := do
  let settings ←
    Settings.resolve disk surroundings.environment (Request.generate options).settings
  Command.checkDocs options
  let acquired ← Acquired.ofSource surroundings settings options.source disk
  let name ← Command.nameFor disk options acquired.foundAt
  let files ← Command.render acquired name (Command.selectionFor options settings)
  pure ⟨settings, acquired, name, files⟩

def publication (plan : Plan) (token : Text) : Publication :=
  ⟨.ofText plan.settings.outputRoot, plan.name, token⟩

def manifest (plan : Plan) (now : Moment) : Manifest :=
  .ofApi plan.acquired.api plan.name plan.acquired.foundAt (plan.files.map (·.1)) now

/-- What comes of publishing the plan on a disk. -/
def publish (plan : Plan) (surroundings : Surroundings) (disk : Disk) : Run × Except Abort Path :=
  (plan.publication surroundings.token).publish surroundings.trouble plan.files
    (plan.manifest surroundings.now) (Run.start disk)

variable {surroundings : Surroundings} {options : GenerateOptions} {disk : Disk} {plan : Plan}

/-- The files are what is rendered of the API. -/
theorem rendered (planned : of surroundings options disk = .ok plan) :
    Artifacts.render plan.acquired.api (Naming.clientClass plan.name)
      (Command.selectionFor options plan.settings) = .ok plan.files := by
  obtain ⟨settings, _, planned⟩ := Success.of_bind planned
  obtain ⟨_, _, planned⟩ := Success.of_bind planned
  obtain ⟨acquired, _, planned⟩ := Success.of_bind planned
  obtain ⟨name, _, planned⟩ := Success.of_bind planned
  obtain ⟨files, rendered, planned⟩ := Success.of_bind planned
  cases planned
  unfold Command.render at rendered
  split at rendered
  · next found =>
      cases rendered
      exact found
  · cases rendered

end Plan

namespace Command

/-- The steps that decide on a plan. -/
def plan (surroundings : Surroundings) (console : Console) (options : GenerateOptions) :
    Command Plan := do
  let settings ← ofDisk fun disk =>
    Settings.resolve disk surroundings.environment (Request.generate options).settings
  step (checkDocs options)
  let acquired ← acquire surroundings console settings options.source
  let name ← ofDisk fun disk => nameFor disk options acquired.foundAt
  let files ← step (render acquired name (selectionFor options settings))
  pure ⟨settings, acquired, name, files⟩

theorem Decides.plan (surroundings : Surroundings) (console : Console) (options : GenerateOptions) :
    Decides (Command.plan surroundings console options) (Plan.of surroundings options) := by
  refine (ofDisk _).bind fun settings => (step _).bind fun _ => (acquire ..).bind fun acquired => ?_
  exact (ofDisk _).bind fun name => (step _).bind fun files => pure _

/-- Publishing is to carry out a plan. -/
theorem publish_eq (surroundings : Surroundings) (console : Console) (options : GenerateOptions) :
    publish surroundings console options = (do
      let plan ← plan surroundings console options
      let target ← changing ((plan.publication surroundings.token).publish surroundings.trouble
        plan.files (plan.manifest surroundings.now))
      pure ⟨plan.acquired, plan.manifest surroundings.now, target⟩) := by
  simp only [publish, plan, bind_assoc, pure_bind]
  rfl

/-- What comes of publishing: there is no plan and nothing changes, or the plan is carried out. -/
theorem publish_start {surroundings : Surroundings} {console : Console} {options : GenerateOptions}
    {disk : Disk} {outcome : Except Abort Published} {after : Session}
    (done : publish surroundings console options (.start disk) = (outcome, after)) :
    (∃ abort, outcome = .error abort ∧ after.run = Run.start disk) ∨
      ∃ plan, Plan.of surroundings options disk = .ok plan ∧
        after.run = (plan.publish surroundings disk).1 ∧
        outcome = (plan.publish surroundings disk).2.map fun target =>
          ⟨plan.acquired, plan.manifest surroundings.now, target⟩ := by
  have decides := Decides.plan surroundings console options
  have same := decides.run (.start disk)
  have decided : ∀ plan, (Command.plan surroundings console options (.start disk)).1 = .ok plan →
      Plan.of surroundings options disk = .ok plan :=
    fun _ => decides.value
  rw [publish_eq, bind_apply] at done
  rcases found : Command.plan surroundings console options (.start disk) with
    ⟨abort | plan, before⟩ <;> rw [found] at done same decided
  · cases done
    exact .inl ⟨abort, rfl, same⟩
  · refine .inr ⟨plan, decided plan rfl, ?_⟩
    have carried : plan.publish surroundings disk =
        (plan.publication surroundings.token).publish surroundings.trouble plan.files
          (plan.manifest surroundings.now) before.run :=
      congrArg _ (show before.run = Run.start disk from same).symm
    dsimp only at done
    rw [bind_apply, changing_apply, ← carried] at done
    rcases reached : plan.publish surroundings disk with ⟨final, abort | target⟩ <;>
      rw [reached] at done <;> cases done <;> exact ⟨rfl, rfl⟩

/-! ## Telling -/

/-- The last step of a command: what was published is shown as a document or told. -/
def announce (console : Console) (published : Published) : Command Unit :=
  if console.format = .json then print (Console.printRecord (publishedRecord published))
  else tell console published

/-- The command comes to its end from every session. -/
def Returns (command : Command α) : Prop :=
  ∀ session, ∃ value, (command session).1 = .ok value

namespace Returns

theorem bind (returns : Returns command) (others : ∀ value, Returns (next value)) :
    Returns (command >>= next) := by
  intro session
  obtain ⟨value, returned⟩ := returns session
  rw [bind_apply]
  rcases outcome : command session with ⟨abort | other, after⟩
  · rw [outcome] at returned
    cases returned
  · exact others other after

theorem print (printed : Printed) : Returns (Command.print printed) :=
  fun _ => ⟨(), rfl⟩

variable {console : Console}

/-- Without colour everything can be said. -/
theorem say (colorless : console.isColorless = true) (notice : Notice) (message : Text) :
    Returns (Command.say console notice message) := by
  have heard : ∃ printed, console.notify notice message = .ok printed := by
    unfold Console.notify Console.line
    rw [if_pos colorless]
    split <;> exact ⟨_, rfl⟩
  refine bind (fun session => ?_) print
  obtain ⟨printed, heard⟩ := heard
  exact ⟨printed, heard⟩

theorem sayAll (colorless : console.isColorless = true) (notice : Notice) (messages : List Text) :
    Returns (Command.sayAll console notice messages) := by
  induction messages with
  | nil => exact fun _ => ⟨(), rfl⟩
  | cons message rest ih => exact bind (say colorless notice message) fun _ => ih

theorem tell (colorless : console.isColorless = true) (published : Published) :
    Returns (Command.tell console published) :=
  bind (sayAll colorless _ _) fun _ => bind (sayAll colorless _ _) fun _ => print _

theorem announce (colorless : console.isColorless = true) (published : Published) :
    Returns (Command.announce console published) := by
  unfold Command.announce
  split
  · exact print _
  · exact tell colorless published

end Returns

theorem Decides.announce (console : Console) (published : Published) :
    Decides (Command.announce console published) fun _ => .ok () := by
  unfold Command.announce
  split
  · exact print _
  · exact (sayAll ..).bind fun _ => (sayAll ..).bind fun _ => print _

/-! ## Generating a client -/

/-- What comes of a command that generates a client: it has no plan and changes nothing, or it
publishes its plan. It fails after publishing only in telling of it, and only with colour. -/
inductive Generated (surroundings : Surroundings) (console : Console) (options : GenerateOptions)
    (disk : Disk) : Run → Except Abort Unit → Prop where
  | unplanned (abort : Abort) :
      Generated surroundings console options disk (Run.start disk) (.error abort)
  | unpublished {plan : Plan} (planned : Plan.of surroundings options disk = .ok plan)
      {abort : Abort} {final : Run}
      (failed : plan.publish surroundings disk = (final, .error abort)) :
      Generated surroundings console options disk final (.error abort)
  | untold {plan : Plan} (planned : Plan.of surroundings options disk = .ok plan)
      {target : Path} {final : Run}
      (published : plan.publish surroundings disk = (final, .ok target))
      (abort : Abort) (colored : console.isColorless = false) :
      Generated surroundings console options disk final (.error abort)
  | told {plan : Plan} (planned : Plan.of surroundings options disk = .ok plan)
      {target : Path} {final : Run}
      (published : plan.publish surroundings disk = (final, .ok target)) :
      Generated surroundings console options disk final (.ok ())

theorem generated (surroundings : Surroundings) (console : Console) (options : GenerateOptions)
    (disk : Disk) {outcome : Except Abort Unit} {after : Session}
    (done : generate surroundings console options (.start disk) = (outcome, after)) :
    Generated surroundings console options disk after.run outcome := by
  rw [generate, bind_apply] at done
  rcases first : publish surroundings console options (.start disk) with ⟨result, before⟩
  rw [first] at done
  obtain ⟨abort, rfl, unchanged⟩ | ⟨plan, planned, changed, carried⟩ := publish_start first
  · cases done
    rw [unchanged]
    exact .unplanned abort
  · rcases carriedOut : plan.publish surroundings disk with ⟨final, abort | target⟩ <;>
      rw [carriedOut] at changed carried <;> cases carried
    · cases done
      rw [changed]
      exact .unpublished planned carriedOut
    · have kept : final = after.run :=
        changed.symm.trans (((Decides.announce console _).run _).symm.trans
          (congrArg (·.2.run) done))
      rw [← kept]
      cases outcome with
      | ok nothing => exact .told planned carriedOut
      | error abort =>
          refine .untold planned carriedOut abort (Bool.eq_false_iff.mpr fun colorless => ?_)
          obtain ⟨_, returned⟩ := Returns.announce colorless _ _
          cases returned.symm.trans (congrArg (·.1) done)

/-! ## The other commands -/

theorem list_run (surroundings : Surroundings) (console : Console) (outputRoot : Option Text)
    (session : Session) : (list surroundings console outputRoot session).2.run = session.run := by
  have shows (root : Text) (clients : List (Text × Option Manifest)) :
      Decides (showClients console root clients) fun _ => .ok () := by
    unfold showClients
    split
    · exact .print _
    · split
      · exact (Decides.say ..).bind fun _ => .say ..
      · exact .print _
  exact ((Decides.ofDisk _).bind fun _ => (Decides.ofDisk _).bind fun _ => shows _ _).run session

theorem inspect_run (surroundings : Surroundings) (console : Console) (options : InspectOptions)
    (session : Session) : (inspect surroundings console options session).2.run = session.run := by
  have shows (acquired : Acquired) : Decides (if console.format = .json then
      print (Console.printRecord (apiRecord acquired)) else showApi console acquired)
      fun _ => .ok () := by
    split
    · exact .print _
    · exact (Decides.sayAll ..).bind fun _ => .print _
  exact ((Decides.ofDisk _).bind fun _ => (Decides.acquire ..).bind fun _ => shows _).run session

end Command

/-! ## Rendered files -/

namespace Artifacts

variable {api : Api} {clientName : Text} {selection : Selection} {files : List (Text × Text)}

theorem names_of_chosen {isWanted : Bool} {name : Text} {text : Except Failure Text}
    (picked : chosen isWanted name text = .ok files) : (files.map (·.1)).Sublist [name] := by
  cases isWanted with
  | false =>
      cases picked
      exact List.nil_sublist _
  | true =>
      obtain ⟨text, _, rfl⟩ := Success.of_map picked
      exact .refl _

/-- The files have some of three names, in this order. -/
theorem names_of_render (rendered : render api clientName selection = .ok files) :
    (files.map (·.1)).Sublist [typesFile, clientFile, docsFile] := by
  obtain ⟨types, first, rendered⟩ := Success.of_bind rendered
  obtain ⟨client, second, rendered⟩ := Success.of_bind rendered
  obtain ⟨docs, third, rendered⟩ := Success.of_bind rendered
  cases rendered
  rw [List.map_append, List.map_append]
  exact ((names_of_chosen first).append (names_of_chosen second)).append (names_of_chosen third)

theorem nodup_names_of_render (rendered : render api clientName selection = .ok files) :
    (files.map (·.1) ++ [Publication.manifestFile]).Nodup :=
  List.Nodup.sublist ((names_of_render rendered).append_right _) (by decide)

theorem plain_of_render (rendered : render api clientName selection = .ok files) :
    ∀ file ∈ files, Path.IsPlain file.1 := by
  have plain : ∀ name ∈ [typesFile, clientFile, docsFile], Path.IsPlain name := by
    simp only [List.mem_cons, List.not_mem_nil, or_false, forall_eq_or_imp, forall_eq]
    refine ⟨?_, ?_, ?_⟩ <;> exact Path.isPlain_of_length (by decide) (by decide)
  exact fun file member => plain _ ((names_of_render rendered).subset (List.mem_map_of_mem member))

end Artifacts

end ApiForge
