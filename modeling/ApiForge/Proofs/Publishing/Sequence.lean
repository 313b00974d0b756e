import ApiForge.Proofs.Publishing.Listed
import ApiForge.Proofs.Publishing.Outcomes
import ApiForge.Proofs.Record.StoredManifest

/-!
# Publishing one client after another

Clients are published into one root that was empty at first, under any names
and again and again, and any call may meet a fault. Afterwards the root holds
for each name the complete set of the last call that returned, and nothing else.
-/

namespace ApiForge.Publication

/-! ## Calls -/

/-- A call that publishes a client, and the trouble that it meets. -/
structure Call where
  name : Text
  token : Text
  files : List (Text × Text)
  manifest : Manifest
  trouble : Trouble

namespace Call

def publication (call : Call) (root : Path) : Publication :=
  ⟨root, call.name, call.token⟩

/-- What comes of a call on a disk. -/
def perform (call : Call) (root : Path) (disk : Disk) : Run × Except Abort Path :=
  (call.publication root).publish call.trouble call.files call.manifest (Run.start disk)

/-- A call with plain file names and a manifest that can be encoded, which meets at most one fault
and none in clearing up. Its backup's name is not too long to be asked for. -/
structure IsSound (call : Call) (root : Path) : Prop where
  token : '/' ∉ call.token
  plain : ∀ file ∈ call.files, Path.IsPlain file.1
  encodable : call.manifest.IsEncodable
  fault : MeetsOneFault call.trouble
  clears : ClearsUp call.trouble (call.publication root)
  short : Disk.isTooLong (Spot.backup.name (call.publication root)) = false

end Call

/-- The calls that return when calls are made one after another, and the disk afterwards. -/
def performAll (root : Path) : List Call → Disk → List Call × Disk
  | [], disk => ([], disk)
  | call :: rest, disk =>
      let (run, outcome) := call.perform root disk
      let (returned, final) := performAll root rest run.disk
      match outcome with
      | .ok _ => (call :: returned, final)
      | .error _ => (returned, final)

/-- Each call finds the name of its backup free. -/
def FindBackupsFree (root : Path) : List Call → Disk → Prop
  | [], _ => True
  | call :: rest, disk =>
      BackupIsFree call.trouble (call.publication root) disk ∧
        FindBackupsFree root rest (call.perform root disk).1.disk

/-- The last of the calls with a name. -/
def latest (name : Text) (returned : List Call) : Option Call :=
  (returned.filter (·.name == name)).getLast?

theorem latest_concat (name : Text) (returned : List Call) (call : Call) :
    latest name (returned ++ [call]) =
      if call.name = name then some call else latest name returned := by
  by_cases same : call.name = name <;> simp [latest, same]

theorem mem_of_latest {name : Text} {returned : List Call} {call : Call}
    (last : latest name returned = some call) : call ∈ returned ∧ call.name = name := by
  simpa using List.mem_of_getLast? last

/-! ## The root -/

/-- The place that a root leads to. -/
def roomOf (root : Path) (disk : Disk) : List Text :=
  Path.endOf (disk.base root) root.parts

/-- The root holds nothing, and it can be made: the way to it does not go through what it holds, and
its names are short. -/
structure IsEmptyRoot (root : Path) (start : Disk) : Prop where
  empty : ∀ name, start.top.get? (roomOf root start ++ [name]) = none
  outside : ∀ place ∈ Path.way (start.base root) root.parts,
    roomOf root start <+: place → place = roomOf root start
  short : ∀ part ∈ root.parts, Disk.isTooLong part = false

/-- The place holds exactly the files and the manifest of the call, or nothing if there is none. -/
def HoldsSetOf (last : Option Call) (top : Node) (place : List Text) : Prop :=
  match last with
  | none => top.get? place = none
  | some call => ∃ set, completeSet call.files call.manifest = .ok set ∧
      ∀ rest, top.entryAt (place ++ rest) = (Node.folder set).entryAt rest

/-- The room holds under each name what its last call published, and nothing else. -/
def HoldsLatest (returned : List Call) (room : List Text) (top : Node) : Prop :=
  ∀ name, HoldsSetOf (latest name returned) top (room ++ [name])

/-- What is known after some calls have returned. -/
structure IsShelf (root : Path) (start : Disk) (returned : List Call) (disk : Disk) : Prop where
  base : disk.base root = start.base root
  proper : disk.top.IsProper
  holds : HoldsLatest returned (roomOf root start) disk.top
  leads : returned ≠ [] → disk.locate root = .ok (roomOf root start)

variable {root : Path} {start disk : Disk} {calls returned : List Call} {call : Call}

theorem IsEmptyRoot.not_mem_way (emptyRoot : IsEmptyRoot root start) {place : List Text}
    (inside : ∃ name, roomOf root start ++ [name] <+: place) :
    place ∉ Path.way (start.base root) root.parts := by
  obtain ⟨name, below⟩ := inside
  intro member
  have same := emptyRoot.outside place member ((List.prefix_append _ _).trans below)
  exact Node.not_concat_inside _ name (same ▸ below)

/-- What can be seen at a place and below it says what it holds. -/
theorem HoldsSetOf.of_entries {last : Option Call} {top later : Node} {place : List Text}
    (holds : HoldsSetOf last top place)
    (same : ∀ rest, later.entryAt (place ++ rest) = top.entryAt (place ++ rest)) :
    HoldsSetOf last later place := by
  cases last with
  | none =>
      have nothing : top.entryAt place = none := Node.entryAt_eq_none_iff.mpr holds
      have still := same []
      rw [List.append_nil, nothing] at still
      exact Node.entryAt_eq_none_iff.mp still
  | some call =>
      obtain ⟨set, whole, entries⟩ := holds
      exact ⟨set, whole, fun rest => (same rest).trans (entries rest)⟩

theorem HoldsSetOf.filter_isFile {last : Option Call} {top : Node} {place : List Text}
    (holds : HoldsSetOf last top place) : (top.get? place).filter Node.isFile = none := by
  rw [filter_isFile_eq]
  cases last with
  | none =>
      have nothing : top.get? place = none := holds
      rw [nothing]
      rfl
  | some call =>
      obtain ⟨set, _, entries⟩ := holds
      have folder := entries []
      rw [List.append_nil] at folder
      have here : (top.get? place).map Node.entry = some .folder := folder
      rw [here]

/-! ## One call -/

theorem IsShelf.home (shelf : IsShelf root start returned disk) (call : Call) :
    (call.publication root).home disk = roomOf root start := by
  change Path.endOf (disk.base root) root.parts = _
  rw [shelf.base]
  rfl

theorem IsShelf.rootPlaces (shelf : IsShelf root start returned disk) (call : Call) :
    (call.publication root).rootPlaces disk = Path.way (start.base root) root.parts := by
  change Path.way (disk.base root) root.parts = _
  rw [shelf.base]

/-- A call that is undone leaves the shelf as it was. -/
theorem IsShelf.of_isUndone (emptyRoot : IsEmptyRoot root start)
    (shelf : IsShelf root start returned disk) {after : Disk} (proper : after.top.IsProper)
    (same : IsUndone (call.publication root) disk after)
    (base : after.base root = disk.base root) : IsShelf root start returned after := by
  refine ⟨base.trans shelf.base, proper, fun name => ?_, fun some' => ?_⟩
  · refine (shelf.holds name).of_entries fun rest => ?_
    rcases same (roomOf root start ++ [name] ++ rest) with equal | ⟨_, _, among⟩
    · exact equal
    · rw [List.nil_append, shelf.rootPlaces] at among
      exact absurd among (emptyRoot.not_mem_way ⟨name, List.prefix_append _ _⟩)
  · have followed := shelf.leads some'
    unfold Disk.locate at followed ⊢
    rw [base]
    exact Disk.walk_of_folders followed fun place isFolder => by
      have still : after.top.HasFolder ([] ++ place) := same.hasFolder isFolder
      exact still

/-- A call that is placed adds its set to the shelf, over what was there under its name. -/
theorem IsShelf.of_isPlaced (emptyRoot : IsEmptyRoot root start)
    (shelf : IsShelf root start returned disk) {after : Disk} (proper : after.top.IsProper)
    (free : disk.top.get? (Spot.backup.place (call.publication root) (roomOf root start)) = none)
    (placed : IsPlaced (call.publication root) call.files call.manifest disk after) :
    IsShelf root start (returned ++ [call]) after := by
  obtain ⟨⟨set, whole, target⟩, _, backup, others, way, base⟩ := placed
  rw [shelf.home] at target backup others way base
  rw [shelf.rootPlaces] at others way
  have outside : ∀ place ∈ Path.way (start.base root) root.parts,
      ¬ Spot.target.place (call.publication root) (roomOf root start) <+: place :=
    fun place member inside => emptyRoot.not_mem_way ⟨call.name, inside⟩ member
  have sameBase : after.base root = start.base root :=
    (base (by rw [show disk.base (call.publication root).root = start.base root from shelf.base]
              exact outside _ (Path.start_mem_way _ _))).trans shelf.base
  refine ⟨sameBase, proper, fun name => ?_, fun _ => ?_⟩
  · rw [latest_concat]
    by_cases same : call.name = name
    · rw [if_pos same, ← same]
      refine ⟨set, whole, fun rest => ?_⟩
      rw [Node.entryAt_append]
      exact congrArg (Option.bind · _) target
    · rw [if_neg same]
      refine (shelf.holds name).of_entries fun rest => ?_
      by_cases isBackup : Spot.backup.name (call.publication root) = name
      · -- nothing was at the backup, and no file was at the target that could be left there
        have now : after.top.get? (roomOf root start ++ [name]) = none := by
          rw [← isBackup]
          exact backup.trans (shelf.holds call.name).filter_isFile
        have before : disk.top.get? (roomOf root start ++ [name]) = none := by
          rw [← isBackup]
          exact free
        rw [Node.entryAt_append, Node.entryAt_append, now, before]
      · have apart {other : Text} (different : other ≠ name) :
            ¬ roomOf root start ++ [other] <+: roomOf root start ++ [name] ++ rest := by
          intro inside
          rw [List.append_assoc, List.prefix_append_right_inj] at inside
          exact different (List.cons_prefix_cons.mp inside).1
        rcases others _ (apart same) (apart isBackup) with equal | ⟨_, _, among⟩
        · exact equal
        · exact absurd among (emptyRoot.not_mem_way ⟨name, List.prefix_append _ _⟩)
  · unfold Disk.locate
    rw [sameBase]
    exact Disk.walk_of_way (fun place member => way place member (outside place member))
      emptyRoot.short

/-- The calls that have returned once one more was made. -/
def record (returned : List Call) (call : Call) : Except Abort Path → List Call
  | .ok _ => returned ++ [call]
  | .error _ => returned

/-- Each call keeps the shelf: if it returns, with its set under its name, else as it was. -/
theorem IsShelf.step (emptyRoot : IsEmptyRoot root start)
    (shelf : IsShelf root start returned disk) (sound : call.IsSound root)
    (free : BackupIsFree call.trouble (call.publication root) disk) :
    IsShelf root start (record returned call (call.perform root disk).2)
      (call.perform root disk).1.disk := by
  rcases performed : call.perform root disk with ⟨run, outcome⟩
  have proper : run.disk.top.IsProper := Disk.isProper_of_replay shelf.proper
    (settled_of_publish sound.token sound.plain free performed).trace.replay
  have lost : ¬ EntersTarget (call.publication root) disk (roomOf root start) := by
    intro enters
    have onWay := Path.mem_way_of_mem_entered enters
    rw [show disk.base (call.publication root).root = start.base root from shelf.base] at onWay
    exact emptyRoot.not_mem_way ⟨call.name, List.prefix_refl _⟩ onWay
  have ended := ended_of_publish sound.token sound.plain free sound.clears performed
  have freeBefore := free.at_start
  rw [shelf.home] at freeBefore
  cases ended with
  | undone abort same base => exact shelf.of_isUndone emptyRoot proper same base
  | stranded abort cause =>
      rw [shelf.home] at cause
      exact absurd sound.fault (cause.resolve_left lost)
  | placed placed _ => exact shelf.of_isPlaced emptyRoot proper freeBefore placed
  | unasked _ long _ =>
      rw [sound.short] at long
      cases long

/-! ## Calls one after another -/

theorem performAll_cons (root : Path) (call : Call) (rest : List Call) (disk : Disk) :
    performAll root (call :: rest) disk =
      (record [] call (call.perform root disk).2 ++
        (performAll root rest (call.perform root disk).1.disk).1,
       (performAll root rest (call.perform root disk).1.disk).2) := by
  rw [performAll]
  rcases call.perform root disk with ⟨run, outcome⟩
  cases outcome <;> rfl

theorem mem_of_performAll (returns : call ∈ (performAll root calls start).1) : call ∈ calls := by
  induction calls generalizing start with
  | nil => exact returns
  | cons first rest ih =>
      rw [performAll_cons, List.mem_append] at returns
      rcases returns with isFirst | inRest
      · cases outcome : (first.perform root start).2 with
        | error abort =>
            rw [outcome] at isFirst
            exact nomatch isFirst
        | ok path =>
            rw [outcome] at isFirst
            exact List.mem_singleton.mp isFirst ▸ List.mem_cons_self
      · exact List.mem_cons_of_mem _ (ih inRest)

/-- All calls together keep the shelf. -/
theorem IsShelf.performAll (emptyRoot : IsEmptyRoot root start)
    (shelf : IsShelf root start returned disk) (sound : ∀ call ∈ calls, call.IsSound root)
    (free : FindBackupsFree root calls disk) :
    IsShelf root start (returned ++ (performAll root calls disk).1)
      (performAll root calls disk).2 := by
  induction calls generalizing returned disk with
  | nil =>
      rw [Publication.performAll, List.append_nil]
      exact shelf
  | cons call rest ih =>
      have stepped := shelf.step emptyRoot (sound call List.mem_cons_self) free.1
      have onward :=
        ih stepped (fun call member => sound call (List.mem_cons_of_mem _ member)) free.2
      have same : ∀ others, record returned call (call.perform root disk).2 ++ others =
          returned ++ (record [] call (call.perform root disk).2 ++ others) := by
        intro others
        cases (call.perform root disk).2 <;> simp [record]
      rw [performAll_cons, ← same]
      exact onward

/-- The root as it is at first is a shelf with nothing on it. -/
theorem IsEmptyRoot.isShelf (emptyRoot : IsEmptyRoot root start) (proper : start.top.IsProper) :
    IsShelf root start [] start :=
  ⟨rfl, proper, emptyRoot.empty, fun impossible => absurd rfl impossible⟩

/-! ## What is listed -/

theorem find?_manifestFile_of_completeSet {files : List (Text × Text)} {manifest : Manifest}
    {set : Folder} (whole : completeSet files manifest = .ok set) :
    ∃ bytes, Utf8.encode manifest.stored = .ok bytes ∧
      Keyed.find? manifestFile set = some (.file bytes) := by
  rw [completeSet, written_append] at whole
  obtain ⟨known, _, last⟩ := Success.of_bind whole
  rw [written_singleton] at last
  obtain ⟨bytes, encoded, rfl⟩ := Success.of_map last
  exact ⟨bytes, encoded, by rw [Keyed.find?_insert, if_pos rfl]⟩

/-- The manifest of a call, if its counters are short enough to be read. -/
def Call.shown (call : Call) : Option Manifest :=
  if call.manifest.hasShortCounters then some call.manifest else none

theorem HoldsSetOf.hasFolder {top : Node} {place : List Text}
    (holds : HoldsSetOf (some call) top place) : top.HasFolder place := by
  obtain ⟨set, _, entries⟩ := holds
  have here := entries []
  rw [List.append_nil] at here
  exact Node.hasFolder_iff.mpr here

/-- What is read in the folder that holds the set of a call. -/
theorem HoldsSetOf.manifestIn {top : Node} {place : List Text}
    (holds : HoldsSetOf (some call) top place) (encodable : call.manifest.IsEncodable)
    {inside : Folder} (found : top.get? place = some (.folder inside)) :
    Listing.manifestIn inside = .ok call.shown := by
  obtain ⟨set, whole, entries⟩ := holds
  obtain ⟨bytes, encoded, stored⟩ := find?_manifestFile_of_completeSet whole
  refine Manifest.manifestIn_of_encode encodable encoded ?_
  have below := entries [manifestFile]
  rw [Node.entryAt_append, found] at below
  have isFile : (Node.folder inside).get? [manifestFile] = some (.file bytes) := by
    refine Node.get?_eq_file_iff.mpr (below.trans (Node.get?_eq_file_iff.mp ?_))
    rw [Node.get?_singleton, stored]
  rwa [Node.get?_singleton] at isFile

/-- The root is a folder, or nothing has been returned. -/
theorem IsShelf.folder? (emptyRoot : IsEmptyRoot root start)
    (shelf : IsShelf root start returned disk) :
    (∃ entries, disk.folder? root = .ok (some entries) ∧
        disk.top.get? (roomOf root start) = some (.folder entries)) ∨
      disk.folder? root = .ok none ∧ ∀ name, latest name returned = none := by
  unfold Disk.folder? Disk.look
  cases followed : disk.locate root with
  | ok there =>
      obtain rfl : there = roomOf root start := by
        unfold roomOf
        rw [← shelf.base]
        exact (Disk.way_of_walk followed).1
      by_cases isFolder : disk.top.HasFolder (roomOf root start)
      · obtain ⟨entries, found⟩ := isFolder
        exact .inl ⟨entries, by simp [found, Except.map], found⟩
      · refine .inr ⟨?_, fun name => ?_⟩
        · rcases found : disk.top.get? (roomOf root start) with _ | ⟨bytes⟩ | ⟨entries⟩
          · simp [found, Except.map]
          · simp [found, Except.map]
          · exact absurd ⟨entries, found⟩ isFolder
        · rw [Option.eq_none_iff_forall_ne_some]
          intro call last
          have holds := shelf.holds name
          rw [last] at holds
          exact isFolder (Node.hasFolder_above holds.hasFolder)
  | error fault =>
      have absent : returned = [] := by
        by_contra some'
        cases followed.symm.trans (shelf.leads some')
      have short : fault ≠ .tooLong := by
        rintro rfl
        exact Disk.walk_ne_tooLong emptyRoot.short followed
      refine .inr ⟨?_, fun name => absent ▸ rfl⟩
      cases fault <;> first | rfl | exact absurd rfl short

/-- A folder in the root holds what the last call under its name published. -/
theorem IsShelf.exists_latest (shelf : IsShelf root start returned disk) {name : Text}
    {inside : Folder}
    (here : disk.top.get? (roomOf root start ++ [name]) = some (.folder inside)) :
    ∃ call, latest name returned = some call ∧
      HoldsSetOf (some call) disk.top (roomOf root start ++ [name]) := by
  have holds := shelf.holds name
  cases last : latest name returned with
  | none =>
      rw [last] at holds
      cases here.symm.trans holds
  | some call => exact ⟨call, rfl, last ▸ holds⟩

/-- What is shown of the client with a name. -/
def shownUnder (returned : List Call) (name : Text) : Option Manifest :=
  (latest name returned).bind Call.shown

theorem shownUnder_of_latest {name : Text} (last : latest name returned = some call) :
    shownUnder returned name = call.shown := by
  rw [shownUnder, last, Option.bind_some]

section Clients

variable {entries : Folder} (shelf : IsShelf root start returned disk)
  (found : disk.top.get? (roomOf root start) = some (.folder entries))

include shelf found

/-- The clients in the root are those published under a name without a dot before it. -/
theorem IsShelf.exists_client_iff {name : Text} :
    (∃ inside, (name, inside) ∈ Listing.clients entries) ↔
      name.startsWith ['.'] = false ∧ ∃ call, latest name returned = some call := by
  constructor
  · rintro ⟨inside, member⟩
    obtain ⟨among, visible⟩ := Listing.mem_clients.mp member
    obtain ⟨call, last, _⟩ := shelf.exists_latest ((shelf.proper.mem_iff_get? found).mp among)
    exact ⟨visible, call, last⟩
  · rintro ⟨visible, call, last⟩
    have holds := shelf.holds name
    rw [last] at holds
    obtain ⟨inside, here⟩ := holds.hasFolder
    exact ⟨inside, Listing.mem_clients.mpr ⟨(shelf.proper.mem_iff_get? found).mpr here, visible⟩⟩

/-- In each client the manifest of its last call is read. -/
theorem IsShelf.manifestIn_of_mem (encodable : ∀ call ∈ returned, call.manifest.IsEncodable)
    {client : Text × Folder} (member : client ∈ Listing.clients entries) :
    Listing.manifestIn client.2 = .ok (shownUnder returned client.1) := by
  have here := (shelf.proper.mem_iff_get? found).mp (Listing.mem_clients.mp member).1
  obtain ⟨call, last, holds⟩ := shelf.exists_latest here
  rw [shownUnder_of_latest last]
  exact holds.manifestIn (encodable call (mem_of_latest last).1) here

end Clients

/-- The clients are listed in the order of their names, each with what it last published, but for
those whose names start with a dot. -/
theorem IsShelf.listed (emptyRoot : IsEmptyRoot root start)
    (shelf : IsShelf root start returned disk)
    (encodable : ∀ call ∈ returned, call.manifest.IsEncodable) :
    ∃ listed, Listing.ofRoot disk root = .ok listed ∧
      (listed.Pairwise fun one other => Text.isBefore one.1 other.1 = true) ∧
      ∀ name manifest?, (name, manifest?) ∈ listed ↔ name.startsWith ['.'] = false ∧
        ∃ call, latest name returned = some call ∧ manifest? = call.shown := by
  unfold Listing.ofRoot
  rcases shelf.folder? emptyRoot with ⟨entries, folder, found⟩ | ⟨noFolder, nothing⟩
  · have read := Listing.ofFolder_eq fun client => shelf.manifestIn_of_mem found encodable
    refine ⟨_, by rw [folder]; exact read,
      Listing.pairwise_listed (shelf.proper.get? found).distinct (shownUnder returned),
      fun name manifest? => ?_⟩
    rw [Listing.mem_listed, shelf.exists_client_iff found]
    constructor
    · rintro ⟨⟨visible, call, last⟩, rfl⟩
      exact ⟨visible, call, last, shownUnder_of_latest last⟩
    · rintro ⟨visible, call, last, rfl⟩
      exact ⟨⟨visible, call, last⟩, (shownUnder_of_latest last).symm⟩
  · rw [noFolder]
    refine ⟨[], rfl, .nil, fun name manifest? => ⟨fun absurdity => (nomatch absurdity), ?_⟩⟩
    rintro ⟨_, call, last, _⟩
    rw [nothing] at last
    cases last

/-! ## The root after all calls -/

/-- After any calls the root holds for each name what the last call that returned has published, and
nothing else. All of it is listed in the order of the names, but for names that start with a dot. -/
theorem holdsLatest_of_performAll (emptyRoot : IsEmptyRoot root start)
    (proper : start.top.IsProper) (sound : ∀ call ∈ calls, call.IsSound root)
    (free : FindBackupsFree root calls start) :
    HoldsLatest (performAll root calls start).1 (roomOf root start)
        (performAll root calls start).2.top ∧
      ∃ listed, Listing.ofRoot (performAll root calls start).2 root = .ok listed ∧
        (listed.Pairwise fun one other => Text.isBefore one.1 other.1 = true) ∧
        ∀ name manifest?, (name, manifest?) ∈ listed ↔ name.startsWith ['.'] = false ∧
          ∃ call, latest name (performAll root calls start).1 = some call ∧
            manifest? = call.shown := by
  have shelf := (emptyRoot.isShelf proper).performAll emptyRoot sound free
  rw [List.nil_append] at shelf
  exact ⟨shelf.holds, shelf.listed emptyRoot fun call returns =>
    (sound call (mem_of_performAll returns)).encodable⟩

/-- A disk with a folder for clients and nothing in it. -/
def bareShelf : Disk :=
  ⟨.folder [("x", .folder [])], []⟩

/-- A call that publishes a client there. -/
def shelfCall (name text : Text) (trouble : Trouble) : Call :=
  ⟨name, "k", [("types.ts", text)], { shelfManifest with name := name }, trouble⟩

theorem isSound_shelfCall {name text : Text} {trouble : Trouble}
    (encodable : (shelfCall name text trouble).manifest.IsEncodable)
    (fault : MeetsOneFault trouble)
    (clears : ClearsUp trouble ((shelfCall name text trouble).publication (.ofText "x")))
    (short : Disk.isTooLong
      (Spot.backup.name ((shelfCall name text trouble).publication (.ofText "x"))) = false) :
    (shelfCall name text trouble).IsSound (.ofText "x") := by
  have token : '/' ∉ "k".toList := by decide
  have plain : Path.IsPlain "types.ts" := Path.isPlain_of_length (by decide) (by decide)
  refine ⟨token, fun file member => ?_, encodable, fault, clears, short⟩
  rw [List.mem_singleton.mp member]
  exact plain

/-- The disk is full when a client that was set aside is to be replaced. -/
def fullAtEighth : Trouble :=
  fun number change => if number = 7 then fullAtSwap (onShelf "x") number change else none

theorem meetsOneFault_fullAtEighth : MeetsOneFault fullAtEighth := by
  constructor
  · intro number other change next met metNext
    have seventh {number : Nat} {change : Change} (met : fullAtEighth number change ≠ none) :
        number = 7 := by
      by_contra apart
      exact met (if_neg apart)
    exact (seventh met).trans (seventh metNext).symm
  · intro number change
    unfold fullAtEighth fullAtSwap
    split
    · split <;> exact fun met => nomatch met
    · exact fun met => nomatch met

theorem clearsUp_fullAtEighth (publication : Publication) : ClearsUp fullAtEighth publication := by
  constructor <;> intro number <;> exact ite_self none

/-- A client is published, not replaced and replaced at last, with two others in between. -/
def season : List Call :=
  [shelfCall "n" "a" .never, shelfCall ".h" "b" .never, shelfCall "n" "c" fullAtEighth,
    shelfCall "m" "d" .never, shelfCall "n" "e" .never]

theorem isSound_of_mem_season : ∀ call ∈ season, call.IsSound (.ofText "x") := by
  intro call member
  simp only [season, List.mem_cons, List.not_mem_nil, or_false] at member
  rcases member with rfl | rfl | rfl | rfl | rfl
  case inr.inr.inl =>
    exact isSound_shelfCall (by decide +kernel) meetsOneFault_fullAtEighth
      (clearsUp_fullAtEighth _) (by decide +kernel)
  all_goals
    exact isSound_shelfCall (by decide +kernel) meetsOneFault_never (clearsUp_never _)
      (by decide +kernel)

theorem holdsLatest_of_season :
    (performAll (.ofText "x") season bareShelf).1.map (fun call => (call.name, call.files)) =
        ([("n", [("types.ts", "a")]), (".h", [("types.ts", "b")]), ("m", [("types.ts", "d")]),
          ("n", [("types.ts", "e")])] : List (Text × List (Text × Text))) ∧
      HoldsLatest (performAll (.ofText "x") season bareShelf).1 ["x".toList]
        (performAll (.ofText "x") season bareShelf).2.top ∧
      ∃ listed, Listing.ofRoot (performAll (.ofText "x") season bareShelf).2 (.ofText "x") =
          .ok listed ∧
        (listed.Pairwise fun one other => Text.isBefore one.1 other.1 = true) ∧
        ∀ name manifest?, (name, manifest?) ∈ listed ↔ name.startsWith ['.'] = false ∧
          ∃ call, latest name (performAll (.ofText "x") season bareShelf).1 = some call ∧
            manifest? = call.shown := by
  have emptyRoot : IsEmptyRoot (.ofText "x") bareShelf := by
    refine ⟨fun name => rfl, ?_, by decide +kernel⟩
    decide +kernel
  have proper : bareShelf.top.IsProper := by
    refine .folder (by decide) fun entry member => ?_
    rw [List.mem_singleton.mp member]
    exact .folder List.nodup_nil fun _ none => nomatch none
  have free : FindBackupsFree (.ofText "x") season bareShelf := by
    refine ⟨?_, ?_, ?_, ?_, ?_, trivial⟩
    all_goals exact Node.entryAt_eq_none_iff.mp (by decide +kernel)
  exact ⟨by decide +kernel, holdsLatest_of_performAll emptyRoot proper isSound_of_mem_season free⟩

/-- The call's name leaves room for the staging folder's name but not for the backup's. -/
def longCall : Call :=
  ⟨List.replicate 230 'n', "0a1b2c3d", shelfFiles, shelfManifest, .never⟩

/-- A call under a long name does not return, but its client is there. -/
theorem long_call_left :
    (performAll (.ofText "x") [longCall] bareShelf).1 = [] ∧
      (performAll (.ofText "x") [longCall] bareShelf).2.top.entryAt
        ["x".toList, longCall.name] = some .folder := by
  decide +kernel

end ApiForge.Publication
