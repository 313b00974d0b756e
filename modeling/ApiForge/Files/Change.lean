import ApiForge.Files.Disk

/-!
# Changes

The disk changes one step at a time: a folder comes into being, a file becomes
empty or gets its text, something moves, a folder goes away. A run of changes
remembers those that were made, so that making them again one by one passes
through the same states. Any step may be in trouble for a reason outside.
-/

namespace ApiForge

inductive Change where
  | createFolder (path : Path)
  | emptyFile (path : Path)
  | fillFile (path : Path) (text : Text)
  | move (source target : Path)
  | removeFolder (path : Path)
  deriving DecidableEq, Repr

namespace Disk

/-- The place for a change, or why the path does not lead to one. -/
def placeFor (disk : Disk) (path : Path) : Except FileFault (List Text) :=
  if path.parts.any (·.contains '\x00') then .error .unforeseen
  else
    match disk.locate path with
    | .ok names => .ok names
    | .error cause => .error (.place cause path.spell)

def putNode (disk : Disk) (names : List Text) (node : Node) : Disk :=
  { disk with top := disk.top.put names node }

def createFolder (disk : Disk) (path : Path) : Except FileFault Disk := do
  let names ← disk.placeFor path
  match disk.top.get? names with
  | some _ => .error (.place .present path.spell)
  | none => .ok (disk.putNode names (.folder []))

/-- Puts a file with these bytes in the place of a path. -/
def putFile (disk : Disk) (path : Path) (bytes : List UInt8) : Except FileFault Disk := do
  let names ← disk.placeFor path
  match disk.top.get? names with
  | some (.folder _) => .error (.place .isFolder path.spell)
  | _ => .ok (disk.putNode names (.file bytes))

def fillFile (disk : Disk) (path : Path) (text : Text) : Except FileFault Disk :=
  match Utf8.encode text with
  | .ok bytes => disk.putFile path bytes
  | .error stretch => .error (.unencodable stretch)

/-- Why one node cannot take the place of another. -/
def replaceFault? : Node → Option Node → Option PlaceFault
  | _, none => none
  | .file _, some (.file _) => none
  | .file _, some (.folder _) => some .isFolder
  | .folder _, some (.file _) => some .notFolder
  | .folder _, some (.folder entries) => if entries.isEmpty then none else some .notEmpty

/-- Where a place is found after what stands at `start` was moved to `goal`. -/
def relocate (start goal place : List Text) : List Text :=
  if start <+: place then goal ++ place.drop start.length else place

/-- Moves what is at a path. The current folder stays the same folder, also when it moves. -/
def move (disk : Disk) (source target : Path) : Except FileFault Disk :=
  let refuse (cause : PlaceFault) : Except FileFault Disk :=
    .error (.move cause source.spell target.spell)
  match disk.locate source, disk.locate target with
  | .error cause, _ => refuse cause
  | .ok _, .error cause => refuse cause
  | .ok start, .ok goal =>
      match disk.top.get? start with
      | none => refuse .absent
      | some node =>
          match replaceFault? node (disk.top.get? goal) with
          | some cause => refuse cause
          | none =>
              .ok ⟨(disk.top.remove start).put goal node, relocate start goal disk.place⟩

/-- Takes a folder away with all it holds. -/
def removeFolder (disk : Disk) (path : Path) : Except FileFault Disk := do
  let names ← disk.placeFor path
  match disk.top.get? names with
  | some (.folder _) => .ok { disk with top := disk.top.remove names }
  | some (.file _) => .error (.place .notFolder path.spell)
  | none => .error (.place .absent path.spell)

def apply (disk : Disk) : Change → Except FileFault Disk
  | .createFolder path => disk.createFolder path
  | .emptyFile path => disk.putFile path []
  | .fillFile path text => disk.fillFile path text
  | .move source target => disk.move source target
  | .removeFolder path => disk.removeFolder path

end Disk

/-- The trouble that a change meets when it is the one with this number, counted from zero. -/
abbrev Trouble := Nat → Change → Option FileFault

/-- No change is ever in trouble. -/
def Trouble.never : Trouble :=
  fun _ _ => none

/-- A disk in the course of changes: how many were tried, and which were made, each with the number
of its try. -/
structure Run where
  disk : Disk
  tried : Nat
  made : List (Nat × Change)
  deriving Repr

namespace Run

def start (disk : Disk) : Run :=
  ⟨disk, 0, []⟩

/-- Tries a change; one in trouble or without its place leaves the disk as it was. -/
def attempt (trouble : Trouble) (change : Change) (run : Run) : Run × Option FileFault :=
  match trouble run.tried change with
  | some fault => ({ run with tried := run.tried + 1 }, some fault)
  | none =>
      match run.disk.apply change with
      | .ok disk => (⟨disk, run.tried + 1, run.made ++ [(run.tried, change)]⟩, none)
      | .error fault => ({ run with tried := run.tried + 1 }, some fault)

/-- Tries changes in order until one cannot be made. -/
def attemptAll (trouble : Trouble) : List Change → Run → Run × Option FileFault
  | [], run => (run, none)
  | change :: rest, run =>
      match run.attempt trouble change with
      | (run, none) => attemptAll trouble rest run
      | (run, some fault) => (run, some fault)

/-- The outcome of creating a folder that may be there already. -/
def settle (path : Path) (run : Run) (fault : FileFault) : Run × Option FileFault :=
  match run.disk.isFolder path with
  | .ok true => (run, none)
  | _ => (run, some fault)

/-- Makes sure of the folder whose path has these parts, the last one first; folders on the way
that are absent are made too. -/
def ensureParts (trouble : Trouble) (anchor : Text) : List Text → Run → Run × Option FileFault
  | [], run =>
      let path : Path := ⟨anchor, []⟩
      match run.attempt trouble (.createFolder path) with
      | (run, none) => (run, none)
      | (run, some fault) => run.settle path fault
  | last :: before, run =>
      let path : Path := ⟨anchor, (last :: before).reverse⟩
      match run.attempt trouble (.createFolder path) with
      | (run, none) => (run, none)
      | (run, some fault) =>
          if fault.isAbsence then
            match ensureParts trouble anchor before run with
            | (run, some fault) => (run, some fault)
            | (run, none) =>
                match run.attempt trouble (.createFolder path) with
                | (run, none) => (run, none)
                | (run, some fault) => run.settle path fault
          else run.settle path fault

def ensureFolder (trouble : Trouble) (path : Path) (run : Run) : Run × Option FileFault :=
  run.ensureParts trouble path.anchor path.parts.reverse

/-- The changes that give a file its text. -/
def writing (path : Path) (text : Text) : List Change :=
  [.emptyFile path, .fillFile path text]

end Run

end ApiForge
