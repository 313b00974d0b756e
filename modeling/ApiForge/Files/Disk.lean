import ApiForge.Failure
import ApiForge.Files.Fault
import ApiForge.Files.Node
import ApiForge.Files.Path

/-!
# The disk

A tree of folders and the folder that paths start from. A path leads through
folders part by part; what its last part names need not be there.
-/

namespace ApiForge

structure Disk where
  top : Node
  place : List Text
  deriving Repr

namespace Disk

/-- A disk with an empty folder as the current one. -/
def empty (name : Text) : Disk :=
  ⟨.folder [(name, .folder [])], [name]⟩

/-- Names have at most 255 bytes. -/
def isTooLong (name : Text) : Bool :=
  255 < (name.flatMap Utf8.encodeChar).length

/-- Follows the parts from a place. -/
def walk (top : Node) (here : List Text) : List Text → Except PlaceFault (List Text)
  | [] => .ok here
  | part :: rest =>
      match top.get? here with
      | none => .error .absent
      | some (.file _) => .error .notFolder
      | some (.folder _) =>
          if part = ['.', '.'] then walk top here.dropLast rest
          else if isTooLong part then .error .tooLong
          else walk top (here ++ [part]) rest

/-- The place that a path starts from. -/
def base (disk : Disk) (path : Path) : List Text :=
  if path.isAnchored then [] else disk.place

/-- The names from the top to the place that a path leads to. -/
def locate (disk : Disk) (path : Path) : Except PlaceFault (List Text) :=
  walk disk.top (disk.base path) path.parts

/-- What is at a path. A name that is too long to ask for is not foreseen. -/
def look (disk : Disk) (path : Path) : Except Abort (Option Node) :=
  match disk.locate path with
  | .ok names => .ok (disk.top.get? names)
  | .error .tooLong => .error .unforeseen
  | .error _ => .ok none

def isPresent (disk : Disk) (path : Path) : Except Abort Bool :=
  (disk.look path).map (·.isSome)

def isFile (disk : Disk) (path : Path) : Except Abort Bool :=
  (disk.look path).map fun found => (found.map (·.isFile)).getD false

def isFolder (disk : Disk) (path : Path) : Except Abort Bool :=
  (disk.look path).map fun found => (found.map (·.isFolder)).getD false

/-- The entries of the folder at a path, if there is one. -/
def folder? (disk : Disk) (path : Path) : Except Abort (Option Folder) :=
  (disk.look path).map fun found =>
    match found with
    | some (.folder entries) => some entries
    | _ => none

/-- The current folder as a path from the top. -/
def current (disk : Disk) : Path :=
  .ofSteps disk.place

/-- The path from the top to what a path leads to. -/
def absolute (disk : Disk) (path : Path) : Path :=
  match disk.locate path with
  | .ok names => .ofSteps names
  | .error _ => disk.current.append path

/-- A text with every line end as a line feed. -/
def unifyLineEnds : Text → Text
  | [] => []
  | '\r' :: '\n' :: rest => '\n' :: unifyLineEnds rest
  | '\r' :: rest => '\n' :: unifyLineEnds rest
  | letter :: rest => letter :: unifyLineEnds rest

/-- The text of a file's bytes; bytes that are no UTF-8 are not foreseen. -/
def textOf (bytes : List UInt8) : Except Abort Text :=
  match Utf8.decodeStrict? bytes with
  | some text => .ok (unifyLineEnds text)
  | none => .error .unforeseen

/-- The text of the file at a path, if there is one. -/
def readText? (disk : Disk) (path : Path) : Except Abort (Option Text) := do
  match ← disk.look path with
  | some (.file bytes) => (textOf bytes).map some
  | _ => pure none

end Disk

end ApiForge
