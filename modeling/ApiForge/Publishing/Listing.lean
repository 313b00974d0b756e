import ApiForge.Publishing.Publish

/-!
# Listing

The clients under an output root are its folders whose names do not start with
a dot, in the order of their names, each with its manifest if that can be read.
-/

namespace ApiForge.Listing

/-- The manifest in a folder, if there is one that can be read. -/
def manifestIn (entries : Folder) : Except Abort (Option Manifest) :=
  match Keyed.find? Publication.manifestFile entries with
  | some (.file bytes) => (Disk.textOf bytes).map Manifest.ofText?
  | _ => .ok none

/-- The manifest in the folder at a path. -/
def manifestAt (disk : Disk) (path : Path) : Except Abort (Option Manifest) := do
  match ← disk.folder? path with
  | some entries => manifestIn entries
  | none => pure none

/-- The folders among entries whose names do not start with a dot. -/
def clients (entries : Folder) : List (Text × Folder) :=
  entries.filterMap fun (name, node) =>
    match node with
    | .folder inside => if name.startsWith ['.'] then none else some (name, inside)
    | .file _ => none

/-- The clients among entries, each with its manifest. -/
def ofFolder (entries : Folder) : Except Abort (List (Text × Option Manifest)) :=
  (Text.sortBy (·.1) (clients entries)).mapM fun (name, inside) =>
    (manifestIn inside).map (name, ·)

/-- The clients under an output root; there are none if it is no folder. -/
def ofRoot (disk : Disk) (root : Path) : Except Abort (List (Text × Option Manifest)) := do
  match ← disk.folder? root with
  | some entries => ofFolder entries
  | none => pure []

end ApiForge.Listing
