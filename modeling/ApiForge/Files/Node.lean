import ApiForge.Text.Keyed

/-!
# Folders

A folder holds files and folders by name. A list of names leads from a folder
to what is inside it.
-/

namespace ApiForge

inductive Node where
  | file (bytes : List UInt8)
  | folder (entries : List (Text × Node))
  deriving Repr

abbrev Folder :=
  List (Text × Node)

namespace Node

def isFile : Node → Bool
  | .file _ => true
  | .folder _ => false

def isFolder : Node → Bool
  | .file _ => false
  | .folder _ => true

/-- What the names lead to. -/
def get? : List Text → Node → Option Node
  | [], node => some node
  | _ :: _, .file _ => none
  | name :: rest, .folder entries => (Keyed.find? name entries).bind (get? rest)

/-- Changes the entries of the folder that the names lead to; nothing changes if there is none. -/
def changeAt (change : Folder → Folder) : List Text → Node → Node
  | _, .file bytes => .file bytes
  | [], .folder entries => .folder (change entries)
  | name :: rest, .folder entries =>
      match Keyed.find? name entries with
      | some node => .folder (Keyed.insert name (changeAt change rest node) entries)
      | none => .folder entries

/-- Puts a node in the place that the names lead to, over what is there. -/
def put (top : Node) (names : List Text) (node : Node) : Node :=
  match names.getLast? with
  | some name => top.changeAt (Keyed.insert name node) names.dropLast
  | none => node

/-- Takes what the names lead to out of its folder. -/
def remove (top : Node) (names : List Text) : Node :=
  match names.getLast? with
  | some name => top.changeAt (Keyed.erase name) names.dropLast
  | none => top

/-- A folder that was changed is found with its change. -/
theorem get?_changeAt (change : Folder → Folder) {names : List Text} {top : Node} {entries : Folder}
    (found : get? names top = some (.folder entries)) :
    get? names (changeAt change names top) = some (.folder (change entries)) := by
  induction names generalizing top with
  | nil =>
      simp only [get?, Option.some.injEq] at found
      simp [found, changeAt, get?]
  | cons name rest ih =>
      cases top with
      | file bytes => simp [get?] at found
      | folder others =>
          cases here : Keyed.find? name others with
          | none => simp [get?, here] at found
          | some node =>
              simp only [get?, here, Option.bind_some] at found
              simp [changeAt, here, get?, Keyed.find?_insert, ih found]

end Node

end ApiForge
