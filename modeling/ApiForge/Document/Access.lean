import ApiForge.Document.Display
import ApiForge.Failure

/-!
# Access to values of any shape

A description that was not validated may hold any value where a list, a mapping
or a text is meant. A text counts as the list of its characters and a mapping as
the list of its keys; where a value cannot be used at all, nothing is prepared
for it.
-/

namespace ApiForge

/-- The result, which only an unforeseen shape lacks. -/
def foreseen {α : Type} : Option α → Except Abort α
  | some value => .ok value
  | none => .error .unforeseen

namespace Value

/-- The elements of a value in order. -/
def elements? : Value → Option (List Value)
  | .list items => some items
  | .map entries => some (entries.map fun entry => .scalar entry.1)
  | .set members => some (members.map .scalar)
  | .pair first second => some [first, second]
  | .scalar (.str text) => some (text.map fun letter => .str [letter])
  | .scalar (.bytes bytes) => some (bytes.map fun byte => .int byte.toNat)
  | .scalar _ => none

def entries? : Value → Option Entries
  | .map entries => some entries
  | _ => none

/-- The value is this text. -/
def isText (text : Text) (value : Value) : Bool :=
  value.text? == some text

/-- A text holds the part as a stretch; a collection holds it as an element. -/
def mentions? (part : Text) : Value → Option Bool
  | .scalar (.str text) => some (text.holds part)
  | .list items => some (items.any (isText part))
  | .map entries => some (Entries.contains (.str part) entries)
  | .set members => some (members.contains (.str part))
  | .pair first second => some (first.isText part || second.isText part)
  | .scalar _ => none

/-- The element at the start: of a mapping, the value of the key zero. -/
def first? : Value → Option Value
  | .list items => items.head?
  | .map entries => Entries.find? (.int 0) entries
  | .pair first _ => some first
  | .scalar (.str text) => text.head?.map fun letter => .str [letter]
  | .scalar (.bytes bytes) => bytes.head?.map fun byte => .int byte.toNat
  | _ => none

/-- The value under a key, or null. -/
def fieldOrNull (name : Text) (entries : Entries) : Value :=
  (Entries.field? name entries).getD .null

/-- The value under a key if it holds, or another one. -/
def fieldOr (name : Text) (entries : Entries) (other : Value) : Value :=
  match Entries.field? name entries with
  | some value => if value.holds then value else other
  | none => other

/-- The value under a key as entries, none if it does not hold. -/
def fieldEntries (name : Text) (entries : Entries) : Except Abort Entries :=
  foreseen (fieldOr name entries (.map [])).entries?

/-- The value under a key as elements, none if it does not hold. -/
def fieldElements (name : Text) (entries : Entries) : Except Abort (List Value) :=
  foreseen (fieldOr name entries (.list [])).elements?

end Value

end ApiForge
