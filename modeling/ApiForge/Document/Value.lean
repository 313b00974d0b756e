import ApiForge.Calendar
import ApiForge.Decimal.Binary64

/-!
# Document values

What a JSON or YAML document can hold. Mappings keep the order in which their
keys first appeared. A key is a scalar; two keys are the same key if they are
equal as numbers, with truth values counting as zero and one, or equal as
anything else.
-/

namespace ApiForge

inductive Scalar where
  | null
  | bool (value : Bool)
  | int (value : Int)
  | float (value : Binary64)
  | str (value : Text)
  | date (value : Date)
  | moment (value : Moment)
  | bytes (value : List UInt8)
  deriving DecidableEq, Repr

namespace Scalar

/-- The number that a scalar counts as: an integer if it equals one. -/
def number? : Scalar → Option (Int ⊕ Binary64)
  | .bool value => some (.inl (if value then 1 else 0))
  | .int value => some (.inl value)
  | .float value =>
      match value.toInt? with
      | some whole => some (.inl whole)
      | none => some (.inr value)
  | _ => none

/-- The two scalars are one key. -/
def isSameKey (first second : Scalar) : Bool :=
  match first.number?, second.number? with
  | some (.inr .nan), _ => false
  | some one, some other => one == other
  | none, none =>
      match first, second with
      | .moment one, .moment other => one.isSameTime other
      | _, _ => first == second
  | _, _ => false

end Scalar

inductive Value where
  | scalar (value : Scalar)
  | list (items : List Value)
  | map (entries : List (Scalar × Value))
  | set (members : List Scalar)
  | pair (first second : Value)
  deriving Repr

/-- The entries of a mapping, in order. -/
abbrev Entries := List (Scalar × Value)

namespace Entries

def find? (key : Scalar) (entries : Entries) : Option Value :=
  (List.find? (fun entry => entry.1.isSameKey key) entries).map (·.2)

def contains (key : Scalar) (entries : Entries) : Bool :=
  entries.any fun entry => entry.1.isSameKey key

/-- Gives a key a value: in the place of the key if it is there, at the end otherwise. -/
def insert (key : Scalar) (value : Value) : Entries → Entries
  | [] => [(key, value)]
  | (other, old) :: rest =>
      if other.isSameKey key then (other, value) :: rest
      else (other, old) :: insert key value rest

/-- The entries in order, the last value of a repeated key in the place of the first. -/
def ofList (pairs : Entries) : Entries :=
  pairs.foldl (fun entries (key, value) => insert key value entries) []

def field? (name : Text) (entries : Entries) : Option Value :=
  find? (.str name) entries

end Entries

namespace Value

abbrev null : Value := .scalar .null
abbrev bool (value : Bool) : Value := .scalar (.bool value)
abbrev int (value : Int) : Value := .scalar (.int value)
abbrev float (value : Binary64) : Value := .scalar (.float value)
abbrev str (value : Text) : Value := .scalar (.str value)

instance : Inhabited Value := ⟨.null⟩

def isNull : Value → Bool
  | .scalar .null => true
  | _ => false

/-- The value under a key of a mapping; nothing else has fields. -/
def field? (name : Text) : Value → Option Value
  | .map entries => Entries.field? name entries
  | _ => none

def text? : Value → Option Text
  | .scalar (.str text) => some text
  | _ => none

def isMap : Value → Bool
  | .map _ => true
  | _ => false

/-- Empty, zero, false and absent values do not hold. -/
def holds : Value → Bool
  | .scalar .null => false
  | .scalar (.bool value) => value
  | .scalar (.int value) => value != 0
  | .scalar (.float value) => !value.isZero
  | .scalar (.str value) => !value.isEmpty
  | .scalar (.bytes value) => !value.isEmpty
  | .scalar _ => true
  | .list items => !items.isEmpty
  | .map entries => !entries.isEmpty
  | .set members => !members.isEmpty
  | .pair _ _ => true

/-- The value, with an absent one in the place of one that does not hold. -/
def orNull : Option Value → Value
  | some value => if value.holds then value else .null
  | none => .null

/-- The kind of a value in messages. -/
def kindName : Value → Text
  | .scalar .null => "NoneType"
  | .scalar (.bool _) => "bool"
  | .scalar (.int _) => "int"
  | .scalar (.float _) => "float"
  | .scalar (.str _) => "str"
  | .scalar (.date _) => "date"
  | .scalar (.moment _) => "datetime"
  | .scalar (.bytes _) => "bytes"
  | .list _ => "list"
  | .map _ => "dict"
  | .set _ => "set"
  | .pair _ _ => "tuple"

end Value

end ApiForge
