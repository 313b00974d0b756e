import ApiForge.Document.Value
import ApiForge.Failure

/-!
# Checked fields

A record is read field by field. All faults are collected, in the order of the
fields, and the record exists only if there is none.
-/

namespace ApiForge

def Checked (α : Type) : Type :=
  Except (List FieldFault) α

namespace Checked

def map {α β : Type} (function : α → β) (value : Checked α) : Checked β :=
  Except.map function value

/-- Refuses a value. -/
def refuse {α : Type} (cause : FieldCause) : Checked α :=
  .error [⟨[], cause⟩]

/-- Gives a function one more field. -/
def and {α β : Type} (function : Checked (α → β)) (field : Checked α) : Checked β :=
  match function, field with
  | .ok function, .ok value => .ok (function value)
  | .ok _, .error faults => .error faults
  | .error faults, .ok _ => .error faults
  | .error faults, .error others => .error (faults ++ others)

/-- All values in order. -/
def all {α : Type} : List (Checked α) → Checked (List α)
  | [] => .ok []
  | first :: rest => Checked.and (first.map List.cons) (all rest)

/-- The value as seen from the record around it. -/
def within {α : Type} (place : Text) : Checked α → Checked α
  | .ok value => .ok value
  | .error faults => .error (faults.map (·.within place))

/-- A record outside of which nothing is checked any more. -/
def orAbort {α : Type} : Checked α → Except Abort α
  | .ok value => .ok value
  | .error faults => .error (.malformed faults)

/-- A text. -/
def text : Value → Checked Text
  | .scalar (.str text) => .ok text
  | _ => refuse .notText

/-- A value that may be absent. -/
def optional {α : Type} (read : Value → Checked α) (value : Value) : Checked (Option α) :=
  if value.isNull then .ok none else (read value).map some

/-- A text that may be absent. -/
def optionalText : Value → Checked (Option Text) :=
  optional text

end Checked

end ApiForge
