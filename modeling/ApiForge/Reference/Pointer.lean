import ApiForge.Decimal.Numeral
import ApiForge.Document.Value
import ApiForge.Failure

/-!
# Pointers

A pointer names a place of a document: a number sign, then a slash and an
escaped segment for every step. In a mapping the step goes to a key, in a list
to a position, which may be counted from the end.
-/

namespace ApiForge.Reference

/-- Undoes the two escapes: a tilde and `1` for a slash, a tilde and `0` for a tilde. -/
def unescape : Text → Text
  | '~' :: '1' :: rest => '/' :: unescape rest
  | '~' :: '0' :: rest => '~' :: unescape rest
  | letter :: rest => letter :: unescape rest
  | [] => []

/-- The key of a segment with the two escapes. -/
def escape (key : Text) : Text :=
  key.flatMap fun letter =>
    if letter = '~' then ['~', '0'] else if letter = '/' then ['~', '1'] else [letter]

theorem unescape_escape (key : Text) : unescape (escape key) = key := by
  induction key with
  | nil => rfl
  | cons letter rest ih =>
      by_cases tilde : letter = '~'
      · simpa [escape, tilde, unescape] using ih
      · by_cases slash : letter = '/'
        · simpa [escape, slash, unescape] using ih
        · have step : escape (letter :: rest) = letter :: escape rest := by
            simp [escape, tilde, slash]
          rw [step, unescape.eq_3 _ _ (fun _ same => absurd same tilde)
            (fun _ same => absurd same tilde), ih]

/-- The steps of an internal pointer; other references have none. -/
def segments? : Text → Option (List Text)
  | '#' :: '/' :: rest => some ((rest.splitOn '/').map unescape)
  | _ => none

/-- The item at a position, counted from the end if it is negative. -/
def itemAt? (items : List Value) (position : Int) : Option Value :=
  match position with
  | .ofNat index => items[index]?
  | .negSucc index => items.reverse[index]?

/-- One step into a value. -/
def step (current : Value) (segment : Text) : Except ReferenceFault Value :=
  match current with
  | .map entries =>
      match Entries.field? segment entries with
      | some value => .ok value
      | none => .error (.noKey segment)
  | .list items =>
      match (Numeral.integer? segment).bind (itemAt? items) with
      | some value => .ok value
      | none => .error (.badIndex segment)
  | other => .error (.notContainer other.kindName)

/-- The value that the steps lead to. -/
def walk : Value → List Text → Except ReferenceFault Value
  | current, [] => .ok current
  | current, segment :: rest =>
      match step current segment with
      | .ok next => walk next rest
      | .error fault => .error fault

/-- The value that a reference names in a document. -/
def target (root : Value) (reference : Text) : Except Failure Value :=
  match segments? reference with
  | none => .error (.unresolvable reference .external)
  | some segments =>
      match walk root segments with
      | .ok value => .ok value
      | .error fault => .error (.unresolvable reference fault)

end ApiForge.Reference
