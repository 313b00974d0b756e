import ApiForge.Document.Value
import ApiForge.Text.LowerCase
import ApiForge.Yaml.Base64
import ApiForge.Yaml.Node
import ApiForge.Yaml.Number

/-!
# Values of nodes

The tag of a node says how its value is made. A merge key brings the entries of
other mappings in front of a mapping's own. Where several nodes have no value,
the one nearest to the root counts, and of those the first.
-/

namespace ApiForge.Yaml

/-- What stops the making of a value, with the depth of the collection that it stops. -/
abbrev Stops := List (Nat × Stop)

def stopAt {α : Type} (depth : Nat) (stop : Stop) : Except Stops α :=
  .error [(depth, stop)]

/-- Both results, or what stops either. -/
def both {α β : Type} (first : Except Stops α) (second : Except Stops β) :
    Except Stops (α × β) :=
  match first, second with
  | .ok one, .ok other => .ok (one, other)
  | .error one, .error other => .error (one ++ other)
  | .error one, .ok _ => .error one
  | .ok _, .error other => .error other

/-- All results, or what stops any. -/
def every {α : Type} : List (Except Stops α) → Except Stops (List α)
  | [] => .ok []
  | first :: rest => (both first (every rest)).map fun (one, others) => one :: others

/-- The stop at the least depth, the first of several. -/
def firstStop (stops : Stops) : Stop :=
  let least := (stops.map (·.1)).foldl min (stops.headD (0, .unforeseen)).1
  ((stops.find? (·.1 == least)).map (·.2)).getD .unforeseen

mutual

/-- How many nodes are on the longest way down, this one included. -/
def Node.depth : Node → Nat
  | .sequence _ items => depthOfItems items + 1
  | .mapping _ entries => depthOfEntries entries + 1
  | _ => 1
  termination_by structural node => node

def depthOfItems : List Node → Nat
  | [] => 0
  | item :: rest => max item.depth (depthOfItems rest)
  termination_by structural items => items

def depthOfEntries : List (Node × Node) → Nat
  | [] => 0
  | (key, value) :: rest => max (max key.depth value.depth) (depthOfEntries rest)
  termination_by structural entries => entries

end

mutual

/-- A node stands inside itself. -/
def Node.hasCycle : Node → Bool
  | .scalar .. => false
  | .sequence _ items => cycleInItems items
  | .mapping _ entries => cycleInEntries entries
  | .cycle => true
  termination_by structural node => node

def cycleInItems : List Node → Bool
  | [] => false
  | item :: rest => item.hasCycle || cycleInItems rest
  termination_by structural items => items

def cycleInEntries : List (Node × Node) → Bool
  | [] => false
  | (key, value) :: rest => key.hasCycle || value.hasCycle || cycleInEntries rest
  termination_by structural entries => entries

end

/-- The default key counts as a text among the keys of a mapping. -/
def plainKey : Node → Node
  | .scalar tag text => if tag = standardTag "value" then .scalar (standardTag "str") text
      else .scalar tag text
  | .sequence tag items => if tag = standardTag "value" then .sequence (standardTag "str") items
      else .sequence tag items
  | .mapping tag entries => if tag = standardTag "value" then .mapping (standardTag "str") entries
      else .mapping tag entries
  | .cycle => .cycle

/-- The entries that a merge key's value brings. `fuel` bounds the nesting of merges. -/
def mergedEntries : Nat → Node → Except Stop (List (Node × Node))
  | 0, _ => .error .unforeseen
  | fuel + 1, node =>
      match node with
      | .mapping _ entries => flattened fuel entries
      | .sequence _ items => do
          let parts ← items.mapM fun item =>
            match item with
            | .mapping _ entries => flattened fuel entries
            | .cycle => .error .unforeseen
            | _ => refuse (.badContent "merge")
          pure parts.reverse.flatten
      | .cycle => .error .unforeseen
      | .scalar .. => refuse (.badContent "merge")
where
  /-- The entries with those that merge keys bring in front. -/
  flattened (fuel : Nat) (entries : List (Node × Node)) : Except Stop (List (Node × Node)) := do
    let isMerge (entry : Node × Node) : Bool := entry.1.tag == standardTag "merge"
    let merged ← (entries.filter isMerge).mapM fun entry => mergedEntries fuel entry.2
    let own := (entries.filter (!isMerge ·)).map fun (key, value) => (plainKey key, value)
    pure (merged.flatten ++ own)

/-- The text of a scalar. A mapping stands for the value of its default key. -/
def textOf? : Nat → Node → Option Text
  | 0, _ => none
  | fuel + 1, node =>
      match node with
      | .scalar _ text => some text
      | .mapping _ entries =>
          match entries.find? (·.1.tag == standardTag "value") with
          | some (_, value) => textOf? fuel value
          | none => none
      | _ => none

def truth? (text : Text) : Option Bool :=
  let small := text.lower
  if small = "yes" ∨ small = "true" ∨ small = "on" then some true
  else if small = "no" ∨ small = "false" ∨ small = "off" then some false
  else none

def number (digits : Text) : Nat :=
  (Numeral.natural? 10 digits).getD 0

/-- The microseconds of a fraction's first six digits. -/
def microseconds (fraction : Text) : Nat :=
  let digits := fraction.take 6
  number (digits ++ List.replicate (6 - digits.length) '0')

/-- The offset of a zone in minutes. -/
def offsetOf : Option (Option (Char × Text × Text)) → Option Int
  | none => none
  | some none => some 0
  | some (some (sign, hours, minutes)) =>
      let offset : Int := (number hours * 60 + number minutes : Nat)
      some (if sign = '-' then -offset else offset)

/-- The day or moment of its parts, if the calendar has it. -/
def momentOf? (parts : MomentParts) : Option Scalar :=
  let date : Date := ⟨number parts.year, number parts.month, number parts.day⟩
  match parts.time with
  | none => if date.isValid then some (.date date) else none
  | some (hour, minute, second, fraction) =>
      let moment : Moment :=
        ⟨date, number hour, number minute, number second, microseconds fraction,
          offsetOf parts.zone⟩
      if moment.isValid then some (.moment moment) else none

/-- What is known about the value of a scalar with a standard tag: it has one, or why not. -/
def scalarOf (kind text : Text) : Except Stop Scalar :=
  let orUnforeseen (found : Option Scalar) : Except Stop Scalar :=
    match found with
    | some scalar => .ok scalar
    | none => .error .unforeseen
  if kind = "null" then .ok .null
  else if kind = "bool" then orUnforeseen ((truth? text).map .bool)
  else if kind = "int" then orUnforeseen ((whole? text).map .int)
  else if kind = "float" then orUnforeseen ((decimal? text).map .float)
  else if kind = "binary" then
    match base64? text with
    | some bytes => .ok (.bytes bytes)
    | none => refuse (.badContent kind)
  else if kind = "timestamp" then
    orUnforeseen ((momentParts? (withoutFinalBreak text)).bind momentOf?)
  else if kind = "str" then .ok (.str text)
  else refuse (.noConstructor kind)

def scalarKinds : List Text :=
  ["null", "bool", "int", "float", "binary", "timestamp", "str"]

def collectionKinds : List Text :=
  ["seq", "map", "set", "omap", "pairs"]

/-- The name of a standard tag. -/
def kindOf? (tag : Text) : Option Text :=
  let start := standardTag []
  if tag.startsWith start then some (tag.drop start.length) else none

/-- A scalar is a key; nothing else can be one. -/
def keyOf (depth : Nat) : Except Stops Value → Except Stops Scalar
  | .ok (.scalar key) => .ok key
  | .ok _ => stopAt depth (.fault .unusableKey)
  | .error stops => .error stops

/-- The value of a node in a collection at `depth`. `fuel` bounds the nodes on the way down. -/
def valueIn : Nat → Nat → Node → Except Stops Value
  | 0, depth, _ => stopAt depth .unforeseen
  | fuel + 1, depth, node =>
      let inner := depth + 1
      let kind := (kindOf? node.tag).getD []
      let items (found : List Node) : Except Stops (List Value) :=
        every (found.map (valueIn fuel inner))
      let pairs (found : List (Node × Node)) : Except Stops Entries :=
        every (found.map fun (key, value) =>
          both (keyOf inner (keyValue fuel inner key)) (valueIn fuel inner value))
      match node with
      | .cycle => .ok .null
      | node =>
          if scalarKinds.contains kind then scalarValue depth kind node
          else if kind = "seq" then
            match node with
            | .sequence _ found => (items found).map .list
            | _ => stopAt inner (.fault (.badContent kind))
          else if kind = "map" ∨ kind = "set" then
            match node with
            | .mapping _ entries =>
                match mergedEntries.flattened node.depth entries with
                | .error stop => stopAt inner stop
                | .ok entries =>
                    (pairs entries).map fun found =>
                      if kind = "set" then .set ((Entries.ofList found).map (·.1))
                      else .map (Entries.ofList found)
            | _ => stopAt inner (.fault (.badContent kind))
          else if kind = "omap" ∨ kind = "pairs" then
            match node with
            | .sequence _ found =>
                (every (found.map fun item =>
                  match item with
                  | .mapping _ [(key, value)] =>
                      (both (valueIn fuel inner key) (valueIn fuel inner value)).map
                        fun (first, second) => .pair first second
                  | _ => stopAt inner (.fault (.badContent kind)))).map .list
            | _ => stopAt inner (.fault (.badContent kind))
          else stopAt depth (.fault (.noConstructor node.tag))
where
  /-- The value of a node with a scalar's tag. -/
  scalarValue (depth : Nat) (kind : Text) (node : Node) : Except Stops Value :=
    match textOf? node.depth node with
    | none => stopAt depth (.fault (.badContent kind))
    | some text =>
        match node, scalarOf kind text with
        | .scalar .., .ok scalar => .ok (.scalar scalar)
        | _, .ok scalar => if kind = "timestamp" then stopAt depth .unforeseen
            else .ok (.scalar scalar)
        | _, .error stop => stopAt depth stop
  /-- The value of a node as a key: a collection with a collection's tag is none, whatever it
  holds. -/
  keyValue (fuel depth : Nat) (key : Node) : Except Stops Value :=
    let kind := (kindOf? key.tag).getD []
    if collectionKinds.contains kind || key.tag.isEmpty then
      stopAt depth (.fault .unusableKey)
    else valueIn fuel depth key

/-- The value of a text; a text without a document is null. No value stands inside itself. -/
def read (text : Text) : Except Stop Value :=
  match Node.ofText? text with
  | .error stop => .error stop
  | .ok none => .ok .null
  | .ok (some node) =>
      match valueIn node.depth 0 node with
      | .ok value => if node.hasCycle then .error .unforeseen else .ok value
      | .error stops => .error (firstStop stops)

end ApiForge.Yaml
