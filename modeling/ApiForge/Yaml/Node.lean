import ApiForge.Yaml.Lexer
import ApiForge.Yaml.Resolve

/-!
# Nodes

The tree of a YAML document: scalars, sequences and mappings, each with its
tag. An alias is the node of its anchor; inside the node of its own anchor it is
a cycle.
-/

namespace ApiForge.Yaml

inductive Node where
  | scalar (tag text : Text)
  | sequence (tag : Text) (items : List Node)
  | mapping (tag : Text) (entries : List (Node × Node))
  | cycle
  deriving Repr

namespace Node

instance : Inhabited Node := ⟨.cycle⟩

def tag : Node → Text
  | .scalar tag _ => tag
  | .sequence tag _ => tag
  | .mapping tag _ => tag
  | .cycle => []

/-- The node that nothing stands for. -/
def empty : Node :=
  .scalar (standardTag "null") []

end Node

/-- The nodes by anchor; a node that is not complete yet has none. -/
abbrev Anchors := List (Text × Option Node)

/-- The starts of tags by handle. -/
abbrev Handles := List (Text × Text)

/-- What follows a node: the tokens after it and the anchors known there. -/
structure Rest where
  tokens : List Token
  anchors : Anchors
  deriving Repr

namespace Rest

def peek (rest : Rest) : Option Token :=
  rest.tokens.head?

def next (rest : Rest) : Rest :=
  { rest with tokens := rest.tokens.tail }

def sees (rest : Rest) (candidates : List Token) : Bool :=
  rest.peek.any candidates.contains

/-- Gives an anchor its node. -/
def endAnchor (anchor : Option Text) (node : Node) (rest : Rest) : Rest :=
  match anchor with
  | none => rest
  | some name => { rest with anchors := (name, some node) :: rest.anchors }

/-- Notes that an anchor's node begins. -/
def beginAnchor (anchor : Option Text) (rest : Rest) : Rest :=
  match anchor with
  | none => rest
  | some name => { rest with anchors := (name, none) :: rest.anchors }

end Rest

/-- Anchor and tag in front of a node, in either order. -/
def properties (rest : Rest) : (Option Text × Option (Option Text × Text)) × Rest :=
  match rest.tokens with
  | .anchor name :: .tag handle suffix :: tokens =>
      ((some name, some (handle, suffix)), { rest with tokens })
  | .tag handle suffix :: .anchor name :: tokens =>
      ((some name, some (handle, suffix)), { rest with tokens })
  | .anchor name :: tokens => ((some name, none), { rest with tokens })
  | .tag handle suffix :: tokens => ((none, some (handle, suffix)), { rest with tokens })
  | _ => ((none, none), rest)

/-- The full tag of a handle and a suffix. -/
def fullTag (handles : Handles) : Option (Option Text × Text) → Except Stop (Option Text)
  | none => .ok none
  | some (none, suffix) => .ok (some suffix)
  | some (some handle, suffix) =>
      match handles.find? (·.1 == handle) with
      | some (_, start) => .ok (some (start ++ suffix))
      | none => refuse .unknownTagHandle

/-- The tag of a scalar: its own, or the one its spelling gives. A lone exclamation mark asks for
the spelling even between quotes. -/
def scalarTag (tag : Option Text) (plain : Bool) (text : Text) : Text :=
  match tag with
  | none => if plain then plainTag text else standardTag "str"
  | some tag => if tag = "!" then plainTag text else tag

/-- The tag of a collection: its own or a default. -/
def collectionTag (tag : Option Text) (name : Text) : Text :=
  match tag with
  | none => standardTag name
  | some tag => if tag = "!" then standardTag name else tag

/-- No two nodes have one anchor. -/
def checkAnchor (anchor : Option Text) (rest : Rest) : Except Stop Unit :=
  match anchor with
  | some name =>
      if rest.anchors.any (·.1 == name) then refuse (.repeatedAnchor name) else .ok ()
  | none => .ok ()

/-- Where a node stands: inside a block, where block collections may begin, as the value of a
mapping's entry, where a sequence may also be without indentation, or in a flow collection. -/
inductive Place where
  | block
  | entry
  | flow
  deriving DecidableEq, Repr

mutual

/-- A node. `fuel` bounds the length of the chain of nodes and entries from here on. -/
def readNode (handles : Handles) (place : Place) : Nat → Rest → Except Stop (Node × Rest)
  | 0, _ => refuse .unexpectedToken
  | fuel + 1, rest => do
      match rest.peek with
      | some (.alias name) =>
          match rest.anchors.find? (·.1 == name) with
          | some (_, some node) => pure (node, rest.next)
          | some (_, none) => pure (.cycle, rest.next)
          | none => refuse (.unknownAlias name)
      | _ =>
          let ((anchor, tagged), rest) := properties rest
          let tag ← fullTag handles tagged
          match rest.peek with
          | some (.scalar text plain) =>
              checkAnchor anchor rest
              let node := Node.scalar (scalarTag tag plain text) text
              pure (node, rest.next.endAnchor anchor node)
          | some .blockEntry =>
              if place = .entry then
                checkAnchor anchor rest
                let (items, rest) ← readIndentless handles fuel (rest.beginAnchor anchor)
                let node := Node.sequence (collectionTag tag "seq") items
                pure (node, rest.endAnchor anchor node)
              else emptyNode anchor tag rest
          | some .flowSequenceStart =>
              checkAnchor anchor rest
              let (items, rest) ← readFlowItems handles true fuel (rest.next.beginAnchor anchor)
              let node := Node.sequence (collectionTag tag "seq") items
              pure (node, rest.endAnchor anchor node)
          | some .flowMappingStart =>
              checkAnchor anchor rest
              let (entries, rest) ← readFlowEntries handles true fuel (rest.next.beginAnchor anchor)
              let node := Node.mapping (collectionTag tag "map") entries
              pure (node, rest.endAnchor anchor node)
          | some .blockSequenceStart =>
              if place = .flow then emptyNode anchor tag rest
              else
                checkAnchor anchor rest
                let (items, rest) ← readBlockItems handles fuel (rest.next.beginAnchor anchor)
                let node := Node.sequence (collectionTag tag "seq") items
                pure (node, rest.endAnchor anchor node)
          | some .blockMappingStart =>
              if place = .flow then emptyNode anchor tag rest
              else
                checkAnchor anchor rest
                let (entries, rest) ← readBlockEntries handles fuel (rest.next.beginAnchor anchor)
                let node := Node.mapping (collectionTag tag "map") entries
                pure (node, rest.endAnchor anchor node)
          | _ => emptyNode anchor tag rest
where
  /-- A node of properties only. -/
  emptyNode (anchor tag : Option Text) (rest : Rest) : Except Stop (Node × Rest) := do
    if anchor.isNone && tag.isNone then refuse .unexpectedToken
    else
      checkAnchor anchor rest
      let node := Node.scalar (scalarTag tag true []) []
      pure (node, rest.endAnchor anchor node)

/-- A node, or the empty one if one of these tokens follows. -/
def readNodeUnless (handles : Handles) (place : Place) (ends : List Token) :
    Nat → Rest → Except Stop (Node × Rest)
  | 0, _ => refuse .unexpectedToken
  | fuel + 1, rest =>
      if rest.sees ends then .ok (.empty, rest) else readNode handles place fuel rest

/-- The items of a block sequence up to its end. -/
def readBlockItems (handles : Handles) : Nat → Rest → Except Stop (List Node × Rest)
  | 0, _ => refuse .unexpectedToken
  | fuel + 1, rest => do
      if rest.sees [.blockEntry] then
        let (item, rest) ←
          readNodeUnless handles .block [.blockEntry, .blockEnd] fuel rest.next
        let (items, rest) ← readBlockItems handles fuel rest
        pure (item :: items, rest)
      else if rest.sees [.blockEnd] then pure ([], rest.next)
      else refuse .unexpectedToken

/-- The items of a sequence as far indented as the mapping around it. -/
def readIndentless (handles : Handles) : Nat → Rest → Except Stop (List Node × Rest)
  | 0, _ => refuse .unexpectedToken
  | fuel + 1, rest => do
      if rest.sees [.blockEntry] then
        let (item, rest) ←
          readNodeUnless handles .block [.blockEntry, .key, .value, .blockEnd] fuel rest.next
        let (items, rest) ← readIndentless handles fuel rest
        pure (item :: items, rest)
      else pure ([], rest)

/-- The entries of a block mapping up to its end. -/
def readBlockEntries (handles : Handles) : Nat → Rest → Except Stop (List (Node × Node) × Rest)
  | 0, _ => refuse .unexpectedToken
  | fuel + 1, rest => do
      if rest.sees [.key] then
        let (key, rest) ← readNodeUnless handles .entry [.key, .value, .blockEnd] fuel rest.next
        let (value, rest) ←
          if rest.sees [.value] then
            readNodeUnless handles .entry [.key, .value, .blockEnd] fuel rest.next
          else pure (.empty, rest)
        let (entries, rest) ← readBlockEntries handles fuel rest
        pure ((key, value) :: entries, rest)
      else if rest.sees [.blockEnd] then pure ([], rest.next)
      else refuse .unexpectedToken

/-- The items of a flow sequence up to its bracket. An item may be a mapping of one entry. -/
def readFlowItems (handles : Handles) (isFirst : Bool) :
    Nat → Rest → Except Stop (List Node × Rest)
  | 0, _ => refuse .unexpectedToken
  | fuel + 1, rest => do
      if rest.sees [.flowSequenceEnd] then pure ([], rest.next)
      else if !isFirst && !rest.sees [.flowEntry] then refuse .unexpectedToken
      else
        let rest := if isFirst then rest else rest.next
        if rest.sees [.flowSequenceEnd] then pure ([], rest.next)
        else
          let (item, rest) ←
            if rest.sees [.key] then readFlowPair handles fuel rest.next
            else readNode handles .flow fuel rest
          let (items, rest) ← readFlowItems handles false fuel rest
          pure (item :: items, rest)

/-- The mapping of one entry after a key mark in a flow sequence. -/
def readFlowPair (handles : Handles) : Nat → Rest → Except Stop (Node × Rest)
  | 0, _ => refuse .unexpectedToken
  | fuel + 1, rest => do
      let (key, rest) ←
        readNodeUnless handles .flow [.value, .flowEntry, .flowSequenceEnd] fuel rest
      let (value, rest) ←
        if rest.sees [.value] then
          readNodeUnless handles .flow [.flowEntry, .flowSequenceEnd] fuel rest.next
        else pure (.empty, rest)
      pure (.mapping (standardTag "map") [(key, value)], rest)

/-- The entries of a flow mapping up to its brace. A key without a mark has no value. -/
def readFlowEntries (handles : Handles) (isFirst : Bool) :
    Nat → Rest → Except Stop (List (Node × Node) × Rest)
  | 0, _ => refuse .unexpectedToken
  | fuel + 1, rest => do
      if rest.sees [.flowMappingEnd] then pure ([], rest.next)
      else if !isFirst && !rest.sees [.flowEntry] then refuse .unexpectedToken
      else
        let rest := if isFirst then rest else rest.next
        if rest.sees [.flowMappingEnd] then pure ([], rest.next)
        else
          let (entry, rest) ←
            if rest.sees [.key] then do
              let (key, rest) ←
                readNodeUnless handles .flow [.value, .flowEntry, .flowMappingEnd] fuel rest.next
              let (value, rest) ←
                if rest.sees [.value] then
                  readNodeUnless handles .flow [.flowEntry, .flowMappingEnd] fuel rest.next
                else pure (.empty, rest)
              pure ((key, value), rest)
            else do
              let (key, rest) ← readNode handles .flow fuel rest
              pure ((key, .empty), rest)
          let (entries, rest) ← readFlowEntries handles false fuel rest
          pure (entry :: entries, rest)

end

/-- The handles that need no declaration. -/
def defaultHandles : Handles :=
  [(['!'], ['!']), (['!', '!'], standardTag [])]

/-- The handles that the directives in front of a document declare, and the tokens after them. -/
def readDirectives (versioned : Bool) (handles : Handles) :
    List Token → Except Stop (Handles × List Token)
  | .directive (.version major _) :: rest =>
      if versioned || major != 1 then refuse .badDirective
      else readDirectives true handles rest
  | .directive (.tag handle start) :: rest =>
      if handles.any (·.1 == handle) then refuse .badDirective
      else readDirectives versioned (handles ++ [(handle, start)]) rest
  | .directive .other :: rest => readDirectives versioned handles rest
  | tokens => .ok (handles ++ defaultHandles, tokens)

/-- The document has no node. -/
def isBare (tokens : List Token) : Bool :=
  match tokens with
  | .directive _ :: _ => true
  | .documentStart :: _ => true
  | .documentEnd :: _ => true
  | .streamEnd :: _ => true
  | _ => false

/-- Nothing but document ends may follow the only document. -/
def checkEnd (tokens : List Token) : Except Stop Unit :=
  match tokens.dropWhile (· == .documentEnd) with
  | [.streamEnd] => .ok ()
  | _ => refuse .severalDocuments

/-- A document after its start. -/
def readDocument (handles : Handles) (mayBeBare : Bool) (tokens : List Token) :
    Except Stop Node := do
  if mayBeBare && isBare tokens then
    checkEnd tokens
    pure .empty
  else
    let (node, rest) ← readNode handles .block (2 * tokens.length + 2) ⟨tokens, []⟩
    checkEnd rest.tokens
    pure node

/-- The node of the only document, if there is a document. -/
def Node.ofTokens? (tokens : List Token) : Except Stop (Option Node) := do
  match tokens with
  | .streamEnd :: _ => pure none
  | .directive _ :: _ => explicit tokens
  | .documentStart :: _ => explicit tokens
  | _ => some <$> readDocument defaultHandles false tokens
where
  explicit (tokens : List Token) : Except Stop (Option Node) := do
    let (handles, tokens) ← readDirectives false [] tokens
    match tokens with
    | .documentStart :: rest => some <$> readDocument handles true rest
    | _ => refuse .unexpectedToken

/-- The node of a text. What stops the lexer comes before what the tokens before it lack. -/
def Node.ofText? (text : Text) : Except Stop (Option Node) :=
  match text.find? (!isAllowed ·) with
  | some letter => refuse (.unprintable letter)
  | none =>
      match tokens text with
      | (tokens, none) => Node.ofTokens? tokens
      | (_, some stop) => .error stop

end ApiForge.Yaml
