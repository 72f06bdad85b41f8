import ThrowawayServer.Yaml.Lexer

/-!
# Nodes of a YAML document

The tree that a YAML text describes. Tags are resolved by the directives before the document. Anchors
number the nodes that they stand at: a name gets the number of names known before it, so a name that
is used again, or the next new name after that, takes over a number, and a number means the last node
that bears it.
-/

set_option autoImplicit false

namespace ThrowawayServer.Yaml

/-- The number of an anchor and the resolved tag before a node. -/
structure Marks where
  anchor : Option Nat := none
  tag : Option (List Char) := none
  deriving DecidableEq, Repr

inductive Node where
  | scalar (marks : Marks) (style : ScalarStyle) (text : List Char)
  | sequence (marks : Marks) (items : List Node)
  | mapping (marks : Marks) (entries : List (Node × Node))
  /-- The node whose anchor has this number. -/
  | reference (anchor : Nat)
  deriving Inhabited

def Node.empty : Node := .scalar {} .plain []

/-- A document: its tree and the nodes by the numbers of their anchors, the last of a number first. -/
structure Document where
  root : Node
  anchored : List (Nat × Node)

/-! ## From tokens to nodes -/

/-- What is left of the tokens, and what the names in them mean. -/
structure Reading where
  tokens : List Token
  /-- The numbers of the anchors by their names. -/
  anchors : List (List Char × Nat) := []
  /-- What the tag handles stand for. -/
  handles : List (List Char × List Char) := []

/-- A step that reads tokens. -/
abbrev Reader (α : Type) := StateT Reading (Except Fault) α

namespace Reader

def peek? : Reader (Option Token) := do return (← get).tokens.head?

/-- Passes over the next token. -/
def skip : Reader Unit := modify fun reading => { reading with tokens := reading.tokens.drop 1 }

/-- Whether the next token is `token`, which is then passed over. -/
def accept (token : Token) : Reader Bool := do
  if (← peek?) = some token then
    skip
    return true
  else return false

/-- Passes over the next token if it is `token`, and fails otherwise. -/
def expect (token : Token) : Reader Unit := do
  if !(← accept token) then throw .unexpectedToken

def isNext (tokens : List Token) : Reader Bool := do
  return (← peek?).any tokens.contains

/-- Gives a name to the node that follows: known names keep their number of names in use. -/
def defineAnchor (name : List Char) : Reader Nat := do
  let reading ← get
  let number := reading.anchors.length
  let others := reading.anchors.filter fun known => known.1 ≠ name
  set { reading with anchors := (name, number) :: others }
  return number

def anchorNumber (name : List Char) : Reader Nat := do
  match (← get).anchors.lookup name with
  | some number => return number
  | none => throw .undefinedAlias

/-- A tag whose handle is replaced by what it stands for. -/
def resolveTag (tag : RawTag) : Reader (List Char) := do
  if tag.handle.isEmpty then return tag.suffix
  else
    match (← get).handles.lookup tag.handle with
    | some start => return start ++ tag.suffix
    | none => throw .undefinedTagHandle

/-- An anchor and a tag before a node, in either order and both optional. -/
def marks : Reader (Option (List Char) × Option RawTag) := do
  match ← peek? with
  | some (.anchor name) =>
    skip
    match ← peek? with
    | some (.tag tag) => skip; return (some name, some tag)
    | _ => return (some name, none)
  | some (.tag tag) =>
    skip
    match ← peek? with
    | some (.anchor name) => skip; return (some name, some tag)
    | _ => return (none, some tag)
  | _ => return (none, none)

/-- The tokens after which a node of a block collection is missing. -/
def blockStops : List Token := [.key, .value, .blockEnd]

mutual

/-- A node. A block node may be a block collection; the value of a block mapping may also be a
sequence whose entries stand at the column of the mapping. `fuel` bounds the depth and the number of
entries. -/
def node : Nat → (isBlock isValue : Bool) → Reader Node
  | 0, _, _ => throw .unexpectedToken
  | fuel + 1, isBlock, isValue => do
    match ← peek? with
    | some (.reference name) =>
      skip
      return .reference (← anchorNumber name)
    | _ =>
      let (name, rawTag) ← marks
      let tag ← rawTag.mapM resolveTag
      let token ← peek?
      let isBare := rawTag.isNone && name.isNone
      let starts := [Token.flowSequenceStart, .flowMappingStart] ++
        (if isBlock then [.blockSequenceStart, .blockMappingStart] else []) ++
        (if isValue then [.blockEntry] else [])
      match token with
      | some (.scalar style text) =>
        skip
        let tag := if tag = some ['!'] then none else tag
        return .scalar ⟨← name.mapM defineAnchor, tag⟩ style text
      | some start =>
        if starts.contains start then
          let marks : Marks := ⟨← name.mapM defineAnchor, tag⟩
          match start with
          | .blockEntry => return .sequence marks (← indentlessItems fuel)
          | .flowSequenceStart => skip; return .sequence marks (← flowItems fuel true)
          | .flowMappingStart => skip; return .mapping marks (← flowEntries fuel true)
          | .blockSequenceStart => skip; return .sequence marks (← blockItems fuel)
          | _ => skip; return .mapping marks (← blockEntries fuel)
        else if isBare then throw .unexpectedToken
        else return .scalar ⟨← name.mapM defineAnchor, tag⟩ .plain []
      | none =>
        if isBare then throw .unexpectedToken
        else return .scalar ⟨← name.mapM defineAnchor, tag⟩ .plain []

/-- A node unless one of `stops` comes next. -/
def nodeBefore : Nat → List Token → (isBlock isValue : Bool) → Reader Node
  | 0, _, _, _ => throw .unexpectedToken
  | fuel + 1, stops, isBlock, isValue => do
    if ← isNext stops then return .empty else node fuel isBlock isValue

/-- The entries of a block sequence and its end. -/
def blockItems : Nat → Reader (List Node)
  | 0 => throw .unexpectedToken
  | fuel + 1 => do
    if ← accept .blockEntry then
      let item ← nodeBefore fuel [.blockEntry, .blockEnd] true false
      return item :: (← blockItems fuel)
    else
      expect .blockEnd
      return []

/-- The entries of a sequence at the column of the mapping around it. -/
def indentlessItems : Nat → Reader (List Node)
  | 0 => throw .unexpectedToken
  | fuel + 1 => do
    if ← accept .blockEntry then
      let item ← nodeBefore fuel (.blockEntry :: blockStops) true false
      return item :: (← indentlessItems fuel)
    else return []

/-- The entries of a block mapping and its end. -/
def blockEntries : Nat → Reader (List (Node × Node))
  | 0 => throw .unexpectedToken
  | fuel + 1 => do
    if ← accept .key then
      let key ← nodeBefore fuel blockStops true true
      let value ← if ← accept .value then nodeBefore fuel blockStops true true else pure .empty
      return (key, value) :: (← blockEntries fuel)
    else
      expect .blockEnd
      return []

/-- The entries of a sequence in brackets and the closing one. An entry with a colon is a mapping of
one pair. -/
def flowItems : Nat → (isFirst : Bool) → Reader (List Node)
  | 0, _ => throw .unexpectedToken
  | fuel + 1, isFirst => do
    if ← accept .flowSequenceEnd then return []
    else
      if !isFirst then expect .flowEntry
      if ← accept .flowSequenceEnd then return []
      else if ← accept .key then
        let key ← flowPairKey fuel
        let value ←
          if ← accept .value then nodeBefore fuel [.flowEntry, .flowSequenceEnd] false false
          else pure .empty
        return .mapping {} [(key, value)] :: (← flowItems fuel false)
      else
        let item ← node fuel false false
        return item :: (← flowItems fuel false)

/-- The key of a pair in a sequence. Where it is missing, the token after its sign is passed over. -/
def flowPairKey : Nat → Reader Node
  | 0 => throw .unexpectedToken
  | fuel + 1 => do
    if ← isNext [.value, .flowEntry, .flowSequenceEnd] then
      skip
      return .empty
    else node fuel false false

/-- The entries of a mapping in braces and the closing one. -/
def flowEntries : Nat → (isFirst : Bool) → Reader (List (Node × Node))
  | 0, _ => throw .unexpectedToken
  | fuel + 1, isFirst => do
    if ← accept .flowMappingEnd then return []
    else
      if !isFirst then expect .flowEntry
      if ← accept .flowMappingEnd then return []
      else
        let isMarked ← accept .key
        let key ←
          if isMarked then nodeBefore fuel [.value, .flowEntry, .flowMappingEnd] false false
          else node fuel false false
        let hasValue ← if isMarked then accept .value else pure false
        let value ←
          if hasValue then nodeBefore fuel [.flowEntry, .flowMappingEnd] false false
          else pure .empty
        return (key, value) :: (← flowEntries fuel false)

end

/-- The handles that need no directive. -/
def standardHandles : List (List Char × List Char) :=
  [(['!'], ['!']), (['!', '!'], "tag:yaml.org,2002:".toList)]

/-- The directives before a document; the standard handles come after the declared ones. -/
def directives : Nat → (hasVersion : Bool) → Reader Unit
  | 0, _ => throw .badDirective
  | fuel + 1, hasVersion => do
    match ← peek? with
    | some (.versionDirective major minor) =>
      if hasVersion || major ≠ 1 || (minor ≠ 1 && minor ≠ 2) then throw .badDirective
      skip
      directives fuel true
    | some (.tagDirective handle start) =>
      let reading ← get
      if (reading.handles.lookup handle).isSome then throw .badDirective
      set { reading with handles := reading.handles ++ [(handle, start)] }
      skip
      directives fuel hasVersion
    | _ => modify fun reading => { reading with handles := reading.handles ++ standardHandles }

/-- Whether a token can only stand between documents. -/
def isBoundary : Token → Bool
  | .versionDirective _ _ | .tagDirective _ _ | .documentStart | .documentEnd => true
  | _ => false

/-- The one document of a text, none if there is nothing in the text but blanks and comments. -/
def document : Reader (Option Node) := do
  let fuel := 4 * (← get).tokens.length + 4
  if (← peek?).isNone then return none
  let first ← peek?
  directives fuel false
  let hasDirectives := first != (← peek?)
  let isExplicit ← accept .documentStart
  if hasDirectives && !isExplicit then throw .unexpectedToken
  let next ← peek?
  let root ←
    if isExplicit && next.all isBoundary then pure Node.empty else node fuel true false
  let rest := (← get).tokens.dropWhile (· = .documentEnd)
  if rest.isEmpty then return some root
  else throw .severalDocuments

end Reader

/-! ## Anchored nodes -/

namespace Node

def marks : Node → Marks
  | .scalar marks _ _ | .sequence marks _ | .mapping marks _ => marks
  | .reference _ => {}

mutual

/-- The anchored nodes of a tree, each before the ones inside it. -/
def anchored : Node → List (Nat × Node)
  | .scalar marks style text => (marks.anchor.map (·, .scalar marks style text)).toList
  | .sequence marks items =>
    (marks.anchor.map (·, .sequence marks items)).toList ++ anchoredItems items
  | .mapping marks entries =>
    (marks.anchor.map (·, .mapping marks entries)).toList ++ anchoredEntries entries
  | .reference _ => []

/-- The anchored nodes of several trees. -/
def anchoredItems : List Node → List (Nat × Node)
  | [] => []
  | item :: items => item.anchored ++ anchoredItems items

/-- The anchored nodes of keys and values. -/
def anchoredEntries : List (Node × Node) → List (Nat × Node)
  | [] => []
  | (key, value) :: entries => key.anchored ++ value.anchored ++ anchoredEntries entries

end

end Node

/-- The document of a text; an empty text holds an empty node. -/
def Document.parse (text : String) : Except Fault Document := do
  let tokens ← Yaml.tokens text.toList
  let (root, _) ← Reader.document.run { tokens }
  let root := root.getD .empty
  return ⟨root, root.anchored.reverse⟩

end ThrowawayServer.Yaml
