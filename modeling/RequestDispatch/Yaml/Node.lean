import RequestDispatch.Yaml.Token

/-! Nodes of a YAML document.

`document?` reads the one document that a text may hold. A node may be given a name by
an anchor and stand in other places by an alias of that name; anchors are numbered in
the order in which they come, and an alias knows the number. -/
namespace RequestDispatch.Yaml

inductive Node where
  | scalar (tag : Option String) (plain : Bool) (text : String)
  | sequence (items : List Node)
  | mapping (pairs : List (Node × Node))
  | alias (number : Nat)
  | anchored (number : Nat) (node : Node)
  deriving Inhabited

/-- A scalar that is not written at all. -/
def Node.absent : Node := .scalar none true ""

/-- What is left of the tokens, the numbers that anchors stand for, and the leads of tag
handles. -/
structure Reading where
  tokens : List Token
  anchors : List (String × Nat)
  handles : List (String × String)

abbrev Read (α : Type) := StateT Reading (Except Error) α

namespace Read

/-- The next token, left where it is. -/
def peek : Read (Option Token) := do return (← get).tokens.head?

def drop : Read Unit := modify fun r => { r with tokens := r.tokens.drop 1 }

/-- Whether the next token is one of the given ones. -/
def at? (ts : List Token) : Read Bool := do return (← peek).any ts.contains

/-- Takes the next token, if it is the given one. -/
def accept (t : Token) : Read Bool := do
  if ← at? [t] then drop; return true
  else return false

/-- The number for a name from here on. It is the count of names before it. -/
def nameAnchor (name : String) : Read Nat := do
  let r ← get
  let n := r.anchors.length
  set { r with anchors := (name, n) :: r.anchors.filter (·.1 ≠ name) }
  return n

def anchorNumber (name : String) : Read Nat := do
  match (← get).anchors.lookup name with
  | some n => return n
  | none => throw (.aliasUnknown name)

/-- A tag in full. -/
def resolve (handle rest : String) : Read String := do
  if handle = "" then return rest
  else match (← get).handles.lookup handle with
    | some lead => return lead ++ rest
    | none => throw (.handleUnknown handle)

/-- The anchor and the tag before a node, in either order. -/
def properties : Read (Option Nat × Option String) := do
  let anchor : Read (Option Nat) := do
    match ← peek with
    | some (.anchor name) => drop; return some (← nameAnchor name)
    | _ => return none
  let tag : Read (Option String) := do
    match ← peek with
    | some (.tag handle rest) => drop; return some (← resolve handle rest)
    | _ => return none
  match ← anchor with
  | some n => return (some n, ← tag)
  | none =>
    let t ← tag
    if t.isSome then return (← anchor, t) else return (none, none)

/-- The comma before an item or a pair, except before the first one. -/
def separator (first : Bool) : Read Unit := do
  unless first do
    unless ← accept .flowEntry do
      throw .separatorExpected

mutual

/-- A node. In a block it may be a block collection; a sequence that is the value of a key
need not be indented deeper than the key. -/
def node : (turns : Nat) → (inBlock flat : Bool) → Read Node
  | 0, _, _ => throw .contentExpected
  | turns + 1, inBlock, flat => do
    match ← peek with
    | some (.alias name) => drop; return .alias (← anchorNumber name)
    | _ =>
      let (number, tag) ← properties
      let bare : Node ← do
        match ← peek with
        | some (.scalar text plain) => drop; pure (Node.scalar tag plain text)
        | some .flowSequenceStart => drop; Node.sequence <$> flowItems turns true
        | some .flowMappingStart => drop; Node.mapping <$> flowPairs turns true
        | t =>
          if flat && t = some .blockEntry then Node.sequence <$> blockItems turns true
          else if inBlock && t = some .sequenceStart then do drop; Node.sequence <$> blockItems turns false
          else if inBlock && t = some .mappingStart then do drop; Node.mapping <$> blockPairs turns
          else if number.isSome || tag.isSome then pure (Node.scalar tag true "")
          else throw .contentExpected
      return match number with
        | some n => .anchored n bare
        | none => bare

/-- The items of a block sequence, up to its end. A flat one ends with its last item. -/
def blockItems : (turns : Nat) → (flat : Bool) → Read (List Node)
  | 0, _ => throw .entryExpected
  | turns + 1, flat => do
    if ← accept .blockEntry then
      let next ← at? ([.blockEntry, .blockEnd] ++ if flat then [.key, .value] else [])
      let ended := (← peek).isNone
      let item ← if next || ended then pure Node.absent else node turns true false
      return item :: (← blockItems turns flat)
    else if flat then return []
    else if ← accept .blockEnd then return []
    else throw .entryExpected

/-- The pairs of a block mapping, up to its end. -/
def blockPairs : (turns : Nat) → Read (List (Node × Node))
  | 0 => throw .keyExpected
  | turns + 1 => do
    if ← accept .key then
      let k ← if ← at? [.key, .value, .blockEnd] then pure Node.absent else node turns true true
      let v ←
        if ← accept .value then
          if ← at? [.key, .value, .blockEnd] then pure Node.absent else node turns true true
        else pure Node.absent
      return (k, v) :: (← blockPairs turns)
    else if ← accept .blockEnd then return []
    else throw .keyExpected

/-- The items of a flow sequence, up to its end. An item with a key is a mapping of one
pair. -/
def flowItems : (turns : Nat) → (first : Bool) → Read (List Node)
  | 0, _ => throw .separatorExpected
  | turns + 1, first => do
    if ← accept .flowSequenceEnd then
      return []
    separator first
    if ← accept .key then
      let k ←
        if ← at? [.value, .flowEntry, .flowSequenceEnd] then do drop; pure Node.absent
        else node turns false false
      let v ←
        if ← accept .value then
          if ← at? [.flowEntry, .flowSequenceEnd] then pure Node.absent else node turns false false
        else pure Node.absent
      return .mapping [(k, v)] :: (← flowItems turns false)
    else if ← accept .flowSequenceEnd then return []
    else
      let item ← node turns false false
      return item :: (← flowItems turns false)

/-- The pairs of a flow mapping, up to its end. -/
def flowPairs : (turns : Nat) → (first : Bool) → Read (List (Node × Node))
  | 0, _ => throw .separatorExpected
  | turns + 1, first => do
    if ← accept .flowMappingEnd then
      return []
    separator first
    if ← accept .key then
      let k ←
        if ← at? [.value, .flowEntry, .flowMappingEnd] then pure Node.absent
        else node turns false false
      let v ←
        if ← accept .value then
          if ← at? [.flowEntry, .flowMappingEnd] then pure Node.absent else node turns false false
        else pure Node.absent
      return (k, v) :: (← flowPairs turns false)
    else if ← accept .flowMappingEnd then return []
    else
      let k ← node turns false false
      return (k, Node.absent) :: (← flowPairs turns false)

end

/-! ### Documents -/

/-- The directives before a document: one version at most, and handles, each once. Gives
whether there were any. -/
def directives : (turns : Nat) → (version : Bool) → (handles : List (String × String)) →
    Read (Bool × List (String × String))
  | 0, _, _ => throw .directiveInvalid
  | turns + 1, version, handles => do
    match ← peek with
    | some (.version major minor) =>
      if version || major ≠ 1 || (minor ≠ 1 && minor ≠ 2) then throw .directiveInvalid
      drop
      directives turns true handles
    | some (.tagHandle handle lead) =>
      if (handles.lookup handle).isSome then throw .directiveInvalid
      drop
      directives turns version ((handle, lead) :: handles)
    | _ => return (version || !handles.isEmpty, handles)

/-- The handles that need no directive. -/
def knownHandles : List (String × String) := [("!", "!"), ("!!", "tag:yaml.org,2002:")]

def dropEnds : (turns : Nat) → Read Unit
  | 0 => return
  | turns + 1 => do
    if ← accept .documentEnd then dropEnds turns

/-- The document, if there is one. Nothing but marks of its end may follow. -/
def document : Read (Option Node) := do
  let turns := 2 * (← get).tokens.length + 2
  if (← peek).isNone then return none
  else
    let (directed, handles) ← directives turns false []
    modify fun r => { r with handles := handles ++ knownHandles }
    let content ←
      if ← accept .documentStart then
        let empty := (← peek).isNone
        let ended ← at? [.documentStart, .documentEnd]
        let directive := match ← peek with
          | some (.version _ _) | some (.tagHandle _ _) => true
          | _ => false
        if empty || ended || directive then pure Node.absent else node turns true false
      else if directed then throw .contentExpected
      else node turns true false
    dropEnds turns
    if (← peek).isSome then throw .secondDocument
    return some content

end Read

/-- The document of a text, if it holds one. -/
def document? (text : String) : Except Error (Option Node) := do
  let tokens ← Token.ofText? text.toList
  (Read.document.run ⟨tokens, [], []⟩).map (·.1)

/-! ### Looking at nodes -/

mutual

/-- The anchored nodes under their numbers, in the order in which they begin. -/
def Node.anchors : Node → List (Nat × Node)
  | .scalar _ _ _ | .alias _ => []
  | .anchored n node => (n, node) :: node.anchors
  | .sequence items => Node.anchorsIn items
  | .mapping pairs => Node.anchorsOf pairs

def Node.anchorsIn : List Node → List (Nat × Node)
  | [] => []
  | n :: rest => n.anchors ++ Node.anchorsIn rest

def Node.anchorsOf : List (Node × Node) → List (Nat × Node)
  | [] => []
  | (k, v) :: rest => k.anchors ++ v.anchors ++ Node.anchorsOf rest

end

/-- What a node stands for, given the anchored nodes. Of two with one number the later
counts. -/
def Node.target (anchors : List (Nat × Node)) : Node → Option Node
  | .alias n => (anchors.reverse.find? (·.1 = n)).map (·.2)
  | .anchored _ node => some node
  | node => some node

/-- The text of a scalar, however it is written. -/
def Node.text? (anchors : List (Nat × Node)) (n : Node) : Option String :=
  match n.target anchors with
  | some (.scalar _ _ text) => some text
  | _ => none

/-- The items of a sequence. A value that is not written has none. -/
def Node.items? (anchors : List (Nat × Node)) (n : Node) : Option (List Node) :=
  match n.target anchors with
  | some (.sequence items) => some items
  | some (.scalar _ true "") => some []
  | _ => none

/-- The pairs of a mapping under texts. A value that is not written has none. -/
def Node.pairs? (anchors : List (Nat × Node)) (n : Node) : Option (List (String × Node)) :=
  match n.target anchors with
  | some (.mapping pairs) => pairs.mapM fun (k, v) => (k.text? anchors).map (·, v)
  | some (.scalar _ true "") => some []
  | _ => none

/-- Whether a scalar without a tag of its own is nothing. -/
def isNull (plain : Bool) (text : String) : Bool :=
  plain && ["", "~", "null", "Null", "NULL"].contains text

/-- The name that a scalar chooses: its text, or its tag, if that is one of its own and the
scalar is nothing. -/
def Node.choice? (anchors : List (Nat × Node)) (n : Node) : Option String :=
  match n.target anchors with
  | some (.scalar (some tag) plain text) =>
    match tag.toList with
    | '!' :: name =>
      if isNull plain text then some (if name.isEmpty then "!" else String.ofList name) else none
    | _ => some text
  | some (.scalar none _ text) => some text
  | _ => none

end RequestDispatch.Yaml
