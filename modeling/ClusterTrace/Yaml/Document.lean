import ClusterTrace.Yaml.Node

/-!
# From tokens to documents

Nodes are read by recursive descent.  Each call of a reader takes one from its
fuel, which four times the number of tokens bounds.
-/

namespace ClusterTrace.Yaml

/-- The state between tokens. -/
structure TokenState where
  tokens : List Located
  /-- What is wrong behind the last token, if anything. -/
  fault : Option SyntaxFault
  /-- The tag handles of the document. -/
  handles : List (String × String) := []
  /-- The numbers of the anchors' names. -/
  anchors : List (String × Nat) := []

/-- A reader of what tokens stand for. -/
abbrev TokenReader (α : Type) := StateT TokenState (Except Fault) α

namespace TokenReader

/-- The next token. -/
def peek : TokenReader Located := fun state =>
  match state.tokens, state.fault with
  | token :: _, _ => .ok (token, state)
  | [], some fault => .error (.syntax' fault)
  | [], none => .ok (⟨.streamEnd, {}⟩, state)

/-- Drops the next token. -/
def skip : TokenReader Unit :=
  modify fun state => { state with tokens := state.tokens.drop 1 }

/-- A problem with the next token while reading something. -/
def faultWhile {α : Type} (activity : Activity) (start : Mark)
    (problem : Problem) : TokenReader α := do
  let token ← peek
  throw (.syntax'
    { problem := problem
      mark := token.start
      activity := some (activity, start) })

/-- Numbers an anchor by how many names there are before it.  A name that is
used again adds none, so the next new name then shares its number. -/
def newAnchor (name : String) : TokenReader Nat := do
  let state ← get
  let number := state.anchors.length
  let others := state.anchors.filter fun anchor => anchor.1 ≠ name
  set { state with anchors := (name, number) :: others }
  return number

/-- The number of the anchor that an alias names. -/
def anchorOf (name : String) (mark : Mark) : TokenReader Nat := do
  match (← get).anchors.lookup name with
  | some number => return number
  | none => throw (.unknownAnchor mark)

/-- The whole tag of a handle and a suffix. -/
def resolveTag (start mark : Mark) (handle suffix : String) :
    TokenReader String := do
  if handle.isEmpty then return suffix
  else
    match (← get).handles.lookup handle with
    | some beginning => return beginning ++ suffix
    | none =>
        throw (.syntax'
          { problem := .undefinedHandle
            mark := mark
            activity := some (.node, start) })

/-- What stands before the content of a node. -/
structure Properties where
  anchor : Option String := none
  tag : Option (String × String × Mark) := none

/-- The anchor and the tag of a node, in either order. -/
def properties : TokenReader Properties := do
  match (← peek) with
  | ⟨.anchor name, _⟩ =>
      skip
      match (← peek) with
      | ⟨.tag handle suffix, mark⟩ =>
          skip
          return { anchor := some name, tag := some (handle, suffix, mark) }
      | _ => return { anchor := some name }
  | ⟨.tag handle suffix, mark⟩ =>
      skip
      match (← peek) with
      | ⟨.anchor name, _⟩ =>
          skip
          return { anchor := some name, tag := some (handle, suffix, mark) }
      | _ => return { tag := some (handle, suffix, mark) }
  | _ => return {}

/-- The head of a node that starts at a place. -/
def headOf (start : Mark) (properties : Properties) : TokenReader Head := do
  let tag ←
    match properties.tag with
    | some (handle, suffix, mark) =>
        some <$> resolveTag start mark handle suffix
    | none => pure none
  let anchor ←
    match properties.anchor with
    | some name => some <$> newAnchor name
    | none => pure none
  return { tag := tag, anchor := anchor, mark := start }

/-- The token ends a node of a mapping in a block. -/
def endsBlockNode : Token → Bool
  | .key | .value | .blockEnd => true
  | _ => false

/-- The token ends a node of a flow collection whose last token is `closing`. -/
def endsFlowNode (closing : Token) (token : Token) : Bool :=
  token == .flowEntry || token == closing

mutual

/-- A node.  In a block, block collections are nodes too, and entries of a
sequence need not be indented as values of a mapping. -/
def node (inBlock isIndentless : Bool) : Nat → TokenReader Node
  | 0 => throw .tooManyAliases
  | fuel + 1 => do
      let first ← peek
      if let .alias name := first.token then
        skip
        return .alias (← anchorOf name first.start) first.start
      let properties ← properties
      let head ← headOf first.start properties
      let next ← peek
      match next.token with
      | .scalar text style =>
          skip
          return .scalar head text style
      | .flowSequenceStart =>
          skip
          return .sequence head (← flowItems fuel next.start true [])
      | .flowMappingStart =>
          skip
          return .mapping head (← flowEntries fuel next.start true [])
      | token =>
          if inBlock && token == .blockSequenceStart then
            skip
            return .sequence head (← blockItems fuel next.start [])
          else if inBlock && token == .blockMappingStart then
            skip
            return .mapping head (← blockEntries fuel next.start [])
          else if isIndentless && token == .blockEntry then
            return .sequence head (← indentlessItems fuel [])
          else if properties.anchor.isSome || properties.tag.isSome then
            return .scalar head "" .plain
          else
            faultWhile (if inBlock then .blockNode else .flowNode) first.start
              .missingContent

/-- A node, or nothing if the next token ends it. -/
def nodeUnless (ends : Token → Bool) (inBlock isIndentless : Bool)
    (mark : Mark) : Nat → TokenReader Node
  | 0 => throw .tooManyAliases
  | fuel + 1 => do
      if ends (← peek).token then return .nothing mark
      else node inBlock isIndentless fuel

/-- The items of a block sequence. -/
def blockItems : Nat → Mark → List Node → TokenReader (List Node)
  | 0, _, _ => throw .tooManyAliases
  | fuel + 1, start, items => do
      let next ← peek
      match next.token with
      | .blockEntry =>
          skip
          let item ←
            nodeUnless
              (fun token => token == .blockEntry || token == .blockEnd)
              true false next.stop fuel
          blockItems fuel start (item :: items)
      | .blockEnd =>
          skip
          return items.reverse
      | _ => faultWhile .blockCollection start .missingDash

/-- The items of a sequence that is not indented as the value of a mapping. -/
def indentlessItems : Nat → List Node → TokenReader (List Node)
  | 0, _ => throw .tooManyAliases
  | fuel + 1, items => do
      let next ← peek
      match next.token with
      | .blockEntry =>
          skip
          let item ←
            nodeUnless
              (fun token => token == .blockEntry || endsBlockNode token)
              true false next.stop fuel
          indentlessItems fuel (item :: items)
      | _ => return items.reverse

/-- The entries of a block mapping. -/
def blockEntries :
    Nat → Mark → List (Node × Node) → TokenReader (List (Node × Node))
  | 0, _, _ => throw .tooManyAliases
  | fuel + 1, start, entries => do
      let next ← peek
      match next.token with
      | .key =>
          skip
          let key ← nodeUnless endsBlockNode true true next.stop fuel
          let separator ← peek
          let value ←
            match separator.token with
            | .value => do
                skip
                nodeUnless endsBlockNode true true separator.stop fuel
            | _ => pure (.nothing separator.start)
          blockEntries fuel start ((key, value) :: entries)
      | .blockEnd =>
          skip
          return entries.reverse
      | _ => faultWhile .blockMapping start .missingKey

/-- The items of a flow sequence.  A key makes an item a mapping of one
entry. -/
def flowItems : Nat → Mark → Bool → List Node → TokenReader (List Node)
  | 0, _, _, _ => throw .tooManyAliases
  | fuel + 1, start, isFirst, items => do
      if (← peek).token == .flowSequenceEnd then
        skip
        return items.reverse
      if !isFirst then
        if (← peek).token == .flowEntry then skip
        else faultWhile .flowSequence start .missingSequenceEnd
      let next ← peek
      match next.token with
      | .flowSequenceEnd =>
          skip
          return items.reverse
      | .key =>
          skip
          let entry ← flowPair fuel
          flowItems fuel start false
            (.mapping { mark := next.start } [entry] :: items)
      | _ =>
          let item ← node false false fuel
          flowItems fuel start false (item :: items)

/-- The entry of a mapping that is an item of a flow sequence, behind the mark
of its key.  A token in the place of an empty key is lost. -/
def flowPair : Nat → TokenReader (Node × Node)
  | 0 => throw .tooManyAliases
  | fuel + 1 => do
      let next ← peek
      let key ←
        if next.token == .value ||
            endsFlowNode .flowSequenceEnd next.token then do
          skip
          pure (Node.nothing next.stop)
        else node false false fuel
      let separator ← peek
      match separator.token with
      | .value =>
          skip
          return (key,
            ← nodeUnless (endsFlowNode .flowSequenceEnd) false false
              (← peek).start fuel)
      | _ => return (key, .nothing separator.start)

/-- The entries of a flow mapping. -/
def flowEntries :
    Nat → Mark → Bool → List (Node × Node) → TokenReader (List (Node × Node))
  | 0, _, _, _ => throw .tooManyAliases
  | fuel + 1, start, isFirst, entries => do
      if (← peek).token == .flowMappingEnd then
        skip
        return entries.reverse
      if !isFirst then
        if (← peek).token == .flowEntry then skip
        else faultWhile .flowMapping start .missingMappingEnd
      match (← peek).token with
      | .flowMappingEnd =>
          skip
          return entries.reverse
      | .key =>
          skip
          let next ← peek
          let key ←
            nodeUnless
              (fun token =>
                token == .value || endsFlowNode .flowMappingEnd token)
              false false next.start fuel
          let separator ← peek
          let value ←
            match separator.token with
            | .value => do
                skip
                nodeUnless (endsFlowNode .flowMappingEnd) false false
                  (← peek).start fuel
            | _ => pure (.nothing separator.start)
          flowEntries fuel start false ((key, value) :: entries)
      | _ =>
          let key ← node false false fuel
          flowEntries fuel start false
            ((key, .nothing (← peek).start) :: entries)

end

/-! ## Documents -/

/-- What the directives before a document say. -/
structure Directives where
  hasVersion : Bool := false
  handles : List (String × String) := []

/-- The directives before a document. -/
def directives : Nat → Directives → TokenReader Directives
  | 0, found => return found
  | fuel + 1, found => do
      let next ← peek
      match next.token with
      | .version major minor =>
          if found.hasVersion then
            throw (.syntax'
              { problem := .duplicateVersion, mark := next.start })
          else if major != 1 || (minor != 1 && minor != 2) then
            throw (.syntax'
              { problem := .incompatibleVersion, mark := next.start })
          else
            skip
            directives fuel { found with hasVersion := true }
      | .tagHandle handle start =>
          if (found.handles.lookup handle).isSome then
            throw (.syntax'
              { problem := .duplicateTagDirective, mark := next.start })
          else
            skip
            directives fuel
              { found with handles := (handle, start) :: found.handles }
      | _ => return found

/-- The handles that every document has unless it says otherwise. -/
def defaultHandles : List (String × String) :=
  [("!", "!"), ("!!", "tag:yaml.org,2002:")]

/-- The token ends the content of a document before it begins. -/
def endsContent : Token → Bool
  | .version _ _ | .tagHandle _ _ | .documentStart | .documentEnd |
    .streamEnd => true
  | _ => false

/-- Drops markers of the end of a document. -/
def skipEnds : Nat → TokenReader Unit
  | 0 => return
  | fuel + 1 => do
      if (← peek).token == .documentEnd then
        skip
        skipEnds fuel

/-- The next document, if there is one.  Only the first may start without a
marker. -/
def document? (fuel : Nat) (isFirst : Bool) :
    TokenReader (Option Document) := do
  if !isFirst then skipEnds fuel
  let next ← peek
  if next.token == .streamEnd then return none
  let isImplicit :=
    match next.token with
    | .version _ _ | .tagHandle _ _ | .documentStart => false
    | _ => isFirst
  let found ← if isImplicit then pure {} else directives fuel {}
  modify fun state =>
    { state with handles := found.handles ++ defaultHandles, anchors := [] }
  if !isImplicit then
    let start ← peek
    if start.token == .documentStart then skip
    else
      throw (.syntax' { problem := .missingDocumentStart, mark := start.start })
  let content ← peek
  let root ←
    if !isImplicit && endsContent content.token then
      pure (.nothing content.start)
    else node true false fuel
  if (← peek).token == .documentEnd then skip
  return some ⟨some root⟩

/-- The documents after the first, up to the end of the stream or a fault. -/
def documents (fuel : Nat) : Nat → TokenState → List Document × Option Fault
  | 0, _ => ([], none)
  | count + 1, state =>
      match (document? fuel false).run state with
      | .ok (some document, state) =>
          let (more, fault) := documents fuel count state
          (document :: more, fault)
      | .ok (none, _) => ([], none)
      | .error fault => ([], some fault)

end TokenReader

/-- The documents of a text up to its end or a fault.  A stream without any is
read as one that is absent. -/
def documentsOfText (text : List Char) : List Document × Option Fault :=
  let (tokens, fault) := tokens text
  let fuel := 4 * tokens.length + 8
  let start : TokenState := { tokens := tokens, fault := fault }
  match (TokenReader.document? fuel true).run start with
  | .ok (some first, rest) =>
      let (more, fault) := TokenReader.documents fuel fuel rest
      (first :: more, fault)
  | .ok (none, _) => ([⟨none⟩], none)
  | .error fault => ([], some fault)

/-- The documents of octets up to their end or a fault. -/
def documents (octets : List UInt8) : List Document × Option Fault :=
  match decodeOctets octets 0 [] with
  | .ok text => documentsOfText text
  | .error fault => ([], some (.syntax' fault))

end ClusterTrace.Yaml
