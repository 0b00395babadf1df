import FilterScript.Yaml.Scalar
import FilterScript.Yaml.Tokens

/-!
# From tokens to nodes

A document is one tree of scalars, lists and mappings, each node with its tag. Names for nodes are
put in place: an alias is the node it names. Nothing is said about nodes that hold themselves, so the
named node must be complete by then. A node may be left out where the token behind it shows that; it
then means no value.
-/

namespace FilterScript.Yaml

/-- A node of a document. -/
inductive Node where
  /-- A scalar. -/
  | scalar (tag : Tag) (text : String)
  /-- A list. -/
  | list (tag : Tag) (items : List Node)
  /-- A mapping. -/
  | map (tag : Tag) (entries : List (Node × Node))

instance : Inhabited Node := ⟨.scalar .null ""⟩

/-- The node of what is left out. -/
def Node.absent : Node := .scalar .null ""

/-- How far the tokens are read. -/
structure NodeReader where
  /-- The tokens from here on. -/
  tokens : List Token
  /-- The named nodes; one that is not complete has none yet. -/
  names : List (String × Option Node) := []
  /-- The handles of tags. -/
  handles : List (String × String)

namespace NodeReader

/-- The next token. -/
def peek (r : NodeReader) : Token :=
  r.tokens.headD .streamEnd

/-- The reader behind the next token. -/
def next (r : NodeReader) : NodeReader :=
  { r with tokens := r.tokens.tail }

/-- The reader behind the next token, which must be the given one. -/
def expect (r : NodeReader) (t : Token) : Except Fault NodeReader :=
  if r.peek = t then .ok r.next else .error .malformed

/-! ## Names and tags -/

/-- The reader in which a name stands for a node. -/
def setName (r : NodeReader) (name : Option String) (node : Option Node) : NodeReader :=
  match name with
  | some name => { r with names := (name, node) :: r.names }
  | none => r

/-- The node that an alias names. One that is not complete would hold itself. -/
def nodeOf (r : NodeReader) (name : String) : Except Fault Node :=
  match r.names.lookup name with
  | some (some node) => .ok node
  | some none => .error .outside
  | none => .error .malformed

/-- The full text of a tag. -/
def expandTag (r : NodeReader) (handle : Option String) (suffix : String) : Except Fault String :=
  match handle with
  | none => .ok suffix
  | some handle =>
    match r.handles.lookup handle with
    | some expansion => .ok (expansion ++ suffix)
    | none => .error .malformed

/-- A name and a tag in front of a node. -/
structure Properties where
  /-- The name. -/
  name : Option String := none
  /-- The full text of the tag. -/
  tag : Option String := none

/-- Reads the tag in front of a node, if there is one. -/
def readTagOf (r : NodeReader) : Except Fault (Option String × NodeReader) :=
  match r.peek with
  | .tag handle suffix => do
    let tag ← r.expandTag handle suffix
    pure (some tag, r.next)
  | _ => pure (none, r)

/-- Reads the name in front of a node, if there is one. -/
def readNameOf (r : NodeReader) : Option String × NodeReader :=
  match r.peek with
  | .anchor name => (some name, r.next)
  | _ => (none, r)

/-- Reads the name and the tag in front of a node, in either order. A name can be given once. -/
def readProperties (r : NodeReader) : Except Fault (Properties × NodeReader) := do
  let (first, r) := r.readNameOf
  let (tag, r) ← r.readTagOf
  let (second, r) := match first with
    | some _ => (none, r)
    | none => if tag.isSome then r.readNameOf else (none, r)
  let name := first.or second
  demand (!(name.any fun n => (r.names.lookup n).isSome))
  pure (⟨name, tag⟩, r)

/-- Whether the tag is left to the node itself. -/
def Properties.isImplicit (p : Properties) : Bool :=
  match p.tag with
  | none => true
  | some tag => tag == "!"

/-- The tag of a scalar. Without quotes, and after a bare exclamation mark, the text decides. -/
def Properties.scalarTag (p : Properties) (text : String) (plain : Bool) : Tag :=
  match p.tag with
  | none => if plain then Scalar.tagOf text else .text
  | some "!" => Scalar.tagOf text
  | some tag => Tag.ofName tag

/-- The tag of a collection. -/
def Properties.collectionTag (p : Properties) (default : Tag) : Tag :=
  if p.isImplicit then default else Tag.ofName (p.tag.getD "")

/-! ## Nodes -/

mutual

/-- Reads a node. `block` says whether it may be one by columns, and `flat` whether it may be a list
in the column of the mapping around it. -/
def readNode : Nat → (block flat : Bool) → NodeReader → Except Fault (Node × NodeReader)
  | 0, _, _, _ => .error .malformed
  | fuel + 1, block, flat, r =>
    match r.peek with
    | .alias name => do
      let node ← r.nodeOf name
      pure (node, r.next)
    | _ => do
      let (p, r) ← r.readProperties
      let r := r.setName p.name none
      let (node, r) ← readContent fuel block flat p r
      pure (node, r.setName p.name (some node))

/-- Reads what follows the name and the tag of a node. -/
def readContent : Nat → (block flat : Bool) → Properties → NodeReader →
    Except Fault (Node × NodeReader)
  | 0, _, _, _, _ => .error .malformed
  | fuel + 1, block, flat, p, r =>
    match r.peek with
    | .scalar text plain => pure (.scalar (p.scalarTag text plain) text, r.next)
    | .flowSequenceStart => do
      let (items, r) ← readFlowItems fuel true r.next
      pure (.list (p.collectionTag .list) items, r)
    | .flowMappingStart => do
      let (entries, r) ← readFlowEntries fuel true r.next
      pure (.map (p.collectionTag .map) entries, r)
    | .blockEntry =>
      if flat then do
        let (items, r) ← readFlatItems fuel r
        pure (.list (p.collectionTag .list) items, r)
      else empty p r
    | .blockSequenceStart =>
      if block then do
        let (items, r) ← readBlockItems fuel r.next
        pure (.list (p.collectionTag .list) items, r)
      else empty p r
    | .blockMappingStart =>
      if block then do
        let (entries, r) ← readBlockEntries fuel r.next
        pure (.map (p.collectionTag .map) entries, r)
      else empty p r
    | _ => empty p r

/-- A node of which there is nothing but a name or a tag. -/
def empty (p : Properties) (r : NodeReader) : Except Fault (Node × NodeReader) :=
  if p.name.isSome || p.tag.isSome then pure (.scalar (p.scalarTag "" true) "", r)
  else .error .malformed

/-- Reads the items of a list by columns. -/
def readBlockItems : Nat → NodeReader → Except Fault (List Node × NodeReader)
  | 0, _ => .error .malformed
  | fuel + 1, r =>
    match r.peek with
    | .blockEntry => do
      let r := r.next
      let (item, r) ← match r.peek with
        | .blockEntry => pure (Node.absent, r)
        | .blockEnd => pure (Node.absent, r)
        | _ => readNode fuel true false r
      let (more, r) ← readBlockItems fuel r
      pure (item :: more, r)
    | _ => do
      let r ← r.expect .blockEnd
      pure ([], r)

/-- Reads the items of a list in the column of the mapping around it. -/
def readFlatItems : Nat → NodeReader → Except Fault (List Node × NodeReader)
  | 0, _ => .error .malformed
  | fuel + 1, r =>
    match r.peek with
    | .blockEntry => do
      let r := r.next
      let (item, r) ← match r.peek with
        | .blockEntry => pure (Node.absent, r)
        | .key => pure (Node.absent, r)
        | .value => pure (Node.absent, r)
        | .blockEnd => pure (Node.absent, r)
        | _ => readNode fuel true false r
      let (more, r) ← readFlatItems fuel r
      pure (item :: more, r)
    | _ => pure ([], r)

/-- Reads the entries of a mapping by columns. -/
def readBlockEntries : Nat → NodeReader → Except Fault (List (Node × Node) × NodeReader)
  | 0, _ => .error .malformed
  | fuel + 1, r =>
    match r.peek with
    | .key => do
      let (key, r) ← readBlockPart fuel r.next
      let (value, r) ← match r.peek with
        | .value => readBlockPart fuel r.next
        | _ => pure (Node.absent, r)
      let (more, r) ← readBlockEntries fuel r
      pure ((key, value) :: more, r)
    | _ => do
      let r ← r.expect .blockEnd
      pure ([], r)

/-- Reads a key or a value of a mapping by columns. -/
def readBlockPart : Nat → NodeReader → Except Fault (Node × NodeReader)
  | 0, _ => .error .malformed
  | fuel + 1, r =>
    match r.peek with
    | .key => pure (Node.absent, r)
    | .value => pure (Node.absent, r)
    | .blockEnd => pure (Node.absent, r)
    | _ => readNode fuel true true r

/-- Reads the items of a list in brackets. A key among them makes a mapping of one entry. -/
def readFlowItems : Nat → (first : Bool) → NodeReader → Except Fault (List Node × NodeReader)
  | 0, _, _ => .error .malformed
  | fuel + 1, first, r =>
    if r.peek = .flowSequenceEnd then pure ([], r.next)
    else do
      let r ← if first then pure r else r.expect .flowEntry
      match r.peek with
      | .flowSequenceEnd => pure ([], r.next)
      | .key => do
        let (key, r) ← readFlowPart fuel .flowSequenceEnd r.next
        let (value, r) ← readFlowValue fuel .flowSequenceEnd r
        let (more, r) ← readFlowItems fuel false r
        pure (.map .map [(key, value)] :: more, r)
      | _ => do
        let (item, r) ← readNode fuel false false r
        let (more, r) ← readFlowItems fuel false r
        pure (item :: more, r)

/-- Reads the entries of a mapping in braces. An entry without the token of a key has no value. -/
def readFlowEntries : Nat → (first : Bool) → NodeReader →
    Except Fault (List (Node × Node) × NodeReader)
  | 0, _, _ => .error .malformed
  | fuel + 1, first, r =>
    if r.peek = .flowMappingEnd then pure ([], r.next)
    else do
      let r ← if first then pure r else r.expect .flowEntry
      match r.peek with
      | .flowMappingEnd => pure ([], r.next)
      | .key => do
        let (key, r) ← readFlowPart fuel .flowMappingEnd r.next
        let (value, r) ← readFlowValue fuel .flowMappingEnd r
        let (more, r) ← readFlowEntries fuel false r
        pure ((key, value) :: more, r)
      | _ => do
        let (key, r) ← readNode fuel false false r
        let (more, r) ← readFlowEntries fuel false r
        pure ((key, Node.absent) :: more, r)

/-- Reads a key in a collection that ends with the given token. -/
def readFlowPart : Nat → Token → NodeReader → Except Fault (Node × NodeReader)
  | 0, _, _ => .error .malformed
  | fuel + 1, final, r =>
    if r.peek = .value ∨ r.peek = .flowEntry ∨ r.peek = final then pure (Node.absent, r)
    else readNode fuel false false r

/-- Reads a value, if there is one, in a collection that ends with the given token. -/
def readFlowValue : Nat → Token → NodeReader → Except Fault (Node × NodeReader)
  | 0, _, _ => .error .malformed
  | fuel + 1, final, r =>
    if r.peek = .value then
      let r := r.next
      if r.peek = .flowEntry ∨ r.peek = final then pure (Node.absent, r)
      else readNode fuel false false r
    else pure (Node.absent, r)

end

/-! ## Documents -/

/-- The reader behind the marks that end a document. -/
def skipEnds : List Token → List Token
  | .documentEnd :: rest => skipEnds rest
  | tokens => tokens

/-- The reader behind the directives. The version is given at most once and is one, and each handle
is given at most once. -/
def readDirectives : List Token → (versionSeen : Bool) → List (String × String) →
    Except Fault (List Token × List (String × String))
  | .version major :: rest, versionSeen, handles => do
    demand (!versionSeen && major == 1)
    readDirectives rest true handles
  | .tagHandle handle expansion :: rest, versionSeen, handles => do
    demand (handles.lookup handle).isNone
    readDirectives rest versionSeen ((handle, expansion) :: handles)
  | .otherDirective :: rest, versionSeen, handles => readDirectives rest versionSeen handles
  | tokens, _, handles => .ok (tokens, handles)

/-- The handles that every document has. -/
def defaultHandles : List (String × String) :=
  [("!", "!"), ("!!", tagDomain)]

/-- Whether a token begins a document by itself, or ends the text. -/
def isOpening : Token → Bool
  | .version _ => true
  | .tagHandle _ _ => true
  | .otherDirective => true
  | .documentStart => true
  | .streamEnd => true
  | _ => false

/-- The reader at the content of the first document, if there is one. A document without a mark at
its start has no directives, and has content. -/
def begin? (tokens : List Token) : Except Fault (Option NodeReader) := do
  if !isOpening (tokens.headD .streamEnd) then
    demand (tokens.head? != some .documentEnd)
    pure (some ⟨tokens, [], defaultHandles⟩)
  else if tokens.headD .streamEnd = .streamEnd then pure none
  else
    let (tokens, handles) ← readDirectives tokens false []
    let r ← (⟨tokens, [], handles ++ defaultHandles⟩ : NodeReader).expect .documentStart
    pure (some r)

/-- Whether nothing but marks of its end follows a document. -/
def isEnd (r : NodeReader) : Bool :=
  (skipEnds r.tokens).headD .streamEnd = .streamEnd

/-- The node of the only document of a text, if there is one. -/
def readDocument (tokens : List Token) : Except Fault (Option Node) := do
  match ← begin? tokens with
  | none => pure none
  | some r =>
    let (node, r) ← if isOpening r.peek || r.peek = .documentEnd then pure (Node.absent, r)
      else readNode (8 * tokens.length + 8) true false r
    demand r.isEnd
    pure (some node)

end NodeReader

/-- The node of the only document of a text, if there is one. -/
def Node.ofText (cs : List Char) : Except Fault (Option Node) := do
  let tokens ← Token.ofText cs
  NodeReader.readDocument tokens

end FilterScript.Yaml
