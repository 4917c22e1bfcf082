import SchemaScribe.Document.Yaml.Node
import SchemaScribe.Document.Yaml.Token

/-!
How the tokens of a YAML text make up a node. A text holds at most one document.
-/

namespace SchemaScribe.Document.Yaml

/-- The tokens ahead, what is wrong where they end, and what the document has declared so far. An anchor has no
node yet as long as its collection is open. -/
structure Outline where
  tokens : List Token
  fault : Fault
  handles : List (String × String)
  anchors : List (String × Option Node)
  depth : Nat

/-- A part of a text read from an outline, of which a rest remains. -/
abbrev Reading (α : Type) := StateT Outline (Except Fault) α

namespace Reading

def peek : Reading Token := do
  let outline ← get
  match outline.tokens with
  | token :: _ => return token
  | [] => throw outline.fault

def skip : Reading Unit :=
  modify fun outline => { outline with tokens := outline.tokens.drop 1 }

/-- Whether the next token is the given one, which is then left behind. -/
def accept (token : Token) : Reading Bool := do
  if (← peek) = token then
    skip
    return true
  else return false

def expect (token : Token) : Reading Unit := do
  if !(← accept token) then throw .malformed

/-! ### Anchors and tags -/

/-- An anchor and the full name of a tag, each at most once and in any order. -/
structure Properties where
  anchor : Option String
  tagName : Option String

def anchor? : Reading (Option String) := do
  match ← peek with
  | .anchor name =>
    skip
    return some name
  | _ => return none

/-- The full name of a tag; its handle has to be declared. -/
def tagName? : Reading (Option (Option String × String)) := do
  match ← peek with
  | .tag handle rest =>
    skip
    return some (handle, rest)
  | _ => return none

def expandTag : Option (Option String × String) → Reading (Option String)
  | none => return none
  | some (none, rest) => return some rest
  | some (some handle, rest) => do
    match (← get).handles.lookup handle with
    | some meaning => return some (meaning ++ rest)
    | none => throw .malformed

def properties : Reading Properties := do
  match ← anchor? with
  | some anchor => return ⟨some anchor, ← expandTag (← tagName?)⟩
  | none =>
    match ← tagName? with
    | none => return ⟨none, none⟩
    | some tag =>
      let anchor ← anchor?
      return ⟨anchor, ← expandTag (some tag)⟩

/-- The tag that leaves it to the form of a node what it is. -/
def openTag : String := "!"

def scalarTag (isPlain : Bool) (codes : List Nat) (tagName : Option String) : Tag :=
  match tagName with
  | none => if isPlain then .ofForm (codes.map Text.shownChar) else .text
  | some name => if name = openTag then .ofForm (codes.map Text.shownChar) else .ofName name

def collectionTag (usual : Tag) (tagName : Option String) : Tag :=
  match tagName with
  | none => usual
  | some name => if name = openTag then usual else .ofName name

def setAnchor (anchor : Option String) (node : Option Node) : Reading Unit :=
  match anchor with
  | none => return ()
  | some name => modify fun outline => { outline with anchors := (name, node) :: outline.anchors }

/-- The node that an alias stands for. -/
def aliased (name : String) : Reading Node := do
  match (← get).anchors.lookup name with
  | some (some node) => return node
  | some none => return .enclosing name
  | none => throw .malformed

/-- An anchor can be set only once. -/
def checkAnchor (anchor : Option String) : Reading Unit := do
  match anchor with
  | none => return ()
  | some name => if ((← get).anchors.lookup name).isSome then throw .malformed

def maxDepth : Nat := 489

/-- Reads what is within a collection. -/
def nested (content : Reading α) : Reading α := do
  if maxDepth ≤ (← get).depth then throw .tooDeep
  modify fun outline => { outline with depth := outline.depth + 1 }
  let a ← content
  modify fun outline => { outline with depth := outline.depth - 1 }
  return a

/-- Reads a collection, whose anchor may already be referred to within it. -/
def withAnchor (anchor : Option String) (content : Reading Node) : Reading Node := do
  setAnchor anchor none
  let node ← nested content
  let node := (anchor.map (Node.unroll · node)).getD node
  setAnchor anchor (some node)
  return node

/-- A scalar with what is said about it. -/
def scalar (p : Properties) (isPlain : Bool) (codes : List Nat) : Reading Node := do
  let node := Node.scalar (scalarTag isPlain codes p.tagName) codes
  setAnchor p.anchor (some node)
  return node

/-! ### Nodes -/

/-- Where a node stands, which decides what else than a scalar or a flow collection it can be. -/
inductive Position where
  | flow
  | block
  /-- The content of an entry of a block mapping, which may be a block sequence that is not indented. -/
  | blockEntry
  deriving DecidableEq

mutual

/-- The node that starts with the next token. The fuel bounds the nodes and entries on the way. -/
def node (position : Position) : Nat → Reading Node
  | 0 => throw .malformed
  | fuel + 1 => do
    match ← peek with
    | .alias name =>
      skip
      aliased name
    | _ =>
      let p ← properties
      let token ← peek
      checkAnchor p.anchor
      match token with
      | .scalar isPlain codes =>
        skip
        scalar p isPlain codes
      | .flowSequence =>
        skip
        withAnchor p.anchor do return .sequence (collectionTag .sequence p.tagName) (← flowItems true fuel)
      | .flowMapping =>
        skip
        withAnchor p.anchor do return .mapping (collectionTag .mapping p.tagName) (← flowEntries true fuel)
      | token =>
        if token = .dash && position = .blockEntry then
          withAnchor p.anchor do return .sequence (collectionTag .sequence p.tagName) (← entryItems fuel)
        else if token = .blockSequence && position ≠ .flow then
          skip
          withAnchor p.anchor do return .sequence (collectionTag .sequence p.tagName) (← blockItems fuel)
        else if token = .blockMapping && position ≠ .flow then
          skip
          withAnchor p.anchor do return .mapping (collectionTag .mapping p.tagName) (← blockEntries fuel)
        else if p.anchor.isSome || p.tagName.isSome then scalar p true []
        else throw .malformed

/-- The next node, or the empty one in front of a token that cannot start it. -/
def nodeUnless (ends : List Token) (position : Position) : Nat → Reading Node
  | 0 => throw .malformed
  | fuel + 1 => do
    if ends.contains (← peek) then return .empty else node position fuel

def blockItems : Nat → Reading (List Node)
  | 0 => throw .malformed
  | fuel + 1 => do
    if ← accept .dash then
      let item ← nodeUnless [.dash, .blockEnd] .block fuel
      return item :: (← blockItems fuel)
    else
      expect .blockEnd
      return []

/-- The items of a block sequence that is not indented. It ends without a token of its own. -/
def entryItems : Nat → Reading (List Node)
  | 0 => throw .malformed
  | fuel + 1 => do
    if ← accept .dash then
      let item ← nodeUnless [.dash, .key, .value, .blockEnd] .block fuel
      return item :: (← entryItems fuel)
    else return []

def blockEntries : Nat → Reading (List (Node × Node))
  | 0 => throw .malformed
  | fuel + 1 => do
    if ← accept .key then
      let key ← nodeUnless [.key, .value, .blockEnd] .blockEntry fuel
      let value ←
        if ← accept .value then nodeUnless [.key, .value, .blockEnd] .blockEntry fuel else pure .empty
      return (key, value) :: (← blockEntries fuel)
    else
      expect .blockEnd
      return []

/-- The items of a flow sequence. A key makes a mapping with a single entry. -/
def flowItems (isFirst : Bool) : Nat → Reading (List Node)
  | 0 => throw .malformed
  | fuel + 1 => do
    if ← accept .flowSequenceEnd then return []
    if !isFirst then expect .comma
    if ← accept .key then
      let entry ← nested do
        let key ← nodeUnless [.value, .comma, .flowSequenceEnd] .flow fuel
        let value ← if ← accept .value then nodeUnless [.comma, .flowSequenceEnd] .flow fuel else pure .empty
        return (key, value)
      return .mapping .mapping [entry] :: (← flowItems false fuel)
    else if ← accept .flowSequenceEnd then return []
    else
      let item ← node .flow fuel
      return item :: (← flowItems false fuel)

/-- The entries of a flow mapping. A node that is no key has the empty value. -/
def flowEntries (isFirst : Bool) : Nat → Reading (List (Node × Node))
  | 0 => throw .malformed
  | fuel + 1 => do
    if ← accept .flowMappingEnd then return []
    if !isFirst then expect .comma
    if ← accept .key then
      let key ← nodeUnless [.value, .comma, .flowMappingEnd] .flow fuel
      let value ← if ← accept .value then nodeUnless [.comma, .flowMappingEnd] .flow fuel else pure .empty
      return (key, value) :: (← flowEntries false fuel)
    else if ← accept .flowMappingEnd then return []
    else
      let key ← node .flow fuel
      return (key, .empty) :: (← flowEntries false fuel)

end

/-! ### Documents -/

/-- The tag handles that need no directive. -/
def commonHandles : List (String × String) :=
  [("!", "!"), ("!!", Tag.commonStart)]

/-- Obeys the directives of a document; neither the version nor a handle can be declared twice. -/
def directives (hasVersion : Bool) : Nat → Reading Unit
  | 0 => throw .malformed
  | fuel + 1 => do
    match ← peek with
    | .directive (.version major) =>
      skip
      if hasVersion || major ≠ 1 then throw .malformed
      directives true fuel
    | .directive (.handle name meaning) =>
      skip
      if ((← get).handles.lookup name).isSome then throw .malformed
      modify fun outline => { outline with handles := (name, meaning) :: outline.handles }
      directives hasVersion fuel
    | .directive .other =>
      skip
      directives hasVersion fuel
    | _ => return ()

def content (fuel : Nat) : Reading Node := do
  match ← peek with
  | .directive _ => return .empty
  | .documentStart => return .empty
  | .documentEnd => return .empty
  | .streamEnd => return .empty
  | _ => node .block fuel

/-- A document that starts with directives and a mark. -/
def explicitDocument (fuel : Nat) : Reading Node := do
  directives false fuel
  modify fun outline => { outline with handles := outline.handles ++ commonHandles }
  expect .documentStart
  content fuel

/-- Leaves the marks of the end of a document behind. -/
def documentEnds : Nat → Reading Unit
  | 0 => throw .malformed
  | fuel + 1 => do
    if ← accept .documentEnd then documentEnds fuel

/-- The node of a text; an empty text has the empty node. -/
def document (fuel : Nat) : Reading Node := do
  match ← peek with
  | .streamEnd => return .empty
  | token =>
    let isExplicit := match token with
      | .directive _ => true
      | .documentStart => true
      | _ => false
    let root ←
      if isExplicit then explicitDocument fuel
      else do
        modify fun outline => { outline with handles := commonHandles }
        node .block fuel
    documentEnds fuel
    expect .streamEnd
    return root

end Reading

/-- The node that tokens make up; `fault` is what is wrong where they end early. -/
def Node.ofTokens (tokens : List Token) (fault : Option Fault) : Except Fault Node := do
  let fuel := 3 * tokens.length + 3
  let (root, _) ← (Reading.document fuel).run ⟨tokens, fault.getD .malformed, [], [], 0⟩
  return root

end SchemaScribe.Document.Yaml
