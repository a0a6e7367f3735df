import RestConnector.Yaml.Scan

/-!
Contract: the nodes of a YAML text.

Owns:
- `Tree`, a node with its tag, in which an alias stands as a number;
- `Stream`, the only document of a text with the nodes that its aliases stand for;
- `Stream.ofText?`, the stream of a text.

Does not own: what a scalar means, see `RestConnector.Yaml.Scalar`.

A text with a second document, an alias without an anchor or a tag handle that is not declared has
no stream.  The number of an anchor is the number of names in use when its node starts; when two
nodes come to bear one number, the one that starts last has it.
-/

namespace RestConnector.Yaml

inductive Tree where
  | scalar (tag : Option Tag) (style : Style) (text : String)
  | sequence (tag : Option Tag) (items : List Tree)
  | mapping (tag : Option Tag) (entries : List (Tree × Tree))
  | alias (number : Nat)
deriving Repr, Inhabited

namespace Tree

/-- The node that stands where nothing is written. -/
def blank : Tree := .scalar none .plain ""

end Tree

/-- A node that bears an anchor, with the place of its start among all such nodes. -/
structure Anchored where
  number : Nat
  place : Nat
  tree : Tree
deriving Repr

/-- The document of a text, absent when nothing is written. -/
structure Stream where
  root : Option Tree
  anchored : List Anchored
  /-- The number of scalars, aliases and ends of collections. -/
  size : Nat
deriving Repr

/-- The tokens still to be read and what has been gathered from the others. -/
structure Build where
  tokens : List Token
  handles : List (String × Tag)
  names : List (String × Nat)
  started : Nat
  anchored : List Anchored
  size : Nat

/-- A reading of tokens that may fail. -/
abbrev Parse := StateT Build Option

namespace Parse

def peek : Parse (Option Token) := return (← get).tokens.head?

def advance : Parse Unit := modify fun build => { build with tokens := build.tokens.drop 1 }

def count (parts : Nat) : Parse Unit := modify fun build => { build with size := build.size + parts }

/-- The node that stands where nothing is written. -/
def blank : Parse Tree := do
  count 1
  return Tree.blank

/-- The full form of a tag. -/
def expand (handle : String) (suffix : Tag) : Parse Tag := do
  if handle.isEmpty then return suffix
  else
    match (← get).handles.lookup handle with
    | some expansion => return expansion ++ suffix
    | none => failure

/-- Give an anchor to the node that starts here; the result is its number and its place. -/
def begin (name : String) : Parse (Nat × Nat) := do
  let build ← get
  let number := build.names.length
  let names := match build.names.lookup name with
    | some _ => build.names.map fun entry => if entry.1 = name then (name, number) else entry
    | none => build.names ++ [(name, number)]
  set { build with names, started := build.started + 1 }
  return (number, build.started)

/-- Keep a finished node if it bears an anchor. -/
def keep (label : Option (Nat × Nat)) (tree : Tree) : Parse Tree := do
  match label with
  | some (number, place) =>
    modify fun build => { build with anchored := ⟨number, place, tree⟩ :: build.anchored }
    return tree
  | none => return tree

/-- The anchor and the tag in front of a node, in either order. -/
def properties : Parse (Option String × Option Tag) := do
  match ← peek with
  | some (.anchor name) =>
    advance
    match ← peek with
    | some (.tag handle suffix) =>
      advance
      return (some name, some (← expand handle suffix))
    | _ => return (some name, none)
  | some (.tag handle suffix) =>
    advance
    match ← peek with
    | some (.anchor name) =>
      advance
      return (some name, some (← expand handle suffix))
    | _ => return (none, some (← expand handle suffix))
  | _ => return (none, none)

/-- The number of an anchor's name. -/
def reference (name : String) : Parse Tree := do
  match (← get).names.lookup name with
  | some number =>
    count 1
    return .alias number
  | none => failure

/-- Whether the next token is one of some, or none is left. -/
def isNext (tokens : List Token) : Parse Bool := do
  match ← peek with
  | some token => return tokens.contains token
  | none => return false

mutual

/-- A node, in a block if `inBlock`, where a sequence may do without indentation if `loose`. -/
def node (inBlock loose : Bool) : Nat → Parse Tree
  | 0 => failure
  | fuel + 1 => do
    match ← peek with
    | some (.alias name) =>
      advance
      reference name
    | _ =>
      let (anchor, tag) ← properties
      let label ← anchor.mapM begin
      let tree ← content inBlock loose (anchor.isSome || tag.isSome) tag fuel
      keep label tree

/-- A node after its properties. -/
def content (inBlock loose hasProperties : Bool) (tag : Option Tag) : Nat → Parse Tree
  | 0 => failure
  | fuel + 1 => do
    match ← peek with
    | some (.scalar style text) =>
      advance
      count 1
      return .scalar tag style text
    | some .flowSequenceStart =>
      advance
      count 2
      return .sequence tag (← flowItems true fuel)
    | some .flowMappingStart =>
      advance
      count 2
      return .mapping tag (← flowEntries true fuel)
    | some .blockEntry =>
      if loose then
        count 2
        return .sequence tag (← looseItems fuel)
      else if hasProperties then
        count 1
        return .scalar tag .plain ""
      else failure
    | some .blockSequenceStart =>
      if inBlock then
        advance
        count 2
        return .sequence tag (← blockItems fuel)
      else if hasProperties then
        count 1
        return .scalar tag .plain ""
      else failure
    | some .blockMappingStart =>
      if inBlock then
        advance
        count 2
        return .mapping tag (← blockEntries fuel)
      else if hasProperties then
        count 1
        return .scalar tag .plain ""
      else failure
    | _ =>
      if hasProperties then
        count 1
        return .scalar tag .plain ""
      else failure

def blockItems : Nat → Parse (List Tree)
  | 0 => failure
  | fuel + 1 => do
    match ← peek with
    | some .blockEntry =>
      advance
      let item ← if ← isNext [.blockEntry, .blockEnd] then blank else node true false fuel
      return item :: (← blockItems fuel)
    | some .blockEnd =>
      advance
      return []
    | _ => failure

/-- The items of a sequence that stands at the column of its key. -/
def looseItems : Nat → Parse (List Tree)
  | 0 => failure
  | fuel + 1 => do
    match ← peek with
    | some .blockEntry =>
      advance
      let item ←
        if ← isNext [.blockEntry, .key, .value, .blockEnd] then blank else node true false fuel
      return item :: (← looseItems fuel)
    | _ => return []

def blockEntries : Nat → Parse (List (Tree × Tree))
  | 0 => failure
  | fuel + 1 => do
    match ← peek with
    | some .key =>
      advance
      let key ← if ← isNext [.key, .value, .blockEnd] then blank else node true true fuel
      let value ← blockValue fuel
      return (key, value) :: (← blockEntries fuel)
    | some .blockEnd =>
      advance
      return []
    | _ => failure

def blockValue : Nat → Parse Tree
  | 0 => failure
  | fuel + 1 => do
    match ← peek with
    | some .value =>
      advance
      if ← isNext [.key, .value, .blockEnd] then blank else node true true fuel
    | _ => blank

def flowItems (isFirst : Bool) : Nat → Parse (List Tree)
  | 0 => failure
  | fuel + 1 => do
    if ← isNext [.flowSequenceEnd] then
      advance
      return []
    else
      if !isFirst then
        if ← isNext [.flowEntry] then advance else failure
      match ← peek with
      | some .key =>
        advance
        count 2
        let pair ← flowPair fuel
        return .mapping none [pair] :: (← flowItems false fuel)
      | some .flowSequenceEnd =>
        advance
        return []
      | _ =>
        let item ← node false false fuel
        return item :: (← flowItems false fuel)

/-- The only entry of a mapping that stands as an item of a flow sequence.  A key that is not
written takes the token in its place with it. -/
def flowPair : Nat → Parse (Tree × Tree)
  | 0 => failure
  | fuel + 1 => do
    let key ←
      if ← isNext [.value, .flowEntry, .flowSequenceEnd] then
        advance
        blank
      else node false false fuel
    if ← isNext [.value] then
      advance
      let value ←
        if ← isNext [.flowEntry, .flowSequenceEnd] then blank else node false false fuel
      return (key, value)
    else return (key, ← blank)

def flowEntries (isFirst : Bool) : Nat → Parse (List (Tree × Tree))
  | 0 => failure
  | fuel + 1 => do
    if ← isNext [.flowMappingEnd] then
      advance
      return []
    else
      if !isFirst then
        if ← isNext [.flowEntry] then advance else failure
      match ← peek with
      | some .key =>
        advance
        let key ←
          if ← isNext [.value, .flowEntry, .flowMappingEnd] then blank else node false false fuel
        let value ← flowValue fuel
        return (key, value) :: (← flowEntries false fuel)
      | some .flowMappingEnd =>
        advance
        return []
      | _ =>
        let key ← node false false fuel
        let value ← blank
        return (key, value) :: (← flowEntries false fuel)

def flowValue : Nat → Parse Tree
  | 0 => failure
  | fuel + 1 => do
    if ← isNext [.value] then
      advance
      if ← isNext [.flowEntry, .flowMappingEnd] then blank else node false false fuel
    else blank

end

/-! ## Documents -/

def standardHandles : List (String × Tag) :=
  [("!", Tag.ofChars ['!']), ("!!", Tag.ofChars "tag:yaml.org,2002:".toList)]

/-- Read directives: one version at most, and each handle once. -/
def directives (hasVersion : Bool) (handles : List (String × Tag)) : List Token →
    Option (List (String × Tag) × List Token)
  | .version major minor :: rest =>
    if hasVersion || major != 1 || (minor != 1 && minor != 2) then none
    else directives true handles rest
  | .tagHandle handle expansion :: rest =>
    if (handles.lookup handle).isSome then none
    else directives hasVersion ((handle, expansion) :: handles) rest
  | rest => some (handles, rest)

/-- The root of the first document, up to its end. -/
def document (fuel : Nat) : Parse Tree := do
  match ← peek with
  | some .documentStart | some (.version ..) | some (.tagHandle ..) =>
    let (handles, rest) ← (directives false [] (← get).tokens : Option _)
    modify fun build => { build with tokens := rest, handles := handles ++ standardHandles }
    if ← isNext [.documentStart] then
      advance
      match ← peek with
      | none | some .documentStart | some .documentEnd | some (.version ..)
      | some (.tagHandle ..) => blank
      | _ => node true false fuel
    else failure
  | _ => node true false fuel

end Parse

namespace Stream

def ofTokens? (tokens : List Token) : Option Stream :=
  if tokens.isEmpty then some ⟨none, [], 1⟩
  else do
    let build : Build := ⟨tokens, Parse.standardHandles, [], 0, [], 0⟩
    let (root, final) ← (Parse.document (4 * tokens.length + 8)).run build
    if (final.tokens.dropWhile (· == .documentEnd)).isEmpty then
      return ⟨some root, final.anchored, final.size⟩
    else none

def ofText? (input : List Char) : Option Stream := do
  ofTokens? (← tokensOf input)

/-- The node that an alias stands for. -/
def target? (stream : Stream) (number : Nat) : Option Tree :=
  latest none stream.anchored
where
  /-- The node with the number that starts last. -/
  latest (best : Option Anchored) : List Anchored → Option Tree
    | [] => best.map (·.tree)
    | node :: rest =>
      let isLater := match best with
        | some known => known.place < node.place
        | none => true
      latest (if node.number == number && isLater then some node else best) rest

end Stream

end RestConnector.Yaml
