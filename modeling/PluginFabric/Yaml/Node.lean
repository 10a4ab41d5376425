import PluginFabric.Yaml.Token

/-! The documents of a YAML text.

    A node is a scalar, a sequence or a mapping; it may be anchored, and a reference stands for the node
    anchored last under its name. The readers take the tokens in front of them and answer what they
    read and what is left; every one of them takes a token before it turns to another, so the fuel is
    counted in tokens. -/

namespace PluginFabric.Yaml

/-- A node of a document; anchors are numbered. -/
inductive Node where
  | scalar (tag : Option Tag) (style : Style) (text : String)
  | sequence (entries : List Node)
  | mapping (entries : List (Node × Node))
  | anchored (number : Nat) (node : Node)
  | reference (number : Nat)
  deriving Inhabited

namespace Node

/-- A sequence with one more entry in front. -/
def prepend (entry : Node) : Node → Node
  | sequence entries => sequence (entry :: entries)
  | node => node

/-- A mapping with one more pair in front. -/
def prependPair (key value : Node) : Node → Node
  | mapping entries => mapping ((key, value) :: entries)
  | node => node

/-- What stands where nothing is written. -/
def nothing : Node := .scalar none .plain ""

mutual

/-- The anchored nodes with their numbers, in the order in which they begin. -/
def anchors : Node → List (Nat × Node)
  | scalar .. => []
  | sequence entries => anchorsOfEntries entries
  | mapping entries => anchorsOfPairs entries
  | anchored number node => (number, node) :: anchors node
  | reference _ => []

def anchorsOfEntries : List Node → List (Nat × Node)
  | [] => []
  | n :: ns => anchors n ++ anchorsOfEntries ns

def anchorsOfPairs : List (Node × Node) → List (Nat × Node)
  | [] => []
  | (k, v) :: ps => anchors k ++ anchors v ++ anchorsOfPairs ps

end

end Node

/-- A document: its root, and the node of each anchor. -/
structure Document where
  root : Node
  anchors : List (Nat × Node)
  deriving Inhabited

namespace Document

def ofRoot (root : Node) : Document := ⟨root, root.anchors⟩

/-- The node that is meant: a reference means what the last anchor of its number is on. -/
def resolve (d : Document) : Node → Node
  | .reference number => match d.anchors.reverse.find? fun a => a.1 == number with
    | some (_, node) => node
    | none => .nothing
  | .anchored _ node => node
  | node => node

end Document

/-- What a reader of tokens knows: the expansions of tag handles, and the numbers of anchors. -/
structure Names where
  handles : List (String × Tag)
  anchors : List (String × Nat) := []

namespace Names

/-- The handles that every document knows. -/
def standardHandles : List (String × Tag) :=
  [("!", Tag.ofText "!"), ("!!", Tag.ofText "tag:yaml.org,2002:")]

/-- A tag in full; a handle that is not known has none. -/
def expand? (n : Names) (handle : String) (ending : Tag) : Option Tag :=
  if handle = "" then some ending
  else (n.handles.find? fun h => h.1 == handle).map fun h => h.2 ++ ending

/-- The number of an anchor: that of the names known before it. -/
def withAnchor (n : Names) (name : String) : Nat × Names :=
  let number := n.anchors.length
  let anchors :=
    if n.anchors.any (·.1 == name) then
      n.anchors.map fun a => if a.1 == name then (name, number) else a
    else n.anchors ++ [(name, number)]
  (number, { n with anchors })

def anchor? (n : Names) (name : String) : Option Nat :=
  (n.anchors.find? fun a => a.1 == name).map (·.2)

end Names

/-- The tokens that are left, and what is known. -/
structure Reading where
  tokens : List Token
  names : Names

namespace Reading

def drop (r : Reading) : Reading := { r with tokens := r.tokens.drop 1 }

def starts (r : Reading) (t : Token) : Bool := r.tokens.head? == some t

def startsAny (r : Reading) (ts : List Token) : Bool := ts.any r.starts

/-- The anchor and the tag before a node, in either order. -/
def properties? (r : Reading) : Option (Option Nat × Option Tag × Reading) :=
  let anchored (name : String) (tokens : List Token) : Nat × Reading :=
    let (number, names) := r.names.withAnchor name
    (number, ⟨tokens, names⟩)
  match r.tokens with
  | .anchor name :: .tag handle ending :: rest => do
    let tag ← r.names.expand? handle ending
    let (number, r) := anchored name rest
    return (some number, some tag, r)
  | .tag handle ending :: .anchor name :: rest => do
    let tag ← r.names.expand? handle ending
    let (number, r) := anchored name rest
    return (some number, some tag, r)
  | .anchor name :: rest =>
    let (number, r) := anchored name rest
    some (some number, none, r)
  | .tag handle ending :: rest => do
    return (none, some (← r.names.expand? handle ending), ⟨rest, r.names⟩)
  | _ => some (none, none, r)

mutual

/-- One node. Outside of brackets it may be a block, and below a key also a sequence that is not
    indented. -/
def node? (block unindented : Bool) : Nat → Reading → Option (Node × Reading)
  | 0, _ => none
  | fuel + 1, r =>
    match r.tokens with
    | .reference name :: _ => (r.names.anchor? name).map fun number => (.reference number, r.drop)
    | _ => do
      let (number, tag, r) ← r.properties?
      let (node, r) ← (
        match r.tokens with
        | .scalar style text :: _ => some (.scalar tag style text, r.drop)
        | .flowSequenceStart :: _ => flowSequence? true fuel r.drop
        | .flowMappingStart :: _ => flowMapping? true fuel r.drop
        | .blockEntry :: _ =>
          if unindented then unindentedSequence? fuel r
          else if number.isSome || tag.isSome then some (.scalar tag .plain "", r)
          else none
        | .blockSequenceStart :: _ =>
          if block then blockSequence? fuel r.drop
          else if number.isSome || tag.isSome then some (.scalar tag .plain "", r)
          else none
        | .blockMappingStart :: _ =>
          if block then blockMapping? fuel r.drop
          else if number.isSome || tag.isSome then some (.scalar tag .plain "", r)
          else none
        | _ => if number.isSome || tag.isSome then some (.scalar tag .plain "", r) else none)
      return (match number with | some n => .anchored n node | none => node, r)

/-- A node, or nothing if one of these tokens is next. -/
def nodeUnless? (block unindented : Bool) (ts : List Token) : Nat → Reading → Option (Node × Reading)
  | 0, _ => none
  | fuel + 1, r => if r.startsAny ts then some (.nothing, r) else node? block unindented fuel r

/-- The entries of a block sequence. -/
def blockSequence? : Nat → Reading → Option (Node × Reading)
  | 0, _ => none
  | fuel + 1, r =>
    match r.tokens with
    | .blockEntry :: _ => do
      let (entry, r) ← nodeUnless? true false [.blockEntry, .blockEnd] fuel r.drop
      let (rest, r) ← blockSequence? fuel r
      return (Node.prepend entry rest, r)
    | .blockEnd :: _ => some (.sequence [], r.drop)
    | _ => none

/-- The entries of a sequence that is not indented; it ends before anything else. -/
def unindentedSequence? : Nat → Reading → Option (Node × Reading)
  | 0, _ => none
  | fuel + 1, r =>
    match r.tokens with
    | .blockEntry :: _ => do
      let (entry, r) ← nodeUnless? true false [.blockEntry, .key, .value, .blockEnd] fuel r.drop
      let (rest, r) ← unindentedSequence? fuel r
      return (Node.prepend entry rest, r)
    | _ => some (.sequence [], r)

/-- The entries of a block mapping. -/
def blockMapping? : Nat → Reading → Option (Node × Reading)
  | 0, _ => none
  | fuel + 1, r =>
    match r.tokens with
    | .key :: _ => do
      let ends := [.key, .value, .blockEnd]
      let (key, r) ← nodeUnless? true true ends fuel r.drop
      let (value, r) ← (
        if r.starts .value then nodeUnless? true true ends fuel r.drop else some (.nothing, r))
      let (rest, r) ← blockMapping? fuel r
      return (Node.prependPair key value rest, r)
    | .blockEnd :: _ => some (.mapping [], r.drop)
    | _ => none

/-- The entries of a sequence in brackets; a pair among them is a mapping of its own. -/
def flowSequence? (first : Bool) : Nat → Reading → Option (Node × Reading)
  | 0, _ => none
  | fuel + 1, r =>
    if r.starts .flowSequenceEnd then some (.sequence [], r.drop)
    else if !first && !r.starts .flowEntry then none
    else
      let r := if first then r else r.drop
      match r.tokens with
      | .flowSequenceEnd :: _ => some (.sequence [], r.drop)
      | .key :: _ => do
        let (key, r) ← (
          if r.drop.startsAny [.value, .flowEntry, .flowSequenceEnd] then some (.nothing, r.drop.drop)
          else node? false false fuel r.drop)
        let (value, r) ← (
          if r.starts .value then nodeUnless? false false [.flowEntry, .flowSequenceEnd] fuel r.drop
          else some (.nothing, r))
        let (rest, r) ← flowSequence? false fuel r
        return (Node.prepend (.mapping [(key, value)]) rest, r)
      | _ => do
        let (entry, r) ← node? false false fuel r
        let (rest, r) ← flowSequence? false fuel r
        return (Node.prepend entry rest, r)

/-- The entries of a mapping in braces; a key may stand alone. -/
def flowMapping? (first : Bool) : Nat → Reading → Option (Node × Reading)
  | 0, _ => none
  | fuel + 1, r =>
    if r.starts .flowMappingEnd then some (.mapping [], r.drop)
    else if !first && !r.starts .flowEntry then none
    else
      let r := if first then r else r.drop
      match r.tokens with
      | .flowMappingEnd :: _ => some (.mapping [], r.drop)
      | .key :: _ => do
        let (key, r) ← nodeUnless? false false [.value, .flowEntry, .flowMappingEnd] fuel r.drop
        let (value, r) ← (
          if r.starts .value then nodeUnless? false false [.flowEntry, .flowMappingEnd] fuel r.drop
          else some (.nothing, r))
        let (rest, r) ← flowMapping? false fuel r
        return (Node.prependPair key value rest, r)
      | _ => do
        let (key, r) ← node? false false fuel r
        let (rest, r) ← flowMapping? false fuel r
        return (Node.prependPair key .nothing rest, r)

end

/-- The directives before a document: at most one version, which must be known, and tag handles, each
    at most once. -/
def directives? (handles : List (String × Tag)) (version : Bool) :
    List Token → Option (List (String × Tag) × List Token)
  | .version major minor :: rest =>
    if version || major ≠ 1 || (minor ≠ 1 && minor ≠ 2) then none
    else directives? handles true rest
  | .tagHandle handle expansion :: rest =>
    if handles.any (·.1 == handle) then none
    else directives? (handles ++ [(handle, expansion)]) version rest
  | rest => some (handles, rest)

/-- A document from its content on. -/
def content? (handles : List (String × Tag)) (explicit : Bool) (ts : List Token) :
    Option (Document × List Token) := do
  let known := handles ++ Names.standardHandles.filter fun h => !handles.any (·.1 == h.1)
  let r : Reading := ⟨ts, ⟨known, []⟩⟩
  let ends := match ts with
    | [] | .version .. :: _ | .tagHandle .. :: _ | .documentStart :: _ | .documentEnd :: _ => true
    | _ => false
  let (root, r) ← (
    if explicit && ends then some (.nothing, r) else r.node? true false (4 * ts.length + 4))
  return (Document.ofRoot root, if r.starts .documentEnd then r.drop.tokens else r.tokens)

/-- The documents from here on. Only the first one may begin without a mark. -/
def documents? (first : Bool) : Nat → List Token → Option (List Document)
  | 0, _ => none
  | fuel + 1, ts =>
    let ts := if first then ts else ts.dropWhile (· == .documentEnd)
    match ts with
    | [] => some []
    | _ => do
      let (handles, rest) ← directives? [] false ts
      match rest with
      | .documentStart :: rest =>
        let (d, rest) ← content? handles true rest
        return d :: (← documents? false fuel rest)
      | _ =>
        if first && rest.length = ts.length then
          let (d, rest) ← content? [] false ts
          return d :: (← documents? false fuel rest)
        else none

end Reading

/-- The documents of a text. -/
def documents? (s : String) : Option (List Document) := do
  let ts ← tokens? s.toList
  Reading.documents? true (ts.length + 1) ts

end PluginFabric.Yaml
