import SignedAdmission.Yaml.Token

/-! The nodes of YAML documents. An alias stands for the node that its anchor names. -/
namespace SignedAdmission.Yaml

inductive Node where
  | scalar (tag : Option String) (plain : Bool) (text : String)
  | sequence (tag : Option String) (items : List Node)
  | mapping (tag : Option String) (entries : List (Node × Node))
  /-- An alias inside the node that it stands for. -/
  | cyclic
deriving Inhabited

namespace Node

/-- What is left out where a node may stand. -/
def empty : Node := .scalar none true ""

end Node

/-- Tokens not read yet, the nodes of anchors, latest first, and the meanings of tag handles. -/
structure Reader where
  tokens : List Token
  anchors : List (String × Node)
  handles : List (String × String)

abbrev Read := StateT Reader Option

namespace Reader

def standardHandles : List (String × String) :=
  [("!", "!"), ("!!", "tag:yaml.org,2002:")]

def peek : Read Token := do
  match (← get).tokens with
  | token :: _ => return token
  | [] => return .streamEnd

def pass : Read Unit :=
  modify fun r => { r with tokens := r.tokens.tail }

/-- Passes a token if it comes next. -/
def passed (token : Token) : Read Bool := do
  if (← peek) = token then
    pass
    return true
  else return false

def expect (token : Token) : Read Unit := do
  if !(← passed token) then failure

def name (anchor : Option String) (node : Node) : Read Unit :=
  match anchor with
  | some anchor => modify fun r => { r with anchors := (anchor, node) :: r.anchors }
  | none => return

def anchor? : Read (Option String) := do
  match ← peek with
  | .anchor name =>
    pass
    return some name
  | _ => return none

/-- The tag that comes next, with its handle replaced by what the handle means. -/
def tag? : Read (Option String) := do
  match ← peek with
  | .tag "" suffix =>
    pass
    return some suffix
  | .tag handle suffix =>
    pass
    let start ← StateT.lift ((← get).handles.lookup handle)
    return some (start ++ suffix)
  | _ => return none

/-- An anchor and a tag in either order. -/
def properties : Read (Option String × Option String) := do
  let anchor ← anchor?
  let tag ← tag?
  if anchor.isSome || tag.isNone then return (anchor, tag)
  else return (← anchor?, tag)

mutual

/-- Reads a node. Block collections may stand only where `block` says so, and the items of a
sequence may be as deep as the key of its mapping where `flush` says so. -/
def node (block flush : Bool) : Nat → Read Node
  | 0 => failure
  | fuel + 1 => do
    match ← peek with
    | .nodeAlias name =>
      pass
      StateT.lift ((← get).anchors.lookup name)
    | _ =>
      let (anchor, tag) ← properties
      name anchor .cyclic
      let content ← nodeContent block flush fuel (anchor.isSome || tag.isSome) tag
      name anchor content
      return content

def nodeContent (block flush : Bool) : Nat → Bool → Option String → Read Node
  | 0, _, _ => failure
  | fuel + 1, mayBeEmpty, tag => do
    match ← peek with
    | .item =>
      if flush then return .sequence tag (← flushItems fuel)
      else if mayBeEmpty then return .scalar tag true ""
      else failure
    | .scalar plain text =>
      pass
      return .scalar tag plain text
    | .openSequence =>
      pass
      return .sequence tag (← flowItems true fuel)
    | .openMapping =>
      pass
      return .mapping tag (← flowEntries true fuel)
    | .openBlockSequence =>
      if block then
        pass
        return .sequence tag (← blockItems fuel)
      else if mayBeEmpty then return .scalar tag true ""
      else failure
    | .openBlockMapping =>
      if block then
        pass
        return .mapping tag (← blockEntries fuel)
      else if mayBeEmpty then return .scalar tag true ""
      else failure
    | _ => if mayBeEmpty then return .scalar tag true "" else failure

/-- The items of a block sequence up to its end. -/
def blockItems : Nat → Read (List Node)
  | 0 => failure
  | fuel + 1 => do
    if ← passed .closeBlock then return []
    expect .item
    let next ← peek
    let first ← if next = .item || next = .closeBlock then pure .empty else node true false fuel
    return first :: (← blockItems fuel)

/-- The items of a block sequence that has no indentation of its own. -/
def flushItems : Nat → Read (List Node)
  | 0 => failure
  | fuel + 1 => do
    if !(← passed .item) then return []
    let next ← peek
    let first ←
      if next = .item || next = .key || next = .value || next = .closeBlock then pure .empty
      else node true false fuel
    return first :: (← flushItems fuel)

/-- A node of a block mapping, left out or not. -/
def blockPart : Nat → Read Node
  | 0 => failure
  | fuel + 1 => do
    let next ← peek
    if next = .key || next = .value || next = .closeBlock then return .empty
    else node true true fuel

def blockEntries : Nat → Read (List (Node × Node))
  | 0 => failure
  | fuel + 1 => do
    if ← passed .closeBlock then return []
    expect .key
    let key ← blockPart fuel
    let value ← if ← passed .value then blockPart fuel else pure .empty
    return (key, value) :: (← blockEntries fuel)

/-- The value after a key in brackets that `close` ends, left out or not. -/
def flowValue (close : Token) : Nat → Read Node
  | 0 => failure
  | fuel + 1 => do
    if !(← passed .value) then return .empty
    let next ← peek
    if next = .comma || next = close then return .empty else node false false fuel

/-- An item of a flow sequence may be a key with a value. -/
def flowItem : Nat → Read Node
  | 0 => failure
  | fuel + 1 => do
    if !(← passed .key) then node false false fuel
    else
      let next ← peek
      if next = .value || next = .comma || next = .closeSequence then
        pass
        return .mapping none [(.empty, ← flowValue .closeSequence fuel)]
      else
        let key ← node false false fuel
        return .mapping none [(key, ← flowValue .closeSequence fuel)]

def flowItems (first : Bool) : Nat → Read (List Node)
  | 0 => failure
  | fuel + 1 => do
    if ← passed .closeSequence then return []
    if !first then expect .comma
    if ← passed .closeSequence then return []
    let item ← flowItem fuel
    return item :: (← flowItems false fuel)

def flowEntry : Nat → Read (Node × Node)
  | 0 => failure
  | fuel + 1 => do
    if !(← passed .key) then return (← node false false fuel, .empty)
    else
      let next ← peek
      let key ←
        if next = .value || next = .comma || next = .closeMapping then pure .empty
        else node false false fuel
      return (key, ← flowValue .closeMapping fuel)

def flowEntries (first : Bool) : Nat → Read (List (Node × Node))
  | 0 => failure
  | fuel + 1 => do
    if ← passed .closeMapping then return []
    if !first then expect .comma
    if ← passed .closeMapping then return []
    let entry ← flowEntry fuel
    return entry :: (← flowEntries false fuel)

end

/-- Directives in front of a document: the version at most once, and each handle at most once. -/
def directives (version : Bool) (handles : List (String × String)) :
    List Token → Option (List (String × String) × List Token)
  | .version :: rest => if version then none else directives true handles rest
  | .tagStart handle start :: rest =>
    if (handles.lookup handle).isSome then none
    else directives version ((handle, start) :: handles) rest
  | rest => some (handles, rest)

/-- One document. `implicit` says whether it may begin without a mark. -/
def document (implicit : Bool) : Read Node := do
  let before := (← get).tokens
  let (handles, tokens) ← StateT.lift (directives false [] before)
  set (Reader.mk tokens [] (handles ++ standardHandles))
  let fuel := 4 * tokens.length + 4
  if ← passed .documentStart then
    match ← peek with
    | .version | .tagStart _ _ | .documentStart | .documentEnd | .streamEnd => return .empty
    | _ => node true false fuel
  else if implicit && tokens.length = before.length then node true false fuel
  else failure

def documentEnds : List Token → List Token
  | .documentEnd :: rest => documentEnds rest
  | rest => rest

/-- All documents to the end; `fuel` bounds their number. -/
def documents : Nat → Bool → Read (List Node)
  | 0, _ => failure
  | fuel + 1, implicit => do
    if !implicit then modify fun r => { r with tokens := documentEnds r.tokens }
    if (← peek) = .streamEnd then return []
    let first ← document implicit
    return first :: (← documents fuel false)

end Reader

/-- The documents of a text, none if it is malformed. -/
def documents? (text : List Char) : Option (List Node) := do
  let tokens ← Token.scan? text
  (Reader.documents (tokens.length + 1) true).run' ⟨tokens, [], []⟩

end SignedAdmission.Yaml
