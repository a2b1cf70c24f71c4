import Typeset.Yaml.Graph
import Typeset.Yaml.Token

/-!
From tokens to the graph of a document. A text holds one document at most. Tokens are looked at one by
one, so what keeps a token back is met only when that token is asked for.
-/

namespace Typeset.Yaml

open Config

/-- What tags stand for: the handles that are declared. -/
abbrev Handles := List (String × String)

def defaultHandles : Handles := [("!", "!"), ("!!", Tag.base)]

/-- What is left to be read, what the handles of tags stand for, and the nodes so far with their
anchors. -/
structure Source where
  tokens : List Token
  /-- What keeps a token back behind these. -/
  stop : ReadError
  handles : Handles
  anchors : List (String × NodeId)
  /-- How many steps may still be taken inside one another; a collection takes two. -/
  room : Nat
  graph : Graph

/-- A part of a document is read from the front of a source. -/
abbrev Reading := StateT Source (Except ReadError)

namespace Reading

def peek : Reading Token := fun s =>
  match s.tokens with
  | [] => .error s.stop
  | t :: _ => .ok (t, s)

def skip : Reading Unit := modify fun s => { s with tokens := s.tokens.drop 1 }

def isAt (ts : List Token) : Reading Bool := do pure ((← peek) ∈ ts)

def add (n : Node) : Reading NodeId := modifyGet fun s =>
  let (i, g) := s.graph.add n
  (i, { s with graph := g })

def absent : Reading NodeId := add .absent

def fill (n : NodeId) (c : Content) : Reading Unit := modify fun s => { s with graph := s.graph.fill n c }

def inside {α : Type} (content : Reading α) : Reading α := do
  let s ← get
  if s.room < 2 then throw .tooDeep
  set { s with room := s.room - 2 }
  let a ← content
  modify fun t => { t with room := s.room }
  pure a

def name (anchor : Option String) (n : NodeId) : Reading Unit :=
  match anchor with
  | none => pure ()
  | some a => modify fun s => { s with anchors := (a, n) :: s.anchors }

def named? (anchor : String) : Reading (Option NodeId) := do pure ((← get).anchors.lookup anchor)

@[simp] theorem run_peek_cons (s : Source) (t : Token) (ts : List Token) (h : s.tokens = t :: ts) :
    peek.run s = .ok (t, s) := by
  simp [peek, StateT.run, h]

end Reading

open Yaml.Reading

/-- What stands in front of a node: an anchor and a tag, each at most once. -/
structure Properties where
  anchor : Option String
  tag : Option String

def Properties.isPresent (p : Properties) : Bool := p.anchor.isSome || p.tag.isSome

def fullTag (handle : Option String) (suffix : String) : Reading String := do
  match handle with
  | none => pure suffix
  | some h => match (← get).handles.lookup h with
    | some stem => pure (stem ++ suffix)
    | none => throw .malformed

def properties : Reading Properties := do
  match ← peek with
  | .anchor a =>
    skip
    match ← peek with
    | .tag h x => do
      skip
      pure ⟨some a, some (← fullTag h x)⟩
    | _ => pure ⟨some a, none⟩
  | .tag h x =>
    skip
    match ← peek with
    | .anchor a => do
      skip
      pure ⟨some a, some (← fullTag h x)⟩
    | _ => pure ⟨none, some (← fullTag h x)⟩
  | _ => pure ⟨none, none⟩

def scalarTag (tag : Option String) (text : String) (plain : Bool) : Tag :=
  match tag with
  | none => if plain then Tag.ofPlain text else .text
  | some t => if t = "!" then Tag.ofPlain text else .ofUri t

def collectionTag (tag : Option String) (usual : Tag) : Tag :=
  match tag with
  | none => usual
  | some t => if t = "!" then usual else .ofUri t

def endsItem : List Token := [.flowEntry, .flowSequenceEnd]

def endsPair : List Token := [.flowEntry, .flowMappingEnd]

def endsBlockPart : List Token := [.key, .value, .blockEnd]

/-- A sequence. Its anchor names it within it already. -/
def sequence (p : Properties) (items : Reading (List NodeId)) : Reading NodeId := do
  let n ← add ⟨collectionTag p.tag .list, .sequence []⟩
  name p.anchor n
  fill n (.sequence (← inside items))
  pure n

/-- A mapping. Its anchor names it within it already. -/
def mapping (p : Properties) (entries : Reading (List (NodeId × NodeId))) : Reading NodeId := do
  let n ← add ⟨collectionTag p.tag .map, .mapping []⟩
  name p.anchor n
  fill n (.mapping (← inside entries))
  pure n

def scalar (p : Properties) (text : String) (plain : Bool) : Reading NodeId := do
  let n ← add ⟨scalarTag p.tag text plain, .scalar text⟩
  name p.anchor n
  pure n

mutual

/-- A node. In a block, block collections may stand here; after a key, also a sequence without
indentation of its own. -/
def node : (fuel : Nat) → (block loose : Bool) → Reading NodeId
  | 0, _, _ => throw .malformed
  | fuel + 1, block, loose => do
    if let .alias a ← peek then
      skip
      let some n ← named? a | throw .malformed
      return n
    let p ← properties
    let t ← peek
    if let some a := p.anchor then
      if (← named? a).isSome then throw .malformed
    if loose ∧ t = .blockEntry then sequence p (looseItems fuel)
    else match t with
      | .scalar text plain => do skip; scalar p text plain
      | .flowSequenceStart => do skip; sequence p (flowItems fuel true)
      | .flowMappingStart => do skip; mapping p (flowPairs fuel true)
      | _ =>
        if block ∧ t = .blockSequenceStart then do skip; sequence p (blockItems fuel)
        else if block ∧ t = .blockMappingStart then do skip; mapping p (blockPairs fuel)
        else if p.isPresent then scalar p "" true
        else throw .malformed

/-- A node, unless one of these tokens says that it is absent. -/
def optionalNode : (fuel : Nat) → (block loose : Bool) → List Token → Reading NodeId
  | 0, _, _, _ => throw .malformed
  | fuel + 1, block, loose, ends => do
    if ← isAt ends then absent else node fuel block loose

def blockItems : (fuel : Nat) → Reading (List NodeId)
  | 0 => throw .malformed
  | fuel + 1 => do
    match ← peek with
    | .blockEntry =>
      skip
      let n ← optionalNode fuel true false [.blockEntry, .blockEnd]
      pure (n :: (← blockItems fuel))
    | .blockEnd => do skip; pure []
    | _ => throw .malformed

/-- The items of a sequence without indentation of its own. -/
def looseItems : (fuel : Nat) → Reading (List NodeId)
  | 0 => throw .malformed
  | fuel + 1 => do
    match ← peek with
    | .blockEntry =>
      skip
      let n ← optionalNode fuel true false [.blockEntry, .key, .value, .blockEnd]
      pure (n :: (← looseItems fuel))
    | _ => pure []

/-- The value of an entry behind its mark, or the node that is not written if there is no mark. -/
def entryValue : (fuel : Nat) → (block : Bool) → List Token → Reading NodeId
  | 0, _, _ => throw .malformed
  | fuel + 1, block, ends => do
    match ← peek with
    | .value => do skip; optionalNode fuel block block ends
    | _ => absent

def blockPairs : (fuel : Nat) → Reading (List (NodeId × NodeId))
  | 0 => throw .malformed
  | fuel + 1 => do
    match ← peek with
    | .key =>
      skip
      let k ← optionalNode fuel true true endsBlockPart
      let v ← entryValue fuel true endsBlockPart
      pure ((k, v) :: (← blockPairs fuel))
    | .blockEnd => do skip; pure []
    | _ => throw .malformed

def flowItems : (fuel : Nat) → (first : Bool) → Reading (List NodeId)
  | 0, _ => throw .malformed
  | fuel + 1, first => do
    if ← isAt [.flowSequenceEnd] then
      skip
      return []
    if !first then
      if !(← isAt [.flowEntry]) then throw .malformed
      skip
    match ← peek with
    | .flowSequenceEnd => do skip; pure []
    | .key =>
      let n ← mapping ⟨none, none⟩ (do
        skip
        let k ← optionalNode fuel false false (.value :: endsItem)
        let v ← entryValue fuel false endsItem
        let _ ← peek
        pure [(k, v)])
      pure (n :: (← flowItems fuel false))
    | _ =>
      let n ← node fuel false false
      pure (n :: (← flowItems fuel false))

def flowPairs : (fuel : Nat) → (first : Bool) → Reading (List (NodeId × NodeId))
  | 0, _ => throw .malformed
  | fuel + 1, first => do
    if ← isAt [.flowMappingEnd] then
      skip
      return []
    if !first then
      if !(← isAt [.flowEntry]) then throw .malformed
      skip
    match ← peek with
    | .flowMappingEnd => do skip; pure []
    | .key =>
      skip
      let k ← optionalNode fuel false false (.value :: endsPair)
      let v ← entryValue fuel false endsPair
      pure ((k, v) :: (← flowPairs fuel false))
    | _ =>
      let k ← node fuel false false
      let _ ← peek
      let v ← absent
      pure ((k, v) :: (← flowPairs fuel false))

end

/-- The handles that directives declare; a version and a handle may be declared once. -/
def directives : (fuel : Nat) → (versioned : Bool) → Handles → Reading Handles
  | 0, _, _ => throw .malformed
  | fuel + 1, versioned, handles => do
    match ← peek with
    | .directive d =>
      skip
      match d with
      | .version major =>
        if versioned ∨ major ≠ 1 then throw .malformed
        directives fuel true handles
      | .tag handle stem =>
        if (handles.lookup handle).isSome then throw .malformed
        directives fuel versioned ((handle, stem) :: handles)
      | .other => directives fuel versioned handles
    | _ => pure handles

def skipDocumentEnds : (fuel : Nat) → Reading Unit
  | 0 => throw .malformed
  | fuel + 1 => do
    if ← isAt [.documentEnd] then
      skip
      skipDocumentEnds fuel

def startsMarked : Token → Bool
  | .directive _ => true
  | .documentStart => true
  | _ => false

/-- The start of a document with directives and a mark. -/
def markedStart (fuel : Nat) : Reading Unit := do
  let handles ← directives fuel false []
  if !(← isAt [.documentStart]) then throw .malformed
  skip
  modify fun s => { s with handles := handles ++ defaultHandles }

def content (fuel : Nat) : Reading NodeId := do
  let t ← peek
  if startsMarked t ∨ t ∈ [.documentEnd, .textEnd] then absent else node fuel true false

def document (fuel : Nat) : Reading (Option NodeId) := do
  let t ← peek
  if t = .textEnd then return none
  let n ← if startsMarked t then do markedStart fuel; content fuel else node fuel true false
  skipDocumentEnds fuel
  if ← isAt [.textEnd] then return some n
  markedStart fuel
  throw .malformed

def Graph.ofTokens (tokens : List Token) (stop : ReadError) :
    Except ReadError (Option NodeId × Graph) := do
  let (n, s) ← (document (8 * tokens.length + 8)).run ⟨tokens, stop, defaultHandles, [], nestingRoom, .empty⟩
  pure (n, s.graph)

end Typeset.Yaml
