import Typeset.Yaml.Graph
import Typeset.Yaml.Scalars

/-!
From nodes to objects. A node stands for one object however often it is met. Collections are built from
the outside in: a collection is there, still empty, as soon as its node is met, and is filled when all
that was met before it has been filled. So of several errors the one on the outermost level counts, and a
collection may come to lie within itself.
-/

namespace Typeset.Yaml

open Config

abbrev ObjectId := Nat

/-- An object: a value without parts, or a collection of objects. -/
inductive Object
  | atom (v : Value)
  | list (items : List ObjectId)
  | pairs (items : List (ObjectId × ObjectId))
  | set (members : List ObjectId)
  | map (entries : List (ObjectId × ObjectId))

instance : Inhabited Object := ⟨.atom .null⟩

namespace Object

def ofTag? : Tag → Option Object
  | .list => some (list [])
  | .omap => some (pairs [])
  | .pairs => some (pairs [])
  | .set => some (set [])
  | .map => some (map [])
  | _ => none

def isKey : Object → Bool
  | atom _ => true
  | _ => false

/-- Whether two objects without parts are the same key. -/
def sameKey : Object → Object → Bool
  | atom v, atom w => v.sameKey w
  | _, _ => false

end Object

abbrev Objects := Array Object

namespace Objects

def sameKey (os : Objects) (a b : ObjectId) : Bool :=
  a == b || (os[a]?.getD default).sameKey (os[b]?.getD default)

def insert (os : Objects) (key value : ObjectId) :
    List (ObjectId × ObjectId) → List (ObjectId × ObjectId)
  | [] => [(key, value)]
  | (k, v) :: es => if os.sameKey k key then (k, value) :: es else (k, v) :: insert os key value es

/-- The entries of keys with values; of a repeated key the last value counts. -/
def entries (os : Objects) (es : List (ObjectId × ObjectId)) : List (ObjectId × ObjectId) :=
  es.foldl (fun m e => os.insert e.1 e.2 m) []

@[simp] theorem sameKey_self (os : Objects) (a : ObjectId) : os.sameKey a a = true := by
  simp [sameKey]

@[simp] theorem entries_nil (os : Objects) : os.entries [] = [] := rfl

end Objects

structure Building where
  graph : Graph
  objects : Objects
  /-- The objects of nodes. -/
  made : List (NodeId × ObjectId)
  /-- The object that every mark for what is not a number stands for. -/
  nan : Option ObjectId
  /-- Collections that have not been filled, the last one first. -/
  waiting : List (NodeId × ObjectId)

abbrev Build := StateT Building (Except ReadError)

/-- The text of a node where a scalar has to stand; a mapping may give it by its default value. -/
def Graph.scalarText (g : Graph) : (fuel : Nat) → NodeId → Except ReadError String
  | 0, _ => .error .endless
  | fuel + 1, n =>
    match (g.node n).content with
    | .scalar text => .ok text
    | .sequence _ => .error .malformed
    | .mapping es =>
      match es.find? fun e => (g.node e.1).tag == .value with
      | some (_, v) => scalarText g fuel v
      | none => .error .malformed

def Graph.textOf (g : Graph) (n : NodeId) : Except ReadError String := g.scalarText (g.nodes.size + 1) n

def Graph.valueOf (g : Graph) (n : NodeId) : Except ReadError Value := do
  let tag := (g.node n).tag
  if tag = .unknown ∨ tag = .merge ∨ tag = .value then throw .malformed
  let text ← g.textOf n
  if tag = .timestamp ∧ (g.entries? n).isSome then throw .mappingAsTime
  scalarValue tag text

namespace Build

def add (o : Object) : Build ObjectId := modifyGet fun b =>
  (b.objects.size, { b with objects := b.objects.push o })

/-- The object of a node that stands for no collection. -/
def atom (n : NodeId) : Build ObjectId := do
  let b ← get
  let v ← b.graph.valueOf n
  if (b.graph.node n).tag = .float ∧ (b.graph.textOf n).toOption.any isNanMark then
    match b.nan with
    | some o => pure o
    | none =>
      let o ← add (.atom v)
      modify fun b => { b with nan := some o }
      pure o
  else add (.atom v)

/-- The object of a node. A collection is left to be filled. -/
def object (n : NodeId) : Build ObjectId := do
  let b ← get
  match b.made.lookup n with
  | some o => pure o
  | none =>
    let o ← match Object.ofTag? (b.graph.node n).tag with
      | none => atom n
      | some c => do
        let o ← add c
        modify fun b => { b with waiting := (n, o) :: b.waiting }
        pure o
    modify fun b => { b with made := (n, o) :: b.made }
    pure o

/-- The objects of the entries of a mapping, after its merges. -/
def entries (n : NodeId) : Build (List (ObjectId × ObjectId)) := do
  let g ← (← get).graph.merge n
  modify fun b => { b with graph := g }
  let es ← ((g.entries? n).getD []).mapM fun (k, v) => do
    let key ← object k
    if !((← get).objects[key]?.getD default).isKey then throw .malformed
    pure (key, ← object v)
  pure ((← get).objects.entries es)

def single (n : NodeId) : Build (ObjectId × ObjectId) := do
  match (← get).graph.entries? n with
  | some [(k, v)] =>
    let key ← object k
    pure (key, ← object v)
  | _ => throw .malformed

def items (n : NodeId) : Build (List NodeId) := do
  match ((← get).graph.node n).content with
  | .sequence ns => pure ns
  | _ => throw .malformed

def fill (n : NodeId) (o : ObjectId) : Build Unit := do
  let filled ← match (← get).objects[o]?.getD default with
    | .list _ => do pure (Object.list (← (← items n).mapM object))
    | .pairs _ => do pure (Object.pairs (← (← items n).mapM single))
    | .set _ => do pure (Object.set ((← entries n).map (·.1)))
    | .map _ => do pure (Object.map (← entries n))
    | .atom v => pure (.atom v)
  modify fun b => { b with objects := b.objects.setIfInBounds o filled }

def fillAll : (fuel : Nat) → Build Unit
  | 0 => pure ()
  | fuel + 1 => do
    let waiting := (← get).waiting.reverse
    if !waiting.isEmpty then
      modify fun b => { b with waiting := [] }
      waiting.forM fun (n, o) => fill n o
      fillAll fuel

end Build

def Objects.ofGraph (g : Graph) (root : NodeId) : Except ReadError (ObjectId × Objects) := do
  let build : Build ObjectId := do
    let o ← Build.object root
    Build.fillAll (g.nodes.size + 1)
    pure o
  let (o, b) ← build.run ⟨g, #[], [], none, []⟩
  pure (o, b.objects)

end Typeset.Yaml
