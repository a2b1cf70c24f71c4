import Typeset.Config.ReadError
import Typeset.Yaml.Resolution

/-!
The graph of nodes that a document is. An alias stands for the very node that its anchor names, so nodes
have numbers, and collections hold the numbers of what is in them; a collection may lie within itself.

A mapping takes over the entries of other mappings by merge keys. `merge` carries this out in the graph.
-/

namespace Typeset.Yaml

open Config

abbrev NodeId := Nat

inductive Content
  | scalar (text : String)
  | sequence (items : List NodeId)
  | mapping (entries : List (NodeId × NodeId))
  deriving DecidableEq

structure Node where
  tag : Tag
  content : Content
  deriving DecidableEq

def Node.absent : Node := ⟨.null, .scalar ""⟩

structure Graph where
  nodes : Array Node

namespace Graph

def empty : Graph := ⟨#[]⟩

def node (g : Graph) (n : NodeId) : Node := g.nodes[n]?.getD .absent

def add (g : Graph) (n : Node) : NodeId × Graph := (g.nodes.size, ⟨g.nodes.push n⟩)

def update (g : Graph) (n : NodeId) (f : Node → Node) : Graph := ⟨g.nodes.modify n f⟩

def fill (g : Graph) (n : NodeId) (c : Content) : Graph := g.update n fun m => { m with content := c }

def entries? (g : Graph) (n : NodeId) : Option (List (NodeId × NodeId)) :=
  match (g.node n).content with
  | .mapping es => some es
  | _ => none

def linkCount (g : Graph) : Nat :=
  g.nodes.foldl (fun total n => match n.content with
    | .scalar _ => total
    | .sequence items => total + items.length
    | .mapping es => total + es.length) 0

def isMerge (g : Graph) (entry : NodeId × NodeId) : Bool := (g.node entry.1).tag = .merge

/-- A mark for a default value is a text where it is a key. -/
def settleKey (g : Graph) (entry : NodeId × NodeId) : Graph :=
  if (g.node entry.1).tag = .value then g.update entry.1 fun n => { n with tag := .text } else g

/-- The entries of a mapping up to its first merge key, the value of that key, and the entries behind. -/
def cutAtMerge (g : Graph) (es : List (NodeId × NodeId)) :
    Option (List (NodeId × NodeId) × NodeId × List (NodeId × NodeId)) :=
  match es.dropWhile fun e => !g.isMerge e with
  | [] => none
  | (_, value) :: behind => some (es.takeWhile fun e => !g.isMerge e, value, behind)

mutual

/-- Takes over into a mapping what its merge keys name: first what is taken over, then its own entries. -/
def flatten : (fuel : Nat) → (taken : List (NodeId × NodeId)) → NodeId → Graph → Except ReadError Graph
  | 0, _, _, _ => .error .malformed
  | fuel + 1, taken, n, g =>
    match g.entries? n with
    | none => .error .malformed
    | some es =>
      match g.cutAtMerge es with
      | none => .ok ((es.foldl settleKey g).fill n (.mapping (taken ++ es)))
      | some (before, value, behind) => do
        let g := g.fill n (.mapping (before ++ behind))
        let (here, g) ← match (g.node value).content with
          | .scalar _ => throw .malformed
          | .mapping _ => flattenAll fuel [value] g
          | .sequence items => flattenAll fuel items g
        flatten fuel (taken ++ here) n g

/-- Carries out the merges of mappings, and gives their entries, those of the last one first. -/
def flattenAll : (fuel : Nat) → List NodeId → Graph →
    Except ReadError (List (NodeId × NodeId) × Graph)
  | _, [], g => .ok ([], g)
  | 0, _, _ => .error .malformed
  | fuel + 1, n :: ns, g => do
    let g ← flatten fuel [] n g
    let here := (g.entries? n).getD []
    let (others, g) ← flattenAll fuel ns g
    pure (others ++ here, g)

end

def merge (g : Graph) (n : NodeId) : Except ReadError Graph :=
  flatten ((g.linkCount + 2) * (g.linkCount + 2)) [] n g

@[simp] theorem node_add (g : Graph) (n : Node) : (g.add n).2.node (g.add n).1 = n := by
  simp [add, node]

theorem node_add_of_lt {g : Graph} {n : Node} {i : NodeId} (h : i < g.nodes.size) :
    (g.add n).2.node i = g.node i := by
  simp [add, node, Array.getElem?_push, Nat.ne_of_lt h]

end Graph
end Typeset.Yaml
