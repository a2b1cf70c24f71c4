import Typeset.Config.SetOrder
import Typeset.Yaml.Document
import Typeset.Yaml.Lexer
import Typeset.Yaml.Objects

/-!
The data that a text writes. Objects may lie within themselves, data does not: where a collection comes
up again within itself there is a mark in its place. The root and the collections in it do not count
there, since settings take each value out of a section and look at it on its own.
-/

namespace Typeset.Yaml

open Config

namespace Objects

/-- The data of objects that have been seen and do not lie within themselves. -/
abbrev Seen := StateM (List (ObjectId × Value))

/-- The data of an object, with the objects around it that it marks. `outer` levels do not count as
around it. -/
def view (os : Objects) : (fuel outer : Nat) → (path : List ObjectId) → ObjectId →
    Seen (Value × List ObjectId)
  | 0, _, _, _ => pure (.null, [])
  | fuel + 1, outer, path, o => do
    let inside : Nat × List ObjectId := if outer = 0 then (0, o :: path) else (outer - 1, path)
    let views (os' : List ObjectId) : Seen (List Value × List ObjectId) := do
      let vs ← os'.mapM (view os fuel inside.1 inside.2)
      pure (vs.map (·.1), vs.flatMap (·.2))
    let viewPairs (es : List (ObjectId × ObjectId)) : Seen (List (Value × Value) × List ObjectId) := do
      let (ks, marked) ← views (es.map (·.1))
      let (vs, marked') ← views (es.map (·.2))
      pure (ks.zip vs, marked ++ marked')
    let seen ← get
    match (if outer = 0 then seen.lookup o else none), os[o]?.getD default with
    | some v, _ => pure (v, [])
    | none, .atom v => pure (v, [])
    | none, collection =>
      if o ∈ path then
        let isMap := match collection with
          | .map _ => true
          | _ => false
        pure (.enclosing isMap, [o])
      else
        let (v, marked) ← match collection with
          | .atom v => pure (v, [])
          | .list items => do
            let (vs, marked) ← views items
            pure (Value.list vs, marked)
          | .set items => do
            let (vs, marked) ← views items
            pure (Value.set (setOrder vs), marked)
          | .pairs es => do
            let (ps, marked) ← viewPairs es
            pure (Value.list (ps.map fun p => .pair p.1 p.2), marked)
          | .map es => do
            let (ps, marked) ← viewPairs es
            pure (Value.map ps, marked)
        if marked.isEmpty ∧ outer = 0 then modify ((o, v) :: ·)
        pure (v, (marked.filter (· ≠ o)).eraseDups)

def data (os : Objects) (root : ObjectId) : Value :=
  ((view os (os.size + 4) 2 [] root).run [] : Id _).1.1

end Objects

def read (s : String) : Except ReadError Value := do
  let (ts, stop) := tokens s.toList
  match ← Graph.ofTokens ts stop with
  | (none, _) => pure .null
  | (some root, g) =>
    let (o, os) ← Objects.ofGraph g root
    pure (os.data o)

end Typeset.Yaml
