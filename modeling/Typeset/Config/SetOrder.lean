import Typeset.Config.Value

/-!
The order of a set. The members sit in a circle of places, each number at its residue, so that equal
numbers of different kinds belong to one place, or nearby if another member sits there already. Members
that are no numbers stay in the order in which they came.
-/

namespace Typeset.Config

/-- Residues are taken for this prime, `2 ^ 61 - 1`; powers of two repeat after 61 of them there. -/
def residuePrime : Nat := 2305843009213693951

def residue (negative : Bool) (m : Nat) (e : Int) : Int :=
  let r : Int := (m * Nat.pow 2 (e.emod 61).toNat % residuePrime : Nat)
  if negative then (if r = 1 then -2 else -r) else r

def infiniteResidue : Int := 314159

def Value.residue? (v : Value) : Option Int :=
  match v.number? with
  | some (.int n) => some (residue (decide (n < 0)) n.natAbs 0)
  | some (.real (.finite negative m e)) => some (residue negative m e)
  | some (.real (.infinite negative)) => some (if negative then -infiniteResidue else infiniteResidue)
  | _ => none

/-- The number of places of a set: eight for up to four members, else the power of two that follows
twice their number. -/
def placeCount (members : Nat) : Nat :=
  if members < 5 then 8 else Nat.pow 2 ((2 * members).log2 + 1)

/-- The first free place from `i` on; only ten places in a row are looked at, and only one if the row
would leave the circle of `places`. -/
def freePlace? (places : Nat) (taken : List Nat) (i : Nat) : Option Nat :=
  (if i + 9 < places then List.range' i 10 else [i]).find? fun p => !taken.contains p

/-- The place of a member: free and near `i`, or else near the place that the next five bits of
`bits` lead to. -/
def placeNear (places : Nat) (taken : List Nat) : (tries i bits : Nat) → Nat
  | 0, i, _ => i
  | tries + 1, i, bits =>
    match freePlace? places taken i with
    | some p => p
    | none => placeNear places taken tries ((5 * i + 1 + bits / 32) % places) (bits / 32)

/-- The places of members with these residues, in the order in which the members came. -/
def placesOf (residues : List Int) : List Nat :=
  let places := placeCount residues.length
  residues.foldl (fun taken r =>
    let bits := (r.emod 18446744073709551616).toNat
    taken ++ [placeNear places taken (places + 13) (bits % places) bits]) []

def setOrder (vs : List Value) : List Value :=
  match vs.mapM Value.residue? with
  | none => vs
  | some rs => (((placesOf rs).zip vs).mergeSort fun a b => decide (a.1 ≤ b.1)).map (·.2)

@[simp] theorem setOrder_nil : setOrder [] = [] := by
  simp [setOrder, placesOf]

end Typeset.Config
