import Schemata.Objects.Basic

/-!
# Equality of objects

Two objects are equal if they and all that they own look the same: sorts, names, types, values, and
what references refer to. Their numbers, parents and places do not matter. Equal objects have equal
fingerprints, which is what a hash is made of.
-/

namespace Schemata

namespace Object

/-- Two slots, and the objects in them that have to be equal as well. -/
def slotPairs : Slot → Slot → Option (List (ObjectId × ObjectId))
  | .direct none, .direct none => some []
  | .direct (some a), .direct (some b) => some [(a, b)]
  | .reference a, .reference b => if a = b then some [] else none
  | _, _ => none

/-- The items of two sets or lists, in pairs. -/
def itemPairs (as bs : List ObjectId) : Option (List (ObjectId × ObjectId)) :=
  if as.length = bs.length then some (as.zip bs) else none

/-- Two objects that look the same apart from what they own, and the objects that they own in
pairs. -/
def pairs : Object → Object → Option (List (ObjectId × ObjectId))
  | .simple n v, .simple m w => if n = m && v.equal w then some [] else none
  | .complex n a c, .complex m b d =>
    if n = m && a.isSome = b.isSome && c.isSome = d.isSome then
      some (a.toList.zip b.toList ++ c.toList.zip d.toList)
    else none
  | .attr n s, .attr m r => if n = m then slotPairs s r else none
  | .element n s, .element m r => if n = m then slotPairs s r else none
  | .attributeSet as, .attributeSet bs => itemPairs as bs
  | .childSet n as, .childSet m bs | .childList n as, .childList m bs =>
    if n = m then itemPairs as bs else none
  | _, _ => none

/-- What the name of a type contributes to a hash. -/
def nameData : Option FullName → List HashDatum
  | none => [.number 0]
  | some n => [.number 1, .text n.uri, .text n.name]

/-- What the name of a member contributes to a hash. -/
def memberData : Option String → List HashDatum
  | none => [.number 0]
  | some n => [.number 1, .text n]

/-- What a reference contributes to a hash; other slots contribute nothing. -/
def slotData : Slot → List HashDatum
  | .direct _ => []
  | .reference t => [.number t.index]

/-- What an object contributes to a hash, apart from what it owns. -/
def data : Object → List HashDatum
  | .simple n v => .number 0 :: nameData n ++ v.fingerprint
  | .complex n _ _ => .number 1 :: nameData n
  | .attr n s => .number 2 :: .text n :: slotData s
  | .element n s => .number 3 :: .text n.uri :: .text n.name :: slotData s
  | .attributeSet _ => [.number 4]
  | .childSet n _ => .number 5 :: memberData n
  | .childList n _ => .number 6 :: memberData n

end Object

namespace Tree

/-- Whether the objects of two trees are equal in pairs. A pair that is the same object needs no
look. The fuel bounds how many pairs there are. -/
def equalPairs (t u : Tree) (same : ObjectId × ObjectId → Bool) :
    Nat → List (ObjectId × ObjectId) → Bool
  | _, [] => true
  | 0, _ => false
  | fuel + 1, (a, b) :: rest =>
    if same (a, b) then t.equalPairs u same fuel rest
    else
      match t.node? a, u.node? b with
      | some m, some n =>
        match m.object.pairs n.object with
        | some found => t.equalPairs u same fuel (found ++ rest)
        | none => false
      | _, _ => false

/-- Whether two objects of one tree are equal. -/
def equal (t : Tree) (a b : ObjectId) : Bool :=
  t.equalPairs t (fun (a, b) => a == b) (t.size + 1) [(a, b)]

/-- Whether an object of one tree equals an object of another one. -/
def equalIn (t u : Tree) (a b : ObjectId) : Bool :=
  t.equalPairs u (fun _ => false) (t.size + 1) [(a, b)]

/-- What objects and all that they own contribute to a hash. The fuel bounds how many there are. -/
def fingerprints (t : Tree) : Nat → List ObjectId → List HashDatum
  | _, [] => []
  | 0, _ => []
  | fuel + 1, id :: rest =>
    match t.node? id with
    | none => t.fingerprints fuel rest
    | some n =>
      let owned := n.object.owned
      n.object.data ++ .number owned.length :: t.fingerprints fuel (owned ++ rest)

/-- What an object contributes to a hash. -/
def fingerprint (t : Tree) (id : ObjectId) : List HashDatum :=
  t.fingerprints (t.size + 1) [id]

end Tree

end Schemata
