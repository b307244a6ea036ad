import Schemata.Compile.Builder

/-!
# Climbing to a root

A type declaration refers to the declaration of its base, and an element declaration to that of
the element it substitutes. `climb` walks such links up from a declaration until it comes to one
that has its symbol, or to one that refers to no further declaration. What it passes on the way is
returned from the top down, which is the order in which symbols are made. A declaration that is met
a second time closes a circle. One that has its symbol must have it as what it declares.
-/

namespace Schemata

/-- Where a link leads from a declaration: to another one, or to a root. -/
inductive Link (α : Type)
  | root (a : α)
  | next (id : DeclarationId)

/-- Walk up from a declaration. `known` tells what is known of a declaration already, and `link`
where it refers to. The declarations passed so far come nearest first; there are at most as many as
the fuel allows when it is the number of all declarations. -/
def climb {α : Type} (known : DeclarationId → Except Diagnostic (Option α))
    (link : DeclarationId → Except Diagnostic (Link α))
    (circle : List DeclarationId → DeclarationId → Diagnostic) :
    Nat → List DeclarationId → DeclarationId → Except Diagnostic (α × List DeclarationId)
  | 0, passed, id => .error (circle passed id)
  | fuel + 1, passed, id =>
    match known id with
    | .error d => .error d
    | .ok (some a) => .ok (a, passed)
    | .ok none =>
      if passed.contains id then .error (circle passed id)
      else
        match link id with
        | .error d => .error d
        | .ok (.root a) => .ok (a, id :: passed)
        | .ok (.next up) => climb known link circle fuel (id :: passed) up

/-- The diagnostic of a circle: it names the declaration that is met again, and stands where the
last declaration refers to it. -/
def circleAt (c : Catalog) (reference : Declaration → Option NameRef)
    (passed : List DeclarationId) (id : DeclarationId) : Diagnostic :=
  let closing := (passed.head?.bind c.get?).bind fun d => (reference d).bind (·.span)
  match c.get? id with
  | some d => (Fault.circular d.fullName).diagnostic (closing.or d.member.name.span)
  | none => (Fault.circular (.unqualified "")).diagnostic closing

end Schemata
