import Mathlib.Logic.Relation
import Schemata.Proofs.Symbols

/-!
# Circles of declarations

Two relations between declarations can run in a circle: a type declaration names another one as its
base (`Catalog.Derives`), and an element declaration names another one as the element that it
substitutes (`Catalog.Substitutes`). `typeLink` and `elementLink` are these relations as functions.

`climb` follows a link until it is done or stops, and both tell something. If it is done, no circle
can be reached from what it passed, provided that none can be reached from what was known before;
this is said by accessibility, since that is what each climb hands on to the next one. If it stops
because of a circle, there is one. That holds for circles of any length and however far away they
are, since the fuel lasts for as many steps as there are declarations.
-/

namespace Schemata

open Relation

theorem not_transGen_of_acc {α : Type} {r : α → α → Prop} {a : α} (h : Acc (fun y x => r x y) a) :
    ¬TransGen r a a := by
  induction h with
  | intro x _ ih =>
    intro hx
    obtain ⟨y, hxy, hyx⟩ := TransGen.head'_iff.1 hx
    exact ih y hxy (TransGen.tail' hyx hxy)

/-! ## Links -/

section Climb

variable {α : Type} {known : DeclarationId → Except Diagnostic (Option α)}
  {link : DeclarationId → Except Diagnostic (Link α)}
  {circle : List DeclarationId → DeclarationId → Diagnostic}

/-- A link leads from one declaration on to another one. -/
def Link.Leads (link : DeclarationId → Except Diagnostic (Link α)) (o up : DeclarationId) : Prop :=
  link o = .ok (.next up)

instance (link : DeclarationId → Except Diagnostic (Link α)) (o up : DeclarationId) :
    Decidable (Link.Leads link o up) :=
  match h : link o with
  | .error d => isFalse (by simp [Link.Leads, h])
  | .ok (.root a) => isFalse (by simp [Link.Leads, h])
  | .ok (.next x) => decidable_of_iff (x = up) (by simp [Link.Leads, h])

/-- Nothing that is reached from a declaration along a link is reached from itself. -/
def Link.Grounded (link : DeclarationId → Except Diagnostic (Link α)) (o : DeclarationId) : Prop :=
  Acc (fun up o => Link.Leads link o up) o

theorem Link.Grounded.of_leads {o up : DeclarationId} (h : Link.Leads link o up)
    (hup : Link.Grounded link up) : Link.Grounded link o := by
  refine Acc.intro o fun y hy => ?_
  rw [Leads, h] at hy
  cases hy
  exact hup

theorem Link.Grounded.of_root {o : DeclarationId} {a : α} (h : link o = .ok (.root a)) :
    Link.Grounded link o :=
  Acc.intro o fun y hy => by rw [Leads, h] at hy; cases hy

/-- What holds of the start, and of everything that a link leads to, holds of what is passed. -/
theorem forall_mem_of_climb {P : DeclarationId → Prop} {fuel : Nat}
    {passed chain : List DeclarationId} {id : DeclarationId} {a : α}
    (h : climb known link circle fuel passed id = .ok (a, chain)) (hid : P id)
    (hstep : ∀ {x up}, Link.Leads link x up → P up) (hpassed : ∀ x ∈ passed, P x) :
    ∀ x ∈ chain, P x := by
  induction fuel generalizing passed id with
  | zero => cases h
  | succ fuel ih =>
    have hpassed' : ∀ x ∈ id :: passed, P x := List.forall_mem_cons.2 ⟨hid, hpassed⟩
    unfold climb at h
    split at h
    · cases h
    · cases h
      exact hpassed
    · split at h
      · cases h
      · split at h
        · cases h
        · cases h
          exact hpassed'
        · rename_i up hnext
          exact ih h (hstep hnext) hpassed'

/-- A climb that is done has passed no circle. -/
theorem grounded_of_climb {fuel : Nat} {passed chain : List DeclarationId} {id : DeclarationId}
    {a : α} (h : climb known link circle fuel passed id = .ok (a, chain))
    (hknown : ∀ x a, known x = .ok (some a) → Link.Grounded link x)
    (hpassed : Link.Grounded link id → ∀ x ∈ passed, Link.Grounded link x) :
    ∀ x ∈ chain, Link.Grounded link x := by
  induction fuel generalizing passed id with
  | zero => cases h
  | succ fuel ih =>
    unfold climb at h
    split at h
    · cases h
    · rename_i hk
      cases h
      exact hpassed (hknown id a hk)
    · split at h
      · cases h
      · split at h
        · cases h
        · rename_i hroot
          cases h
          have hid := Link.Grounded.of_root hroot
          exact List.forall_mem_cons.2 ⟨hid, hpassed hid⟩
        · rename_i up hnext
          refine ih h fun hup => ?_
          have hid := Link.Grounded.of_leads hnext hup
          exact List.forall_mem_cons.2 ⟨hid, hpassed hid⟩

/-- Why a climb stops: what it meets has the wrong symbol or no link, or it comes to a declaration
that leads back to itself. -/
inductive Climb.Stopped (known : DeclarationId → Except Diagnostic (Option α))
    (link : DeclarationId → Except Diagnostic (Link α))
    (circle : List DeclarationId → DeclarationId → Diagnostic) (id : DeclarationId)
    (d : Diagnostic) : Prop
  | known {x : DeclarationId} (reached : ReflTransGen (Link.Leads link) id x)
      (hx : known x = .error d)
  | link {x : DeclarationId} (reached : ReflTransGen (Link.Leads link) id x)
      (hx : link x = .error d)
  | circle {x : DeclarationId} {passed : List DeclarationId}
      (hx : TransGen (Link.Leads link) x x) (hd : d = circle passed x)

theorem Climb.Stopped.of_leads {id up : DeclarationId} {d : Diagnostic}
    (h : Link.Leads link id up) (hup : Climb.Stopped known link circle up d) :
    Climb.Stopped known link circle id d := by
  cases hup with
  | known reached hx => exact .known (.head h reached) hx
  | link reached hx => exact .link (.head h reached) hx
  | circle hx hd => exact .circle hx hd

/-- The fuel is enough where it exceeds the number of declarations that lead on and are not passed
yet. -/
theorem stopped_of_climb {n fuel : Nat} {passed : List DeclarationId} {id : DeclarationId}
    {d : Diagnostic} (h : climb known link circle fuel passed id = .error d)
    (hn : ∀ l : List DeclarationId, l.Nodup → (∀ x ∈ l, Link.IsNext (link x)) → l.length ≤ n)
    (hfuel : n < passed.length + fuel) (hnodup : passed.Nodup)
    (hnext : ∀ x ∈ passed, Link.IsNext (link x))
    (hleads : ∀ x ∈ passed, TransGen (Link.Leads link) x id) :
    Climb.Stopped known link circle id d := by
  induction fuel generalizing passed id with
  | zero =>
    have := hn passed hnodup hnext
    omega
  | succ fuel ih =>
    unfold climb at h
    split at h
    · rename_i hk
      cases h
      exact .known .refl hk
    · cases h
    · split at h
      · rename_i hmem
        cases h
        exact .circle (hleads id (by simpa using hmem)) rfl
      · rename_i hmem
        split at h
        · rename_i hlink
          cases h
          exact .link .refl hlink
        · cases h
        · rename_i up hup
          have hnodup' : (id :: passed).Nodup := List.nodup_cons.2 ⟨by simpa using hmem, hnodup⟩
          refine .of_leads hup (ih h ?_ hnodup' (List.forall_mem_cons.2 ⟨⟨up, hup⟩, hnext⟩)
            (List.forall_mem_cons.2 ⟨.single hup, fun x hx => (hleads x hx).tail hup⟩))
          rw [List.length_cons]
          omega

end Climb

/-! ## Bases and substitutions -/

namespace Catalog

variable {c : Catalog} {o up : DeclarationId}

/-- The declaration is that of a global attribute. -/
def DeclaresAttribute (c : Catalog) (o : DeclarationId) : Prop :=
  ((c.get? o).bind (·.asAttribute?)).isSome

/-- The declaration is that of a global element. -/
def DeclaresElement (c : Catalog) (o : DeclarationId) : Prop :=
  ((c.get? o).bind (·.asElement?)).isSome

/-- What declares something of some sort refers to another declaration of that sort. -/
def Refers {α : Type} (c : Catalog) (as? : Declaration → Option α)
    (reference : α → Option NameRef) (o up : DeclarationId) : Prop :=
  ∃ d a r, c.getAs? as? o = some (d, a) ∧ reference a = some r ∧
    c.resolve d.scope r = .ok (.declared up) ∧ ((c.get? up).bind as?).isSome

/-- The base that a type declaration names is declared by another one. -/
def Derives (c : Catalog) : DeclarationId → DeclarationId → Prop :=
  c.Refers (·.asType?) (·.base?)

/-- The element that an element declaration names as substituted is declared by another one. -/
def Substitutes (c : Catalog) : DeclarationId → DeclarationId → Prop :=
  c.Refers (·.asElement?) (·.substitutes)

/-- The declaration lies on a circle of declared bases, or on one of declared substitutions. -/
def LiesOnCircle (c : Catalog) (o : DeclarationId) : Prop :=
  TransGen c.Derives o o ∨ TransGen c.Substitutes o o

/-- The declared bases or the declared substitutions run in a circle. -/
def IsCircular (c : Catalog) : Prop := ∃ o, c.LiesOnCircle o

theorem isSome_getAs? {α : Type} {as? : Declaration → Option α} :
    (c.getAs? as? o).isSome = ((c.get? o).bind as?).isSome := by
  unfold getAs?
  cases c.get? o <;> simp

theorem Refers.declares {α : Type} {as? : Declaration → Option α}
    {reference : α → Option NameRef} (h : c.Refers as? reference o up) :
    ((c.get? o).bind as?).isSome ∧ ((c.get? up).bind as?).isSome := by
  obtain ⟨d, a, r, hget, -, -, hup⟩ := h
  exact ⟨by rw [← isSome_getAs?, hget]; rfl, hup⟩

theorem leads_typeLink : Link.Leads (typeLink c) o up ↔ c.Derives o up := by
  unfold Link.Leads typeLink
  constructor
  · intro h
    split at h
    · cases h
    · rename_i d t hget
      split at h
      · cases h
      · rename_i r hr
        split at h
        · cases h
        · cases h
        · rename_i up' hup
          split at h
          · rename_i hd
            cases h
            exact ⟨d, t, r, hget, hr, hup, hd⟩
          · cases h
  · rintro ⟨d, t, r, hget, hr, hup, hd⟩
    simp [hget, hr, hup, hd]

theorem leads_elementLink : Link.Leads (elementLink c) o up ↔ c.Substitutes o up := by
  unfold Link.Leads elementLink
  constructor
  · intro h
    split at h
    · cases h
    · rename_i d e hget
      split at h
      · cases h
      · rename_i r hr
        split at h
        · cases h
        · cases h
        · rename_i up' hup
          split at h
          · rename_i hd
            cases h
            exact ⟨d, e, r, hget, hr, hup, hd⟩
          · cases h
  · rintro ⟨d, e, r, hget, hr, hup, hd⟩
    simp [hget, hr, hup, hd]

/-- What declares something is a declaration. -/
theorem exists_get? {α : Type} {as? : Declaration → Option α}
    (h : ((c.get? o).bind as?).isSome) : ∃ d, c.get? o = some d := by
  obtain ⟨a, ha⟩ := Option.isSome_iff_exists.1 h
  obtain ⟨d, hd, -⟩ := Option.bind_eq_some_iff.1 ha
  exact ⟨d, hd⟩

theorem LiesOnCircle.exists_get? (h : c.LiesOnCircle o) : ∃ d, c.get? o = some d := by
  rcases h with h | h
  · obtain ⟨y, hy, -⟩ := TransGen.head'_iff.1 h
    exact Catalog.exists_get? hy.declares.1
  · obtain ⟨y, hy, -⟩ := TransGen.head'_iff.1 h
    exact Catalog.exists_get? hy.declares.1

theorem index_lt_of_isSome {α : Type} {as? : Declaration → Option α}
    (h : ((c.get? o).bind as?).isSome) : o.index < c.declarations.size := by
  obtain ⟨d, hd⟩ := exists_get? h
  exact (Array.getElem?_eq_some_iff.1 hd).1

/-- Distinct declarations are no more than there are. -/
theorem length_le_of_nodup {l : List DeclarationId} (hl : l.Nodup)
    (h : ∀ x ∈ l, x.index < c.declarations.size) : l.length ≤ c.declarations.size := by
  have hmap : (l.map DeclarationId.index).Nodup :=
    hl.map fun x y hxy => congrArg DeclarationId.mk hxy
  have hsub : l.map DeclarationId.index ⊆ List.range c.declarations.size := by
    intro i hi
    obtain ⟨x, hx, rfl⟩ := List.mem_map.1 hi
    exact List.mem_range.2 (h x hx)
  simpa using (List.subperm_of_subset hmap hsub).length_le

/-- Where all declarations are grounded, nothing runs in a circle. -/
theorem not_isCircular (ht : ∀ o, c.DeclaresType o → Link.Grounded (typeLink c) o)
    (he : ∀ o, c.DeclaresElement o → Link.Grounded (elementLink c) o) : ¬c.IsCircular := by
  rintro ⟨o, h | h⟩
  · obtain ⟨y, hy, -⟩ := TransGen.head'_iff.1 h
    exact not_transGen_of_acc (ht o hy.declares.1)
      (TransGen.mono (fun _ _ hab => leads_typeLink.2 hab) _ _ h)
  · obtain ⟨y, hy, -⟩ := TransGen.head'_iff.1 h
    exact not_transGen_of_acc (he o hy.declares.1)
      (TransGen.mono (fun _ _ hab => leads_elementLink.2 hab) _ _ h)

end Catalog

end Schemata
