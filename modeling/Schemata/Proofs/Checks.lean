import Schemata.Proofs.Walks

/-!
# Checks that pass

In strict mode a check passes if and only if it has nothing to record. For each sort of object this
can be said of the object itself, without the walk.
-/

namespace Schemata

namespace Check

open Walk

variable {c : Check Unit} (hc : c.Strict)
include hc

theorem not_passes_report (id : ObjectId) (f : Finding) : ¬(c.report id f).Passes () :=
  (fails_report hc id f).not_passes ()

theorem not_passes_report_bind {α : Type} {f : Finding} {id : ObjectId} {rest : Walk Unit α}
    (hrest : rest.Decided) (a : α) : ¬(c.report id f >>= fun _ => rest).Passes a :=
  ((fails_report hc id f).bind fun _ => hrest).not_passes a

theorem passes_below {id : ObjectId} {d : Demand} :
    (c.below id d).Passes () ↔ ∃ b, (c.visit id d).Passes b := by
  refine ((hc.visit id d).passes_bind fun _ => decided_pure _).trans ?_
  exact exists_congr fun b => and_iff_left (passes_pure _)

theorem passes_element {id : ObjectId} {e : Element} :
    (c.element id e).Passes () ↔
      e.isAbstract = false ∧ (c.holder id e.type e.isNullable).Passes () := by
  refine ((fails_report hc _ _).passes_ite_bind (decided_holder hc _ _ _)).trans ?_
  rw [Bool.not_eq_true]

theorem passes_reportAll {f : ObjectId → Finding} {ids : List ObjectId} :
    (c.reportAll f ids).Passes () ↔ ids = [] := by
  cases ids with
  | nil => exact ⟨fun _ => rfl, fun _ => passes_pure _⟩
  | cons id rest =>
    constructor
    · exact fun h => absurd h (not_passes_report_bind hc (decided_reportAll hc _ _) ())
    · intro h
      cases h

/-! ## Children -/

section Members

variable {set : ObjectId} {kind : SetKind} {m : Member} {ms : List Member} {ids : List ObjectId}
  {known : List (ObjectId × String)}

/-- What a member finds is in order, and the other members look among what remains. -/
theorem passes_members_found {found : MemberMatch}
    (hf : c.schema.firstMatch c.tree m ids = some found) :
    (c.members set kind (m :: ms) ids).Passes known ↔
      (c.below found.child found.demand).Passes () ∧
        ∃ others, (c.members set kind ms (found.remaining kind)).Passes others ∧
          known = (found.child, m.name) :: others := by
  rw [members, hf]
  have hrest := decided_members hc set kind ms (found.remaining kind)
  refine ((decided_below hc _ _).passes_bind fun _ =>
    hrest.bind fun _ => decided_pure _).trans ?_
  constructor
  · rintro ⟨_, hbelow, h⟩
    obtain ⟨others, ho, h⟩ := (hrest.passes_bind fun _ => decided_pure _).1 h
    exact ⟨hbelow, others, ho, (passes_pure_iff.1 h).symm⟩
  · rintro ⟨hbelow, others, ho, rfl⟩
    exact ⟨(), hbelow, ho.bind (passes_pure _)⟩

/-- A member that finds nothing may be left out, and the other members look among the same. -/
theorem passes_members_none (hf : c.schema.firstMatch c.tree m ids = none) :
    (c.members set kind (m :: ms) ids).Passes known ↔
      (kind = .sequence → m.isOptional) ∧ (c.members set kind ms ids).Passes known := by
  rw [members, hf]
  refine ((fails_report hc _ _).passes_ite_bind (decided_members hc _ _ _ _)).trans ?_
  simp

end Members

/-- The members of a set that passes find all its children. -/
theorem passes_childSet {id : ObjectId} {s : ChildSet} :
    (c.childSet id s).Passes () ↔ ∃ present known, c.tree.items id = .ok present ∧
      (c.members id s.kind s.members present).Passes known ∧
      (s.kind = .choice → (c.choice id s (known.map (·.2))).Passes ()) ∧
      ∀ child ∈ present, child ∈ known.map (·.1) := by
  have hleft : ∀ (present : List ObjectId) (known : List (ObjectId × String)),
      (c.reportAll (fun _ => .undeclaredChild)
        (present.filter fun child => !(known.map (·.1)).contains child)).Passes () ↔
      ∀ child ∈ present, child ∈ known.map (·.1) := by
    intro present known
    rw [passes_reportAll hc, List.filter_eq_nil_iff]
    simp
  have hlast : ∀ rest known, (if s.kind = .choice then
      c.choice id s known >>= fun _ => c.reportAll (fun _ => .undeclaredChild) rest
      else c.reportAll (fun _ => .undeclaredChild) rest).Decided :=
    fun rest known => (decided_choice hc _ _ _).ite_bind (decided_reportAll hc _ _)
  unfold childSet
  rw [passes_ask_bind]
  refine exists_congr fun present => ?_
  rw [exists_and_left]
  refine and_congr_right fun _ => ?_
  rw [(decided_members hc _ _ _ _).passes_bind fun known => hlast _ _]
  refine exists_congr fun known => and_congr_right fun _ => ?_
  split
  · rename_i hk
    rw [(decided_choice hc _ _ _).passes_bind fun _ => decided_reportAll hc _ _, hleft]
    constructor
    · rintro ⟨_, hchoice, hall⟩
      exact ⟨fun _ => hchoice, hall⟩
    · rintro ⟨hchoice, hall⟩
      exact ⟨(), hchoice hk, hall⟩
  · rename_i hk
    rw [hleft]
    exact (and_iff_right fun hk' => absurd hk' hk).symm

theorem passes_items {item : Member} {ids : List ObjectId} :
    (c.items item ids).Passes () ↔ ∀ id ∈ ids, ∃ n d, c.tree.node? id = some n ∧
      c.schema.matchItem n.object item = some d ∧ (c.below id d).Passes () := by
  induction ids with
  | nil => exact ⟨fun _ => by simp, fun _ => passes_pure _⟩
  | cons id rest ih =>
    unfold items
    rw [List.forall_mem_cons]
    split
    · rename_i d hd
      obtain ⟨n, hn, hd⟩ := Option.bind_eq_some_iff.1 hd
      rw [(decided_below hc _ _).passes_bind fun _ => decided_items hc _ _]
      constructor
      · rintro ⟨_, hbelow, h⟩
        exact ⟨⟨n, d, hn, hd, hbelow⟩, ih.1 h⟩
      · rintro ⟨⟨n', d', hn', hd', hbelow⟩, h⟩
        cases hn.symm.trans hn'
        cases hd.symm.trans hd'
        exact ⟨(), hbelow, ih.2 h⟩
    · rename_i hnone
      constructor
      · exact fun h => absurd h (not_passes_report_bind hc (decided_items hc _ _) ())
      · rintro ⟨⟨n, d, hn, hd, -⟩, -⟩
        rw [hn, Option.bind_some, hd] at hnone
        cases hnone

theorem passes_childList {id : ObjectId} {item : Member} {occurs : Occurs} :
    (c.childList id item occurs).Passes () ↔ ∃ present, c.tree.items id = .ok present ∧
      occurs.isMissing present.length = false ∧ occurs.isExceeded present.length = false ∧
      (c.items item present).Passes () := by
  unfold childList
  rw [passes_ask_bind]
  refine exists_congr fun present => and_congr_right fun _ => ?_
  dsimp only
  split
  · rename_i hm
    constructor
    · exact fun h => absurd h (not_passes_report_bind hc (decided_items hc _ _) ())
    · rintro ⟨hm', -⟩
      rw [hm] at hm'
      cases hm'
  · rename_i hm
    refine ((fails_report hc _ _).passes_ite_bind (decided_items hc _ _)).trans ?_
    rw [Bool.not_eq_true] at hm ⊢
    exact (and_iff_right hm).symm

/-! ## Attributes -/

/-- The object that is a given attribute of a complex object. -/
def attributeAt (c : Check Unit) (complex : ObjectId) (a : Attribute) : Option ObjectId :=
  match c.tree.findAttribute complex a.name with
  | .ok found => found
  | .error _ => none

/-- A declared attribute is in order: it is there and holds what it has to, or it may be left
out. -/
def HasAttribute (c : Check Unit) (complex : ObjectId) (a : Attribute) : Prop :=
  ∃ found, c.tree.findAttribute complex a.name = .ok found ∧
    (∀ id, found = some id → (c.below id (.holderOf a.type a.isNullable)).Passes ()) ∧
    (found = none → a.isOptional ∨ a.defaultValue.isSome)

variable {complex : ObjectId}

theorem passes_declaredAttributes {as : List Attribute} {known : List ObjectId} :
    (c.declaredAttributes complex as).Passes known ↔
      (∀ a ∈ as, c.HasAttribute complex a) ∧ known = as.filterMap (c.attributeAt complex) := by
  induction as generalizing known with
  | nil => exact passes_pure_iff.trans (by simp [eq_comm])
  | cons a rest ih =>
    have hrest := decided_declaredAttributes hc complex rest
    rw [declaredAttributes, passes_ask_bind, List.forall_mem_cons, List.filterMap_cons, attributeAt]
    constructor
    · rintro ⟨found, hfound, h⟩
      rw [hfound]
      cases found with
      | some id =>
        obtain ⟨_, hbelow, h⟩ := ((decided_below hc _ _).passes_bind fun _ =>
          hrest.bind fun _ => decided_pure _).1 h
        obtain ⟨others, ho, h⟩ := (hrest.passes_bind fun _ => decided_pure _).1 h
        obtain rfl := passes_pure_iff.1 h
        obtain ⟨hall, rfl⟩ := ih.1 ho
        refine ⟨⟨⟨_, hfound, ?_, fun h => by cases h⟩, hall⟩, rfl⟩
        rintro _ ⟨⟩
        exact hbelow
      | none =>
        obtain ⟨hleft, h⟩ := ((fails_report hc _ _).passes_ite_bind hrest).1 h
        obtain ⟨hall, rfl⟩ := ih.1 h
        refine ⟨⟨⟨_, hfound, (fun _ h => by cases h), fun _ => ?_⟩, hall⟩, rfl⟩
        cases hd : a.defaultValue <;> simp_all
    · rintro ⟨⟨⟨found, hfound, hbelow, hleft⟩, hall⟩, rfl⟩
      refine ⟨found, hfound, ?_⟩
      rw [hfound]
      have hknown := ih.2 ⟨hall, rfl⟩
      cases found with
      | some id => exact (hbelow id rfl).bind (hknown.bind (passes_pure _))
      | none =>
        refine ((fails_report hc _ _).passes_ite_bind hrest).2 ⟨?_, hknown⟩
        cases hd : a.defaultValue <;> simp_all

theorem passes_undeclaredAttributes {ids : List ObjectId} :
    (c.undeclaredAttributes ids).Passes () ↔ ids = [] := by
  cases ids with
  | nil => exact ⟨fun _ => rfl, fun _ => passes_pure _⟩
  | cons id rest =>
    constructor
    · intro h
      obtain ⟨o, -, h⟩ := passes_ask_bind.1 h
      exact absurd h (not_passes_report_bind hc (decided_undeclaredAttributes hc _) ())
    · intro h
      cases h

/-- The attributes of an object pass if and only if the declared ones are in order and there are no
others. -/
theorem passes_attributes {declared : Option (List Attribute)} :
    (c.attributes complex declared).Passes () ↔ ∃ present, c.tree.attributes complex = .ok present ∧
      (∀ a ∈ declared.getD [], c.HasAttribute complex a) ∧
      ∀ id ∈ present, ∃ a ∈ declared.getD [], c.attributeAt complex a = some id := by
  unfold attributes
  rw [passes_ask_bind]
  refine exists_congr fun present => and_congr_right fun _ => ?_
  rw [(decided_declaredAttributes hc _ _).passes_bind fun _ => decided_undeclaredAttributes hc _]
  simp only [passes_declaredAttributes hc, passes_undeclaredAttributes hc, List.filter_eq_nil_iff]
  constructor
  · rintro ⟨_, ⟨hall, rfl⟩, hnone⟩
    refine ⟨hall, fun id hid => ?_⟩
    simpa using hnone id hid
  · rintro ⟨hall, hknown⟩
    refine ⟨_, ⟨hall, rfl⟩, fun id hid => ?_⟩
    simpa using hknown id hid

/-! ## Instances of types -/

theorem passes_ofType {id : ObjectId} {o : Object} {type : TypeId} {content : ComplexContent}
    (hcontent : (c.schema.typeDef type).asComplex? = some content) (ho : o.isInstance) :
    (c.ofType id o type).Passes () ↔ (c.schema.typeDef type).isAbstract = false ∧
      ∃ name attributes present, o = .complex name attributes present ∧
        (c.attributes id content.attributes).Passes () ∧
        (c.children id present content.children).Passes () := by
  have hcomplex : (c.schema.typeDef type).content = .complex content := by
    unfold TypeDef.asComplex? at hcontent
    split at hcontent
    · cases hcontent
    · rename_i x hx
      cases hcontent
      exact hx
  unfold ofType
  dsimp only
  rw [hcomplex]
  cases o with
  | simple name v =>
    refine ((fails_report hc _ _).passes_ite_bind (decided_report hc _ _)).trans ⟨?_, ?_⟩
    · exact fun h => absurd h.2 (not_passes_report hc _ _)
    · rintro ⟨-, _, _, _, ⟨⟩, _⟩
  | complex name attributes present =>
    have hchildren := fun _ : Unit => decided_children hc id present content.children
    have hattributes := decided_attributes hc id content.attributes
    refine ((fails_report hc _ _).passes_ite_bind (hattributes.bind hchildren)).trans ?_
    rw [Bool.not_eq_true, hattributes.passes_bind hchildren]
    refine and_congr_right fun _ => ⟨?_, ?_⟩
    · rintro ⟨_, ha, hch⟩
      exact ⟨_, _, _, rfl, ha, hch⟩
    · rintro ⟨_, _, _, ⟨⟩, ha, hch⟩
      exact ⟨(), ha, hch⟩
  | _ => cases ho

/-- An object that names no type is an instance of the complex type that is expected. -/
theorem passes_instanceOf {id : ObjectId} {type : TypeId} {content : ComplexContent}
    (hcontent : (c.schema.typeDef type).asComplex? = some content)
    (hname : ∀ o, c.tree.get id = .ok o → o.typeName? = none) :
    (c.instanceOf id type).Passes () ↔ (c.schema.typeDef type).isAbstract = false ∧
      ∃ name attributes present, c.tree.get id = .ok (.complex name attributes present) ∧
        (c.attributes id content.attributes).Passes () ∧
        (c.children id present content.children).Passes () := by
  have htype : ∀ o, c.tree.get id = .ok o → c.typeOf o type = .ok type := by
    intro o ho
    rw [typeOf, hname o ho]
  unfold instanceOf
  rw [passes_ask_bind]
  constructor
  · rintro ⟨o, ho, h⟩
    split at h
    · rename_i hi
      rw [htype o ho] at h
      obtain ⟨habs, name, attributes, present, rfl, hrest⟩ := (passes_ofType hc hcontent hi).1 h
      exact ⟨habs, name, attributes, present, ho, hrest⟩
    · exact absurd h (not_passes_report hc _ _)
  · rintro ⟨habs, name, attributes, present, ho, hrest⟩
    refine ⟨_, ho, ?_⟩
    rw [if_pos (show (Object.complex name attributes present).isInstance from rfl), htype _ ho]
    exact (passes_ofType hc hcontent rfl).2 ⟨habs, name, attributes, present, rfl, hrest⟩

end Check

end Schemata
