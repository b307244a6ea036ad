import Schemata.Proofs.Checks
import Schemata.Proofs.Matching

/-!
# Instances of restricted types

What is a valid instance of a restricted type, is it one of the base? It is if the base does not
lack an attribute. A restriction may declare a required attribute again with a default value, which
its instances may then do without, but those of the base may not.

The children are no obstacle, provided that it is clear which member each child belongs to: no
object stands for two members of one set, and an object that stands for the use of a global element
stands for the same one in the base. The proof compares two visits of one object. The demand of the
second visit is weaker (`Demand.Weaker`), and so are the demands that it makes further below.
-/

namespace Schemata

/-! ## Checks against weaker demands -/

namespace Check

open Walk

variable {c : Check Unit}

/-- A check in strict mode whose visits pass for weaker demands too. -/
structure Monotone (c : Check Unit) : Prop extends c.Strict where
  weaken : ∀ id d d', d.Weaker c.schema d' → ∀ b, (c.visit id d).Passes b →
    ∃ b', (c.visit id d').Passes b'

variable (hc : c.Monotone)
include hc

theorem below_weaken {id : ObjectId} {d d' : Demand} (hd : d.Weaker c.schema d')
    (h : (c.below id d).Passes ()) : (c.below id d').Passes () := by
  obtain ⟨b, hb⟩ := (passes_below hc.toStrict).1 h
  exact (passes_below hc.toStrict).2 (hc.weaken id d d' hd b hb)

theorem holder_weaken {id : ObjectId} {type : TypeId} {n n' : Bool} (hn : n → n')
    (h : (c.holder id type n).Passes ()) : (c.holder id type n').Passes () := by
  unfold holder at h ⊢
  split at h
  · split at h
    · exact absurd h (not_passes_report hc.toStrict _ _)
    · exact absurd h ((fails_throw _).not_passes _)
  · split at h
    · exact absurd h (not_passes_report hc.toStrict _ _)
    · obtain ⟨v, hv, h⟩ := passes_ask_bind.1 h
      refine passes_ask_bind.2 ⟨v, hv, ?_⟩
      cases v with
      | some v => exact h
      | none =>
        cases n with
        | true => simpa [hn] using h
        | false =>
          obtain ⟨o, -, h⟩ := passes_ask_bind.1 h
          split at h <;> exact absurd h (not_passes_report hc.toStrict _ _)

theorem element_weaken {id : ObjectId} {e f : Element} (htype : e.type = f.type)
    (hn : e.isNullable → f.isNullable) (ha : f.isAbstract → e.isAbstract)
    (h : (c.element id e).Passes ()) : (c.element id f).Passes () := by
  rw [passes_element hc.toStrict] at h ⊢
  obtain ⟨hconcrete, hholder⟩ := h
  refine ⟨?_, htype ▸ holder_weaken hc hn hholder⟩
  by_contra hf
  rw [Bool.not_eq_false] at hf
  rw [ha hf] at hconcrete
  cases hconcrete

/-! ## Sets -/

/-- Whatever the members of a set find stands for one of them. -/
theorem known_of_members {set : ObjectId} {kind : SetKind} {ms : List Member}
    {ids : List ObjectId} {known : List (ObjectId × String)}
    (h : (c.members set kind ms ids).Passes known) :
    ∀ id ∈ known.map (·.1), ∃ m ∈ ms, (c.schema.demandAt c.tree m id).isSome := by
  induction ms generalizing ids known with
  | nil =>
    obtain rfl := passes_pure_iff.1 h
    simp
  | cons m ms ih =>
    have hlater : ∀ {ids known}, (c.members set kind ms ids).Passes known →
        ∀ id ∈ known.map (·.1), ∃ x ∈ m :: ms, (c.schema.demandAt c.tree x id).isSome := by
      intro ids known h id hid
      obtain ⟨x, hx, hd⟩ := ih h id hid
      exact ⟨x, List.mem_cons_of_mem _ hx, hd⟩
    cases hf : c.schema.firstMatch c.tree m ids with
    | none => exact hlater ((passes_members_none hc.toStrict hf).1 h).2
    | some found =>
      obtain ⟨-, others, ho, rfl⟩ := (passes_members_found hc.toStrict hf).1 h
      refine List.forall_mem_cons.2 ⟨⟨m, List.mem_cons_self, ?_⟩, hlater ho⟩
      rw [demandAt_of_firstMatch hf]
      rfl

/-- The members of a set that was narrowed find what the members left find, and nothing else. The
induction is on the members of the wider set; objects stand for those only that were kept. -/
theorem members_weaken {set : ObjectId} {kind : SetKind} {ms ms' : List Member}
    (h : MembersNarrow (Element.Keeps c.schema) kind ms ms') (hs : Member.SetSound c.schema ms')
    (hu : ∀ m ∈ ms', m.Unambiguous c.schema) {ids : List ObjectId}
    (hstand : c.schema.StandFor c.tree ids ms ms') {known : List (ObjectId × String)}
    (hp : (c.members set kind ms ids).Passes known) :
    (c.members set kind ms' ids).Passes known := by
  induction ms' generalizing ms ids known with
  | nil =>
    cases h
    exact hp
  | cons m' ms' ih =>
    obtain ⟨hum, hurest⟩ := List.forall_mem_cons.1 hu
    cases h with
    | @keep _ m _ ms _ member rest =>
      have hrest := hstand.tail member.name hs
      rcases firstMatch_weaker member (hs.members _ List.mem_cons_self) hum
        (fun id hid => hstand.head rest hs hid) with ⟨hf, hf'⟩ | ⟨found, d', hf, hf', hw⟩
      · obtain ⟨hopt, hp⟩ := (passes_members_none hc.toStrict hf).1 hp
        exact (passes_members_none hc.toStrict hf').2
          ⟨fun hk => member.isOptional (hopt hk), ih rest hs.tail hurest hrest hp⟩
      · obtain ⟨hbelow, others, ho, rfl⟩ := (passes_members_found hc.toStrict hf).1 hp
        have hremain : c.schema.StandFor c.tree (found.remaining kind) ms ms' :=
          hrest.subset fun id hid => mem_remaining hf hid
        refine (passes_members_found hc.toStrict hf').2 ⟨below_weaken hc hw hbelow, others, ?_, ?_⟩
        · exact ih rest hs.tail hurest hremain ho
        · rw [member.name]
    | drop optional rest =>
      have hnone := firstMatch_eq_none fun id hid => hstand.dropped rest hs hid
      have hrest : c.schema.StandFor c.tree ids ms ms' :=
        fun x hx => hstand x (List.mem_cons_of_mem _ hx)
      exact (passes_members_none hc.toStrict hnone).2
        ⟨optional, ih rest hs.tail hurest hrest hp⟩

theorem choice_weaken {id : ObjectId} {s s' : ChildSet} (ho : s.isOptional → s'.isOptional)
    {names : List String} (h : (c.choice id s names).Passes ()) :
    (c.choice id s' names).Passes () := by
  unfold choice at h ⊢
  split at h
  · split at h
    · rename_i hs
      rw [if_pos (ho hs)]
      exact passes_pure _
    · exact absurd h (not_passes_report hc.toStrict _ _)
  · exact passes_pure _
  · exact absurd h (not_passes_report hc.toStrict _ _)

theorem childSet_weaken {id : ObjectId} {k : SetKind} {ms ms' : List Member} {p p' : Option Span}
    (hm : MembersNarrow (Element.Keeps c.schema) k ms ms') (hs : Member.SetSound c.schema ms')
    (ha : Member.Apart c.schema ms') (hu : ∀ m ∈ ms', m.Unambiguous c.schema)
    (h : (c.childSet id ⟨k, ms, p⟩).Passes ()) : (c.childSet id ⟨k, ms', p'⟩).Passes () := by
  rw [passes_childSet hc.toStrict] at h ⊢
  obtain ⟨present, known, hpresent, hknown, hchoice, hall⟩ := h
  have hstand : c.schema.StandFor c.tree present ms ms' :=
    .of_apart hm hs ha hu fun id hid => known_of_members hc hknown id (hall id hid)
  refine ⟨present, known, hpresent, members_weaken hc hm hs hu hstand hknown, ?_, hall⟩
  exact fun hk => choice_weaken hc hm.childSet_isOptional (hchoice hk)

/-! ## Lists -/

theorem childList_weaken {id : ObjectId} {i i' : Member} {o o' : Occurs}
    (hi : i.Narrows (Element.Keeps c.schema) i') (ho : o.restricts o')
    (hs : i'.Sound c.schema) (hu : i'.Unambiguous c.schema)
    (h : (c.childList id i o).Passes ()) : (c.childList id i' o').Passes () := by
  simp only [passes_childList hc.toStrict, passes_items hc.toStrict] at h ⊢
  obtain ⟨present, hpresent, hmissing, hexceeded, hitems⟩ := h
  refine ⟨present, hpresent, ?_, ?_, fun id hid => ?_⟩
  · by_contra hm
    rw [Bool.not_eq_false] at hm
    rw [Occurs.isMissing_of_restricts ho hm] at hmissing
    cases hmissing
  · by_contra he
    rw [Bool.not_eq_false] at he
    rw [Occurs.isExceeded_of_restricts ho he] at hexceeded
    cases hexceeded
  · obtain ⟨n, d, hn, hd, hbelow⟩ := hitems id hid
    obtain ⟨d', hd', hw⟩ := matchItem_weaker hi hs hu hd
    exact ⟨n, d', hn, hd', below_weaken hc hw hbelow⟩

/-- What fulfils a demand fulfils a weaker one. -/
theorem demand_weaken {id : ObjectId} {d d' : Demand} (hd : d.Weaker c.schema d')
    (h : (c.demand id d).Passes ()) : (c.demand id d').Passes () := by
  cases hd with
  | instanceOf t => exact h
  | holderOf t nullable => exact holder_weaken hc nullable h
  | element type nullable isAbstract => exact element_weaken hc type nullable isAbstract h
  | childSet members sound apart unambiguous =>
    exact childSet_weaken hc members sound apart unambiguous h
  | childList item occurs sound unambiguous =>
    exact childList_weaken hc item occurs sound unambiguous h

end Check

/-- Visits pass for weaker demands too. The induction is on the levels that are left. -/
theorem Validator.monotone_visit {v : Validator} (hv : v.mode = .strict) (t : Tree)
    (levels : Nat) : Check.Monotone ⟨v, t, v.visit Hooks.none t levels⟩ where
  mode := hv
  visit := decided_visit hv t levels
  weaken id d d' hd b hb := by
    induction levels generalizing id d d' b with
    | zero =>
      obtain ⟨-, n, hn, -⟩ := (passes_visit hv t).1 hb
      cases hn
    | succ n ih =>
      obtain ⟨-, m, hm, hcheck⟩ := (passes_visit hv t).1 hb
      obtain rfl : n = m := by omega
      exact ⟨true, (passes_visit hv t).2 ⟨rfl, n, rfl,
        Check.demand_weaken ⟨⟨hv, decided_visit hv t n⟩, ih⟩ hd hcheck⟩⟩

/-! ## Attributes -/

namespace Tree

/-- What is found among some objects is one of them, and an attribute of the name. -/
theorem firstNamed_eq_some {t : Tree} {name : String} {ids : List ObjectId} {id : ObjectId}
    (h : t.firstNamed name ids = .ok (some id)) :
    id ∈ ids ∧ ∃ slot, t.get id = .ok (.attr name slot) := by
  induction ids with
  | nil => cases h
  | cons x rest ih =>
    rw [firstNamed] at h
    obtain ⟨o, ho, h⟩ := bind_eq_ok h
    split at h
    · rename_i n slot
      split at h
      · rename_i hn
        cases h
        subst hn
        exact ⟨List.mem_cons_self, slot, ho⟩
      · exact ⟨List.mem_cons_of_mem _ (ih h).1, (ih h).2⟩
    · exact ⟨List.mem_cons_of_mem _ (ih h).1, (ih h).2⟩

/-- A search among objects that there are comes to an end. -/
theorem firstNamed_ok {t : Tree} {ids : List ObjectId} (h : ∀ id ∈ ids, ∃ o, t.get id = .ok o)
    (name : String) : ∃ r, t.firstNamed name ids = .ok r := by
  induction ids with
  | nil => exact ⟨none, rfl⟩
  | cons id rest ih =>
    obtain ⟨⟨o, ho⟩, hrest⟩ := List.forall_mem_cons.1 h
    rw [firstNamed, ho]
    cases o with
    | attr n slot =>
      by_cases hn : n = name
      · exact ⟨some id, if_pos hn⟩
      · obtain ⟨r, hr⟩ := ih hrest
        exact ⟨r, (if_neg hn).trans hr⟩
    | _ => exact ih hrest

variable {t : Tree} {complex id : ObjectId} {name : String}

theorem findAttribute_eq {present : List ObjectId} (h : t.attributes complex = .ok present) :
    t.findAttribute complex name = t.firstNamed name present := by
  rw [findAttribute, h]
  rfl

/-- What is found by a name is one of the attributes, and has the name. -/
theorem findAttribute_eq_some {present : List ObjectId} (h : t.attributes complex = .ok present)
    (hid : t.findAttribute complex name = .ok (some id)) :
    id ∈ present ∧ ∃ slot, t.get id = .ok (.attr name slot) :=
  firstNamed_eq_some ((findAttribute_eq h).symm.trans hid)

end Tree

namespace Check

open Walk

variable {c : Check Unit} {complex : ObjectId} {as bs : Option (List Attribute)}
  {present : List ObjectId}

/-- Every attribute that an object has was found for one that is declared. -/
theorem exists_declared (hc : c.Strict) (hpresent : c.tree.attributes complex = .ok present)
    (h : (c.attributes complex as).Passes ()) {id : ObjectId} (hid : id ∈ present) :
    ∃ a ∈ as.getD [], c.HasAttribute complex a ∧
      c.tree.findAttribute complex a.name = .ok (some id) := by
  obtain ⟨present', hpresent', hall, hknown⟩ := (passes_attributes hc).1 h
  obtain rfl := Except.ok.inj (hpresent.symm.trans hpresent')
  obtain ⟨a, ha, hat⟩ := hknown id hid
  obtain ⟨found, hf, hrest⟩ := hall a ha
  rw [attributeAt, hf] at hat
  obtain rfl : found = some id := hat
  exact ⟨a, ha, ⟨some id, hf, hrest⟩, hf⟩

variable (hc : c.Monotone) (hn : Attribute.SetNarrows c.schema (as.getD []) (bs.getD []))
  (hnames : ((bs.getD []).map Attribute.name).Nodup)
  (htypes : ∀ a ∈ as.getD [], ∀ b ∈ bs.getD [], a.name = b.name → a.type = b.type)
include hc hn hnames htypes

/-- What is found for an attribute of the base was found for the one that narrows it, so that it
holds what the base asks for. -/
theorem holder_of_base (hpresent : c.tree.attributes complex = .ok present)
    (h : (c.attributes complex as).Passes ()) {b : Attribute} (hb : b ∈ bs.getD []) {id : ObjectId}
    (hid : c.tree.findAttribute complex b.name = .ok (some id)) :
    (c.below id (.holderOf b.type b.isNullable)).Passes () := by
  obtain ⟨hmem, slot, ho⟩ := Tree.findAttribute_eq_some hpresent hid
  obtain ⟨a, ha, ⟨found, hf, hbelow, -⟩, hfa⟩ := exists_declared hc.toStrict hpresent h hmem
  obtain ⟨-, slot', ho'⟩ := Tree.findAttribute_eq_some hpresent hfa
  have hname : a.name = b.name := (Object.attr.inj (Except.ok.inj (ho'.symm.trans ho))).1
  obtain ⟨b', hb', hab⟩ := hn.restricts a ha
  have hsame : b = b' := by
    have hb₁ := find?_name_of_mem Attribute.name hnames hb
    have hb₂ := find?_name_of_mem Attribute.name hnames hb'
    rw [← hab.name, hname, hb₁] at hb₂
    exact Option.some.inj hb₂
  subst hsame
  have htype := htypes a ha b hb hname
  exact below_weaken hc (htype ▸ .holderOf a.type hab.nullable)
    (hbelow id (Except.ok.inj (hf.symm.trans hfa)))

/-- An object whose attributes are in order for a type has its attributes in order for the base if
and only if it has those that the base cannot do without. -/
theorem attributes_weaken (h : (c.attributes complex as).Passes ()) :
    (c.attributes complex bs).Passes () ↔ ∀ b ∈ bs.getD [], b.isOptional = false →
      b.defaultValue = none → ∃ id, c.tree.findAttribute complex b.name = .ok (some id) := by
  obtain ⟨present, hpresent, -⟩ := (passes_attributes hc.toStrict).1 h
  rw [passes_attributes hc.toStrict]
  constructor
  · rintro ⟨-, -, hb, -⟩ b hmem hreq hdef
    obtain ⟨found, hf, -, hleft⟩ := hb b hmem
    cases found with
    | some id => exact ⟨id, hf⟩
    | none =>
      have := hleft rfl
      simp [hreq, hdef] at this
  · intro hreq
    refine ⟨present, hpresent, fun b hb => ?_, fun id hid => ?_⟩
    · have hget : ∀ id ∈ present, ∃ o, c.tree.get id = .ok o := by
        intro id hid
        obtain ⟨a, -, -, hfa⟩ := exists_declared hc.toStrict hpresent h hid
        obtain ⟨-, slot, ho⟩ := Tree.findAttribute_eq_some hpresent hfa
        exact ⟨_, ho⟩
      obtain ⟨found, hf⟩ := Tree.firstNamed_ok hget b.name
      rw [← Tree.findAttribute_eq hpresent] at hf
      refine ⟨found, hf, ?_, ?_⟩
      · rintro id rfl
        exact holder_of_base hc hn hnames htypes hpresent h hb hf
      · rintro rfl
        by_contra hleft
        simp only [not_or, Bool.not_eq_true, Option.isSome_eq_false_iff,
          Option.isNone_iff_eq_none] at hleft
        obtain ⟨id, hid⟩ := hreq b hb hleft.1 hleft.2
        cases hf.symm.trans hid
    · obtain ⟨a, ha, -, hf⟩ := exists_declared hc.toStrict hpresent h hid
      obtain ⟨b, hb, hab⟩ := hn.restricts a ha
      exact ⟨b, hb, by rw [attributeAt, ← hab.name, hf]⟩

end Check

/-! ## Instances -/

/-- Content that keeps every type of the content that it narrows. -/
structure ComplexContent.Restates (s : Schema) (c d : ComplexContent) : Prop where
  attributes : ∀ a ∈ c.attributes.getD [], ∀ b ∈ d.attributes.getD [], a.name = b.name →
    a.type = b.type
  simple : ∀ t u, c.children = some (.simple t) → d.children = some (.simple u) → t = u
  members : ∀ x y, c.children = some (.set x) → d.children = some (.set y) →
    MembersNarrow (Element.Restates s) y.kind x.members y.members

/-- Content in which it is clear which member an object stands for. -/
structure ComplexContent.Unambiguous (s : Schema) (c : ComplexContent) : Prop where
  apart : ∀ x, c.children = some (.set x) → Member.Apart s x.members
  members : ∀ x, c.children = some (.set x) → ∀ m ∈ x.members, m.Unambiguous s

/-- Content that makes no use of global elements is unambiguous. -/
theorem ComplexContent.unambiguous_of_allLocal {s : Schema} {c : ComplexContent} (hs : c.Sound s)
    (hl : ∀ x, c.children = some (.set x) → Member.allLocal x.members) : c.Unambiguous s where
  apart x hx := Member.apart_of_allLocal (hs.children x hx).members (hl x hx)
  members x hx m hm := Member.unambiguous_of_isLocal ((hs.children x hx).members m hm)
    (Member.allLocal_eq_true.1 (hl x hx) m hm)

namespace Check

open Walk

variable {c : Check Unit}

theorem children_weaken (hc : c.Monotone) {x y : Option Children}
    (hn : Children.Narrow c.schema x y)
    (hsimple : ∀ t u, x = some (.simple t) → y = some (.simple u) → t = u)
    (hmembers : ∀ z w, x = some (.set z) → y = some (.set w) →
      MembersNarrow (Element.Restates c.schema) w.kind z.members w.members)
    (hsound : ∀ w, y = some (.set w) → Member.SetSound c.schema w.members)
    (hapart : ∀ w, y = some (.set w) → Member.Apart c.schema w.members)
    (hmem : ∀ w, y = some (.set w) → ∀ m ∈ w.members, m.Unambiguous c.schema)
    {complex : ObjectId} {present : Option ObjectId}
    (h : (c.children complex present x).Passes ()) : (c.children complex present y).Passes () := by
  cases hn with
  | none => exact h
  | simple type =>
    obtain rfl := hsimple _ _ rfl rfl
    exact h
  | @set k ms ms' p p' members kept =>
    have hkeep : MembersNarrow (Element.Keeps c.schema) k ms ms' :=
      members.both (hmembers _ _ rfl rfl) (hsound _ rfl)
    cases present with
    | none =>
      unfold Check.children at h ⊢
      dsimp only at h ⊢
      split at h
      · rename_i ho
        rw [if_pos (members.childSet_isOptional ho)]
        exact passes_pure _
      · exact absurd h (not_passes_report hc.toStrict _ _)
    | some id =>
      unfold Check.children at h ⊢
      obtain ⟨o, ho, h⟩ := passes_ask_bind.1 h
      refine passes_ask_bind.2 ⟨o, ho, ?_⟩
      split at h
      · exact below_weaken hc (.childSet hkeep (hsound _ rfl) (hapart _ rfl) (hmem _ rfl)) h
      · exact absurd h (not_passes_report hc.toStrict _ _)

end Check

/-- An instance of a restriction that keeps the types of its base, and whose base can tell its
members apart, is an instance of the base if and only if it has every attribute that is required
there and has no default value there. -/
theorem instance_of_base_iff {namespaces : List NamespaceDecl} {limits : Limits} {s : Schema}
    (h : Accepts namespaces limits s) {d b : TypeId} (hstep : s.Restricts d b)
    {cd cb : ComplexContent} (hd : (s.typeDef d).asComplex? = some cd)
    (hb : (s.typeDef b).asComplex? = some cb) (hconcrete : (s.typeDef b).isAbstract = false)
    (hrestates : cd.Restates s cb) (hunambiguous : cb.Unambiguous s) {t : Tree} {id : ObjectId}
    (hname : ∀ o, t.get id = .ok o → o.typeName? = none) {bounds : Limits} {ledger : Ledger}
    (hvalid : (Validator.validate ⟨s, .strict, bounds⟩ t id d ledger).1 = .ok true) :
    (Validator.validate ⟨s, .strict, bounds⟩ t id b ledger).1 = .ok true ↔
      ∀ a ∈ cb.attributes.getD [], a.isOptional = false → a.defaultValue = none →
        ∃ i, t.findAttribute id a.name = .ok (some i) := by
  let v : Validator := ⟨s, .strict, bounds⟩
  have hv : v.mode = .strict := rfl
  have hc := Validator.monotone_visit hv t bounds.objectDepth
  have hs := h.sound
  obtain ⟨cb', hb', hnarrow⟩ := hs.restriction d cd b hstep.2 hd hstep.1
  obtain rfl := Option.some.inj (hb.symm.trans hb')
  have hsound := hs.content b cb hb
  -- both validations are one visit each, with the same levels below
  have hvisit : ∀ type, (Validator.validate v t id type ledger).1 = .ok true ↔
      (Check.instanceOf ⟨v, t, v.visit Hooks.none t bounds.objectDepth⟩ id type).Passes () := by
    intro type
    refine (Validator.validate_eq_true hv t).trans ((Validator.passes_visit hv t).trans ?_)
    exact ⟨fun ⟨_, n, hn, hcheck⟩ => by cases hn; exact hcheck, fun hcheck => ⟨rfl, _, rfl, hcheck⟩⟩
  obtain ⟨-, name, attributes, present, hget, hattributes, hchildren⟩ :=
    (Check.passes_instanceOf hc.toStrict hd hname).1 ((hvisit d).1 hvalid)
  have hiff := Check.attributes_weaken hc hnarrow.attributes hsound.attributes
    hrestates.attributes hattributes
  have hchildren' := Check.children_weaken hc hnarrow.children hrestates.simple hrestates.members
    hsound.children hunambiguous.apart hunambiguous.members hchildren
  rw [hvisit b, Check.passes_instanceOf hc.toStrict hb hname, ← hiff]
  constructor
  · rintro ⟨-, -, -, -, -, ha, -⟩
    exact ha
  · intro ha
    exact ⟨hconcrete, name, attributes, present, hget, ha, hchildren'⟩

/-- A letter with a stamp, a note and a text, and a card, which has no note and a stamp by
default. -/
def letters : List NamespaceDecl :=
  let text (name : String) : Ident := ⟨name, none⟩
  let child (name : String) (occurs : Option OccursDecl) : ChildItem :=
    .element { name := text name, type := .ofText "String", occurs }
  let children (items : List ChildItem) : Option ChildrenDecl :=
    some (.set { kind := .sequence, items })
  let stamp (defaultValue : Option String) : Option AttributeBlock :=
    some { items := [
      .declared { name := text "stamp", type := .ofText "String", defaultValue }] }
  [{ uri := "urn:mail"
     members := [
      .type { name := text "Letter"
              body := .complex (stamp none)
                (children [child "note" (some ⟨0, 1, none⟩), child "text" none]) },
      .type { name := text "Card"
              body := .restriction (.ofText "Letter") none (stamp (some "plain"))
                (children [child "text" none]) }] }]

/-- A card with a text, and a stamp if one is given. -/
def card (stamp : Option String) : Tree :=
  let text : Array Node := #[
    { object := .complex none (stamp.map fun _ => ⟨4⟩) (some ⟨1⟩) },
    { object := .childSet none [⟨2⟩], parent := some ⟨0⟩ },
    { object := .element (.unqualified "text") (.direct (some ⟨3⟩)), parent := some ⟨1⟩ },
    { object := .simple none (.atomic (.string "hello")), parent := some ⟨2⟩ }]
  match stamp with
  | none => ⟨text⟩
  | some value => ⟨text ++ #[
      { object := .attributeSet [⟨5⟩], parent := some ⟨0⟩ },
      { object := .attr "stamp" (.direct (some ⟨6⟩)), parent := some ⟨4⟩ },
      { object := .simple none (.atomic (.string value)), parent := some ⟨5⟩ }]⟩

/-- Whether content has one attribute and one member, which are the attribute and the second member
of other content, with their types. -/
def keepsSecond (c d : ComplexContent) : Bool :=
  match c.attributes, d.attributes, c.children, d.children with
  | some [a], some [b], some (.set ⟨.sequence, [.element l e o], _⟩),
    some (.set ⟨.sequence, [.element _ n dropped, .element l' f o'], _⟩) =>
    b.name = "stamp" && a.type = b.type && dropped && n.referenced.isNone &&
      l.name = l'.name && e.type = f.type && e.referenced.isNone && f.referenced.isNone && !o && !o'
  | _, _, _, _ => false

/-- A card keeps the types of a letter, which makes no use of global elements. -/
theorem letters_restate : ∃ cd cb : ComplexContent,
    ((schemaOf letters {}).typeDef ⟨23⟩).asComplex? = some cd ∧
    ((schemaOf letters {}).typeDef ⟨22⟩).asComplex? = some cb ∧
    cd.Restates (schemaOf letters {}) cb ∧
    (∀ x, cb.children = some (.set x) → Member.allLocal x.members) ∧
    ∀ a ∈ cb.attributes.getD [], a.name = "stamp" := by
  have h : (((schemaOf letters {}).typeDef ⟨23⟩).asComplex?.any fun cd =>
      ((schemaOf letters {}).typeDef ⟨22⟩).asComplex?.any fun cb => keepsSecond cd cb) = true := by
    decide +kernel
  obtain ⟨cd, hd, h⟩ := (Option.any_eq_true _ _).1 h
  obtain ⟨cb, hb, h⟩ := (Option.any_eq_true _ _).1 h
  refine ⟨cd, cb, hd, hb, ?_⟩
  unfold keepsSecond at h
  split at h
  · rename_i a b l e o p l₁ n o₁ l' f o' p' ha hb' hcd hcb
    simp only [Bool.and_eq_true, decide_eq_true_eq, Option.isNone_iff_eq_none,
      Bool.not_eq_true'] at h
    obtain ⟨⟨⟨⟨⟨⟨⟨⟨⟨hstamp, hab⟩, rfl⟩, hn⟩, hl⟩, hef⟩, he⟩, hf⟩, rfl⟩, rfl⟩ := h
    refine ⟨⟨?_, (fun t u ht => by cases hcd.symm.trans ht), ?_⟩, ?_, ?_⟩
    · rw [ha, hb']
      simpa using fun _ => hab
    · intro x y hx hy
      cases hcd.symm.trans hx
      cases hcb.symm.trans hy
      refine .drop (fun _ => rfl) (.keep (.element hl ⟨hef, ?_⟩ id) .nil)
      intro id head hid
      cases he.symm.trans hid
    · intro x hx
      cases hcb.symm.trans hx
      simp [Member.allLocal, Member.isLocal, hn, hf]
    · rw [hb']
      simpa using hstamp
  · cases h

/-- A stamped card is a letter. -/
theorem card_isLetter :
    (Validator.validate ⟨schemaOf letters {}, .strict, {}⟩ (card (some "red")) ⟨0⟩ ⟨22⟩ {}).1 =
      .ok true := by
  have hs : Accepts letters {} (schemaOf letters {}) := accepts_schemaOf (by decide +kernel)
  have hstep : (schemaOf letters {}).Restricts ⟨23⟩ ⟨22⟩ := by decide +kernel
  have hname : ∀ o, (card (some "red")).get ⟨0⟩ = .ok o → o.typeName? = none := by
    rintro _ ⟨⟩
    rfl
  obtain ⟨cd, cb, hd, hb, hrestates, hlocal, hstamp⟩ := letters_restate
  have hunambiguous := ComplexContent.unambiguous_of_allLocal (hs.sound.content _ _ hb) hlocal
  refine (instance_of_base_iff hs hstep hd hb (by decide +kernel) hrestates hunambiguous hname
    (by decide +kernel)).2 fun a ha _ _ => ⟨⟨5⟩, ?_⟩
  rw [hstamp a ha]
  decide

/-- A card without a stamp is valid, and it is not a valid letter although all types are kept. -/
theorem card_notLetter : Accepts letters {} (schemaOf letters {}) ∧
    (schemaOf letters {}).Restricts ⟨23⟩ ⟨22⟩ ∧
    ((schemaOf letters {}).typeDef ⟨22⟩).isAbstract = false ∧
    (∃ cd cb : ComplexContent, ((schemaOf letters {}).typeDef ⟨23⟩).asComplex? = some cd ∧
      ((schemaOf letters {}).typeDef ⟨22⟩).asComplex? = some cb ∧
      cd.Restates (schemaOf letters {}) cb) ∧
    (∀ o, (card none).get ⟨0⟩ = .ok o → o.typeName? = none) ∧
    (Validator.validate ⟨schemaOf letters {}, .strict, {}⟩ (card none) ⟨0⟩ ⟨23⟩ {}).1 = .ok true ∧
    (Validator.validate ⟨schemaOf letters {}, .strict, {}⟩ (card none) ⟨0⟩ ⟨22⟩ {}).1 =
      .ok false := by
  have hname : ∀ o, (card none).get ⟨0⟩ = .ok o → o.typeName? = none := by
    rintro _ ⟨⟩
    rfl
  obtain ⟨cd, cb, hd, hb, hrestates, -, -⟩ := letters_restate
  exact ⟨accepts_schemaOf (by decide +kernel), by decide +kernel, by decide +kernel,
    ⟨cd, cb, hd, hb, hrestates⟩, hname, by decide +kernel, by decide +kernel⟩

end Schemata
