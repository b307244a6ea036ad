import Schemata.Proofs.ChildSets
import Schemata.Proofs.Outcomes

/-!
# What a check does about attributes

A check holds the attributes of a complex object against the declared ones by their names. The
attributes of an object have different names, and so have the declared ones (`Tree.Names`,
`ComplexContent.Sound`), so each declared attribute finds at most one object and each object is
found for at most one of them. What is done is a list of deeds (`Deed.ofAttributes`): a visit of
each object that is found, a report for each declared attribute that has to be there and is not, and
a report for each object that is not found.

Without hooks a visit ends the same way and records the same, whatever was recorded before
(`Walk.Steady`). So what is recorded for the attributes is what each deed records by itself, one
after the other (`Schema.deeds_of_attributes`).
-/

namespace Schemata

/-! ## Attributes by name -/

namespace Tree

variable {t : Tree} {x y : ObjectId} {present : List ObjectId} {name : String}

/-- An object is an attribute of a name. -/
def IsNamed (t : Tree) (x : ObjectId) (name : String) : Prop :=
  ∃ slot, t.get x = .ok (.attr name slot)

/-- The name of an attribute, and no text for any other object. -/
def attributeName (t : Tree) (x : ObjectId) : String := ((t.face? x).bind (·.name?)).getD ""

theorem IsNamed.attributeName_eq (h : t.IsNamed x name) : t.attributeName x = name := by
  obtain ⟨slot, hx⟩ := h
  rw [attributeName, face?_eq (get_eq_ok.1 hx)]
  rfl

theorem isNamed_of_face? (h : t.face? x = some (.attr name)) : t.IsNamed x name := by
  obtain ⟨o, ho, hface⟩ := Option.map_eq_some_iff.1 h
  cases o with
  | attr n slot =>
    obtain rfl : n = name := by simpa [Object.face, Face.attr] using hface
    exact ⟨slot, get_eq_ok.2 ho⟩
  | _ => cases hface

/-- Some objects are attributes, of different names. -/
structure Names (t : Tree) (present : List ObjectId) : Prop where
  isNamed : ∀ x ∈ present, t.IsNamed x (t.attributeName x)
  nodup : (present.map t.attributeName).Nodup

theorem names_of_faces {names : List String} (hnames : names.Nodup)
    (h : present.map t.face? = names.map fun n => some (.attr n)) : t.Names present := by
  refine ⟨fun x hx => ?_, ?_⟩
  · obtain ⟨n, -, hn⟩ := List.mem_map.1 (h ▸ List.mem_map_of_mem hx)
    have hnamed := isNamed_of_face? hn.symm
    exact hnamed.attributeName_eq.symm ▸ hnamed
  · have heq : present.map t.attributeName = names := by
      have hface := congrArg (List.map fun f => (f.bind (·.name?)).getD "") h
      rw [List.map_map, List.map_map] at hface
      exact hface.trans (List.map_id names)
    exact heq ▸ hnames

/-- The attributes of an object of a tree that is built by operations have different names. -/
theorem names_of_built {ops : List Operation} (ht : performAll {} ops = t) {id : ObjectId}
    (hp : t.attributes id = .ok present) : t.Names present := by
  obtain ⟨o, ho, hp⟩ := bind_eq_ok hp
  split at hp
  · cases hp
    exact ⟨List.forall_mem_nil _, List.nodup_nil⟩
  · rename_i n set cs
    obtain ⟨p, hset, hp⟩ := bind_eq_ok hp
    have hs := sorted_of_built ht
    obtain ⟨_, hset', hsort⟩ := isAmong_iff.1 ((hs _ _ (get_eq_ok.1 ho)).1 set rfl)
    cases hset.symm.trans hset'
    cases p with
    | attributeSet items =>
      cases hp
      obtain ⟨names, hnames, heq⟩ := hs _ _ (get_eq_ok.1 hset)
      exact names_of_faces hnames heq
    | _ => simp [Object.sort] at hsort
  · cases hp

/-- The one of some attributes that has a name. -/
def named? (t : Tree) (present : List ObjectId) (name : String) : Option ObjectId :=
  present.find? fun x => t.attributeName x == name

namespace Names

variable (h : t.Names present)
include h

theorem isNamed_iff (hx : x ∈ present) : t.IsNamed x name ↔ t.attributeName x = name :=
  ⟨IsNamed.attributeName_eq, fun heq => heq ▸ h.isNamed x hx⟩

theorem named?_eq_some : t.named? present name = some x ↔ x ∈ present ∧ t.IsNamed x name := by
  have hfound : ∀ {y}, t.named? present name = some y → y ∈ present ∧ t.attributeName y = name :=
    fun hy => ⟨List.mem_of_find?_eq_some hy, by simpa using List.find?_some hy⟩
  constructor
  · intro hx
    obtain ⟨hmem, hname⟩ := hfound hx
    exact ⟨hmem, (h.isNamed_iff hmem).2 hname⟩
  · rintro ⟨hx, hname⟩
    obtain ⟨y, hy⟩ := Option.isSome_iff_exists.1
      (List.find?_isSome.2 ⟨x, hx, beq_iff_eq.2 hname.attributeName_eq⟩ :
        (t.named? present name).isSome)
    obtain ⟨hmem, hname'⟩ := hfound hy
    rw [← List.inj_on_of_nodup_map h.nodup hmem hx (hname'.trans hname.attributeName_eq.symm)]
    exact hy

theorem named?_eq_none :
    t.named? present name = none ↔ ∀ x ∈ present, ¬t.IsNamed x name := by
  rw [named?, List.find?_eq_none]
  refine forall₂_congr fun x hx => ?_
  rw [h.isNamed_iff hx, beq_iff_eq]

theorem findAttribute {complex : ObjectId} (hp : t.attributes complex = .ok present)
    (name : String) : t.findAttribute complex name = .ok (t.named? present name) := by
  rw [findAttribute_eq hp]
  have hattr := h.isNamed
  clear h hp
  induction present with
  | nil => rfl
  | cons x rest ih =>
    obtain ⟨⟨slot, hx⟩, hrest⟩ := List.forall_mem_cons.1 hattr
    rw [firstNamed, hx, named?, List.find?_cons]
    by_cases hname : t.attributeName x = name
    · rw [beq_iff_eq.2 hname]
      exact if_pos hname
    · rw [beq_eq_false_iff_ne.2 hname]
      exact (if_neg hname).trans (ih hrest)

end Names

end Tree

/-! ## Deeds -/

namespace Deed

/-- The visit of an object with its demand. -/
def visit? : Deed → Option (ObjectId × Demand)
  | .report _ _ => none
  | .visit id d => some (id, d)

/-- What some deeds visit. -/
def visits (deeds : List Deed) : List (ObjectId × Demand) := deeds.filterMap visit?

/-- What a check does about a declared attribute, by the object that has its name. -/
def ofAttribute (complex : ObjectId) (a : Attribute) : Option ObjectId → Option Deed
  | some x => some (.visit x (.holderOf a.type a.isNullable))
  | none =>
    if !a.isOptional && a.defaultValue.isNone then some (.report complex (.missingAttribute a.name))
    else none

/-- Those of some attributes that no declared attribute finds. -/
def undeclared (t : Tree) (declared : List Attribute) (present : List ObjectId) : List ObjectId :=
  present.filter fun x => !(declared.filterMap fun a => t.named? present a.name).contains x

/-- What a check does about the attributes of a complex object. -/
def ofAttributes (t : Tree) (complex : ObjectId) (declared : List Attribute)
    (present : List ObjectId) : List Deed :=
  (declared.filterMap fun a => ofAttribute complex a (t.named? present a.name)) ++
    (undeclared t declared present).map fun x =>
      .report x (.undeclaredAttribute (t.attributeName x))

end Deed

namespace Check

variable {σ : Type} {c : Check σ} {complex : ObjectId} {present : List ObjectId}

theorem does_declaredAttributes (hn : c.tree.Names present)
    (hp : c.tree.attributes complex = .ok present) (declared : List Attribute) :
    c.Does (c.declaredAttributes complex declared)
      (declared.filterMap fun a => Deed.ofAttribute complex a (c.tree.named? present a.name))
      (declared.filterMap fun a => c.tree.named? present a.name) := by
  induction declared with
  | nil => exact .pure []
  | cons a rest ih =>
    rw [declaredAttributes, List.filterMap_cons, List.filterMap_cons]
    refine (Does.ask (hn.findAttribute hp a.name)).bind ?_
    cases c.tree.named? present a.name with
    | some x =>
      have hrest := ih.bind (f := fun known => pure (x :: known)) (.pure _)
      rw [List.append_nil] at hrest
      exact (Does.below x _).bind hrest
    | none =>
      simp only [Deed.ofAttribute]
      split
      · exact (Does.report complex _).bind ih
      · exact ih

theorem does_undeclaredAttributes {ids : List ObjectId}
    (hids : ∀ x ∈ ids, c.tree.IsNamed x (c.tree.attributeName x)) :
    c.Does (c.undeclaredAttributes ids)
      (ids.map fun x => .report x (.undeclaredAttribute (c.tree.attributeName x))) () := by
  induction ids with
  | nil => exact .pure ()
  | cons x rest ih =>
    obtain ⟨⟨slot, hx⟩, hrest⟩ := List.forall_mem_cons.1 hids
    rw [undeclaredAttributes]
    exact (Does.ask hx).bind ((Does.report x _).bind (ih hrest))

theorem does_attributes (hn : c.tree.Names present)
    (hp : c.tree.attributes complex = .ok present) (declared : Option (List Attribute)) :
    c.Does (c.attributes complex declared)
      (Deed.ofAttributes c.tree complex (declared.getD []) present) () := by
  have hundeclared : ∀ x ∈ Deed.undeclared c.tree (declared.getD []) present,
      c.tree.IsNamed x (c.tree.attributeName x) :=
    fun x hx => hn.isNamed x (List.mem_of_mem_filter hx)
  exact (Does.ask hp).bind ((does_declaredAttributes hn hp _).bind
    (does_undeclaredAttributes hundeclared))

end Check

/-- A partial map that gives a result for elements of one key only keeps a list free of
duplicates. -/
theorem nodup_filterMap_of_key {α β κ : Type} {key : α → κ} {f : α → Option β} {l : List α}
    (hl : (l.map key).Nodup) (hf : ∀ a a' b, f a = some b → f a' = some b → key a = key a') :
    (l.filterMap f).Nodup := by
  rw [List.Nodup, List.pairwise_map] at hl
  rw [List.Nodup, List.pairwise_filterMap]
  refine hl.imp fun hne b hb b' hb' heq => ?_
  subst heq
  exact hne (hf _ _ b hb hb')

/-- A declared attribute has to be there, and none of some objects has its name. -/
def Attribute.IsMissing (a : Attribute) (t : Tree) (present : List ObjectId) : Prop :=
  (∀ x ∈ present, ¬t.IsNamed x a.name) ∧ ¬a.isOptional ∧ a.defaultValue = none

namespace Deed

variable {t : Tree} {complex x : ObjectId} {d : Demand} {f : Finding} {a : Attribute}
  {declared : List Attribute} {present : List ObjectId}

theorem visit_ofAttribute (h : t.Names present) :
    (ofAttribute complex a (t.named? present a.name)).bind visit? = some (x, d) ↔
      (x ∈ present ∧ t.IsNamed x a.name) ∧ d = .holderOf a.type a.isNullable := by
  rw [← h.named?_eq_some]
  cases t.named? present a.name with
  | some y =>
    rw [ofAttribute, Option.bind_some, visit?, Option.some_inj, Prod.mk.injEq, Option.some_inj]
    exact and_congr_right' eq_comm
  | none =>
    rw [ofAttribute]
    split <;> simp [visit?]

theorem finding_ofAttribute (h : t.Names present) :
    (ofAttribute complex a (t.named? present a.name)).bind finding? = some (x, f) ↔
      a.IsMissing t present ∧ x = complex ∧ f = .missingAttribute a.name := by
  rw [Attribute.IsMissing, ← h.named?_eq_none]
  cases t.named? present a.name with
  | some y => simp [ofAttribute, finding?]
  | none =>
    have hneeded : (!a.isOptional && a.defaultValue.isNone) = true ↔
        ¬a.isOptional ∧ a.defaultValue = none := by
      simp
    rw [ofAttribute, and_iff_right rfl, ← hneeded]
    split
    · rename_i hif
      rw [and_iff_right hif, Option.bind_some, finding?, Option.some_inj, Prod.mk.injEq]
      exact and_congr eq_comm eq_comm
    · rename_i hif
      exact iff_of_false (by simp) fun hmissing => hif hmissing.1

theorem visits_ofAttributes : visits (ofAttributes t complex declared present) =
    declared.filterMap fun a => (ofAttribute complex a (t.named? present a.name)).bind visit? := by
  rw [ofAttributes, visits, List.filterMap_append, List.filterMap_filterMap, List.filterMap_map]
  simp [visit?]

theorem reports_ofAttributes : reports (ofAttributes t complex declared present) =
    (declared.filterMap fun a =>
      (ofAttribute complex a (t.named? present a.name)).bind finding?) ++
    (undeclared t declared present).map fun x =>
      (x, .undeclaredAttribute (t.attributeName x)) := by
  rw [ofAttributes, reports, List.filterMap_append, List.filterMap_filterMap, List.filterMap_map]
  congr 1
  exact congrFun List.filterMap_eq_map _

/-- The objects that no declared attribute finds are those of other names. -/
theorem mem_undeclared (h : t.Names present) : x ∈ undeclared t declared present ↔
    x ∈ present ∧ ∀ a ∈ declared, ¬t.IsNamed x a.name := by
  rw [undeclared, List.mem_filter, Bool.not_eq_true', ← Bool.not_eq_true,
    List.contains_iff_mem, List.mem_filterMap]
  refine and_congr_right fun hx => ?_
  simp only [h.named?_eq_some, hx, true_and, not_exists, not_and]

/-- The objects of declared names are visited, each with the demand of its declaration. -/
theorem mem_visits (h : t.Names present) :
    (x, d) ∈ visits (ofAttributes t complex declared present) ↔
      x ∈ present ∧ ∃ a ∈ declared, t.IsNamed x a.name ∧ d = .holderOf a.type a.isNullable := by
  rw [visits_ofAttributes, List.mem_filterMap]
  simp only [visit_ofAttribute h]
  constructor
  · rintro ⟨a, ha, ⟨hx, hname⟩, hd⟩
    exact ⟨hx, a, ha, hname, hd⟩
  · rintro ⟨hx, a, ha, hname, hd⟩
    exact ⟨a, ha, ⟨hx, hname⟩, hd⟩

/-- Each object is visited at most once. -/
theorem nodup_visits (h : t.Names present) (hd : (declared.map Attribute.name).Nodup) :
    ((visits (ofAttributes t complex declared present)).map (·.1)).Nodup := by
  rw [visits_ofAttributes, List.map_filterMap]
  refine nodup_filterMap_of_key hd fun a a' x hx hx' => ?_
  obtain ⟨⟨y, d⟩, hy, rfl⟩ := Option.map_eq_some_iff.1 hx
  obtain ⟨⟨z, d'⟩, hz, rfl⟩ := Option.map_eq_some_iff.1 hx'
  obtain ⟨⟨-, hname⟩, -⟩ := (visit_ofAttribute h).1 hy
  obtain ⟨⟨-, hname'⟩, -⟩ := (visit_ofAttribute h).1 hz
  exact hname.attributeName_eq.symm.trans hname'.attributeName_eq

/-- The declared attributes that are missing are reported for the complex object, and the objects of
other names for themselves. -/
theorem mem_reports (h : t.Names present) :
    (x, f) ∈ reports (ofAttributes t complex declared present) ↔
      (x = complex ∧ ∃ a ∈ declared, a.IsMissing t present ∧ f = .missingAttribute a.name) ∨
      (x ∈ present ∧ ∃ name, t.IsNamed x name ∧ (∀ a ∈ declared, a.name ≠ name) ∧
        f = .undeclaredAttribute name) := by
  rw [reports_ofAttributes, List.mem_append, List.mem_filterMap, List.mem_map]
  simp only [finding_ofAttribute h, mem_undeclared h]
  refine or_congr ⟨?_, ?_⟩ ⟨?_, ?_⟩
  · rintro ⟨a, ha, hmissing, hx, hf⟩
    exact ⟨hx, a, ha, hmissing, hf⟩
  · rintro ⟨hx, a, ha, hmissing, hf⟩
    exact ⟨a, ha, hmissing, hx, hf⟩
  · rintro ⟨y, ⟨hy, hnot⟩, heq⟩
    cases heq
    have hname := h.isNamed x hy
    exact ⟨hy, _, hname, fun a ha ha' => hnot a ha (ha' ▸ hname), rfl⟩
  · rintro ⟨hx, name, hname, hnot, rfl⟩
    have heq := hname.attributeName_eq
    exact ⟨x, ⟨hx, fun a ha ha' => hnot a ha (ha'.attributeName_eq.symm.trans heq)⟩, by rw [heq]⟩

/-- Nothing is reported twice. -/
theorem nodup_reports (h : t.Names present) (hd : (declared.map Attribute.name).Nodup) :
    (reports (ofAttributes t complex declared present)).Nodup := by
  rw [reports_ofAttributes]
  refine List.Nodup.append ?_ ?_ ?_
  · refine nodup_filterMap_of_key hd fun a a' p hp hp' => ?_
    obtain ⟨-, -, hf⟩ := (finding_ofAttribute (f := p.2) h).1 hp
    obtain ⟨-, -, hf'⟩ := (finding_ofAttribute (f := p.2) h).1 hp'
    exact Finding.missingAttribute.inj (hf.symm.trans hf')
  · have hnodup : (undeclared t declared present).Nodup := (List.Nodup.of_map _ h.nodup).filter _
    exact hnodup.map fun x y hxy => congrArg Prod.fst hxy
  · rintro p hp hp'
    obtain ⟨a, -, hp⟩ := List.mem_filterMap.1 hp
    obtain ⟨x, -, rfl⟩ := List.mem_map.1 hp'
    obtain ⟨-, -, hf⟩ := (finding_ofAttribute h).1 hp
    cases hf

end Deed

/-! ## What is recorded -/

namespace Walk

variable {α β : Type} {w : Walk Unit α} {f : α → Walk Unit β}

/-- The walk ends the same way and records the same, whatever was recorded before. -/
def Steady (w : Walk Unit α) : Prop :=
  ∃ (x : Except TreeFault α) (ds : List Diagnostic), ∀ p : Progress Unit,
    w.run.run p = (x, ⟨p.ledger.extend ds, ()⟩)

theorem steady_pure (a : α) : (pure a : Walk Unit α).Steady := ⟨.ok a, [], fun _ => rfl⟩

theorem Steady.bind (hw : w.Steady) (hf : ∀ a, (f a).Steady) : (w >>= f).Steady := by
  obtain ⟨x, ds, hrun⟩ := hw
  cases x with
  | error e => exact ⟨.error e, ds, fun p => by rw [run_bind, hrun]⟩
  | ok a =>
    obtain ⟨y, es, hrest⟩ := hf a
    refine ⟨y, ds ++ es, fun p => ?_⟩
    rw [run_bind, hrun, Ledger.extend_append]
    exact hrest _

theorem Steady.around {t : Tree} {id : ObjectId} {check : Walk Unit Unit} (h : check.Steady) :
    (Walk.around Hooks.none t id check).Steady := by
  obtain ⟨x, ds, hrun⟩ := h
  refine ⟨x.map fun _ => !ds.any (·.isError), ds, fun p => ?_⟩
  rw [run_around, hrun]
  cases x with
  | error e => rfl
  | ok _ =>
    dsimp only
    rw [Ledger.hasErrorsSince_extend]
    rfl

theorem respects_steady (v : Validator) (t : Tree) :
    v.Respects t (Walk.Both fun α (w : Walk Unit α) => w.Steady) where
  pure a := ⟨rfl, steady_pure a⟩
  ask x := ⟨rfl, x, [], fun _ => rfl⟩
  report id f := ⟨rfl, .ok (), [f.diagnostic v.mode t id], fun _ => rfl⟩
  bind := Both.bind Steady.bind

end Walk

namespace Validator

variable {v : Validator} {t : Tree} {levels : Nat} {x : ObjectId} {d : Demand}

/-- What a deed records by itself, with some levels left for a visit. -/
def recorded (v : Validator) (t : Tree) (levels : Nat) : Deed → List Diagnostic
  | .report id f => [f.diagnostic v.mode t id]
  | .visit id d => ((v.visit Hooks.none t levels id d).run.run ⟨{}, ()⟩).2.ledger.entries.toList

theorem steady_visit (v : Validator) (t : Tree) (levels : Nat) (x : ObjectId) (d : Demand) :
    (v.visit Hooks.none t levels x d).Steady := by
  have haround : ∀ id (w w' : Walk Unit Unit),
      Walk.Both (fun α (w : Walk Unit α) => w.Steady) Unit w w' →
      Walk.Both (fun α (w : Walk Unit α) => w.Steady) Bool (Walk.around Hooks.none t id w)
        (Walk.around Hooks.none t id w') := by
    rintro id w _ ⟨rfl, hw⟩
    exact ⟨rfl, hw.around⟩
  exact ((Walk.respects_steady v t).visit haround levels x d).2

/-- A visit that is due ends, and records what it records by itself. -/
theorem run_below (h : t.WellFormed) (hs : t.SetsAttributes) (hd : d.Fits t x) (ledger : Ledger) :
    (Check.below ⟨v, t, v.visit Hooks.none t levels⟩ x d).run.run ⟨ledger, ()⟩ =
      (.ok (), ⟨ledger.extend (v.recorded t levels (.visit x d)), ()⟩) := by
  obtain ⟨y, ds, hrun⟩ := v.steady_visit t levels x d
  obtain ⟨b, found, hends, -⟩ := concludes_visit (v := v) h hs levels hd ⟨{}, ()⟩
  obtain rfl : y = .ok b := congrArg Prod.fst ((hrun _).symm.trans hends)
  have hds : v.recorded t levels (.visit x d) = ds := by
    rw [recorded, hrun]
    exact Ledger.toList_extend {} ds
  rw [Check.below, Walk.run_bind, hrun, hds]
  rfl

/-- Deeds whose visits are due record what each of them records by itself, one after the other. -/
theorem run_perform (h : t.WellFormed) (hs : t.SetsAttributes) {deeds : List Deed}
    (hd : ∀ p ∈ Deed.visits deeds, p.2.Fits t p.1) (ledger : Ledger) :
    (Check.perform ⟨v, t, v.visit Hooks.none t levels⟩ deeds).run.run ⟨ledger, ()⟩ =
      (.ok (), ⟨ledger.extend (deeds.flatMap (v.recorded t levels)), ()⟩) := by
  induction deeds generalizing ledger with
  | nil => rfl
  | cons deed deeds ih =>
    rw [List.flatMap_cons, Ledger.extend_append]
    cases deed with
    | report id f => exact ih hd _
    | visit id d =>
      obtain ⟨hfirst, hrest⟩ := List.forall_mem_cons.1 hd
      rw [Check.perform, Walk.run_bind, run_below h hs hfirst]
      exact ih hrest _

end Validator

/-- What a check does about the attributes of a complex object that is held against a complex type.
It visits each present attribute of a declared name once, with the demand of its declaration. It
reports once each declared attribute that is absent, not optional and without a default value, and
once each present attribute whose name is not declared, and reports nothing else. Without hooks it
comes to an end, at every depth and whatever was recorded before, and records for each visit what
the visit records by itself, for each report the one diagnostic, and nothing else. -/
theorem Schema.deeds_of_attributes {namespaces : List NamespaceDecl} {limits : Limits} {s : Schema}
    (hs : Accepts namespaces limits s) {ops : List Operation} {t : Tree}
    (ht : Tree.performAll {} ops = t) {type : TypeId} {content : ComplexContent}
    (hcontent : (s.typeDef type).asComplex? = some content) {id : ObjectId}
    {typeName : Option FullName} {set children : Option ObjectId}
    (hid : t.get id = .ok (.complex typeName set children)) :
    let declared := content.attributes.getD []
    ∃ (present : List ObjectId) (deeds : List Deed), t.attributes id = .ok present ∧
      (∀ {σ : Type} (c : Check σ), c.schema = s → c.tree = t →
        c.attributes id content.attributes = c.perform deeds) ∧
      ((Deed.visits deeds).map (·.1)).Nodup ∧
      (∀ x d, (x, d) ∈ Deed.visits deeds ↔ x ∈ present ∧
        ∃ a ∈ declared, t.IsNamed x a.name ∧ d = .holderOf a.type a.isNullable) ∧
      (Deed.reports deeds).Nodup ∧
      (∀ x f, (x, f) ∈ Deed.reports deeds ↔
        (x = id ∧ ∃ a ∈ declared, a.IsMissing t present ∧ f = .missingAttribute a.name) ∨
        (x ∈ present ∧ ∃ name, t.IsNamed x name ∧ (∀ a ∈ declared, a.name ≠ name) ∧
          f = .undeclaredAttribute name)) ∧
      ∀ (v : Validator) (levels : Nat) (ledger : Ledger), v.schema = s →
        (Check.attributes ⟨v, t, v.visit Hooks.none t levels⟩ id content.attributes).run.run
            ⟨ledger, ()⟩ =
          (.ok (), ⟨ledger.extend (deeds.flatMap (v.recorded t levels)), ()⟩) := by
  intro declared
  have hsets := Tree.setsAttributes_of_built ht
  obtain ⟨present, hp⟩ := Tree.exists_attributes hsets (Tree.get_eq_ok.1 hid)
  have hn := Tree.names_of_built ht hp
  have hd : (declared.map Attribute.name).Nodup := (hs.sound.content type content hcontent).attributes
  have hdoes : ∀ {σ : Type} (c : Check σ), c.schema = s → c.tree = t →
      c.attributes id content.attributes = c.perform (Deed.ofAttributes t id declared present) := by
    rintro σ c rfl rfl
    exact Check.does_unit.1 (Check.does_attributes hn hp _)
  refine ⟨present, Deed.ofAttributes t id declared present, hp, hdoes, Deed.nodup_visits hn hd,
    fun x d => Deed.mem_visits hn, Deed.nodup_reports hn hd, fun x f => Deed.mem_reports hn,
    fun v levels ledger hv => ?_⟩
  rw [hdoes _ hv rfl]
  refine Validator.run_perform (Tree.wellFormed_of_built ht) hsets (fun p hvisit => ?_) ledger
  obtain ⟨-, a, -, ⟨slot, hx⟩, hd⟩ := (Deed.mem_visits hn).1 hvisit
  rw [hd]
  exact ⟨slot, Tree.slot_eq_ok.2 ⟨_, Tree.get_eq_ok.1 hx, rfl⟩⟩

/-- A badge with a title and a number, but without a name. -/
def unnamedBadge : List Operation := [
  .newComplex none, .newAttributeSet, .setAttributes ⟨0⟩ ⟨1⟩, .newAttribute "title",
  .addAttribute ⟨1⟩ ⟨2⟩, .newAttribute "number", .addAttribute ⟨1⟩ ⟨3⟩]

/-- The title is visited, and both the name and the number are reported, the one since it is absent
and the other since it is not declared. -/
theorem unnamedBadge_deeds : Accepts Validator.badges {} (schemaOf Validator.badges {}) ∧
    ∃ content, ((schemaOf Validator.badges {}).typeDef ⟨22⟩).asComplex? = some content ∧
      ∃ deeds, (∀ c : Check Unit, c.schema = schemaOf Validator.badges {} →
          c.tree = Tree.performAll {} unnamedBadge →
          c.attributes ⟨0⟩ content.attributes = c.perform deeds) ∧
        (∃ d, (⟨2⟩, d) ∈ Deed.visits deeds) ∧
        (⟨0⟩, .missingAttribute "name") ∈ Deed.reports deeds ∧
        (⟨3⟩, .undeclaredAttribute "number") ∈ Deed.reports deeds := by
  have hs : Accepts Validator.badges {} (schemaOf Validator.badges {}) :=
    accepts_schemaOf (by decide +kernel)
  have h : ((schemaOf Validator.badges {}).typeDef ⟨22⟩).asComplex?.any (fun c =>
      (c.attributes.getD []).map (fun a => (a.name, a.isOptional, a.defaultValue.isNone)) ==
        [("name", false, true), ("title", false, true)]) := by decide +kernel
  obtain ⟨content, hcontent, h⟩ := (Option.any_eq_true _ _).1 h
  obtain ⟨a, rest, hdeclared, ha, hrest⟩ := List.map_eq_cons_iff.1 (eq_of_beq h)
  obtain ⟨b, rest, rfl, hb, hrest⟩ := List.map_eq_cons_iff.1 hrest
  obtain rfl := List.map_eq_nil_iff.1 hrest
  simp only [Prod.mk.injEq, Option.isNone_iff_eq_none] at ha hb
  have hbuilt : Tree.performAll {} unnamedBadge = Tree.performAll {} unnamedBadge := rfl
  have hroot : (Tree.performAll {} unnamedBadge).get ⟨0⟩ = .ok (.complex none (some ⟨1⟩) none) := by
    rfl
  obtain ⟨present, deeds, hp, hdeeds, -, hvisits, -, hreports, -⟩ :=
    Schema.deeds_of_attributes hs hbuilt hcontent hroot
  have hpresent : (Tree.performAll {} unnamedBadge).attributes ⟨0⟩ = .ok [⟨2⟩, ⟨3⟩] := by rfl
  obtain rfl := Except.ok.inj (hp.symm.trans hpresent)
  rw [hdeclared] at hvisits hreports
  have htitle : (Tree.performAll {} unnamedBadge).IsNamed ⟨2⟩ "title" := ⟨_, rfl⟩
  have hnumber : (Tree.performAll {} unnamedBadge).IsNamed ⟨3⟩ "number" := ⟨_, rfl⟩
  have hname : ∀ x ∈ [⟨2⟩, ⟨3⟩], ¬(Tree.performAll {} unnamedBadge).IsNamed x "name" := by
    intro x hx hnamed
    have h := hnamed.attributeName_eq
    rcases List.mem_pair.1 hx with rfl | rfl
    · exact absurd (htitle.attributeName_eq.symm.trans h) (by decide)
    · exact absurd (hnumber.attributeName_eq.symm.trans h) (by decide)
  have hvisit : (⟨2⟩, .holderOf b.type b.isNullable) ∈ Deed.visits deeds :=
    (hvisits _ _).2 ⟨by simp, b, by simp, hb.1 ▸ htitle, rfl⟩
  have hmissing : a.IsMissing (Tree.performAll {} unnamedBadge) [⟨2⟩, ⟨3⟩] :=
    ⟨ha.1 ▸ hname, by simp [ha.2.1], ha.2.2⟩
  exact ⟨hs, content, hcontent, deeds, hdeeds, ⟨_, hvisit⟩,
    (hreports _ _).2 (Or.inl ⟨rfl, a, by simp, hmissing, by rw [ha.1]⟩),
    (hreports _ _).2 (Or.inr ⟨by simp, "number", hnumber, by simp [ha.1, hb.1], rfl⟩)⟩

end Schemata
