import Schemata.Proofs.Additions
import Schemata.Proofs.Extension
import Schemata.Proofs.RestrictedContent

/-!
# Restrictions that declare the same

When every declaration has its symbol, what a reference stands for is found without a change
(`Builder.Familiar`). So it is with the attribute that an entry of a block makes, unless a literal has
to be read for it.

A restriction of a type that declares its own content may then declare the same blocks again. Each
entry makes the attribute that it made before, and each item is held against the member that it made
before, at every level. So nothing is left out and nothing is recorded, and the content is that of
the base.
-/

namespace Schemata

/-- No literal is written in an entry of a block of attributes. -/
def AttributeItem.IsPlain : AttributeItem → Prop
  | .declared d => d.defaultValue = none
  | .reference _ => True
  | .delete _ => True

namespace Builder

variable {c : Catalog} {limits : Limits} {s : Schema} {b : Builder} {scope : Scope} {r : NameRef}

/-- A builder has all that names stand for in a schema. -/
structure Familiar (b : Builder) (c : Catalog) (s : Schema) : Prop where
  builtin : ∀ k : Kind, s.lookup (.system k.name) = some (.type k.typeId)
  symbol : ∀ o d, c.get? o = some d → ∃ id, b.symbol? o = some id ∧
    s.lookup d.fullName = some id ∧ b.schema.Declares d.fullName d.member id
  attr : ∀ id a, b.schema.attribute? id = some a → s.attribute? id = some a
  element : ∀ id e, b.schema.element? id = some e → s.element? id = some e

/-- A builder that has a symbol for every declaration knows what names stand for in the end. -/
theorem Becomes.familiar {e : Builder} (he : e.Becomes c s)
    (hall : ∀ o, (c.get? o).isSome → (b.symbol? o).isSome)
    (hb : b.Numbered c) (hl : b.Lasts e) :
    b.Familiar c s where
  builtin := he.builtin
  symbol o d hd := by
    obtain ⟨id, hid⟩ := Option.isSome_iff_exists.1 (hall o (by rw [hd]; rfl))
    obtain ⟨d', hd', hdeclares⟩ := hb.declares o id (mem_of_symbol? hid)
    obtain ⟨d'', hd'', hlookup⟩ := he.declared o id (hl.symbol o id hid)
    cases hd.symm.trans hd'
    cases hd.symm.trans hd''
    exact ⟨id, hid, hlookup, hdeclares⟩
  attr id a ha := (he.attribute? id).trans (hl.schema.attr id a ha)
  element id a ha := (he.element? id).trans (hl.schema.element id a ha)

namespace Familiar

variable (h : b.Familiar c s)

include h

theorem referent_cases {id : SymbolId} (hr : s.referent? c scope r = some id) :
    (∃ k : Kind, c.resolve scope r = .ok (.builtin k) ∧ id = .type k.typeId) ∨
      ∃ o d, c.resolve scope r = .ok (.declared o) ∧ c.get? o = some d ∧
        b.symbol? o = some id ∧ b.schema.Declares d.fullName d.member id := by
  unfold Schema.referent? Catalog.target? at hr
  split at hr
  · rename_i k hk
    cases (h.builtin k).symm.trans hr
    exact Or.inl ⟨k, hk, rfl⟩
  · rename_i o ho
    cases hd : c.get? o with
    | none =>
      rw [hd] at hr
      cases hr
    | some d =>
      rw [hd] at hr
      obtain ⟨i, hi, hlookup, hdeclares⟩ := h.symbol o d hd
      cases hlookup.symm.trans hr
      exact Or.inr ⟨o, d, ho, hd, hi, hdeclares⟩
  · cases hr

/-! ## Types -/

omit h in
theorem run_resolveType {o : DeclarationId} {t : TypeId} (ho : b.symbol? o = some (.type t)) :
    (resolveType c limits o).run b = .ok (t, b) := by
  have hclimb : climb (b.symbolAs "type" (·.asType?)) (typeLink c)
      (circleAt c fun d => d.asType?.bind (·.base?)) (c.declarations.size + 1) [] o =
        .ok (t, []) := by
    rw [climb, symbolAs, ho]
    rfl
  unfold resolveType
  change (Build.orAbort _ >>= fun p : TypeId × List DeclarationId =>
    p.2.foldlM (createType c limits) p.1).run b = _
  rw [hclimb]
  rfl

theorem run_typeOf {t : TypeId} (hr : s.referent? c scope r = some (.type t)) :
    (typeOf c limits scope r).run b = .ok (t, b) := by
  unfold typeOf
  rcases h.referent_cases hr with ⟨k, hk, hid⟩ | ⟨o, d, ho, hd, hid, hdeclares⟩
  · cases hid
    rw [hk]
    rfl
  · have htype : d.asType?.isSome := by
      obtain ⟨scope, m⟩ := d
      cases m with
      | type t => rfl
      | attr a => exact hdeclares.elim
      | element e => exact hdeclares.elim
    rw [ho]
    simp only [Build.orAbort, pure_bind, hd, htype, if_true]
    exact run_resolveType hid

theorem run_simpleTypeOf {t : TypeId} (hr : s.referent? c scope r = some (.type t))
    (ht : (b.schema.typeDef t).kind.isSimple) :
    (simpleTypeOf c limits scope r).run b = .ok (t, b) := by
  unfold simpleTypeOf
  rw [run_bind_of_ok (h.run_typeOf hr), run_schema_bind, ht]
  rfl

/-! ## Elements -/

omit h in
theorem run_resolveElement {o : DeclarationId} {id : ElementId}
    (ho : b.symbol? o = some (.element id)) :
    (resolveElement c limits o).run b = .ok (id, b) := by
  have hclimb : climb (b.symbolAs "element" fun s => s.asElement?.map some) (elementLink c)
      (circleAt c fun d => d.asElement?.bind (·.substitutes)) (c.declarations.size + 1) [] o =
        .ok (some id, []) := by
    rw [climb, symbolAs, ho]
    rfl
  have hget : (get : Build Builder).run b = .ok (b, b) := rfl
  unfold resolveElement
  rw [run_bind_of_ok hget]
  dsimp only
  rw [hclimb]
  rfl

theorem run_elementOf {id : ElementId} (hr : s.referent? c scope r = some (.element id)) :
    (elementOf c limits scope r).run b = .ok (id, b) := by
  unfold elementOf
  rcases h.referent_cases hr with ⟨k, -, hid⟩ | ⟨o, d, ho, hd, hid, hdeclares⟩
  · cases hid
  · have helement : d.asElement?.isSome := by
      obtain ⟨scope, m⟩ := d
      cases m with
      | type t => exact hdeclares.elim
      | attr a => exact hdeclares.elim
      | element e => rfl
    rw [ho]
    simp only [Build.orAbort, pure_bind, hd, Option.bind_some, helement, if_true]
    exact run_resolveElement hid

theorem run_elementReference {id : ElementId} {e : Element}
    (hr : s.referent? c scope r = some (.element id)) (he : s.element? id = some e)
    (span : Option Span) :
    (elementReference c limits scope r span).run b = .ok ((id, e.asReference id span), b) := by
  have hb : b.schema.element? id = some e := by
    rcases h.referent_cases hr with ⟨k, -, hid⟩ | ⟨o, d, -, -, -, hdeclares⟩
    · cases hid
    · cases hm : d.member <;> rw [hm] at hdeclares
      case element =>
        obtain ⟨e', he', -⟩ := hdeclares
        rw [he', ← h.element id e' he', he]
      all_goals exact hdeclares.elim
  unfold elementReference
  rw [run_bind_of_ok (h.run_elementOf hr), run_schema_bind, hb]
  rfl

/-! ## Attributes -/

theorem run_attributeOf {id : AttributeId} {a : Attribute}
    (hr : s.referent? c scope r = some (.attr id)) (ha : s.attribute? id = some a) :
    (attributeOf c limits scope r).run b = .ok ((id, a), b) := by
  rcases h.referent_cases hr with ⟨k, -, hid⟩ | ⟨o, d, ho, hd, hid, hdeclares⟩
  · cases hid
  · obtain ⟨scope', m⟩ := d
    cases m with
    | type t => exact hdeclares.elim
    | element e => exact hdeclares.elim
    | attr g =>
      obtain ⟨a', ha', -⟩ := hdeclares
      have hb : b.schema.attribute? id = some a := by
        rw [ha', ← h.attr id a' ha', ha]
      have hget : c.getAs? (·.asAttribute?) o = some (⟨scope', .attr g⟩, g) :=
        Catalog.getAs?_eq_some_iff.2 ⟨hd, rfl⟩
      have hresolve : (resolveAttribute c limits o ⟨scope', .attr g⟩ g).run b = .ok (id, b) := by
        have hknown : b.symbolAs "attribute" (·.asAttribute?) o = .ok (some id) := by
          rw [symbolAs, hid]
          rfl
        have hget : (get : Build Builder).run b = .ok (b, b) := rfl
        unfold resolveAttribute
        rw [run_bind_of_ok hget, hknown]
        rfl
      unfold attributeOf
      rw [ho]
      simp only [Build.orAbort, pure_bind, hget]
      rw [run_bind_of_ok hresolve, run_schema_bind, hb]
      rfl

/-- An entry without a literal makes its attribute. -/
theorem run_makeAttribute {item : AttributeItem} {a : Attribute}
    (ha : item.attribute? s c scope = some a) (hplain : item.IsPlain)
    (hsimple : (b.schema.typeDef a.type).kind.isSimple) :
    (makeAttribute c limits scope item).run b = .ok (some a, b) := by
  unfold makeAttribute
  cases item with
  | declared d =>
    simp only [AttributeItem.attribute?, Option.bind_eq_bind, Option.bind_eq_some_iff] at ha
    obtain ⟨t, ⟨id, hr, ht⟩, default, hdefault, ha⟩ := ha
    cases id <;> cases ht
    rw [show d.defaultValue = none from hplain] at hdefault
    cases hdefault
    cases ha
    dsimp only
    rw [run_bind_of_ok (h.run_simpleTypeOf hr hsimple), show d.defaultValue = none from hplain]
    rfl
  | reference u =>
    simp only [AttributeItem.attribute?, Option.bind_eq_bind, Option.bind_eq_some_iff] at ha
    obtain ⟨i, ⟨id, hr, hi⟩, g, hg, ha⟩ := ha
    cases id <;> cases hi
    cases ha
    exact run_bind_of_ok (h.run_attributeOf hr hg)
  | delete d => cases ha

end Familiar

end Builder

/-! ## Restrictions that declare the same -/

/-! ## What is found among itself -/

/-- Where names are distinct, nothing changes if everything is looked up under its name. -/
theorem filterMap_find?_reverse {α : Type} (name : α → String) {as : List α}
    (hn : (as.map name).Nodup) :
    (as.filterMap fun a => as.reverse.find? fun x => name x == name a) = as := by
  have hn' : (as.reverse.map name).Nodup := by
    rw [List.map_reverse]
    exact List.nodup_reverse.2 hn
  have hfound : ∀ a ∈ as, (as.reverse.find? fun x => name x == name a) = some a := fun a ha =>
    find?_name_of_mem name hn' (List.mem_reverse.2 ha)
  exact (List.filterMap_congr hfound).trans List.filterMap_some

section

variable {α : Type} {name : α → String} {a : α} {before after : List α} {mentioned : List String}
  (h : ∀ n ∈ mentioned, n ∈ before.map name)

include h

/-- A name is new where only those before it were mentioned. -/
theorem contains_name_eq_false (hn : ((before ++ a :: after).map name).Nodup) :
    mentioned.contains (name a) = false := by
  rw [Bool.eq_false_iff, Ne, List.contains_iff_mem]
  intro hmem
  rw [List.map_append, List.map_cons, List.nodup_append] at hn
  exact hn.2.2 _ (h _ hmem) _ List.mem_cons_self rfl

theorem mem_map_of_mentioned : ∀ n ∈ name a :: mentioned, n ∈ (before ++ [a]).map name := by
  rw [List.map_append, List.forall_mem_cons]
  exact ⟨List.mem_append_right _ List.mem_cons_self, fun n hn => List.mem_append_left _ (h n hn)⟩

end

theorem Attribute.kept_reverse {set : List Attribute} (hn : (set.map name).Nodup) :
    Attribute.kept set set.reverse = set :=
  filterMap_find?_reverse name hn

namespace Member

theorem atOrder_self (m : Member) : m.atOrder m.label.order = m := by cases m <;> rfl

/-- Siblings with distinct names, each of which stores its position. -/
structure Tidy (ms : List Member) : Prop where
  names : (ms.map name).Nodup
  orders : InOrder ms

theorem kept_reverse {ms : List Member} (h : Tidy ms) : Member.kept ms ms.reverse = ms := by
  rw [Member.kept, show (ms.filterMap fun m => find? ms.reverse m.name) = ms from
    filterMap_find?_reverse name h.names]
  refine List.ext_getElem (by simp) fun i hi hi' => ?_
  have hi₁ : i < (ms.map (·.label.order)).length := by simpa using hi'
  have horder : ms[i].label.order = i := by
    have h := List.getElem_of_eq h.orders hi₁
    simpa using h
  rw [List.getElem_mapIdx]
  exact (congrArg (fun n => ms[i].atOrder n) horder.symm).trans (atOrder_self ms[i])

/-- The bounds with which a member was made. -/
def HasBounds : Member → Occurs → Prop
  | .list _ _ bounds, occurs => bounds = occurs
  | .element _ _ isOptional, occurs => occurs.isSingle ∧ isOptional = (occurs.least == 0)
  | .set _ _ _ _, occurs => occurs = .once

end Member

theorem hasBounds_elementMember (label : MemberLabel) (e : Element) (occurs : Occurs) :
    (elementMember label e occurs).HasBounds occurs := by
  unfold elementMember
  split
  · exact ⟨‹_›, rfl⟩
  · rfl

theorem hasBounds_setMember (label : MemberLabel) (kind : SetKind) (ms : List Member)
    (span : Option Span) (occurs : Occurs) :
    (setMember label kind ms span occurs).HasBounds occurs := by
  unfold setMember
  split
  · assumption
  · rfl

theorem levels_setMember (label : MemberLabel) (kind : SetKind) (ms : List Member)
    (span : Option Span) (occurs : Occurs) :
    (setMember label kind ms span occurs).levels = ms :: Member.allLevels ms := by
  unfold setMember
  split <;> simp only [Member.levels]

/-- An element is held against itself. -/
theorem held_elementMember (label : MemberLabel) (e : Element) (occurs : Occurs) :
    ∃ l o, l.span = label.span ∧ ((elementMember label e occurs).held occurs).isOptional = o ∧
      ((elementMember label e occurs).held occurs).target = .element l e o := by
  unfold elementMember
  split
  · exact ⟨label, _, rfl, rfl, rfl⟩
  · exact ⟨{ label with order := 0 }, false, rfl, rfl, rfl⟩

/-- A set is held against itself. -/
theorem held_setMember (label : MemberLabel) (kind : SetKind) (ms : List Member)
    (span : Option Span) (occurs : Occurs) : ∃ l, l.span = label.span ∧
      ((setMember label kind ms span occurs).held occurs).target = .set l kind ms span := by
  unfold setMember
  split
  · exact ⟨label, rfl, rfl⟩
  · exact ⟨{ label with order := 0 }, rfl, rfl⟩

/-- An item makes a member with its name, its place and its bounds. -/
theorem ChildItem.label_of_member? {s : Schema} {c : Catalog} {scope : Scope} {item : ChildItem}
    {order : Nat} {m : Member} (hm : item.member? s c scope order = some m) :
    m.name = item.memberName order ∧ m.label.span = item.span ∧ ∃ occurs,
      item.bounds? = some occurs ∧ m.HasBounds occurs := by
  cases item with
  | element d =>
    simp only [ChildItem.member?, Option.bind_eq_bind, Option.bind_eq_some_iff] at hm
    obtain ⟨occurs, hbounds, t, -, hm⟩ := hm
    cases hm
    exact ⟨by rw [Member.name, label_elementMember], by rw [label_elementMember], occurs, hbounds,
      hasBounds_elementMember _ _ _⟩
  | reference u =>
    simp only [ChildItem.member?, Option.bind_eq_bind, Option.bind_eq_some_iff] at hm
    obtain ⟨occurs, hbounds, i, -, e, -, hm⟩ := hm
    cases hm
    exact ⟨by rw [Member.name, label_elementMember], by rw [label_elementMember], occurs, hbounds,
      hasBounds_elementMember _ _ _⟩
  | set name kind items span bounds =>
    simp only [ChildItem.member?, Option.bind_eq_bind, Option.bind_eq_some_iff] at hm
    obtain ⟨occurs, hbounds, ms, -, hm⟩ := hm
    cases hm
    exact ⟨by rw [Member.name, label_setMember], by rw [label_setMember]; rfl, occurs, hbounds,
      hasBounds_setMember _ _ _ _ _⟩
  | delete d =>
    rw [ChildItem.member?] at hm
    cases hm

theorem Member.wrap_held {m : Member} {occurs : Occurs} (h : m.HasBounds occurs) :
    (m.held occurs).wrap m m.label.span (m.held occurs).target = m := by
  cases m with
  | list label target bounds =>
    cases h
    rfl
  | _ => rfl

namespace Builder.Familiar

variable {c : Catalog} {limits : Limits} {s : Schema} {b : Builder} (h : b.Familiar c s)
  (scope : Scope)

/-! ## Attributes -/

theorem attributeFaults_self (s : Schema) (a : Attribute) : attributeFaults s a a = [] := by
  simp [attributeFaults, s.derives_refl]

include h

/-- Entries make what they made before. The induction is on those that are left. -/
theorem run_restrictEachAttribute {before after : List Attribute} {items : List AttributeItem}
    {r : RestrictedAttributes} (hn : ((before ++ after).map Attribute.name).Nodup)
    (hitems : items.mapM (·.attribute? s c scope) = some after)
    (hplain : ∀ item ∈ items, item.IsPlain)
    (hsimple : ∀ a ∈ after, (b.schema.typeDef a.type).kind.isSimple)
    (hr : ∀ n ∈ r.mentioned, n ∈ before.map Attribute.name) :
    (restrictEachAttribute c limits scope (before ++ after) items r).run b =
      .ok (⟨(after.map Attribute.name).reverse ++ r.mentioned, after.reverse ++ r.found⟩, b) := by
  induction items generalizing before after r with
  | nil =>
    cases hitems
    rfl
  | cons item rest ih =>
    rw [List.mapM_cons] at hitems
    simp only [Option.bind_eq_bind, Option.bind_eq_some_iff] at hitems
    obtain ⟨a, ha, after, hrest, hitems⟩ := hitems
    cases hitems
    obtain ⟨hitem, hplain⟩ := List.forall_mem_cons.1 hplain
    obtain ⟨hsimple₁, hsimple⟩ := List.forall_mem_cons.1 hsimple
    have hfound : Attribute.find? (before ++ a :: after) a.name = some a :=
      find?_name_of_mem Attribute.name hn (List.mem_append_right _ List.mem_cons_self)
    have hfresh := contains_name_eq_false hr hn
    have hassoc := List.append_cons before a after
    have hnext := ih (r := ⟨a.name :: r.mentioned, a :: r.found⟩) (hassoc ▸ hn) hrest hplain hsimple
      (mem_map_of_mentioned hr)
    rw [← hassoc] at hnext
    unfold restrictEachAttribute
    split
    · cases ha
    · rw [run_bind_of_ok (h.run_makeAttribute ha hitem hsimple₁)]
      simp only [hfresh, hfound, Bool.false_eq_true, if_false]
      rw [run_schema_bind, attributeFaults_self]
      refine (run_bind_of_ok (a := ()) rfl).trans (hnext.trans ?_)
      simp

theorem run_restrictAttributes {set : List Attribute} {block : AttributeBlock}
    (hn : (set.map Attribute.name).Nodup)
    (hitems : block.items.mapM (·.attribute? s c scope) = some set)
    (hplain : ∀ item ∈ block.items, item.IsPlain)
    (hsimple : ∀ a ∈ set, (b.schema.typeDef a.type).kind.isSimple) :
    (restrictAttributes c limits scope set block).run b = .ok (set, b) := by
  have heach : (restrictEachAttribute c limits scope ([] ++ set) block.items {}).run b = _ :=
    h.run_restrictEachAttribute scope hn hitems hplain hsimple nofun
  simp only [List.nil_append, List.append_nil] at heach
  have hleft : leftOutAttributes set ⟨(set.map Attribute.name).reverse, set.reverse⟩ = [] := by
    refine List.eq_nil_iff_forall_not_mem.2 fun a ha => ?_
    obtain ⟨ha, -, hnot, -⟩ := mem_leftOutAttributes.1 ha
    exact hnot (List.mem_reverse.2 (List.mem_map_of_mem ha))
  unfold restrictAttributes
  rw [run_bind_of_ok heach, hleft]
  refine (run_bind_of_ok (a := ()) rfl).trans ?_
  exact congrArg (fun x => Except.ok (x, b)) (Attribute.kept_reverse hn)

/-! ## Members -/

omit h in
theorem run_occursOf {item : ChildItem} {occurs : Occurs} (hb : item.bounds? = some occurs) :
    (occursOf item).run b = .ok (some occurs, b) := by
  unfold occursOf
  cases hd : item.occurs with
  | none =>
    rw [ChildItem.bounds?, hd] at hb
    cases hb
    rfl
  | some d =>
    rw [ChildItem.bounds?, hd] at hb
    dsimp only at hb
    split at hb
    · rename_i hvalid
      cases hb
      simp only [hvalid, if_true]
      rfl
    · cases hb

omit h in
theorem run_restrictOccurs {item : ChildItem} {m : Member} {occurs : Occurs}
    (hb : item.bounds? = some occurs) (hm : m.HasBounds occurs) :
    (restrictOccurs m item).run b = .ok (some (m.held occurs), b) := by
  unfold restrictOccurs
  rw [run_bind_of_ok (run_occursOf hb)]
  cases m with
  | list label target bounds =>
    cases hm
    simp [Build.require, Member.held]
    rfl
  | element label e isOptional =>
    obtain ⟨hsingle, rfl⟩ := hm
    cases hleast : occurs.least == 0 <;>
      simp [Build.require, Member.held, hsingle, hleast, Member.isOptional] <;> rfl
  | set label kind ms span =>
    cases hm
    rfl

omit h in
theorem run_finishRestriction (kind : SetKind) {ms : List Member} (h : Member.Tidy ms)
    (span : Option Span) :
    (finishRestriction kind ms span ⟨(ms.map Member.name).reverse, ms.reverse⟩).run b =
      .ok (ms, b) := by
  have hleft : leftOutMembers kind ms ⟨(ms.map Member.name).reverse, ms.reverse⟩ = [] := by
    refine List.filter_eq_nil_iff.2 fun m hm => ?_
    have hspoken : m.name ∈ (ms.map Member.name).reverse :=
      List.mem_reverse.2 (List.mem_map_of_mem hm)
    simp [hspoken]
  have hkept := Member.kept_reverse h
  have hfound : (ms.filterMap fun m => Member.find? ms.reverse m.name) = ms :=
    filterMap_find?_reverse Member.name h.names
  have hempty : (!(kind = .choice && ms.isEmpty && !ms.isEmpty)) = true := by
    cases ms.isEmpty <;> simp
  unfold finishRestriction
  rw [hleft]
  refine (run_bind_of_ok (a := ()) rfl).trans ?_
  rw [Member.kept, hfound] at hkept
  simp only [hfound, hempty, hkept]
  rfl

theorem run_restrictInnerElement {d : ElementDecl} {t : TypeId}
    (hr : s.referent? c scope d.type = some (.type t)) (span : Option Span) :
    (restrictInnerElement c limits scope (d.inner scope.uri t span) d span).run b =
      .ok (d.inner scope.uri t span, b) := by
  have hderives : b.schema.derives t (d.inner scope.uri t span).type :=
    b.schema.derives_refl t
  have hnullable : (!d.isNullable || (d.inner scope.uri t span).isNullable) = true := by
    cases hd : d.isNullable <;> simp [ElementDecl.inner, hd]
  unfold restrictInnerElement
  rw [run_bind_of_ok (h.run_typeOf hr), run_schema_bind, hderives, hnullable]
  rfl

theorem run_restrictReference {r : NameRef} {id : ElementId} {e : Element}
    (hr : s.referent? c scope r = some (.element id)) (he : s.element? id = some e)
    (span : Option Span) :
    (restrictReference c limits scope id r span).run b = .ok (e.asReference id span, b) := by
  unfold restrictReference
  rw [run_bind_of_ok (h.run_elementReference hr he span)]
  dsimp only
  rw [run_schema_bind, b.schema.substitutes_refl]
  rfl

omit h

/-- An element is held against itself. -/
theorem run_restrictElement (h : b.Familiar c s) {d : ElementDecl} {t : TypeId}
    (hr : s.referent? c scope d.type = some (.type t)) {label : MemberLabel}
    (hl : label.span = (ChildItem.element d).span) (occurs : Occurs) :
    let m := elementMember label (d.inner scope.uri t (ChildItem.element d).span) occurs
    (restrictSingle c limits scope (m.held occurs).target (m.held occurs).isOptional
      (.element d)).run b = .ok (some (m.held occurs).target, b) := by
  intro m
  obtain ⟨⟨name, order, span⟩, o, hspan, ho, htarget⟩ := held_elementMember label
    (d.inner scope.uri t (ChildItem.element d).span) occurs
  obtain rfl : span = (ChildItem.element d).span := hspan.trans hl
  unfold restrictSingle
  rw [htarget, ho]
  simp only [ElementDecl.inner, Option.isSome_none, Bool.false_eq_true, if_false]
  rw [← ElementDecl.inner, run_bind_of_ok (h.run_restrictInnerElement scope hr _)]
  rfl

/-- What stands for a global element is held against itself. -/
theorem run_restrictUse (h : b.Familiar c s) {u : ElementUse} {id : ElementId} {e : Element}
    (hr : s.referent? c scope u.reference = some (.element id)) (he : s.element? id = some e)
    {label : MemberLabel} (hl : label.span = (ChildItem.reference u).span) (occurs : Occurs) :
    let m := elementMember label (e.asReference id (ChildItem.reference u).span) occurs
    (restrictSingle c limits scope (m.held occurs).target (m.held occurs).isOptional
      (.reference u)).run b = .ok (some (m.held occurs).target, b) := by
  intro m
  obtain ⟨⟨name, order, span⟩, o, hspan, ho, htarget⟩ := held_elementMember label
    (e.asReference id (ChildItem.reference u).span) occurs
  obtain rfl : span = (ChildItem.reference u).span := hspan.trans hl
  unfold restrictSingle
  rw [htarget, ho]
  dsimp only [Element.asReference]
  rw [run_bind_of_ok (h.run_restrictReference scope hr he _)]
  rfl

mutual

/-- An item is held against what it made. -/
theorem run_restrictSingle (h : b.Familiar c s) {item : ChildItem} {order : Nat} {m : Member}
    (hm : item.member? s c scope order = some m)
    (htidy : ∀ level ∈ m.levels, Member.Tidy level) {occurs : Occurs}
    (hb : item.bounds? = some occurs) :
    (restrictSingle c limits scope (m.held occurs).target (m.held occurs).isOptional item).run b =
      .ok (some (m.held occurs).target, b) := by
  cases item with
  | element d =>
    simp only [ChildItem.member?, hb, Option.bind_eq_bind, Option.bind_eq_some_iff] at hm
    obtain ⟨_, ⟨⟩, t, ⟨id, hr, ht⟩, hm⟩ := hm
    cases id <;> cases ht
    cases hm
    exact run_restrictElement scope h hr rfl occurs
  | reference u =>
    simp only [ChildItem.member?, hb, Option.bind_eq_bind, Option.bind_eq_some_iff] at hm
    obtain ⟨_, ⟨⟩, i, ⟨id, hr, hi⟩, e, he, hm⟩ := hm
    cases id <;> cases hi
    cases hm
    exact run_restrictUse scope h hr he rfl occurs
  | set name kind items span bounds =>
    simp only [ChildItem.member?, hb, Option.bind_eq_bind, Option.bind_eq_some_iff] at hm
    obtain ⟨_, ⟨⟩, ms, hms, hm⟩ := hm
    cases hm
    obtain ⟨⟨label, position, labelSpan⟩, hl, htarget⟩ := held_setMember
      ⟨(ChildItem.set name kind items span bounds).memberName order, order, span⟩ kind ms span occurs
    cases hl
    rw [levels_setMember] at htidy
    obtain ⟨htidy, hlevels⟩ := List.forall_mem_cons.1 htidy
    have heach : (restrictEachMember c limits scope kind ([] ++ ms) ([] : List Member).length items
        {}).run b = _ := run_restrictEachMember h kind htidy.names hlevels hms nofun
    simp only [List.nil_append, List.append_nil, List.length_nil] at heach
    unfold restrictSingle
    rw [htarget]
    simp only [if_true]
    rw [run_bind_of_ok heach, run_bind_of_ok (run_finishRestriction kind htidy _), Option.or_self]
    rfl
  | delete d =>
    rw [ChildItem.member?] at hm
    cases hm

theorem run_restrictEachMember (h : b.Familiar c s) (kind : SetKind) {before after : List Member}
    {items : List ChildItem} {r : RestrictedMembers}
    (hn : ((before ++ after).map Member.name).Nodup)
    (hlevels : ∀ level ∈ Member.allLevels after, Member.Tidy level)
    (hitems : ChildItem.members? s c scope before.length items = some after)
    (hr : ∀ n ∈ r.mentioned, n ∈ before.map Member.name) :
    (restrictEachMember c limits scope kind (before ++ after) before.length items r).run b =
      .ok (⟨(after.map Member.name).reverse ++ r.mentioned, after.reverse ++ r.found⟩, b) := by
  cases items with
  | nil =>
    rw [ChildItem.members?] at hitems
    cases hitems
    unfold restrictEachMember
    rfl
  | cons item rest =>
    simp only [ChildItem.members?, Option.bind_eq_bind, Option.bind_eq_some_iff] at hitems
    obtain ⟨m, hm, after, hrest, hitems⟩ := hitems
    cases hitems
    obtain ⟨hlevel, hlevels⟩ := List.forall_mem_append.1 hlevels
    obtain ⟨hname, hspan, occurs, hbounds, hoccurs⟩ := ChildItem.label_of_member? hm
    have hfound : Member.find? (before ++ m :: after) m.name = some m :=
      find?_name_of_mem Member.name hn (List.mem_append_right _ List.mem_cons_self)
    have hfresh := contains_name_eq_false hr hn
    rw [hname] at hfound hfresh
    have hassoc := List.append_cons before m after
    have hrest' : ChildItem.members? s c scope (before ++ [m]).length rest = some after := by
      rwa [List.length_append]
    have hnext := run_restrictEachMember h kind (r := ⟨m.name :: r.mentioned, m :: r.found⟩)
      (hassoc ▸ hn) hlevels hrest' (mem_map_of_mentioned hr)
    rw [← hassoc, List.length_append, List.length_singleton] at hnext
    have hwrap := Member.wrap_held hoccurs
    rw [hspan] at hwrap
    unfold restrictEachMember
    dsimp only
    split
    · rw [ChildItem.member?] at hm
      cases hm
    · simp only [hfresh, hfound, Bool.false_eq_true, if_false]
      rw [run_bind_of_ok (run_restrictOccurs hbounds hoccurs)]
      dsimp only
      rw [run_bind_of_ok (run_restrictSingle h hm hlevel hbounds)]
      change (restrictEachMember c limits scope kind (before ++ m :: after) (before.length + 1) rest
        ⟨item.memberName before.length :: r.mentioned,
          (m.held occurs).wrap m item.span (m.held occurs).target :: r.found⟩).run b = _
      rw [hwrap, ← hname]
      refine hnext.trans ?_
      simp

end

/-! ## Content -/

/-- Children that are declared again are those that they were. -/
theorem run_restrictChildren (h : b.Familiar c s) {d : ChildrenDecl} {x : Children}
    (hx : Children.Declared s c scope (some d) (some x))
    (hsimple : ∀ t, x = .simple t → (b.schema.typeDef t).kind.isSimple)
    (htidy : ∀ set, x = .set set → ∀ level ∈ set.members :: Member.allLevels set.members,
      Member.Tidy level) :
    (restrictChildren c limits scope (some x) d).run b = .ok (some x, b) := by
  unfold restrictChildren
  cases hx with
  | simple named kind =>
    rename_i t
    dsimp only
    rw [run_bind_of_ok (h.run_simpleTypeOf named (hsimple t rfl)), run_schema_bind,
      b.schema.derives_refl]
    rfl
  | set made =>
    rename_i set ms
    obtain ⟨htidy, hlevels⟩ := List.forall_mem_cons.1 (htidy _ rfl)
    have heach : (restrictEachMember c limits scope set.kind ([] ++ ms) ([] : List Member).length
        set.items {}).run b = _ :=
      h.run_restrictEachMember scope set.kind htidy.names hlevels made nofun
    simp only [List.nil_append, List.append_nil, List.length_nil] at heach
    dsimp only
    rw [if_pos rfl, run_bind_of_ok heach, run_bind_of_ok (run_finishRestriction _ htidy _),
      Option.or_self]
    rfl

/-- What a type declares itself is also what it has as a restriction of itself. -/
theorem run_restrictionContent (h : b.Familiar c s) {x : ComplexContent}
    {attributes : Option AttributeBlock} {children : Option ChildrenDecl}
    (hattributes : Attribute.Extension s c scope none attributes x.attributes)
    (hchildren : Children.Declared s c scope children x.children)
    (hplain : ∀ block, attributes = some block → ∀ item ∈ block.items, item.IsPlain)
    (hx : x.Tidy)
    (hsimple : ∀ a ∈ x.attributes.getD [], (b.schema.typeDef a.type).kind.isSimple)
    (hvalue : ∀ t, x.children = some (.simple t) → (b.schema.typeDef t).kind.isSimple) :
    (restrictionContent c limits scope x none attributes children).run b = .ok (x, b) := by
  obtain ⟨as, cs⟩ := x
  unfold restrictionContent
  extract_lets last rest
  have hlast : (last as).run b = .ok (⟨as, cs⟩, b) := by
    unfold last
    cases children with
    | none => rfl
    | some d =>
      obtain ⟨y, rfl⟩ : ∃ y, cs = some y := by cases hchildren <;> exact ⟨_, rfl⟩
      have htidy : ∀ set, y = .set set → ∀ level ∈ set.members :: Member.allLevels set.members,
          Member.Tidy level := by
        rintro set rfl level hlevel
        exact ⟨hx.members level hlevel, hx.orders level hlevel⟩
      have hrun : (restrictChildren c limits scope (some y) d).run b = .ok (some y, b) :=
        h.run_restrictChildren scope hchildren (fun t ht => hvalue t (congrArg some ht)) htidy
      exact run_bind_of_ok hrun
  change (rest ()).run b = _
  unfold rest
  cases attributes with
  | none => exact hlast
  | some block =>
    obtain ⟨set, rfl⟩ : ∃ set, as = some set :=
      Option.isSome_iff_exists.1 (hattributes.isSome.trans (Bool.or_true _))
    obtain ⟨new, hnew, hset⟩ := hattributes.appended
    obtain rfl : set = new := hset
    have hrun : (restrictAttributes c limits scope set block).run b = .ok (set, b) :=
      h.run_restrictAttributes scope hx.attributes hnew (hplain block rfl) hsimple
    exact (run_bind_of_ok (run_bind_of_ok (f := fun set => Pure.pure (some set)) hrun)).trans hlast

end Builder.Familiar

end Schemata
