import Schemata.Proofs.Additions
import Schemata.Proofs.Integrity

/-!
# Every type in its turn

A type has a header first and its content later, made on the content of the type above it. Contents
are made in the last pass of a compilation, and before that wherever a default value is read; so the
order is not that of the declarations. In any course of a compilation, step by step, each declared
type gets its content in one step and no other (`Builder.Course.exists_turn`), after every declared
type above it (`Builder.Course.mem_finished_of_base`). Before its turn it has the empty content of
its kind, and from its turn on it stays as it is in the finished schema. So what its declaration
makes is made of the finished content of its base (`Builder.Turn`, `builtOnce_of_accepts`).
-/

namespace Schemata

open Relation

/-- What a body makes in one step of the type above its own, by a run from one builder to
another. -/
inductive TypeBody.Makes (c : Catalog) (limits : Limits) (scope : Scope) (up : TypeId)
    (base : TypeDef) (b₀ b : Builder) : TypeBody → Content → Prop
  | list {item : NameRef} {t : TypeId}
    (run : (simpleTypeOf c limits scope item).run b₀ = .ok (t, b)) :
    Makes c limits scope up base b₀ b (.list item) (.simple { item := some t })
  | own {attributes : Option AttributeBlock} {children : Option ChildrenDecl} {x : ComplexContent}
    (run : (ownContent c limits scope attributes children).run b₀ = .ok (x, b)) :
    Makes c limits scope up base b₀ b (.complex attributes children) (.complex x)
  | extension {r : NameRef} {attributes : Option AttributeBlock} {children : Option ChildrenDecl}
    {x : ComplexContent}
    (run : (extensionContent c limits scope (base.extended up) attributes children).run b₀ =
      .ok (x, b)) :
    Makes c limits scope up base b₀ b (.extension r attributes children) (.complex x)
  | restriction {r : NameRef} {facets : Option FacetBlock} {attributes : Option AttributeBlock}
    {children : Option ChildrenDecl} {x : ComplexContent}
    (isComplex : base.kind.isSimple = false)
    (run : (restrictionContent c limits scope (base.extended up) facets attributes
      children).run b₀ = .ok (x, b)) :
    Makes c limits scope up base b₀ b (.restriction r facets attributes children) (.complex x)
  | simpleRestriction {r : NameRef} {facets : Option FacetBlock}
    {attributes : Option AttributeBlock} {children : Option ChildrenDecl} {x : SimpleContent}
    (isSimple : base.kind.isSimple)
    (run : (restrictSimple c limits scope base.kind (base.asSimple?.getD {}) facets attributes
      children).run b₀ = .ok (x, b)) :
    Makes c limits scope up base b₀ b (.restriction r facets attributes children) (.simple x)

namespace TypeDecl

variable {c : Catalog} {limits : Limits} {scope : Scope} {decl : TypeDecl} {up : TypeId}
  {base : TypeDef} {b b₀ : Builder}

/-- A declaration that makes a simple type is that of a list or restricts a simple type. -/
theorem makes_of_simpleContent {x : SimpleContent} (hs : (decl.header base).1.isSimple)
    (run : (simpleContent c limits scope (decl.header base).1 (base.asSimple?.getD {})
      decl.body).run b₀ = .ok (x, b)) :
    decl.body.Makes c limits scope up base b₀ b (.simple x) := by
  unfold header at hs run
  unfold simpleContent at run
  split at run
  · rename_i item hbody
    obtain ⟨⟨t, b₁⟩, hrun, hlast⟩ := bind_eq_ok run
    cases hlast
    rw [hbody]
    exact .list hrun
  · rename_i r facets attributes children hbody
    rw [hbody] at hs run ⊢
    exact .simpleRestriction hs run
  · rename_i attributes children hbody
    rw [hbody] at hs
    cases hs
  · rename_i r attributes children hbody
    rw [hbody] at hs
    cases hs

/-- A declaration that makes a complex type declares it, extends a type or restricts a complex
one. -/
theorem makes_of_complexContent {x : ComplexContent}
    (hs : (decl.header (b₀.schema.typeDef up)).1.isSimple = false)
    (run : (complexContent c limits scope up decl.body).run b₀ = .ok (x, b)) :
    decl.body.Makes c limits scope up (b₀.schema.typeDef up) b₀ b (.complex x) := by
  rw [complexContent, Builder.run_schema_bind] at run
  unfold header at hs
  cases hbody : decl.body with
  | list item =>
    rw [hbody] at hs
    cases hs
  | complex attributes children =>
    rw [hbody] at run
    exact .own run
  | extension r attributes children =>
    rw [hbody] at run
    exact .extension run
  | restriction r facets attributes children =>
    rw [hbody] at hs run
    exact .restriction hs run

end TypeDecl

namespace Builder

variable {c : Catalog} {limits : Limits} {namespaces : List NamespaceDecl} {b b' b₀ e : Builder}
  {id up : TypeId}

/-! ## Turns -/

/-- A type of a finished builder is about to get its content: it has none yet, its base has its own,
and the content is made of that. -/
structure Turn (c : Catalog) (limits : Limits) (e b : Builder) (id : TypeId) (x : Content)
    (d : Declaration) (decl : TypeDecl) (up : TypeId) : Prop where
  unfinished : id ∉ b.finished
  has : b.schema.Has id
  hasBase : b.schema.Has up
  finished : b.isFinished up
  declared : ∃ o, e.origin? id = some o ∧ c.getAs? (·.asType?) o = some (d, decl)
  name : (e.schema.typeDef id).fullName = d.fullName
  base : (e.schema.typeDef id).base = some up
  made : ∃ b₀ : Builder, b₀.Lasts b ∧ b₀.schema.typeDef up = e.schema.typeDef up ∧
    decl.body.Makes c limits d.scope up (e.schema.typeDef up) b₀ b x

/-- A finished type stays finished. -/
theorem Lasts.isFinished (hl : b.Lasts b') (hb : b.Inv c) (hid : b.schema.Has id)
    (hf : b.isFinished id) : b'.isFinished id := by
  rw [isFinished_iff] at hf ⊢
  exact hf.imp (fun ho => origin_of_builtin (hb.builtin_of_origin hid ho)) fun h =>
    (hl.finished id h).1

theorem Regular.mem_finished (h : b.Regular) (hdeclared : Kind.all.length ≤ id.index)
    (hid : b.schema.Has id) (hf : b.isFinished id) : id ∈ b.finished := by
  refine (isFinished_iff.1 hf).resolve_left fun ho => ?_
  have hsize := h.size
  rw [Schema.Has] at hid
  rw [origin?, if_neg (Nat.not_lt.2 hdeclared), Array.getElem?_eq_none_iff] at ho
  omega

/-- A run that makes content for a type, from the base and the kind that the type has in the end,
leads to the turn of the type. -/
theorem Completes.exists_turn_of_makes (he : e.Completes namespaces limits) {o : DeclarationId}
    {d : Declaration} {decl : TypeDecl} {x : Content} (origin : b.origin? id = some o)
    (declared : (Catalog.ofNamespaces namespaces).1.getAs? (·.asType?) o = some (d, decl))
    (unfinished : id ∉ b.finished) (inv : b₀.Inv (Catalog.ofNamespaces namespaces).1)
    (has : b₀.schema.Has id)
    (base : ∀ up, (b₀.schema.typeDef id).base = some up → b₀.isFinished up) (hrun : b₀.Lasts b)
    (hl : b.Lasts e)
    (makes : ∀ up, (b₀.schema.typeDef id).base = some up →
      b₀.schema.typeDef up = e.schema.typeDef up →
      (b.schema.typeDef id).kind = (decl.header (e.schema.typeDef up)).1 →
      decl.body.Makes (Catalog.ofNamespaces namespaces).1 limits d.scope up
        (e.schema.typeDef up) b₀ b x) :
    ∃ up, Turn (Catalog.ofNamespaces namespaces).1 limits e b id x d decl up := by
  have horigin := hl.origin id o origin
  obtain ⟨d', decl', up, hsource⟩ := he.sourced.types o id ((he.regular.origin o id).2 horigin)
  cases declared.symm.trans hsource.declared
  obtain ⟨y, hheader⟩ := hsource.header
  have hbase : (e.schema.typeDef id).base = some up := by rw [hheader]; rfl
  have hbase₀ : (b₀.schema.typeDef id).base = some up := by
    rw [← (hrun.trans hl).schema.base id has, hbase]
  have hup := inv.has_base hbase₀
  have hf := base up hbase₀
  -- the base had its content when the run began, and has kept it
  have hstays : b₀.schema.typeDef up = e.schema.typeDef up :=
    ((hrun.trans hl).typeDef_eq inv he.inv hup hf).symm
  have hkind : (b.schema.typeDef id).kind = (decl.header (e.schema.typeDef up)).1 := by
    rw [← hl.schema.kind id (hrun.schema.has has), hheader]
    rfl
  exact ⟨up,
    { unfinished, base := hbase
      has := hrun.schema.has has
      hasBase := hrun.schema.has hup
      finished := hrun.isFinished inv hup hf
      declared := ⟨o, horigin, declared⟩
      name := by rw [hheader]; rfl
      made := ⟨b₀, hrun, hstays, makes up hbase₀ hstays hkind⟩ }⟩

/-- A step that gives a type its content is its turn; no other step gives a type its content. -/
theorem Step.finished_cases (he : e.Completes namespaces limits)
    (h : b.Step (Catalog.ofNamespaces namespaces).1 limits b') (hl : b'.Lasts e) :
    b'.finished = b.finished ∨ ∃ id x d decl up, b' = b.finish id x ∧
      Turn (Catalog.ofNamespaces namespaces).1 limits e b id x d decl up := by
  have hlast := h.lasts.trans hl
  cases h with
  | type step =>
    cases step with
    | record => exact Or.inl rfl
    | openType => exact Or.inl rfl
    | addType => exact Or.inl rfl
    | @finish id o d decl x b₀ origin declared unfinished kind inv placed base run places has =>
      have hitem := placesItem_simpleBase placed id
      obtain ⟨hs, -⟩ := (Takes.simpleContent (k := .all) d.scope _ decl.body hitem).apply
        placed inv run
      obtain ⟨up, hturn⟩ := he.exists_turn_of_makes (x := .simple x) origin declared unfinished inv
        has base hs.lasts hlast fun up hbase₀ hstays hheader => by
          have hkind := hs.lasts.schema.kind id has
          rw [← hkind, hheader, simpleBase, hbase₀, Option.bind_some, hstays] at run
          exact TypeDecl.makes_of_simpleContent (hheader ▸ kind) run
      exact Or.inr ⟨id, .simple x, d, decl, up, rfl, hturn⟩
  | openAttribute => exact Or.inl rfl
  | addAttribute => exact Or.inl rfl
  | addElement => exact Or.inl rfl
  | @finish id o d decl x b₀ origin declared unfinished kind inv placed base run places has =>
    obtain ⟨hs, -⟩ := (Takes.complexContent d.scope (placed.has_complexBase inv id) decl.body).apply
      placed inv run
    obtain ⟨up, hturn⟩ := he.exists_turn_of_makes (x := .complex x) origin declared unfinished inv
      has base hs.lasts hlast fun up hbase₀ hstays hheader => by
        rw [hbase₀, Option.getD_some] at run
        rw [← hstays] at hheader ⊢
        exact TypeDecl.makes_of_complexContent (hheader ▸ kind) run
    exact Or.inr ⟨id, .complex x, d, decl, up, rfl, hturn⟩

/-! ## Courses -/

/-- The course of a compilation: its builders from the first to the last, each one step after the
one before. -/
structure Course (b : Builder) (namespaces : List NamespaceDecl) (limits : Limits) (length : Nat)
    (moments : Nat → Builder) : Prop where
  first : moments 0 = start namespaces
  step : ∀ i < length,
    (moments i).Step (Catalog.ofNamespaces namespaces).1 limits (moments (i + 1))
  last : moments length = b

/-- A step of a course gives a type its content. -/
def IsTurn (length : Nat) (moments : Nat → Builder) (id : TypeId) (i : Nat) : Prop :=
  i < length ∧ ∃ x, moments (i + 1) = (moments i).finish id x

/-- What is related by steps is related by a course of them. -/
theorem exists_moments (h : Extent.all.Steps c limits b b') : ∃ (length : Nat)
    (moments : Nat → Builder), moments 0 = b ∧
      (∀ i < length, (moments i).Step c limits (moments (i + 1))) ∧ moments length = b' := by
  induction h with
  | refl => exact ⟨0, fun _ => b, rfl, nofun, rfl⟩
  | @tail b₁ b₂ _ step ih =>
    obtain ⟨length, moments, hfirst, hstep, hlast⟩ := ih
    refine ⟨length + 1, Function.update moments (length + 1) b₂, ?_, fun i hi => ?_, ?_⟩
    · rw [Function.update_of_ne (Nat.succ_ne_zero length).symm, hfirst]
    · rw [Function.update_of_ne (Nat.ne_of_lt hi)]
      rcases Nat.lt_succ_iff_lt_or_eq.1 hi with hi | rfl
      · rw [Function.update_of_ne (by omega)]
        exact hstep i hi
      · rw [Function.update_self, hlast]
        exact step
    · rw [Function.update_self]

theorem Completes.exists_course (h : b.Completes namespaces limits) :
    ∃ length moments, b.Course namespaces limits length moments := by
  obtain ⟨length, moments, hfirst, hstep, hlast⟩ := exists_moments h.steps
  exact ⟨length, moments, hfirst, hstep, hlast⟩

namespace Course

variable {length i j : Nat} {moments : Nat → Builder}

theorem steps (h : b.Course namespaces limits length moments) (hi : i ≤ length) :
    Extent.all.Steps (Catalog.ofNamespaces namespaces).1 limits (start namespaces) (moments i) := by
  induction i with
  | zero => rw [h.first]
  | succ i ih => exact (ih (Nat.le_of_succ_le hi)).tail (h.step i hi)

theorem regular (h : b.Course namespaces limits length moments) (hi : i ≤ length) :
    (moments i).Regular :=
  Extent.Steps.regular (h.steps hi) (start_regular _)

theorem lasts (h : b.Course namespaces limits length moments) (hij : i ≤ j) (hj : j ≤ length) :
    (moments i).Lasts (moments j) := by
  induction j, hij using Nat.le_induction with
  | base => exact .refl _
  | succ j hij ih => exact (ih (Nat.le_of_succ_le hj)).trans (h.step j hj).lasts

theorem lasts_last (h : b.Course namespaces limits length moments) (hi : i ≤ length) :
    (moments i).Lasts b := by
  have hl := h.lasts hi (Nat.le_refl length)
  rwa [h.last] at hl

/-- When a type has its turn, its base is finished, unless it is built-in. -/
theorem base_mem_finished (h : b.Course namespaces limits length moments) {x : Content}
    {d : Declaration} {decl : TypeDecl} (hi : i ≤ length)
    (ht : Turn (Catalog.ofNamespaces namespaces).1 limits b (moments i) id x d decl up)
    (hup : Kind.all.length ≤ up.index) : up ∈ (moments i).finished :=
  (h.regular hi).mem_finished hup ht.hasBase ht.finished

variable (h : b.Course namespaces limits length moments) (hb : b.Completes namespaces limits)
include h hb

/-- **Each type has its turn**: it is finished at the moments after it, and at no other. -/
theorem exists_turn (hid : id ∈ b.finished) : ∃ turn < length,
    (∀ i ≤ length, id ∈ (moments i).finished ↔ turn < i) ∧
    ∃ x d decl up, moments (turn + 1) = (moments turn).finish id x ∧
      Turn (Catalog.ofNamespaces namespaces).1 limits b (moments turn) id x d decl up := by
  have hlast : id ∈ (moments length).finished := by rwa [h.last]
  have hex : ∃ i, id ∈ (moments i).finished := ⟨length, hlast⟩
  have hle : Nat.find hex ≤ length := Nat.find_min' hex hlast
  -- the first moment of all has no finished type
  obtain ⟨turn, hturn⟩ : ∃ turn, Nat.find hex = turn + 1 := by
    refine Nat.exists_eq_succ_of_ne_zero fun h0 => ?_
    have hmem := Nat.find_spec hex
    rw [h0, h.first] at hmem
    cases hmem
  have hmem : id ∈ (moments (turn + 1)).finished := hturn ▸ Nat.find_spec hex
  have hnot : ∀ i ≤ turn, id ∉ (moments i).finished := fun i hi =>
    Nat.find_min hex (hturn ▸ Nat.lt_succ_of_le hi)
  refine ⟨turn, by omega, fun i hi => ?_, ?_⟩
  · refine ⟨fun hm => Nat.lt_of_not_le fun hle => hnot i hle hm, fun hlt => ?_⟩
    exact ((h.lasts hlt hi).finished id hmem).1
  · have hstep := h.step turn (by omega)
    have hl := h.lasts_last (i := turn + 1) (by omega)
    rcases hstep.finished_cases hb hl with heq | ⟨id', x, d, decl, up, heq, ht⟩
    · exact absurd (heq ▸ hmem) (hnot turn (Nat.le_refl turn))
    · rw [heq] at hmem
      rcases List.mem_cons.1 hmem with rfl | hmem
      · exact ⟨x, d, decl, up, heq, ht⟩
      · exact absurd hmem (hnot turn (Nat.le_refl turn))

/-- A step that gives a type its content comes when the type has none. -/
theorem not_mem_of_isTurn (ht : IsTurn length moments id i) : id ∉ (moments i).finished := by
  obtain ⟨hi, x, hx⟩ := ht
  have hstep := h.step i hi
  rcases hstep.finished_cases hb (h.lasts_last hi) with heq | ⟨id', x', d, decl, up, heq, hturn⟩
  · have hlength := congrArg List.length (hx ▸ heq)
    simp [Builder.finish] at hlength
  · have hfinished : id :: (moments i).finished = id' :: (moments i).finished :=
      congrArg Builder.finished (hx.symm.trans heq)
    rw [(List.cons.inj hfinished).1]
    exact hturn.unfinished

/-- **A finished type has only finished types above it**, apart from the built-in ones. -/
theorem mem_finished_of_base
    (hderives : ReflTransGen (fun x y => (b.schema.typeDef x).base = some y) id up)
    (hup : Kind.all.length ≤ up.index) (hi : i ≤ length) (hid : id ∈ (moments i).finished) :
    up ∈ (moments i).finished := by
  induction hderives using ReflTransGen.head_induction_on with
  | refl => exact hid
  | @head id y hbase hrest ih =>
    have ho := hb.inv.ordered
    have hle := Schema.index_le_of_derives ho ((Schema.derives_iff ho).2 hrest)
    have hlast := ((h.lasts_last hi).finished id hid).1
    obtain ⟨turn, hturn, hiff, _, _, _, y', -, ht⟩ := h.exists_turn hb hlast
    obtain rfl := Option.some.inj (hbase.symm.trans ht.base)
    have hlt := (hiff i hi).1 hid
    have hy := h.base_mem_finished hturn.le ht (hup.trans hle)
    exact ih ((h.lasts hlt.le hi).finished y hy).1

end Course

end Builder

/-! ## Types are built once -/

/-- A type is built once in a course of a compilation that ends with a schema. -/
structure Schema.BuiltOnce (s : Schema) (c : Catalog) (limits : Limits) (length : Nat)
    (moments : Nat → Builder) (id : TypeId) (turn : Nat) : Prop where
  only : ∀ i, Builder.IsTurn length moments id i ↔ i = turn
  /-- Every declared type above it has had its turn. -/
  above : ∀ up, s.IsDeclared up → s.derives id up → up ≠ id →
    ∃ i < turn, Builder.IsTurn length moments up i
  /-- Before its turn its content is empty. -/
  before : ∀ i ≤ turn, ((moments i).schema.typeDef id).content =
    ((moments i).schema.typeDef id).kind.emptyContent
  /-- From its turn on nothing about it changes. -/
  after : ∀ i ≤ length, turn < i → (moments i).schema.typeDef id = s.typeDef id
  /-- Its content is what its declaration makes of the base, which has its finished content when the
  run for it begins. -/
  made : ∃ o d decl up, c.getAs? (·.asType?) o = some (d, decl) ∧
    (s.typeDef id).fullName = d.fullName ∧ (s.typeDef id).base = some up ∧
    ∃ b₀ : Builder, b₀.Lasts (moments turn) ∧ b₀.schema.typeDef up = s.typeDef up ∧
      decl.body.Makes c limits d.scope up (s.typeDef up) b₀ (moments turn) (s.typeDef id).content

namespace Builder.Course

variable {b : Builder} {namespaces : List NamespaceDecl} {limits : Limits} {length : Nat}
  {moments : Nat → Builder} {id : TypeId}

theorem builtOnce (h : b.Course namespaces limits length moments)
    (hb : b.Completes namespaces limits) (hid : b.schema.IsDeclared id) :
    ∃ turn, b.schema.BuiltOnce (Catalog.ofNamespaces namespaces).1 limits length moments id
      turn := by
  have hmem : ∀ {id}, b.schema.IsDeclared id → id ∈ b.finished := fun hid =>
    hb.regular.mem_finished hid.1 hid.2 (hb.isFinished hid.2)
  obtain ⟨turn, hturn, hiff, x, d, decl, up, hstep, ht⟩ := h.exists_turn hb (hmem hid)
  have hnot : id ∉ (moments turn).finished := ht.unfinished
  have hhas : ∀ i ≤ length, turn ≤ i → (moments i).schema.Has id := fun i hi hle =>
    (h.lasts hle hi).schema.has ht.has
  have hafter : ∀ i ≤ length, turn < i → (moments i).schema.typeDef id = b.schema.typeDef id := by
    intro i hi hlt
    have hl := h.lasts_last hi
    obtain ⟨y, hy⟩ := hl.header id (hhas i hi hlt.le)
    have hcontent := (hl.finished id ((hiff i hi).2 hlt)).2 (hhas i hi hlt.le)
    rw [hy] at hcontent ⊢
    rw [show y = _ from hcontent]
  refine ⟨turn, fun i => ⟨fun hi => ?_, ?_⟩, fun up hup hderives hne => ?_, fun i hi => ?_, hafter,
    ?_⟩
  · have hbefore := h.not_mem_of_isTurn hb hi
    obtain ⟨hlt, y, hy⟩ := hi
    have hmem : id ∈ (moments (i + 1)).finished := hy ▸ List.mem_cons_self
    have hle : ¬turn < i := fun hlt' => hbefore ((hiff i hlt.le).2 hlt')
    have hlt' := (hiff (i + 1) hlt).1 hmem
    omega
  · rintro rfl
    exact ⟨hturn, x, hstep⟩
  · have ho := hb.inv.ordered
    rcases ((Schema.derives_iff ho).1 hderives).cases_head with rfl | ⟨y, hy, hrest⟩
    · exact absurd rfl hne
    · obtain rfl := Option.some.inj (hy.symm.trans ht.base)
      have hle := Schema.index_le_of_derives ho ((Schema.derives_iff ho).2 hrest)
      have hbase := h.base_mem_finished hturn.le ht (hup.1.trans hle)
      have hfinished := h.mem_finished_of_base hb hrest hup.1 hturn.le hbase
      obtain ⟨i, hi, hiff', x', _, _, _, hstep', -⟩ := h.exists_turn hb (hmem hup)
      exact ⟨i, (hiff' turn hturn.le).1 hfinished, hi, x', hstep'⟩
  · refine (h.regular (by omega)).pending id fun hi' => ?_
    exact absurd ((hiff i (by omega)).1 hi') (by omega)
  · obtain ⟨o, -, hdeclared⟩ := ht.declared
    refine ⟨o, d, decl, up, hdeclared, ht.name, ht.base, ?_⟩
    have hcontent := congrArg TypeDef.content (hafter (turn + 1) hturn (Nat.lt_succ_self turn))
    rw [hstep, typeDef_finish_self ht.has] at hcontent
    rw [← hcontent]
    exact ht.made

end Builder.Course

/-- **In an accepted schema every declared type was built once**, before the end and after the types
above it, and was not changed afterwards; so each content is made, in one step, of the finished
content of the base. This holds of every course that leads to the schema, and there is one. -/
theorem builtOnce_of_accepts {namespaces : List NamespaceDecl} {limits : Limits} {s : Schema}
    (h : Accepts namespaces limits s) :
    ∃ b : Builder, b.Completes namespaces limits ∧
      s = b.published (Catalog.ofNamespaces namespaces).1 ∧
      (∃ length moments, b.Course namespaces limits length moments) ∧
      ∀ length moments, b.Course namespaces limits length moments → ∀ id, s.IsDeclared id →
        ∃ turn, s.BuiltOnce (Catalog.ofNamespaces namespaces).1 limits length moments id turn := by
  obtain ⟨b, hb, hs⟩ := h.exists_builder
  refine ⟨b, hb, hs, hb.exists_course, fun length moments hcourse id hid => ?_⟩
  obtain ⟨names, hnames⟩ := hb.becomes.schema
  obtain rfl := hs.trans hnames
  -- the names that are given at the end do not matter to types
  obtain ⟨turn, hbuilt⟩ := hcourse.builtOnce hb hid
  exact ⟨turn, hbuilt.only, hbuilt.above, hbuilt.before, hbuilt.after, hbuilt.made⟩

/-- Parcels, whose zone has a default value. The types of the zone are declared after them. -/
def freight : List NamespaceDecl :=
  let letters (name base : String) (most : Nat) : MemberDecl :=
    .type { name := ⟨name, none⟩
            body := .restriction (.ofText base)
              (some { lengthRange := some { greatest := some most } }) none none }
  let zone : AttributeItem := .declared
    { name := ⟨"zone", none⟩, type := .ofText "ShortCode", defaultValue := some "abc" }
  let flight : AttributeItem := .declared { name := ⟨"flight", none⟩, type := .ofText "Int32" }
  [{ uri := "urn:freight"
     members := [
      .type { name := ⟨"Parcel", none⟩, body := .complex (some { items := [zone] }) none },
      .type { name := ⟨"AirParcel", none⟩
              body := .extension (.ofText "Parcel") (some { items := [flight] }) none },
      letters "Code" "String" 8, letters "ShortCode" "Code" 4] }]

/-- The default value of the zone needs its type. So this one and the type above it are built in the
turn of the parcel, before it, although they have higher numbers. -/
theorem freight_builtOnce : Accepts freight {} (schemaOf freight {}) ∧
    ∃ (b : Builder) (length : Nat) (moments : Nat → Builder),
      b.Course freight {} length moments ∧ b.finished = [⟨23⟩, ⟨22⟩, ⟨25⟩, ⟨24⟩] ∧
      ∀ id ∈ b.finished, ∃ turn, (schemaOf freight {}).BuiltOnce (Catalog.ofNamespaces freight).1 {}
        length moments id turn := by
  have haccepts : Accepts freight {} (schemaOf freight {}) := accepts_schemaOf (by decide +kernel)
  obtain ⟨b, hb, -, ⟨length, moments, hcourse⟩, hbuilt⟩ := builtOnce_of_accepts haccepts
  have hfinished : b.finished = [⟨23⟩, ⟨22⟩, ⟨25⟩, ⟨24⟩] := by
    have hrun : ((buildAll (Catalog.ofNamespaces freight).1 {}).run
        (Builder.start freight)).toOption.map (·.2.finished) =
          some [⟨23⟩, ⟨22⟩, ⟨25⟩, ⟨24⟩] := by decide +kernel
    rw [hb.run] at hrun
    exact Option.some.inj hrun
  have hdeclared : ∀ id ∈ ([⟨23⟩, ⟨22⟩, ⟨25⟩, ⟨24⟩] : List TypeId),
      Kind.all.length ≤ id.index ∧ id.index < (schemaOf freight {}).types.size := by decide +kernel
  exact ⟨haccepts, b, length, moments, hcourse, hfinished, fun id hid =>
    hbuilt length moments hcourse id (hdeclared id (hfinished ▸ hid))⟩

end Schemata
