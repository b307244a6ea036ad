import Schemata.Proofs.Numbering
import Schemata.Proofs.Registration

/-!
# Where symbols and contents come from

What was checked when a symbol or a content was made still holds at the end of a compilation,
since no step takes anything back. So of everything that a finished builder has, it can be said at
once which declaration it comes from, on top of what it was made, and which run made it
(`Builder.Sourced`).
-/

namespace Schemata

open Relation

theorem Declaration.typeDef_congr (d : Declaration) (t : TypeDecl) (up : TypeId) {x y : TypeDef}
    (h : x.kind = y.kind) : d.typeDef t up x = d.typeDef t up y := by
  have hheader : t.header x = t.header y := by
    unfold TypeDecl.header
    rw [h]
  rw [typeDef, typeDef, hheader]

/-- What is wrong with a base does not depend on its content. -/
theorem baseFaults_congr (t : TypeDef) (x : Content) : baseFaults { t with content := x } =
    baseFaults t := rfl

/-- What may substitute a head in a schema may do so in a larger one. -/
theorem substitutionFaults_mono {s s' : Schema} (hs : s.Extends s') {e head : Element}
    (h : substitutionFaults s e head = []) : substitutionFaults s' e head = [] := by
  unfold substitutionFaults at h ⊢
  simp only [List.append_eq_nil_iff] at h ⊢
  refine ⟨⟨h.1.1, ?_⟩, h.2⟩
  have hd : s.derives e.type head.type := by
    by_contra hd
    simp [hd] at h
  rw [if_pos (hs.derives hd)]

namespace Builder

variable {c : Catalog} {limits : Limits} {b b' e : Builder}

/-- A type has a header that a declaration makes on the base that it names, which nothing is wrong
with. -/
structure TypeSource (c : Catalog) (e : Builder) (o : DeclarationId) (t : TypeId)
    (d : Declaration) (decl : TypeDecl) (up : TypeId) : Prop where
  declared : c.getAs? (·.asType?) o = some (d, decl)
  above : e.Above (·.asType?) (typeLink c) o up
  header : ∃ x, e.schema.typeDef t =
    { d.typeDef decl up (e.schema.typeDef up) with content := x }
  faults : decl.base?.isSome → baseFaults (e.schema.typeDef up) = []

/-- A global attribute was made by a run. -/
structure AttributeSource (c : Catalog) (limits : Limits) (e : Builder) (o : DeclarationId)
    (id : AttributeId) (d : Declaration) (decl : GlobalAttributeDecl) (made : Attribute)
    (b₀ b₁ : Builder) : Prop where
  declared : c.getAs? (·.asAttribute?) o = some (d, decl)
  inv : b₀.Inv c
  placed : b₀.Placed
  run : (makeGlobalAttribute c limits d decl).run b₀ = .ok (made, b₁)
  lasts : b₁.Lasts e
  stored : e.schema.attribute? id = some made

/-- A global element is what a declaration makes of the type and the head that it names, and may
stand in for the head. -/
structure ElementSource (c : Catalog) (e : Builder) (o : DeclarationId) (id : ElementId)
    (d : Declaration) (decl : GlobalElementDecl) (t : TypeId) (head : Option ElementId) : Prop where
  declared : c.getAs? (·.asElement?) o = some (d, decl)
  above : e.Above (fun s => s.asElement?.map some) (elementLink c) o head
  type : e.NamesType c d.scope decl.type t
  element : e.schema.element? id = some (d.element decl t head)
  allowed : ∀ h, head.bind e.schema.element? = some h →
    substitutionFaults e.schema (d.element decl t head) h = []

/-- The content of a type was made by a run when its base had its own. -/
inductive ContentSource (c : Catalog) (limits : Limits) (e : Builder) (id : TypeId) : Prop
  | simple {o : DeclarationId} {d : Declaration} {decl : TypeDecl} {x : SimpleContent}
    {b₀ b₁ : Builder} (origin : e.origin? id = some o)
    (declared : c.getAs? (·.asType?) o = some (d, decl))
    (kind : (e.schema.typeDef id).kind.isSimple) (inv : b₀.Inv c) (placed : b₀.Placed)
    (has : b₀.schema.Has id)
    (base : ∀ up, (b₀.schema.typeDef id).base = some up → b₀.isFinished up)
    (run : (simpleContent c limits d.scope (b₀.schema.typeDef id).kind (b₀.simpleBase id)
      decl.body).run b₀ = .ok (x, b₁))
    (lasts : b₁.Lasts e) (content : (e.schema.typeDef id).content = .simple x)
  | complex {o : DeclarationId} {d : Declaration} {decl : TypeDecl} {x : ComplexContent}
    {b₀ b₁ : Builder} (origin : e.origin? id = some o)
    (declared : c.getAs? (·.asType?) o = some (d, decl))
    (kind : (e.schema.typeDef id).kind.isSimple = false) (inv : b₀.Inv c) (placed : b₀.Placed)
    (has : b₀.schema.Has id)
    (base : ∀ up, (b₀.schema.typeDef id).base = some up → b₀.isFinished up)
    (run : (complexContent c limits d.scope
      ((b₀.schema.typeDef id).base.getD Kind.complexType.typeId) decl.body).run b₀ = .ok (x, b₁))
    (lasts : b₁.Lasts e) (content : (e.schema.typeDef id).content = .complex x)

/-- Everything that a builder has so far comes from somewhere, as seen from a later builder. -/
structure Sourced (c : Catalog) (limits : Limits) (b e : Builder) : Prop where
  types : ∀ o t, b.symbol? o = some (.type t) → ∃ d decl up, TypeSource c e o t d decl up
  attributes : ∀ o id, b.symbol? o = some (.attr id) →
    ∃ d decl made b₀ b₁, AttributeSource c limits e o id d decl made b₀ b₁
  elements : ∀ o id, b.symbol? o = some (.element id) →
    ∃ d decl t head, ElementSource c e o id d decl t head
  contents : ∀ id ∈ b.finished, ContentSource c limits e id

theorem Sourced.of_eq (h : b.Sourced c limits e) (hsymbols : b'.symbols = b.symbols)
    (hfinished : b'.finished = b.finished) : b'.Sourced c limits e := by
  have hsymbol : b'.symbol? = b.symbol? := by
    funext o
    rw [symbol?, symbol?, hsymbols]
  exact ⟨hsymbol ▸ h.types, hsymbol ▸ h.attributes, hsymbol ▸ h.elements, hfinished ▸ h.contents⟩

/-- A step that gives a symbol to a declaration. -/
theorem Sourced.cons (h : b.Sourced c limits e) {o : DeclarationId} {s : SymbolId}
    (hsymbols : b'.symbols = (o, s) :: b.symbols) (hfinished : b'.finished = b.finished)
    (types : ∀ t, s = .type t → ∃ d decl up, TypeSource c e o t d decl up)
    (attributes : ∀ id, s = .attr id →
      ∃ d decl made b₀ b₁, AttributeSource c limits e o id d decl made b₀ b₁)
    (elements : ∀ id, s = .element id → ∃ d decl t head, ElementSource c e o id d decl t head) :
    b'.Sourced c limits e := by
  refine ⟨fun p t hp => ?_, fun p id hp => ?_, fun p id hp => ?_, hfinished ▸ h.contents⟩ <;>
    rw [symbol_cons hsymbols] at hp <;> split at hp
  · rename_i heq
    exact heq ▸ types t (Option.some.inj hp)
  · exact h.types p t hp
  · rename_i heq
    exact heq ▸ attributes id (Option.some.inj hp)
  · exact h.attributes p id hp
  · rename_i heq
    exact heq ▸ elements id (Option.some.inj hp)
  · exact h.elements p id hp

/-- The header of a type stays what its declaration makes. -/
theorem typeSource_addType (hp : b.Placed) {o : DeclarationId} {d : Declaration} {decl : TypeDecl}
    {up : TypeId} {l : Ledger} (declared : c.getAs? (·.asType?) o = some (d, decl))
    (above : b.Above (·.asType?) (typeLink c) o up) (new : b.symbol? o = none)
    (clean : l.hasErrors = false → b.Clean)
    (faults : l.hasErrors = false → decl.base?.isSome → baseFaults (b.schema.typeDef up) = [])
    (hl : Lasts { (b.addType o (d.typeDef decl up (b.schema.typeDef up))).2 with ledger := l } e)
    (hc : e.Clean) : TypeSource c e o ⟨b.schema.types.size⟩ d decl up := by
  have hl₀ := (lasts_addType (t := d.typeDef decl up (b.schema.typeDef up)) new clean).trans hl
  obtain ⟨x, hx⟩ := hl₀.header up (Takes.has_of_above hp above)
  refine ⟨declared, above.mono hl₀, ?_, fun h => ?_⟩
  · obtain ⟨y, hy⟩ := hl.header ⟨b.schema.types.size⟩ (by simp [Schema.Has, addType])
    refine ⟨y, hy.trans ?_⟩
    rw [d.typeDef_congr decl up (show (e.schema.typeDef up).kind = (b.schema.typeDef up).kind by
      rw [hx])]
    simp [Schema.typeDef, addType]
  · rw [hx, baseFaults_congr]
    exact faults (hl.clean hc) h

/-- The type that the content of a complex type is made of was given out. -/
theorem Placed.has_complexBase (hp : b.Placed) (hb : b.Inv c) (id : TypeId) :
    b.schema.Has ((b.schema.typeDef id).base.getD Kind.complexType.typeId) := by
  cases hbase : (b.schema.typeDef id).base with
  | none => exact hp.builtin .complexType
  | some up => exact hb.has_base hbase

theorem TypeStep.sourced (h : b.TypeStep c limits b') (hp : b.Placed) (hl : b'.Lasts e)
    (hc : e.Clean) (hs : b.Sourced c limits e) : b'.Sourced c limits e := by
  have hlb := h.lasts
  cases h with
  | record clean => exact hs.of_eq rfl rfl
  | openType id => exact hs.of_eq rfl rfl
  | @addType o d decl up l declared new above clean base depth =>
    refine hs.cons rfl rfl ?_ nofun nofun
    rintro _ ⟨⟩
    exact ⟨d, decl, up, typeSource_addType hp declared above new clean base hl hc⟩
  | @finish id o d decl x b₀ origin declared unfinished kind inv placed base run places has =>
    refine ⟨hs.types, hs.attributes, hs.elements, List.forall_mem_cons.2 ⟨?_, hs.contents⟩⟩
    have hlast := hlb.trans hl
    have hid : b.schema.Has id := by
      by_contra hnot
      rw [Schema.typeDef_of_not_has hnot] at kind
      cases kind
    refine .simple (hlast.origin id o origin) declared ?_ inv placed has base run hlast ?_
    · exact hlast.schema.isSimple kind
    · rw [(hl.finished id List.mem_cons_self).2 ((finish_extends b id _).has hid),
        typeDef_finish_self hid]

theorem Step.sourced (h : b.Step c limits b') (hp : b.Placed) (hl : b'.Lasts e) (hc : e.Clean)
    (hs : b.Sourced c limits e) : b'.Sourced c limits e := by
  have hlb := h.lasts
  cases h with
  | type step => exact step.sourced hp hl hc hs
  | openAttribute o => exact hs.of_eq rfl rfl
  | @addAttribute o d decl made b₀ declared new inv placed run places =>
    refine hs.cons rfl rfl (fun _ h => by cases h) (fun _ h => ?_) fun _ h => by cases h
    cases h
    refine ⟨d, decl, made, b₀, b, declared, inv, placed, run, hlb.trans hl, ?_⟩
    exact hl.schema.attr _ _ (by simp [Schema.attribute?, Builder.addAttribute])
  | @addElement o d decl t head l declared new above type clean allowed =>
    refine hs.cons rfl rfl (fun _ h => by cases h) (fun _ h => by cases h) fun _ h => ?_
    cases h
    have hlast := hlb.trans hl
    refine ⟨d, decl, t, head, declared, above.mono hlast, type.mono hlast, ?_, fun h hh => ?_⟩
    · exact hl.schema.element _ _ (by simp [Schema.element?, Builder.addElement])
    · obtain ⟨up, hup, hh⟩ := Option.bind_eq_some_iff.1 hh
      have hlt := above.head hp hup
      have hold : b.schema.element? up = some b.schema.elements[up.index] :=
        Array.getElem?_eq_getElem hlt
      obtain rfl := Option.some.inj (hh.symm.trans (hlast.schema.element _ _ hold))
      exact substitutionFaults_mono hlast.schema
        (allowed (hl.clean hc) _ (Option.bind_eq_some_iff.2 ⟨up, hup, hold⟩))
  | @finish id o d decl x b₀ origin declared unfinished kind inv placed base run places has =>
    refine ⟨hs.types, hs.attributes, hs.elements, List.forall_mem_cons.2 ⟨?_, hs.contents⟩⟩
    have hlast := hlb.trans hl
    have hup := placed.has_complexBase inv id
    obtain ⟨-, -, hsteps, -⟩ := Takes.complexContent d.scope hup decl.body placed inv x b run
    have hid : b.schema.Has id := hsteps.lasts.schema.has has
    refine .complex (hlast.origin id o origin) declared ?_ inv placed has base run hlast ?_
    · rw [hlast.schema.kind id hid]
      exact kind
    · rw [(hl.finished id List.mem_cons_self).2 ((finish_extends b id _).has hid),
        typeDef_finish_self hid]

theorem Extent.Steps.sourced (h : Extent.all.Steps c limits b b') (hp : b.Placed)
    (hs : b.Sourced c limits e) (hl : b'.Lasts e) (hc : e.Clean) :
    b'.Sourced c limits e := by
  induction h with
  | refl => exact hs
  | tail hsteps step ih =>
    exact Step.sourced step (Extent.Steps.placed hsteps hp) hl hc (ih ((Step.lasts step).trans hl))

/-- Everything in an accepted schema comes from somewhere. -/
theorem Completes.sourced {namespaces : List NamespaceDecl} (h : b.Completes namespaces limits) :
    b.Sourced (Catalog.ofNamespaces namespaces).1 limits b :=
  h.steps.sourced (start_placed _) ⟨nofun, nofun, nofun, nofun⟩ (.refl b) h.clean

/-! ## Types that have their content -/

/-- A type that has its content stays as it is. -/
theorem Lasts.typeDef_eq (hl : b.Lasts b') (hb : b.Inv c) (hb' : b'.Inv c) {t : TypeId}
    (ht : b.schema.Has t) (hf : b.isFinished t) : b'.schema.typeDef t = b.schema.typeDef t := by
  rcases isFinished_iff.1 hf with ho | hf
  · obtain ⟨k, rfl, hk⟩ := hb.exists_kind (hb.builtin_of_origin ht ho)
    rw [hk, hb'.typeDef_builtin]
  · obtain ⟨x, hx⟩ := hl.header t ht
    have hcontent : x = (b.schema.typeDef t).content := by
      rw [← (hl.finished t hf).2 ht, hx]
    rw [hx, hcontent]

theorem Placed.has_item (hp : b.Placed) {t item : TypeId}
    (h : (b.schema.typeDef t).item? = some item) : b.schema.Has item := by
  have hplaces := hp.contents t
  unfold TypeDef.item? TypeDef.asSimple? at h
  split at h
  · rename_i x hx
    rw [hx] at hplaces
    refine hplaces.ids (.type item) ?_
    have h : x.item = some item := h
    simp [Content.ids, h]
  · cases h

/-- What a literal stands for does not change when the type has its content. -/
theorem Lasts.readValue_eq (hl : b.Lasts b') (hb : b.Inv c) (hb' : b'.Inv c) (hp : b.Placed)
    {t : TypeId} (ht : b.schema.Has t) (hf : b.isFinished t) (literal : String) :
    b'.schema.readValue t literal = b.schema.readValue t literal := by
  have hdef := hl.typeDef_eq hb hb' ht hf
  have hitem : b'.schema.itemKind? (b.schema.typeDef t) =
      b.schema.itemKind? (b.schema.typeDef t) := by
    unfold Schema.itemKind?
    cases hi : (b.schema.typeDef t).item? with
    | none => rfl
    | some item => simp [hl.schema.kind item (hp.has_item hi)]
  unfold Schema.readValue
  simp only [hdef, hitem]

/-- A run made the content of a complex type, when its base had the content that it has now. -/
structure ComplexSource (c : Catalog) (limits : Limits) (e : Builder) (id : TypeId)
    (x : ComplexContent) (o : DeclarationId) (d : Declaration) (decl : TypeDecl)
    (b₀ b₁ : Builder) : Prop where
  origin : e.origin? id = some o
  declared : c.getAs? (·.asType?) o = some (d, decl)
  inv : b₀.Inv c
  placed : b₀.Placed
  has : b₀.schema.Has ((e.schema.typeDef id).base.getD Kind.complexType.typeId)
  base : b₀.schema.typeDef ((e.schema.typeDef id).base.getD Kind.complexType.typeId) =
    e.schema.typeDef ((e.schema.typeDef id).base.getD Kind.complexType.typeId)
  run : (complexContent c limits d.scope
    ((e.schema.typeDef id).base.getD Kind.complexType.typeId) decl.body).run b₀ = .ok (x, b₁)
  lasts : b₁.Lasts e

theorem Completes.exists_complexSource {namespaces : List NamespaceDecl}
    (h : e.Completes namespaces limits) {id : TypeId} (hid : id ∈ e.finished) {x : ComplexContent}
    (hx : (e.schema.typeDef id).asComplex? = some x) : ∃ o d decl b₀ b₁,
      e.ComplexSource (Catalog.ofNamespaces namespaces).1 limits id x o d decl b₀ b₁ := by
  unfold TypeDef.asComplex? at hx
  cases h.sourced.contents id hid with
  | simple origin declared kind inv placed has base run lasts content =>
    rw [content] at hx
    cases hx
  | @complex o d decl _ b₀ b₁ origin declared kind inv placed has base run lasts content =>
    rw [content] at hx
    cases hx
    have hup := placed.has_complexBase inv id
    obtain ⟨hs, -⟩ := (Takes.complexContent d.scope hup decl.body).apply placed inv run
    have hl : b₀.Lasts e := hs.lasts.trans lasts
    have hstays : b₀.schema.typeDef ((b₀.schema.typeDef id).base.getD Kind.complexType.typeId) =
        e.schema.typeDef ((b₀.schema.typeDef id).base.getD Kind.complexType.typeId) := by
      cases hbase : (b₀.schema.typeDef id).base with
      | none => rw [Option.getD_none, inv.typeDef_builtin, h.inv.typeDef_builtin]
      | some up =>
        exact (hl.typeDef_eq inv h.inv (inv.has_base hbase) (base up hbase)).symm
    rw [← hl.schema.base id has] at hup hstays run
    exact ⟨o, d, decl, b₀, b₁, origin, declared, inv, placed, hup, hstays, run, lasts⟩

/-! ## Types and their declarations -/

/-- A declared type has one declaration, and no content of its own until it gets it. -/
structure Regular (b : Builder) : Prop where
  size : b.schema.types.size = Kind.all.length + b.origins.size
  origin : ∀ o t, b.symbol? o = some (.type t) ↔ b.origin? t = some o
  pending : ∀ t, t ∉ b.finished →
    (b.schema.typeDef t).content = (b.schema.typeDef t).kind.emptyContent

theorem Regular.index_lt (h : b.Regular) {o : DeclarationId} {t : TypeId}
    (ho : b.origin? t = some o) : t.index < b.schema.types.size := by
  have hsize := h.size
  unfold origin? at ho
  split at ho
  · cases ho
  · have hlt := (Array.getElem?_eq_some_iff.1 ho).1
    omega

theorem Regular.of_symbols_eq (h : b.Regular) (hsymbols : b'.symbols = b.symbols)
    (horigins : b'.origins = b.origins) (htypes : b'.schema.types = b.schema.types)
    (hfinished : b'.finished = b.finished) : b'.Regular := by
  have hdef : b'.schema.typeDef = b.schema.typeDef := by
    funext t
    rw [Schema.typeDef, Schema.typeDef, htypes]
  refine ⟨by rw [htypes, horigins, h.size], fun o t => ?_, fun t ht => ?_⟩
  · rw [symbol?, hsymbols, origin?, horigins]
    exact h.origin o t
  · rw [hdef]
    exact h.pending t (hfinished ▸ ht)

/-- A step that gives a symbol that is no type. -/
theorem Regular.cons (h : b.Regular) {o : DeclarationId} {s : SymbolId} (hs : s.asType? = none)
    (hnew : b.symbol? o = none) (hsymbols : b'.symbols = (o, s) :: b.symbols)
    (horigins : b'.origins = b.origins) (htypes : b'.schema.types = b.schema.types)
    (hfinished : b'.finished = b.finished) : b'.Regular := by
  have hdef : b'.schema.typeDef = b.schema.typeDef := by
    funext t
    rw [Schema.typeDef, Schema.typeDef, htypes]
  refine ⟨by rw [htypes, horigins, h.size], fun p t => ?_, fun t ht => ?_⟩
  · have horigin : b'.origin? t = b.origin? t := by rw [origin?, origin?, horigins]
    rw [symbol_cons hsymbols, horigin, ← h.origin]
    split
    · rename_i heq
      rw [heq, hnew]
      constructor
      · rintro ⟨⟩
        cases hs
      · intro hnone
        cases hnone
    · rfl
  · rw [hdef]
    exact h.pending t (hfinished ▸ ht)

theorem Regular.finish (h : b.Regular) (id : TypeId) (x : Content) : (b.finish id x).Regular := by
  refine ⟨by simpa [Builder.finish] using h.size, h.origin, fun t ht => ?_⟩
  have hne : t ≠ id := fun heq => ht (heq ▸ List.mem_cons_self)
  rw [typeDef_finish_of_ne hne]
  exact h.pending t fun hmem => ht (List.mem_cons_of_mem _ hmem)

theorem TypeStep.regular (h : b.TypeStep c limits b') (hr : b.Regular) : b'.Regular := by
  cases h with
  | record clean => exact hr.of_symbols_eq rfl rfl rfl rfl
  | openType id => exact hr.of_symbols_eq rfl rfl rfl rfl
  | @addType o d decl up l declared new =>
    have hid (t : TypeId) : t.index = b.schema.types.size ↔ t = ⟨b.schema.types.size⟩ :=
      ⟨congrArg TypeId.mk, congrArg TypeId.index⟩
    refine ⟨?_, fun p t => ?_, fun t ht => ?_⟩
    · simp [Builder.addType, hr.size, Nat.add_assoc]
    · change _ ↔ (b.addType o (d.typeDef decl up (b.schema.typeDef up))).2.origin? t = some p
      rw [symbol_cons rfl, origin_addType hr.size]
      by_cases hp : p = o
      · subst hp
        rw [if_pos rfl]
        split
        · rename_i ht
          rw [(hid t).1 ht]
          simp
        · rename_i ht
          rw [← hr.origin, new]
          simpa [eq_comm] using mt (hid t).2 ht
      · rw [if_neg hp]
        split
        · rename_i ht
          simp only [Option.some.injEq, Ne.symm hp, iff_false]
          intro hs
          have hlt := hr.index_lt ((hr.origin p t).1 hs)
          omega
        · exact hr.origin p t
    · have hdef : (Schema.typeDef { (b.addType o (d.typeDef decl up (b.schema.typeDef up))).2 with
        ledger := l }.schema t) = (b.addType o _).2.schema.typeDef t := rfl
      rw [hdef, typeDef_addType]
      split
      · rfl
      · exact hr.pending t ht
  | finish => exact hr.finish _ _

theorem Step.regular (h : b.Step c limits b') (hr : b.Regular) : b'.Regular := by
  cases h with
  | type step => exact step.regular hr
  | openAttribute o => exact hr.of_symbols_eq rfl rfl rfl rfl
  | addAttribute declared new => exact hr.cons rfl new rfl rfl rfl rfl
  | addElement declared new => exact hr.cons rfl new rfl rfl rfl rfl
  | finish => exact hr.finish _ _

theorem Extent.Steps.regular {k : Extent} (h : k.Steps c limits b b') (hr : b.Regular) :
    b'.Regular := by
  induction h with
  | refl => exact hr
  | tail _ step ih => exact (Extent.Step.of_any step).regular ih

theorem start_regular (ledger : Ledger) : Regular { ledger } where
  size := rfl
  origin o t := by
    have hnone : origin? { ledger } t = none := by
      unfold origin?
      split <;> rfl
    rw [hnone]
    exact ⟨nofun, nofun⟩
  pending t _ := by
    by_cases ht : t.index < Kind.all.length
    · obtain ⟨k, hk⟩ := Kind.exists_rank ht
      obtain rfl : k.typeId = t := congrArg TypeId.mk hk
      rw [Schema.builtin_typeDef]
      rfl
    · have hnot : ¬Schema.builtin.Has t := ht
      rw [Schema.typeDef_of_not_has hnot]
      rfl

namespace Completes

variable {namespaces : List NamespaceDecl}

theorem regular (h : b.Completes namespaces limits) : b.Regular :=
  Extent.Steps.regular h.steps (start_regular _)

theorem mem_finished (h : b.Completes namespaces limits) {o : DeclarationId} {id : TypeId}
    (ho : b.symbol? o = some (.type id)) : id ∈ b.finished := by
  refine (isFinished_iff.1 (h.isFinished (h.placed.symbol ho))).resolve_left ?_
  rw [(h.regular.origin o id).1 ho]
  exact nofun

end Completes

end Builder

end Schemata
