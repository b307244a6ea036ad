import Schemata.Proofs.ComplexTypes
import Schemata.Proofs.Numbers

/-!
# What a step of a compilation changes

`Builder.Step` lists everything that a compilation does to its builder, with what is known when it
is done: that a symbol is new, which link it was made along, that nothing wrong was recorded, and
which run made the content. A compilation is a sequence of such steps, so whatever one step
preserves holds at its end.

The steps that concern types alone (`Builder.TypeStep`) are kept apart. They are all that happens
while a reference to a type is resolved or a default value is read, so what is declared otherwise
has its symbol after them just in case it had it before.
-/

namespace Schemata

open Relation

/-! ## What declarations make -/

/-- The type that a declaration makes, before it has its content. -/
def Declaration.typeDef (d : Declaration) (t : TypeDecl) (base : TypeId) (baseDef : TypeDef) :
    TypeDef :=
  { fullName := d.fullName
    kind := (t.header baseDef).1
    base := some base
    derivation := (t.header baseDef).2
    isAbstract := t.isAbstract
    isSealed := t.isSealed
    content := (t.header baseDef).1.emptyContent
    span := t.name.span }

/-- The element that a declaration makes. -/
def Declaration.element (d : Declaration) (e : GlobalElementDecl) (type : TypeId)
    (head : Option ElementId) : Element :=
  { fullName := d.fullName
    standing := .global
    type
    isNullable := e.isNullable
    isAbstract := e.isAbstract
    isSealed := e.isSealed
    substituted := head
    referenced := none
    span := e.span.or e.name.span }

namespace Builder

variable {c : Catalog} {limits : Limits} {b b' b₁ : Builder}

/-- Where the link of a declaration ends: at a root, or at the symbol of the next declaration. -/
def Above {α : Type} (b : Builder) (as? : SymbolId → Option α)
    (link : DeclarationId → Except Diagnostic (Link α)) (o : DeclarationId) (a : α) : Prop :=
  link o = .ok (.root a) ∨ ∃ up, link o = .ok (.next up) ∧ (b.symbol? up).bind as? = some a

/-- The type that a reference names. -/
def NamesType (b : Builder) (c : Catalog) (scope : Scope) (r : NameRef) (t : TypeId) : Prop :=
  (∃ k : Kind, c.resolve scope r = .ok (.builtin k) ∧ t = k.typeId) ∨
    ∃ o, c.resolve scope r = .ok (.declared o) ∧ b.symbol? o = some (.type t)

/-- The global element that a reference names. -/
def NamesElement (b : Builder) (c : Catalog) (scope : Scope) (r : NameRef) (e : ElementId) :
    Prop :=
  ∃ o, c.resolve scope r = .ok (.declared o) ∧ b.symbol? o = some (.element e)

/-- The global attribute that a reference names. -/
def NamesAttribute (b : Builder) (c : Catalog) (scope : Scope) (r : NameRef) (a : AttributeId) :
    Prop :=
  ∃ o, c.resolve scope r = .ok (.declared o) ∧ b.symbol? o = some (.attr a)

/-- The schema gave out some numbers, and some types are simple unless an error is recorded. -/
structure Places (b : Builder) (ids : List SymbolId) (simple : List TypeId) : Prop where
  ids : ∀ i ∈ ids, b.schema.Issues i
  simple : b.Clean → ∀ t ∈ simple, (b.schema.typeDef t).kind.isSimple

/-- The numbers that content stores are in their place. -/
def PlacesContent (b : Builder) (x : Content) : Prop := b.Places x.ids x.simpleTypes

/-- The schema gave out every number that is stored. -/
structure Placed (b : Builder) : Prop where
  builtin : ∀ k : Kind, b.schema.Has k.typeId
  symbols : ∀ o s, (o, s) ∈ b.symbols → b.schema.Issues s
  contents : ∀ id, b.PlacesContent (b.schema.typeDef id).content
  attributes : ∀ id a, b.schema.attribute? id = some a → b.Places a.ids [a.type]
  elements : ∀ id e, b.schema.element? id = some e → b.Places e.ids []

/-- The content of the base of a simple type. -/
def simpleBase (b : Builder) (id : TypeId) : SimpleContent :=
  ((b.schema.typeDef id).base.bind fun up => (b.schema.typeDef up).asSimple?).getD {}

/-! ## Steps -/

/-- A step that concerns types alone. -/
inductive TypeStep (c : Catalog) (limits : Limits) (b : Builder) : Builder → Prop
  | record {l : Ledger} (clean : l.hasErrors = false → b.Clean) :
    TypeStep c limits b { b with ledger := l }
  | openType (id : TypeId) : TypeStep c limits b (b.openType id)
  | addType {o : DeclarationId} {d : Declaration} {t : TypeDecl} {up : TypeId} {l : Ledger}
    (declared : c.getAs? (·.asType?) o = some (d, t)) (new : b.symbol? o = none)
    (above : b.Above (·.asType?) (typeLink c) o up)
    (clean : l.hasErrors = false → b.Clean)
    (base : l.hasErrors = false → t.base?.isSome → baseFaults (b.schema.typeDef up) = [])
    (depth : l.hasErrors = false →
      (b.addType o (d.typeDef t up (b.schema.typeDef up))).2.schema.depth
        ⟨b.schema.types.size⟩ ≤ limits.derivationDepth) :
    TypeStep c limits b
      { (b.addType o (d.typeDef t up (b.schema.typeDef up))).2 with ledger := l }
  | finish {id : TypeId} {o : DeclarationId} {d : Declaration} {t : TypeDecl} {x : SimpleContent}
    {b₀ : Builder} (origin : b.origin? id = some o)
    (declared : c.getAs? (·.asType?) o = some (d, t)) (unfinished : id ∉ b.finished)
    (kind : (b.schema.typeDef id).kind.isSimple) (inv : b₀.Inv c) (placed : b₀.Placed)
    (base : ∀ up, (b₀.schema.typeDef id).base = some up → b₀.isFinished up)
    (run : (simpleContent c limits d.scope (b₀.schema.typeDef id).kind (b₀.simpleBase id)
      t.body).run b₀ = .ok (x, b))
    (places : b.PlacesContent (.simple x)) (has : b₀.schema.Has id) :
    TypeStep c limits b (b.finish id (.simple x))

/-- A step of a compilation. -/
inductive Step (c : Catalog) (limits : Limits) (b : Builder) : Builder → Prop
  | type {b' : Builder} (step : b.TypeStep c limits b') : Step c limits b b'
  | openAttribute (o : DeclarationId) : Step c limits b (b.openAttribute o)
  | addAttribute {o : DeclarationId} {d : Declaration} {a : GlobalAttributeDecl} {made : Attribute}
    {b₀ : Builder} (declared : c.getAs? (·.asAttribute?) o = some (d, a))
    (new : b.symbol? o = none) (inv : b₀.Inv c) (placed : b₀.Placed)
    (run : (makeGlobalAttribute c limits d a).run b₀ = .ok (made, b))
    (places : b.Places made.ids [made.type]) : Step c limits b (b.addAttribute o made).2
  | addElement {o : DeclarationId} {d : Declaration} {e : GlobalElementDecl} {t : TypeId}
    {head : Option ElementId} {l : Ledger} (declared : c.getAs? (·.asElement?) o = some (d, e))
    (new : b.symbol? o = none)
    (above : b.Above (fun s => s.asElement?.map some) (elementLink c) o head)
    (type : b.NamesType c d.scope e.type t) (clean : l.hasErrors = false → b.Clean)
    (allowed : l.hasErrors = false → ∀ h, head.bind b.schema.element? = some h →
      substitutionFaults b.schema (d.element e t head) h = []) :
    Step c limits b { (b.addElement o (d.element e t head)).2 with ledger := l }
  | finish {id : TypeId} {o : DeclarationId} {d : Declaration} {t : TypeDecl}
    {x : ComplexContent} {b₀ : Builder} (origin : b.origin? id = some o)
    (declared : c.getAs? (·.asType?) o = some (d, t)) (unfinished : id ∉ b.finished)
    (kind : (b.schema.typeDef id).kind.isSimple = false) (inv : b₀.Inv c) (placed : b₀.Placed)
    (base : ∀ up, (b₀.schema.typeDef id).base = some up → b₀.isFinished up)
    (run : (complexContent c limits d.scope
      ((b₀.schema.typeDef id).base.getD Kind.complexType.typeId) t.body).run b₀ = .ok (x, b))
    (places : b.PlacesContent (.complex x)) (has : b₀.schema.Has id) :
    Step c limits b (b.finish id (.complex x))

/-! ## What lasts -/

/-- What no step takes back. -/
structure Lasts (b b' : Builder) : Prop where
  schema : b.schema.Extends b'.schema
  clean : b'.Clean → b.Clean
  symbol : ∀ o s, b.symbol? o = some s → b'.symbol? o = some s
  origin : ∀ id o, b.origin? id = some o → b'.origin? id = some o
  header : ∀ id, b.schema.Has id →
    ∃ x, b'.schema.typeDef id = { b.schema.typeDef id with content := x }
  finished : ∀ id ∈ b.finished, id ∈ b'.finished ∧
    (b.schema.Has id → (b'.schema.typeDef id).content = (b.schema.typeDef id).content)

namespace Lasts

theorem refl (b : Builder) : b.Lasts b where
  schema := .refl _
  clean h := h
  symbol _ _ h := h
  origin _ _ h := h
  header id _ := ⟨(b.schema.typeDef id).content, rfl⟩
  finished _ h := ⟨h, fun _ => rfl⟩

theorem trans (h : b.Lasts b₁) (h' : b₁.Lasts b') : b.Lasts b' where
  schema := h.schema.trans h'.schema
  clean hc := h.clean (h'.clean hc)
  symbol o s hs := h'.symbol o s (h.symbol o s hs)
  origin id o ho := h'.origin id o (h.origin id o ho)
  header id hid := by
    obtain ⟨x, hx⟩ := h.header id hid
    obtain ⟨y, hy⟩ := h'.header id (h.schema.has hid)
    exact ⟨y, by rw [hy, hx]⟩
  finished id hid := by
    obtain ⟨h₁, hc₁⟩ := h.finished id hid
    obtain ⟨h₂, hc₂⟩ := h'.finished id h₁
    exact ⟨h₂, fun hhas => (hc₂ (h.schema.has hhas)).trans (hc₁ hhas)⟩

end Lasts

theorem symbol_cons {o p : DeclarationId} {s : SymbolId} (h : b'.symbols = (p, s) :: b.symbols) :
    b'.symbol? o = if o = p then some s else b.symbol? o := by
  rw [symbol?, h, List.lookup_cons]
  by_cases ho : o = p
  · simp [ho]
  · have hne : (o == p) = false := by simpa using ho
    rw [hne, if_neg ho, symbol?]

theorem symbol?_addType (b : Builder) (o p : DeclarationId) (t : TypeDef) :
    (b.addType o t).2.symbol? p =
      if p = o then some (.type ⟨b.schema.types.size⟩) else b.symbol? p := symbol_cons rfl

theorem symbol?_addAttribute (b : Builder) (o p : DeclarationId) (a : Attribute) :
    (b.addAttribute o a).2.symbol? p =
      if p = o then some (.attr ⟨b.schema.attributes.size⟩) else b.symbol? p := symbol_cons rfl

theorem symbol?_addElement (b : Builder) (o p : DeclarationId) (e : Element) :
    (b.addElement o e).2.symbol? p =
      if p = o then some (.element ⟨b.schema.elements.size⟩) else b.symbol? p := symbol_cons rfl

/-- A new symbol does not replace another one. -/
theorem symbol_of_new {o p : DeclarationId} {s t : SymbolId}
    (h : b'.symbols = (p, s) :: b.symbols) (hnew : b.symbol? p = none) (ho : b.symbol? o = some t) :
    b'.symbol? o = some t := by
  rw [symbol_cons h, if_neg, ho]
  rintro rfl
  cases hnew.symm.trans ho

theorem origin_of_push {p : DeclarationId}
    (h : b'.origins = b.origins.push p) {id : TypeId} {o : DeclarationId}
    (ho : b.origin? id = some o) : b'.origin? id = some o := by
  unfold origin? at ho ⊢
  split at ho
  · cases ho
  · rename_i hid
    have hlt := (Array.getElem?_eq_some_iff.1 ho).1
    rw [if_neg hid, h, Array.getElem?_push, if_neg (Nat.ne_of_lt hlt), ho]

theorem lasts_addType {o : DeclarationId} {t : TypeDef} {l : Ledger} (hnew : b.symbol? o = none)
    (hl : l.hasErrors = false → b.Clean) : b.Lasts { (b.addType o t).2 with ledger := l } where
  schema := addType_extends b o t
  clean := hl
  symbol _ _ := symbol_of_new rfl hnew
  origin _ _ := origin_of_push rfl
  header _ hid := ⟨_, typeDef_addType_of_has (o := o) (t := t) hid⟩
  finished _ h :=
    ⟨h, fun hid => congrArg TypeDef.content (typeDef_addType_of_has (o := o) (t := t) hid)⟩

theorem lasts_addElement {o : DeclarationId} {e : Element} {l : Ledger}
    (hnew : b.symbol? o = none) (hl : l.hasErrors = false → b.Clean) :
    b.Lasts { (b.addElement o e).2 with ledger := l } :=
  { Lasts.refl b with
    schema := addElement_extends b o e
    clean := hl
    symbol := fun _ _ => symbol_of_new rfl hnew }

theorem lasts_addAttribute {o : DeclarationId} {a : Attribute} (hnew : b.symbol? o = none) :
    b.Lasts (b.addAttribute o a).2 :=
  { Lasts.refl b with
    schema := addAttribute_extends b o a
    symbol := fun _ _ => symbol_of_new rfl hnew }

theorem lasts_finish {id : TypeId} (hid : id ∉ b.finished) (x : Content) :
    b.Lasts (b.finish id x) where
  schema := finish_extends b id x
  clean h := h
  symbol _ _ h := h
  origin _ _ h := h
  header other _ := typeDef_finish b id x other
  finished other h := by
    refine ⟨List.mem_cons_of_mem _ h, fun _ => ?_⟩
    rw [typeDef_finish_of_ne]
    rintro rfl
    exact hid h

theorem TypeStep.lasts (h : b.TypeStep c limits b') : b.Lasts b' := by
  cases h with
  | record clean => exact { Lasts.refl b with clean }
  | openType id => exact { Lasts.refl b with }
  | addType declared new above clean base depth => exact lasts_addType new clean
  | finish origin declared unfinished => exact lasts_finish unfinished _

theorem Step.lasts (h : b.Step c limits b') : b.Lasts b' := by
  cases h with
  | type step => exact step.lasts
  | openAttribute o => exact { Lasts.refl b with }
  | addAttribute declared new => exact lasts_addAttribute new
  | addElement declared new above type clean => exact lasts_addElement new clean
  | finish origin declared unfinished => exact lasts_finish unfinished _

/-! ## Numbers stay in their place -/

theorem Places.nil (b : Builder) : b.Places [] [] := ⟨nofun, fun _ => nofun⟩

theorem places_append {ids ids' : List SymbolId} {simple simple' : List TypeId} :
    b.Places (ids ++ ids') (simple ++ simple') ↔ b.Places ids simple ∧ b.Places ids' simple' := by
  constructor
  · intro h
    obtain ⟨hi, hi'⟩ := List.forall_mem_append.1 h.ids
    exact ⟨⟨hi, fun hc => (List.forall_mem_append.1 (h.simple hc)).1⟩,
      ⟨hi', fun hc => (List.forall_mem_append.1 (h.simple hc)).2⟩⟩
  · rintro ⟨h, h'⟩
    exact ⟨List.forall_mem_append.2 ⟨h.ids, h'.ids⟩,
      fun hc => List.forall_mem_append.2 ⟨h.simple hc, h'.simple hc⟩⟩

theorem places_flatMap {α : Type} {l : List α} {f : α → List SymbolId} {g : α → List TypeId} :
    b.Places (l.flatMap f) (l.flatMap g) ↔ ∀ a ∈ l, b.Places (f a) (g a) := by
  induction l with
  | nil => simp [Places.nil]
  | cons a l ih => rw [List.flatMap_cons, List.flatMap_cons, places_append, ih, List.forall_mem_cons]

theorem placesContent_empty (b : Builder) (k : Kind) : b.PlacesContent k.emptyContent := by
  unfold Kind.emptyContent
  cases k.isComplex <;> exact .nil b

theorem Places.mono {ids : List SymbolId} {simple : List TypeId} (hl : b.Lasts b')
    (h : b.Places ids simple) : b'.Places ids simple where
  ids i hi := hl.schema.issues (h.ids i hi)
  simple hc t ht := hl.schema.isSimple (h.simple (hl.clean hc) t ht)

theorem Placed.symbol (hb : b.Placed) {o : DeclarationId} {s : SymbolId}
    (h : b.symbol? o = some s) : b.schema.Issues s :=
  hb.symbols o s (mem_of_symbol? h)

theorem NamesType.mono (hl : b.Lasts b') {scope : Scope} {r : NameRef} {t : TypeId}
    (h : b.NamesType c scope r t) : b'.NamesType c scope r t :=
  h.imp_right fun ⟨o, ho, hs⟩ => ⟨o, ho, hl.symbol o _ hs⟩

/-- What a reference names was given out. -/
theorem NamesType.has (hb : b.Placed) {scope : Scope} {r : NameRef} {t : TypeId}
    (h : b.NamesType c scope r t) : b.schema.Has t := by
  obtain ⟨k, -, rfl⟩ | ⟨o, -, ho⟩ := h
  · exact hb.builtin k
  · exact hb.symbol ho

/-- Every number stays in its place if those of what a step adds are. -/
theorem Placed.next (hb : b.Placed) (hl : b.Lasts b')
    (symbols : ∀ o s, (o, s) ∈ b'.symbols → (o, s) ∈ b.symbols ∨ b'.schema.Issues s)
    (contents : ∀ id, (b'.schema.typeDef id).content = (b.schema.typeDef id).content ∨
      b'.PlacesContent (b'.schema.typeDef id).content)
    (attributes : ∀ id a, b'.schema.attribute? id = some a →
      b.schema.attribute? id = some a ∨ b'.Places a.ids [a.type])
    (elements : ∀ id e, b'.schema.element? id = some e →
      b.schema.element? id = some e ∨ b'.Places e.ids []) : b'.Placed where
  builtin k := hl.schema.has (hb.builtin k)
  symbols o s h := (symbols o s h).elim (fun h => hl.schema.issues (hb.symbols o s h)) id
  contents i := (contents i).elim (fun h => by rw [h]; exact (hb.contents i).mono hl) id
  attributes i a h := (attributes i a h).elim (fun h => (hb.attributes i a h).mono hl) id
  elements i e h := (elements i e h).elim (fun h => (hb.elements i e h).mono hl) id

theorem placed_of_schema_eq (hb : b.Placed) (hl : b.Lasts b') (hs : b'.schema = b.schema)
    (hy : b'.symbols = b.symbols) : b'.Placed := by
  refine hb.next hl (fun o s h => Or.inl (hy ▸ h)) (fun i => Or.inl ?_) (fun i a h => Or.inl ?_)
    fun i e h => Or.inl ?_
  · rw [hs]
  · rwa [hs] at h
  · rwa [hs] at h

theorem typeDef_finish_of_not_has {id : TypeId} (h : ¬b.schema.Has id) (x : Content)
    (other : TypeId) : (b.finish id x).schema.typeDef other = b.schema.typeDef other := by
  by_cases hother : other = id
  · have hnone : b.schema.types[id.index]? = none := Array.getElem?_eq_none (not_lt.1 h)
    rw [hother, Schema.typeDef, Schema.typeDef, finish]
    simp [Array.getElem?_modify, hnone]
  · exact typeDef_finish_of_ne hother x

theorem placed_finish (hb : b.Placed) {id : TypeId} (hid : id ∉ b.finished) {x : Content}
    (hx : b.PlacesContent x) : (b.finish id x).Placed := by
  have hl := lasts_finish hid x
  refine hb.next hl (fun _ _ h => Or.inl h) (fun other => ?_) (fun _ _ h => Or.inl h)
    fun _ _ h => Or.inl h
  by_cases hother : other = id
  · by_cases hhas : b.schema.Has id
    · rw [hother, typeDef_finish_self hhas]
      exact Or.inr (hx.mono hl)
    · rw [typeDef_finish_of_not_has hhas]
      exact Or.inl rfl
  · rw [typeDef_finish_of_ne hother]
    exact Or.inl rfl

theorem placed_addType (hb : b.Placed) {o : DeclarationId} {t : TypeDef} {l : Ledger}
    (hnew : b.symbol? o = none) (hl : l.hasErrors = false → b.Clean)
    (ht : t.content = t.kind.emptyContent) :
    Placed { (b.addType o t).2 with ledger := l } := by
  have hl := lasts_addType (t := t) hnew hl
  refine hb.next hl (fun p s h => ?_) (fun id => ?_) (fun _ _ h => Or.inl h)
    fun _ _ h => Or.inl h
  · rcases List.mem_cons.1 h with h | h
    · cases h
      exact Or.inr (by simp [Schema.Issues, Schema.Has, addType])
    · exact Or.inl h
  · change ((b.addType o t).2.schema.typeDef id).content = _ ∨ _
    have hdef : Schema.typeDef { (b.addType o t).2 with ledger := l }.schema id =
        (b.addType o t).2.schema.typeDef id := rfl
    rw [hdef, typeDef_addType]
    split
    · rw [ht]
      exact Or.inr (placesContent_empty _ _)
    · exact Or.inl rfl

theorem placed_addAttribute (hb : b.Placed) {o : DeclarationId} {a : Attribute}
    (hnew : b.symbol? o = none) (ha : b.Places a.ids [a.type]) : (b.addAttribute o a).2.Placed := by
  have hl := lasts_addAttribute (a := a) hnew
  refine hb.next hl (fun p s h => ?_) (fun _ => Or.inl rfl) (fun id x h => ?_)
    fun _ _ h => Or.inl h
  · rcases List.mem_cons.1 h with h | h
    · cases h
      exact Or.inr (by simp [Schema.Issues, addAttribute])
    · exact Or.inl h
  · simp only [Schema.attribute?, addAttribute, Array.getElem?_push] at h
    split at h
    · obtain rfl := Option.some.inj h
      exact Or.inr (ha.mono hl)
    · exact Or.inl h

theorem placed_addElement (hb : b.Placed) {o : DeclarationId} {e : Element} {l : Ledger}
    (hnew : b.symbol? o = none) (hl : l.hasErrors = false → b.Clean) (he : b.Places e.ids []) :
    Placed { (b.addElement o e).2 with ledger := l } := by
  have hl := lasts_addElement (e := e) hnew hl
  refine hb.next hl (fun p s h => ?_) (fun _ => Or.inl rfl) (fun _ _ h => Or.inl h)
    fun id x h => ?_
  · rcases List.mem_cons.1 h with h | h
    · cases h
      exact Or.inr (by simp [Schema.Issues, addElement])
    · exact Or.inl h
  · simp only [Schema.element?, addElement, Array.getElem?_push] at h
    split at h
    · obtain rfl := Option.some.inj h
      exact Or.inr (he.mono hl)
    · exact Or.inl h

theorem Above.mono {α : Type} {as? : SymbolId → Option α}
    {link : DeclarationId → Except Diagnostic (Link α)} {o : DeclarationId} {a : α}
    (hl : b.Lasts b') (h : b.Above as? link o a) : b'.Above as? link o a := by
  refine h.imp_right fun ⟨p, hp, hs⟩ => ⟨p, hp, ?_⟩
  obtain ⟨s, hs, ha⟩ := Option.bind_eq_some_iff.1 hs
  exact Option.bind_eq_some_iff.2 ⟨s, hl.symbol p s hs, ha⟩

/-- The head of an element was given out. -/
theorem Above.head (hb : b.Placed) {o : DeclarationId} {head : Option ElementId}
    (h : b.Above (fun s => s.asElement?.map some) (elementLink c) o head) {up : ElementId}
    (hup : head = some up) : up.index < b.schema.elements.size := by
  rcases h with hroot | ⟨p, -, hp⟩
  · cases (Ensures.elementLink_root hroot).symm.trans hup
  · obtain ⟨s, hs, he⟩ := Option.bind_eq_some_iff.1 hp
    cases s with
    | type t => cases he
    | attr a => cases he
    | element i =>
      obtain rfl := Option.some.inj ((Option.some.inj he).trans hup)
      exact hb.symbol hs

theorem TypeStep.placed (h : b.TypeStep c limits b') (hb : b.Placed) : b'.Placed := by
  have hl := h.lasts
  cases h with
  | record clean => exact placed_of_schema_eq hb hl rfl rfl
  | openType id => exact placed_of_schema_eq hb hl rfl rfl
  | addType declared new above clean => exact placed_addType hb new clean rfl
  | finish origin declared unfinished kind inv placed base run places =>
    exact placed_finish hb unfinished places

theorem Step.placed (h : b.Step c limits b') (hb : b.Placed) : b'.Placed := by
  have hl := h.lasts
  cases h with
  | type step => exact step.placed hb
  | openAttribute o => exact placed_of_schema_eq hb hl rfl rfl
  | addAttribute declared new inv placed run places => exact placed_addAttribute hb new places
  | @addElement o d e t head l declared new above type clean allowed =>
    refine placed_addElement hb new clean ⟨?_, fun _ => nofun⟩
    have hhead : ∀ up, head = some up → b.schema.Issues (.element up) := fun up hup =>
      above.head hb hup
    simp only [Element.ids, Declaration.element, Option.toList_none, List.append_nil,
      List.forall_mem_cons, List.mem_map, Option.mem_toList]
    refine ⟨type.has hb, ?_⟩
    rintro _ ⟨up, hup, rfl⟩
    exact hhead up hup
  | finish origin declared unfinished kind inv placed base run places =>
    exact placed_finish hb unfinished places

/-! ## Sequences of steps -/

/-- The steps in question. -/
inductive Extent
  /-- Those that concern types alone. -/
  | types
  | all

/-- The relation of a step. -/
def Extent.Step (c : Catalog) (limits : Limits) : Extent → Builder → Builder → Prop
  | .types => TypeStep c limits
  | .all => Builder.Step c limits

/-- The relation of any number of steps. -/
abbrev Extent.Steps (c : Catalog) (limits : Limits) (k : Extent) : Builder → Builder → Prop :=
  ReflTransGen (k.Step c limits)

theorem TypeStep.step {k : Extent} (h : b.TypeStep c limits b') : k.Step c limits b b' := by
  cases k with
  | types => exact h
  | all => exact .type h

theorem Extent.Step.of_any {k : Extent} (h : k.Step c limits b b') : b.Step c limits b' := by
  cases k with
  | types => exact .type h
  | all => exact h

namespace Extent.Steps

variable {k : Extent}

theorem of_any (h : k.Steps c limits b b') : Extent.all.Steps c limits b b' :=
  ReflTransGen.mono (fun _ _ h => Extent.Step.of_any h) _ _ h

theorem lasts (h : k.Steps c limits b b') : b.Lasts b' := by
  induction h with
  | refl => exact .refl b
  | tail _ step ih => exact ih.trans (Extent.Step.of_any step).lasts

theorem placed (h : k.Steps c limits b b') (hb : b.Placed) : b'.Placed := by
  induction h with
  | refl => exact hb
  | tail _ step ih => exact (Extent.Step.of_any step).placed ih

end Extent.Steps

/-- A step on types gives a symbol to no other declaration. -/
theorem TypeStep.symbol_eq (h : b.TypeStep c limits b') {o : DeclarationId}
    (ho : ¬c.DeclaresType o) : b'.symbol? o = b.symbol? o := by
  cases h with
  | record clean => rfl
  | openType id => rfl
  | @addType p d t up l declared =>
    obtain ⟨hd, ht⟩ := Catalog.getAs?_eq_some_iff.1 declared
    rw [symbol_cons rfl, if_neg]
    rintro rfl
    exact ho (by simp [Catalog.DeclaresType, hd, ht])
  | finish => rfl

theorem symbol_eq_of_typeSteps (h : Extent.types.Steps c limits b b') {o : DeclarationId}
    (ho : ¬c.DeclaresType o) : b'.symbol? o = b.symbol? o := by
  induction h with
  | refl => rfl
  | tail _ step ih => exact (TypeStep.symbol_eq step ho).trans ih

end Builder

end Schemata
