import Schemata.Compile.Basic
import Schemata.Proofs.Narrowing
import Schemata.Validation.Check

/-!
# What holds throughout a compilation

`Builder.Inv` is the invariant of a compilation, and `Builder.Grows` says what its steps leave
alone.

* The schema grows as `Schema.Extends` says, and a type that has its content keeps it.
* A type with content is well formed: attributes and members differ in their names, the use of a
  global element agrees with that element, and default values fit their types.
* As long as no error is recorded, restrictions narrow their bases, and elements may stand in for
  those that they substitute.
* Complex types get their content one at a time, in turn; in between, only simple types do.
-/

namespace Schemata

/-! ## Well-formed content -/

/-- The use of a global element agrees with the global element. -/
def Element.Faithful (s : Schema) (e : Element) : Prop :=
  ∀ id, e.referenced = some id → ∃ g, s.element? id = some g ∧ e = g.asReference id e.span

mutual

/-- The names in every set of a member are distinct, and the elements are faithful. A local element
gives its name to the member. -/
def Member.Sound (s : Schema) : Member → Prop
  | .element l e _ => e.Faithful s ∧ (e.referenced = none → l.name = e.name)
  | .set _ _ members _ => (members.map Member.name).Nodup ∧ Member.AllSound s members
  | .list _ item _ => Member.Sound s item

/-- Every member is sound. -/
def Member.AllSound (s : Schema) : List Member → Prop
  | [] => True
  | m :: ms => Member.Sound s m ∧ Member.AllSound s ms

end

/-- The members of a set have distinct names and are sound. -/
structure Member.SetSound (s : Schema) (members : List Member) : Prop where
  names : (members.map Member.name).Nodup
  members : ∀ m ∈ members, m.Sound s

/-- The attributes of a type, and the members of its child set, have distinct names. -/
structure ComplexContent.Sound (s : Schema) (c : ComplexContent) : Prop where
  attributes : ((c.attributes.getD []).map Attribute.name).Nodup
  members : ∀ set, c.childSet? = some set → Member.SetSound s set.members

theorem Member.allSound_iff {s : Schema} {ms : List Member} :
    Member.AllSound s ms ↔ ∀ m ∈ ms, m.Sound s := by
  induction ms with
  | nil => simp [Member.AllSound]
  | cons m ms ih => simp [Member.AllSound, ih]

theorem Member.sound_set {s : Schema} {l : MemberLabel} {k : SetKind} {ms : List Member}
    {p : Option Span} : (Member.set l k ms p).Sound s ↔ Member.SetSound s ms := by
  rw [Member.Sound, Member.allSound_iff]
  exact ⟨fun h => ⟨h.1, h.2⟩, fun h => ⟨h.names, h.members⟩⟩

section Mono

variable {s s' : Schema}

theorem Element.Faithful.mono (hs : s.Extends s') {e : Element} (h : e.Faithful s) :
    e.Faithful s' := by
  intro id hid
  obtain ⟨g, hg, he⟩ := h id hid
  exact ⟨g, hs.element id g hg, he⟩

mutual

theorem Member.Sound.mono (hs : s.Extends s') {m : Member} (h : m.Sound s) : m.Sound s' := by
  cases m with
  | element l e o => exact ⟨Element.Faithful.mono hs h.1, h.2⟩
  | set l k ms p => exact ⟨h.1, Member.AllSound.mono hs h.2⟩
  | list l i o => exact Member.Sound.mono (m := i) hs h

theorem Member.AllSound.mono (hs : s.Extends s') {ms : List Member} (h : Member.AllSound s ms) :
    Member.AllSound s' ms := by
  cases ms with
  | nil => trivial
  | cons m ms => exact ⟨Member.Sound.mono hs h.1, Member.AllSound.mono hs h.2⟩

end

theorem Member.SetSound.mono (hs : s.Extends s') {ms : List Member} (h : Member.SetSound s ms) :
    Member.SetSound s' ms :=
  ⟨h.names, fun m hm => (h.members m hm).mono hs⟩

theorem ComplexContent.Sound.mono (hs : s.Extends s') {c : ComplexContent} (h : c.Sound s) :
    c.Sound s' :=
  ⟨h.attributes, fun set hset => (h.members set hset).mono hs⟩

end Mono

/-! ## Kinds -/

theorem Kind.exists_rank {i : Nat} (h : i < Kind.all.length) : ∃ k : Kind, k.rank = i := by
  have key : ∀ i : Fin Kind.all.length, (Kind.all.get i).rank = i.val := by decide
  exact ⟨Kind.all.get ⟨i, h⟩, key ⟨i, h⟩⟩

theorem Kind.rank_lt (k : Kind) : k.rank < Kind.all.length := by
  have key : ∀ k ∈ Kind.all, k.rank < Kind.all.length := by decide
  exact key k (mem_all k)

theorem Kind.rank_base {k l : Kind} (h : k.base = some l) : l.rank < k.rank := by
  have key : ∀ k ∈ Kind.all, ∀ l ∈ Kind.all, k.base = some l → l.rank < k.rank := by decide
  exact key k (mem_all k) l (mem_all l) h

theorem Kind.isSimple_base {k l : Kind} (h : k.base = some l) : l.isSimple := by
  have key : ∀ k ∈ Kind.all, ∀ l ∈ Kind.all, k.base = some l → l.isSimple := by decide
  exact key k (mem_all k) l (mem_all l) h

theorem Kind.eq_of_asSimple?_builtin {k : Kind} {d : SimpleContent}
    (h : k.builtin.asSimple? = some d) : d = {} := by
  rw [TypeDef.asSimple?, show k.builtin.content = k.emptyContent from rfl, Kind.emptyContent] at h
  by_cases hk : k.isComplex
  · simp [hk] at h
  · simpa [hk, eq_comm] using h

theorem Kind.eq_of_asComplex?_builtin {k : Kind} {d : ComplexContent}
    (h : k.builtin.asComplex? = some d) : d = {} := by
  rw [TypeDef.asComplex?, show k.builtin.content = k.emptyContent from rfl, Kind.emptyContent] at h
  by_cases hk : k.isComplex
  · simpa [hk, eq_comm] using h
  · simp [hk] at h

/-- A built-in complex type has no base. -/
theorem Kind.base_builtin_of_asComplex? {k : Kind} {d : ComplexContent}
    (h : k.builtin.asComplex? = some d) : k.builtin.base = none := by
  cases k with
  | complexType => rfl
  | integer i => cases h
  | _ => cases h

/-! ## Values that were read -/

/-- A value that some literal is read as: one of its kind, or a list of words of one kind. -/
def SimpleValue.IsRead : SimpleValue → Prop
  | .atomic v => ∃ literal, Atomic.read v.kind literal = .ok (some v)
  | .list vs =>
    ∃ k literal, Schema.readAll k ((Text.words literal).map String.ofList) = .ok (some vs)

/-! ## Statements about a builder -/

/-- The declaration is that of a type. -/
def Catalog.DeclaresType (c : Catalog) (o : DeclarationId) : Prop :=
  ((c.get? o).bind (·.asType?)).isSome

/-- What declares an attribute declares no type. -/
theorem Catalog.not_declaresType_of_attribute {c : Catalog} {o : DeclarationId} {d : Declaration}
    {a : GlobalAttributeDecl} (h : c.getAs? (·.asAttribute?) o = some (d, a)) :
    ¬c.DeclaresType o := by
  obtain ⟨hd, ha⟩ := getAs?_eq_some_iff.1 h
  rw [Declaration.asAttribute?] at ha
  rw [DeclaresType, hd, Option.bind_some, Declaration.asType?]
  cases hm : d.member <;> simp [hm] at ha ⊢

/-- What declares an element declares no type. -/
theorem Catalog.not_declaresType_of_element {c : Catalog} {o : DeclarationId} {d : Declaration}
    {e : GlobalElementDecl} (h : c.getAs? (·.asElement?) o = some (d, e)) :
    ¬c.DeclaresType o := by
  obtain ⟨hd, he⟩ := getAs?_eq_some_iff.1 h
  rw [Declaration.asElement?] at he
  rw [DeclaresType, hd, Option.bind_some, Declaration.asType?]
  cases hm : d.member <;> simp [hm] at he ⊢

namespace Builder

/-- No error was recorded. -/
def Clean (b : Builder) : Prop := b.ledger.hasErrors = false

/-- The declaration has a symbol, which is a type. -/
def TypeKnown (b : Builder) (o : DeclarationId) : Prop := ((b.symbol? o).bind (·.asType?)).isSome

/-- Every declaration of a type has its symbol. -/
def Settled (b : Builder) (c : Catalog) : Prop := ∀ o, c.DeclaresType o → b.TypeKnown o

/-- What the header of a declared type says is what its declaration says. -/
def Declares (b : Builder) (c : Catalog) (id : TypeId) (o : DeclarationId) : Prop :=
  ∃ d t up, c.get? o = some d ∧ d.asType? = some t ∧ (b.schema.typeDef id).base = some up ∧
    up.index < id.index ∧
    t.header (b.schema.typeDef up) =
      ((b.schema.typeDef id).kind, (b.schema.typeDef id).derivation) ∧
    ∀ root, typeLink c o = .ok (.root root) → up = root

/-- A value that was read from a literal fits a type that has its content, and the facets of that
type admit it. If the type of the items has a number below a bound, it has its content too and the
items fit as well. -/
structure ValueFits (b : Builder) (bound : Nat) (type : TypeId) (v : SimpleValue) : Prop where
  has : b.schema.Has type
  finished : b.isFinished type
  read : v.IsRead
  kind : b.schema.fitsKind (b.schema.typeDef type) v
  facets : (b.schema.typeDef type).facets?.elim [] (·.violations v) = []
  items : ∀ item, (b.schema.typeDef type).item? = some item → item.index < bound →
    b.schema.Has item ∧ b.isFinished item ∧ b.schema.failures type v = []

/-- The default value of an attribute, if it has one, fits the type of the attribute. -/
def DefaultFits (b : Builder) (bound : Nat) (a : Attribute) : Prop :=
  ∀ v, a.defaultValue = some v → b.ValueFits bound a.type v

/-- An attribute that is made in a type: its default value fits, and either it has its type and its
default value from a global attribute, or all is checked that a bound allows. -/
structure Made (b : Builder) (bound : Nat) (a : Attribute) : Prop where
  fits : b.DefaultFits 0 a
  origin : (∃ i g, a.referenced = some i ∧ b.schema.attribute? i = some g ∧ a.type = g.type ∧
    a.defaultValue = g.defaultValue) ∨ b.DefaultFits bound a

/-- Where an attribute of a type comes from: it is inherited, or made in the type. -/
def Comes (b : Builder) (id : TypeId) (a : Attribute) : Prop :=
  (∃ up d, (b.schema.typeDef id).base = some up ∧ (b.schema.typeDef up).asComplex? = some d ∧
    a ∈ d.attributes.getD []) ∨
  b.Made id.index a

/-- All types whose numbers are below a bound have their content. -/
def FinishedBelow (b : Builder) (bound : Nat) : Prop :=
  ∀ id : TypeId, id.index < bound → b.schema.Has id ∧ b.isFinished id

/-- A declared type that has its content. -/
structure TypeSound (b : Builder) (id : TypeId) : Prop where
  has : b.schema.Has id
  base : ∀ up, (b.schema.typeDef id).base = some up → b.isFinished up
  simple : ∀ c up d, (b.schema.typeDef id).asSimple? = some c →
    (b.schema.typeDef id).base = some up → (b.schema.typeDef up).asSimple? = some d →
    c.Narrows b.schema d
  content : ∀ c, (b.schema.typeDef id).asComplex? = some c → c.Sound b.schema
  defaults : ∀ c, (b.schema.typeDef id).asComplex? = some c → ∀ a ∈ c.attributes.getD [],
    b.DefaultFits 0 a ∧ b.Comes id a

/-- A declared type that has its content, which is free of errors. -/
structure TypeStrict (b : Builder) (id : TypeId) : Prop where
  restriction : (b.schema.typeDef id).derivation = .restriction →
    ∀ c up d, (b.schema.typeDef id).asComplex? = some c →
    (b.schema.typeDef id).base = some up → (b.schema.typeDef up).asComplex? = some d →
    c.Narrows b.schema d
  item : ∀ item, (b.schema.typeDef id).item? = some item → (b.schema.typeDef item).kind.isSimple

/-- What holds as long as no error is recorded. -/
structure Strict (b : Builder) : Prop where
  types : ∀ id ∈ b.finished, b.TypeStrict id
  substitution : ∀ id e up h, b.schema.element? id = some e → e.substituted = some up →
    b.schema.element? up = some h →
    b.schema.derives e.type h.type ∧ (e.isNullable → h.isNullable)

/-- The invariant of a compilation. -/
structure Inv (c : Catalog) (b : Builder) : Prop where
  builtin : ∀ k : Kind, b.schema.types[k.rank]? = some k.builtin
  size : b.schema.types.size = Kind.all.length + b.origins.size
  declared : ∀ id o, b.origin? id = some o → b.Declares c id o
  typeSymbols : ∀ o t, (o, SymbolId.type t) ∈ b.symbols → b.schema.Has t
  elementSymbols : ∀ o e, (o, SymbolId.element e) ∈ b.symbols →
    e.index < b.schema.elements.size
  heads : ∀ id up, b.schema.substituted? id = some up → up.index < id.index
  attributes : ∀ id a, b.schema.attribute? id = some a → b.DefaultFits 0 a
  contents : ∀ id, (b.schema.typeDef id).kind.isSimple = (b.schema.typeDef id).asSimple?.isSome
  finished : ∀ id ∈ b.finished, b.TypeSound id
  strict : b.Clean → b.Strict

/-- What a step of a compilation leaves alone. -/
structure Grows (c : Catalog) (b b' : Builder) : Prop where
  schema : b.schema.Extends b'.schema
  content : ∀ id, b.schema.Has id → b.isFinished id →
    (b'.schema.typeDef id).content = (b.schema.typeDef id).content
  origin : ∀ id o, b.origin? id = some o → b'.origin? id = some o
  finished : ∀ id ∈ b.finished, id ∈ b'.finished
  known : ∀ o, c.DeclaresType o → b.TypeKnown o → b'.TypeKnown o
  /-- Where every type has its symbol, no type is added. -/
  settled : b.Settled c → b'.schema.types.size = b.schema.types.size
  clean : b'.Clean → b.Clean

/-- Growth in which only simple types get their content. -/
structure GrowsCalmly (c : Catalog) (b b' : Builder) : Prop extends Grows c b b' where
  simple : ∀ id ∈ b'.finished, id ∉ b.finished → (b'.schema.typeDef id).kind.isSimple

/-! ## What the invariant implies -/

section Inv

variable {c : Catalog} {b : Builder}

theorem Inv.has_of_builtin (hb : b.Inv c) {id : TypeId} (h : id.index < Kind.all.length) :
    b.schema.Has id := by
  rw [Schema.Has, hb.size]
  omega

theorem Inv.typeDef_builtin (hb : b.Inv c) (k : Kind) : b.schema.typeDef k.typeId = k.builtin := by
  rw [Schema.typeDef, Kind.typeId, hb.builtin k]
  rfl

theorem isFinished_iff {id : TypeId} :
    b.isFinished id ↔ b.origin? id = none ∨ id ∈ b.finished := by
  simp [isFinished, Option.isNone_iff_eq_none]

theorem isFinished_of_mem {id : TypeId} (h : id ∈ b.finished) : b.isFinished id :=
  isFinished_iff.2 (Or.inr h)

theorem Inv.exists_kind (hb : b.Inv c) {id : TypeId} (h : id.index < Kind.all.length) :
    ∃ k : Kind, id = k.typeId ∧ b.schema.typeDef id = k.builtin := by
  obtain ⟨k, hk⟩ := Kind.exists_rank h
  obtain rfl : k.typeId = id := congrArg TypeId.mk hk
  exact ⟨k, rfl, hb.typeDef_builtin k⟩

theorem Inv.builtin_of_origin (hb : b.Inv c) {id : TypeId} (hid : b.schema.Has id)
    (h : b.origin? id = none) : id.index < Kind.all.length := by
  by_contra hlt
  rw [origin?, if_neg hlt, Array.getElem?_eq_none_iff] at h
  rw [Schema.Has, hb.size] at hid
  omega

theorem origin_of_builtin {id : TypeId} (h : id.index < Kind.all.length) :
    b.origin? id = none := by
  rw [origin?, if_pos h]

theorem Inv.origin_of_has (hb : b.Inv c) {id : TypeId} (hid : b.schema.Has id)
    (h : ¬id.index < Kind.all.length) : ∃ o, b.origin? id = some o := by
  cases ho : b.origin? id with
  | none => exact absurd (hb.builtin_of_origin hid ho) h
  | some o => exact ⟨o, rfl⟩

theorem Inv.ordered (hb : b.Inv c) : b.schema.Ordered where
  base id up h := by
    by_cases hid : id.index < Kind.all.length
    · obtain ⟨k, rfl, hk⟩ := hb.exists_kind hid
      rw [hk] at h
      obtain ⟨l, hl, rfl⟩ := Option.map_eq_some_iff.1 h
      exact Kind.rank_base hl
    · obtain ⟨o, ho⟩ := hb.origin_of_has (Schema.has_of_base h) hid
      obtain ⟨d, t, up', -, -, hup, hlt, -, -⟩ := hb.declared id o ho
      obtain rfl := Option.some.inj (h.symm.trans hup)
      exact hlt
  substituted := hb.heads

theorem Inv.has_base (hb : b.Inv c) {id up : TypeId} (h : (b.schema.typeDef id).base = some up) :
    b.schema.Has up :=
  Nat.lt_trans (hb.ordered.base id up h) (Schema.has_of_base h)

end Inv

/-! ## Growth -/

namespace Grows

variable {c : Catalog} {b b₁ b₂ : Builder}

theorem refl (c : Catalog) (b : Builder) : b.Grows c b where
  schema := .refl _
  content _ _ _ := rfl
  origin _ _ h := h
  finished _ h := h
  known _ _ h := h
  settled _ := rfl
  clean h := h

/-- A finished type stays finished. -/
theorem isFinished (hb : b.Inv c) (hg : b.Grows c b₁) {id : TypeId} (hid : b.schema.Has id)
    (h : b.isFinished id) : b₁.isFinished id := by
  rw [isFinished_iff] at h ⊢
  exact h.imp (fun h => origin_of_builtin (hb.builtin_of_origin hid h)) (hg.finished id)

theorem trans (hb : b.Inv c) (hg : b.Grows c b₁) (hg' : b₁.Grows c b₂) : b.Grows c b₂ where
  schema := hg.schema.trans hg'.schema
  content id hid hf :=
    (hg'.content id (hg.schema.has hid) (hg.isFinished hb hid hf)).trans (hg.content id hid hf)
  origin id o h := hg'.origin id o (hg.origin id o h)
  finished id h := hg'.finished id (hg.finished id h)
  known o ho h := hg'.known o ho (hg.known o ho h)
  settled hs := by
    have hs₁ : b₁.Settled c := fun o ho => hg.known o ho (hs o ho)
    exact (hg'.settled hs₁).trans (hg.settled hs)
  clean h := hg.clean (hg'.clean h)

end Grows

namespace GrowsCalmly

variable {c : Catalog} {b b₁ b₂ : Builder}

theorem refl (c : Catalog) (b : Builder) : b.GrowsCalmly c b :=
  ⟨.refl c b, fun _ h h' => absurd h h'⟩

theorem trans (hb : b.Inv c) (hb₁ : b₁.Inv c) (hg : b.GrowsCalmly c b₁)
    (hg' : b₁.GrowsCalmly c b₂) : b.GrowsCalmly c b₂ where
  toGrows := hg.toGrows.trans hb hg'.toGrows
  simple id h h' := by
    by_cases h₁ : id ∈ b₁.finished
    · rw [hg'.schema.kind id (hb₁.finished id h₁).has]
      exact hg.simple id h₁ h'
    · exact hg'.simple id h h₁

/-- A complex type does not get its content in calm growth. -/
theorem not_mem (hg : b.GrowsCalmly c b₁) {id : TypeId} (hid : b.schema.Has id)
    (hk : (b.schema.typeDef id).kind.isSimple = false) (h : id ∉ b.finished) :
    id ∉ b₁.finished := by
  intro h₁
  have := hg.simple id h₁ h
  rw [hg.schema.kind id hid, hk] at this
  cases this

end GrowsCalmly

/-! ## What lasts -/

section Last

variable {c : Catalog} {b b' : Builder}

namespace Grows

variable (hg : b.Grows c b') {id : TypeId}
include hg

theorem asSimple?_eq (hid : b.schema.Has id) (h : b.isFinished id) :
    (b'.schema.typeDef id).asSimple? = (b.schema.typeDef id).asSimple? := by
  rw [TypeDef.asSimple?, TypeDef.asSimple?, hg.content id hid h]

theorem asComplex?_eq (hid : b.schema.Has id) (h : b.isFinished id) :
    (b'.schema.typeDef id).asComplex? = (b.schema.typeDef id).asComplex? := by
  rw [TypeDef.asComplex?, TypeDef.asComplex?, hg.content id hid h]

theorem facets?_eq (hid : b.schema.Has id) (h : b.isFinished id) :
    (b'.schema.typeDef id).facets? = (b.schema.typeDef id).facets? := by
  rw [TypeDef.facets?, TypeDef.facets?, hg.asSimple?_eq hid h]

theorem item?_eq (hid : b.schema.Has id) (h : b.isFinished id) :
    (b'.schema.typeDef id).item? = (b.schema.typeDef id).item? := by
  rw [TypeDef.item?, TypeDef.item?, hg.asSimple?_eq hid h]

end Grows

/-- The items of a list that fits its type are atomic, and the schema has the type of the items
unless there are none. -/
theorem items_of_fitsKind {s : Schema} {t : TypeDef} {items : List SimpleValue}
    (h : s.fitsKind t (.list items)) : ∃ item, t.item? = some item ∧ t.kind.isList ∧
      ∀ v ∈ items, ∃ a, v = .atomic a ∧ a.kind = (s.typeDef item).kind := by
  simp only [Schema.fitsKind, Bool.and_eq_true, Option.any_eq_true] at h
  obtain ⟨hk, item, hi, hall⟩ := h
  refine ⟨item, hi, hk, fun v hv => ?_⟩
  have := List.all_eq_true.1 hall v hv
  cases v with
  | atomic a => exact ⟨a, rfl, by simpa [SimpleValue.asAtomic?] using this⟩
  | list vs => simp [SimpleValue.asAtomic?] at this

/-- Items that are atomic are held against the facets of their type alone. -/
theorem itemFailures_congr {s s' : Schema} {item : TypeId}
    (h : (s'.typeDef item).facets? = (s.typeDef item).facets?) {vs : List SimpleValue}
    (hv : ∀ v ∈ vs, ∃ a, v = .atomic a) : s'.itemFailures item vs = s.itemFailures item vs := by
  induction vs with
  | nil => rfl
  | cons v vs ih =>
    obtain ⟨⟨a, rfl⟩, hvs⟩ := List.forall_mem_cons.1 hv
    simp only [Schema.itemFailures, Schema.failures, h, ih hvs]

theorem failures_congr {s s' : Schema} {t : TypeId} {v : SimpleValue}
    (hk : s.fitsKind (s.typeDef t) v) (hf : (s'.typeDef t).facets? = (s.typeDef t).facets?)
    (hi : (s'.typeDef t).item? = (s.typeDef t).item?)
    (hitem : ∀ item, (s.typeDef t).item? = some item →
      (s'.typeDef item).facets? = (s.typeDef item).facets?) :
    s'.failures t v = s.failures t v := by
  cases v with
  | atomic a => simp only [Schema.failures, hf]
  | list vs =>
    obtain ⟨item, hti, -, hvs⟩ := items_of_fitsKind hk
    have hat : ∀ v ∈ vs, ∃ a, v = SimpleValue.atomic a := fun v hv =>
      let ⟨a, ha, _⟩ := hvs v hv
      ⟨a, ha⟩
    simp only [Schema.failures, hf, hi, hti, itemFailures_congr (hitem item hti) hat]

theorem fitsKind_mono {s s' : Schema} (hs : s.Extends s') {t : TypeId} (ht : s.Has t)
    (hi : (s'.typeDef t).item? = (s.typeDef t).item?) {v : SimpleValue}
    (h : s.fitsKind (s.typeDef t) v) : s'.fitsKind (s'.typeDef t) v := by
  cases v with
  | atomic a => rwa [Schema.fitsKind, hs.kind t ht]
  | list vs =>
    obtain ⟨item, hti, hk, hvs⟩ := items_of_fitsKind h
    simp only [Schema.fitsKind, hs.kind t ht, hk, hi, hti, Bool.true_and, Option.any_some,
      List.all_eq_true]
    intro v hv
    obtain ⟨a, rfl, ha⟩ := hvs v hv
    -- a number that the schema lacks stands for a complex type, which has no values
    have hitem : s.Has item := by
      by_contra hn
      have hat := a.kind_isAtomic
      rw [ha, Schema.typeDef_of_not_has hn] at hat
      cases hat
    simp [SimpleValue.asAtomic?, hs.kind item hitem, ha]

variable (hb : b.Inv c) (hg : b.Grows c b')
include hb hg

theorem ValueFits.mono {n : Nat} {t : TypeId} {v : SimpleValue} (h : b.ValueFits n t v) :
    b'.ValueFits n t v where
  has := hg.schema.has h.has
  finished := hg.isFinished hb h.has h.finished
  read := h.read
  kind := fitsKind_mono hg.schema h.has (hg.item?_eq h.has h.finished) h.kind
  facets := by
    rw [hg.facets?_eq h.has h.finished]
    exact h.facets
  items item hi hn := by
    rw [hg.item?_eq h.has h.finished] at hi
    obtain ⟨hhas, hfin, hv⟩ := h.items item hi hn
    refine ⟨hg.schema.has hhas, hg.isFinished hb hhas hfin, ?_⟩
    rw [failures_congr h.kind (hg.facets?_eq h.has h.finished) (hg.item?_eq h.has h.finished)]
    · exact hv
    · intro item' hi'
      obtain rfl := Option.some.inj (hi.symm.trans hi')
      exact hg.facets?_eq hhas hfin

theorem DefaultFits.mono {n : Nat} {a : Attribute} (h : b.DefaultFits n a) :
    b'.DefaultFits n a :=
  fun v hv => (h v hv).mono hb hg

theorem Made.mono {n : Nat} {a : Attribute} (h : b.Made n a) : b'.Made n a where
  fits := h.fits.mono hb hg
  origin := h.origin.imp
    (fun ⟨i, g, hi, hgl, ht⟩ => ⟨i, g, hi, hg.schema.attr i g hgl, ht⟩) (·.mono hb hg)

theorem FinishedBelow.mono {n : Nat} (h : b.FinishedBelow n) : b'.FinishedBelow n := by
  intro id hid
  obtain ⟨hhas, hf⟩ := h id hid
  exact ⟨hg.schema.has hhas, hg.isFinished hb hhas hf⟩

theorem Comes.mono {id : TypeId} {a : Attribute}
    (hup : ∀ up, (b.schema.typeDef id).base = some up → b.schema.Has up ∧ b.isFinished up)
    (h : b.Comes id a) : b'.Comes id a := by
  rcases h with ⟨up, d, hbase, hd, ha⟩ | h
  · obtain ⟨hhas, hfin⟩ := hup up hbase
    refine Or.inl ⟨up, d, hg.schema.base_eq_some hbase, ?_, ha⟩
    rwa [hg.asComplex?_eq hhas hfin]
  · exact Or.inr (h.mono hb hg)

theorem TypeSound.mono {id : TypeId} (hf : b.isFinished id) (h : b.TypeSound id) :
    b'.TypeSound id := by
  have hbase := hg.schema.base id h.has
  have hup : ∀ up, (b.schema.typeDef id).base = some up → b.schema.Has up ∧ b.isFinished up :=
    fun up hu => ⟨hb.has_base hu, h.base up hu⟩
  constructor
  · exact hg.schema.has h.has
  · intro up hu
    rw [hbase] at hu
    exact hg.isFinished hb (hup up hu).1 (hup up hu).2
  · intro c up d hc hu hd
    rw [hbase] at hu
    rw [hg.asSimple?_eq h.has hf] at hc
    rw [hg.asSimple?_eq (hup up hu).1 (hup up hu).2] at hd
    exact (h.simple c up d hc hu hd).mono hg.schema
  · intro c hc
    rw [hg.asComplex?_eq h.has hf] at hc
    exact (h.content c hc).mono hg.schema
  · intro c hc a ha
    rw [hg.asComplex?_eq h.has hf] at hc
    obtain ⟨hd, ho⟩ := h.defaults c hc a ha
    exact ⟨hd.mono hb hg, ho.mono hb hg hup⟩

theorem TypeStrict.mono {id : TypeId} (hid : id ∈ b.finished) (h : b.TypeStrict id) :
    b'.TypeStrict id := by
  have hs := hb.finished id hid
  have hfin := isFinished_of_mem hid
  constructor
  · intro hd c up d hc hu hcd
    rw [hg.schema.derivation id hs.has] at hd
    rw [hg.schema.base id hs.has] at hu
    rw [hg.asComplex?_eq hs.has hfin] at hc
    rw [hg.asComplex?_eq (hb.has_base hu) (hs.base up hu)] at hcd
    exact (h.restriction hd c up d hc hu hcd).mono hg.schema
  · intro item hi
    rw [hg.item?_eq hs.has hfin] at hi
    exact hg.schema.isSimple (h.item item hi)

end Last

end Builder

end Schemata
