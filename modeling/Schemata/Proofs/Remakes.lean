import Schemata.Proofs.Defaults
import Schemata.Proofs.Integrity
import Schemata.Proofs.Rearrangement
import Schemata.Proofs.Renumbering
import Schemata.Proofs.Sources

/-!
# Compiling the same declarations again

A `Remake` is a compilation that was accepted, together with its namespaces in another order, which
are now compiled as well. What the second compilation has made so far can be compared with what the
first one made: each symbol of the first one that the second one has too gets the number that it has
there (`Remake.numbering`), and all that is stored is the same apart from the numbers
(`Remake.Mirrors`). This comparison does not change any more when the second compilation goes on.
-/

namespace Schemata

/-- The schema admits the default values of its attributes. -/
def Schema.AdmitsDefaults (s : Schema) : Prop :=
  ∀ a, s.HasAttribute a → ∀ v, a.defaultValue = some v → s.failures a.type v = []

namespace Schema

variable {s : Schema} {a : Attribute}

/-- All attributes of a schema. -/
def allAttributes (s : Schema) : List Attribute :=
  s.attributes.toList ++ s.types.toList.flatMap fun t => (t.asComplex?.bind (·.attributes)).getD []

theorem hasAttribute_iff_mem : s.HasAttribute a ↔ a ∈ s.allAttributes := by
  unfold HasAttribute allAttributes
  rw [List.mem_append]
  refine or_congr ?_ ?_
  · rw [Array.mem_toList_iff]
    constructor
    · rintro ⟨i, hi⟩
      exact Array.mem_of_getElem? hi
    · intro ha
      obtain ⟨i, hi, rfl⟩ := Array.getElem_of_mem ha
      exact ⟨⟨i⟩, Array.getElem?_eq_getElem hi⟩
  · rw [List.mem_flatMap]
    constructor
    · rintro ⟨t, x, hx, ha⟩
      by_cases ht : s.Has t
      · refine ⟨s.typeDef t, ?_, by rw [hx]; exact ha⟩
        rw [Array.mem_toList_iff, typeDef, Array.getElem?_eq_getElem ht]
        exact Array.getElem_mem ht
      · rw [typeDef_of_not_has ht] at hx
        cases hx
        cases ha
    · rintro ⟨t, ht, ha⟩
      obtain ⟨i, hi, rfl⟩ := Array.getElem_of_mem (Array.mem_toList_iff.1 ht)
      cases hx : s.types[i].asComplex? with
      | none =>
        rw [hx] at ha
        cases ha
      | some x =>
        rw [hx] at ha
        exact ⟨⟨i⟩, x, by rw [typeDef, Array.getElem?_eq_getElem hi, Option.getD_some, hx], ha⟩

instance (s : Schema) : Decidable s.AdmitsDefaults :=
  decidable_of_iff (s.allAttributes.all fun a =>
      a.defaultValue.all fun v => (s.failures a.type v).isEmpty) <| by
    simp [AdmitsDefaults, hasAttribute_iff_mem, Option.all_eq_true]

mutual

/-- What a type admits does not depend on the names of a schema. -/
theorem failures_withNames (s : Schema) (names : List Namespace) (t : TypeId) (v : SimpleValue) :
    { s with namespaces := names }.failures t v = s.failures t v := by
  cases v with
  | atomic x => rfl
  | list items =>
    rw [failures, failures]
    change _ ++ (match (s.typeDef t).item? with
      | none => []
      | some item => itemFailures { s with namespaces := names } item items) = _
    cases (s.typeDef t).item? with
    | none => rfl
    | some item =>
      dsimp only
      rw [itemFailures_withNames s names item items]
      rfl

theorem itemFailures_withNames (s : Schema) (names : List Namespace) (item : TypeId)
    (vs : List SimpleValue) :
    { s with namespaces := names }.itemFailures item vs = s.itemFailures item vs := by
  cases vs with
  | nil => rfl
  | cons v vs =>
    rw [itemFailures, itemFailures, failures_withNames s names item v,
      itemFailures_withNames s names item vs]

end

theorem admitsDefaults_withNames {names : List Namespace} :
    { s with namespaces := names }.AdmitsDefaults ↔ s.AdmitsDefaults := by
  unfold AdmitsDefaults
  simp only [failures_withNames]
  exact Iff.rfl

end Schema

/-- A compilation that was accepted, and its namespaces in another order. -/
structure Remake (limits : Limits) where
  namespaces : List NamespaceDecl
  namespaces' : List NamespaceDecl
  /-- What was made of the namespaces in their first order. -/
  made : Builder
  completes : made.Completes namespaces limits
  rearranges : Rearranges namespaces namespaces'
  admits : made.schema.AdmitsDefaults

/-- The declaration that a symbol was made for. -/
def Builder.owner? (b : Builder) (s : SymbolId) : Option DeclarationId :=
  (b.symbols.find? (·.2 == s)).map Prod.fst

theorem Builder.Numbered.owner?_eq_some_iff {c : Catalog} {b : Builder} (h : b.Numbered c)
    {s : SymbolId} {o : DeclarationId} : b.owner? s = some o ↔ b.symbol? o = some s := by
  constructor
  · intro ho
    obtain ⟨⟨p, t⟩, hfound, rfl⟩ := Option.map_eq_some_iff.1 ho
    obtain rfl : t = s := by simpa using List.find?_some hfound
    exact h.eq_of_symbol (List.mem_of_find?_eq_some hfound)
  · intro hs
    have hmem := Builder.mem_of_symbol? hs
    cases hfound : b.symbols.find? (·.2 == s) with
    | none => simpa using List.find?_eq_none.1 hfound _ hmem
    | some p =>
      obtain ⟨p, t⟩ := p
      obtain rfl : t = s := by simpa using List.find?_some hfound
      have hp := h.eq_of_symbol (List.mem_of_find?_eq_some hfound)
      rw [Builder.owner?, hfound, Option.map_some, h.inj hp hs]

namespace Remake

variable {limits : Limits} (R : Remake limits) {b' b₁' : Builder}

/-- The declarations in their first order. -/
abbrev c : Catalog := (Catalog.ofNamespaces R.namespaces).1

/-- The declarations in their second order. -/
abbrev c' : Catalog := (Catalog.ofNamespaces R.namespaces').1

/-- The number of a declaration in the second order. -/
def place (o : DeclarationId) : DeclarationId := R.c.place R.c' o

theorem registrable : Registrable R.namespaces := by
  refine registrable_of_harmless fun d hd => ?_
  have hstart := R.completes.steps.lasts.clean R.completes.clean
  rw [Builder.Clean, Ledger.hasErrors_eq, Builder.toList_start, List.any_eq_false] at hstart
  simpa using hstart d hd

theorem reorders : R.c.Reorders R.c' := R.rearranges.reorders R.registrable

theorem numbered : R.made.Numbered R.c := R.completes.numbered

theorem placed : R.made.Placed := R.completes.placed

theorem inv : R.made.Inv R.c := R.completes.inv

theorem clean : R.made.Clean := R.completes.clean

theorem sourced : R.made.Sourced R.c limits R.made := R.completes.sourced

/-! ## Numbers in the second compilation -/

/-- The symbol that the second compilation has for a symbol of the first one. -/
def image (b' : Builder) (s : SymbolId) : Option SymbolId :=
  (R.made.owner? s).bind fun o => b'.symbol? (R.place o)

/-- The numbers that symbols of the first compilation have in the second one. -/
def numbering (b' : Builder) : Renumbering where
  type t := ((R.image b' (.type t)).bind (·.asType?)).getD t
  attr a := ((R.image b' (.attr a)).bind (·.asAttribute?)).getD a
  element e := ((R.image b' (.element e)).bind (·.asElement?)).getD e

/-- The second compilation has a symbol of the first one. -/
structure Knows (b' : Builder) (s : SymbolId) : Prop where
  issued : R.made.schema.Issues s
  symbol : ∀ o, R.made.symbol? o = some s → (b'.symbol? (R.place o)).isSome

/-- What the second compilation has is something of the first one with the numbers of the second
one, which has all of them. -/
structure Sends {α : Type} [HasNumbers α] (b' : Builder) (x y : α) : Prop where
  eq : y = (R.numbering b').on x
  knows : ∀ i ∈ HasNumbers.ids x, R.Knows b' i

variable {R}

theorem owner?_eq_some_iff {s : SymbolId} {o : DeclarationId} :
    R.made.owner? s = some o ↔ R.made.symbol? o = some s :=
  R.numbered.owner?_eq_some_iff

theorem image_eq_of_symbol {o : DeclarationId} {s : SymbolId} (h : R.made.symbol? o = some s) :
    R.image b' s = b'.symbol? (R.place o) := by
  rw [image, owner?_eq_some_iff.2 h, Option.bind_some]

theorem Knows.mono (hl : b'.Lasts b₁') {s : SymbolId} (h : R.Knows b' s) : R.Knows b₁' s := by
  refine ⟨h.issued, fun o ho => ?_⟩
  obtain ⟨t, ht⟩ := Option.isSome_iff_exists.1 (h.symbol o ho)
  rw [hl.symbol _ t ht]
  rfl

/-- The numbers of what the second compilation has do not change any more. -/
theorem Knows.image_eq (hl : b'.Lasts b₁') {s : SymbolId} (h : R.Knows b' s) :
    R.image b₁' s = R.image b' s := by
  cases ho : R.made.owner? s with
  | none => rw [image, image, ho]; rfl
  | some o =>
    have ho := owner?_eq_some_iff.1 ho
    obtain ⟨t, ht⟩ := Option.isSome_iff_exists.1 (h.symbol o ho)
    rw [image_eq_of_symbol ho, image_eq_of_symbol ho, ht, hl.symbol _ t ht]

theorem Knows.symbol_eq (hl : b'.Lasts b₁') {s : SymbolId} (h : R.Knows b' s) :
    (R.numbering b₁').symbol s = (R.numbering b').symbol s := by
  have himage := h.image_eq hl
  cases s <;> simp only [Renumbering.symbol, numbering, himage]

section Sends

variable {α β : Type} [HasNumbers α] [HasNumbers β]

theorem Sends.mono (hl : b'.Lasts b₁') {x y : α} (h : R.Sends b' x y) : R.Sends b₁' x y :=
  ⟨h.eq.trans (Renumbering.on_congr fun i hi => ((h.knows i hi).symbol_eq hl).symm),
    fun i hi => (h.knows i hi).mono hl⟩

theorem sends_nil : R.Sends b' ([] : List α) [] := ⟨rfl, nofun⟩

theorem sends_none : R.Sends b' (none : Option α) none := ⟨rfl, nofun⟩

theorem sends_some {x y : α} (h : R.Sends b' x y) : R.Sends b' (some x) (some y) :=
  ⟨congrArg some h.eq, by simpa [HasNumbers.ids] using h.knows⟩

theorem exists_of_sends_some {x : α} {y : Option α} (h : R.Sends b' (some x) y) :
    ∃ z, y = some z ∧ R.Sends b' x z :=
  ⟨_, h.eq, rfl, fun i hi => h.knows i (by simpa [HasNumbers.ids] using hi)⟩

theorem sends_cons {x y : α} {xs ys : List α} (h : R.Sends b' x y) (hs : R.Sends b' xs ys) :
    R.Sends b' (x :: xs) (y :: ys) :=
  ⟨by rw [Renumbering.on_cons, h.eq, hs.eq], List.forall_mem_append.2 ⟨h.knows, hs.knows⟩⟩

theorem sends_append {xs xs' ys ys' : List α} (h : R.Sends b' xs ys) (h' : R.Sends b' xs' ys') :
    R.Sends b' (xs ++ xs') (ys ++ ys') :=
  ⟨by rw [Renumbering.on_append, h.eq, h'.eq], by
    simpa only [HasNumbers.ids, List.flatMap_append, List.forall_mem_append] using
      ⟨h.knows, h'.knows⟩⟩

theorem Sends.of_mem {xs ys : List α} (h : R.Sends b' xs ys) {x : α} (hx : x ∈ xs) :
    R.Sends b' x ((R.numbering b').on x) :=
  ⟨rfl, fun i hi => h.knows i (List.mem_flatMap_of_mem hx hi)⟩

theorem sends_pair {x y : α} {u v : β} (h : R.Sends b' x y) (h' : R.Sends b' u v) :
    R.Sends b' (x, u) (y, v) :=
  ⟨by rw [Renumbering.on_pair, h.eq, h'.eq], List.forall_mem_append.2 ⟨h.knows, h'.knows⟩⟩

theorem Sends.of_pair {x y : α × β} (h : R.Sends b' x y) :
    R.Sends b' x.1 y.1 ∧ R.Sends b' x.2 y.2 := by
  obtain ⟨hx, hu⟩ := List.forall_mem_append.1 h.knows
  exact ⟨⟨congrArg Prod.fst h.eq, hx⟩, ⟨congrArg Prod.snd h.eq, hu⟩⟩

/-! ### Attributes and elements -/

theorem sends_attribute {a : Attribute} {t : TypeId} {i : Option AttributeId}
    (ht : R.Sends b' a.type t) (hi : R.Sends b' a.referenced i) :
    R.Sends b' a { a with type := t, referenced := i } := by
  refine ⟨by rw [ht.eq, hi.eq]; rfl, ?_⟩
  change ∀ s ∈ a.ids, R.Knows b' s
  rw [Renumbering.ids_attribute]
  exact List.forall_mem_append.2 ⟨ht.knows, hi.knows⟩

theorem Sends.of_attribute {a a' : Attribute} (h : R.Sends b' a a') :
    R.Sends b' a.type a'.type ∧ R.Sends b' a.referenced a'.referenced := by
  have hknows : ∀ s ∈ a.ids, R.Knows b' s := h.knows
  rw [Renumbering.ids_attribute, List.forall_mem_append] at hknows
  exact ⟨⟨by rw [h.eq]; rfl, hknows.1⟩, ⟨by rw [h.eq]; rfl, hknows.2⟩⟩

theorem sends_element {e : Element} {t : TypeId} {i j : Option ElementId}
    (ht : R.Sends b' e.type t) (hi : R.Sends b' e.substituted i) (hj : R.Sends b' e.referenced j) :
    R.Sends b' e { e with type := t, substituted := i, referenced := j } := by
  refine ⟨by rw [ht.eq, hi.eq, hj.eq]; rfl, ?_⟩
  change ∀ s ∈ e.ids, R.Knows b' s
  rw [Renumbering.ids_element]
  exact List.forall_mem_append.2 ⟨ht.knows, List.forall_mem_append.2 ⟨hi.knows, hj.knows⟩⟩

theorem Sends.of_element {e e' : Element} (h : R.Sends b' e e') : R.Sends b' e.type e'.type ∧
    R.Sends b' e.substituted e'.substituted ∧ R.Sends b' e.referenced e'.referenced := by
  have hknows : ∀ s ∈ e.ids, R.Knows b' s := h.knows
  rw [Renumbering.ids_element, List.forall_mem_append, List.forall_mem_append] at hknows
  exact ⟨⟨by rw [h.eq]; rfl, hknows.1⟩, ⟨by rw [h.eq]; rfl, hknows.2.1⟩,
    ⟨by rw [h.eq]; rfl, hknows.2.2⟩⟩

/-! ### Members -/

theorem sends_elementMember {label : MemberLabel} {e e' : Element} {o : Bool}
    (h : R.Sends b' e e') : R.Sends b' (Member.element label e o) (.element label e' o) := by
  refine ⟨by rw [h.eq]; rfl, ?_⟩
  change ∀ i ∈ (Member.element label e o).ids, R.Knows b' i
  rw [Member.ids]
  exact h.knows

theorem Sends.of_elementMember {label : MemberLabel} {e : Element} {o : Bool} {m : Member}
    (h : R.Sends b' (Member.element label e o) m) :
    ∃ e', m = .element label e' o ∧ R.Sends b' e e' := by
  have hknows : ∀ i ∈ (Member.element label e o).ids, R.Knows b' i := h.knows
  rw [Member.ids] at hknows
  exact ⟨_, h.eq, rfl, hknows⟩

theorem sends_setMember {label : MemberLabel} {kind : SetKind} {ms ms' : List Member}
    {span : Option Span} (h : R.Sends b' ms ms') :
    R.Sends b' (Member.set label kind ms span) (.set label kind ms' span) := by
  refine ⟨by rw [h.eq, Renumbering.on_setMember], ?_⟩
  change ∀ i ∈ (Member.set label kind ms span).ids, R.Knows b' i
  rw [Member.ids, Member.allIds_eq]
  exact h.knows

theorem Sends.of_setMember {label : MemberLabel} {kind : SetKind} {ms : List Member}
    {span : Option Span} {m : Member} (h : R.Sends b' (Member.set label kind ms span) m) :
    ∃ ms', m = .set label kind ms' span ∧ R.Sends b' ms ms' := by
  have hknows : ∀ i ∈ (Member.set label kind ms span).ids, R.Knows b' i := h.knows
  rw [Member.ids, Member.allIds_eq] at hknows
  exact ⟨_, h.eq.trans (Renumbering.on_setMember _ _ _ _ _), rfl, hknows⟩

theorem sends_listMember {label : MemberLabel} {item item' : Member} {occurs : Occurs}
    (h : R.Sends b' item item') :
    R.Sends b' (Member.list label item occurs) (.list label item' occurs) := by
  refine ⟨by rw [h.eq]; rfl, ?_⟩
  change ∀ i ∈ (Member.list label item occurs).ids, R.Knows b' i
  rw [Member.ids]
  exact h.knows

theorem Sends.of_listMember {label : MemberLabel} {item : Member} {occurs : Occurs} {m : Member}
    (h : R.Sends b' (Member.list label item occurs) m) :
    ∃ item', m = .list label item' occurs ∧ R.Sends b' item item' := by
  have hknows : ∀ i ∈ (Member.list label item occurs).ids, R.Knows b' i := h.knows
  rw [Member.ids] at hknows
  exact ⟨_, h.eq, rfl, hknows⟩

/-! ### Content -/

theorem sends_simpleChildren {t t' : TypeId} (h : R.Sends b' t t') :
    R.Sends b' (Children.simple t) (.simple t') :=
  ⟨by rw [h.eq]; rfl, h.knows⟩

theorem Sends.of_simpleChildren {t : TypeId} {x : Children}
    (h : R.Sends b' (Children.simple t) x) : ∃ t', x = .simple t' ∧ R.Sends b' t t' :=
  ⟨_, h.eq, rfl, h.knows⟩

theorem sends_setChildren {s : ChildSet} {ms : List Member} (h : R.Sends b' s.members ms) :
    R.Sends b' (Children.set s) (.set { s with members := ms }) := by
  refine ⟨by rw [h.eq]; rfl, ?_⟩
  change ∀ i ∈ (Children.set s).ids, R.Knows b' i
  rw [Renumbering.ids_set]
  exact h.knows

theorem Sends.of_setChildren {s : ChildSet} {x : Children} (h : R.Sends b' (Children.set s) x) :
    ∃ ms, x = .set { s with members := ms } ∧ R.Sends b' s.members ms := by
  have hknows : ∀ i ∈ (Children.set s).ids, R.Knows b' i := h.knows
  rw [Renumbering.ids_set] at hknows
  exact ⟨_, h.eq, rfl, hknows⟩

theorem sends_simpleContent {x : SimpleContent} {item : Option TypeId}
    (h : R.Sends b' x.item item) : R.Sends b' x { x with item } :=
  ⟨by rw [h.eq]; rfl, h.knows⟩

theorem Sends.of_simpleContent {x x' : SimpleContent} (h : R.Sends b' x x') :
    x'.facets = x.facets ∧ R.Sends b' x.item x'.item :=
  ⟨by rw [h.eq]; rfl, by rw [h.eq]; rfl, h.knows⟩

theorem sends_complexContent {x x' : ComplexContent} (ha : R.Sends b' x.attributes x'.attributes)
    (hc : R.Sends b' x.children x'.children) : R.Sends b' x x' := by
  refine ⟨?_, List.forall_mem_append.2 ⟨ha.knows, hc.knows⟩⟩
  obtain ⟨attributes, children⟩ := x'
  obtain rfl : attributes = _ := ha.eq
  obtain rfl : children = _ := hc.eq
  rfl

theorem Sends.of_complexContent {x x' : ComplexContent} (h : R.Sends b' x x') :
    R.Sends b' x.attributes x'.attributes ∧ R.Sends b' x.children x'.children := by
  obtain ⟨ha, hc⟩ := List.forall_mem_append.1 h.knows
  exact ⟨⟨by rw [h.eq]; rfl, ha⟩, ⟨by rw [h.eq]; rfl, hc⟩⟩

theorem sends_simple {x x' : SimpleContent} (h : R.Sends b' x x') :
    R.Sends b' (Content.simple x) (.simple x') :=
  ⟨by rw [h.eq]; rfl, h.knows⟩

theorem Sends.of_simple {x : SimpleContent} {y : Content} (h : R.Sends b' (Content.simple x) y) :
    ∃ x', y = .simple x' ∧ R.Sends b' x x' :=
  ⟨_, h.eq, rfl, h.knows⟩

theorem sends_complex {x x' : ComplexContent} (h : R.Sends b' x x') :
    R.Sends b' (Content.complex x) (.complex x') :=
  ⟨by rw [h.eq]; rfl, h.knows⟩

theorem Sends.of_complex {x : ComplexContent} {y : Content}
    (h : R.Sends b' (Content.complex x) y) : ∃ x', y = .complex x' ∧ R.Sends b' x x' :=
  ⟨_, h.eq, rfl, h.knows⟩

end Sends

end Remake

end Schemata
