import Schemata.Proofs.Compilation

/-!
# Default values

The default value of an attribute is of the kind of its type, and the facets of that type admit it.
It is held against the facets of its items' type as well, but only as far as that type has its
content at that moment. So the items are admitted where their type is built in, and where the
attribute is declared in a type whose turn comes after that of the items' type. Elsewhere a default
value may be accepted that the finished schema rejects.
-/

namespace Schemata

/-- The attributes of a schema: the global ones and those that its types have. -/
def Schema.HasAttribute (s : Schema) (a : Attribute) : Prop :=
  (∃ i, s.attribute? i = some a) ∨
    ∃ id c, (s.typeDef id).asComplex? = some c ∧ a ∈ c.attributes.getD []

/-- An attribute is declared in a type, and every type that has it comes after another type. -/
def Schema.DeclaredAfter (s : Schema) (a : Attribute) (item : TypeId) : Prop :=
  a.referenced = none ∧ ∃ id c, (s.typeDef id).asComplex? = some c ∧ a ∈ c.attributes.getD [] ∧
    ∀ up d, s.derives id up → (s.typeDef up).asComplex? = some d → a ∈ d.attributes.getD [] →
      item.index < up.index

namespace Schema.Sound

variable {s : Schema} {a : Attribute} {v : SimpleValue}

/-- An attribute of a type is made in one of the types above. The induction is on the number of the
type, since a base has a smaller one. -/
theorem exists_declaring (hs : s.Sound) {id : TypeId} {c : ComplexContent}
    (hc : (s.typeDef id).asComplex? = some c) (ha : a ∈ c.attributes.getD []) :
    ∃ up d, s.derives id up ∧ (s.typeDef up).asComplex? = some d ∧ a ∈ d.attributes.getD [] ∧
      (a.Refers s ∨ a.DefaultFits s up.index) := by
  induction hn : id.index using Nat.strongRecOn generalizing id c with
  | ind n ih =>
    rcases (hs.defaults id c hc a ha).2 with ⟨up, d, hup, hd, had⟩ | hmade
    · have hlt := hs.ordered.base id up hup
      obtain ⟨top, x, htop, hx, hax, hmade⟩ := ih up.index (hn ▸ hlt) hd had rfl
      exact ⟨top, x, Schema.derives_trans hs.ordered (Schema.derives_of_base hup) htop, hx, hax,
        hmade⟩
    · exact ⟨id, c, s.derives_refl id, hc, ha, hmade⟩

theorem defaultFits (hs : s.Sound) (ha : s.HasAttribute a) : a.DefaultFits s 0 := by
  rcases ha with ⟨i, hi⟩ | ⟨id, c, hc, hmem⟩
  · exact hs.attributes i a hi
  · exact (hs.defaults id c hc a hmem).1

/-- The built-in types admit every value. -/
theorem failures_builtin (hs : s.Sound) (k : Kind) (v : SimpleValue) :
    s.failures k.typeId v = [] := by
  have hempty : ∀ x, (s.typeDef k.typeId).asSimple? = some x → x = {} := by
    rw [hs.builtin]
    exact fun x => Kind.eq_of_asSimple?_builtin
  cases h : (s.typeDef k.typeId).asSimple? with
  | none => cases v <;> simp [failures, TypeDef.facets?, TypeDef.item?, h]
  | some x =>
    obtain rfl := hempty x h
    cases v <;> simp [failures, TypeDef.facets?, TypeDef.item?, h]

theorem itemFailures_eq_nil {item : TypeId} {vs : List SimpleValue} :
    s.itemFailures item vs = [] ↔ ∀ v ∈ vs, s.failures item v = [] := by
  induction vs with
  | nil => simp [itemFailures]
  | cons v vs ih => simp [itemFailures, ih]

/-- A value that the facets of its type admit is admitted if its items are. -/
theorem failures_eq_nil {type : TypeId}
    (hf : (s.typeDef type).facets?.elim [] (·.violations v) = []) : s.failures type v = [] ↔
      ∀ item vs, (s.typeDef type).item? = some item → v = .list vs →
        ∀ w ∈ vs, s.failures item w = [] := by
  cases v with
  | atomic x => simpa [failures] using hf
  | list vs =>
    simp only [failures, hf, List.nil_append]
    cases hi : (s.typeDef type).item? with
    | none => simp
    | some item =>
      simp only [itemFailures_eq_nil, Option.some.injEq, SimpleValue.list.injEq]
      exact ⟨by rintro h _ _ rfl rfl; exact h, fun h => h item vs rfl rfl⟩

end Schema.Sound

/-- The default value of every attribute is of the kind of its type, and the facets of its type
admit it. The schema rejects it just in case the type of the items rejects an item. That does not
happen if the type of the items is built in, or if the attribute is declared after that type. -/
theorem default_fits {namespaces : List NamespaceDecl} {limits : Limits} {s : Schema}
    (h : Accepts namespaces limits s) {a : Attribute} (ha : s.HasAttribute a) {v : SimpleValue}
    (hv : a.defaultValue = some v) :
    s.fitsKind (s.typeDef a.type) v ∧
    (s.typeDef a.type).facets?.elim [] (·.violations v) = [] ∧
    (s.failures a.type v = [] ↔
      ∀ item vs, (s.typeDef a.type).item? = some item → v = .list vs →
        ∀ w ∈ vs, s.failures item w = []) ∧
    ((∀ item, (s.typeDef a.type).item? = some item →
      (∃ k : Kind, item = k.typeId) ∨ s.DeclaredAfter a item) → s.failures a.type v = []) := by
  have hs := h.sound
  have hfits := hs.defaultFits ha v hv
  have hiff := Schema.Sound.failures_eq_nil hfits.facets
  refine ⟨hfits.kind, hfits.facets, hiff, fun hearly => ?_⟩
  cases hi : (s.typeDef a.type).item? with
  | none => exact hiff.2 fun item vs hitem => by cases hi.symm.trans hitem
  | some item =>
    rcases hearly item hi with ⟨k, rfl⟩ | ⟨hnone, id, c, hc, hmem, hafter⟩
    · refine hiff.2 fun item vs hitem _ w _ => ?_
      obtain rfl := Option.some.inj (hi.symm.trans hitem)
      exact hs.failures_builtin k w
    · obtain ⟨up, d, hup, hd, had, hmade⟩ := hs.exists_declaring hc hmem
      rcases hmade with ⟨i, g, href, -⟩ | hlate
      · cases hnone.symm.trans href
      · exact (hlate v hv).items item hi (hafter up d hup hd had)

/-- Lists of codes of two letters, a global attribute whose default value has a longer one, and a
type with an attribute that is declared after the codes. -/
def codes : List NamespaceDecl :=
  let text (name : String) : Ident := ⟨name, none⟩
  let code : TypeBody :=
    .restriction (.ofText "String") (some { lengthRange := some { greatest := some 2 } }) none none
  let parcel : TypeBody := .complex
    (some { items := [.declared
      { name := text "zone", type := .ofText "Codes", defaultValue := some "a bc" }] }) none
  [{ uri := "urn:codes"
     members := [
      .type { name := text "Code", body := code },
      .type { name := text "Codes", body := .list (.ofText "Code") },
      .attr { name := text "mark", type := .ofText "Codes", defaultValue := some "abc" },
      .type { name := text "Parcel", body := parcel }] }]

/-- The attribute of the parcel has a default value that the schema admits. -/
theorem zone_fits : ∃ a v, (schemaOf codes {}).HasAttribute a ∧ a.defaultValue = some v ∧
    (schemaOf codes {}).failures a.type v = [] := by
  have hs : Accepts codes {} (schemaOf codes {}) := accepts_schemaOf (by decide +kernel)
  have hitem : ((schemaOf codes {}).typeDef ⟨23⟩).item? = some ⟨22⟩ := by decide +kernel
  have hchain : (schemaOf codes {}).baseChain ⟨24⟩ = [⟨24⟩, Kind.complexType.typeId] := by
    decide +kernel
  have h : (((schemaOf codes {}).typeDef ⟨24⟩).asComplex?.any fun c =>
      (c.attributes.getD []).any fun a =>
        a.type = ⟨23⟩ && a.referenced.isNone && a.defaultValue.isSome) = true := by
    decide +kernel
  obtain ⟨c, hc, h⟩ := (Option.any_eq_true _ _).1 h
  obtain ⟨a, ha, h⟩ := List.any_eq_true.1 h
  simp only [Bool.and_eq_true, decide_eq_true_eq, Option.isNone_iff_eq_none,
    Option.isSome_iff_exists] at h
  obtain ⟨⟨htype, href⟩, v, hv⟩ := h
  have hmem : (schemaOf codes {}).HasAttribute a := Or.inr ⟨_, c, hc, ha⟩
  refine ⟨a, v, hmem, hv, (default_fits hs hmem hv).2.2.2 fun item hi => Or.inr ?_⟩
  rw [htype, hitem] at hi
  cases hi
  refine ⟨href, ⟨24⟩, c, hc, ha, fun up d hup hd had => ?_⟩
  rw [Schema.derives, hchain, List.contains_iff_mem, List.mem_pair] at hup
  rcases hup with rfl | rfl
  · decide
  · rw [hs.sound.builtin] at hd
    rw [Kind.eq_of_asComplex?_builtin hd] at had
    cases had

/-- The default value of the global attribute is accepted, and the schema rejects it. -/
theorem mark_rejected : Accepts codes {} (schemaOf codes {}) ∧ ∃ a v,
    (schemaOf codes {}).HasAttribute a ∧ a.defaultValue = some v ∧
    (schemaOf codes {}).failures a.type v ≠ [] := by
  have h : ((schemaOf codes {}).attribute? ⟨0⟩).any (fun a => a.defaultValue.any fun v =>
      !((schemaOf codes {}).failures a.type v).isEmpty) = true := by decide +kernel
  obtain ⟨a, ha, h⟩ := (Option.any_eq_true _ _).1 h
  obtain ⟨v, hv, h⟩ := (Option.any_eq_true _ _).1 h
  exact ⟨accepts_schemaOf (by decide +kernel), a, v, Or.inl ⟨_, ha⟩, hv, by simpa using h⟩

end Schemata
