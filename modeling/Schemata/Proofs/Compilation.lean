import Schemata.Proofs.ComplexTypes

/-!
# The schema of a compilation

`Schema.Sound` is what is true of every schema that `compile` accepts, as `Accepts.sound` shows.
Once every declaration of a type has its symbol, the types get their content in the order of their
numbers. So a type finds those with smaller numbers finished, its base among them.

In a schema that is accepted, a complex type has no more than any type that it is a restriction of,
however many steps lie between them. Each step narrows, and narrowing is transitive
(`narrows_of_restricts`).
-/

namespace Schemata

/-! ## Sound schemas -/

/-- A value that was read from a literal is one of the kind of a type, and the facets of the type
admit it. Its items are admitted as well if the type of the items has a number below a bound. -/
structure Schema.Fits (s : Schema) (bound : Nat) (type : TypeId) (v : SimpleValue) : Prop where
  read : v.IsRead
  kind : s.fitsKind (s.typeDef type) v
  facets : (s.typeDef type).facets?.elim [] (·.violations v) = []
  items : ∀ item, (s.typeDef type).item? = some item → item.index < bound → s.failures type v = []

/-- The default value of an attribute, if it has one, fits the type of the attribute. -/
def Attribute.DefaultFits (s : Schema) (bound : Nat) (a : Attribute) : Prop :=
  ∀ v, a.defaultValue = some v → s.Fits bound a.type v

/-- An attribute has its type and its default value from a global one. -/
def Attribute.Refers (s : Schema) (a : Attribute) : Prop :=
  ∃ i g, a.referenced = some i ∧ s.attribute? i = some g ∧ a.type = g.type ∧
    a.defaultValue = g.defaultValue

/-- What the compilation of a schema provides for. -/
structure Schema.Sound (s : Schema) : Prop where
  ordered : s.Ordered
  builtin : ∀ k : Kind, s.typeDef k.typeId = k.builtin
  contents : ∀ id, (s.typeDef id).kind.isSimple = (s.typeDef id).asSimple?.isSome
  simple : ∀ id c up, (s.typeDef id).asSimple? = some c → (s.typeDef id).base = some up →
    ∃ d, (s.typeDef up).asSimple? = some d ∧ c.Narrows s d
  item : ∀ id item, (s.typeDef id).item? = some item → (s.typeDef item).kind.isSimple
  restriction : ∀ id c up, (s.typeDef id).derivation = .restriction →
    (s.typeDef id).asComplex? = some c → (s.typeDef id).base = some up →
    ∃ d, (s.typeDef up).asComplex? = some d ∧ c.Narrows s d
  substitution : ∀ id e up h, s.element? id = some e → e.substituted = some up →
    s.element? up = some h → s.derives e.type h.type ∧ (e.isNullable → h.isNullable)
  content : ∀ id c, (s.typeDef id).asComplex? = some c → c.Sound s
  attributes : ∀ id a, s.attribute? id = some a → a.DefaultFits s 0
  defaults : ∀ id c, (s.typeDef id).asComplex? = some c → ∀ a ∈ c.attributes.getD [],
    a.DefaultFits s 0 ∧
      ((∃ up d, (s.typeDef id).base = some up ∧ (s.typeDef up).asComplex? = some d ∧
        a ∈ d.attributes.getD []) ∨ a.Refers s ∨ a.DefaultFits s id.index)

namespace Builder

variable {c : Catalog} {b b' : Builder} {limits : Limits}

theorem ValueFits.fits {n : Nat} {t : TypeId} {v : SimpleValue} (h : b.ValueFits n t v) :
    b.schema.Fits n t v :=
  ⟨h.read, h.kind, h.facets, fun item hi hn => (h.items item hi hn).2.2⟩

theorem DefaultFits.fits {n : Nat} {a : Attribute} (h : b.DefaultFits n a) :
    a.DefaultFits b.schema n :=
  fun v hv => (h v hv).fits

/-! ## Symbols for all declarations -/

theorem Ensures.resolveDeclaration (id : DeclarationId) :
    b.Ensures c (resolveDeclaration c limits id) fun _ b₁ =>
      c.DeclaresType id → b₁.TypeKnown id := by
  unfold Schemata.resolveDeclaration
  split
  · rename_i hd
    exact .pure fun h => by simp [Catalog.DeclaresType, hd] at h
  · rename_i d hd
    split
    · exact .discard ((resolveType id).mono fun t b₁ _ _ h => h.2.1)
    · rename_i a ha
      have hget : c.getAs? (·.asAttribute?) id = some (d, a) :=
        Catalog.getAs?_eq_some_iff.2 ⟨hd, by rw [Declaration.asAttribute?, ha]⟩
      have ho := Catalog.not_declaresType_of_attribute hget
      exact .discard ((resolveAttribute hget).mono fun _ b₁ _ _ _ h => absurd h ho)
    · rename_i e he
      have hget : c.getAs? (·.asElement?) id = some (d, e) :=
        Catalog.getAs?_eq_some_iff.2 ⟨hd, by rw [Declaration.asElement?, he]⟩
      have ho := Catalog.not_declaresType_of_element hget
      exact .discard ((resolveElement id).mono fun _ b₁ _ _ _ h => absurd h ho)

theorem Ensures.resolveAll (ids : List DeclarationId) :
    b.Ensures c (ids.forM (Schemata.resolveDeclaration c limits)) fun _ b₁ =>
      ∀ id ∈ ids, c.DeclaresType id → b₁.TypeKnown id := by
  induction ids generalizing b with
  | nil => exact .pure nofun
  | cons id ids ih =>
    change b.Ensures c (Schemata.resolveDeclaration c limits id >>= fun _ =>
      ids.forM (Schemata.resolveDeclaration c limits)) _
    refine (resolveDeclaration id).bind fun _ b₁ _ _ h => ih.mono fun _ b₂ hg _ h₂ => ?_
    exact List.forall_mem_cons.2 ⟨fun hd => hg.known id hd (h hd), h₂⟩

theorem mem_ids {o : DeclarationId} (h : c.DeclaresType o) : o ∈ c.ids := by
  have hlt : o.index < c.declarations.size := by
    by_contra hge
    rw [Catalog.DeclaresType, Catalog.get?, Array.getElem?_eq_none (by omega)] at h
    cases h
  exact List.mem_map.2 ⟨o.index, List.mem_range.2 hlt, rfl⟩

/-! ## Content for all types -/

theorem FinishedBelow.succ {n : Nat} (h : b.FinishedBelow n) (hn : b.schema.Has ⟨n⟩)
    (hf : b.isFinished ⟨n⟩) : b.FinishedBelow (n + 1) := by
  intro id hid
  obtain hlt | rfl : id.index < n ∨ id = ⟨n⟩ := by
    rcases Nat.lt_succ_iff_lt_or_eq.1 hid with h | h
    · exact Or.inl h
    · exact Or.inr (congrArg TypeId.mk h)
  · exact h id hlt
  · exact ⟨hn, hf⟩

/-- The turn of a type. -/
theorem finishType_ok (hb : b.Inv c) {n : Nat} (hn : b.FinishedBelow n) (hid : b.schema.Has ⟨n⟩)
    (hrun : (finishType c limits ⟨n⟩).run b = .ok ((), b')) :
    b.Grows c b' ∧ b'.Inv c ∧ b'.FinishedBelow (n + 1) := by
  have hrun : (if b.isFinished ⟨n⟩ then pure ()
      else if b.openTypes.contains ⟨n⟩ then Build.internal .contentReentered
      else if (b.schema.typeDef ⟨n⟩).kind.isSimple then Schemata.finishSimple c limits ⟨n⟩
      else finishComplex c limits ⟨n⟩ : Build Unit).run b = .ok ((), b') := hrun
  suffices h : b.Grows c b' ∧ b'.Inv c ∧ b'.isFinished ⟨n⟩ from
    ⟨h.1, h.2.1, (hn.mono hb h.1).succ (h.1.schema.has hid) h.2.2⟩
  split at hrun
  · rename_i hf
    cases hrun
    exact ⟨.refl c b, hb, hf⟩
  · rename_i hf
    split at hrun
    · cases hrun
    split at hrun
    · rename_i hk
      have hup : ∀ up, (b.schema.typeDef ⟨n⟩).base = some up → b.isFinished up :=
        fun up hu => (hn up (hb.ordered.base _ up hu)).2
      obtain ⟨hg, hb', hfin⟩ := Ensures.finishSimpleType hid hf hk hup hb _ b' hrun
      exact ⟨hg.toGrows, hb', isFinished_of_mem (by simp [hfin])⟩
    · rename_i hk
      exact finishComplexType hb hid hf (by simpa using hk) hn hrun

theorem finishTypes_ok (hb : b.Inv c) {n count : Nat} (hn : b.FinishedBelow n)
    (hsize : n + count ≤ b.schema.types.size)
    (hrun : (((List.range' n count).map TypeId.mk).forM (finishType c limits)).run b =
      .ok ((), b')) : b.Grows c b' ∧ b'.Inv c ∧ b'.FinishedBelow (n + count) := by
  induction count generalizing n b with
  | zero =>
    obtain ⟨⟩ := Except.ok.inj hrun
    exact ⟨.refl c _, hb, hn⟩
  | succ count ih =>
    obtain ⟨⟨_, b₁⟩, hrun₁, hrun₂⟩ := bind_eq_ok hrun
    obtain ⟨hg₁, hb₁, hn₁⟩ := finishType_ok hb hn (show n < _ by omega) hrun₁
    have hsize₁ := hg₁.schema.types_size
    obtain ⟨hg₂, hb₂, hn₂⟩ := ih hb₁ hn₁ (by omega) hrun₂
    refine ⟨hg₁.trans hb hg₂, hb₂, ?_⟩
    rwa [show n + (count + 1) = n + 1 + count by omega]

theorem declaredTypes_eq (b : Builder) :
    b.declaredTypes = (List.range' Kind.all.length b.origins.size).map TypeId.mk := by
  rw [declaredTypes, List.range'_eq_map_range, List.map_map]
  rfl

/-- Everything is resolved and finished at the end. -/
theorem buildAll_ok (hb : b.Inv c) (hrun : (buildAll c limits).run b = .ok ((), b')) :
    b'.Inv c ∧ ∀ id, b'.schema.Has id → b'.isFinished id := by
  obtain ⟨⟨_, b₁⟩, hrun₁, hrun₂⟩ := bind_eq_ok hrun
  obtain ⟨-, hb₁, hknown⟩ := Ensures.resolveAll c.ids hb _ b₁ hrun₁
  have hsettled : b₁.Settled c := fun o ho => hknown o (mem_ids ho) ho
  have hrun₂ : (b₁.declaredTypes.forM (finishType c limits)).run b₁ = .ok ((), b') := hrun₂
  rw [declaredTypes_eq] at hrun₂
  have hstart : b₁.FinishedBelow Kind.all.length := fun id hid =>
    ⟨hb₁.has_of_builtin hid, isFinished_iff.2 (Or.inl (origin_of_builtin hid))⟩
  obtain ⟨hg, hb', hn⟩ := finishTypes_ok hb₁ hstart hb₁.size.ge hrun₂
  refine ⟨hb', fun id hid => (hn id ?_).2⟩
  rw [← hb₁.size, ← hg.settled hsettled]
  exact hid

/-- Every type is as its kind has it, or it was declared and has its content. -/
theorem Inv.builtin_or_finished (hb : b.Inv c)
    (hf : ∀ id, b.schema.Has id → b.isFinished id) (id : TypeId) :
    (∃ k : Kind, b.schema.typeDef id = k.builtin) ∨ id ∈ b.finished := by
  by_cases hid : b.schema.Has id
  · refine (isFinished_iff.1 (hf id hid)).imp_left fun ho => ?_
    obtain ⟨k, -, hk⟩ := hb.exists_kind (hb.builtin_of_origin hid ho)
    exact ⟨k, hk⟩
  · exact Or.inl ⟨.complexType, Schema.typeDef_of_not_has hid⟩

/-- A simple type has a simple base. -/
theorem Inv.simple_base_of_asSimple? (hb : b.Inv c) {id up : TypeId} {x : SimpleContent}
    (hx : (b.schema.typeDef id).asSimple? = some x) (hup : (b.schema.typeDef id).base = some up) :
    (b.schema.typeDef up).kind.isSimple := by
  by_cases hid : id.index < Kind.all.length
  · obtain ⟨k, -, hk⟩ := hb.exists_kind hid
    rw [hk] at hup
    obtain ⟨l, hl, rfl⟩ := Option.map_eq_some_iff.1 hup
    rw [hb.typeDef_builtin]
    exact Kind.isSimple_base hl
  · obtain ⟨o, ho⟩ := hb.origin_of_has (Schema.has_of_base hup) hid
    obtain ⟨d, t, -, hd, ht, -⟩ := hb.declared id o ho
    have hk : (b.schema.typeDef id).kind.isSimple := by rw [hb.contents, hx]; rfl
    exact (hb.simple_base ho hd ht hk hup).1

/-- A complex type that is a restriction has a complex base. -/
theorem Inv.exists_asComplex (hb : b.Inv c) {id up : TypeId} {x : ComplexContent}
    (hr : (b.schema.typeDef id).derivation = .restriction)
    (hx : (b.schema.typeDef id).asComplex? = some x) (hup : (b.schema.typeDef id).base = some up) :
    ∃ d, (b.schema.typeDef up).asComplex? = some d := by
  have key : ∀ t : TypeDef, t.asSimple?.isSome = false ↔ ∃ d, t.asComplex? = some d := by
    intro t
    unfold TypeDef.asSimple? TypeDef.asComplex?
    cases t.content <;> simp
  rw [← key, ← hb.contents]
  have hk : (b.schema.typeDef id).kind.isSimple = false :=
    (hb.contents id).trans ((key _).2 ⟨x, hx⟩)
  by_cases hid : id.index < Kind.all.length
  · obtain ⟨k, -, hk'⟩ := hb.exists_kind hid
    rw [hk'] at hx hup
    cases (Kind.base_builtin_of_asComplex? hx).symm.trans hup
  · obtain ⟨o, ho⟩ := hb.origin_of_has (Schema.has_of_base hup) hid
    obtain ⟨d, t, up', -, -, hup', -, hh, -⟩ := hb.declared id o ho
    obtain rfl := Option.some.inj (hup.symm.trans hup')
    rw [hr] at hh
    unfold TypeDecl.header at hh
    split at hh
    · cases (Prod.mk.inj hh).2
    · cases (Prod.mk.inj hh).2
    · cases (Prod.mk.inj hh).2
    · rw [(Prod.mk.inj hh).1]
      exact hk

/-- Where every type has its content and no error was recorded, the schema is sound. -/
theorem Inv.sound (hb : b.Inv c) (hc : b.Clean) (hf : ∀ id, b.schema.Has id → b.isFinished id) :
    b.schema.Sound where
  ordered := hb.ordered
  builtin := hb.typeDef_builtin
  contents := hb.contents
  simple id x up hx hup := by
    obtain ⟨d, hd⟩ := hb.exists_asSimple (hb.simple_base_of_asSimple? hx hup)
    refine ⟨d, hd, ?_⟩
    rcases hb.builtin_or_finished hf id with ⟨k, hk⟩ | hmem
    · rw [hk] at hup
      obtain ⟨l, -, rfl⟩ := Option.map_eq_some_iff.1 hup
      rw [hb.typeDef_builtin] at hd
      rw [Kind.eq_of_asSimple?_builtin hd]
      exact SimpleContent.narrows_empty _ _
    · exact (hb.finished id hmem).simple x up d hx hup hd
  item id item hi := by
    rcases hb.builtin_or_finished hf id with ⟨k, hk⟩ | hmem
    · obtain ⟨x, hx, hi⟩ := Option.bind_eq_some_iff.1 hi
      rw [hk] at hx
      rw [Kind.eq_of_asSimple?_builtin hx] at hi
      cases hi
    · exact ((hb.strict hc).types id hmem).item item hi
  restriction id x up hr hx hup := by
    rcases hb.builtin_or_finished hf id with ⟨k, hk⟩ | hmem
    · rw [hk] at hx hup
      cases (Kind.base_builtin_of_asComplex? hx).symm.trans hup
    · obtain ⟨d, hd⟩ := hb.exists_asComplex hr hx hup
      exact ⟨d, hd, ((hb.strict hc).types id hmem).restriction hr x up d hx hup hd⟩
  substitution := (hb.strict hc).substitution
  content id x hx := by
    rcases hb.builtin_or_finished hf id with ⟨k, hk⟩ | hmem
    · rw [hk] at hx
      rw [Kind.eq_of_asComplex?_builtin hx]
      exact ComplexContent.sound_empty _
    · exact (hb.finished id hmem).content x hx
  attributes id a ha := (hb.attributes id a ha).fits
  defaults id x hx a ha := by
    rcases hb.builtin_or_finished hf id with ⟨k, hk⟩ | hmem
    · rw [hk] at hx
      rw [Kind.eq_of_asComplex?_builtin hx] at ha
      cases ha
    · obtain ⟨hd, hcomes⟩ := (hb.finished id hmem).defaults x hx a ha
      exact ⟨hd.fits, hcomes.imp_right fun h => h.origin.imp_right DefaultFits.fits⟩

/-! ## Names -/

theorem published_eq (b : Builder) (c : Catalog) :
    ∃ names, b.published c = { b.schema with namespaces := names } := by
  unfold published
  generalize b.schema = s
  induction c.ids generalizing s with
  | nil => exact ⟨s.namespaces, rfl⟩
  | cons id ids ih =>
    rw [List.foldl_cons]
    split
    · obtain ⟨names, h⟩ := ih (s.publish _ _)
      exact ⟨names, h⟩
    · exact ih s

/-- Names are of no concern to the invariant. -/
theorem Inv.withNames (hb : b.Inv c) (names : List Namespace) :
    Inv c { b with schema := { b.schema with namespaces := names } } := by
  refine hb.next ⟨?_, fun _ _ _ => rfl, fun _ _ h => h, fun _ h => h, fun _ _ h => h, fun _ => rfl,
    fun h => h⟩ (fun _ => rfl) hb.size (fun _ _ h => Or.inl h) (fun _ _ h => Or.inl h)
    (fun _ _ h => Or.inl h) (fun _ _ h => Or.inl h) (fun _ _ h => Or.inl h) (fun _ => Or.inl rfl)
    (fun _ h => Or.inl h) (fun _ _ h => Or.inl h) (fun _ _ _ _ _ h _ _ => Or.inl h)
  exact ⟨Nat.le_refl _, Nat.le_refl _, fun _ _ => rfl, fun _ _ => rfl, fun _ _ => rfl,
    fun _ _ h => h, fun _ _ h => h⟩

theorem isSimple_builtin (k : Kind) : k.isSimple = k.builtin.asSimple?.isSome := by
  cases k with
  | integer i => cases i <;> rfl
  | _ => rfl

/-- The invariant holds of the builder that a compilation starts with. -/
theorem start_inv (c : Catalog) (ledger : Ledger) : Inv c { ledger } where
  builtin k := by
    cases k with
    | integer i => cases i <;> rfl
    | _ => rfl
  size := rfl
  declared id o h := by
    unfold origin? at h
    split at h <;> cases h
  typeSymbols := nofun
  elementSymbols := nofun
  heads id up h := by
    simp [Schema.substituted?, Schema.element?, Schema.builtin] at h
  attributes id a h := by
    simp [Schema.attribute?, Schema.builtin] at h
  contents id := by
    by_cases hid : id.index < Kind.all.length
    · obtain ⟨k, hk⟩ := Kind.exists_rank hid
      obtain rfl : k.typeId = id := congrArg TypeId.mk hk
      rw [Schema.builtin_typeDef]
      exact isSimple_builtin k
    · have hnot : ¬Schema.builtin.Has id := hid
      rw [Schema.typeDef_of_not_has hnot]
      rfl
  finished := nofun
  strict _ := ⟨nofun, fun id e up h he => by
    simp [Schema.element?, Schema.builtin] at he⟩

end Builder

/-! ## Accepted schemas -/

/-- Namespaces are accepted, and this is their schema. -/
def Accepts (namespaces : List NamespaceDecl) (limits : Limits) (s : Schema) : Prop :=
  ∃ r, compile namespaces limits = .ok r ∧ r.schema = some s

/-- The schema of namespaces if they are accepted, and the built-in one otherwise. -/
def schemaOf (namespaces : List NamespaceDecl) (limits : Limits) : Schema :=
  match compile namespaces limits with
  | .ok ⟨_, some s, _⟩ => s
  | _ => .builtin

/-- Whether namespaces are accepted. -/
def accepted (namespaces : List NamespaceDecl) (limits : Limits) : Bool :=
  match compile namespaces limits with
  | .ok r => r.isValid
  | .error _ => false

/-- A result is valid if it has a schema. -/
theorem isValid_eq_isSome {namespaces : List NamespaceDecl} {limits : Limits} {r : Compilation}
    (h : compile namespaces limits = .ok r) : r.isValid = r.schema.isSome := by
  unfold compile at h
  dsimp only at h
  split at h
  · cases h
    dsimp only
    split <;> simp_all
  · cases h
    rfl
  · cases h
    rfl
  · cases h

theorem accepts_schemaOf {namespaces : List NamespaceDecl} {limits : Limits}
    (h : accepted namespaces limits) : Accepts namespaces limits (schemaOf namespaces limits) := by
  unfold accepted at h
  unfold Accepts schemaOf
  split at h
  · rename_i r hr
    obtain ⟨s, hs⟩ := Option.isSome_iff_exists.1 ((isValid_eq_isSome hr).symm.trans h)
    refine ⟨r, hr, ?_⟩
    obtain ⟨diagnostics, schema, isValid⟩ := r
    obtain rfl : schema = some s := hs
    simp [hr]
  · cases h

/-- The schema of every compilation is sound. -/
theorem Accepts.sound {namespaces : List NamespaceDecl} {limits : Limits} {s : Schema}
    (h : Accepts namespaces limits s) : s.Sound := by
  obtain ⟨r, h, hs⟩ := h
  unfold compile at h
  dsimp only at h
  split at h
  · rename_i b hrun
    obtain ⟨hb, hf⟩ := Builder.buildAll_ok (Builder.start_inv _ _) hrun
    cases h
    dsimp only at hs
    split at hs
    · rename_i hclean
      obtain ⟨names, hnames⟩ := b.published_eq (Catalog.ofNamespaces namespaces).1
      rw [← Option.some.inj hs, hnames]
      exact (hb.withNames names).sound (by simpa [Builder.Clean] using hclean) hf
    · cases hs
  · cases h
    cases hs
  · cases h
    cases hs
  · cases h

/-! ## Restricted complex types -/

/-- A type is a restriction of its base. -/
def Schema.Restricts (s : Schema) (t up : TypeId) : Prop :=
  (s.typeDef t).base = some up ∧ (s.typeDef t).derivation = .restriction

instance (s : Schema) (t up : TypeId) : Decidable (s.Restricts t up) :=
  inferInstanceAs (Decidable (_ ∧ _))

/-- A chain of restrictions from a complex type leads to complex types, each of which it narrows. -/
theorem Schema.Sound.exists_narrows {s : Schema} (hs : s.Sound) {d b : TypeId}
    (hchain : Relation.ReflTransGen s.Restricts d b) {cd : ComplexContent}
    (hd : (s.typeDef d).asComplex? = some cd) :
    ∃ cb, (s.typeDef b).asComplex? = some cb ∧ cd.Narrows s cb := by
  induction hchain with
  | refl => exact ⟨cd, hd, .refl s cd⟩
  | @tail u v _ hstep ih =>
    obtain ⟨cu, hu, hdu⟩ := ih
    obtain ⟨cv, hv, huv⟩ := hs.restriction u cu v hstep.2 hu hstep.1
    exact ⟨cv, hv, hdu.trans hs.ordered huv⟩

/-- The effective content of a complex type narrows that of every type above it that is reached by
restrictions alone. -/
theorem narrows_of_restricts {namespaces : List NamespaceDecl} {limits : Limits} {s : Schema}
    (h : Accepts namespaces limits s) {d b : TypeId}
    (hchain : Relation.ReflTransGen s.Restricts d b) {cd cb : ComplexContent}
    (hd : (s.typeDef d).asComplex? = some cd) (hb : (s.typeDef b).asComplex? = some cb) :
    cd.Narrows s cb := by
  obtain ⟨cb', hb', hnarrow⟩ := h.sound.exists_narrows hchain hd
  obtain rfl := Option.some.inj (hb.symm.trans hb')
  exact hnarrow

/-- An order, an order that keeps less, and an order that keeps what that one does. -/
def orders : List NamespaceDecl :=
  let text (name : String) : Ident := ⟨name, none⟩
  let order : TypeBody := .complex
    (some { items := [
      .declared { name := text "number", type := .ofText "Int64", isOptional := true },
      .declared { name := text "customer", type := .ofText "String" }] })
    (some (.set { kind := .sequence, items := [
      .element { name := text "note", type := .ofText "String", occurs := some ⟨0, 1, none⟩ },
      .reference { reference := .ofText "payment" },
      .set (some (text "way")) .choice [
        .element { name := text "mail", type := .ofText "String" },
        .element { name := text "courier", type := .ofText "String" }] none none] }))
  let smallOrder : TypeBody := .restriction (.ofText "Order") none
    (some { items := [
      .declared { name := text "number", type := .ofText "Int32" },
      .declared { name := text "customer", type := .ofText "String" }] })
    (some (.set { kind := .sequence, items := [
      .reference { reference := .ofText "cash", memberName := some (text "payment") },
      .set (some (text "way")) .choice [
        .element { name := text "mail", type := .ofText "String" }] none none] }))
  [{ uri := "urn:shop"
     members := [
      .element { name := text "payment", type := .ofText "Decimal" },
      .element { name := text "cash", type := .ofText "Int64",
                 substitutes := some (.ofText "payment") },
      .type { name := text "Order", body := order },
      .type { name := text "SmallOrder", body := smallOrder },
      .type { name := text "LastOrder",
              body := .restriction (.ofText "SmallOrder") none none none }] }]

/-- The last of the orders narrows the first one, two steps above it. -/
theorem orders_narrow : ∃ cd cb : ComplexContent,
    ((schemaOf orders {}).typeDef ⟨24⟩).asComplex? = some cd ∧
    ((schemaOf orders {}).typeDef ⟨22⟩).asComplex? = some cb ∧
    Relation.ReflTransGen (schemaOf orders {}).Restricts ⟨24⟩ ⟨22⟩ ∧
    cd.Narrows (schemaOf orders {}) cb := by
  have h : Accepts orders {} (schemaOf orders {}) := accepts_schemaOf (by decide +kernel)
  have hchain : Relation.ReflTransGen (schemaOf orders {}).Restricts ⟨24⟩ ⟨22⟩ :=
    .head (show Schema.Restricts _ _ ⟨23⟩ by decide +kernel) (.single (by decide +kernel))
  obtain ⟨cd, hd⟩ : ∃ cd, ((schemaOf orders {}).typeDef ⟨24⟩).asComplex? = some cd :=
    Option.isSome_iff_exists.1 (by decide +kernel)
  obtain ⟨cb, hb⟩ : ∃ cb, ((schemaOf orders {}).typeDef ⟨22⟩).asComplex? = some cb :=
    Option.isSome_iff_exists.1 (by decide +kernel)
  exact ⟨cd, cb, hd, hb, hchain, narrows_of_restricts h hchain hd hb⟩

end Schemata
