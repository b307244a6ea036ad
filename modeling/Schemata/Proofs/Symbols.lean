import Schemata.Proofs.Runs

/-!
# Making symbols

What `resolveType`, `resolveElement` and the functions that look up references ensure. A type is
made only for a declaration that has no symbol, and `climb` passes each declaration once; so where
every type has its symbol, none is added. An element that is made may stand in for the one that it
substitutes, or the faults are recorded.
-/

namespace Schemata

/-! ## Climbing -/

/-- A link that leads on. -/
def Link.IsNext {α : Type} (l : Except Diagnostic (Link α)) : Prop := ∃ up, l = .ok (.next up)

/-- What a climb passes, and where it ends: the declarations are distinct and unknown, and all of
them lead on, except that the topmost one may lead to the root where the climb ends. -/
structure Climbed {α : Type} (known : DeclarationId → Except Diagnostic (Option α))
    (link : DeclarationId → Except Diagnostic (Link α)) (chain : List DeclarationId) (a : α) :
    Prop where
  nodup : chain.Nodup
  unknown : ∀ x ∈ chain, known x = .ok none
  root : (∃ x, known x = .ok (some a)) ∨ ∃ x, link x = .ok (.root a)
  links : ∀ x rest, chain = x :: rest →
    (Link.IsNext (link x) ∨ link x = .ok (.root a)) ∧ ∀ y ∈ rest, Link.IsNext (link y)

/-- Where the topmost declaration leads to a root, that is where the climb ends. -/
theorem Climbed.forall_root {α : Type} {known : DeclarationId → Except Diagnostic (Option α)}
    {link : DeclarationId → Except Diagnostic (Link α)} {chain : List DeclarationId} {a : α}
    (h : Climbed known link chain a) (x : DeclarationId) (rest : List DeclarationId)
    (hchain : chain = x :: rest) :
    (∀ root, link x = .ok (.root root) → a = root) ∧ ∀ y ∈ rest, Link.IsNext (link y) := by
  obtain ⟨hx, hrest⟩ := h.links x rest hchain
  refine ⟨fun root hroot => ?_, hrest⟩
  rcases hx with ⟨up, hx⟩ | hx
  · simp [hx] at hroot
  · simpa [hx] using hroot

theorem climb_ok {α : Type} {known : DeclarationId → Except Diagnostic (Option α)}
    {link : DeclarationId → Except Diagnostic (Link α)}
    {circle : List DeclarationId → DeclarationId → Diagnostic} {fuel : Nat}
    {passed chain : List DeclarationId} {id : DeclarationId} {a : α}
    (h : climb known link circle fuel passed id = .ok (a, chain)) (hn : passed.Nodup)
    (hp : ∀ x ∈ passed, known x = .ok none) (hl : ∀ x ∈ passed, Link.IsNext (link x)) :
    Climbed known link chain a ∧ passed ⊆ chain ∧ (id ∈ chain ∨ known id = .ok (some a)) := by
  induction fuel generalizing passed id with
  | zero => cases h
  | succ fuel ih =>
    unfold climb at h
    split at h
    · cases h
    · rename_i a' hk
      cases h
      refine ⟨⟨hn, hp, Or.inl ⟨id, hk⟩, ?_⟩, List.Subset.refl _, Or.inr hk⟩
      rintro x rest rfl
      obtain ⟨hx, hrest⟩ := List.forall_mem_cons.1 hl
      exact ⟨Or.inl hx, hrest⟩
    · rename_i hk
      split at h
      · cases h
      · rename_i hmem
        have hmem : id ∉ passed := by simpa using hmem
        have hn' : (id :: passed).Nodup := List.nodup_cons.2 ⟨hmem, hn⟩
        have hp' : ∀ x ∈ id :: passed, known x = .ok none := List.forall_mem_cons.2 ⟨hk, hp⟩
        split at h
        · cases h
        · rename_i a' hroot
          cases h
          refine ⟨⟨hn', hp', Or.inr ⟨id, hroot⟩, ?_⟩, List.subset_cons_self _ _,
            Or.inl List.mem_cons_self⟩
          rintro x rest ⟨⟩
          exact ⟨Or.inr hroot, hl⟩
        · rename_i up hnext
          have hl' : ∀ x ∈ id :: passed, Link.IsNext (link x) :=
            List.forall_mem_cons.2 ⟨⟨up, hnext⟩, hl⟩
          obtain ⟨hc, hsub, -⟩ := ih h hn' hp' hl'
          exact ⟨hc, List.Subset.trans (List.subset_cons_self _ _) hsub,
            Or.inl (hsub List.mem_cons_self)⟩

/-! ## Symbols that are known -/

namespace Builder

variable {b : Builder} {α : Type} {sort : String} {as? : SymbolId → Option α} {o : DeclarationId}

theorem mem_of_symbol? {s : SymbolId} (h : b.symbol? o = some s) : (o, s) ∈ b.symbols := by
  obtain ⟨l₁, l₂, hl, -⟩ := List.lookup_eq_some_iff.1 h
  simp [hl]

theorem symbolAs_eq_some_iff {a : α} :
    b.symbolAs sort as? o = .ok (some a) ↔ (b.symbol? o).bind as? = some a := by
  unfold symbolAs
  cases b.symbol? o with
  | none => simp
  | some s => cases h : as? s <;> simp [h]

theorem symbol_eq_none_of_symbolAs (h : b.symbolAs sort as? o = .ok none) :
    b.symbol? o = none := by
  unfold symbolAs at h
  cases hs : b.symbol? o with
  | none => rfl
  | some s => cases ha : as? s <;> simp [hs, ha] at h

theorem typeKnown_iff : b.TypeKnown o ↔ ∃ t, b.symbolAs sort (·.asType?) o = .ok (some t) := by
  simp only [symbolAs_eq_some_iff, TypeKnown, Option.isSome_iff_exists]

end Builder

namespace Builder.Ensures

variable {c : Catalog} {b : Builder} {limits : Limits}

/-! ## Types -/

theorem createType {base : TypeId} {id : DeclarationId} (hbase : b.schema.Has base)
    (hk : ¬b.TypeKnown id) (hroot : ∀ root, typeLink c id = .ok (.root root) → base = root) :
    b.Ensures c (createType c limits base id) fun t b₁ => b₁.schema.Has t ∧
      (c.DeclaresType id → b₁.TypeKnown id) ∧ (∀ o, o ≠ id → b₁.symbol? o = b.symbol? o) ∧
      b₁.finished = b.finished := by
  unfold Schemata.createType
  split
  · exact internal
  · rename_i d t hget
    obtain ⟨hd, ht⟩ := Catalog.getAs?_eq_some_iff.1 hget
    refine .schema_bind ?_
    extract_lets baseDef jp
    -- from here on only the ledger may differ from that of `b`
    have hjp : ∀ l u, Builder.Ensures { b with ledger := l } c (jp u) fun t b₁ =>
        b₁.schema.Has t ∧ (c.DeclaresType id → b₁.TypeKnown id) ∧
          (∀ o, o ≠ id → b₁.symbol? o = b.symbol? o) ∧ b₁.finished = b.finished := by
      intro l u
      refine .bind (addType hd ht hk rfl hbase rfl hroot rfl) fun u b₁ _ _ h => ?_
      obtain ⟨rfl, hb₁⟩ := h
      have key : b₁.schema.Has ⟨b.schema.types.size⟩ ∧ (c.DeclaresType id → b₁.TypeKnown id) ∧
          (∀ o, o ≠ id → b₁.symbol? o = b.symbol? o) ∧ b₁.finished = b.finished := by
        subst hb₁
        refine ⟨?_, fun _ => ?_, fun o ho => ?_, rfl⟩
        · simp [Schema.Has, Builder.addType]
        · simp [TypeKnown, symbol?, Builder.addType, SymbolId.asType?]
        · have hne : (o == id) = false := by simpa using ho
          simp [symbol?, Builder.addType, List.lookup_cons, hne]
      refine .schema_bind ?_
      dsimp only
      split
      · exact .pure key
      · refine (note _).bind fun v b₂ _ _ h => ?_
        obtain ⟨⟨l', rfl⟩, -⟩ := h
        exact .pure key
    split
    · exact hjp b.ledger ()
    · refine (noteFaults _ _).bind fun v b₁ _ _ h => ?_
      obtain ⟨⟨l, rfl⟩, -⟩ := h
      exact hjp l v

theorem createTypes {chain : List DeclarationId} {root : TypeId} (hn : chain.Nodup)
    (hk : ∀ x ∈ chain, ¬b.TypeKnown x) (hroot : b.schema.Has root)
    (hlinks : ∀ x rest, chain = x :: rest →
      (∀ a, typeLink c x = .ok (.root a) → root = a) ∧ ∀ y ∈ rest, Link.IsNext (typeLink c y)) :
    b.Ensures c (chain.foldlM (Schemata.createType c limits) root) fun t b₁ =>
      b₁.schema.Has t ∧ (∀ x ∈ chain, c.DeclaresType x → b₁.TypeKnown x) ∧
      b₁.finished = b.finished := by
  induction chain generalizing b root with
  | nil => exact .pure ⟨hroot, by simp, rfl⟩
  | cons x chain ih =>
    obtain ⟨hx, hn⟩ := List.nodup_cons.1 hn
    obtain ⟨hkx, hk⟩ := List.forall_mem_cons.1 hk
    obtain ⟨hx₀, hnext⟩ := hlinks x chain rfl
    rw [List.foldlM_cons]
    refine (createType hroot hkx hx₀).bind fun t b₁ _ _ ⟨ht, hknown, hsym, hfin⟩ => ?_
    have hlinks₁ : ∀ y rest, chain = y :: rest →
        (∀ a, typeLink c y = .ok (.root a) → t = a) ∧ ∀ z ∈ rest, Link.IsNext (typeLink c z) := by
      rintro y rest rfl
      obtain ⟨⟨up, hy⟩, hrest⟩ := List.forall_mem_cons.1 hnext
      exact ⟨fun a ha => by simp [hy] at ha, hrest⟩
    have hk₁ : ∀ y ∈ chain, ¬b₁.TypeKnown y := by
      intro y hy
      rw [TypeKnown, hsym y (fun h => hx (h ▸ hy))]
      exact hk y hy
    refine (ih hn hk₁ ht hlinks₁).mono fun u b₂ hg _ ⟨hu, hknown₂, hfin₂⟩ => ?_
    refine ⟨hu, List.forall_mem_cons.2 ⟨fun hd => hg.known x hd (hknown hd), hknown₂⟩, ?_⟩
    rw [hfin₂, hfin]

theorem has_builtin (hb : b.Inv c) (k : Kind) : b.schema.Has k.typeId :=
  hb.has_of_builtin k.rank_lt

theorem typeLink_root {id : DeclarationId} {t : TypeId}
    (h : typeLink c id = .ok (.root t)) : ∃ k : Kind, t = k.typeId := by
  unfold typeLink at h
  split at h
  · cases h
  · split at h
    · cases h
      exact ⟨_, rfl⟩
    · split at h
      · cases h
      · cases h
        exact ⟨_, rfl⟩
      · split at h <;> cases h

theorem resolveType (id : DeclarationId) :
    b.Ensures c (resolveType c limits id) fun t b₁ => b₁.schema.Has t ∧
      (c.DeclaresType id → b₁.TypeKnown id) ∧ b₁.finished = b.finished := by
  refine .of_inv fun hb => ?_
  unfold Schemata.resolveType
  refine .get_bind ?_
  extract_lets circle known
  refine .orAbort_bind fun ⟨root, chain⟩ hclimb => ?_
  obtain ⟨hc, -, hid⟩ := climb_ok hclimb List.nodup_nil (by simp) (by simp)
  have hunknown : ∀ x ∈ chain, ¬b.TypeKnown x := fun x hx => by
    simp [TypeKnown, symbol_eq_none_of_symbolAs (hc.unknown x hx)]
  have hhas : b.schema.Has root := by
    rcases hc.root with ⟨x, hx⟩ | ⟨x, hx⟩
    · obtain ⟨s, hs, hroot⟩ := Option.bind_eq_some_iff.1 (symbolAs_eq_some_iff.1 hx)
      cases s with
      | type t =>
        obtain rfl : t = root := Option.some.inj hroot
        exact hb.typeSymbols x t (mem_of_symbol? hs)
      | attr a => cases hroot
      | element e => cases hroot
    · obtain ⟨k, rfl⟩ := typeLink_root hx
      exact has_builtin hb k
  refine (createTypes hc.nodup hunknown hhas hc.forall_root).mono
    fun t b₁ hg _ ⟨ht, hchain, hfin⟩ => ⟨ht, fun hd => ?_, hfin⟩
  rcases hid with hid | hknown
  · exact hchain id hid hd
  · exact hg.known id hd (typeKnown_iff.2 ⟨root, hknown⟩)

theorem typeOf (scope : Scope) (r : NameRef) :
    b.Ensures c (typeOf c limits scope r) fun t b₁ =>
      b₁.schema.Has t ∧ b₁.finished = b.finished := by
  refine .of_inv fun hb => ?_
  unfold Schemata.typeOf
  refine .orAbort_bind fun referent _ => ?_
  cases referent with
  | builtin k => exact .pure ⟨has_builtin hb k, rfl⟩
  | declared id =>
    dsimp only
    split
    · exact abort
    · split
      · exact (resolveType id).mono fun t b₁ _ _ h => ⟨h.1, h.2.2⟩
      · exact abort

/-- The result is simple unless that is recorded as a fault. -/
theorem simpleTypeOf (scope : Scope) (r : NameRef) :
    b.Ensures c (simpleTypeOf c limits scope r) fun t b₁ => b₁.schema.Has t ∧
      b₁.finished = b.finished ∧ (b₁.Clean → (b₁.schema.typeDef t).kind.isSimple) := by
  unfold Schemata.simpleTypeOf
  refine (typeOf scope r).bind fun t b₁ _ _ ⟨ht, hfin⟩ => .schema_bind ?_
  refine (require _ _ _).bind fun _ b₂ _ _ ⟨hsame, hk⟩ => ?_
  obtain ⟨l, rfl⟩ := hsame
  exact .pure ⟨ht, hfin, hk⟩

/-! ## Elements -/

theorem substitutionFaults_eq_nil {s : Schema} {e head : Element}
    (h : substitutionFaults s e head = []) :
    s.derives e.type head.type ∧ (e.isNullable → head.isNullable) := by
  simp only [substitutionFaults, List.append_eq_nil_iff, ite_eq_right_iff,
    List.cons_ne_self, imp_false, Bool.not_eq_true] at h
  obtain ⟨⟨-, hd⟩, hn⟩ := h
  grind

theorem createElement {head : Option ElementId} {id : DeclarationId}
    (hhead : ∀ up, head = some up → up.index < b.schema.elements.size) :
    b.Ensures c (createElement c limits head id) fun e b₁ =>
      ∀ up, e = some up → up.index < b₁.schema.elements.size := by
  unfold Schemata.createElement
  split
  · exact internal
  · rename_i d e hget
    have ho := Catalog.not_declaresType_of_element hget
    refine (typeOf d.scope e.type).bind fun t b₁ hg₁ hb₁ _ => ?_
    extract_lets element
    let faults (s : Schema) : List Fault :=
      (head.bind s.element?).elim [] (substitutionFaults s element)
    refine addElement faults (e.substitutes.bind (·.span)) (fun i s => ?_) ho
      (fun up hup => Nat.lt_of_lt_of_le (hhead up hup) hg₁.schema.elements_size)
      fun hf up h hup hh => ?_
    · simp only [faults]
      cases head.bind s.element? <;> rfl
    · have hh' := (addElement_grows (c := c) (b := b₁) element ho).schema.element up h hh
      simp only [faults, show head = some up from hup, Option.bind_some, hh',
        Option.elim_some] at hf
      exact substitutionFaults_eq_nil hf

theorem createElements {chain : List DeclarationId} {root : Option ElementId}
    (hroot : ∀ up, root = some up → up.index < b.schema.elements.size) :
    b.Ensures c (chain.foldlM (Schemata.createElement c limits) root) fun e b₁ =>
      ∀ up, e = some up → up.index < b₁.schema.elements.size := by
  induction chain generalizing b root with
  | nil => exact .pure hroot
  | cons x chain ih =>
    rw [List.foldlM_cons]
    exact (createElement hroot).bind fun e b₁ _ _ he => ih he

theorem elementLink_root {id : DeclarationId} {e : Option ElementId}
    (h : elementLink c id = .ok (.root e)) : e = none := by
  unfold elementLink at h
  split at h
  · cases h
    rfl
  · split at h
    · cases h
      rfl
    · split at h
      · cases h
      · cases h
      · split at h <;> cases h

theorem resolveElement (id : DeclarationId) :
    b.Ensures c (resolveElement c limits id) fun e b₁ => e.index < b₁.schema.elements.size := by
  refine .of_inv fun hb => ?_
  unfold Schemata.resolveElement
  refine .get_bind ?_
  extract_lets circle known
  refine .orAbort_bind fun ⟨root, chain⟩ hclimb => ?_
  refine (createElements fun up hup => ?_).bind fun e b₁ _ _ he => ?_
  · obtain ⟨hc, -, -⟩ := climb_ok hclimb List.nodup_nil (by simp) (by simp)
    rcases hc.root with ⟨x, hx⟩ | ⟨x, hx⟩
    · obtain ⟨s, hs, hroot⟩ := Option.bind_eq_some_iff.1 (symbolAs_eq_some_iff.1 hx)
      cases s with
      | type t => cases hroot
      | attr a => cases hroot
      | element e =>
        obtain rfl : some e = root := Option.some.inj hroot
        cases hup
        exact hb.elementSymbols x _ (mem_of_symbol? hs)
    · cases (elementLink_root hx).symm.trans hup
  · cases e with
    | none => exact internal
    | some e => exact .pure (he e rfl)

/-- The element that a reference names, once it has its symbol. -/
theorem elementOf (scope : Scope) (r : NameRef) :
    b.Ensures c (elementOf c limits scope r) fun _ _ => True := by
  unfold Schemata.elementOf
  extract_lets fault
  refine .orAbort_bind fun referent _ => ?_
  cases referent with
  | builtin k => exact abort
  | declared id =>
    dsimp only
    split
    · exact (resolveElement id).mono fun _ _ _ _ _ => trivial
    · exact abort

/-- What stands for a global element is a faithful use of it. -/
theorem elementReference (scope : Scope) (r : NameRef) (span : Option Span) :
    b.Ensures c (elementReference c limits scope r span) fun e b₁ =>
      ∃ g, b₁.schema.element? e.1 = some g ∧ e.2 = g.asReference e.1 span := by
  unfold Schemata.elementReference
  refine (elementOf scope r).bind fun id b₁ _ _ _ => .schema_bind ?_
  split
  · rename_i g hg
    exact .pure ⟨g, hg, rfl⟩
  · exact abort

end Builder.Ensures

end Schemata
