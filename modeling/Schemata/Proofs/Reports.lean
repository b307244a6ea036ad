import Schemata.Proofs.Mentions

/-!
# Runs that stop early

`Builder.Reports` is a triple for a run from one builder that speaks of both ways in which the run
may end. If it comes to an end, what is recorded on the way does not stop a compilation, what was
in the making before is in the making after, and the result is the given one. If it stops early,
the last diagnostic is an error that tells why (`Catalog.Explains`), and none before it does; or a
literal that is mentioned is too long to count. So no run records an internal error.

The triple has an invariant of its own, `Builder.Orderly`, which says enough to see that: a
declaration has a symbol of its own sort only, and no circle is reached from what has a symbol.
-/

namespace Schemata

namespace Builder

/-- What has been made is of the sort that was declared, and above a simple type are simple
types. -/
structure Orderly (c : Catalog) (b : Builder) : Prop where
  builtin : ∀ k : Kind, b.schema.types[k.rank]? = some k.builtin
  size : b.schema.types.size = Kind.all.length + b.origins.size
  below : ∀ id up, (b.schema.typeDef id).base = some up → up.index < id.index
  simple : ∀ id up, (b.schema.typeDef id).base = some up → (b.schema.typeDef id).kind.isSimple →
    (b.schema.typeDef up).kind.isSimple
  origins : ∀ o ∈ b.origins.toList, c.DeclaresType o
  types : ∀ o t, (o, SymbolId.type t) ∈ b.symbols →
    c.DeclaresType o ∧ Link.Grounded (typeLink c) o ∧ b.schema.Has t
  attributes : ∀ o a, (o, SymbolId.attr a) ∈ b.symbols →
    c.DeclaresAttribute o ∧ (b.schema.attribute? a).isSome
  elements : ∀ o e, (o, SymbolId.element e) ∈ b.symbols →
    c.DeclaresElement o ∧ Link.Grounded (elementLink c) o ∧ (b.schema.element? e).isSome

/-- What a run that comes to an end keeps: only diagnostics that do not stop it are recorded, and
nothing that it began to make is left unfinished. -/
structure Keeps (b b' : Builder) : Prop where
  schema : b.schema.Extends b'.schema
  symbols : b.symbols ⊆ b'.symbols
  origins : ∀ (i : Nat) (o : DeclarationId), b.origins[i]? = some o → b'.origins[i]? = some o
  openAttributes : b'.openAttributes = b.openAttributes
  openTypes : b'.openTypes = b.openTypes
  ledger : ∃ ds : List Diagnostic, b'.ledger.entries.toList = b.ledger.entries.toList ++ ds ∧
    ∀ d ∈ ds, d.Ordinary

/-- A run stopped for a reason, which is recorded last if it is one to be recorded. -/
def Halts (c : Catalog) (b : Builder) : Stop → Prop
  | .aborted ledger => ∃ ds d, ledger.entries.toList = b.ledger.entries.toList ++ ds ++ [d] ∧
      (∀ x ∈ ds, Diagnostic.Ordinary x) ∧ c.Explains d
  | .failed _ _ => False
  | .tooLong => c.TooLong

/-- Every run keeps the order and has the given result, or stops for a reason. -/
def Reports {α : Type} (b : Builder) (c : Catalog) (m : Build α) (Q : α → Builder → Prop) : Prop :=
  b.Orderly c →
    match m.run b with
    | .ok (a, b') => b'.Orderly c ∧ b.Keeps b' ∧ Q a b'
    | .error stop => Halts c b stop

variable {c : Catalog} {b b₁ b₂ : Builder}

/-- What a run that comes to an end gives. -/
theorem Reports.apply {α : Type} {m : Build α} {Q : α → Builder → Prop} (h : b.Reports c m Q)
    (ho : b.Orderly c) {a : α} (hrun : m.run b = .ok (a, b₁)) :
    b₁.Orderly c ∧ b.Keeps b₁ ∧ Q a b₁ := by
  have h := h ho
  rw [hrun] at h
  exact h

/-! ## Keeping -/

namespace Keeps

theorem refl (b : Builder) : b.Keeps b where
  schema := .refl _
  symbols := List.Subset.refl _
  origins _ _ h := h
  openAttributes := rfl
  openTypes := rfl
  ledger := ⟨[], by simp, by simp⟩

theorem trans (h : b.Keeps b₁) (h' : b₁.Keeps b₂) : b.Keeps b₂ where
  schema := h.schema.trans h'.schema
  symbols := List.Subset.trans h.symbols h'.symbols
  origins i o ho := h'.origins i o (h.origins i o ho)
  openAttributes := h'.openAttributes.trans h.openAttributes
  openTypes := h'.openTypes.trans h.openTypes
  ledger := by
    obtain ⟨ds, hds, ho⟩ := h.ledger
    obtain ⟨ds', hds', ho'⟩ := h'.ledger
    exact ⟨ds ++ ds', by rw [hds', hds, List.append_assoc],
      fun d hd => (List.mem_append.1 hd).elim (ho d) (ho' d)⟩

theorem origin (h : b.Keeps b₁) {id : TypeId} {o : DeclarationId} (ho : b.origin? id = some o) :
    b₁.origin? id = some o := by
  unfold origin? at ho ⊢
  split at ho
  · cases ho
  · rename_i hid
    rw [if_neg hid]
    exact h.origins _ o ho

/-- A run that stops after another one has come to an end stops for a reason. -/
theorem halts (h : b.Keeps b₁) {stop : Stop} (hs : Halts c b₁ stop) : Halts c b stop := by
  cases stop with
  | failed message ledger => exact hs
  | tooLong => exact hs
  | aborted ledger =>
    obtain ⟨ds, hds, ho⟩ := h.ledger
    obtain ⟨ds', d, hl, ho', hd⟩ := hs
    exact ⟨ds ++ ds', d, by rw [hl, hds, List.append_assoc b.ledger.entries.toList],
      fun x hx => (List.mem_append.1 hx).elim (ho x) (ho' x), hd⟩

end Keeps

/-! ## Keeping the order -/

namespace Orderly

theorem typeDef_builtin (ho : b.Orderly c) (k : Kind) :
    b.schema.typeDef k.typeId = k.builtin := by
  rw [Schema.typeDef, Kind.typeId, ho.builtin k]
  rfl

theorem has_typeId (ho : b.Orderly c) (k : Kind) : b.schema.Has k.typeId :=
  (Array.getElem?_eq_some_iff.1 (ho.builtin k)).1

theorem withLedger (ho : b.Orderly c) (l : Ledger) : Orderly c { b with ledger := l } :=
  ⟨ho.builtin, ho.size, ho.below, ho.simple, ho.origins, ho.types, ho.attributes, ho.elements⟩

theorem withOpen (ho : b.Orderly c) (attributes : List DeclarationId) (types : List TypeId) :
    Orderly c { b with openAttributes := attributes, openTypes := types } :=
  ⟨ho.builtin, ho.size, ho.below, ho.simple, ho.origins, ho.types, ho.attributes, ho.elements⟩

theorem addType (ho : b.Orderly c) {o : DeclarationId} {t : TypeDef} {up : TypeId}
    (hd : c.DeclaresType o) (hg : Link.Grounded (typeLink c) o) (hup : t.base = some up)
    (hhas : b.schema.Has up)
    (hk : t.kind.isSimple → (b.schema.typeDef up).kind.isSimple) :
    Orderly c (b.addType o t).2 where
  builtin k := by
    have hlt : k.rank < b.schema.types.size := ho.has_typeId k
    simp only [Builder.addType, Array.getElem?_push, if_neg (Nat.ne_of_lt hlt), ho.builtin k]
  size := by simp [Builder.addType, ho.size, Nat.add_assoc]
  below id up' h := by
    rw [typeDef_addType] at h
    split at h
    · rename_i hid
      obtain rfl := Option.some.inj (hup.symm.trans h)
      rw [hid]
      exact hhas
    · exact ho.below id up' h
  simple id up' h hs := by
    rw [typeDef_addType] at h hs
    split at h
    · rename_i hid
      obtain rfl := Option.some.inj (hup.symm.trans h)
      rw [if_pos hid] at hs
      rw [typeDef_addType_of_has hhas]
      exact hk hs
    · rename_i hid
      rw [if_neg hid] at hs
      have hhas' : b.schema.Has up' := Nat.lt_trans (ho.below id up' h) (Schema.has_of_base h)
      rw [typeDef_addType_of_has hhas']
      exact ho.simple id up' h hs
  origins p hp := by
    simp only [Builder.addType, Array.toList_push, List.mem_append, List.mem_singleton] at hp
    rcases hp with hp | rfl
    · exact ho.origins p hp
    · exact hd
  types p u h := by
    rcases List.mem_cons.1 h with h | h
    · cases h
      exact ⟨hd, hg, by simp [Schema.Has, Builder.addType]⟩
    · obtain ⟨hp, hgp, hu⟩ := ho.types p u h
      exact ⟨hp, hgp, (addType_extends b o t).has hu⟩
  attributes p a h := ho.attributes p a (List.mem_of_ne_of_mem (by simp) h)
  elements p e h := ho.elements p e (List.mem_of_ne_of_mem (by simp) h)

theorem addAttribute (ho : b.Orderly c) {o : DeclarationId} (hd : c.DeclaresAttribute o)
    (a : Attribute) : Orderly c (b.addAttribute o a).2 where
  builtin := ho.builtin
  size := ho.size
  below := ho.below
  simple := ho.simple
  origins := ho.origins
  types p t h := ho.types p t (List.mem_of_ne_of_mem (by simp) h)
  attributes p i h := by
    rcases List.mem_cons.1 h with h | h
    · cases h
      exact ⟨hd, by simp [Schema.attribute?, Builder.addAttribute]⟩
    · obtain ⟨hp, hi⟩ := ho.attributes p i h
      obtain ⟨x, hx⟩ := Option.isSome_iff_exists.1 hi
      exact ⟨hp, by rw [(addAttribute_extends b o a).attr i x hx]; rfl⟩
  elements p e h := ho.elements p e (List.mem_of_ne_of_mem (by simp) h)

theorem addElement (ho : b.Orderly c) {o : DeclarationId} (hd : c.DeclaresElement o)
    (hg : Link.Grounded (elementLink c) o) (e : Element) : Orderly c (b.addElement o e).2 where
  builtin := ho.builtin
  size := ho.size
  below := ho.below
  simple := ho.simple
  origins := ho.origins
  types p t h := ho.types p t (List.mem_of_ne_of_mem (by simp) h)
  attributes p a h := ho.attributes p a (List.mem_of_ne_of_mem (by simp) h)
  elements p i h := by
    rcases List.mem_cons.1 h with h | h
    · cases h
      exact ⟨hd, hg, by simp [Schema.element?, Builder.addElement]⟩
    · obtain ⟨hp, hgp, hi⟩ := ho.elements p i h
      obtain ⟨x, hx⟩ := Option.isSome_iff_exists.1 hi
      exact ⟨hp, hgp, by rw [(addElement_extends b o e).element i x hx]; rfl⟩

/-- A type that gets its content has been declared, so it is no built-in one. -/
theorem finish (ho : b.Orderly c) {id : TypeId} (hid : ¬id.index < Kind.all.length) (x : Content) :
    Orderly c (b.finish id x) where
  builtin k := by
    have hne : ¬id.index = k.rank := fun h => hid (h ▸ k.rank_lt)
    simp only [Builder.finish, Array.getElem?_modify, if_neg hne, ho.builtin k]
  size := by simp [Builder.finish, ho.size]
  below other up h := by
    obtain ⟨y, hy⟩ := typeDef_finish b id x other
    rw [hy] at h
    exact ho.below other up h
  simple other up h hs := by
    obtain ⟨y, hy⟩ := typeDef_finish b id x other
    obtain ⟨z, hz⟩ := typeDef_finish b id x up
    rw [hy] at h hs
    rw [hz]
    exact ho.simple other up h hs
  origins := ho.origins
  types p t h := by
    obtain ⟨hp, hg, ht⟩ := ho.types p t h
    exact ⟨hp, hg, (finish_extends b id x).has ht⟩
  attributes := ho.attributes
  elements := ho.elements

end Orderly

/-! ## Rules -/

namespace Reports

variable {α β : Type} {P : α → Builder → Prop} {Q : β → Builder → Prop}

theorem pure {Q : α → Builder → Prop} {a : α} (h : Q a b) : b.Reports c (pure a) Q :=
  fun ho => ⟨ho, .refl b, h⟩

theorem bind {m : Build α} {f : α → Build β} (hm : b.Reports c m P)
    (hf : ∀ a b₁, b₁.Orderly c → b.Keeps b₁ → P a b₁ → b₁.Reports c (f a) Q) :
    b.Reports c (m >>= f) Q := by
  intro ho
  have hm := hm ho
  rw [StateT.run_bind]
  cases hrun : m.run b with
  | error stop =>
    rw [hrun] at hm
    exact hm
  | ok r =>
    obtain ⟨a, b₁⟩ := r
    rw [hrun] at hm
    obtain ⟨ho₁, hk₁, hP⟩ := hm
    have hf := hf a b₁ ho₁ hk₁ hP ho₁
    change (match (f a).run b₁ with | .ok (a, b') => _ | .error stop => _ : Prop)
    cases hrun' : (f a).run b₁ with
    | error stop =>
      rw [hrun'] at hf
      exact hk₁.halts hf
    | ok r =>
      obtain ⟨x, b₂⟩ := r
      rw [hrun'] at hf
      exact ⟨hf.1, hk₁.trans hf.2.1, hf.2.2⟩

/-- What only returns something made of a result stops for no other reason. -/
theorem last {m : Build α} {f : α → β} (hm : b.Reports c m P) :
    b.Reports c (m >>= fun a => Pure.pure (f a)) fun _ _ => True :=
  hm.bind fun _ _ _ _ _ => .pure trivial

/-- What follows from the result is a result. -/
theorem mono {m : Build α} {Q : α → Builder → Prop} (hm : b.Reports c m P)
    (h : ∀ a b₁, b₁.Orderly c → b.Keeps b₁ → P a b₁ → Q a b₁) : b.Reports c m Q := by
  intro ho
  have hm := hm ho
  cases hrun : m.run b with
  | error stop =>
    rw [hrun] at hm
    exact hm
  | ok r =>
    rw [hrun] at hm
    exact ⟨hm.1, hm.2.1, h _ _ hm.1 hm.2.1 hm.2.2⟩

/-- The order is there to be used. -/
theorem of_orderly {m : Build α} (h : b.Orderly c → b.Reports c m P) : b.Reports c m P :=
  fun ho => h ho ho

theorem map {m : Build α} {f : α → β} (hm : b.Reports c m fun a b₁ => Q (f a) b₁) :
    b.Reports c (f <$> m) Q :=
  hm.bind fun _ _ _ _ hQ => .pure hQ

theorem map_bind {γ : Type} {m : Build α} {g : α → γ} {f : γ → Build β} (hm : b.Reports c m P)
    (hf : ∀ a b₁, b₁.Orderly c → b.Keeps b₁ → P a b₁ → b₁.Reports c (f (g a)) Q) :
    b.Reports c (g <$> m >>= f) Q := by
  rw [bind_map_left]
  exact hm.bind hf

theorem schema_bind {f : Schema → Build β} (h : b.Reports c (f b.schema) Q) :
    b.Reports c (Build.schema >>= f) Q := h

theorem get_bind {f : Builder → Build β} (h : b.Reports c (f b) Q) :
    b.Reports c (get >>= f) Q := h

/-! ## Repetition -/

/-- Do something for each of some things. What holds after one of them stays. -/
theorem forM {f : α → Build Unit} {as : List α}
    (hP : ∀ a b₁ b₂, b₁.Keeps b₂ → P a b₁ → P a b₂)
    (h : ∀ a ∈ as, ∀ b₁, b.Keeps b₁ → b₁.Reports c (f a) fun _ b₂ => P a b₂) :
    b.Reports c (as.forM f) fun _ b₁ => ∀ a ∈ as, P a b₁ := by
  induction as generalizing b with
  | nil => exact .pure (by simp)
  | cons a as ih =>
    rw [List.forall_mem_cons] at h
    change b.Reports c (f a >>= fun _ => as.forM f) _
    refine (h.1 b (.refl b)).bind fun _ b₁ _ hk ha => ?_
    refine (ih fun x hx b₂ hk₂ => h.2 x hx b₂ (hk.trans hk₂)).mono fun _ b₂ _ hk₂ has => ?_
    exact List.forall_mem_cons.2 ⟨hP a b₁ b₂ hk₂ ha, has⟩

/-! ## Stopping -/

theorem abort {d : Diagnostic} (hd : c.Explains d) : b.Reports c (Build.abort d) P :=
  fun _ => ⟨[], d, by simp [Ledger.toList_add], by simp, hd⟩

theorem orAbort_bind {x : Except Diagnostic α} {f : α → Build β}
    (he : ∀ d, x = .error d → c.Explains d) (h : ∀ a, x = .ok a → b.Reports c (f a) Q) :
    b.Reports c (Build.orAbort x >>= f) Q := by
  cases x with
  | error d => exact (abort (he d rfl)).bind fun _ _ _ _ (hfalse : False) => hfalse.elim
  | ok a => exact h a rfl

/-- What is read is mentioned. -/
theorem reading_bind {scope : Scope} {texts : List String} {x : Except TooLong α}
    {P : α → Prop} {f : α → Build β} (hx : ReadsFrom texts x P)
    (hm : ∀ text ∈ texts, c.Mentions scope (.literal text))
    (h : ∀ a, P a → b.Reports c (f a) Q) : b.Reports c (Build.reading x >>= f) Q := by
  cases x with
  | error e =>
    obtain ⟨text, htext, hlong⟩ := hx
    exact fun _ => ⟨scope, text, hm text htext, hlong⟩
  | ok a => exact h a hx

/-! ## Recording -/

theorem note {d : Diagnostic} (hd : d.Ordinary) :
    b.Reports c (Build.note d) fun _ b₁ => ∃ l, b₁ = { b with ledger := l } :=
  fun ho => ⟨ho.withLedger _,
    { Keeps.refl b with ledger := ⟨[d], Ledger.toList_add _ _, by simpa using hd⟩ }, _, rfl⟩

theorem fault {f : Fault} (hf : f.code.isFinal = false) (span : Option Span) :
    b.Reports c (Build.note (f.diagnostic span)) fun _ b₁ => ∃ l, b₁ = { b with ledger := l } :=
  note hf

theorem require (holds : Bool) {f : Fault} (hf : f.code.isFinal = false) (span : Option Span) :
    b.Reports c (Build.require holds f span) fun _ _ => True := by
  cases holds with
  | false => exact (fault hf span).mono fun _ _ _ _ _ => trivial
  | true => exact .pure trivial

/-- Record something for each of some things. -/
theorem noteEach (d : α → Diagnostic) {as : List α} (hd : ∀ a ∈ as, (d a).Ordinary) :
    b.Reports c (as.forM fun a => Build.note (d a)) fun _ b₁ =>
      ∃ l, b₁ = { b with ledger := l } := by
  induction as generalizing b with
  | nil => exact .pure ⟨b.ledger, rfl⟩
  | cons a as ih =>
    obtain ⟨ha, has⟩ := List.forall_mem_cons.1 hd
    change b.Reports c (Build.note (d a) >>= fun _ => as.forM fun a => Build.note (d a)) _
    refine (note ha).bind fun _ b₁ _ _ ⟨l, hl⟩ => (ih has).mono fun _ b₂ _ _ ⟨l', hl'⟩ => ?_
    subst hl
    exact ⟨l', hl'⟩

theorem faults {fs : List Fault} (hf : ∀ f ∈ fs, f.code.isFinal = false) (span : Option Span) :
    b.Reports c (fs.forM fun f => Build.note (f.diagnostic span)) fun _ b₁ =>
      ∃ l, b₁ = { b with ledger := l } :=
  noteEach _ hf

/-! ## Adding symbols -/

/-- What adds a symbol and nothing to the ledger keeps what there is. -/
theorem keeps_of_symbols {b' : Builder} {x : DeclarationId × SymbolId}
    (hs : b.schema.Extends b'.schema) (hx : b'.symbols = x :: b.symbols)
    (hto : ∀ (i : Nat) (o : DeclarationId), b.origins[i]? = some o → b'.origins[i]? = some o)
    (hta : b'.openAttributes = b.openAttributes) (htt : b'.openTypes = b.openTypes)
    (hl : b'.ledger = b.ledger) : b.Keeps b' where
  schema := hs
  symbols := by
    rw [hx]
    exact List.subset_cons_self x b.symbols
  origins := hto
  openAttributes := hta
  openTypes := htt
  ledger := ⟨[], by simp [hl], by simp⟩

theorem addType {o : DeclarationId} {t : TypeDef} {up : TypeId} (hd : c.DeclaresType o)
    (hg : Link.Grounded (typeLink c) o) (hup : t.base = some up) (hhas : b.schema.Has up)
    (hk : t.kind.isSimple → (b.schema.typeDef up).kind.isSimple) :
    b.Reports c (modifyGet (·.addType o t)) fun id b₁ =>
      b₁.schema.Has id ∧ (o, .type id) ∈ b₁.symbols :=
  fun ho => ⟨ho.addType hd hg hup hhas hk,
    keeps_of_symbols (addType_extends b o t) rfl (fun i p h => by
      have := (Array.getElem?_eq_some_iff.1 h).1
      simp only [Array.getElem?_push, if_neg (Nat.ne_of_lt this), h]) rfl rfl rfl,
    by simp [Schema.Has], List.mem_cons_self⟩

theorem addElement {o : DeclarationId} {e : Element} (hd : c.DeclaresElement o)
    (hg : Link.Grounded (elementLink c) o) :
    b.Reports c (modifyGet (·.addElement o e)) fun id b₁ =>
      (b₁.schema.element? id).isSome ∧ (o, .element id) ∈ b₁.symbols :=
  fun ho => ⟨ho.addElement hd hg e,
    keeps_of_symbols (addElement_extends b o e) rfl (fun _ _ h => h) rfl rfl rfl,
    by simp [Schema.element?], List.mem_cons_self⟩

/-! ## What is in the making -/

/-- A global attribute is in the making until it has its symbol. -/
theorem makingAttribute {o : DeclarationId} {m : Build Attribute} (hd : c.DeclaresAttribute o)
    (hm : (b.openAttribute o).Reports c m fun _ _ => True) :
    b.Reports c (do
      modify (·.openAttribute o)
      let a ← m
      modifyGet (·.addAttribute o a)) fun id b₁ =>
        (b₁.schema.attribute? id).isSome ∧ (o, .attr id) ∈ b₁.symbols := by
  intro ho
  have hm := hm (ho.withOpen (o :: b.openAttributes) b.openTypes)
  -- what is in the making is no result, so the run goes on from the builder that has it
  have hstep : (do
      modify (·.openAttribute o)
      let a ← m
      modifyGet (·.addAttribute o a) : Build AttributeId).run b =
      (m >>= fun a => modifyGet (·.addAttribute o a)).run (b.openAttribute o) := rfl
  rw [hstep, StateT.run_bind]
  cases hrun : m.run (b.openAttribute o) with
  | error stop =>
    rw [hrun] at hm
    cases stop with
    | aborted l => exact hm
    | failed message l => exact hm
    | tooLong => exact hm
  | ok r =>
    obtain ⟨a, b₁⟩ := r
    rw [hrun] at hm
    obtain ⟨ho₁, hk, -⟩ := hm
    refine ⟨ho₁.addAttribute hd a, ⟨hk.schema.trans (addAttribute_extends b₁ o a),
      List.subset_cons_of_subset _ hk.symbols, hk.origins, ?_, hk.openTypes, hk.ledger⟩, ?_,
      List.mem_cons_self⟩
    · change b₁.openAttributes.erase o = b.openAttributes
      rw [hk.openAttributes]
      exact List.erase_cons_head o b.openAttributes
    · simp [Schema.attribute?]

/-- The content of a type is made while the type is in the making, which it is no longer when it
has its content. -/
theorem making {id : TypeId} {content : Build α} {wrap : α → Content}
    (hid : ¬id.index < Kind.all.length)
    (hm : (b.openType id).Reports c content fun _ _ => True) :
    b.Reports c (do
      modify (·.openType id)
      let x ← content
      modify (·.finish id (wrap x))) fun _ _ => True := by
  intro ho
  have hm := hm (ho.withOpen b.openAttributes (id :: b.openTypes))
  have hstep : (do
      modify (·.openType id)
      let x ← content
      modify (·.finish id (wrap x)) : Build Unit).run b =
      (content >>= fun x => modify (·.finish id (wrap x))).run (b.openType id) := rfl
  rw [hstep, StateT.run_bind]
  cases hrun : content.run (b.openType id) with
  | error stop =>
    rw [hrun] at hm
    cases stop with
    | aborted l => exact hm
    | failed message l => exact hm
    | tooLong => exact hm
  | ok r =>
    obtain ⟨x, b₁⟩ := r
    rw [hrun] at hm
    obtain ⟨ho₁, hk, -⟩ := hm
    refine ⟨ho₁.finish hid _, ⟨hk.schema.trans (finish_extends b₁ id _), hk.symbols,
      hk.origins, hk.openAttributes, ?_, hk.ledger⟩, trivial⟩
    change b₁.openTypes.erase id = b.openTypes
    rw [hk.openTypes]
    exact List.erase_cons_head id b.openTypes

end Reports

end Builder

end Schemata
