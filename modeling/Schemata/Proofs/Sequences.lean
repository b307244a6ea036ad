import Schemata.Proofs.Changes

/-!
# Runs as sequences of steps

`Builder.Takes` is a triple for a run from one builder: if it comes to an end, it was a sequence of
steps, and ends with the given result. It builds on `Builder.Ensures`, so the invariant is there at
every point of the run.

This module has its rules, and says what `resolveType`, `resolveElement` and the functions that look
up references do to a builder. A climb passes the declarations between a root, or one that has its
symbol, and the declaration where it began; from the top down, each of them gets its symbol above
that of the one before. What a reference names has its symbol then.
-/

namespace Schemata

open Relation

namespace Builder

variable {c : Catalog} {limits : Limits} {k : Extent} {b b₁ : Builder} {α β : Type}

/-- Every run that comes to an end is a sequence of steps and has the given result. -/
def Takes (b : Builder) (c : Catalog) (limits : Limits) (k : Extent) (m : Build α)
    (Q : α → Builder → Prop) : Prop :=
  b.Placed → b.Ensures c m fun a b' => k.Steps c limits b b' ∧ Q a b'

theorem Ensures.and {m : Build α} {P Q : α → Builder → Prop} (hP : b.Ensures c m P)
    (hQ : b.Inv c → ∀ a b', m.run b = .ok (a, b') → Q a b') :
    b.Ensures c m fun a b' => P a b' ∧ Q a b' := by
  intro hb a b' hrun
  obtain ⟨hg, hb', hp⟩ := hP hb a b' hrun
  exact ⟨hg, hb', hp, hQ hb a b' hrun⟩

theorem run_bind_of_ok {m : Build α} {f : α → Build β} {a : α} (h : m.run b = .ok (a, b₁)) :
    (m >>= f).run b = (f a).run b₁ := by
  rw [StateT.run_bind, h]
  rfl

theorem run_schema_bind {f : Schema → Build β} :
    (Build.schema >>= f).run b = (f b.schema).run b := rfl

namespace Takes

variable {P : α → Builder → Prop} {Q : β → Builder → Prop}

/-! ## Rules -/

/-- What a run comes to. -/
theorem apply {m : Build α} (h : b.Takes c limits k m P) (hp : b.Placed) (hb : b.Inv c) {a : α}
    {b' : Builder} (hrun : m.run b = .ok (a, b')) :
    k.Steps c limits b b' ∧ b'.Inv c ∧ b'.Placed ∧ P a b' := by
  obtain ⟨-, hb', hs, hP⟩ := h hp hb a b' hrun
  exact ⟨hs, hb', hs.placed hp, hP⟩

theorem pure {a : α} (h : P a b) : b.Takes c limits k (pure a) P :=
  fun _ => .pure ⟨.refl, h⟩

theorem bind {m : Build α} {f : α → Build β} (hm : b.Takes c limits k m P)
    (hf : ∀ a b₁, b.Lasts b₁ → P a b₁ → b₁.Takes c limits k (f a) Q) :
    b.Takes c limits k (m >>= f) Q :=
  fun hp => (hm hp).bind fun a b₁ _ _ ⟨hs, hP⟩ =>
    (hf a b₁ hs.lasts hP (hs.placed hp)).mono fun _ _ _ _ ⟨hs', hQ⟩ => ⟨hs.trans hs', hQ⟩

theorem mono {m : Build α} {Q : α → Builder → Prop} (hm : b.Takes c limits k m P)
    (h : ∀ a b₁, b.Lasts b₁ → P a b₁ → Q a b₁) : b.Takes c limits k m Q :=
  fun hp => (hm hp).mono fun a b₁ _ _ ⟨hs, hP⟩ => ⟨hs, h a b₁ hs.lasts hP⟩

/-- The invariant is there to be used. -/
theorem of_inv {m : Build α} (h : b.Inv c → b.Placed → b.Takes c limits k m P) :
    b.Takes c limits k m P :=
  fun hp => .of_inv fun hb => h hb hp hp

theorem map {m : Build α} {f : α → β} (hm : b.Takes c limits k m fun a b₁ => Q (f a) b₁) :
    b.Takes c limits k (f <$> m) Q :=
  hm.bind fun _ _ _ hQ => .pure hQ

theorem map_bind {γ : Type} {m : Build α} {g : α → γ} {f : γ → Build β}
    (hm : b.Takes c limits k m P)
    (hf : ∀ a b₁, b.Lasts b₁ → P a b₁ → b₁.Takes c limits k (f (g a)) Q) :
    b.Takes c limits k (g <$> m >>= f) Q := by
  rw [bind_map_left]
  exact hm.bind hf

theorem schema_bind {f : Schema → Build β} (h : b.Takes c limits k (f b.schema) Q) :
    b.Takes c limits k (Build.schema >>= f) Q := h

theorem get_bind {f : Builder → Build β} (h : b.Takes c limits k (f b) Q) :
    b.Takes c limits k (get >>= f) Q := h

theorem abort {d : Diagnostic} : b.Takes c limits k (Build.abort d) P := fun _ => .abort

theorem orAbort_bind {x : Except Diagnostic α} {f : α → Build β}
    (h : ∀ a, x = .ok a → b.Takes c limits k (f a) Q) :
    b.Takes c limits k (Build.orAbort x >>= f) Q :=
  fun hp => .orAbort_bind fun a ha => h a ha hp

theorem reading_bind {x : Except TooLong α} {f : α → Build β}
    (h : ∀ a, x = .ok a → b.Takes c limits k (f a) Q) :
    b.Takes c limits k (Build.reading x >>= f) Q :=
  fun hp => .reading_bind fun a ha => h a ha hp

/-- A run that does one step. -/
theorem step {m : Build α} (h : b.Ensures c m fun a b' => k.Step c limits b b' ∧ P a b') :
    b.Takes c limits k m P :=
  fun _ => h.mono fun _ _ _ _ ⟨hs, hP⟩ => ⟨.single hs, hP⟩

/-! ## Recording -/

/-- A run that only records something. -/
theorem records {m : Build α} {P : Builder → Prop}
    (h : b.Ensures c m fun _ b' => (∃ l, b' = { b with ledger := l }) ∧ P b') :
    b.Takes c limits k m fun _ b' => (∃ l, b' = { b with ledger := l }) ∧ P b' := by
  refine step (h.mono fun a b' hg _ hP => ⟨?_, hP⟩)
  obtain ⟨⟨l, rfl⟩, -⟩ := hP
  exact TypeStep.step (.record hg.clean)

theorem note (d : Diagnostic) : b.Takes c limits k (Build.note d) fun _ b₁ =>
    (∃ l, b₁ = { b with ledger := l }) ∧ (d.isError → ¬b₁.Clean) :=
  records (.note d)

theorem require (holds : Bool) (f : Fault) (span : Option Span) :
    b.Takes c limits k (Build.require holds f span) fun _ b₁ =>
      (∃ l, b₁ = { b with ledger := l }) ∧ (b₁.Clean → holds) :=
  records (.require holds f span)

theorem noteEach (d : α → Diagnostic) (hd : ∀ a, (d a).isError) (as : List α) :
    b.Takes c limits k (as.forM fun a => Build.note (d a)) fun _ b₁ =>
      (∃ l, b₁ = { b with ledger := l }) ∧ (b₁.Clean → as = []) :=
  records (.noteEach d hd as)

theorem noteFaults (fs : List Fault) (span : Option Span) :
    b.Takes c limits k (fs.forM fun f => Build.note (f.diagnostic span)) fun _ b₁ =>
      (∃ l, b₁ = { b with ledger := l }) ∧ (b₁.Clean → fs = []) :=
  records (.noteFaults fs span)

theorem noteAll (ds : List Diagnostic) : b.Takes c limits k (ds.forM Build.note) fun _ b₁ =>
    ∃ l, b₁ = { b with ledger := l } :=
  (records (P := fun _ => True) ((Ensures.noteAll ds).mono fun _ _ _ _ h => ⟨h, trivial⟩)).mono
    fun _ _ _ h => h.1

/-! ## What is in the making -/

theorem openAttribute (o : DeclarationId) :
    b.Takes c limits .all (modify (·.openAttribute o)) fun _ b₁ => b₁ = b.openAttribute o :=
  step ((Ensures.openAttribute o).mono fun _ _ _ _ h => ⟨h ▸ Step.openAttribute o, h⟩)

end Takes

end Builder

/-! ## Symbols that are made step by step -/

open Relation

/-! ## Paths of a climb -/

/-- The way down from a declaration, each link of which leads up to the one before. -/
inductive Path {α : Type} (link : DeclarationId → Except Diagnostic (Link α)) :
    DeclarationId → List DeclarationId → DeclarationId → Prop
  | nil (p : DeclarationId) : Path link p [] p
  | cons {p x o : DeclarationId} {rest : List DeclarationId} (step : link x = .ok (.next p))
    (down : Path link x rest o) : Path link p (x :: rest) o

/-- A climb that is done has passed the way down from a symbol that is known, or from a root. -/
theorem path_of_climb {α : Type} {known : DeclarationId → Except Diagnostic (Option α)}
    {link : DeclarationId → Except Diagnostic (Link α)}
    {circle : List DeclarationId → DeclarationId → Diagnostic} {fuel : Nat}
    {passed chain : List DeclarationId} {id o : DeclarationId} {a : α}
    (h : climb known link circle fuel passed id = .ok (a, chain)) (hp : Path link id passed o) :
    (∃ p, known p = .ok (some a) ∧ Path link p chain o) ∨
      ∃ x rest, chain = x :: rest ∧ link x = .ok (.root a) ∧ Path link x rest o := by
  induction fuel generalizing passed id with
  | zero => cases h
  | succ fuel ih =>
    unfold climb at h
    split at h
    · cases h
    · rename_i a' hk
      cases h
      exact Or.inl ⟨id, hk, hp⟩
    · split at h
      · cases h
      · split at h
        · cases h
        · rename_i a' hroot
          cases h
          exact Or.inr ⟨id, passed, rfl, hroot, hp⟩
        · rename_i up hnext
          exact ih h (.cons hnext hp)

theorem Path.not_declaresType {c : Catalog} {p o : DeclarationId} {chain : List DeclarationId}
    (h : Path (elementLink c) p chain o) : ∀ x ∈ chain, ¬c.DeclaresType x := by
  induction h with
  | nil p => exact nofun
  | @cons p x o rest step _ ih =>
    refine List.forall_mem_cons.2 ⟨?_, ih⟩
    unfold elementLink at step
    split at step
    · cases step
    · rename_i hget
      exact Catalog.not_declaresType_of_element hget

/-! ## Making one symbol -/

/-- What is recorded of the base of a type. -/
def TypeDecl.baseDiagnostics (t : TypeDecl) (base : TypeDef) : List Diagnostic :=
  t.base?.elim [] fun r => (baseFaults base).map (·.diagnostic r.span)

/-- What is recorded of the number of types above a type. -/
def depthDiagnostics (limits : Limits) (d : Declaration) (t : TypeDecl) (depth : Nat) :
    List Diagnostic :=
  match limits.check .derivationDepth depth with
  | .ok _ => []
  | .error e => [(Fault.tooDeep d.fullName e).diagnostic t.name.span]

/-- What is recorded of an element and the one that it substitutes. -/
def substitutionDiagnostics (s : Schema) (d : GlobalElementDecl) (e : Element)
    (head : Option Element) : List Diagnostic :=
  head.elim [] fun h =>
    (substitutionFaults s e h).map (·.diagnostic (d.substitutes.bind (·.span)))

namespace Builder

variable {c : Catalog} {limits : Limits} {k : Extent} {b b₁ : Builder}

theorem run_createType {up : TypeId} {o : DeclarationId} {d : Declaration} {t : TypeDecl}
    (h : c.getAs? (·.asType?) o = some (d, t)) :
    let added := b.addType o (d.typeDef t up (b.schema.typeDef up))
    (createType c limits up o).run b = .ok (added.1, { added.2 with
      ledger := (b.ledger.extend (t.baseDiagnostics (b.schema.typeDef up))).extend
        (depthDiagnostics limits d t (added.2.schema.depth added.1)) }) := by
  intro added
  have hlast : ∀ l : Ledger, (do
      match limits.check .derivationDepth ((← Build.schema).depth added.1) with
      | .ok _ => pure ()
      | .error e => Build.note ((Fault.tooDeep d.fullName e).diagnostic t.name.span)
      return added.1 : Build TypeId).run { added.2 with ledger := l } = .ok (added.1,
        { added.2 with
          ledger := l.extend (depthDiagnostics limits d t (added.2.schema.depth added.1)) }) := by
    intro l
    rw [run_schema_bind, depthDiagnostics]
    cases limits.check .derivationDepth (added.2.schema.depth added.1) with
    | ok u => rfl
    | error e => rfl
  unfold createType
  simp only [h, TypeDecl.baseDiagnostics]
  rw [run_schema_bind]
  cases hr : t.base? with
  | none => exact hlast b.ledger
  | some r => exact (run_bind_of_ok (Ensures.run_noteFaults _ _ b)).trans (hlast _)

theorem run_createElement {head : Option ElementId} {o : DeclarationId} {d : Declaration}
    {e : GlobalElementDecl} {t : TypeId} (h : c.getAs? (·.asElement?) o = some (d, e))
    (ht : (typeOf c limits d.scope e.type).run b = .ok (t, b₁)) :
    let added := b₁.addElement o (d.element e t head)
    (createElement c limits head o).run b = .ok (some added.1, { added.2 with
      ledger := b₁.ledger.extend (substitutionDiagnostics added.2.schema e (d.element e t head)
        (head.bind added.2.schema.element?)) }) := by
  intro added
  unfold createElement
  simp only [h]
  rw [run_bind_of_ok ht]
  have hadded : ∀ f : ElementId → Build (Option ElementId),
      (modifyGet (·.addElement o (d.element e t head)) >>= f).run b₁ = (f added.1).run added.2 :=
    fun f => rfl
  refine (hadded _).trans ?_
  rw [run_schema_bind, substitutionDiagnostics]
  cases head.bind added.2.schema.element? with
  | none => rfl
  | some h => exact run_bind_of_ok (Ensures.run_noteFaults _ _ added.2)

/-! ## What is recorded -/

theorem baseFaults_eq_nil {t : TypeDecl} {base : TypeDef}
    (h : (t.baseDiagnostics base).any (·.isError) = false) (ht : t.base?.isSome) :
    baseFaults base = [] := by
  obtain ⟨r, hr⟩ := Option.isSome_iff_exists.1 ht
  rw [TypeDecl.baseDiagnostics, hr, Option.elim_some, List.any_map, List.any_eq_false] at h
  exact List.eq_nil_iff_forall_not_mem.2 fun f hf => h f hf (f.isError_diagnostic _)

theorem depth_le {d : Declaration} {t : TypeDecl} {depth : Nat}
    (h : (depthDiagnostics limits d t depth).any (·.isError) = false) :
    depth ≤ limits.derivationDepth := by
  unfold depthDiagnostics Limits.check at h
  split at h
  · rename_i hcheck
    split at hcheck
    · cases hcheck
    · exact Nat.le_of_not_lt ‹_›
  · simp [Fault.isError_diagnostic] at h

theorem substitutionFaults_eq_nil {s : Schema} {d : GlobalElementDecl} {e : Element}
    {head : Option Element}
    (h : (substitutionDiagnostics s d e head).any (·.isError) = false) :
    ∀ x, head = some x → substitutionFaults s e x = [] := by
  rintro x rfl
  rw [substitutionDiagnostics, Option.elim_some, List.any_map, List.any_eq_false] at h
  exact List.eq_nil_iff_forall_not_mem.2 fun f hf => h f hf (f.isError_diagnostic _)

theorem clean_of_extend {l : Ledger} {ds : List Diagnostic}
    (h : (l.extend ds).hasErrors = false) :
    l.hasErrors = false ∧ ds.any (·.isError) = false := by
  rwa [Ledger.hasErrors_extend, Bool.or_eq_false_iff] at h

namespace Takes

/-! ## Types -/

theorem symbol_of_asType {o : DeclarationId} {t : TypeId}
    (h : (b.symbol? o).bind (·.asType?) = some t) : b.symbol? o = some (.type t) := by
  obtain ⟨s, hs, ht⟩ := Option.bind_eq_some_iff.1 h
  cases s <;> cases ht
  exact hs

theorem has_of_above (hp : b.Placed) {o : DeclarationId} {up : TypeId}
    (h : b.Above (·.asType?) (typeLink c) o up) : b.schema.Has up := by
  rcases h with hroot | ⟨p, -, hs⟩
  · obtain ⟨k, rfl⟩ := Ensures.typeLink_root hroot
    exact hp.builtin k
  · exact hp.symbol (symbol_of_asType hs)

theorem createType {o : DeclarationId} {up : TypeId} (hnew : b.symbol? o = none)
    (habove : b.Above (·.asType?) (typeLink c) o up) :
    b.Takes c limits k (createType c limits up o) fun t b₁ => c.DeclaresType o ∧
      ∀ p, b₁.symbol? p = if p = o then some (.type t) else b.symbol? p := by
  refine of_inv fun _ hp => step ?_
  have hk : ¬b.TypeKnown o := by simp [TypeKnown, hnew]
  have hroot : ∀ root, typeLink c o = .ok (.root root) → up = root := by
    intro root h
    rcases habove with h' | ⟨p, h', -⟩
    · simpa using h'.symm.trans h
    · simp [h'] at h
  refine ((Ensures.createType (has_of_above hp habove) hk hroot).and fun _ t b₁ hrun => ?_).mono
    fun _ _ _ _ h => h.2
  cases hget : c.getAs? (·.asType?) o with
  | none =>
    unfold Schemata.createType at hrun
    simp only [hget] at hrun
    cases hrun
  | some p =>
    obtain ⟨d, decl⟩ := p
    rw [run_createType hget] at hrun
    cases hrun
    obtain ⟨hd, ht⟩ := Catalog.getAs?_eq_some_iff.1 hget
    refine ⟨TypeStep.step (.addType hget hnew habove ?_ ?_ ?_), ?_, fun p => symbol_cons rfl⟩
    · exact fun h => (clean_of_extend (clean_of_extend h).1).1
    · exact fun h => baseFaults_eq_nil (clean_of_extend (clean_of_extend h).1).2
    · exact fun h => depth_le (clean_of_extend h).2
    · simp [Catalog.DeclaresType, hd, ht]

/-- Each declaration on a path gets its symbol, if the start of the path has one. -/
theorem createTypes {p o : DeclarationId} {chain : List DeclarationId} {root : TypeId}
    (hpath : Path (typeLink c) p chain o) (hstart : b.symbol? p = some (.type root))
    (hn : chain.Nodup) (hnew : ∀ x ∈ chain, b.symbol? x = none) :
    b.Takes c limits k (chain.foldlM (Schemata.createType c limits) root) fun t b₁ =>
      b₁.symbol? o = some (.type t) := by
  induction hpath generalizing b root with
  | nil p => exact .pure hstart
  | @cons p x o rest hstep _ ih =>
    obtain ⟨hx, hn⟩ := List.nodup_cons.1 hn
    obtain ⟨hnewx, hnew⟩ := List.forall_mem_cons.1 hnew
    rw [List.foldlM_cons]
    have habove : b.Above (·.asType?) (typeLink c) x root :=
      Or.inr ⟨p, hstep, by rw [hstart]; rfl⟩
    refine (createType hnewx habove).bind fun t b₁ _ ⟨_, hsymbol⟩ => ?_
    refine ih (by rw [hsymbol, if_pos rfl]) hn fun y hy => ?_
    rw [hsymbol, if_neg (ne_of_mem_of_not_mem hy hx)]
    exact hnew y hy

theorem resolveType (o : DeclarationId) :
    b.Takes c limits k (resolveType c limits o) fun t b₁ => b₁.symbol? o = some (.type t) := by
  unfold Schemata.resolveType
  refine .get_bind ?_
  extract_lets circle known
  refine .orAbort_bind fun ⟨root, chain⟩ hclimb => ?_
  obtain ⟨hc, -, -⟩ := climb_ok hclimb List.nodup_nil (by simp) (by simp)
  have hnew : ∀ x ∈ chain, b.symbol? x = none := fun x hx =>
    symbol_eq_none_of_symbolAs (hc.unknown x hx)
  rcases path_of_climb hclimb (.nil o) with ⟨p, hp, hpath⟩ | ⟨x, rest, rfl, hroot, hpath⟩
  · exact createTypes hpath (symbol_of_asType (symbolAs_eq_some_iff.1 hp)) hc.nodup hnew
  · obtain ⟨hx, hn⟩ := List.nodup_cons.1 hc.nodup
    obtain ⟨hnewx, hnew⟩ := List.forall_mem_cons.1 hnew
    dsimp only
    rw [List.foldlM_cons]
    refine (createType hnewx (Or.inl hroot)).bind fun t b₁ _ ⟨_, hsymbol⟩ => ?_
    refine createTypes hpath (by rw [hsymbol, if_pos rfl]) hn fun y hy => ?_
    rw [hsymbol, if_neg (ne_of_mem_of_not_mem hy hx)]
    exact hnew y hy

theorem typeOf (scope : Scope) (r : NameRef) :
    b.Takes c limits k (typeOf c limits scope r) fun t b₁ => b₁.NamesType c scope r t := by
  unfold Schemata.typeOf
  refine .orAbort_bind fun referent h => ?_
  cases referent with
  | builtin k => exact .pure (Or.inl ⟨k, h, rfl⟩)
  | declared o =>
    dsimp only
    split
    · exact abort
    · split
      · exact (resolveType o).mono fun t b₁ _ ho => Or.inr ⟨o, h, ho⟩
      · exact abort

/-- The result is simple unless that is recorded as a fault. -/
theorem simpleTypeOf (scope : Scope) (r : NameRef) :
    b.Takes c limits k (simpleTypeOf c limits scope r) fun t b₁ => b₁.NamesType c scope r t ∧
      (b₁.Clean → (b₁.schema.typeDef t).kind.isSimple) := by
  unfold Schemata.simpleTypeOf
  refine (typeOf scope r).bind fun t b₁ _ ht => .schema_bind ?_
  refine (require _ _ _).bind fun _ b₂ _ ⟨⟨l, hl⟩, hk⟩ => ?_
  subst hl
  exact .pure ⟨ht, hk⟩

/-! ## Elements -/

theorem symbol_of_asElement {o : DeclarationId} {e : Option ElementId}
    (h : (b.symbol? o).bind (fun s => s.asElement?.map some) = some e) :
    ∃ i, e = some i ∧ b.symbol? o = some (.element i) := by
  obtain ⟨s, hs, he⟩ := Option.bind_eq_some_iff.1 h
  cases s <;> cases he
  exact ⟨_, rfl, hs⟩

theorem exists_typeOf_of_createElement {o : DeclarationId} {head e : Option ElementId}
    {b' : Builder} (hrun : (Schemata.createElement c limits head o).run b = .ok (e, b')) :
    ∃ d decl t b₁, c.getAs? (·.asElement?) o = some (d, decl) ∧
      (Schemata.typeOf c limits d.scope decl.type).run b = .ok (t, b₁) := by
  cases hget : c.getAs? (·.asElement?) o with
  | none =>
    unfold Schemata.createElement at hrun
    simp only [hget] at hrun
    cases hrun
  | some p =>
    obtain ⟨d, decl⟩ := p
    unfold Schemata.createElement at hrun
    simp only [hget] at hrun
    obtain ⟨⟨t, b₁⟩, ht, -⟩ := bind_eq_ok hrun
    exact ⟨d, decl, t, b₁, rfl, ht⟩

theorem createElement {o : DeclarationId} {head : Option ElementId} (hnew : b.symbol? o = none)
    (habove : b.Above (fun s => s.asElement?.map some) (elementLink c) o head) :
    b.Takes c limits .all (createElement c limits head o) fun e b₁ =>
      ∃ i, e = some i ∧ b₁.symbol? o = some (.element i) ∧
        ∀ p, p ≠ o → ¬c.DeclaresType p → b₁.symbol? p = b.symbol? p := by
  intro hp
  have hhead : ∀ up, head = some up → up.index < b.schema.elements.size :=
    fun _ => habove.head hp
  refine ((Ensures.createElement hhead).and fun hb e b' hrun => ?_).mono fun _ _ _ _ h => h.2
  obtain ⟨d, decl, t, b₁, hget, ht⟩ := exists_typeOf_of_createElement hrun
  rw [run_createElement hget ht] at hrun
  cases hrun
  obtain ⟨hs, -, -, hnames⟩ := (typeOf (k := .types) d.scope decl.type).apply hp hb ht
  have hnew₁ : b₁.symbol? o = none :=
    (symbol_eq_of_typeSteps hs (Catalog.not_declaresType_of_element hget)).trans hnew
  refine ⟨hs.of_any.tail (.addElement hget hnew₁ (habove.mono hs.lasts) hnames ?_ ?_), _, rfl, ?_,
    fun p hne hty => ?_⟩
  · exact fun h => (clean_of_extend h).1
  · intro hl x hx
    refine substitutionFaults_eq_nil (clean_of_extend hl).2 x ?_
    obtain ⟨up, hup, hx⟩ := Option.bind_eq_some_iff.1 hx
    exact Option.bind_eq_some_iff.2 ⟨up, hup, (addElement_extends b₁ o _).element up x hx⟩
  · rw [symbol_cons rfl, if_pos rfl]
    rfl
  · rw [symbol_cons rfl, if_neg hne, symbol_eq_of_typeSteps hs hty]

/-- Each declaration on a path gets its symbol, if the start of the path has one. -/
theorem createElements {p o : DeclarationId} {chain : List DeclarationId} {root : ElementId}
    (hpath : Path (elementLink c) p chain o) (hstart : b.symbol? p = some (.element root))
    (hn : chain.Nodup) (hnew : ∀ x ∈ chain, b.symbol? x = none) :
    b.Takes c limits .all (chain.foldlM (Schemata.createElement c limits) (some root)) fun e b₁ =>
      ∃ i, e = some i ∧ b₁.symbol? o = some (.element i) := by
  induction hpath generalizing b root with
  | nil p => exact .pure ⟨root, rfl, hstart⟩
  | @cons p x o rest hstep hrest ih =>
    obtain ⟨hx, hn⟩ := List.nodup_cons.1 hn
    obtain ⟨hnewx, hnew⟩ := List.forall_mem_cons.1 hnew
    rw [List.foldlM_cons]
    have habove : b.Above (fun s => s.asElement?.map some) (elementLink c) x (some root) :=
      Or.inr ⟨p, hstep, by rw [hstart]; rfl⟩
    refine (createElement hnewx habove).bind fun e b₁ _ ⟨i, he, hi, hothers⟩ => ?_
    subst he
    refine ih hi hn fun y hy => ?_
    rw [hothers y (ne_of_mem_of_not_mem hy hx) (hrest.not_declaresType y hy)]
    exact hnew y hy

theorem resolveElement (o : DeclarationId) :
    b.Takes c limits .all (resolveElement c limits o) fun e b₁ =>
      b₁.symbol? o = some (.element e) := by
  unfold Schemata.resolveElement
  refine .get_bind ?_
  extract_lets circle known
  refine .orAbort_bind fun ⟨root, chain⟩ hclimb => ?_
  obtain ⟨hc, -, -⟩ := climb_ok hclimb List.nodup_nil (by simp) (by simp)
  have hnew : ∀ x ∈ chain, b.symbol? x = none := fun x hx =>
    symbol_eq_none_of_symbolAs (hc.unknown x hx)
  have hchain : b.Takes c limits .all (chain.foldlM (Schemata.createElement c limits) root)
      fun e b₁ => ∃ i, e = some i ∧ b₁.symbol? o = some (.element i) := by
    rcases path_of_climb hclimb (.nil o) with ⟨p, hp, hpath⟩ | ⟨x, rest, rfl, hroot, hpath⟩
    · obtain ⟨i, rfl, hs⟩ := symbol_of_asElement (symbolAs_eq_some_iff.1 hp)
      exact createElements hpath hs hc.nodup hnew
    · obtain ⟨hx, hn⟩ := List.nodup_cons.1 hc.nodup
      obtain ⟨hnewx, hnew⟩ := List.forall_mem_cons.1 hnew
      rw [List.foldlM_cons]
      refine (createElement hnewx (Or.inl hroot)).bind fun e b₁ _ ⟨i, he, hi, hothers⟩ => ?_
      subst he
      refine createElements hpath hi hn fun y hy => ?_
      rw [hothers y (ne_of_mem_of_not_mem hy hx) (hpath.not_declaresType y hy)]
      exact hnew y hy
  refine hchain.bind fun e b₁ _ ⟨i, he, hi⟩ => ?_
  subst he
  exact .pure hi

theorem elementOf (scope : Scope) (r : NameRef) :
    b.Takes c limits .all (elementOf c limits scope r) fun e b₁ =>
      b₁.NamesElement c scope r e := by
  unfold Schemata.elementOf
  extract_lets fault
  refine .orAbort_bind fun referent h => ?_
  cases referent with
  | builtin k => exact abort
  | declared o =>
    dsimp only
    split
    · exact (resolveElement o).mono fun e b₁ _ ho => ⟨o, h, ho⟩
    · exact abort

theorem elementReference (scope : Scope) (r : NameRef) (span : Option Span) :
    b.Takes c limits .all (elementReference c limits scope r span) fun e b₁ =>
      b₁.NamesElement c scope r e.1 ∧
        ∃ g, b₁.schema.element? e.1 = some g ∧ e.2 = g.asReference e.1 span := by
  unfold Schemata.elementReference
  refine (elementOf scope r).bind fun id b₁ _ hid => .schema_bind ?_
  split
  · rename_i g hg
    exact .pure ⟨hid, g, hg, rfl⟩
  · exact abort

end Takes

end Builder

end Schemata
