import Schemata.Proofs.AddedTypes
import Schemata.Proofs.Registration

/-!
# Compiling one more type

A compilation that was accepted is accepted with one more type behind the one that it derives from,
if the body of the new type can be finished without recording anything. The new type has the content
that its body makes, and everything else has what it had, under other numbers.
-/

namespace Schemata

/-- Steps for several things are taken one after the other. -/
theorem run_forM_append {α : Type} {p : α → Build PUnit} {as bs : List α} {b b₂ : Builder} :
    ((as ++ bs).forM p).run b = .ok ((), b₂) ↔
      ∃ b₁, (as.forM p).run b = .ok ((), b₁) ∧ (bs.forM p).run b₁ = .ok ((), b₂) := by
  induction as generalizing b with
  | nil => exact ⟨fun h => ⟨b, rfl, h⟩, fun ⟨_, h₁, h₂⟩ => by cases h₁; exact h₂⟩
  | cons a as ih =>
    constructor
    · intro h
      obtain ⟨⟨_, b₀⟩, hfirst, hrest⟩ := bind_eq_ok h
      obtain ⟨b₁, h₁, h₂⟩ := ih.1 hrest
      exact ⟨b₁, (Builder.run_bind_of_ok hfirst).trans h₁, h₂⟩
    · rintro ⟨b₁, h₁, h₂⟩
      obtain ⟨⟨_, b₀⟩, hfirst, hrest⟩ := bind_eq_ok h₁
      exact (Builder.run_bind_of_ok hfirst).trans (ih.2 ⟨b₁, hrest, h₂⟩)

/-- A compilation that was accepted, and its namespaces with one more type behind the type that it
derives from. -/
structure Enlargement (limits : Limits) where
  namespaces : List NamespaceDecl
  namespaces' : List NamespaceDecl
  made : Builder
  completes : made.Completes namespaces limits
  registrable' : Registrable namespaces'
  /-- Where the new declaration is. -/
  position : Nat
  scope : Scope
  decl : TypeDecl
  inserts : (Catalog.ofNamespaces namespaces).1.Inserts (Catalog.ofNamespaces namespaces').1 position
    ⟨scope, .type decl⟩
  base : DeclarationId
  up : TypeId
  reference : NameRef
  refers : decl.base? = some reference
  resolves : (Catalog.ofNamespaces namespaces).1.resolve scope reference = .ok (.declared base)
  behind : base.index < position
  symbol : made.symbol? base = some (.type up)
  allowed : baseFaults (made.schema.typeDef up) = []
  depth : made.schema.depth up + 1 ≤ limits.derivationDepth
  kind : (decl.header (made.schema.typeDef up)).1 = .complexType

namespace Enlargement

variable {limits : Limits} (E : Enlargement limits)

/-- The declarations without the new one. -/
abbrev c : Catalog := (Catalog.ofNamespaces E.namespaces).1

/-- The declarations with the new one. -/
abbrev c' : Catalog := (Catalog.ofNamespaces E.namespaces').1

theorem registrable : Registrable E.namespaces := registrable_of_harmless E.completes.harmless

theorem start_eq {namespaces : List NamespaceDecl} (h : Registrable namespaces) :
    Builder.start namespaces = {} := by
  rw [Builder.start, h.ofNamespaces.1]
  rfl

theorem declaresBase : E.c.DeclaresType E.base := by
  obtain ⟨d, hd, hdeclares⟩ := E.completes.numbered.declares _ _ (Builder.mem_of_symbol? E.symbol)
  obtain ⟨scope, m⟩ := d
  rw [Catalog.DeclaresType, hd]
  cases m with
  | type t => rfl
  | attr a => exact hdeclares.elim
  | element e => exact hdeclares.elim

/-- The declarations before the new one. -/
def front : List DeclarationId := (List.range' 0 E.position).map DeclarationId.mk

/-- The run that was accepted, up to the place of the new declaration and from there on. -/
theorem exists_run : ∃ (back : List DeclarationId) (b₀ b₁ : Builder),
    E.c.ids = E.front ++ back ∧
    E.c'.ids = E.front.map (·.skip E.position) ++ ⟨E.position⟩ :: back.map (·.skip E.position) ∧
    (E.front.forM (resolveDeclaration E.c limits)).run {} = .ok ((), b₀) ∧
    (back.forM (resolveDeclaration E.c limits)).run b₀ = .ok ((), b₁) ∧
    (b₁.declaredTypes.forM (finishType E.c limits)).run b₁ = .ok ((), E.made) := by
  have hrun := E.completes.run
  rw [start_eq E.registrable] at hrun
  obtain ⟨⟨_, b₁⟩, hrun₁, hrun₂⟩ := bind_eq_ok hrun
  obtain ⟨back, hids, hids'⟩ := E.inserts.ids_eq
  rw [hids] at hrun₁
  obtain ⟨b₀, hfront, hback⟩ := run_forM_append.1 hrun₁
  exact ⟨back, b₀, b₁, hids, hids', hfront, hback, hrun₂⟩

/-- What is known of the compilation when it comes to the place of the new declaration. -/
structure Early (b₀ : Builder) : Prop where
  inv : b₀.Inv E.c
  placed : b₀.Placed
  idle : b₀.Idle
  symbol : b₀.symbol? E.base = some (.type E.up)
  lasts : b₀.Lasts E.made

theorem early {back : List DeclarationId} {b₀ b₁ : Builder}
    (hfront : (E.front.forM (resolveDeclaration E.c limits)).run {} = .ok ((), b₀))
    (hback : (back.forM (resolveDeclaration E.c limits)).run b₀ = .ok ((), b₁))
    (htypes : (b₁.declaredTypes.forM (finishType E.c limits)).run b₁ = .ok ((), E.made)) :
    E.Early b₀ := by
  have hinv := Builder.start_inv E.c {}
  obtain ⟨-, hb₀, hp₀, -⟩ :=
    (Builder.Takes.resolveAll E.front).apply (Builder.start_placed {}) hinv hfront
  obtain ⟨hs₁, hb₁, hp₁, -⟩ := (Builder.Takes.resolveAll back).apply hp₀ hb₀ hback
  have hbelow : b₁.FinishedBelow Kind.all.length := fun t ht =>
    ⟨hb₁.has_of_builtin ht, Builder.isFinished_iff.2 (Or.inl (Builder.origin_of_builtin ht))⟩
  rw [Builder.declaredTypes_eq] at htypes
  have hs₂ := Builder.steps_finishTypes hb₁ hp₁ hbelow hb₁.size.ge htypes
  have hlasts : b₀.Lasts E.made := hs₁.lasts.trans hs₂.lasts
  have hknown : b₀.TypeKnown E.base := by
    obtain ⟨-, -, hknown⟩ := Builder.Ensures.resolveAll E.front hinv _ _ hfront
    refine hknown E.base (List.mem_map.2 ⟨E.base.index, ?_, rfl⟩) E.declaresBase
    simpa using E.behind
  have hidle : ({} : Builder).Idle := ⟨rfl, rfl⟩
  have hreports : ({} : Builder).Reports E.c (E.front.forM (resolveDeclaration E.c limits)) _ :=
    Builder.Reports.resolveAll hidle E.front
  obtain ⟨-, hk, -⟩ := hreports.apply (Builder.Orderly.start E.c {}) hfront
  refine ⟨hb₀, hp₀, hidle.mono hk, ?_, hlasts⟩
  obtain ⟨t, ht⟩ := Option.isSome_iff_exists.1 hknown
  have hsymbol := Builder.Takes.symbol_of_asType ht
  have hlater := hlasts.symbol _ _ hsymbol
  rw [hsymbol, ← E.symbol, hlater]

/-- The headers of the new type. -/
structure Headed (n : Nat) (b' : Builder) : Prop where
  symbol : b'.symbol? ⟨E.position⟩ = some (.type ⟨n⟩)
  origin : b'.origin? ⟨n⟩ = some ⟨E.position⟩
  base : (b'.schema.typeDef ⟨n⟩).base = some E.up
  header : ((b'.schema.typeDef ⟨n⟩).kind, (b'.schema.typeDef ⟨n⟩).derivation) =
    E.decl.header (E.made.schema.typeDef E.up)

variable {E} in
theorem Headed.mono {n : Nat} {b b' : Builder} (h : E.Headed n b) (hl : b.Lasts b') :
    E.Headed n b' := by
  have hhas : b.schema.Has ⟨n⟩ := Schema.has_of_base h.base
  refine ⟨hl.symbol _ _ h.symbol, hl.origin _ _ h.origin, ?_, ?_⟩ <;>
  · obtain ⟨x, hx⟩ := hl.header ⟨n⟩ hhas
    rw [hx]
    first
      | exact h.base
      | exact h.header

/-- The new type gets its symbol. -/
theorem exists_headed {b₀ b₀' : Builder} (he : E.Early b₀) (hm : E.inserts.before.Mirrors b₀ b₀')
    (hb' : b₀'.Inv E.c') (hfloor : Kind.all.length ≤ b₀.schema.types.size) : ∃ b₁',
    (resolveDeclaration E.c' limits ⟨E.position⟩).run b₀' = .ok ((), b₁') ∧
    (E.inserts.behind hfloor []).Mirrors b₀ b₁' ∧ E.Headed b₀.schema.types.size b₁' := by
  have hup : b₀.schema.Has E.up := hm.known _ _ he.symbol
  obtain ⟨content, hheader⟩ := he.lasts.header E.up hup
  have hallowed : baseFaults (b₀.schema.typeDef E.up) = [] := by
    have hallowed := E.allowed
    rwa [hheader] at hallowed
  have hdepth : b₀.schema.depth E.up + 1 ≤ limits.derivationDepth := by
    rw [← he.lasts.schema.depth_eq he.inv.ordered.base hup]
    exact E.depth
  have hkind : (b₀'.schema.typeDef E.up).kind = (E.made.schema.typeDef E.up).kind := by
    rw [hheader]
    exact hm.schemas.kind_eq E.up
  refine ⟨_, E.inserts.run_resolveNew hm hb' rfl E.refers E.resolves E.declaresBase he.symbol
    hallowed hdepth, E.inserts.mirrors_behind hfloor hm he.placed he.inv he.idle _, ?_⟩
  have hsize : b₀.schema.types.size = b₀'.schema.types.size := (E.inserts.size_of_before hm).symm
  rw [hsize]
  refine ⟨?_, ?_, ?_, ?_⟩
  · rw [Builder.symbol?_addType, if_pos rfl]
  · rw [Builder.origin_addType hm.sizes', if_pos rfl]
  · rw [Builder.typeDef_addType, if_pos rfl]
    rfl
  · rw [Builder.typeDef_addType, if_pos rfl]
    change E.decl.header _ = _
    unfold TypeDecl.header
    rw [hkind]

/-- Both compilations have made their symbols. -/
structure Begun (n : Nat) (b b' : Builder) : Prop where
  floor : Kind.all.length ≤ n
  le : n ≤ b.schema.types.size
  up_lt : E.up.index < n
  mirrors : (E.inserts.behind floor []).Mirrors b b'
  headed : E.Headed n b'
  inv : b.Inv E.c
  placed : b.Placed
  inv' : b'.Inv E.c'
  placed' : b'.Placed
  numbered : b.Numbered E.c
  knows : ∀ o, (E.c.get? o).isSome → (b.symbol? o).isSome

theorem exists_begun : ∃ (n : Nat) (b₁ b₁' : Builder), E.Begun n b₁ b₁' ∧
    (b₁.declaredTypes.forM (finishType E.c limits)).run b₁ = .ok ((), E.made) ∧
    (E.c'.ids.forM (resolveDeclaration E.c' limits)).run {} = .ok ((), b₁') := by
  obtain ⟨back, b₀, b₁, hids, hids', hfront, hback, htypes⟩ := E.exists_run
  have he := E.early hfront hback htypes
  have hidle : ({} : Builder).Idle := ⟨rfl, rfl⟩
  -- up to the new declaration
  obtain ⟨b₀', hfront', hm₀⟩ := Shift.Mirrored.forM
    (Shift.Mirrored.resolveDeclaration E.inserts.before) E.front {} {}
    E.inserts.mirrors_start () b₀ hfront
  have hinv' := Builder.start_inv E.c' {}
  obtain ⟨-, hb₀', -⟩ := (Builder.Takes.resolveAll (E.front.map (·.skip E.position))).apply
    (Builder.start_placed {}) hinv' hfront'
  have hfloor : Kind.all.length ≤ b₀.schema.types.size := by
    rw [he.inv.size]
    exact Nat.le_add_right _ _
  obtain ⟨b₂', hnew, hm₂, hheaded⟩ := E.exists_headed he hm₀ hb₀' hfloor
  -- and from there on
  obtain ⟨b₁', hback', hm₁⟩ := Shift.Mirrored.forM
    (Shift.Mirrored.resolveDeclaration (E.inserts.behind hfloor [])) back b₀ b₂'
    hm₂ () b₁ hback
  have hupto : ((E.front.map (DeclarationId.skip E.position) ++ [⟨E.position⟩] :
      List DeclarationId).forM (resolveDeclaration E.c' limits)).run {} = .ok ((), b₂') :=
    run_forM_append.2 ⟨b₀', hfront', Builder.run_bind_of_ok hnew⟩
  obtain ⟨-, hb₂', hp₂', -⟩ :=
    (Builder.Takes.resolveAll _).apply (Builder.start_placed {}) hinv' hupto
  obtain ⟨hs', hb₁', hp₁', -⟩ := (Builder.Takes.resolveAll _).apply hp₂' hb₂' hback'
  obtain ⟨hs, hb₁, hp₁, -⟩ := (Builder.Takes.resolveAll back).apply he.placed he.inv hback
  have hall : (E.c.ids.forM (resolveDeclaration E.c limits)).run {} = .ok ((), b₁) := by
    rw [hids]
    exact run_forM_append.2 ⟨b₀, hfront, hback⟩
  have hnumbered : b₁.Numbered E.c :=
    ((Builder.Takes.resolveAll E.c.ids).apply (Builder.start_placed {}) (Builder.start_inv E.c {})
      hall).1.numbered (Builder.start_placed {}) (Builder.start_numbered E.c {})
  have hall' : (E.c'.ids.forM (resolveDeclaration E.c' limits)).run {} = .ok ((), b₁') := by
    rw [hids']
    exact run_forM_append.2 ⟨b₀', hfront', (Builder.run_bind_of_ok hnew).trans hback'⟩
  refine ⟨b₀.schema.types.size, b₁, b₁', ⟨hfloor, hs.lasts.schema.types_size, ?_, hm₁,
    hheaded.mono hs'.lasts, hb₁, hp₁, hb₁', hp₁', hnumbered, fun o ho => ?_⟩, htypes, hall'⟩
  · exact hm₀.known _ _ he.symbol
  · have hreports : ({} : Builder).Reports E.c (E.c.ids.forM (resolveDeclaration E.c limits)) _ :=
      Builder.Reports.resolveAll hidle E.c.ids
    obtain ⟨-, -, hknows⟩ := hreports.apply (Builder.Orderly.start E.c {}) hall
    obtain ⟨d, hd⟩ := Option.isSome_iff_exists.1 ho
    have hmem : o ∈ E.c.ids :=
      List.mem_map.2 ⟨o.index, List.mem_range.2 (Array.getElem?_eq_some_iff.1 hd).1, rfl⟩
    obtain ⟨s, hs⟩ := hknows o hmem ho
    exact List.lookup_isSome_iff.2 ⟨_, hs, beq_self_eq_true o⟩

/-! ## Content for all types -/

/-- The body of the new type makes some content without a change when it is its turn. -/
def Makes (x : ComplexContent) : Prop :=
  ∀ b : Builder, b.Inv E.c → b.Numbered E.c → b.Lasts E.made →
    (∀ o, (E.c.get? o).isSome → (b.symbol? o).isSome) → b.FinishedBelow (E.up.index + 1) →
      (complexContent E.c limits E.scope E.up E.decl.body).run b = .ok (x, b)

variable {E}

/-- The types in both compilations. -/
theorem Begun.declaredTypes_eq {n : Nat} {b b' : Builder} (h : E.Begun n b b') :
    b.declaredTypes = (List.range' Kind.all.length (n - Kind.all.length)).map TypeId.mk ++
      (List.range' n (b.schema.types.size - n)).map TypeId.mk ∧
    b'.declaredTypes = (List.range' Kind.all.length (n - Kind.all.length)).map TypeId.mk ++
      ⟨n⟩ :: (List.range' (n + 1) (b.schema.types.size - n)).map TypeId.mk := by
  have hnext : skip n b.schema.types.size = b'.schema.types.size :=
    congrArg TypeId.index (h.mirrors.schemas.next 0)
  rw [skip_of_le h.le, h.mirrors.sizes, h.mirrors.sizes', Nat.add_assoc] at hnext
  have hcount : b'.origins.size = b.origins.size + 1 := (Nat.add_left_cancel hnext).symm
  obtain ⟨hrange, hrange'⟩ := range'_insert h.floor (h.mirrors.sizes ▸ h.le)
  rw [Builder.declaredTypes_eq, Builder.declaredTypes_eq, hcount, hrange, hrange', h.mirrors.sizes,
    List.map_append, List.map_append, List.map_cons]
  exact ⟨rfl, rfl⟩

variable (E)

/-- The enlarged compilation, when it has come to its end. -/
structure Ends (n : Nat) (x : ComplexContent) (e' : Builder) : Prop where
  floor : Kind.all.length ≤ n
  up_lt : E.up.index < n
  mirrors : (E.inserts.behind floor [⟨n⟩]).Mirrors E.made e'
  headed : E.Headed n e'
  content : (e'.schema.typeDef ⟨n⟩).content =
    .complex ((E.inserts.behind floor [⟨n⟩]).numbers.on x)

variable {E}

/-- The types get their content up to the new one. -/
theorem Begun.exists_middle {n : Nat} {b₁ b₁' b₂ : Builder} (h : E.Begun n b₁ b₁')
    (hrun : (((List.range' Kind.all.length (n - Kind.all.length)).map TypeId.mk).forM
      (finishType E.c limits)).run b₁ = .ok ((), b₂)) :
    ∃ b₂', (((List.range' Kind.all.length (n - Kind.all.length)).map TypeId.mk).forM
      (finishType E.c' limits)).run b₁' = .ok ((), b₂') ∧ E.Begun n b₂ b₂' ∧ b₁.Lasts b₂ ∧
      b₂.FinishedBelow n ∧ b₂'.FinishedBelow n := by
  have hsum : Kind.all.length + (n - Kind.all.length) = n := Nat.add_sub_cancel' h.floor
  obtain ⟨b₂', hrun', hm⟩ := Shift.Mirrored.forM
    (Shift.Mirrored.finishType (E.inserts.behind h.floor [])) _ b₁ b₁' h.mirrors
    () b₂ hrun
  have hsame : ((List.range' Kind.all.length (n - Kind.all.length)).map TypeId.mk).map
      (E.inserts.behind h.floor []).type =
        (List.range' Kind.all.length (n - Kind.all.length)).map TypeId.mk := by
    have hskip := congrArg (List.map TypeId.mk) (map_skip_range'_of_le hsum.le)
    rw [List.map_map] at hskip ⊢
    exact hskip
  rw [hsame] at hrun'
  have hbelow {c : Catalog} {b : Builder} (hb : b.Inv c) : b.FinishedBelow Kind.all.length :=
    fun t ht =>
      ⟨hb.has_of_builtin ht, Builder.isFinished_iff.2 (Or.inl (Builder.origin_of_builtin ht))⟩
  have hle : Kind.all.length + (n - Kind.all.length) ≤ b₁.schema.types.size := hsum.le.trans h.le
  have hle' : Kind.all.length + (n - Kind.all.length) ≤ b₁'.schema.types.size :=
    hle.trans h.mirrors.schemas.larger
  have hs := Builder.steps_finishTypes h.inv h.placed (hbelow h.inv) hle hrun
  have hs' := Builder.steps_finishTypes h.inv' h.placed' (hbelow h.inv') hle' hrun'
  obtain ⟨hg, hb, hf⟩ := Builder.finishTypes_ok h.inv (hbelow h.inv) hle hrun
  obtain ⟨hg', hb', hf'⟩ := Builder.finishTypes_ok h.inv' (hbelow h.inv') hle' hrun'
  rw [hsum] at hf hf'
  refine ⟨b₂', hrun', ⟨h.floor, h.le.trans hs.lasts.schema.types_size, h.up_lt, hm,
    h.headed.mono hs'.lasts, hb, hs.placed h.placed, hb', hs'.placed h.placed',
    hs.numbered h.placed h.numbered, fun o ho => ?_⟩,
    hs.lasts, hf, hf'⟩
  obtain ⟨s, hs₁⟩ := Option.isSome_iff_exists.1 (h.knows o ho)
  rw [hs.lasts.symbol o s hs₁]
  rfl

/-- The new type gets its content. -/
theorem Begun.exists_new {n : Nat} {b b' : Builder} (h : E.Begun n b b') (hl : b.Lasts E.made)
    (hf : b.FinishedBelow n) {x : ComplexContent} (hx : E.Makes x) :
    ∃ b₁', (finishType E.c' limits ⟨n⟩).run b' = .ok ((), b₁') ∧
      (E.inserts.behind h.floor [⟨n⟩]).Mirrors b b₁' ∧ ⟨n⟩ ∈ b₁'.finished ∧
      (b₁'.schema.typeDef ⟨n⟩).content =
        .complex ((E.inserts.behind h.floor [⟨n⟩]).numbers.on x) := by
  have hrun := hx b h.inv h.numbered hl h.knows fun t ht => hf t (ht.trans_le h.up_lt)
  have hkind : (b'.schema.typeDef ⟨n⟩).kind = .complexType :=
    (congrArg Prod.fst h.headed.header).trans E.kind
  have hbase : (b'.schema.typeDef ⟨n⟩).base =
      some ((E.inserts.behind h.floor []).type E.up) := by
    rw [h.headed.base]
    exact congrArg some (congrArg TypeId.mk (skip_of_lt h.up_lt)).symm
  exact E.inserts.run_finishNew h.floor h.mirrors h.le rfl h.headed.origin (by rw [hkind]; rfl)
    hbase hrun

variable (E) in
/-- The enlarged compilation comes to its end without recording anything. -/
theorem exists_ends {x : ComplexContent} (hx : E.Makes x) :
    ∃ n e', Builder.Completes e' E.namespaces' limits ∧ E.Ends n x e' := by
  obtain ⟨n, b₁, b₁', h, htypes, hsymbols'⟩ := E.exists_begun
  obtain ⟨htypes₁, htypes₁'⟩ := h.declaredTypes_eq
  rw [htypes₁] at htypes
  obtain ⟨b₂, hfirst, hrest⟩ := run_forM_append.1 htypes
  obtain ⟨b₂', hfirst', h₂, hl₁, hf₂, hf₂'⟩ := h.exists_middle hfirst
  have hle : n + (b₁.schema.types.size - n) = b₁.schema.types.size := Nat.add_sub_cancel' h.le
  have hsize : n + (b₁.schema.types.size - n) ≤ b₂.schema.types.size :=
    hle.le.trans hl₁.schema.types_size
  have hl₂ : b₂.Lasts E.made :=
    (Builder.steps_finishTypes h₂.inv h₂.placed hf₂ hsize hrest).lasts
  obtain ⟨b₃', hnew, hm₃, hfinished, hcontent⟩ := h₂.exists_new hl₂ hf₂ hx
  obtain ⟨e', hrest', hm⟩ := Shift.Mirrored.forM
    (Shift.Mirrored.finishType (E.inserts.behind h.floor [⟨n⟩])) _ b₂ b₃' hm₃ ()
    E.made hrest
  have hsame : ((List.range' n (b₁.schema.types.size - n)).map TypeId.mk).map
      (E.inserts.behind h.floor [⟨n⟩]).type =
        (List.range' (n + 1) (b₁.schema.types.size - n)).map TypeId.mk := by
    have hskip := congrArg (List.map TypeId.mk) (map_skip_range' n (b₁.schema.types.size - n))
    rw [List.map_map] at hskip ⊢
    exact hskip
  rw [hsame] at hrest'
  have hhas : b₂'.schema.Has ⟨n⟩ := Schema.has_of_base h₂.headed.base
  have hs₃ := Builder.steps_finishType h₂.inv' h₂.placed' hf₂' hhas hnew
  obtain ⟨-, hb₃', hf₃'⟩ := Builder.finishType_ok h₂.inv' hf₂' hhas hnew
  have hsize' : n + 1 + (b₁.schema.types.size - n) ≤ b₃'.schema.types.size := by
    have hnext : skip n b₂.schema.types.size = b₃'.schema.types.size :=
      congrArg TypeId.index (hm₃.schemas.next 0)
    rw [skip_of_le h₂.le] at hnext
    omega
  have hl₃ : b₃'.Lasts e' :=
    (Builder.steps_finishTypes hb₃' (hs₃.placed h₂.placed') hf₃' hsize' hrest').lasts
  have hclean : e'.Clean := by
    rw [Builder.Clean, hm.ledger]
    exact E.completes.clean
  refine ⟨n, e', ⟨?_, hclean⟩, h.floor, h.up_lt, hm, (h₂.headed.mono hs₃.lasts).mono hl₃, ?_⟩
  · have htypes' : (b₁'.declaredTypes.forM (finishType E.c' limits)).run b₁' = .ok ((), e') := by
      rw [htypes₁']
      exact run_forM_append.2 ⟨b₂', hfirst', (Builder.run_bind_of_ok hnew).trans hrest'⟩
    rw [start_eq E.registrable']
    exact (Builder.run_bind_of_ok hsymbols').trans htypes'
  · rw [(hl₃.finished _ hfinished).2 (hs₃.lasts.schema.has hhas), hcontent]

end Enlargement

end Schemata
