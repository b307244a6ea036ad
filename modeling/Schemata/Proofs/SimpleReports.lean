import Mathlib.Data.List.TakeWhile
import Schemata.Proofs.SymbolReports

/-!
# Simple content that is made or not

What the facets, the content of simple types, default values and global attributes report. Faults of
facets are recorded and do not stop a compilation; only a literal that is too long to count does.

The content of a simple type is asked for before its turn where a default value is read. At that
time a complex type may be in the making, but no simple one: what is above a simple type is simple,
and the content of a simple type asks for no other content. So no content is made while it is in
the making already, and likewise no global attribute.
-/

namespace Schemata

/-! ## Faults of facets -/

theorem NarrowingFault.ordinary (f : NarrowingFault) (span : Option Span) :
    (f.diagnostic span).Ordinary := by
  cases f <;> rfl

namespace Narrowing

variable {k : Kind} {base : FacetSet} {n : Narrowing} {texts : List String}

/-- The faults that were noted are errors, and stop no compilation. -/
def Plain (n : Narrowing) : Prop := ∀ d ∈ n.faults, d.Ordinary ∧ d.isError

theorem Plain.fault (h : n.Plain) (f : NarrowingFault) (span : Option Span) :
    (n.fault f span).Plain := by
  intro d hd
  rcases List.mem_append.1 hd with hd | hd
  · exact h d hd
  · obtain rfl := List.mem_singleton.1 hd
    exact ⟨f.ordinary span, rfl⟩

theorem plain_lengthRange (d : LengthRangeDecl) (h : n.Plain) : (n.lengthRange base d).Plain := by
  unfold lengthRange
  extract_lets _ n₁ _ n₂
  have h₁ : n₁.Plain := by
    unfold n₁
    split
    · exact h
    · split
      · split
        · exact h.fault _ _
        · exact h
      · exact h
  have h₂ : n₂.Plain := by
    unfold n₂
    split
    · exact h₁
    · split
      · split
        · exact h₁.fault _ _
        · exact h₁
      · exact h₁
  split
  · split
    · exact h₂.fault _ _
    · exact h₂
  · exact h₂

theorem plain_precision (d : CountDecl) (h : n.Plain) : (n.precision base d).Plain := by
  unfold precision
  split
  · exact h.fault _ _
  · split
    · split
      · exact h.fault _ _
      · exact h
    · exact h

theorem plain_scale (d : CountDecl) (h : n.Plain) : (n.scale base d).Plain := by
  unfold scale
  split
  · exact h.fault _ _
  · split
    · split
      · exact h.fault _ _
      · exact h
    · exact h

theorem plain_scaleWithinPrecision (span : Option Span) (h : n.Plain) :
    (n.scaleWithinPrecision span).Plain := by
  unfold scaleWithinPrecision
  split
  · split
    · exact h.fault _ _
    · exact h
  · exact h

theorem plain_pattern (d : PatternDecl) (h : n.Plain) : (n.pattern d).Plain := by
  unfold pattern
  split
  · exact h.fault _ _
  · split <;> exact h

theorem readsFrom_literal {text : String} (ht : text ∈ texts) (span : Option Span) (h : n.Plain) :
    ReadsFrom texts (n.literal k text span) fun r => r.2.Plain := by
  unfold literal
  refine (ReadsFrom.atomic k ht).bind fun v _ => ?_
  cases v with
  | none => exact h.fault _ _
  | some v => exact h

theorem readsFrom_leastValue {d : BoundDecl} (ht : d.literal ∈ texts) (span : Option Span)
    (h : n.Plain) : ReadsFrom texts (n.leastValue k base d span) Plain := by
  unfold leastValue
  refine (readsFrom_literal ht span h).bind fun ⟨v, n₁⟩ h₁ => ?_
  cases v with
  | none => exact h₁
  | some v =>
    dsimp only
    split
    · split
      · exact h₁
      · exact Plain.fault h₁ _ _
    · exact h₁

theorem readsFrom_greatestValue {d : BoundDecl} (ht : d.literal ∈ texts) (span : Option Span)
    (h : n.Plain) : ReadsFrom texts (n.greatestValue k base d span) Plain := by
  unfold greatestValue
  refine (readsFrom_literal ht span h).bind fun ⟨v, n₁⟩ h₁ => ?_
  cases v with
  | none => exact h₁
  | some v =>
    dsimp only
    split
    · split
      · exact h₁
      · exact Plain.fault h₁ _ _
    · exact h₁

theorem readsFrom_valueRange {d : ValueRangeDecl} (ht : d.literals ⊆ texts) (h : n.Plain) :
    ReadsFrom texts (n.valueRange k base d) Plain := by
  rw [valueRange_eq]
  refine ReadsFrom.bind (P := Plain) ?_ fun n₁ h₁ => ReadsFrom.bind (P := Plain) ?_ fun n₂ h₂ => ?_
  · cases hd : d.least with
    | none => exact h
    | some b => exact readsFrom_leastValue (ht (by simp [ValueRangeDecl.literals, hd])) _ h
  · cases hd : d.greatest with
    | none => exact h₁
    | some b => exact readsFrom_greatestValue (ht (by simp [ValueRangeDecl.literals, hd])) _ h₁
  · split
    · change Plain (ite _ _ _)
      split
      · exact h₂
      · exact h₂.fault _ _
    · exact h₂

theorem readsFrom_enumItems (blockSpan : Option Span) {ds : List EnumItemDecl}
    (ht : ds.map (·.literal) ⊆ texts) (names : List String) (items : List EnumItem)
    (h : n.Plain) :
    ReadsFrom texts (enumItems k base blockSpan ds names items n) fun r => r.2.Plain := by
  induction ds generalizing names items n with
  | nil => exact h
  | cons d rest ih =>
    obtain ⟨hd, hrest⟩ := List.cons_subset.1 ht
    unfold enumItems
    dsimp only
    split
    · exact ih hrest _ _ (h.fault _ _)
    · refine (readsFrom_literal hd _ h).bind fun ⟨v, n₁⟩ h₁ => ?_
      cases v with
      | none => exact ih hrest _ _ h₁
      | some v =>
        dsimp only
        split
        · exact ih hrest _ _ h₁
        · exact ih hrest _ _ (Plain.fault h₁ _ _)

theorem readsFrom_enumBlocks {bs : List EnumBlock}
    (ht : (bs.flatMap fun e => e.items.map (·.literal)) ⊆ texts) (items : List EnumItem)
    (h : n.Plain) : ReadsFrom texts (enumBlocks k base bs items n) fun r => r.2.Plain := by
  induction bs generalizing items n with
  | nil => exact h
  | cons b rest ih =>
    rw [List.flatMap_cons, List.append_subset] at ht
    exact (readsFrom_enumItems b.span ht.1 _ _ h).bind fun ⟨items₁, n₁⟩ h₁ => ih ht.2 _ h₁

theorem readsFrom_enumeration {bs : List EnumBlock}
    (ht : (bs.flatMap fun e => e.items.map (·.literal)) ⊆ texts) (h : n.Plain) :
    ReadsFrom texts (n.enumeration k base bs) Plain :=
  (readsFrom_enumBlocks ht [] h).bind fun _ h₁ => h₁

theorem readsFrom_declared {α : Type} {d : Option α}
    {next : α → Narrowing → Except TooLong Narrowing} (h : n.Plain)
    (hnext : ∀ a, d = some a → ReadsFrom texts (next a n) Plain) :
    ReadsFrom texts (n.declared d next) Plain := by
  cases d with
  | none => exact h
  | some a => exact hnext a rfl

theorem readsFrom_whenApplies {f : Facet} {span : Option Span}
    {next : Narrowing → Except TooLong Narrowing} (h : n.Plain)
    (hnext : ReadsFrom texts (next n) Plain) :
    ReadsFrom texts (n.whenApplies k f span next) Plain := by
  unfold whenApplies
  split
  · exact hnext
  · exact h.fault _ _

theorem readsFrom_narrowing (k : Kind) (base : FacetSet) (block : FacetBlock) :
    ReadsFrom block.literals (narrowing k base block) Plain := by
  have hstart : Plain { result := base } := by simp [Plain]
  unfold narrowing
  refine (readsFrom_declared hstart fun d _ => ?_).bind fun n₁ h₁ => ?_
  · exact readsFrom_whenApplies hstart (plain_lengthRange d hstart)
  refine (readsFrom_declared h₁ fun d _ => ?_).bind fun n₂ h₂ => ?_
  · exact readsFrom_whenApplies h₁ (plain_precision d h₁)
  refine (readsFrom_declared h₂ fun d _ => ?_).bind fun n₃ h₃ => ?_
  · exact readsFrom_whenApplies h₂ (plain_scale d h₂)
  extract_lets n₃'
  have h₃' : n₃'.Plain := plain_scaleWithinPrecision _ h₃
  refine (readsFrom_declared h₃' fun d hd => ?_).bind fun n₄ h₄ => ?_
  · refine readsFrom_whenApplies h₃' (readsFrom_valueRange (fun x hx => ?_) h₃')
    simp [FacetBlock.literals, hd, hx]
  refine (readsFrom_declared h₄ fun d _ => ?_).bind fun n₅ h₅ => ?_
  · exact readsFrom_whenApplies h₄ (readsFrom_enumeration (List.subset_append_right _ _) h₄)
  refine (readsFrom_declared h₅ fun d _ => ?_).bind fun n₆ h₆ => ?_
  · refine readsFrom_whenApplies h₅ ?_
    exact List.foldlRecOn (motive := Plain) _ _ h₅ fun _ h d _ => plain_pattern d h
  · exact readsFrom_declared h₆ fun d _ => readsFrom_whenApplies h₆ h₆

end Narrowing

/-- A block of facets is read, and what is wrong with it are errors that stop no compilation,
unless one of its literals is too long to count. -/
theorem readsFrom_narrow (k : Kind) (base : FacetSet) (block : FacetBlock) :
    ReadsFrom block.literals (narrow k base block) fun r =>
      ∀ ds, r = .error ds → ds ≠ [] ∧ ∀ d ∈ ds, d.Ordinary ∧ d.isError := by
  unfold narrow
  refine (Narrowing.readsFrom_narrowing k base block).bind fun n h => ?_
  rintro ds hds
  split at hds
  · cases hds
  · rename_i hne
    cases hds
    exact ⟨by simpa using hne, h⟩

namespace Builder

variable {c : Catalog} {b b₁ : Builder} {limits : Limits}

/-! ## What is in the making -/

/-- Only complex types are in the making. -/
def OpenComplex (b : Builder) : Prop :=
  ∀ t ∈ b.openTypes, b.schema.Has t ∧ (b.schema.typeDef t).kind.isSimple = false

theorem OpenComplex.mono (h : b.OpenComplex) (hk : b.Keeps b₁) : b₁.OpenComplex := by
  intro t ht
  rw [hk.openTypes] at ht
  obtain ⟨hhas, hkind⟩ := h t ht
  exact ⟨hk.schema.has hhas, by rw [hk.schema.kind t hhas, hkind]⟩

/-- No global attribute and no simple type is in the making. -/
structure AtRest (b : Builder) : Prop where
  attributes : b.openAttributes = []
  types : b.OpenComplex

theorem AtRest.mono (h : b.AtRest) (hk : b.Keeps b₁) : b₁.AtRest :=
  ⟨hk.openAttributes.trans h.attributes, h.types.mono hk⟩

namespace Orderly

/-- What is above a simple type is simple. -/
theorem simple_of_mem_baseChain (ho : b.Orderly c) {id t : TypeId}
    (hid : (b.schema.typeDef id).kind.isSimple) (ht : t ∈ b.schema.baseChain id) :
    (b.schema.typeDef t).kind.isSimple := by
  have hreached := reflTransGen_of_mem_follow ht
  clear ht
  induction hreached with
  | refl => exact hid
  | tail _ hstep ih => exact ho.simple _ _ hstep ih

/-- A type that has been declared has a declaration. -/
theorem exists_getAs? (ho : b.Orderly c) {id : TypeId} {o : DeclarationId}
    (h : b.origin? id = some o) :
    ¬id.index < Kind.all.length ∧ ∃ d t, c.getAs? (·.asType?) o = some (d, t) := by
  unfold origin? at h
  split at h
  · cases h
  · rename_i hid
    have hd := ho.origins o (Array.mem_toList_iff.2 (Array.mem_of_getElem? h))
    rw [Catalog.DeclaresType, ← Catalog.isSome_getAs?, Option.isSome_iff_exists] at hd
    obtain ⟨⟨d, t⟩, hget⟩ := hd
    exact ⟨hid, d, t, hget⟩

end Orderly

theorem origin_of_not_isFinished {id : TypeId} (h : ¬b.isFinished id) :
    ∃ o, b.origin? id = some o := by
  rw [isFinished_iff, not_or] at h
  exact Option.ne_none_iff_exists'.1 h.1

namespace Reports

/-! ## Content of simple types -/

theorem restrictItem {scope : Scope} {base : Option TypeId} {r : NameRef}
    (hm : c.Mentions scope (.type r)) :
    b.Reports c (restrictItem c limits scope base r) fun _ _ => True := by
  unfold Schemata.restrictItem
  refine (simpleTypeOf hm).bind fun item b₁ _ _ _ => .schema_bind ?_
  cases base with
  | none => exact .pure trivial
  | some u =>
    dsimp only
    split
    · exact .pure trivial
    · exact (fault (by rfl) _).last

theorem restrictSimple {scope : Scope} {kind : Kind} {base : SimpleContent}
    {facets : Option FacetBlock} {attributes : Option AttributeBlock}
    {children : Option ChildrenDecl}
    (hm : ∀ block, facets = some block → ∀ m ∈ block.mentions, c.Mentions scope m) :
    b.Reports c (restrictSimple c limits scope kind base facets attributes children)
      fun _ _ => True := by
  unfold Schemata.restrictSimple
  extract_lets jp
  have hjp : ∀ b₁ u, Builder.Reports b₁ c (jp u) fun _ _ => True := by
    intro b₁ u
    simp -zeta only [jp]
    split
    · exact .pure trivial
    · rename_i block
      have hm := hm block rfl
      have hliteral : ∀ text ∈ block.literals, c.Mentions scope (.literal text) := fun text ht =>
        hm _ (List.mem_append_right _ (List.mem_map_of_mem ht))
      refine .reading_bind (readsFrom_narrow _ _ block) hliteral fun narrowed hplain => ?_
      extract_lets jp'
      have hjp' : ∀ b₂ f, Builder.Reports b₂ c (jp' f) fun _ _ => True := by
        intro b₂ f
        simp only [jp']
        split
        · rename_i r hr
          have hr : c.Mentions scope (.type r) := hm _ (by simp [FacetBlock.mentions, hr])
          split
          · exact (restrictItem hr).last
          · exact .pure trivial
        · exact .pure trivial
      cases narrowed with
      | ok f => exact hjp' _ _
      | error ds =>
        have hordinary : ∀ d ∈ ds, d.Ordinary := fun d hd => ((hplain ds rfl).2 d hd).1
        exact (noteEach id hordinary).bind fun _ b₁ _ _ _ => hjp' b₁ _
  split
  · exact (fault (by rfl) _).bind fun u b₁ _ _ _ => hjp b₁ u
  · exact hjp b ()

theorem simpleContent {scope : Scope} {kind : Kind} {base : SimpleContent} {body : TypeBody}
    (hm : ∀ m ∈ body.mentions, c.Mentions scope m) :
    b.Reports c (simpleContent c limits scope kind base body) fun _ _ => True := by
  unfold Schemata.simpleContent
  cases body with
  | list item =>
    exact (simpleTypeOf (hm _ (by simp [TypeBody.mentions]))).last
  | complex _ _ | extension _ _ _ => exact .pure trivial
  | restriction _ facets attributes children =>
    refine restrictSimple fun block hblock m hmem => hm m ?_
    simp [TypeBody.mentions, hblock, hmem]

theorem finishSimple {id : TypeId} {o : DeclarationId} (ho : b.origin? id = some o) :
    b.Reports c (finishSimple c limits id) fun _ _ => True := by
  refine .of_orderly fun horder => ?_
  obtain ⟨hid, d, t, hget⟩ := horder.exists_getAs? ho
  unfold Schemata.finishSimple
  refine .get_bind ?_
  simp only [ho, Option.bind_some, hget]
  exact .schema_bind (making hid (simpleContent fun m hm => Catalog.mentions_of_type hget hm))

/-- The types that still have to be finished before a simple type are simple, so none of them is in
the making. -/
theorem ensureSimple {id : TypeId} (hopen : b.OpenComplex)
    (hid : (b.schema.typeDef id).kind.isSimple) :
    b.Reports c (ensureSimple c limits id) fun _ _ => True := by
  refine .of_orderly fun ho => ?_
  unfold Schemata.ensureSimple
  refine .get_bind ?_
  extract_lets unfinished
  have hunfinished : ∀ t ∈ unfinished, t ∈ b.schema.baseChain id ∧ ¬b.isFinished t := by
    intro t ht
    exact ⟨(List.takeWhile_sublist _).subset ht, by simpa using List.mem_takeWhile_imp ht⟩
  rw [if_neg]
  · -- what is finished on the way takes no origin from those that come after it
    refine (forM (P := fun _ _ => True) (fun _ _ _ _ _ => trivial) fun t ht b₁ hk => ?_).mono
      fun _ _ _ _ _ => trivial
    obtain ⟨o, horigin⟩ := origin_of_not_isFinished (hunfinished t (List.mem_reverse.1 ht)).2
    exact finishSimple (hk.origin horigin)
  · rw [List.any_eq_true]
    rintro ⟨t, ht, hmem⟩
    have hsimple := ho.simple_of_mem_baseChain hid (hunfinished t ht).1
    rw [(hopen t (List.contains_iff_mem.1 hmem)).2] at hsimple
    cases hsimple

/-! ## Default values -/

theorem defaultValue {scope : Scope} {type : TypeId} {literal : Option String}
    {span : Option Span} (hopen : b.OpenComplex)
    (hm : ∀ text, literal = some text → c.Mentions scope (.literal text)) :
    b.Reports c (defaultValue c limits type literal span) fun _ _ => True := by
  unfold Schemata.defaultValue
  cases literal with
  | none => exact .pure trivial
  | some literal =>
    refine .schema_bind ?_
    split
    · exact .pure trivial
    · rename_i hk
      rw [Bool.not_eq_true', Bool.not_eq_false] at hk
      refine (ensureSimple hopen hk).bind fun _ b₁ _ _ _ => .schema_bind ?_
      refine .reading_bind (b₁.schema.readsFrom_readValue type literal)
        (List.forall_mem_singleton.2 (hm literal rfl)) fun v _ => ?_
      cases v with
      | none => exact (fault (by rfl) _).last
      | some v =>
        dsimp only
        split
        · exact .pure trivial
        · exact (fault (by rfl) _).last

/-! ## Global attributes -/

theorem makeGlobalAttribute {d : Declaration} {a : GlobalAttributeDecl} (hopen : b.OpenComplex)
    (hm : ∀ m ∈ (MemberDecl.attr a).mentions, c.Mentions d.scope m) :
    b.Reports c (makeGlobalAttribute c limits d a) fun _ _ => True := by
  unfold Schemata.makeGlobalAttribute
  have htype : c.Mentions d.scope (.type a.type) := hm _ (by simp [MemberDecl.mentions])
  have hdefault : ∀ text, a.defaultValue = some text → c.Mentions d.scope (.literal text) :=
    fun text htext => hm _ (by simp [MemberDecl.mentions, htext])
  refine (simpleTypeOf htype).bind fun t b₁ _ hk _ => ?_
  exact (defaultValue (hopen.mono hk) hdefault).last

theorem resolveAttribute {id : DeclarationId} {d : Declaration} {a : GlobalAttributeDecl}
    (hget : c.getAs? (·.asAttribute?) id = some (d, a)) (hrest : b.AtRest) :
    b.Reports c (resolveAttribute c limits id d a) fun i b₁ =>
      (b₁.schema.attribute? i).isSome ∧ b₁.Knows id := by
  refine .of_orderly fun ho => ?_
  have hdeclares : c.DeclaresAttribute id := by
    rw [Catalog.DeclaresAttribute, ← Catalog.isSome_getAs?, hget]
    rfl
  unfold Schemata.resolveAttribute
  refine .get_bind (.orAbort_bind (fun d h => ?_) fun known h => ?_)
  · exact absurd h (ho.symbolAs_attribute_ne_error hdeclares)
  cases known with
  | some i =>
    obtain ⟨s, hs, hi⟩ := Option.bind_eq_some_iff.1 (symbolAs_eq_some_iff.1 h)
    have hmem := mem_of_symbol? hs
    obtain ⟨i', rfl⟩ := ho.exists_attribute hdeclares hmem
    cases hi
    exact .pure ⟨(ho.attributes id i hmem).2, knows_of_symbolAs h⟩
  | none =>
    dsimp only
    rw [if_neg (by simp [hrest.attributes])]
    have hmade : (b.openAttribute id).Reports c (Schemata.makeGlobalAttribute c limits d a)
        fun _ _ => True :=
      makeGlobalAttribute hrest.types fun m hm => Catalog.mentions_of_attribute hget hm
    exact (makingAttribute hdeclares hmade).mono fun i b₁ _ _ ⟨hi, hmem⟩ => ⟨hi, _, hmem⟩

end Reports

end Builder

end Schemata
