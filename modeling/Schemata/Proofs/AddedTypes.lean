import Schemata.Proofs.MirroredContent
import Schemata.Proofs.SymbolRepeats

/-!
# One more type

A type is added behind the type that it derives from. The compilation goes as before (`Shift.before`)
until it is the turn of the new declaration, which gets the next number. From then on the numbers of
all types that come later are one further up (`Shift.behind`). When it is the turn of the new type to
be finished, it gets its content, and everything else goes on as before.
-/

namespace Schemata

namespace Shift

variable {c c' : Catalog} (σ : Shift c c')

theorem on_emptyContent (k : Kind) : σ.numbers.on k.emptyContent = k.emptyContent := by
  unfold Kind.emptyContent
  cases k.isComplex <;> rfl

theorem on_builtin (k : Kind) : σ.numbers.on k.builtin = k.builtin := by
  have hbase : σ.numbers.on (k.base.map Kind.typeId) = k.base.map Kind.typeId := by
    cases k.base with
    | none => rfl
    | some l => exact congrArg some (σ.builtin l)
  change { k.builtin with
    base := σ.numbers.on (k.base.map Kind.typeId), content := σ.numbers.on k.emptyContent } = _
  rw [hbase, on_emptyContent]
  rfl

/-- A type that the schema does not have stands for the same type in another schema. -/
theorem typeDef_of_not_has {s s' : Schema} {t u : TypeId} (ht : ¬s.Has t) (hu : ¬s'.Has u) :
    s'.typeDef u = σ.numbers.on (s.typeDef t) := by
  rw [Schema.typeDef_of_not_has ht, Schema.typeDef_of_not_has hu, on_builtin]

end Shift

theorem Builder.origin_of_not_has {b : Builder}
    (hs : b.schema.types.size = Kind.all.length + b.origins.size) {t : TypeId}
    (ht : ¬b.schema.Has t) : b.origin? t = none := by
  unfold origin?
  split
  · rfl
  · have hle : b.schema.types.size ≤ t.index := not_lt.1 ht
    exact Array.getElem?_eq_none (by omega)

/-- A new type is one further down than its base. -/
theorem Builder.depth_addType (b : Builder) (hb : b.schema.Ordered) (o : DeclarationId)
    {t : TypeDef} {up : TypeId} (ht : t.base = some up) (hup : b.schema.Has up) :
    (b.addType o t).2.schema.depth (b.addType o t).1 = b.schema.depth up + 1 := by
  have hordered : (b.addType o t).2.schema.Ordered := by
    refine ⟨fun u v hv => ?_, hb.substituted⟩
    rw [typeDef_addType] at hv
    split at hv
    · rename_i hu
      cases ht.symm.trans hv
      rwa [hu]
    · exact hb.base u v hv
  have hbase : ((b.addType o t).2.schema.typeDef (b.addType o t).1).base = some up := by
    rw [typeDef_addType]
    exact (if_pos (rfl : (b.addType o t).1.index = b.schema.types.size)) ▸ ht
  rw [Schema.depth_of_base hordered hbase, (addType_extends b o t).depth_eq hb.base hup]

namespace Catalog.Inserts

variable {c c' : Catalog} {k n : Nat} {d : Declaration} (h : c.Inserts c' k d)

/-! ## Where everything is -/

/-- Until it is the turn of the new declaration, types have the same numbers. -/
def before : Shift c c' where
  place := (·.skip k)
  type t := t
  others := []
  extra := []
  embeds := h.embeds
  size := h.size_eq ▸ Nat.le_succ _
  place_inj _ _ := DeclarationId.skip_inj
  type_inj := Function.injective_id
  builtin _ := rfl

/-- From then on, a new type has a number. -/
def behind (hn : Kind.all.length ≤ n) (extra : List TypeId) : Shift c c' where
  place := (·.skip k)
  type t := ⟨skip n t.index⟩
  others := [⟨k⟩]
  extra
  embeds := h.embeds
  size := h.size_eq ▸ Nat.le_succ _
  place_inj _ _ := DeclarationId.skip_inj
  type_inj _ _ heq := congrArg TypeId.mk (skip_inj (congrArg TypeId.index heq))
  builtin l := congrArg TypeId.mk (skip_of_lt (l.rank_lt.trans_le hn))

theorem mirrors_start : h.before.Mirrors {} {} where
  schemas := by
    refine ⟨fun t => Iff.rfl, fun t => ?_, fun n => rfl, le_rfl, fun t up hup => ?_,
      Array.map_empty.symm, Array.map_empty.symm⟩
    · by_cases ht : Schema.builtin.Has t
      · obtain ⟨l, hl⟩ := Kind.exists_rank (show t.index < Kind.all.length from ht)
        obtain rfl : l.typeId = t := congrArg TypeId.mk hl
        change Schema.builtin.typeDef l.typeId = h.before.numbers.on (Schema.builtin.typeDef l.typeId)
        rw [Schema.builtin_typeDef, Shift.on_builtin]
      · exact Shift.typeDef_of_not_has _ ht ht
    · exact (Builder.start_inv c {}).ordered.base t up hup
  sizes := rfl
  sizes' := rfl
  symbol _ := rfl
  known _ _ hs := by cases hs
  origin t := by
    have hnone : ({} : Builder).origin? t = none := by
      unfold Builder.origin?
      split <;> rfl
    change ({} : Builder).origin? t = _
    rw [hnone]
    rfl
  finished _ := Iff.rfl
  openAttributes := rfl
  openTypes _ := rfl
  others _ hs := by cases hs
  extra _ ht := by simp at ht
  ledger := rfl
  errors := by simp

/-! ## The new type gets its number -/

section Creating

variable {b b' : Builder} (hn : Kind.all.length ≤ b.schema.types.size)

/-- What was stored before has the same numbers afterwards. -/
theorem on_behind (extra : List TypeId) {α : Type} [HasNumbers α] {x : α}
    (hx : ∀ i ∈ HasNumbers.ids x, b.schema.Issues i) :
    (h.behind hn extra).numbers.on x = h.before.numbers.on x := by
  refine Renumbering.on_congr fun i hi => ?_
  cases i with
  | type t => exact congrArg (SymbolId.type ∘ TypeId.mk) (skip_of_lt (hx _ hi))
  | attr i => rfl
  | element i => rfl

variable (hm : h.before.Mirrors b b')

include hm in
theorem size_of_before : b'.schema.types.size = b.schema.types.size :=
  (congrArg TypeId.index hm.type_next).symm

include hm in
theorem schemas_behind (hp : b.Placed) (extra : List TypeId) (t : TypeDef) :
    (h.behind hn extra).Schemas b.schema (b'.addType ⟨k⟩ t).2.schema := by
  have hsize := h.size_of_before hm
  have hadded : (b'.addType ⟨k⟩ t).2.schema.types.size = b.schema.types.size + 1 := by
    simp [Builder.addType, hsize]
  have hhas (u : TypeId) : (b'.addType ⟨k⟩ t).2.schema.Has ((h.behind hn extra).type u) ↔
      b.schema.Has u := by
    change skip b.schema.types.size u.index < (b'.addType ⟨k⟩ t).2.schema.types.size ↔ _ < _
    rw [hadded]
    unfold skip
    split <;> omega
  refine ⟨hhas, fun u => ?_, fun m => ?_, ?_, hm.schemas.below, ?_, ?_⟩
  · by_cases hu : b.schema.Has u
    · have hsame : (h.behind hn extra).type u = u := congrArg TypeId.mk (skip_of_lt hu)
      have hold : (b'.addType ⟨k⟩ t).2.schema.typeDef u = h.before.numbers.on (b.schema.typeDef u) :=
        (Builder.typeDef_addType_of_has ((hm.schemas.has u).2 hu)).trans (hm.schemas.typeDef u)
      rw [hsame, hold, h.on_behind hn extra]
      refine List.forall_mem_append.2 ⟨fun i hi => ?_, fun i hi => ?_⟩
      · cases hup : (b.schema.typeDef u).base with
        | none =>
          rw [hup] at hi
          cases hi
        | some up =>
          rw [hup] at hi
          obtain rfl : i = .type up := by simpa [HasNumbers.ids] using hi
          exact (hm.schemas.below u up hup).trans hu
      · exact (hp.contents u).ids i (Renumbering.ids_content _ ▸ hi)
    · exact Shift.typeDef_of_not_has _ hu (mt (hhas u).1 hu)
  · change TypeId.mk (skip _ _) = _
    rw [hadded, skip_of_le (Nat.le_add_right _ _), Nat.add_right_comm]
  · omega
  · refine hm.schemas.attributes.trans (Array.map_congr_left fun a ha => ?_)
    obtain ⟨i, hi, rfl⟩ := Array.getElem_of_mem ha
    exact (h.on_behind hn extra (hp.attributes ⟨i⟩ _ (Array.getElem?_eq_getElem hi)).ids).symm
  · refine hm.schemas.elements.trans (Array.map_congr_left fun e he => ?_)
    obtain ⟨i, hi, rfl⟩ := Array.getElem_of_mem he
    exact (h.on_behind hn extra (hp.elements ⟨i⟩ _ (Array.getElem?_eq_getElem hi)).ids).symm

include hm in
/-- The types that come later are one further up. -/
theorem mirrors_behind (hp : b.Placed) (hb : b.Inv c) (hidle : b.Idle) (t : TypeDef) :
    (h.behind hn []).Mirrors b (b'.addType ⟨k⟩ t).2 := by
  have hsize := h.size_of_before hm
  have hlt {u : TypeId} (hu : b.schema.Has u) : (h.behind hn []).type u = u :=
    congrArg TypeId.mk (skip_of_lt hu)
  have hnew {u : TypeId} (hu : ¬b.schema.Has u) : ¬b.schema.Has ((h.behind hn []).type u) := by
    change ¬skip _ _ < _
    rw [skip_of_le (not_lt.1 hu)]
    exact fun hlt => hu ((Nat.lt_succ_self _).trans hlt)
  have hfinished (u : TypeId) (hu : u ∈ b'.finished) : b.schema.Has u :=
    (hb.finished u ((hm.finished u).1 hu)).has
  have hopen : b'.openTypes = [] := List.eq_nil_iff_forall_not_mem.2 fun u hu => by
    have hcount := hm.openTypes u
    rw [hidle.types, List.count_nil] at hcount
    exact List.count_eq_zero.1 hcount hu
  refine ⟨h.schemas_behind hn hm hp [] t, hm.sizes, ?_, fun o => ?_, hm.known, fun u => ?_,
    fun u => ?_, hm.openAttributes, fun u => ?_, fun o ho => ?_, fun u hu => ?_, hm.ledger,
    hm.errors⟩
  · simp [Builder.addType, hm.sizes', Nat.add_assoc]
  · have hne : (h.behind hn []).place o ≠ ⟨k⟩ := fun heq =>
      skip_ne k o.index (congrArg DeclarationId.index heq)
    rw [Builder.symbol?_addType, if_neg hne]
    refine (hm.symbol o).trans ?_
    cases hs : b.symbol? o with
    | none => rfl
    | some s =>
      cases s with
      | type u => exact congrArg (some ∘ SymbolId.type) (hlt (hm.known o u hs)).symm
      | attr i => rfl
      | element i => rfl
  · have hne : ((h.behind hn []).type u).index ≠ b'.schema.types.size := by
      rw [hsize]
      exact skip_ne _ _
    rw [Builder.origin_addType hm.sizes', if_neg hne]
    by_cases hu : b.schema.Has u
    · rw [hlt hu]
      exact hm.origin u
    · have hu' : ¬b'.schema.Has ((h.behind hn []).type u) := hnew hu ∘ (hm.schemas.has _).1
      rw [Builder.origin_of_not_has hm.sizes hu, Builder.origin_of_not_has hm.sizes' hu']
      rfl
  · change (h.behind hn []).type u ∈ b'.finished ↔ _
    by_cases hu : b.schema.Has u
    · rw [hlt hu]
      exact hm.finished u
    · refine iff_of_false (fun hmem => hnew hu (hfinished _ hmem)) fun hmem =>
        hu (hb.finished u hmem).has
  · change b'.openTypes.count _ = _
    rw [hopen, hidle.types, List.count_nil, List.count_nil]
  · rw [Builder.symbol?_addType] at ho
    split at ho
    · rename_i hk
      exact Or.inl (hk ▸ List.mem_singleton_self _)
    · rcases hm.others o ho with hmem | hp
      · cases hmem
      · exact Or.inr hp
  · change u ∈ b'.finished ∨ u ∈ b'.openTypes at hu
    rw [hopen] at hu
    rcases hu with hu | hu
    · exact Or.inr ⟨u, hlt (hfinished u hu)⟩
    · cases hu

variable {limits : Limits} {o : DeclarationId} {up : TypeId} {t : TypeDecl} {r : NameRef}

include hm in
/-- The new declaration has its base above it, which has a symbol. -/
theorem climb_new (hd : d.asType? = some t) (hr : t.base? = some r)
    (hresolve : c.resolve d.scope r = .ok (.declared o)) (htype : ((c.get? o).bind (·.asType?)).isSome)
    (hup : b.symbol? o = some (.type up)) :
    climb (b'.symbolAs "type" (·.asType?)) (typeLink c')
      (circleAt c' fun d => d.asType?.bind (·.base?)) (c'.declarations.size + 1) [] ⟨k⟩ =
        .ok (up, [⟨k⟩]) := by
  have hnone : b'.symbolAs "type" (·.asType?) ⟨k⟩ = .ok none := by
    have hsymbol : b'.symbol? ⟨k⟩ = none := by
      by_contra hsome
      rcases hm.others _ (Option.isSome_iff_ne_none.2 hsome) with hmem | ⟨p, hp⟩
      · cases hmem
      · exact skip_ne k p.index (congrArg DeclarationId.index hp)
    rw [Builder.symbolAs, hsymbol]
  have hknown : b'.symbolAs "type" (·.asType?) (o.skip k) = .ok (some up) := by
    have hsymbol : b'.symbol? (o.skip k) = some (.type up) := by
      refine (hm.symbol o).trans ?_
      rw [hup]
      rfl
    rw [Builder.symbolAs, hsymbol]
    rfl
  have hlink : typeLink c' ⟨k⟩ = .ok (.next (o.skip k)) := by
    unfold typeLink
    have hresolve' := h.embeds.resolve hresolve
    simp only [Catalog.getAs?_eq_some_iff.2 ⟨h.get?_new, hd⟩, hr, hresolve', Referent.place,
      h.get?_skip, htype, if_true]
  rw [h.size_eq, climb, hnone]
  dsimp only
  rw [hlink]
  simp only [List.contains_nil, Bool.false_eq_true, if_false]
  rw [climb, hknown]

include hm in
theorem run_resolveNew (hb' : b'.Inv c') (hd : d.asType? = some t) (hr : t.base? = some r)
    (hresolve : c.resolve d.scope r = .ok (.declared o)) (htype : ((c.get? o).bind (·.asType?)).isSome)
    (hup : b.symbol? o = some (.type up)) (hfaults : baseFaults (b.schema.typeDef up) = [])
    (hdepth : b.schema.depth up + 1 ≤ limits.derivationDepth) :
    (resolveDeclaration c' limits ⟨k⟩).run b' =
      .ok ((), (b'.addType ⟨k⟩ (d.typeDef t up (b'.schema.typeDef up))).2) := by
  obtain ⟨scope, m⟩ := d
  obtain rfl : m = .type t := by
    cases m with
    | type _ => exact congrArg MemberDecl.type (Option.some.inj hd)
    | attr _ => cases hd
    | element _ => cases hd
  have hhas : b'.schema.Has up := (hm.schemas.has up).2 (hm.known _ _ hup)
  let x := Declaration.typeDef ⟨scope, .type t⟩ t up (b'.schema.typeDef up)
  have hdepth' : (b'.addType ⟨k⟩ x).2.schema.depth (b'.addType ⟨k⟩ x).1 = b.schema.depth up + 1 :=
    (b'.depth_addType hb'.ordered ⟨k⟩ rfl hhas).trans (congrArg (· + 1) (hm.schemas.depth_eq up))
  have hbaseDiagnostics : t.baseDiagnostics (b'.schema.typeDef up) = [] := by
    rw [TypeDecl.baseDiagnostics, hr, Option.elim_some]
    exact (congrArg (List.map _) (hm.schemas.baseFaults_eq up)).trans (by rw [hfaults]; rfl)
  have hcreate : (createType c' limits up ⟨k⟩).run b' =
      .ok ((b'.addType ⟨k⟩ x).1, (b'.addType ⟨k⟩ x).2) := by
    rw [Builder.run_createType (Catalog.getAs?_eq_some_iff.2 ⟨h.get?_new, rfl⟩), hbaseDiagnostics,
      hdepth', depthDiagnostics_eq_nil hdepth]
    rfl
  have hclimb := h.climb_new hm rfl hr hresolve htype hup
  have hresolveType : (resolveType c' limits ⟨k⟩).run b' =
      .ok ((b'.addType ⟨k⟩ x).1, (b'.addType ⟨k⟩ x).2) := by
    change (Build.orAbort (climb _ _ _ _ _ _) >>= fun p : TypeId × List DeclarationId =>
      p.2.foldlM (createType c' limits) p.1).run b' = _
    rw [hclimb]
    exact Builder.run_bind_of_ok hcreate
  unfold resolveDeclaration
  rw [h.get?_new]
  exact Builder.run_bind_of_ok (f := fun _ => Pure.pure ()) hresolveType

end Creating

/-! ## The new type gets its content -/

section Finishing

variable {b b' : Builder} (hn : Kind.all.length ≤ n)

theorem type_ne_new (extra : List TypeId) (t : TypeId) : (h.behind hn extra).type t ≠ ⟨n⟩ :=
  fun heq => skip_ne n t.index (congrArg TypeId.index heq)

theorem mirrors_openNew (hm : (h.behind hn []).Mirrors b b') :
    (h.behind hn [⟨n⟩]).Mirrors b (b'.openType ⟨n⟩) where
  schemas := ⟨hm.schemas.has, hm.schemas.typeDef, hm.schemas.next, hm.schemas.larger,
    hm.schemas.below, hm.schemas.attributes, hm.schemas.elements⟩
  sizes := hm.sizes
  sizes' := hm.sizes'
  symbol := hm.symbol
  known := hm.known
  origin := hm.origin
  finished := hm.finished
  openAttributes := hm.openAttributes
  openTypes t := by
    rw [Builder.openType, List.count_cons_of_ne (h.type_ne_new hn _ t).symm]
    exact hm.openTypes t
  others := hm.others
  extra t ht := by
    simp only [Builder.openType, List.mem_cons] at ht
    rcases ht with ht | rfl | ht
    · exact (hm.extra t (Or.inl ht)).imp_left (absurd · List.not_mem_nil)
    · exact Or.inl (List.mem_singleton_self _)
    · exact (hm.extra t (Or.inr ht)).imp_left (absurd · List.not_mem_nil)
  ledger := hm.ledger
  errors := hm.errors

theorem mirrors_finishNew (hm : (h.behind hn [⟨n⟩]).Mirrors b b') (x : Content) :
    (h.behind hn [⟨n⟩]).Mirrors b (b'.finish ⟨n⟩ x) := by
  have hsize : (b'.finish ⟨n⟩ x).schema.types.size = b'.schema.types.size := Array.size_modify
  refine ⟨⟨fun t => ?_, fun t => ?_, fun m => ?_, ?_, hm.schemas.below, hm.schemas.attributes,
    hm.schemas.elements⟩, hm.sizes, ?_, hm.symbol, hm.known, hm.origin, fun t => ?_,
    hm.openAttributes, fun t => ?_, hm.others, fun t ht => ?_, hm.ledger, hm.errors⟩
  · rw [Schema.Has, hsize]
    exact hm.schemas.has t
  · rw [Builder.typeDef_finish_of_ne (h.type_ne_new hn _ t)]
    exact hm.schemas.typeDef t
  · rw [hsize]
    exact hm.schemas.next m
  · rw [hsize]
    exact hm.schemas.larger
  · rw [hsize]
    exact hm.sizes'
  · simp only [Builder.finish, List.mem_cons, h.type_ne_new hn _ t, false_or]
    exact hm.finished t
  · rw [Builder.finish, List.count_erase_of_ne (h.type_ne_new hn _ t)]
    exact hm.openTypes t
  · simp only [Builder.finish, List.mem_cons] at ht
    rcases ht with (rfl | ht) | ht
    · exact Or.inl (List.mem_singleton_self _)
    · exact hm.extra t (Or.inl ht)
    · exact hm.extra t (Or.inr (List.mem_of_mem_erase ht))

variable {limits : Limits} {up : TypeId} {t : TypeDecl} {x : ComplexContent}

/-- The turn of the new type: what its body makes without a change in the smaller compilation is
what it makes in the larger one. -/
theorem run_finishNew (hm : (h.behind hn []).Mirrors b b') (hle : n ≤ b.schema.types.size)
    (hd : d.asType? = some t) (horigin : b'.origin? ⟨n⟩ = some ⟨k⟩)
    (hkind : (b'.schema.typeDef ⟨n⟩).kind.isSimple = false)
    (hbase : (b'.schema.typeDef ⟨n⟩).base = some ((h.behind hn []).type up))
    (hrun : (complexContent c limits d.scope up t.body).run b = .ok (x, b)) :
    ∃ b₁', (finishType c' limits ⟨n⟩).run b' = .ok ((), b₁') ∧
      (h.behind hn [⟨n⟩]).Mirrors b b₁' ∧ ⟨n⟩ ∈ b₁'.finished ∧
      (b₁'.schema.typeDef ⟨n⟩).content = .complex ((h.behind hn []).numbers.on x) := by
  have hnew : ¬(⟨n⟩ ∈ b'.finished ∨ ⟨n⟩ ∈ b'.openTypes) := by
    intro hmem
    rcases hm.extra _ hmem with hmem | ⟨u, hu⟩
    · cases hmem
    · exact h.type_ne_new hn _ u hu
  obtain ⟨hfinished, hopen⟩ := not_or.1 hnew
  obtain ⟨b₂', hrun', h₂⟩ := Shift.Mirrored.complexContent (h.behind hn [⟨n⟩]) d.scope up t.body b
    (b'.openType ⟨n⟩) (h.mirrors_openNew hn hm) x b hrun
  have hhas : b₂'.schema.Has ⟨n⟩ := by
    have hnext : skip n b.schema.types.size = b₂'.schema.types.size :=
      congrArg TypeId.index (h₂.schemas.next 0)
    rw [skip_of_le hle] at hnext
    change n < b₂'.schema.types.size
    omega
  refine ⟨b₂'.finish ⟨n⟩ (.complex ((h.behind hn []).numbers.on x)), ?_, h.mirrors_finishNew hn h₂ _,
    List.mem_cons_self, by rw [Builder.typeDef_finish_self hhas]⟩
  have hturn : (finishType c' limits ⟨n⟩).run b' =
      (if b'.isFinished ⟨n⟩ then pure ()
      else if b'.openTypes.contains ⟨n⟩ then Build.internal .contentReentered
      else if (b'.schema.typeDef ⟨n⟩).kind.isSimple then finishSimple c' limits ⟨n⟩
      else finishComplex c' limits ⟨n⟩ : Build Unit).run b' := rfl
  have hunfinished : ¬b'.isFinished ⟨n⟩ := by
    rw [Builder.isFinished_iff, horigin]
    exact not_or.2 ⟨nofun, hfinished⟩
  rw [hturn, if_neg hunfinished, if_neg (by simpa using hopen), hkind,
    if_neg Bool.false_ne_true,
    Builder.run_finishComplex horigin (Catalog.getAs?_eq_some_iff.2 ⟨h.get?_new, hd⟩) hbase]
  exact Builder.run_bind_of_ok hrun'

end Finishing

end Catalog.Inserts

end Schemata
