import Schemata.Proofs.Additions
import Schemata.Proofs.FacetOutlines
import Schemata.Proofs.Positions
import Schemata.Proofs.RepeatedNarrowing
import Schemata.Proofs.SimpleRepeats

/-!
# Well-formed facets

Facets that were narrowed step by step for a kind are consistent, however the steps spread the
declarations (`FacetSet.WellFormed`). A step that declares one of two bounds checks it against the
other one as it will be, so each pair of bounds is in order after every step.

A declared simple type has the kind of its base, and the facets of its base narrowed for that kind.
So the facets of every simple type of an accepted schema are well-formed
(`wellFormed_facets`).
-/

namespace Schemata

/-! ## Facets that are consistent -/

namespace FacetSet

/-- Whether there is something that a facet restricts. -/
def sets (f : FacetSet) : Facet → Bool
  | .lengthRange => f.leastLength.isSome || f.greatestLength.isSome
  | .precision => f.precision.isSome
  | .scale => f.scale.isSome
  | .valueRange => f.least.isSome || f.greatest.isSome
  | .enumeration => f.enumeration.isSome
  | .pattern => !f.patterns.isEmpty
  | .listItemType => false

/-- Facets of a kind that are consistent. -/
structure WellFormed (f : FacetSet) (k : Kind) : Prop where
  admitted : ∀ facet, f.sets facet → k.admits facet
  lengths : ∀ l g, f.leastLength = some l → f.greatestLength = some g → l ≤ g
  precision : ∀ p, f.precision = some p → 1 ≤ p ∧ p ≤ 28
  scale : ∀ s, f.scale = some s → s ≤ 28
  digits : ∀ p s, f.precision = some p → f.scale = some s → s ≤ p
  bounds : ∀ b ∈ f.least.toList ++ f.greatest.toList, b.value.kind = k
  ordered : ∀ b c, f.least = some b → f.greatest = some c →
    b.value.compare? c.value = some .lt ∨
      b.value.compare? c.value = some .eq ∧ b.isInclusive ∧ c.isInclusive
  items : ∀ i ∈ f.enumeration.getD [], i.value.kind = k
  distinct : f.patterns.Nodup
  valid : ∀ p ∈ f.patterns, Pattern.isValid p

theorem wellFormed_empty (k : Kind) : WellFormed {} k where
  admitted facet h := by cases facet <;> cases h
  lengths _ _ h := by cases h
  precision _ h := by cases h
  scale _ h := by cases h
  digits _ _ h := by cases h
  bounds _ h := by cases h
  ordered _ _ h := by cases h
  items _ h := by cases h
  distinct := .nil
  valid _ h := by cases h

end FacetSet

/-- A range that has room for a value. -/
theorem Bound.isOrdered_iff {b c : Bound} : b.isOrdered c ↔
    b.value.compare? c.value = some .lt ∨
      b.value.compare? c.value = some .eq ∧ b.isInclusive ∧ c.isInclusive := by
  unfold isOrdered
  rcases b.value.compare? c.value with - | - | - | - <;> simp

namespace FacetSet

variable {k : Kind} {base f : FacetSet} {block : FacetBlock} {patterns : List String}

theorem nodup_addPattern (h : patterns.Nodup) (d : PatternDecl) :
    (addPattern patterns d).Nodup := by
  unfold addPattern
  split
  · exact h
  · rename_i hnot
    refine List.nodup_append'.2 ⟨h, List.nodup_singleton _, ?_⟩
    simpa using hnot

theorem nodup_foldl_addPattern (h : patterns.Nodup) (ds : List PatternDecl) :
    (ds.foldl addPattern patterns).Nodup :=
  List.foldlRecOn (motive := List.Nodup) ds _ h fun _ h d _ => nodup_addPattern h d

/-- What a block sets applies to the kind. -/
theorem Narrowed.admitted (h : f.Narrowed k base block)
    (hbase : ∀ facet, base.sets facet → k.admits facet) (facet : Facet) (hf : f.sets facet) :
    k.admits facet := by
  have hbase := hbase facet
  cases facet with
  | lengthRange =>
    refine of_elim h.lengths (fun ⟨hl, hg⟩ => hbase ?_) fun _ h => h.1
    rwa [sets, ← hl, ← hg]
  | precision =>
    refine of_elim h.precision (fun hp => hbase ?_) fun _ h => h.1
    rwa [sets, ← hp]
  | scale =>
    refine of_elim h.scale (fun hs => hbase ?_) fun _ h => h.1
    rwa [sets, ← hs]
  | valueRange =>
    refine of_elim h.range (fun ⟨hl, hg⟩ => hbase ?_) fun _ h => h.1
    rwa [sets, ← hl, ← hg]
  | enumeration =>
    refine of_elim h.enumeration (fun hi => hbase ?_) fun _ h => h.1
    rwa [sets, ← hi]
  | pattern =>
    refine of_elim h.patterns (fun hp => hbase ?_) fun _ h => h.1
    rwa [sets, ← hp]
  | listItemType => cases hf

/-- Well-formed facets are narrowed to well-formed ones, if the values of these were all read. -/
theorem Narrowed.wellFormed (h : f.Narrowed k base block) (hbase : base.WellFormed k)
    (hread : f.IsReadAs k) : f.WellFormed k where
  admitted := h.admitted hbase.admitted
  lengths := of_elim h.lengths (fun ⟨hl, hg⟩ => hl ▸ hg ▸ hbase.lengths)
    fun _ ⟨_, _, _, _, _, hordered⟩ => hordered
  precision := of_elim h.precision (fun hp => hp ▸ hbase.precision)
    fun _ ⟨_, hfits, hp⟩ p hp' => Option.some.inj (hp.symm.trans hp') ▸ hfits.range
  scale := of_elim h.scale (fun hs => hs ▸ hbase.scale)
    fun _ ⟨_, hfits, hs⟩ s hs' => Option.some.inj (hs.symm.trans hs') ▸ hfits.range.2
  digits := h.digits
  bounds b hb := by
    have hb : b.value.IsReadAs k := by
      rcases List.mem_append.1 hb with hb | hb
      · exact hread.least b (Option.mem_toList.1 hb)
      · exact hread.greatest b (Option.mem_toList.1 hb)
    exact Atomic.kind_read hb.choose_spec
  ordered := of_elim h.range (fun ⟨hl, hg⟩ => hl ▸ hg ▸ hbase.ordered)
    fun _ ⟨_, _, _, hordered⟩ b c hb hc => Bound.isOrdered_iff.1 (hordered b c hb hc)
  items i hi := Atomic.kind_read (hread.enumeration i hi).choose_spec
  distinct := of_elim h.patterns (fun hp => hp ▸ hbase.distinct)
    fun _ ⟨_, _, hp⟩ => hp ▸ nodup_foldl_addPattern hbase.distinct _
  valid := of_elim h.patterns (fun hp => hp ▸ hbase.valid) fun _ ⟨_, hvalid, hp⟩ p hmem => by
    rw [hp, mem_foldl_addPattern] at hmem
    obtain hmem | ⟨d, hd, rfl⟩ := hmem
    · exact hbase.valid p hmem
    · exact hvalid d hd

theorem NarrowedFor.wellFormed (h : f.NarrowedFor k) : f.WellFormed k := by
  induction h with
  | start => exact wellFormed_empty k
  | step hbase h ih => exact (narrow_eq_ok_iff.1 h).wellFormed ih (hbase.step h).isReadAs

end FacetSet

/-! ## Simple types -/

namespace Build.Returns

variable {c : Catalog} {limits : Limits}

theorem reading {α : Type} {r : Except TooLong α} {P : α → Prop} (h : ∀ a, r = .ok a → P a) :
    (Build.reading r).Returns P := by
  cases r with
  | error e => exact fun _ _ _ hrun => by cases hrun
  | ok a => exact .pure (h a rfl)

/-- The facets of a restriction are narrowed from those of its base, or are these. -/
theorem restrictSimple (scope : Scope) (kind : Kind) {base : SimpleContent}
    (hbase : (base.facets.getD {}).NarrowedFor kind) (facets : Option FacetBlock)
    (attributes : Option AttributeBlock) (children : Option ChildrenDecl) :
    (restrictSimple c limits scope kind base facets attributes children).Returns fun x =>
      (x.facets.getD {}).NarrowedFor kind := by
  unfold Schemata.restrictSimple
  extract_lets jp
  have hjp : ∀ u, (jp u).Returns fun x => (x.facets.getD {}).NarrowedFor kind := by
    intro u
    simp -zeta only [jp]
    split
    · exact .pure hbase
    · rename_i block
      refine (reading fun r hr => hr).bind fun narrowed hnarrowed => ?_
      extract_lets jp'
      have hjp' : ∀ f : Option FacetSet, (f.getD {}).NarrowedFor kind →
          (jp' f).Returns fun x => (x.facets.getD {}).NarrowedFor kind := by
        intro f hf
        simp only [jp']
        split
        · split
          · exact bind_any fun item => .pure hf
          · exact .pure hf
        · exact .pure hf
      cases narrowed with
      | ok f => exact hjp' _ (hbase.step hnarrowed)
      | error ds => exact bind_any fun _ => hjp' _ hbase
  split
  · exact bind_any fun u => hjp u
  · exact hjp ()

theorem simpleContent (scope : Scope) (kind : Kind) {base : SimpleContent} (body : TypeBody)
    (hbase : (∀ item, body ≠ .list item) → (base.facets.getD {}).NarrowedFor kind) :
    (simpleContent c limits scope kind base body).Returns fun x =>
      (x.facets.getD {}).NarrowedFor kind := by
  unfold Schemata.simpleContent
  cases body with
  | list item => exact bind_any fun _ => .pure .start
  | complex _ _ => exact .pure (hbase nofun)
  | extension _ _ _ => exact .pure (hbase nofun)
  | restriction _ facets attributes children =>
    exact restrictSimple scope kind (hbase nofun) facets attributes children

end Build.Returns

namespace Builder

variable {c : Catalog} {limits : Limits} {b b' : Builder}

/-- A simple type that is not declared as a list has a base of its kind. -/
theorem Inv.exists_base_of_not_list (hb : b.Inv c) {id : TypeId} {o : DeclarationId}
    {d : Declaration} {t : TypeDecl} (ho : b.origin? id = some o)
    (hget : c.getAs? (·.asType?) o = some (d, t)) (hk : (b.schema.typeDef id).kind.isSimple)
    (hnot : ∀ item, t.body ≠ .list item) : ∃ up, (b.schema.typeDef id).base = some up ∧
      (b.schema.typeDef up).kind = (b.schema.typeDef id).kind := by
  obtain ⟨hd, ht⟩ := Catalog.getAs?_eq_some_iff.1 hget
  obtain ⟨d', t', up, hd', ht', hup, -, hheader, -⟩ := hb.declared id o ho
  obtain rfl := Option.some.inj (hd.symm.trans hd')
  obtain rfl := Option.some.inj (ht.symm.trans ht')
  have hkind : (t.header (b.schema.typeDef up)).1 = (b.schema.typeDef id).kind := by rw [hheader]
  refine ⟨up, hup, ?_⟩
  cases hbody : t.body with
  | list item => exact absurd hbody (hnot item)
  | complex _ _ | extension _ _ _ =>
    rw [TypeDecl.header, hbody] at hkind
    rw [← hkind] at hk
    cases hk
  | restriction _ _ _ _ =>
    rw [TypeDecl.header, hbody] at hkind
    exact hkind

/-- The facets of every simple type were narrowed step by step for its kind. -/
theorem Completes.narrowedFor {namespaces : List NamespaceDecl} (h : b.Completes namespaces limits)
    (id : TypeId) {x : SimpleContent} (hx : (b.schema.typeDef id).asSimple? = some x) :
    (x.facets.getD {}).NarrowedFor (b.schema.typeDef id).kind := by
  induction hn : id.index using Nat.strong_induction_on generalizing id x with
  | h n ih =>
    rcases h.inv.builtin_or_finished (fun _ => h.isFinished) id with ⟨k, hk⟩ | hid
    · rw [hk] at hx
      rw [Kind.eq_of_asSimple?_builtin hx]
      exact .start
    · cases h.sourced.contents id hid with
      | complex _ _ _ _ _ _ _ _ _ content =>
        rw [TypeDef.asSimple?, content] at hx
        cases hx
      | @simple o d decl _ b₀ b₁ origin declared kind inv placed has base run lasts content =>
        rw [TypeDef.asSimple?, content] at hx
        cases hx
        obtain ⟨hs, -⟩ := (Takes.simpleContent (k := .all) d.scope (b₀.schema.typeDef id).kind
          decl.body (placesItem_simpleBase placed id)).apply placed inv run
        have hl := hs.lasts.trans lasts
        rw [← hl.schema.kind id has, ← hl.simpleBase_eq inv h.inv has base] at run
        refine Build.Returns.simpleContent d.scope _ decl.body (fun hnot => ?_) b₀ _ b₁ run
        obtain ⟨up, hup, hkind⟩ := h.inv.exists_base_of_not_list origin declared kind hnot
        rw [simpleBase, hup, Option.bind_some, ← hkind]
        cases hbase : (b.schema.typeDef up).asSimple? with
        | none => exact .start
        | some y => exact ih up.index (hn ▸ h.inv.ordered.base id up hup) up hbase rfl

end Builder

/-- Facets that are narrowed step by step for a kind, starting without any, are well-formed, and so
are the facets of every simple type of an accepted schema. -/
theorem wellFormed_facets :
    (∀ k (f : FacetSet), f.NarrowedFor k → f.WellFormed k) ∧
    ∀ namespaces limits s, Accepts namespaces limits s → ∀ id x,
      (s.typeDef id).asSimple? = some x → (x.facets.getD {}).WellFormed (s.typeDef id).kind := by
  refine ⟨fun k f h => h.wellFormed, fun namespaces limits s h id x hx => ?_⟩
  obtain ⟨b, hb, rfl⟩ := h.exists_builder
  rw [hb.becomes.typeDef] at hx ⊢
  exact (hb.narrowedFor id hx).wellFormed

/-- A type of numbers with a lower bound, and a restriction that adds an upper one. -/
def rates : List NamespaceDecl :=
  let text (name : String) : Ident := ⟨name, none⟩
  let rate : FacetBlock :=
    { precision := some { value := 5 }, scale := some { value := 2 }
      valueRange := some { least := some { literal := "0" } } }
  let share : FacetBlock :=
    { precision := some { value := 3 }
      valueRange := some { greatest := some { literal := "1" } } }
  [{ uri := "urn:rates"
     members := [
      .type { name := text "Rate", body := .restriction (.ofText "Decimal") (some rate) none none },
      .type { name := text "Share", body := .restriction (.ofText "Rate") (some share) none none }] }]

theorem grades_wellFormed :
    (gradeFacets.NarrowedFor (.integer .byte) ∧ gradeFacets.WellFormed (.integer .byte)) ∧
    Accepts rates {} (schemaOf rates {}) ∧
    ∃ x f, ((schemaOf rates {}).typeDef ⟨23⟩).asSimple? = some x ∧ x.facets = some f ∧
      f.least.isSome ∧ f.greatest.isSome ∧ f.precision = some 3 ∧ f.scale = some 2 ∧
      f.WellFormed .decimal := by
  have hgrades : gradeFacets.NarrowedFor (.integer .byte) := .step .start narrow_grades
  have hs : Accepts rates {} (schemaOf rates {}) := accepts_schemaOf (by decide +kernel)
  have hshare : (((schemaOf rates {}).typeDef ⟨23⟩).asSimple?.bind (·.facets)).any fun f =>
      f.least.isSome && f.greatest.isSome && f.precision == some 3 && f.scale == some 2 := by
    decide +kernel
  have hkind : ((schemaOf rates {}).typeDef ⟨23⟩).kind = .decimal := by decide +kernel
  obtain ⟨f, hf, hshare⟩ := (Option.any_eq_true _ _).1 hshare
  obtain ⟨x, hx, hf⟩ := Option.bind_eq_some_iff.1 hf
  simp only [Bool.and_eq_true, beq_iff_eq] at hshare
  obtain ⟨⟨⟨hleast, hgreatest⟩, hprecision⟩, hscale⟩ := hshare
  have hwell := wellFormed_facets.2 _ _ _ hs _ _ hx
  rw [hf, hkind] at hwell
  exact ⟨⟨hgrades, wellFormed_facets.1 _ _ hgrades⟩, hs, x, f, hx, hf, hleast, hgreatest,
    hprecision, hscale, hwell⟩

end Schemata
