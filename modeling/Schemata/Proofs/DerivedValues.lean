import Schemata.Proofs.Compilation

/-!
# Values of derived simple types

A simple type reports whatever a type above it reports about a value, patterns aside. The content of
each simple type narrows that of its base; the type of the items of a list may change on the way,
but it derives from the one above. So the statement about a list rests on that about its items.
-/

namespace Schemata

open FacetSet (hardCodes)

theorem FacetSet.violations_empty (v : SimpleValue) : ({} : FacetSet).violations v = [] := by
  have hatomic : ∀ a, ({} : FacetSet).atomicViolations a = [] := by
    intro a
    unfold atomicViolations digitViolations
    cases a.digits? <;> rfl
  unfold violations
  cases v.length? <;> cases v.asAtomic? <;>
    simp [violationUnless, allowsLength, hatomic]

/-- A type without facets is one whose facets are empty. -/
theorem TypeDef.facetViolations_eq {t : TypeDef} {c : SimpleContent} (h : t.asSimple? = some c)
    (v : SimpleValue) :
    t.facets?.elim [] (·.violations v) = (c.facets.getD {}).violations v := by
  rw [facets?, h, Option.bind_some]
  cases c.facets with
  | none => exact (FacetSet.violations_empty v).symm
  | some f => rfl

namespace Schema.Sound

variable {s : Schema}

/-- What lies between a simple type and one that it derives from: facets that report no less, and an
item type that derives from the other one. -/
theorem exists_asSimple (hs : s.Sound) {d b : TypeId} (h : s.derives d b) {c : SimpleContent}
    (hc : (s.typeDef d).asSimple? = some c) : ∃ x, (s.typeDef b).asSimple? = some x ∧
      (∀ v, hardCodes ((x.facets.getD {}).violations v) ⊆
        hardCodes ((c.facets.getD {}).violations v)) ∧
      ∀ u, x.item = some u → ∃ t, c.item = some t ∧ s.derives t u := by
  induction (Schema.derives_iff hs.ordered).1 h with
  | refl => exact ⟨c, hc, fun _ => List.Subset.refl _, fun u hu => ⟨u, hu, s.derives_refl u⟩⟩
  | @tail u w hchain hstep ih =>
    obtain ⟨x, hx, hfacets, hitem⟩ := ih ((Schema.derives_iff hs.ordered).2 hchain)
    obtain ⟨y, hy, hnarrow⟩ := hs.simple u x w hx hstep
    refine ⟨y, hy, fun v => ?_, fun i hi => ?_⟩
    · exact List.Subset.trans (hnarrow.facets.hardCodes v) (hfacets v)
    · obtain ⟨j, hj, hji⟩ := hnarrow.item i hi
      obtain ⟨t, ht, htj⟩ := hitem j hj
      exact ⟨t, ht, Schema.derives_trans hs.ordered htj hji⟩

theorem asSimple?_of_isSimple (hs : s.Sound) {d : TypeId} (h : (s.typeDef d).kind.isSimple) :
    ∃ c, (s.typeDef d).asSimple? = some c :=
  Option.isSome_iff_exists.1 ((hs.contents d).symm.trans h)

mutual

theorem hardCodes_failures (hs : s.Sound) {d b : TypeId} (hd : (s.typeDef d).kind.isSimple)
    (h : s.derives d b) (v : SimpleValue) :
    hardCodes (s.failures b v) ⊆ hardCodes (s.failures d v) := by
  obtain ⟨c, hc⟩ := hs.asSimple?_of_isSimple hd
  obtain ⟨x, hx, hfacets, hitem⟩ := hs.exists_asSimple h hc
  cases v with
  | atomic a =>
    simp only [failures, TypeDef.facetViolations_eq hc, TypeDef.facetViolations_eq hx]
    exact hfacets _
  | list vs =>
    simp only [failures, TypeDef.facetViolations_eq hc, TypeDef.facetViolations_eq hx,
      FacetSet.hardCodes_append]
    refine List.append_subset.2 ⟨List.subset_append_of_subset_left _ (hfacets _),
      List.subset_append_of_subset_right _ ?_⟩
    simp only [TypeDef.item?, hc, hx, Option.bind_some]
    cases hu : x.item with
    | none => exact List.nil_subset _
    | some u =>
      obtain ⟨t, ht, htu⟩ := hitem u hu
      rw [ht]
      have hk : (s.typeDef t).kind.isSimple :=
        hs.item d t (by rw [TypeDef.item?, hc, Option.bind_some, ht])
      exact hardCodes_itemFailures hs hk htu vs

theorem hardCodes_itemFailures (hs : s.Sound) {t u : TypeId} (ht : (s.typeDef t).kind.isSimple)
    (h : s.derives t u) (vs : List SimpleValue) :
    hardCodes (s.itemFailures u vs) ⊆ hardCodes (s.itemFailures t vs) := by
  cases vs with
  | nil => exact List.Subset.refl _
  | cons v vs =>
    simp only [itemFailures, FacetSet.hardCodes_append]
    exact List.append_subset.2
      ⟨List.subset_append_of_subset_left _ (hardCodes_failures hs ht h v),
        List.subset_append_of_subset_right _ (hardCodes_itemFailures hs ht h vs)⟩

end

end Schema.Sound

/-- Whatever a simple type reports about a value, patterns aside, is reported by every simple type
that derives from it. -/
theorem reports_of_derives {namespaces : List NamespaceDecl} {limits : Limits} {s : Schema}
    (h : Accepts namespaces limits s) {d b : TypeId} (hd : (s.typeDef d).kind.isSimple)
    (hder : s.derives d b) (v : SimpleValue) {x : FacetViolation} (hx : x ∈ s.failures b v)
    (hp : x.code ≠ .patternNotMatched) : ∃ y ∈ s.failures d v, y.code = x.code := by
  have hmem : x.code ∈ hardCodes (s.failures b v) := FacetSet.mem_hardCodes.2 ⟨⟨x, hx, rfl⟩, hp⟩
  exact (FacetSet.mem_hardCodes.1 (h.sound.hardCodes_failures hd hder v hmem)).1

/-- Lists of labels, and shorter lists of shorter labels. -/
def labels : List NamespaceDecl :=
  let text (name : String) : Ident := ⟨name, none⟩
  let upTo (n : Nat) (item : Option NameRef) : Option FacetBlock :=
    some { lengthRange := some { greatest := some n }, itemType := item }
  let type (name : String) (body : TypeBody) : MemberDecl := .type { name := text name, body }
  [{ uri := "urn:labels"
     members := [
      type "Label" (.restriction (.ofText "String") (upTo 5 none) none none),
      type "Tag" (.restriction (.ofText "Label") (upTo 2 none) none none),
      type "Labels" (.list (.ofText "Label")),
      type "Tags" (.restriction (.ofText "Labels") (upTo 3 (some (.ofText "Tag"))) none none)] }]

/-- A label that is too long in a list of labels is too long in a list of tags. -/
theorem tags_report : ∃ y ∈ (schemaOf labels {}).failures ⟨25⟩ (.list [.atomic (.string "abcdef")]),
    y.code = .lengthNotInRange := by
  have hmem : Code.lengthNotInRange ∈
      ((schemaOf labels {}).failures ⟨24⟩ (.list [.atomic (.string "abcdef")])).map (·.code) := by
    decide +kernel
  obtain ⟨x, hx, hcode⟩ := List.mem_map.1 hmem
  rw [← hcode]
  exact reports_of_derives (accepts_schemaOf (by decide +kernel)) (by decide +kernel)
    (by decide +kernel) _ hx (by rw [hcode]; decide)

end Schemata
