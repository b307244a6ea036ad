import Schemata.Proofs.SimpleTypes

/-!
# Attributes of types

The attributes that a type gets have distinct names, and their default values fit. Those of a
restriction narrow those of its base unless an error is recorded: while the block is gone through,
`RestrictedAttributes.Good` tells what is known of the attributes found so far, and of the names
spoken of that stand for none.
-/

namespace Schemata

/-! ## Finding by name -/

section Names

variable {α : Type} (name : α → String)

/-- Where names are distinct, everything is found under its name. -/
theorem find?_name_of_mem {as : List α} (hn : (as.map name).Nodup) {a : α} (h : a ∈ as) :
    as.find? (fun x => name x == name a) = some a := by
  induction as with
  | nil => cases h
  | cons x as ih =>
    rw [List.map_cons, List.nodup_cons] at hn
    rcases List.mem_cons.1 h with rfl | h
    · simp
    · have hne : (name x == name a) = false := by
        have : name x ≠ name a := fun heq => hn.1 (heq ▸ List.mem_map_of_mem h)
        simpa using this
      rw [List.find?_cons, hne]
      exact ih hn.2 h

/-- What takes the place of something under its name keeps the names and their order. -/
theorem names_filterMap {f : α → Option α} (hf : ∀ a x, f a = some x → name x = name a)
    (as : List α) : ((as.filterMap f).map name).Sublist (as.map name) := by
  induction as with
  | nil => exact .refl _
  | cons a as ih =>
    rw [List.filterMap_cons]
    split
    · exact ih.cons _
    · rename_i x hx
      rw [List.map_cons, List.map_cons, hf a x hx]
      exact ih.cons_cons _

end Names

namespace Attribute

theorem name_of_find? {set : List Attribute} {name : String} {a : Attribute}
    (h : find? set name = some a) : a.name = name := by
  simpa using List.find?_some h

theorem mem_of_find? {set : List Attribute} {name : String} {a : Attribute}
    (h : find? set name = some a) : a ∈ set :=
  List.mem_of_find?_eq_some h

theorem isIn_iff {set : List Attribute} {name : String} :
    isIn set name ↔ ∃ a, find? set name = some a := by
  rw [← isSome_find?, Option.isSome_iff_exists]

theorem not_isIn_iff {set : List Attribute} {name : String} :
    isIn set name = false ↔ name ∉ set.map Attribute.name := by
  simp [isIn]

end Attribute

theorem mem_leftOutAttributes {base : List Attribute} {r : RestrictedAttributes} {a : Attribute} :
    a ∈ leftOutAttributes base r ↔ a ∈ base ∧ ¬Attribute.isIn r.found a.name ∧
      a.name ∉ r.mentioned ∧ a.isOptional = false := by
  simp [leftOutAttributes, and_assoc]

theorem attributeFaults_eq_nil {s : Schema} {a base : Attribute} (hn : a.name = base.name)
    (h : attributeFaults s a base = []) : a.Narrows s base := by
  simp only [attributeFaults, List.append_eq_nil_iff, ite_eq_right_iff, List.cons_ne_self,
    imp_false, Bool.not_eq_true] at h
  obtain ⟨⟨ho, hnull⟩, hd⟩ := h
  refine ⟨hn, ?_, fun h => ?_, fun h => ?_⟩
  · by_contra hne
    simp [hne] at hd
  · simpa [h] using ho
  · simpa [h] using hnull

namespace Builder

variable {c : Catalog} {b b' : Builder} {limits : Limits} {n : Nat}

namespace Ensures

/-! ## Global attributes -/

theorem makeGlobalAttribute (d : Declaration) (a : GlobalAttributeDecl) :
    b.Ensures c (makeGlobalAttribute c limits d a) fun a b₁ => b₁.DefaultFits 0 a := by
  unfold Schemata.makeGlobalAttribute
  refine (simpleTypeOf d.scope a.type).bind fun t b₁ _ _ ht => ?_
  exact (defaultValue (n := 0) (fun _ h => by omega) ht.1 a.defaultValue _).bind
    fun v b₂ _ _ hv => .pure hv

theorem resolveAttribute {id : DeclarationId} {d : Declaration} {a : GlobalAttributeDecl}
    (hd : c.getAs? (·.asAttribute?) id = some (d, a)) :
    b.Ensures c (resolveAttribute c limits id d a) fun _ _ => True := by
  unfold Schemata.resolveAttribute
  refine .get_bind (.orAbort_bind fun known _ => ?_)
  cases known with
  | some known => exact .pure trivial
  | none =>
    dsimp only
    split
    · exact abort
    · refine (openAttribute id).bind fun _ b₀ _ _ _ => ?_
      refine (makeGlobalAttribute d a).bind fun made b₁ _ _ hfits => ?_
      exact (addAttribute (Catalog.not_declaresType_of_attribute hd) hfits).mono
        fun _ _ _ _ _ => trivial

theorem attributeOf (scope : Scope) (r : NameRef) :
    b.Ensures c (attributeOf c limits scope r) fun a b₁ =>
      b₁.schema.attribute? a.1 = some a.2 := by
  unfold Schemata.attributeOf
  extract_lets fault
  refine .orAbort_bind fun referent _ => ?_
  cases referent with
  | builtin k => exact abort
  | declared id =>
    dsimp only
    split
    · exact abort
    · rename_i d a hd
      refine (resolveAttribute hd).bind fun i b₁ _ _ _ => .schema_bind ?_
      split
      · rename_i a ha
        exact .pure ha
      · exact abort

/-! ## Attributes of types -/

theorem makeAttribute (hn : b.FinishedBelow n) (scope : Scope) (item : AttributeItem) :
    b.Ensures c (makeAttribute c limits scope item) fun r b₁ =>
      ∀ a, r = some a → b₁.Made n a := by
  refine .of_inv fun hb => ?_
  unfold Schemata.makeAttribute
  cases item with
  | declared d =>
    refine (simpleTypeOf scope d.type).bind fun t b₁ hg _ ⟨ht, _⟩ => ?_
    refine (defaultValue (hn.mono hb hg.toGrows) ht d.defaultValue _).bind
      fun v b₂ _ _ hv => .pure ?_
    rintro _ ⟨⟩
    exact ⟨fun v' h => { hv v' h with items := fun _ _ h => by omega }, Or.inr hv⟩
  | reference u =>
    refine (attributeOf scope u.reference).bind fun ⟨i, g⟩ b₁ _ hb₁ hg => .pure ?_
    rintro _ ⟨⟩
    exact ⟨hb₁.attributes i g hg, Or.inl ⟨i, g, rfl, hg, rfl, rfl⟩⟩
  | delete d => exact .pure fun _ h => by cases h

/-- Attributes of distinct names are added to those that are there. -/
theorem addAttributes (hn : b.FinishedBelow n) (scope : Scope) (items : List AttributeItem)
    {set : List Attribute} (hset : (set.map Attribute.name).Nodup) :
    b.Ensures c (addAttributes c limits scope items set) fun r b₁ =>
      (r.map Attribute.name).Nodup ∧ ∀ a ∈ r, a ∈ set ∨ b₁.Made n a := by
  induction items generalizing b set with
  | nil => exact .pure ⟨hset, fun a ha => Or.inl ha⟩
  | cons item rest ih =>
    refine .of_inv fun hb => ?_
    unfold Schemata.addAttributes
    split
    · refine (note _).bind fun _ b₁ hg _ _ => ih (hn.mono hb hg.toGrows) hset
    · refine (makeAttribute hn scope item).bind fun r b₁ hg hb₁ hr => ?_
      have hn₁ := hn.mono hb hg.toGrows
      cases r with
      | none => exact ih hn₁ hset
      | some a =>
        dsimp only
        split
        · exact (note _).bind fun _ b₂ hg₂ _ _ => ih (hn₁.mono hb₁ hg₂.toGrows) hset
        · rename_i hin
          have hset' : ((set ++ [a]).map Attribute.name).Nodup := by
            rw [List.map_append, List.nodup_append_comm, List.map_singleton, List.singleton_append,
              List.nodup_cons]
            exact ⟨Attribute.not_isIn_iff.1 (by simpa using hin), hset⟩
          refine (ih hn₁ hset').mono fun r b₂ hg₂ _ ⟨hr', hmem⟩ => ⟨hr', fun x hx => ?_⟩
          rcases hmem x hx with hx | hx
          · rcases List.mem_append.1 hx with hx | hx
            · exact Or.inl hx
            · obtain rfl := List.mem_singleton.1 hx
              exact Or.inr ((hr x rfl).mono hb₁ hg₂.toGrows)
          · exact Or.inr hx

end Ensures

/-! ## Restriction -/

/-- What is known while a restricting block is gone through: what was found restricts the attribute
of its name in the base, and a name that was spoken of without anything found may be left out. -/
structure GoodAttributes (b : Builder) (n : Nat) (base : List Attribute)
    (r : RestrictedAttributes) : Prop where
  made : ∀ a ∈ r.found, b.Made n a
  found : ∀ a ∈ r.found, ∃ i, Attribute.find? base a.name = some i ∧
    (b.Clean → a.Narrows b.schema i)
  mentioned : b.Clean → ∀ name ∈ r.mentioned, Attribute.isIn r.found name ∨
    ∀ i, Attribute.find? base name = some i → i.isOptional

namespace GoodAttributes

variable {base : List Attribute} {r : RestrictedAttributes}

theorem mono (hb : b.Inv c) (hg : b.Grows c b') (h : b.GoodAttributes n base r) :
    b'.GoodAttributes n base r where
  made a ha := (h.made a ha).mono hb hg
  found a ha := by
    obtain ⟨i, hi, hai⟩ := h.found a ha
    exact ⟨i, hi, fun hc => (hai (hg.clean hc)).mono hg.schema⟩
  mentioned hc := h.mentioned (hg.clean hc)

/-- A name may be spoken of without a result if an error is recorded for it or if it may be left
out. -/
theorem mention (h : b.GoodAttributes n base r) {name : String}
    (hname : b.Clean → ∀ i, Attribute.find? base name = some i → i.isOptional) :
    b.GoodAttributes n base { r with mentioned := name :: r.mentioned } where
  made := h.made
  found := h.found
  mentioned hc := List.forall_mem_cons.2 ⟨Or.inr (hname hc), h.mentioned hc⟩

theorem add (h : b.GoodAttributes n base r) {a i : Attribute} (ha : b.Made n a)
    (hi : Attribute.find? base a.name = some i) (hai : b.Clean → a.Narrows b.schema i) :
    b.GoodAttributes n base ⟨a.name :: r.mentioned, a :: r.found⟩ where
  made := List.forall_mem_cons.2 ⟨ha, h.made⟩
  found := List.forall_mem_cons.2 ⟨⟨i, hi, hai⟩, h.found⟩
  mentioned hc := by
    refine List.forall_mem_cons.2 ⟨Or.inl (by simp [Attribute.isIn]), fun name hname => ?_⟩
    refine (h.mentioned hc name hname).imp_left fun h => ?_
    simp only [Attribute.isIn, List.any_cons, Bool.or_eq_true] at h ⊢
    exact Or.inr h

end GoodAttributes

namespace Ensures

theorem restrictEachAttribute (hn : b.FinishedBelow n) (scope : Scope) (base : List Attribute)
    (items : List AttributeItem) {r : RestrictedAttributes} (hr : b.GoodAttributes n base r) :
    b.Ensures c (restrictEachAttribute c limits scope base items r) fun r b₁ =>
      b₁.GoodAttributes n base r := by
  induction items generalizing b r with
  | nil => exact .pure hr
  | cons item rest ih =>
    refine .of_inv fun hb => ?_
    unfold Schemata.restrictEachAttribute
    split
    · rename_i d
      extract_lets name
      refine (noteFaults _ _).bind fun _ b₁ hg _ ⟨_, hnil⟩ => ?_
      refine ih (hn.mono hb hg.toGrows) ((hr.mono hb hg.toGrows).mention fun hc i hi => ?_)
      have h := hnil hc
      simp only [attributeDeletionFaults, hi] at h
      split at h
      · assumption
      · cases h
    · refine (makeAttribute hn scope item).bind fun m b₁ hg hb₁ hm => ?_
      have hn₁ := hn.mono hb hg.toGrows
      have hr₁ := hr.mono hb hg.toGrows
      cases m with
      | none => exact ih hn₁ hr₁
      | some a =>
        dsimp only
        split
        · exact (note _).bind fun _ b₂ hg₂ _ _ =>
            ih (hn₁.mono hb₁ hg₂.toGrows) (hr₁.mono hb₁ hg₂.toGrows)
        · split
          · rename_i hnone
            refine (note _).bind fun _ b₂ hg₂ _ ⟨_, hne⟩ => ?_
            refine ih (hn₁.mono hb₁ hg₂.toGrows)
              ((hr₁.mono hb₁ hg₂.toGrows).mention fun _ i hi => ?_)
            cases hnone.symm.trans hi
          · rename_i i hi
            refine .schema_bind ?_
            refine (noteFaults _ _).bind fun _ b₂ hg₂ _ ⟨hsame, hnil⟩ => ?_
            refine ih (hn₁.mono hb₁ hg₂.toGrows) ((hr₁.mono hb₁ hg₂.toGrows).add
              ((hm a rfl).mono hb₁ hg₂.toGrows) hi fun hc => ?_)
            exact (attributeFaults_eq_nil (Attribute.name_of_find? hi).symm (hnil hc)).mono
              hg₂.schema

/-- The attributes of a restriction narrow those of the base unless an error is recorded. -/
theorem restrictAttributes (hn : b.FinishedBelow n) (scope : Scope) {base : List Attribute}
    (hbase : (base.map Attribute.name).Nodup) (block : AttributeBlock) :
    b.Ensures c (restrictAttributes c limits scope base block) fun set b₁ =>
      (set.map Attribute.name).Nodup ∧ (∀ a ∈ set, b₁.Made n a) ∧
      (b₁.Clean → Attribute.SetNarrows b₁.schema set base) := by
  unfold Schemata.restrictAttributes
  have hstart : b.GoodAttributes n base {} :=
    ⟨by simp, by simp, by simp⟩
  refine (restrictEachAttribute hn scope base block.items hstart).bind fun r b₁ hg hb₁ hr₁ => ?_
  refine (noteEach _ (fun _ => rfl) _).bind fun _ b₂ hg₂ _ ⟨_, hnil⟩ => .pure ?_
  have hr := hr₁.mono hb₁ hg₂.toGrows
  have hfind : ∀ i ∈ base, Attribute.find? base i.name = some i :=
    fun i hi => find?_name_of_mem Attribute.name hbase hi
  refine ⟨(names_filterMap _ (fun i a h => Attribute.name_of_find? h) base).nodup hbase,
    fun a ha => ?_, fun hc => ⟨fun a ha => ?_, fun i hi hreq => ?_⟩⟩
  · obtain ⟨i, -, hai⟩ := List.mem_filterMap.1 ha
    exact hr.made a (Attribute.mem_of_find? hai)
  · obtain ⟨i, -, hai⟩ := List.mem_filterMap.1 ha
    obtain ⟨j, hj, haj⟩ := hr.found a (Attribute.mem_of_find? hai)
    exact ⟨j, Attribute.mem_of_find? hj, haj hc⟩
  · have hin : Attribute.isIn r.found i.name := by
      by_contra hnot
      have hmem : i.name ∈ r.mentioned := by
        by_contra hleft
        have := mem_leftOutAttributes.2 ⟨hi, hnot, hleft, hreq⟩
        rw [hnil hc] at this
        cases this
      rcases hr.mentioned hc i.name hmem with h | h
      · exact hnot h
      · simp [h i (hfind i hi)] at hreq
    obtain ⟨a, ha⟩ := Attribute.isIn_iff.1 hin
    refine ⟨a, List.mem_filterMap.2 ⟨i, hi, ha⟩, ?_⟩
    obtain ⟨j, hj, haj⟩ := hr.found a (Attribute.mem_of_find? ha)
    rw [Attribute.name_of_find? ha, hfind i hi] at hj
    cases hj
    exact haj hc

end Ensures

end Builder

end Schemata
