import Schemata.Proofs.SimpleRepeats

/-!
# Attributes that are made again

What the second compilation does with the attributes of a type: it makes the same ones, adds them
to the same set and restricts the same ones. The default values of local attributes are admitted
because every attribute that is made is in the set of some type: none of them is lost unless that
is recorded as a fault.
-/

namespace Schemata

open Relation

/-- An entry that deletes no attribute makes one, which is added. -/
theorem addAttributes_cons {c : Catalog} {limits : Limits} {scope : Scope} {item : AttributeItem}
    {rest : List AttributeItem} {set : List Attribute} (h : ∀ d, item ≠ .delete d) :
    addAttributes c limits scope (item :: rest) set = (do
      match ← makeAttribute c limits scope item with
      | none => addAttributes c limits scope rest set
      | some a =>
        if Attribute.isIn set a.name then
          Build.note ((Fault.duplicateAttribute a.name).diagnostic item.span)
          addAttributes c limits scope rest set
        else addAttributes c limits scope rest (set ++ [a])) := by
  cases item with
  | delete d => exact absurd rfl (h d)
  | declared d => rfl
  | reference u => rfl

/-- An entry that deletes no attribute makes one, which restricts one of the base. -/
theorem restrictEachAttribute_cons {c : Catalog} {limits : Limits} {scope : Scope}
    {base : List Attribute} {item : AttributeItem} {rest : List AttributeItem}
    {r : RestrictedAttributes} (h : ∀ d, item ≠ .delete d) :
    restrictEachAttribute c limits scope base (item :: rest) r = (do
      match ← makeAttribute c limits scope item with
      | none => restrictEachAttribute c limits scope base rest r
      | some a =>
        if r.mentioned.contains a.name then
          Build.note ((Fault.duplicateAttribute a.name).diagnostic item.span)
          restrictEachAttribute c limits scope base rest r
        else
          let mentioned := a.name :: r.mentioned
          match Attribute.find? base a.name with
          | none =>
            Build.note ((Fault.unknownRestrictedAttribute a.name).diagnostic item.span)
            restrictEachAttribute c limits scope base rest { r with mentioned }
          | some inherited =>
            let faults := attributeFaults (← Build.schema) a inherited
            faults.forM fun f => Build.note (f.diagnostic item.span)
            restrictEachAttribute c limits scope base rest ⟨mentioned, a :: r.found⟩) := by
  cases item with
  | delete d => exact absurd rfl (h d)
  | declared d => rfl
  | reference u => rfl

/-- What is free of faults stays so when a schema grows. -/
theorem attributeFaults_mono {s s' : Schema} (h : s.Extends s') {a base : Attribute}
    (hf : attributeFaults s a base = []) : attributeFaults s' a base = [] := by
  unfold attributeFaults at hf ⊢
  rw [List.append_eq_nil_iff] at hf ⊢
  refine ⟨hf.1, ?_⟩
  have hd : s.derives a.type base.type := by
    by_contra hnot
    rw [if_neg hnot] at hf
    cases hf.2
  rw [if_pos (h.derives hd)]

/-- What was found restricts attributes of the base, no two of the same name. -/
structure RestrictedAttributes.Fits (r : RestrictedAttributes) (base : List Attribute) : Prop where
  mentioned : ∀ a ∈ r.found, a.name ∈ r.mentioned
  inherited : ∀ a ∈ r.found, Attribute.isIn base a.name
  names : (r.found.map Attribute.name).Nodup

namespace RestrictedAttributes.Fits

variable {r : RestrictedAttributes} {base : List Attribute} {a : Attribute}

theorem mention (h : r.Fits base) (name : String) :
    RestrictedAttributes.Fits { r with mentioned := name :: r.mentioned } base :=
  ⟨fun a ha => List.mem_cons_of_mem _ (h.mentioned a ha), h.inherited, h.names⟩

theorem cons (h : r.Fits base) (hnew : a.name ∉ r.mentioned) (hbase : Attribute.isIn base a.name) :
    RestrictedAttributes.Fits ⟨a.name :: r.mentioned, a :: r.found⟩ base where
  mentioned := List.forall_mem_cons.2 ⟨List.mem_cons_self, (h.mention a.name).mentioned⟩
  inherited := List.forall_mem_cons.2 ⟨hbase, h.inherited⟩
  names := by
    rw [List.map_cons, List.nodup_cons]
    refine ⟨fun hmem => ?_, h.names⟩
    obtain ⟨x, hx, hname⟩ := List.mem_map.1 hmem
    exact hnew (hname ▸ h.mentioned x hx)

/-- Everything that was found is in the restricted set. -/
theorem mem_filterMap (h : r.Fits base) (ha : a ∈ r.found) :
    a ∈ base.filterMap fun i => Attribute.find? r.found i.name := by
  obtain ⟨i, hi, hname⟩ := List.any_eq_true.1 (h.inherited a ha)
  refine List.mem_filterMap.2 ⟨i, hi, ?_⟩
  rw [beq_iff_eq.1 hname]
  exact find?_name_of_mem Attribute.name h.names ha

end RestrictedAttributes.Fits

namespace Remake

variable {limits : Limits} {R : Remake limits} {b b' b₁' : Builder}

section Sends

variable {a a' : Attribute} {set set' : List Attribute}

theorem Sends.name_attribute (h : R.Sends b' a a') : a'.name = a.name := by
  rw [h.eq, Renumbering.name_attribute]

theorem Sends.isIn_attribute (h : R.Sends b' set set') (name : String) :
    Attribute.isIn set' name = Attribute.isIn set name := by
  rw [h.eq, Renumbering.isIn_attribute]

theorem Sends.find?_attribute (h : R.Sends b' set set') (name : String) :
    R.Sends b' (Attribute.find? set name) (Attribute.find? set' name) := by
  refine ⟨by rw [h.eq, Renumbering.find?_attribute], ?_⟩
  cases hfound : Attribute.find? set name with
  | none => exact nofun
  | some a => exact (sends_some (h.of_mem (Attribute.mem_of_find? hfound))).knows

theorem Sends.attributeDeletionFaults_eq (h : R.Sends b' set set') (name : String) :
    attributeDeletionFaults set' name = attributeDeletionFaults set name := by
  have hfound := (h.find?_attribute name).eq
  unfold attributeDeletionFaults
  rw [hfound]
  cases Attribute.find? set name <;> rfl

/-- The attributes that a block leaves out are the same ones. -/
theorem Sends.leftOutAttributes_eq (h : R.Sends b' set set') {r r' : RestrictedAttributes}
    (hm : r'.mentioned = r.mentioned) (hf : R.Sends b' r.found r'.found) :
    leftOutAttributes set' r' = (leftOutAttributes set r).map (R.numbering b').on := by
  unfold leftOutAttributes
  rw [h.eq, Renumbering.on_list, List.filter_map]
  congr 1
  refine List.filter_congr fun a _ => ?_
  rw [Function.comp_apply, Renumbering.name_attribute, hf.isIn_attribute, hm,
    Renumbering.isOptional_attribute]

/-- The attributes that are found under the names of other ones. -/
theorem sends_found {found found' : List Attribute} (h : R.Sends b' set set')
    (hf : R.Sends b' found found') :
    R.Sends b' (set.filterMap fun a => Attribute.find? found a.name)
      (set'.filterMap fun a => Attribute.find? found' a.name) := by
  refine ⟨?_, fun i hi => ?_⟩
  · rw [h.eq, hf.eq]
    change (set.map _).filterMap _ = (set.filterMap _).map _
    rw [List.filterMap_map, List.map_filterMap]
    refine List.filterMap_congr fun a _ => ?_
    rw [Function.comp_apply, Renumbering.name_attribute, Renumbering.find?_attribute]
    rfl
  · obtain ⟨a, ha, hi⟩ := List.mem_flatMap.1 hi
    obtain ⟨x, -, hx⟩ := List.mem_filterMap.1 ha
    exact (hf.of_mem (Attribute.mem_of_find? hx)).knows i hi

theorem Agrees.attributeFaults_eq_nil (h : R.Agrees b') {base base' : Attribute}
    (ha : R.Sends b' a a') (hb : R.Sends b' base base')
    (hf : attributeFaults R.made.schema a base = []) :
    attributeFaults b'.schema a' base' = [] := by
  have hoptional : a'.isOptional = a.isOptional ∧ base'.isOptional = base.isOptional := by
    rw [ha.eq, hb.eq]
    exact ⟨rfl, rfl⟩
  have hnullable : a'.isNullable = a.isNullable ∧ base'.isNullable = base.isNullable := by
    rw [ha.eq, hb.eq]
    exact ⟨rfl, rfl⟩
  unfold attributeFaults at hf ⊢
  rw [List.append_eq_nil_iff, List.append_eq_nil_iff] at hf ⊢
  rw [hoptional.1, hoptional.2, hnullable.1, hnullable.2]
  obtain ⟨⟨ho, hn⟩, hd⟩ := hf
  refine ⟨⟨by simpa using ho, by simpa using hn⟩, ?_⟩
  have hd : R.made.schema.derives a.type base.type := by
    by_contra hnot
    rw [if_neg hnot] at hd
    cases hd
  rw [if_pos (h.derives ha.of_attribute.1 hb.of_attribute.1 hd)]

end Sends

/-- The use of a global attribute in a type. -/
theorem sends_use {a a' : Attribute} {i i' : AttributeId} {isOptional : Bool}
    {span : Option Span} (ha : R.Sends b' a a') (hi : R.Sends b' i i') :
    R.Sends b' { a with standing := .reference, isOptional, referenced := some i, span }
      { a' with standing := .reference, isOptional, referenced := some i', span } := by
  have heq : { a' with standing := .reference, isOptional, referenced := some i', span } =
      { a with standing := .reference, isOptional, referenced := some i', span, type := a'.type } := by
    rw [ha.eq]
    rfl
  rw [heq]
  exact sends_attribute ha.of_attribute.1 (sends_some hi)

/-- The schema admits the default value of an attribute, if there is one. -/
def AdmitsDefault (R : Remake limits) (a : Attribute) : Prop := R.Admits a.type a.defaultValue

namespace Yields

theorem makeAttribute (scope : Scope) (item : AttributeItem) :
    R.Yields b (makeAttribute R.c limits scope item) fun r =>
      (∀ a, r = some a → R.AdmitsDefault a) → ∀ b', b'.AtRest →
        R.Succeeds b' (makeAttribute R.c' limits scope item) fun r' b₁' => R.Sends b₁' r r' := by
  unfold Schemata.makeAttribute
  cases item with
  | declared d =>
    refine .bind_of (Builder.Takes.simpleTypeOf scope d.type) (simpleTypeOf scope d.type)
      fun t b₁ _ ⟨hnames, _⟩ => .of_inv fun _ hp => ?_
    refine (defaultValue (hnames.has hp) d.defaultValue _).bind fun v b₂ _ =>
      .pure fun _ hv ⟨_, _, ht⟩ hadmits b' hrest => ?_
    refine (ht b').bind fun t' b₁' _ hk hs => ?_
    refine (hv (hadmits _ rfl) b₁' t' (hrest.mono hk).types hs).bind
      fun v' b₂' hl _ hv' => .pure ?_
    subst hv'
    exact sends_some (sends_attribute (hs.mono hl) sends_none)
  | reference u =>
    refine (attributeOf scope u.reference).bind fun x b₁ _ =>
      .pure fun _ hx _ b' hrest => (hx.2 b' hrest).bind fun x' b₁' _ _ hs => .pure ?_
    obtain ⟨hi, ha⟩ := hs.of_pair
    exact sends_some (sends_use ha hi)
  | delete d => exact .pure fun _ _ _ _ => .pure sends_none

/-- Every attribute that was there stays, and so does every one that is made. -/
theorem addAttributes (scope : Scope) (items : List AttributeItem) (set : List Attribute) :
    R.Yields b (addAttributes R.c limits scope items set) fun r => set ⊆ r ∧
      ((∀ a ∈ r, R.AdmitsDefault a) → ∀ b' set', b'.AtRest → R.Sends b' set set' →
        R.Succeeds b' (addAttributes R.c' limits scope items set') fun r' b₁' =>
          R.Sends b₁' r r') := by
  induction items generalizing b set with
  | nil => exact .pure fun _ => ⟨List.Subset.refl _, fun _ _ _ _ hset => .pure hset⟩
  | cons item rest ih =>
    by_cases hitem : ∃ d, item = .delete d
    · obtain ⟨d, rfl⟩ := hitem
      exact .note_bind rfl fun b₁ _ => ih set
    · have hitem : ∀ d, item ≠ .delete d := fun d hd => hitem ⟨d, hd⟩
      simp only [addAttributes_cons hitem]
      refine (makeAttribute scope item).bind fun r b₁ _ => ?_
      cases r with
      | none =>
        refine (ih set).mono fun x ⟨hsub, hx⟩ hmake => ⟨hsub, fun hadmits b' set' hrest hset => ?_⟩
        refine (hmake nofun b' hrest).bind fun r' b₁' hl hk hr => ?_
        obtain rfl : r' = none := hr.eq
        exact hx hadmits b₁' set' (hrest.mono hk) (hset.mono hl)
      | some a =>
        dsimp only
        split
        · exact .note_bind rfl fun b₂ _ => ih set
        · rename_i hnew
          refine (ih (set ++ [a])).mono fun x ⟨hsub, hx⟩ hmake =>
            ⟨fun y hy => hsub (List.mem_append_left _ hy), fun hadmits b' set' hrest hset => ?_⟩
          have ha : R.AdmitsDefault a := hadmits a (hsub (by simp))
          refine (hmake (fun y hy => Option.some.inj hy ▸ ha) b' hrest).bind fun r' b₁' hl hk hr => ?_
          obtain ⟨a', rfl, ha'⟩ := exists_of_sends_some hr
          have hset := hset.mono hl
          dsimp only
          rw [ha'.name_attribute, hset.isIn_attribute, if_neg hnew]
          exact hx hadmits b₁' _ (hrest.mono hk) (sends_append hset (sends_cons ha' sends_nil))

/-- Every attribute that was found stays, and so does every one that is made. -/
theorem restrictEachAttribute (scope : Scope) (base : List Attribute)
    (items : List AttributeItem) (r : RestrictedAttributes) (hr : r.Fits base) :
    R.Yields b (restrictEachAttribute R.c limits scope base items r) fun x =>
      x.Fits base ∧ r.found ⊆ x.found ∧ ((∀ a ∈ x.found, R.AdmitsDefault a) →
        ∀ b' base' r', b'.AtRest → R.Sends b' base base' → r'.mentioned = r.mentioned →
          R.Sends b' r.found r'.found →
          R.Succeeds b' (restrictEachAttribute R.c' limits scope base' items r') fun x' b₁' =>
            x'.mentioned = x.mentioned ∧ R.Sends b₁' x.found x'.found) := by
  induction items generalizing b r with
  | nil =>
    exact .pure fun _ => ⟨hr, List.Subset.refl _, fun _ _ _ _ _ _ hm hf => .pure ⟨hm, hf⟩⟩
  | cons item rest ih =>
    by_cases hitem : ∃ d, item = .delete d
    · obtain ⟨d, rfl⟩ := hitem
      refine .faults_bind fun b₁ _ => (ih _ (hr.mention d.name.text)).mono
        fun x ⟨hx, hsub, hsucceeds⟩ hfaults => ⟨hx, hsub, fun hadmits b' base' r' hrest hb hm hf => ?_⟩
      refine .faults_bind (by rw [hb.attributeDeletionFaults_eq, hfaults]) ?_
      exact hsucceeds hadmits b' base' _ hrest hb (congrArg (List.cons _) hm) hf
    · have hitem : ∀ d, item ≠ .delete d := fun d hd => hitem ⟨d, hd⟩
      simp only [restrictEachAttribute_cons hitem]
      refine (makeAttribute scope item).bind fun m b₁ _ => ?_
      cases m with
      | none =>
        refine (ih r hr).mono fun x ⟨hx, hsub, hsucceeds⟩ hmake =>
          ⟨hx, hsub, fun hadmits b' base' r' hrest hb hm hf => ?_⟩
        refine (hmake nofun b' hrest).bind fun m' b₁' hl hk hm' => ?_
        obtain rfl : m' = none := hm'.eq
        exact hsucceeds hadmits b₁' base' r' (hrest.mono hk) (hb.mono hl) hm (hf.mono hl)
      | some a =>
        dsimp only
        split
        · exact .note_bind rfl fun b₂ _ => ih r hr
        · rename_i hnew
          split
          · exact .note_bind rfl fun b₂ _ => ih _ (hr.mention a.name)
          · rename_i inherited hfound
            have hcons := hr.cons (a := a) (by simpa using hnew)
              (Attribute.isIn_iff.2 ⟨inherited, hfound⟩)
            refine .schema_bind (.of_lasts (.faults_bind fun b₂ hl => (ih _ hcons).mono
              fun x ⟨hx, hsub, hsucceeds⟩ hfaults hlast hmake => ?_))
            have hfaults := attributeFaults_mono hlast.schema hfaults
            refine ⟨hx, fun y hy => hsub (List.mem_cons_of_mem _ hy),
              fun hadmits b' base' r' hrest hb hm hf => ?_⟩
            have ha := hadmits a (hsub List.mem_cons_self)
            refine (hmake (fun y hy => Option.some.inj hy ▸ ha) b' hrest).bind
              fun m' b₁' hl hk hm' => ?_
            obtain ⟨a', rfl, ha'⟩ := exists_of_sends_some hm'
            have hb₁ := hb.mono hl
            have hinherited := hb₁.find?_attribute a.name
            rw [hfound] at hinherited
            obtain ⟨inherited', hfound', hi⟩ := exists_of_sends_some hinherited
            dsimp only
            rw [ha'.name_attribute, hm, if_neg hnew, hfound']
            refine .of_agrees fun hagrees => .schema_bind (.faults_bind ?_ ?_)
            · exact hagrees.attributeFaults_eq_nil ha' hi hfaults
            · exact hsucceeds hadmits b₁' base' _ (hrest.mono hk) hb₁ rfl
                (sends_cons ha' (hf.mono hl))

theorem restrictAttributes (scope : Scope) (base : List Attribute) (block : AttributeBlock) :
    R.Yields b (restrictAttributes R.c limits scope base block) fun set =>
      (∀ a ∈ set, R.AdmitsDefault a) → ∀ b' base', b'.AtRest → R.Sends b' base base' →
        R.Succeeds b' (restrictAttributes R.c' limits scope base' block) fun set' b₁' =>
          R.Sends b₁' set set' := by
  unfold Schemata.restrictAttributes
  have hstart : RestrictedAttributes.Fits {} base := ⟨nofun, nofun, List.nodup_nil⟩
  refine (restrictEachAttribute scope base block.items {} hstart).bind fun r b₁ _ => ?_
  refine .each_bind (fun _ => rfl) fun b₂ _ => .pure
    fun _ hleft ⟨hr, _, hsucceeds⟩ hadmits b' base' hrest hb => ?_
  have hadmits : ∀ a ∈ r.found, R.AdmitsDefault a := fun a ha => hadmits a (hr.mem_filterMap ha)
  refine (hsucceeds hadmits b' base' {} hrest hb rfl sends_nil).bind
    fun r' b₁' hl _ ⟨hm, hf⟩ => ?_
  have hb := hb.mono hl
  refine .each_bind (by rw [hb.leftOutAttributes_eq hm hf, hleft]; rfl) (.pure ?_)
  exact sends_found hb hf

end Yields

end Remake

end Schemata
