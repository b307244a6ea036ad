import Mathlib.Data.List.Perm.Subperm
import Schemata.Proofs.RepeatedNarrowing

/-!
# Display names of enumerations

Within one `enums` declaration a display name is used once, and a name that is used again is a
fault. Merging the items of all declarations brings no new names, so the names of the enumeration
are different whenever no two declarations share a name (`itemNames_of_narrow`), and then a name
that is used twice is always reported. Nothing compares the names of two declarations, though: two
values may get one name that way (`twoAces_accepted`).
-/

namespace Schemata

/-! ## Names -/

/-- The display names of declared items. -/
def EnumItemDecl.names (ds : List EnumItemDecl) : List String :=
  ds.filterMap fun d => d.name.map (·.text)

theorem EnumItemDecl.names_cons (d : EnumItemDecl) (ds : List EnumItemDecl) :
    names (d :: ds) = (d.name.map (·.text)).toList ++ names ds := by
  cases h : d.name <;> simp [names, h]

/-- The display names that a declaration has. -/
def EnumBlock.names (b : EnumBlock) : List String := EnumItemDecl.names b.items

theorem EnumBlock.Declares.names_eq {k : Kind} {b : EnumBlock} {declared : List EnumItem}
    (h : b.Declares k declared) : EnumItem.names declared = b.names := by
  obtain ⟨items, -⟩ := h
  unfold EnumBlock.names EnumItem.names EnumItemDecl.names
  generalize b.items = ds at items
  induction items with
  | nil => rfl
  | cons hd _ ih => rw [List.filterMap_cons, List.filterMap_cons, hd.name, ih]

namespace EnumItem

theorem names_addItem (i : EnumItem) (items : List EnumItem) :
    (names (Narrowing.addItem i items)).Subperm (names items ++ i.name.toList) := by
  induction items with
  | nil =>
    rw [Narrowing.addItem, names_cons, show names [] = [] from rfl, List.append_nil,
      List.nil_append]
  | cons other rest ih =>
    unfold Narrowing.addItem
    split
    · rw [names_cons, names_cons]
      cases other.name with
      | none =>
        rw [Option.none_or]
        exact List.perm_append_comm.subperm
      | some name =>
        rw [Option.some_or]
        exact (List.sublist_append_left _ _).subperm
    · rw [names_cons, names_cons, List.append_assoc]
      exact (List.subperm_append_left _).2 ih

/-- Every item has its name from one of the items that it was merged from. -/
theorem names_merge (merged items : List EnumItem) :
    (names (merge merged items)).Subperm (names merged ++ names items) := by
  unfold merge
  induction items generalizing merged with
  | nil =>
    rw [show names [] = [] from rfl, List.append_nil]
    exact .refl _
  | cons i rest ih =>
    rw [List.foldl_cons, names_cons, ← List.append_assoc]
    exact (ih _).trans ((List.subperm_append_right _).2 (names_addItem i merged))

end EnumItem

/-- The names of all items that declarations have, in their order. -/
theorem FacetSet.Declares.names_flatten {base : FacetSet} {k : Kind} {blocks : List EnumBlock}
    {declared : List (List EnumItem)} (h : base.Declares k blocks declared) :
    EnumItem.names declared.flatten = blocks.flatMap EnumBlock.names := by
  obtain ⟨hblocks, -⟩ := h
  induction hblocks with
  | nil => rfl
  | cons hb _ ih =>
    rw [List.flatten_cons, List.flatMap_cons, ← ih, ← hb.names_eq]
    exact List.filterMap_append

/-! ## Faults -/

namespace Narrowing

/-- A name was used twice. -/
def SaysDuplicate (n : Narrowing) : Prop := ∃ d ∈ n.faults, d.code = .duplicateEnumItemName

variable {k : Kind} {base : FacetSet} {n n' : Narrowing}

theorem SaysDuplicate.fault (h : n.SaysDuplicate) (x : NarrowingFault) (span : Option Span) :
    (n.fault x span).SaysDuplicate := by
  obtain ⟨d, hd, hcode⟩ := h
  exact ⟨d, List.mem_append_left _ hd, hcode⟩

theorem saysDuplicate_fault (name : String) (span : Option Span) :
    (n.fault (.duplicateItemName name) span).SaysDuplicate :=
  ⟨_, List.mem_append_right _ (List.mem_singleton_self _), rfl⟩

theorem SaysDuplicate.literal {text : String} {span : Option Span} {r : Option Atomic × Narrowing}
    (h : n.SaysDuplicate) (hr : n.literal k text span = .ok r) : r.2.SaysDuplicate := by
  obtain ⟨v, -, hr⟩ := bind_eq_ok hr
  cases v with
  | none =>
    cases hr
    exact h.fault _ _
  | some v =>
    cases hr
    exact h

/-- A name that was used before, or is used twice, is reported. -/
theorem enumItems_saysDuplicate {span : Option Span} {ds : List EnumItemDecl} {names : List String}
    {items : List EnumItem} {r : List EnumItem × Narrowing}
    (hr : enumItems k base span ds names items n = .ok r)
    (h : n.SaysDuplicate ∨
      ¬(names.Disjoint (EnumItemDecl.names ds) ∧ (EnumItemDecl.names ds).Nodup)) :
    r.2.SaysDuplicate := by
  induction ds generalizing names items n with
  | nil =>
    cases hr
    exact h.resolve_right fun h => h ⟨List.disjoint_nil_right _, .nil⟩
  | cons d rest ih =>
    unfold enumItems at hr
    dsimp only at hr
    split at hr
    · exact ih hr (Or.inl (saysDuplicate_fault _ _))
    · rename_i htaken
      obtain ⟨⟨v, n₁⟩, h₁, hr⟩ := bind_eq_ok hr
      have hfresh : names.Disjoint (d.name.map (·.text)).toList := by
        intro name hmem hname
        have hnot : ∀ name ∈ d.name.map (·.text), name ∉ names := by
          simpa [Option.filter_eq_none_iff] using htaken
        exact hnot name (Option.mem_toList.1 hname) hmem
      have hnext : n₁.SaysDuplicate ∨
          ¬(((d.name.map (·.text)).toList ++ names).Disjoint (EnumItemDecl.names rest) ∧
            (EnumItemDecl.names rest).Nodup) := by
        refine h.imp (fun h => h.literal h₁) (mt fun ⟨hdisjoint, hnodup⟩ => ?_)
        rw [List.disjoint_append_left] at hdisjoint
        rw [EnumItemDecl.names_cons, List.disjoint_append_right, List.nodup_append']
        exact ⟨⟨hfresh, hdisjoint.2⟩, Option.toList_nodup _, hnodup, hdisjoint.1⟩
      cases v with
      | none => exact ih hr hnext
      | some v =>
        dsimp only at hr
        split at hr
        · exact ih hr hnext
        · exact ih hr (hnext.imp_left fun h => h.fault _ _)

theorem enumBlocks_saysDuplicate {bs : List EnumBlock} {items : List EnumItem}
    {r : List EnumItem × Narrowing} (hr : enumBlocks k base bs items n = .ok r)
    (h : n.SaysDuplicate ∨ ∃ b ∈ bs, ¬b.names.Nodup) : r.2.SaysDuplicate := by
  induction bs generalizing items n with
  | nil =>
    cases hr
    exact h.resolve_right (by simp)
  | cons b rest ih =>
    obtain ⟨⟨items₁, n₁⟩, h₁, hr⟩ := bind_eq_ok hr
    have hitems := enumItems_saysDuplicate h₁
    refine ih hr ?_
    rcases h with h | ⟨b', hb', hnodup⟩
    · exact Or.inl (hitems (Or.inl h))
    · rcases List.mem_cons.1 hb' with rfl | hb'
      · exact Or.inl (hitems (Or.inr fun h => hnodup h.2))
      · exact Or.inr ⟨b', hb', hnodup⟩

theorem SaysDuplicate.pattern (h : n.SaysDuplicate) (d : PatternDecl) :
    (n.pattern d).SaysDuplicate := by
  unfold Narrowing.pattern
  split
  · exact h.fault _ _
  · split <;> exact h

theorem SaysDuplicate.patterns (h : n.SaysDuplicate) (ds : List PatternDecl) :
    (ds.foldl Narrowing.pattern n).SaysDuplicate :=
  List.foldlRecOn (motive := SaysDuplicate) ds _ h fun _ h d _ => h.pattern d

theorem SaysDuplicate.facet {α : Type} {next : α → Narrowing → Except TooLong Narrowing}
    {facet : Facet} {d : Option α} {span : α → Option Span} (h : n.SaysDuplicate)
    (hnext : ∀ a n', next a n = .ok n' → n'.SaysDuplicate)
    (hn : n.declared d (fun a n => n.whenApplies k facet (span a) (next a)) = .ok n') :
    n'.SaysDuplicate := by
  cases d with
  | none =>
    cases hn
    exact h
  | some a =>
    dsimp only [declared, whenApplies] at hn
    split at hn
    · exact hnext a n' hn
    · cases hn
      exact h.fault _ _

/-- A name that one declaration uses twice is reported. -/
theorem narrowing_saysDuplicate {block : FacetBlock} (hk : k.admits .enumeration)
    (h : ∃ b ∈ block.enums, ¬b.names.Nodup) (hn : narrowing k base block = .ok n) :
    n.SaysDuplicate := by
  obtain ⟨n₁, h₁, hn⟩ := bind_eq_ok hn
  obtain ⟨n₂, h₂, hn⟩ := bind_eq_ok hn
  obtain ⟨n₃, h₃, hn⟩ := bind_eq_ok hn
  obtain ⟨n₄, h₄, hn⟩ := bind_eq_ok hn
  obtain ⟨n₅, h₅, hn⟩ := bind_eq_ok hn
  obtain ⟨n₆, h₆, hn⟩ := bind_eq_ok hn
  have h₅ : n₅.SaysDuplicate := by
    obtain ⟨b, hb, -⟩ := id h
    cases hhead : block.enums.head? with
    | none => simp [List.head?_eq_none_iff.1 hhead] at hb
    | some d =>
      rw [hhead] at h₅
      obtain ⟨⟨items, n'⟩, hitems, hr⟩ := bind_eq_ok ((if_pos hk).symm.trans h₅)
      cases hr
      exact enumBlocks_saysDuplicate hitems (Or.inr h)
  have h₆ : n₆.SaysDuplicate := h₅.facet (fun _ n' hn' => by
    cases hn'
    exact h₅.patterns _) h₆
  exact h₆.facet (fun _ n' hn' => by
    cases hn'
    exact h₆) hn

end Narrowing

/-! ## Narrowing -/

theorem nodup_of_subperm {α : Type} {l l' : List α} (h : l.Subperm l') (hl : l'.Nodup) :
    l.Nodup := by
  obtain ⟨l₁, hperm, hsub⟩ := h
  exact hperm.nodup_iff.1 (hsub.nodup hl)

/-- One of the declared items has the value. -/
def EnumBlock.Lists (b : EnumBlock) (k : Kind) (v : Atomic) : Prop :=
  ∃ d ∈ b.items, ∃ w, Atomic.read k d.literal = .ok (some w) ∧ w.equal v

namespace FacetSet

variable {v : Atomic}

@[simp]
theorem enumerates_nil : enumerates [] v = false :=
  rfl

theorem enumerates_cons {i : EnumItem} {items : List EnumItem} :
    enumerates (i :: items) v ↔ i.value.equal v ∨ enumerates items v := by
  simp [enumerates]

theorem enumerates_append {items items' : List EnumItem} :
    enumerates (items ++ items') v ↔ enumerates items v ∨ enumerates items' v := by
  simp [enumerates]

end FacetSet

theorem EnumBlock.Declares.enumerates_iff {k : Kind} {b : EnumBlock} {declared : List EnumItem}
    (h : b.Declares k declared) (v : Atomic) : FacetSet.enumerates declared v ↔ b.Lists k v := by
  obtain ⟨items, -⟩ := h
  unfold EnumBlock.Lists
  generalize b.items = ds at items
  induction items with
  | nil => simp
  | @cons d i ds declared hd _ ih =>
    have hhead : i.value.equal v ↔ ∃ w, Atomic.read k d.literal = .ok (some w) ∧ w.equal v := by
      simp [hd.value]
    rw [FacetSet.enumerates_cons, ih, hhead]
    simp only [List.mem_cons, exists_eq_or_imp]

namespace FacetSet.Declares

variable {base : FacetSet} {k : Kind} {blocks : List EnumBlock} {declared : List (List EnumItem)}

theorem nodup_names (h : base.Declares k blocks declared) : ∀ b ∈ blocks, b.names.Nodup := by
  obtain ⟨hblocks, -⟩ := h
  induction hblocks with
  | nil => exact fun _ hb => by cases hb
  | cons hb _ ih => exact List.forall_mem_cons.2 ⟨hb.names_eq ▸ hb.names, ih⟩

/-- The enumeration has the values of all declarations. -/
theorem enumerates_iff (h : base.Declares k blocks declared) (v : Atomic) :
    enumerates (EnumItem.merge [] declared.flatten) v ↔ ∃ b ∈ blocks, b.Lists k v := by
  rw [enumerates_merge]
  simp only [enumerates_nil, Bool.false_eq_true, false_or]
  obtain ⟨hblocks, -⟩ := h
  induction hblocks with
  | nil => simp
  | cons hb _ ih =>
    rw [List.flatten_cons, enumerates_append, ih, hb.enumerates_iff]
    simp only [List.mem_cons, exists_eq_or_imp]

end FacetSet.Declares

/-- No two declarations of a block share a display name. -/
def FacetBlock.NamesApart (block : FacetBlock) : Prop :=
  block.enums.Pairwise fun b c => b.names.Disjoint c.names

theorem FacetBlock.NamesApart.nodup_iff {block : FacetBlock} (h : block.NamesApart) :
    (block.enums.flatMap EnumBlock.names).Nodup ↔ ∀ b ∈ block.enums, b.names.Nodup := by
  rw [List.nodup_flatMap]
  exact and_iff_left h

/-- As long as no two declarations share a display name, the items of an enumeration have different
names, also if they come from several declarations, which admit the values of all of them; and a
name that is used twice is reported. -/
theorem itemNames_of_narrow {k : Kind} {base : FacetSet} {block : FacetBlock}
    {r : Except (List Diagnostic) FacetSet} (hr : narrow k base block = .ok r)
    (hapart : block.NamesApart)
    (hbase : block.enums = [] → ∀ items, base.enumeration = some items →
      (EnumItem.names items).Nodup) :
    (∀ f, r = .ok f →
      (∀ items, f.enumeration = some items → (EnumItem.names items).Nodup) ∧
      (block.enums ≠ [] → ∃ items, f.enumeration = some items ∧
        ∀ v, FacetSet.enumerates items v ↔ ∃ b ∈ block.enums, b.Lists k v)) ∧
    (k.admits .enumeration → ¬(block.enums.flatMap EnumBlock.names).Nodup →
      ∃ ds, r = .error ds ∧ ∃ d ∈ ds, d.code = .duplicateEnumItemName) := by
  refine ⟨?_, fun hk hnodup => ?_⟩
  · rintro f rfl
    have henumeration := (FacetSet.narrow_eq_ok_iff.1 hr).enumeration
    cases hhead : block.enums.head? with
    | none =>
      rw [hhead] at henumeration
      have hnil := List.head?_eq_none_iff.1 hhead
      exact ⟨fun items hi => hbase hnil items (henumeration ▸ hi), fun h => absurd hnil h⟩
    | some b =>
      rw [hhead] at henumeration
      obtain ⟨-, declared, hdeclared, hitems⟩ := henumeration
      refine ⟨fun items hi => ?_, fun _ => ⟨_, hitems, hdeclared.enumerates_iff⟩⟩
      obtain rfl := Option.some.inj (hitems.symm.trans hi)
      refine nodup_of_subperm (EnumItem.names_merge [] _) ?_
      rw [show EnumItem.names [] = [] from rfl, List.nil_append, hdeclared.names_flatten]
      exact hapart.nodup_iff.2 hdeclared.nodup_names
  · have htwice : ∃ b ∈ block.enums, ¬b.names.Nodup := by
      simpa [hapart.nodup_iff] using hnodup
    obtain ⟨n, hn, h⟩ := bind_eq_ok hr
    obtain ⟨d, hd, hcode⟩ := Narrowing.narrowing_saysDuplicate hk htwice hn
    split at h
    · rename_i hempty
      simp [List.isEmpty_iff.1 hempty] at hd
    · cases h
      exact ⟨n.faults, rfl, d, hd, hcode⟩

/-- Two declarations of two values, under names of their own and merged with one without a name. -/
def coins : FacetBlock where
  enums := [
    { items := [{ literal := "5" }, { literal := "10", name := some { text := "dime" } }] },
    { items := [{ literal := "05", name := some { text := "nickel" } }] }]

/-- The items that the coins are merged to. -/
def coinItems : List EnumItem :=
  [⟨.integer .int32 5 (by decide), some "nickel"⟩, ⟨.integer .int32 10 (by decide), some "dime"⟩]

theorem coins_named :
    (narrow (.integer .int32) {} coins = .ok (.ok { enumeration := some coinItems }) ∧
      coins.NamesApart ∧ (coins.enums = [] → ∀ items, ({} : FacetSet).enumeration = some items →
        (EnumItem.names items).Nodup)) ∧
    EnumItem.names coinItems = ["nickel", "dime"] ∧ (EnumItem.names coinItems).Nodup := by
  have hcoins : narrow (.integer .int32) {} coins = .ok (.ok { enumeration := some coinItems }) :=
    rfl
  have hapart : coins.NamesApart := by
    simp [coins, FacetBlock.NamesApart, EnumBlock.names, EnumItemDecl.names]
  have hbase : coins.enums = [] → ∀ items, ({} : FacetSet).enumeration = some items →
      (EnumItem.names items).Nodup := fun h => by cases h
  exact ⟨⟨hcoins, hapart, hbase⟩, rfl,
    ((itemNames_of_narrow hcoins hapart hbase).1 _ rfl).1 _ rfl⟩

/-- Two declarations of two values under one name. -/
def aces : FacetBlock where
  enums := [
    { items := [{ literal := "1", name := some { text := "ace" } }] },
    { items := [{ literal := "11", name := some { text := "ace" } }] }]

/-- The items of the two declarations. -/
def aceItems : List EnumItem :=
  [⟨.integer .int32 1 (by decide), some "ace"⟩, ⟨.integer .int32 11 (by decide), some "ace"⟩]

/-- One name for two values is accepted if they are declared apart. -/
theorem twoAces_accepted :
    ¬(aces.enums.flatMap EnumBlock.names).Nodup ∧ ¬(EnumItem.names aceItems).Nodup ∧
    narrow (.integer .int32) {} aces = .ok (.ok { enumeration := some aceItems }) :=
  ⟨by decide, by decide, rfl⟩

end Schemata
