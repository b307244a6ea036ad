import Schemata.Proofs.Records

/-!
# Declarations that were written

Every tree of declarations is read back as it was written, provided that its numbers fit into the
words that hold them: 32 bits for lines and columns, 64 bits for counts (`NamespaceDecl.fits`).
There is a lemma for each kind of node, in the order of `Schemata.Declaration.Basic`. Only the
entries of a child set contain one another; they are read within a number of levels, and the depth
of what was written is enough of them (`ChildItem.gives`).

A text may hold one namespace or an array of them, and a namespace may be an array of its fields
itself. An array of namespaces is none, as the first field of a namespace is a string
(`NamespaceDecl.ofJson?_array`).
-/

namespace Schemata

open Json (Gives FieldGives orNull required optional orElse listOf count? naturalBelow gives_object
  gives_variant gives_string gives_bool gives_natural gives_list_of_all fieldGives_orNull
  fieldGives_orNull_of_all)

/-! ## Places and names -/

/-- A line and a column of 32 bits. -/
def Position.fits (p : Position) : Bool := p.line < 1 <<< 32 && p.column < 1 <<< 32

theorem Position.gives {p : Position} (h : p.fits) : Gives Position.ofJson? p.toJson p := by
  simp only [fits, Bool.and_eq_true, decide_eq_true_eq] at h
  exact gives_object (fun _ => rfl)
    (.cons (gives_natural (by decide) h.1).required <|
      .cons (gives_natural (by decide) h.2).required <| .nil p)
    (by decide) rfl

/-- Both ends fit. -/
def Span.fits (s : Span) : Bool := s.start.fits && s.stop.fits

theorem Span.gives {s : Span} (h : s.fits) : Gives Span.ofJson? s.toJson s := by
  simp only [fits, Bool.and_eq_true] at h
  exact gives_object (fun _ => rfl)
    (.cons (gives_string s.path).required <| .cons (Position.gives h.1).required <|
      .cons (Position.gives h.2).required <| .nil s)
    (by decide) rfl

/-- The numbers of a name fit. -/
def Ident.fits (i : Ident) : Bool := i.span.all Span.fits

theorem Ident.gives {i : Ident} (h : i.fits) : Gives Ident.ofJson? i.toJson i :=
  gives_object (fun _ => rfl)
    (.cons (gives_string i.text).required <| .cons (fieldGives_orNull_of_all Span.gives h) <|
      .nil i)
    (by decide) rfl

/-- The numbers of a reference fit. -/
def NameRef.fits (r : NameRef) : Bool := r.aliasName.all Ident.fits && r.name.fits

theorem NameRef.gives {r : NameRef} (h : r.fits) : Gives NameRef.ofJson? r.toJson r := by
  simp only [fits, Bool.and_eq_true] at h
  exact gives_object (fun _ => rfl)
    (.cons (fieldGives_orNull_of_all Ident.gives h.1) <| .cons (Ident.gives h.2).required <|
      .nil r)
    (by decide) rfl

/-! ## Attributes -/

/-- The numbers of an attribute fit. -/
def AttributeDecl.fits (d : AttributeDecl) : Bool :=
  d.name.fits && d.type.fits && d.span.all Span.fits

/-- The numbers of a use of an attribute fit. -/
def AttributeUse.fits (u : AttributeUse) : Bool := u.reference.fits && u.span.all Span.fits

/-- The numbers of a removal fit. -/
def Deletion.fits (d : Deletion) : Bool := d.name.fits && d.span.all Span.fits

theorem Deletion.gives {d : Deletion} (h : d.fits) :
    Gives Deletion.ofJson? (.object [("name", d.name.toJson), ("span", orNull Span.toJson d.span)])
      d := by
  simp only [fits, Bool.and_eq_true] at h
  exact gives_object (fun _ => rfl)
    (.cons (Ident.gives h.1).required <| .cons (fieldGives_orNull_of_all Span.gives h.2) <| .nil d)
    (by decide) rfl

/-- The numbers of an entry of an attribute block fit. -/
def AttributeItem.fits : AttributeItem → Bool
  | .declared d => d.fits
  | .reference u => u.fits
  | .delete d => d.fits

theorem AttributeItem.gives {item : AttributeItem} (h : item.fits) :
    Gives AttributeItem.ofJson? item.toJson item := by
  cases item with
  | declared d =>
    simp only [fits, AttributeDecl.fits, Bool.and_eq_true] at h
    refine gives_variant 0 (fun _ => rfl) (Gives.map (a := d) ?_ declared) rfl (by simp)
    exact gives_object (fun _ => rfl)
      (.cons (Ident.gives h.1.1).required <| .cons (NameRef.gives h.1.2).required <|
        .cons (gives_bool d.isOptional).orElse <| .cons (gives_bool d.isNullable).orElse <|
        .cons (fieldGives_orNull fun s _ => gives_string s) <|
        .cons (fieldGives_orNull_of_all Span.gives h.2) <| .nil d)
      (by decide) rfl
  | reference u =>
    simp only [fits, AttributeUse.fits, Bool.and_eq_true] at h
    refine gives_variant 1 (fun _ => rfl) (Gives.map (a := u) ?_ reference) rfl (by simp)
    exact gives_object (fun _ => rfl)
      (.cons (NameRef.gives h.1).required <| .cons (gives_bool u.isOptional).orElse <|
        .cons (fieldGives_orNull_of_all Span.gives h.2) <| .nil u)
      (by decide) rfl
  | delete d => exact gives_variant 2 (fun _ => rfl) ((Deletion.gives h).map delete) rfl (by simp)

/-- The numbers of an attribute block fit. -/
def AttributeBlock.fits (b : AttributeBlock) : Bool :=
  b.items.all AttributeItem.fits && b.span.all Span.fits

theorem AttributeBlock.gives {b : AttributeBlock} (h : b.fits) :
    Gives AttributeBlock.ofJson? b.toJson b := by
  simp only [fits, Bool.and_eq_true] at h
  exact gives_object (fun _ => rfl)
    (.cons (gives_list_of_all AttributeItem.gives h.1).orElse <|
      .cons (fieldGives_orNull_of_all Span.gives h.2) <| .nil b)
    (by decide) rfl

/-! ## Children -/

theorem SetKind.gives (kind : SetKind) : Gives SetKind.ofJson? (.string kind.text) kind := by
  cases kind <;> exact ⟨trivial, nofun, rfl⟩

/-- Bounds of 64 bits. -/
def OccursDecl.fits (o : OccursDecl) : Bool :=
  o.least < 1 <<< 64 && o.most < 1 <<< 64 && o.span.all Span.fits

theorem OccursDecl.gives {o : OccursDecl} (h : o.fits) : Gives OccursDecl.ofJson? o.toJson o := by
  simp only [fits, Bool.and_eq_true, decide_eq_true_eq] at h
  exact gives_object (fun _ => rfl)
    (.cons (gives_natural (by decide) h.1.1).required <|
      .cons (gives_natural (by decide) h.1.2).required <|
      .cons (fieldGives_orNull_of_all Span.gives h.2) <| .nil o)
    (by decide) rfl

/-- The numbers of an element fit. -/
def ElementDecl.fits (d : ElementDecl) : Bool :=
  d.name.fits && d.type.fits && d.occurs.all OccursDecl.fits && d.span.all Span.fits

/-- The numbers of a use of an element fit. -/
def ElementUse.fits (u : ElementUse) : Bool :=
  u.reference.fits && u.memberName.all Ident.fits && u.occurs.all OccursDecl.fits &&
    u.span.all Span.fits

mutual

/-- The numbers of an entry of a child set fit. -/
def ChildItem.fits : ChildItem → Bool
  | .element d => d.fits
  | .reference u => u.fits
  | .set name _ items span occurs =>
    name.all Ident.fits && childItemsFit items && span.all Span.fits && occurs.all OccursDecl.fits
  | .delete d => d.fits

/-- The numbers of several entries fit. -/
def childItemsFit : List ChildItem → Bool
  | [] => true
  | item :: rest => item.fits && childItemsFit rest

end

theorem childItemsToJson_eq_map (items : List ChildItem) :
    childItemsToJson items = items.map ChildItem.toJson := by
  induction items with
  | nil => rfl
  | cons item rest ih => rw [childItemsToJson, List.map_cons, ih]

/-- A set is read if its entries are. -/
theorem ChildSetDecl.read_gives {item : Json → Option ChildItem} (kind : SetKind)
    {items : List ChildItem} {span : Option Span}
    (h : ∀ i ∈ items, Gives item i.toJson i) (hspan : span.all Span.fits) :
    Gives (ChildSetDecl.read item) (.object (childSetFields kind (childItemsToJson items) span))
      ⟨kind, items, span⟩ := by
  rw [childItemsToJson_eq_map]
  exact gives_object (fun _ => rfl)
    (.cons (SetKind.gives kind).required <| .cons (Json.gives_list h).orElse <|
      .cons (fieldGives_orNull_of_all Span.gives hspan) <| .nil (⟨kind, items, span⟩ : ChildSetDecl))
    (by decide) rfl

/-- What is written for an entry of a set nests less deep than what is written for the set. -/
theorem depth_lt_of_mem_childSetFields (kind : SetKind) (span : Option Span)
    {items : List ChildItem} {i : ChildItem} (h : i ∈ items) :
    i.toJson.depth <
      (Json.object (childSetFields kind (childItemsToJson items) span)).depth := by
  rw [childItemsToJson_eq_map]
  calc i.toJson.depth
    _ < (Json.array (items.map ChildItem.toJson)).depth :=
      Json.depth_lt_of_mem_items (List.mem_map_of_mem h)
    _ < _ := Json.depth_lt_of_mem_members (m := ("members", _)) (by simp [childSetFields])

mutual

/-- An entry is read within as many levels as what was written for it is deep. -/
theorem ChildItem.gives : ∀ {item : ChildItem} {levels : Nat}, item.fits →
    item.toJson.depth ≤ levels → Gives (ChildItem.read levels) item.toJson item
  | item, 0, _, hdepth => by
    cases item <;> exact absurd hdepth (Nat.not_succ_le_zero _)
  | .element d, levels + 1, h, _ => by
    simp only [ChildItem.fits, ElementDecl.fits, Bool.and_eq_true] at h
    refine gives_variant 0 (fun _ => rfl) (Gives.map (a := d) ?_ ChildItem.element) rfl (by simp)
    exact gives_object (fun _ => rfl)
      (.cons (Ident.gives h.1.1.1).required <| .cons (NameRef.gives h.1.1.2).required <|
        .cons (gives_bool d.isNullable).orElse <|
        .cons (fieldGives_orNull_of_all OccursDecl.gives h.1.2) <|
        .cons (fieldGives_orNull_of_all Span.gives h.2) <| .nil d)
      (by decide) rfl
  | .reference u, levels + 1, h, _ => by
    simp only [ChildItem.fits, ElementUse.fits, Bool.and_eq_true] at h
    refine gives_variant 1 (fun _ => rfl) (Gives.map (a := u) ?_ ChildItem.reference) rfl (by simp)
    exact gives_object (fun _ => rfl)
      (.cons (NameRef.gives h.1.1.1).required <|
        .cons (fieldGives_orNull_of_all Ident.gives h.1.1.2) <|
        .cons (fieldGives_orNull_of_all OccursDecl.gives h.1.2) <|
        .cons (fieldGives_orNull_of_all Span.gives h.2) <| .nil u)
      (by decide) rfl
  | .set name kind items span occurs, levels + 1, h, hdepth => by
    simp only [ChildItem.fits, Bool.and_eq_true] at h
    have hinner : (Json.object (childSetFields kind (childItemsToJson items) span)).depth <
        (ChildItem.set name kind items span occurs).toJson.depth :=
      Json.depth_lt_of_mem_members (m := ("set", _)) (by simp)
    have hitems : ∀ i ∈ items, Gives (ChildItem.read levels) i.toJson i :=
      childItems_give h.1.1.2 fun i hi => by
        have := depth_lt_of_mem_childSetFields kind span hi
        omega
    refine gives_variant 2 (fun _ => rfl) ?_ rfl (by simp)
    exact gives_object (fun _ => rfl)
      (.cons (fieldGives_orNull_of_all Ident.gives h.1.1.1) <|
        .cons (ChildSetDecl.read_gives kind hitems h.1.2).required <|
        .cons (fieldGives_orNull_of_all OccursDecl.gives h.2) <|
        .nil (ChildItem.set name kind items span occurs))
      (by decide) rfl
  | .delete d, levels + 1, h, _ =>
    gives_variant 3 (fun _ => rfl) ((Deletion.gives h).map ChildItem.delete) rfl (by simp)

/-- The same for every entry of a list. -/
theorem childItems_give : ∀ {items : List ChildItem} {levels : Nat}, childItemsFit items →
    (∀ i ∈ items, i.toJson.depth ≤ levels) →
    ∀ i ∈ items, Gives (ChildItem.read levels) i.toJson i
  | [], _, _, _, _, hi => absurd hi List.not_mem_nil
  | item :: rest, levels, h, hdepth, i, hi => by
    simp only [childItemsFit, Bool.and_eq_true] at h
    rcases List.mem_cons.1 hi with heq | hi
    · rw [heq]
      exact ChildItem.gives h.1 (hdepth item List.mem_cons_self)
    · exact childItems_give h.2 (fun i hi => hdepth i (List.mem_cons_of_mem _ hi)) i hi

end

/-- The numbers of a child set fit. -/
def ChildSetDecl.fits (d : ChildSetDecl) : Bool := childItemsFit d.items && d.span.all Span.fits

theorem ChildSetDecl.gives {d : ChildSetDecl} (h : d.fits) :
    Gives ChildSetDecl.ofJson?
      (.object (childSetFields d.kind (childItemsToJson d.items) d.span)) d := by
  simp only [fits, Bool.and_eq_true] at h
  have hitems := childItems_give h.1 fun i hi =>
    Nat.le_of_lt (depth_lt_of_mem_childSetFields d.kind d.span hi)
  have hread := ChildSetDecl.read_gives d.kind hitems h.2
  exact ⟨hread.exact, hread.ne_null, hread.read_eq⟩

/-- The numbers of the children of a type fit. -/
def ChildrenDecl.fits : ChildrenDecl → Bool
  | .simple type span => type.fits && span.all Span.fits
  | .set d => d.fits

theorem ChildrenDecl.gives {d : ChildrenDecl} (h : d.fits) :
    Gives ChildrenDecl.ofJson? d.toJson d := by
  cases d with
  | simple type span =>
    simp only [fits, Bool.and_eq_true] at h
    refine gives_variant 0 (fun _ => rfl) ?_ rfl (by simp)
    exact gives_object (fun _ => rfl)
      (.cons (NameRef.gives h.1).required <| .cons (fieldGives_orNull_of_all Span.gives h.2) <|
        .nil (ChildrenDecl.simple type span))
      (by decide) rfl
  | set d =>
    exact gives_variant 1 (fun _ => rfl) ((ChildSetDecl.gives h).map set) rfl
      (by simp [childSetFields])

/-! ## Facets -/

/-- Bounds of 64 bits. -/
def LengthRangeDecl.fits (d : LengthRangeDecl) : Bool :=
  d.least.all (· < 1 <<< 64) && d.greatest.all (· < 1 <<< 64) && d.span.all Span.fits

theorem gives_count {n : Nat} (h : decide (n < 1 <<< 64)) : Gives count? (.ofNat n) n :=
  gives_natural (by decide) (of_decide_eq_true h)

theorem LengthRangeDecl.gives {d : LengthRangeDecl} (h : d.fits) :
    Gives LengthRangeDecl.ofJson? d.toJson d := by
  simp only [fits, Bool.and_eq_true] at h
  exact gives_object (fun _ => rfl)
    (.cons (fieldGives_orNull_of_all gives_count h.1.1) <|
      .cons (fieldGives_orNull_of_all gives_count h.1.2) <|
      .cons (fieldGives_orNull_of_all Span.gives h.2) <| .nil d)
    (by decide) rfl

/-- A count of 64 bits. -/
def CountDecl.fits (d : CountDecl) : Bool := d.value < 1 <<< 64 && d.span.all Span.fits

theorem CountDecl.gives {d : CountDecl} (h : d.fits) : Gives CountDecl.ofJson? d.toJson d := by
  simp only [fits, Bool.and_eq_true] at h
  exact gives_object (fun _ => rfl)
    (.cons (gives_count h.1).required <| .cons (fieldGives_orNull_of_all Span.gives h.2) <| .nil d)
    (by decide) rfl

theorem BoundDecl.gives (d : BoundDecl) : Gives BoundDecl.ofJson? d.toJson d :=
  gives_object (fun _ => rfl)
    (.cons (gives_string d.literal).required <| .cons (gives_bool d.isInclusive).orElse <| .nil d)
    (by decide) rfl

/-- The numbers of bounds on a value fit. -/
def ValueRangeDecl.fits (d : ValueRangeDecl) : Bool := d.span.all Span.fits

theorem ValueRangeDecl.gives {d : ValueRangeDecl} (h : d.fits) :
    Gives ValueRangeDecl.ofJson? d.toJson d :=
  gives_object (fun _ => rfl)
    (.cons (fieldGives_orNull fun b _ => BoundDecl.gives b) <|
      .cons (fieldGives_orNull fun b _ => BoundDecl.gives b) <|
      .cons (fieldGives_orNull_of_all Span.gives h) <| .nil d)
    (by decide) rfl

/-- The numbers of an admitted value fit. -/
def EnumItemDecl.fits (d : EnumItemDecl) : Bool := d.name.all Ident.fits && d.span.all Span.fits

theorem EnumItemDecl.gives {d : EnumItemDecl} (h : d.fits) :
    Gives EnumItemDecl.ofJson? d.toJson d := by
  simp only [fits, Bool.and_eq_true] at h
  exact gives_object (fun _ => rfl)
    (.cons (fieldGives_orNull_of_all Ident.gives h.1) <| .cons (gives_string d.literal).required <|
      .cons (fieldGives_orNull_of_all Span.gives h.2) <| .nil d)
    (by decide) rfl

/-- The numbers of a list of admitted values fit. -/
def EnumBlock.fits (d : EnumBlock) : Bool := d.items.all EnumItemDecl.fits && d.span.all Span.fits

theorem EnumBlock.gives {d : EnumBlock} (h : d.fits) : Gives EnumBlock.ofJson? d.toJson d := by
  simp only [fits, Bool.and_eq_true] at h
  exact gives_object (fun _ => rfl)
    (.cons (gives_list_of_all EnumItemDecl.gives h.1).orElse <|
      .cons (fieldGives_orNull_of_all Span.gives h.2) <| .nil d)
    (by decide) rfl

/-- The numbers of a pattern fit. -/
def PatternDecl.fits (d : PatternDecl) : Bool := d.span.all Span.fits

theorem PatternDecl.gives {d : PatternDecl} (h : d.fits) :
    Gives PatternDecl.ofJson? d.toJson d :=
  gives_object (fun _ => rfl)
    (.cons (gives_string d.pattern).required <| .cons (fieldGives_orNull_of_all Span.gives h) <|
      .nil d)
    (by decide) rfl

/-- The numbers of facets fit. -/
def FacetBlock.fits (b : FacetBlock) : Bool :=
  b.lengthRange.all LengthRangeDecl.fits && b.precision.all CountDecl.fits &&
    b.scale.all CountDecl.fits && b.valueRange.all ValueRangeDecl.fits &&
    b.enums.all EnumBlock.fits && b.patterns.all PatternDecl.fits &&
    b.itemType.all NameRef.fits && b.span.all Span.fits

theorem FacetBlock.gives {b : FacetBlock} (h : b.fits) : Gives FacetBlock.ofJson? b.toJson b := by
  simp only [fits, Bool.and_eq_true] at h
  obtain ⟨⟨⟨⟨⟨⟨⟨hlength, hprecision⟩, hscale⟩, hvalues⟩, henums⟩, hpatterns⟩, hitem⟩, hspan⟩ := h
  exact gives_object (fun _ => rfl)
    (.cons (fieldGives_orNull_of_all LengthRangeDecl.gives hlength) <|
      .cons (fieldGives_orNull_of_all CountDecl.gives hprecision) <|
      .cons (fieldGives_orNull_of_all CountDecl.gives hscale) <|
      .cons (fieldGives_orNull_of_all ValueRangeDecl.gives hvalues) <|
      .cons (gives_list_of_all EnumBlock.gives henums).orElse <|
      .cons (gives_list_of_all PatternDecl.gives hpatterns).orElse <|
      .cons (fieldGives_orNull_of_all NameRef.gives hitem) <|
      .cons (fieldGives_orNull_of_all Span.gives hspan) <| .nil b)
    (by decide) rfl

/-! ## Members of a namespace -/

/-- The numbers of the body of a type fit. -/
def TypeBody.fits : TypeBody → Bool
  | .list item => item.fits
  | .complex attributes children =>
    attributes.all AttributeBlock.fits && children.all ChildrenDecl.fits
  | .extension base attributes children =>
    base.fits && attributes.all AttributeBlock.fits && children.all ChildrenDecl.fits
  | .restriction base facets attributes children =>
    base.fits && facets.all FacetBlock.fits && attributes.all AttributeBlock.fits &&
      children.all ChildrenDecl.fits

theorem TypeBody.gives {b : TypeBody} (h : b.fits) : Gives TypeBody.ofJson? b.toJson b := by
  cases b with
  | list item =>
    refine gives_variant 0 (fun _ => rfl) ?_ rfl (by simp)
    exact gives_object (fun _ => rfl)
      (.cons (NameRef.gives h).required <| .nil (TypeBody.list item)) (by decide) rfl
  | complex attributes children =>
    simp only [fits, Bool.and_eq_true] at h
    refine gives_variant 1 (fun _ => rfl) ?_ rfl (by simp)
    exact gives_object (fun _ => rfl)
      (.cons (fieldGives_orNull_of_all AttributeBlock.gives h.1) <|
        .cons (fieldGives_orNull_of_all ChildrenDecl.gives h.2) <|
        .nil (TypeBody.complex attributes children))
      (by decide) rfl
  | extension base attributes children =>
    simp only [fits, Bool.and_eq_true] at h
    refine gives_variant 2 (fun _ => rfl) ?_ rfl (by simp)
    exact gives_object (fun _ => rfl)
      (.cons (NameRef.gives h.1.1).required <|
        .cons (fieldGives_orNull_of_all AttributeBlock.gives h.1.2) <|
        .cons (fieldGives_orNull_of_all ChildrenDecl.gives h.2) <|
        .nil (TypeBody.extension base attributes children))
      (by decide) rfl
  | restriction base facets attributes children =>
    simp only [fits, Bool.and_eq_true] at h
    refine gives_variant 3 (fun _ => rfl) ?_ rfl (by simp)
    exact gives_object (fun _ => rfl)
      (.cons (NameRef.gives h.1.1.1).required <|
        .cons (fieldGives_orNull_of_all FacetBlock.gives h.1.1.2) <|
        .cons (fieldGives_orNull_of_all AttributeBlock.gives h.1.2) <|
        .cons (fieldGives_orNull_of_all ChildrenDecl.gives h.2) <|
        .nil (TypeBody.restriction base facets attributes children))
      (by decide) rfl

/-- The numbers of a member of a namespace fit. -/
def MemberDecl.fits : MemberDecl → Bool
  | .type d => d.name.fits && d.body.fits
  | .attr d => d.name.fits && d.type.fits && d.span.all Span.fits
  | .element d =>
    d.name.fits && d.type.fits && d.substitutes.all NameRef.fits && d.span.all Span.fits

theorem MemberDecl.gives {m : MemberDecl} (h : m.fits) :
    Gives MemberDecl.ofJson? m.toJson m := by
  cases m with
  | type d =>
    simp only [fits, Bool.and_eq_true] at h
    refine gives_variant 0 (fun _ => rfl) (Gives.map (a := d) ?_ type) rfl (by simp)
    exact gives_object (fun _ => rfl)
      (.cons (Ident.gives h.1).required <| .cons (gives_bool d.isAbstract).orElse <|
        .cons (gives_bool d.isSealed).orElse <| .cons (TypeBody.gives h.2).required <| .nil d)
      (by decide) rfl
  | attr d =>
    simp only [fits, Bool.and_eq_true] at h
    refine gives_variant 1 (fun _ => rfl) (Gives.map (a := d) ?_ attr) rfl (by simp)
    exact gives_object (fun _ => rfl)
      (.cons (Ident.gives h.1.1).required <| .cons (NameRef.gives h.1.2).required <|
        .cons (gives_bool d.isNullable).orElse <|
        .cons (fieldGives_orNull fun s _ => gives_string s) <|
        .cons (fieldGives_orNull_of_all Span.gives h.2) <| .nil d)
      (by decide) rfl
  | element d =>
    simp only [fits, Bool.and_eq_true] at h
    refine gives_variant 2 (fun _ => rfl) (Gives.map (a := d) ?_ element) rfl (by simp)
    exact gives_object (fun _ => rfl)
      (.cons (Ident.gives h.1.1.1).required <| .cons (NameRef.gives h.1.1.2).required <|
        .cons (gives_bool d.isNullable).orElse <| .cons (gives_bool d.isAbstract).orElse <|
        .cons (gives_bool d.isSealed).orElse <|
        .cons (fieldGives_orNull_of_all NameRef.gives h.1.2) <|
        .cons (fieldGives_orNull_of_all Span.gives h.2) <| .nil d)
      (by decide) rfl

/-- The numbers of an import fit. -/
def ImportDecl.fits (d : ImportDecl) : Bool := d.aliasName.all Ident.fits && d.span.all Span.fits

theorem ImportDecl.gives {d : ImportDecl} (h : d.fits) : Gives ImportDecl.ofJson? d.toJson d := by
  simp only [fits, Bool.and_eq_true] at h
  exact gives_object (fun _ => rfl)
    (.cons (gives_string d.uri).required <| .cons (fieldGives_orNull_of_all Ident.gives h.1) <|
      .cons (fieldGives_orNull_of_all Span.gives h.2) <| .nil d)
    (by decide) rfl

/-- The numbers of a namespace fit. -/
def NamespaceDecl.fits (d : NamespaceDecl) : Bool :=
  d.span.all Span.fits && d.imports.all ImportDecl.fits && d.members.all MemberDecl.fits

theorem NamespaceDecl.gives {d : NamespaceDecl} (h : d.fits) :
    Gives NamespaceDecl.ofJson? d.toJson d := by
  simp only [fits, Bool.and_eq_true] at h
  exact gives_object (fun _ => rfl)
    (.cons (gives_string d.uri).required <| .cons (fieldGives_orNull_of_all Span.gives h.1.1) <|
      .cons (gives_list_of_all ImportDecl.gives h.1.2).orElse <|
      .cons (gives_list_of_all MemberDecl.gives h.2).orElse <| .nil d)
    (by decide) rfl

/-! ## Texts -/

/-- An array that does not start with a string is no namespace: the first field is one. -/
theorem NamespaceDecl.ofJson?_array {js : List Json} (h : ∀ j ∈ js.head?, j.string? = none) :
    NamespaceDecl.ofJson? (.array js) = none := by
  rw [ofJson?, Json.record?]
  by_cases hle : js.length ≤ ["uri", "span", "imports", "members"].length
  · rw [if_pos hle]
    cases js with
    | nil => rfl
    | cons j js =>
      have huri : required Json.string? (some j) = none := h j rfl
      simp only [List.map_cons, List.cons_append, Option.bind_eq_bind, Option.bind_some]
      split
      · rename_i hfields
        rw [← (List.cons.inj hfields).1, huri, Option.bind_none]
      · rfl
  · rw [if_neg hle]
    rfl

theorem namespacesOfJson?_namespacesToJson {ds : List NamespaceDecl}
    (h : ds.all NamespaceDecl.fits) : namespacesOfJson? (namespacesToJson ds) = some ds := by
  have hnone : NamespaceDecl.ofJson? (namespacesToJson ds) = none :=
    NamespaceDecl.ofJson?_array fun j hj => by
      obtain ⟨d, -, rfl⟩ := List.mem_map.1 (List.mem_of_mem_head? hj)
      rfl
  rw [namespacesOfJson?, hnone]
  exact (gives_list_of_all NamespaceDecl.gives h).read_eq

theorem namespacesOfJson?_toJson {d : NamespaceDecl} (h : d.fits) :
    namespacesOfJson? d.toJson = some [d] := by
  rw [namespacesOfJson?, (NamespaceDecl.gives h).read_eq]
  rfl

theorem readNamespaces_of_exact {j : Json} {ds : List NamespaceDecl} (hj : j.Exact)
    (h : namespacesOfJson? j = some ds) (style : Json.Style) :
    readNamespaces (j.text style) =
      if j.depth ≤ nestingBound then .ok ds else .error .noJson := by
  rw [readNamespaces, Json.readFront_text hj]
  by_cases hdepth : j.depth ≤ nestingBound
  · rw [if_pos hdepth, if_pos hdepth]
    simp only [h]
    rfl
  · rw [if_neg hdepth, if_neg hdepth]

/-- The text of an array of namespaces is read back as these namespaces, and the text of any one
of them as this one, in every style; a text that nests deeper than the bound is refused. -/
theorem readNamespaces_text {ds : List NamespaceDecl} (h : ds.all NamespaceDecl.fits)
    (style : Json.Style) :
    readNamespaces ((namespacesToJson ds).text style) =
        (if (namespacesToJson ds).depth ≤ nestingBound then .ok ds else .error .noJson) ∧
      ∀ d ∈ ds, readNamespaces (d.toJson.text style) =
        if d.toJson.depth ≤ nestingBound then .ok [d] else .error .noJson := by
  refine ⟨readNamespaces_of_exact (gives_list_of_all NamespaceDecl.gives h).exact
    (namespacesOfJson?_namespacesToJson h) style, fun d hd => ?_⟩
  have hfits := List.all_eq_true.1 h d hd
  exact readNamespaces_of_exact (NamespaceDecl.gives hfits).exact (namespacesOfJson?_toJson hfits)
    style

/-- A box of records in an archive, with a note whose default takes two lines, a set in a set, the
greatest count and the last line there can be. An empty namespace comes first. -/
def archive : List NamespaceDecl :=
  let place : Span := ⟨"boxes \"A\"\\1.json", ⟨1 <<< 32 - 1, 1⟩, ⟨1 <<< 32 - 1, 12⟩⟩
  let text (name : String) : Ident := ⟨name, none⟩
  let record : ChildItem := .element
    { name := text "record", type := .ofText "arc:Code", occurs := some ⟨0, 1 <<< 64 - 1, some place⟩ }
  let box : TypeBody := .complex
    (some { items := [
      .declared { name := text "note", type := .ofText "String", defaultValue := some "kept\ndry" },
      .delete { name := text "mark" }] })
    (some (.set { kind := .sequence, items := [
      .set (some (text "content")) .choice [record, .reference { reference := .ofText "scan" }]
        none none] }))
  let code : TypeBody := .restriction (.ofText "String")
    (some { lengthRange := some { greatest := some 8 }, patterns := [{ pattern := "[A-Z]\t*" }] })
    none none
  [{ uri := "" },
    { uri := "urn:archive"
      span := some place
      imports := [{ uri := "urn:archive", aliasName := some (text "arc") }]
      members := [
        .type { name := text "Box", body := box },
        .type { name := text "Code", isSealed := true, body := code },
        .element { name := text "scan", type := .ofText "Code" }] }]

theorem archive_read_back : archive.all NamespaceDecl.fits ∧ ∀ style : Json.Style,
    readNamespaces ((namespacesToJson archive).text style) = .ok archive ∧
    ∀ d ∈ archive, readNamespaces (d.toJson.text style) = .ok [d] := by
  have hfits : archive.all NamespaceDecl.fits := by decide
  have hdepth : (namespacesToJson archive).depth ≤ nestingBound := by decide
  refine ⟨hfits, fun style => ?_⟩
  obtain ⟨hall, heach⟩ := readNamespaces_text hfits style
  refine ⟨hall.trans (if_pos hdepth), fun d hd => (heach d hd).trans (if_pos ?_)⟩
  exact Nat.le_trans (Nat.le_of_lt (Json.depth_lt_of_mem_items (List.mem_map_of_mem hd))) hdepth

end Schemata
