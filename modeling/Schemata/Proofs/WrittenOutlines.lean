import Schemata.Outline.Reader
import Schemata.Outline.Writer
import Schemata.Proofs.Records

/-!
# Outlines that were written

Every outline is read back as it was written, in both layouts (`Outline.read?_text_eq`). What is
absent is left out, and so are two lists if they are empty; the fields that are there are those of
`Json.given`, and reading restores what is missing. Members and sets contain one another, and are
read within as many levels as what was written is deep (`MemberOutline.gives`).
-/

namespace Schemata

open Json (Gives FieldGives FieldsGive given required optional orElse listOf gives_record
  gives_object gives_variant gives_string gives_bool gives_list fieldGives_map)

/-! ## Fields that are left out -/

theorem fieldIfSome_eq (name : String) (o : Option Json) :
    fieldIfSome name o = o.toList.map (name, ·) := by
  cases o <;> rfl

/-- An array, unless it is empty. -/
def unlessEmpty : List Json → Option Json
  | [] => none
  | js => some (.array js)

theorem fieldUnlessEmpty_eq (name : String) (js : List Json) :
    fieldUnlessEmpty name js = (unlessEmpty js).toList.map (name, ·) := by
  cases js <;> rfl

theorem fieldGives_unlessEmpty {α : Type} {read : Json → Option α} {write : α → Json}
    {as : List α} (h : ∀ a ∈ as, Gives read (write a) a) :
    FieldGives (orElse [] (listOf read)) (unlessEmpty (as.map write)) as := by
  cases as with
  | nil => exact ⟨nofun, rfl⟩
  | cons a as => exact (gives_list h).orElse

/-! ## Elements and attributes -/

theorem ElementOutline.gives (e : ElementOutline) :
    Gives ElementOutline.ofJson? (.object e.fields) e :=
  gives_record [some (.string e.name), some (.string e.typeName), some (.bool e.isNullable),
      some (.bool e.isAbstract), some (.bool e.isSealed), e.substitutes.map .string,
      e.references.map .string]
    (fun _ => rfl)
    (.cons (gives_string e.name).required <| .cons (gives_string e.typeName).required <|
      .cons (gives_bool e.isNullable).required <| .cons (gives_bool e.isAbstract).required <|
      .cons (gives_bool e.isSealed).required <|
      .cons (fieldGives_map fun s _ => gives_string s) <|
      .cons (fieldGives_map fun s _ => gives_string s) <| .nil e)
    (by decide) rfl (by simp [fields, given, fieldIfSome_eq])

theorem AttributeOutline.gives (a : AttributeOutline) :
    Gives AttributeOutline.ofJson? (.object a.fields) a :=
  gives_record [some (.string a.name), some (.string a.typeName), some (.bool a.isOptional),
      some (.bool a.isNullable), a.defaultValue.map .string]
    (fun _ => rfl)
    (.cons (gives_string a.name).required <| .cons (gives_string a.typeName).required <|
      .cons (gives_bool a.isOptional).required <| .cons (gives_bool a.isNullable).required <|
      .cons (fieldGives_map fun s _ => gives_string s) <| .nil a)
    (by decide) rfl (by simp [fields, given, fieldIfSome_eq])

/-! ## Child sets -/

theorem membersToJson_eq_map (members : List MemberOutline) :
    membersToJson members = members.map MemberOutline.toJson := by
  induction members with
  | nil => rfl
  | cons m ms ih => rw [membersToJson, List.map_cons, ih]

theorem depth_lt_of_mem_members (kind : String) {members : List MemberOutline} {m : MemberOutline}
    (h : m ∈ members) : m.toJson.depth < (SetOutline.mk kind members).toJson.depth := by
  rw [SetOutline.toJson, membersToJson_eq_map]
  calc m.toJson.depth
    _ < (Json.array (members.map MemberOutline.toJson)).depth :=
      Json.depth_lt_of_mem_items (List.mem_map_of_mem h)
    _ < _ := Json.depth_lt_of_mem_members (m := ("members", _)) (by simp)

mutual

/-- A member is read within as many levels as what was written for it is deep. -/
theorem MemberOutline.gives : ∀ {m : MemberOutline} {levels : Nat}, m.toJson.depth ≤ levels →
    Gives (MemberOutline.read levels) m.toJson m
  | .mk .., 0, hdepth => absurd hdepth (Nat.not_succ_le_zero _)
  | .mk name isOptional element set item occurs, levels + 1, hdepth => by
    rw [MemberOutline.toJson] at hdepth ⊢
    have hset : ∀ j ∈ setToJson? set, j.depth ≤ levels := fun j hj =>
      Nat.le_of_lt_succ <| Nat.lt_of_lt_of_le (Json.depth_lt_of_mem_members (m := ("set", j))
        (by simp [fieldIfSome_eq, Option.mem_def.1 hj])) hdepth
    have hitem : ∀ j ∈ memberToJson? item, j.depth ≤ levels := fun j hj =>
      Nat.le_of_lt_succ <| Nat.lt_of_lt_of_le (Json.depth_lt_of_mem_members (m := ("item", j))
        (by simp [fieldIfSome_eq, Option.mem_def.1 hj])) hdepth
    exact gives_record [some (.string name), some (.bool isOptional),
        element.map fun e => .object e.fields, setToJson? set, memberToJson? item,
        occurs.map .string]
      (fun _ => rfl)
      (.cons (gives_string name).required <| .cons (gives_bool isOptional).required <|
        .cons (fieldGives_map fun e _ => ElementOutline.gives e) <|
        .cons (setGives? hset) <| .cons (memberGives? hitem) <|
        .cons (fieldGives_map fun s _ => gives_string s) <|
        .nil (MemberOutline.mk name isOptional element set item occurs))
      (by decide) rfl (by simp [given, fieldIfSome_eq])

/-- A set is read if its members are read within a number of levels. -/
theorem SetOutline.gives : ∀ {s : SetOutline} {levels : Nat}, s.toJson.depth ≤ levels →
    Gives (SetOutline.read (MemberOutline.read levels)) s.toJson s
  | .mk kind members, levels, hdepth => by
    have hmembers := membersGive fun m hm =>
      Nat.le_trans (Nat.le_of_lt (depth_lt_of_mem_members kind hm)) hdepth
    rw [SetOutline.toJson, membersToJson_eq_map]
    exact gives_object (fun _ => rfl)
      (.cons (gives_string kind).required <| .cons (gives_list hmembers).required <|
        .nil (SetOutline.mk kind members))
      (by decide) rfl

/-- The same for every member of a list. -/
theorem membersGive : ∀ {members : List MemberOutline} {levels : Nat},
    (∀ m ∈ members, m.toJson.depth ≤ levels) →
    ∀ m ∈ members, Gives (MemberOutline.read levels) m.toJson m
  | [], _, _, _, hm => absurd hm List.not_mem_nil
  | n :: members, levels, hdepth, m, hm => by
    rcases List.mem_cons.1 hm with heq | hm
    · rw [heq]
      exact MemberOutline.gives (hdepth n List.mem_cons_self)
    · exact membersGive (fun m hm => hdepth m (List.mem_cons_of_mem n hm)) m hm

/-- The same for a member that may be absent. -/
theorem memberGives? : ∀ {o : Option MemberOutline} {levels : Nat},
    (∀ j ∈ memberToJson? o, j.depth ≤ levels) →
    FieldGives (optional (MemberOutline.read levels)) (memberToJson? o) o
  | none, _, _ => ⟨nofun, rfl⟩
  | some _, _, hdepth => (MemberOutline.gives (hdepth _ rfl)).optional

/-- The same for a set that may be absent. -/
theorem setGives? : ∀ {o : Option SetOutline} {levels : Nat},
    (∀ j ∈ setToJson? o, j.depth ≤ levels) →
    FieldGives (optional (SetOutline.read (MemberOutline.read levels))) (setToJson? o) o
  | none, _, _ => ⟨nofun, rfl⟩
  | some _, _, hdepth => (SetOutline.gives (hdepth _ rfl)).optional

end

theorem SetOutline.ofJson?_gives (s : SetOutline) : Gives SetOutline.ofJson? s.toJson s :=
  have h := SetOutline.gives (s := s) (Nat.le_refl _)
  ⟨h.exact, h.ne_null, h.read_eq⟩

/-! ## Symbols -/

theorem facet_gives (f : String × String) : Gives facetOfJson? (facetToJson f) f :=
  ⟨Json.exact_array.2 (by simp [Json.Exact]), nofun, rfl⟩

theorem TypeOutline.gives (t : TypeOutline) : Gives TypeOutline.ofJson? (.object t.fields) t :=
  gives_record [some (.string t.name), some (.string t.kind), t.base.map .string,
      t.derivation.map .string, some (.bool t.isAbstract), some (.bool t.isSealed),
      unlessEmpty (t.facets.map facetToJson), t.itemType.map .string,
      unlessEmpty (t.attributes.map fun a => .object a.fields), t.simpleContent.map .string,
      t.children.map SetOutline.toJson]
    (fun _ => rfl)
    (.cons (gives_string t.name).required <| .cons (gives_string t.kind).required <|
      .cons (fieldGives_map fun s _ => gives_string s) <|
      .cons (fieldGives_map fun s _ => gives_string s) <|
      .cons (gives_bool t.isAbstract).required <| .cons (gives_bool t.isSealed).required <|
      .cons (fieldGives_unlessEmpty fun f _ => facet_gives f) <|
      .cons (fieldGives_map fun s _ => gives_string s) <|
      .cons (fieldGives_unlessEmpty fun a _ => AttributeOutline.gives a) <|
      .cons (fieldGives_map fun s _ => gives_string s) <|
      .cons (fieldGives_map fun s _ => SetOutline.ofJson?_gives s) <| .nil t)
    (by decide) rfl (by simp [fields, given, fieldIfSome_eq, fieldUnlessEmpty_eq])

theorem SymbolOutline.gives (symbol : SymbolOutline) :
    Gives SymbolOutline.ofJson? symbol.toJson symbol := by
  cases symbol with
  | type t =>
    exact gives_variant 0 (fun _ => rfl) ((TypeOutline.gives t).map type) rfl
      (by simp [TypeOutline.fields, fieldIfSome_eq, fieldUnlessEmpty_eq])
  | attr a =>
    exact gives_variant 1 (fun _ => rfl) ((AttributeOutline.gives a).map attr) rfl
      (by simp [AttributeOutline.fields, fieldIfSome_eq])
  | element e =>
    exact gives_variant 2 (fun _ => rfl) ((ElementOutline.gives e).map element) rfl
      (by simp [ElementOutline.fields, fieldIfSome_eq])

theorem NamespaceOutline.gives (ns : NamespaceOutline) :
    Gives NamespaceOutline.ofJson? ns.toJson ns :=
  gives_object (fun _ => rfl)
    (.cons (gives_string ns.uri).required <|
      .cons (gives_list fun symbol _ => SymbolOutline.gives symbol).required <| .nil ns)
    (by decide) rfl

namespace Outline

theorem gives (o : Outline) : Gives ofJson? o.toJson o :=
  gives_object (fun _ => rfl)
    (.cons (gives_list fun ns _ => NamespaceOutline.gives ns).required <| .nil o)
    (by decide) rfl

theorem text_eq (o : Outline) (pretty : Bool) :
    o.text pretty = o.toJson.text (if pretty then .indented 0 else .compact) := by
  cases pretty with
  | false => exact o.toJson.compact_eq_text
  | true => exact o.toJson.pretty_eq_text

/-- The text of an outline is read back as the outline, in both layouts; a text that nests deeper
than the bound is refused. -/
theorem read?_text_eq (o : Outline) (pretty : Bool) :
    read? (o.text pretty) = if o.toJson.depth ≤ nestingBound then some o else none := by
  rw [read?, text_eq, Json.read?_text o.gives.exact]
  split
  · rw [Option.bind_some, o.gives.read_eq]
  · rfl

end Outline

end Schemata
