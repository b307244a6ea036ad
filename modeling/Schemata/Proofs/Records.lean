import Schemata.Declaration.Reader
import Schemata.Declaration.Writer
import Schemata.Proofs.JsonTexts

/-!
# Records that were written

A reader of records does three things: it takes an object apart into fields, reads each field and
puts the results together. `Json.Gives` says that a reader gets a value from a written form. A
record gives its value if every field does (`Json.gives_record`), and a tagged one if the variant
does that its tag names (`Json.gives_variant`).

The relation holds two more facts that a larger record needs of its parts. Only integers of 64 bits
were written, and nothing was written as null, as null in an optional field means that it is absent.
-/

namespace Schemata.Json

variable {α β : Type}

/-! ## Values -/

/-- A reader gets a value from a written form. -/
structure Gives (read : Json → Option α) (j : Json) (a : α) : Prop where
  exact : j.Exact
  ne_null : j ≠ .null
  read_eq : read j = some a

theorem gives_string (s : String) : Gives string? (.string s) s :=
  ⟨trivial, nofun, rfl⟩

theorem gives_bool (b : Bool) : Gives bool? (.bool b) b :=
  ⟨trivial, nofun, rfl⟩

theorem gives_natural {bound n : Nat} (hbound : bound ≤ 1 <<< 64) (h : n < bound) :
    Gives (naturalBelow bound) (.ofNat n) n where
  exact := exact_ofNat (Nat.lt_of_lt_of_le h hbound)
  ne_null := nofun
  read_eq := by
    rw [naturalBelow, ofNat, natural?, if_pos (Int.natCast_nonneg n), Option.bind_some,
      Int.toNat_natCast, if_pos h]

theorem Gives.map {read : Json → Option α} {j : Json} {a : α} (h : Gives read j a) (f : α → β) :
    Gives (fun j => (read j).map f) j (f a) :=
  ⟨h.exact, h.ne_null, by rw [h.read_eq, Option.map_some]⟩

theorem gives_list {read : Json → Option α} {write : α → Json} {as : List α}
    (h : ∀ a ∈ as, Gives read (write a) a) : Gives (listOf read) (.array (as.map write)) as where
  exact := by
    rw [exact_array, List.forall_mem_map]
    exact fun a ha => (h a ha).exact
  ne_null := nofun
  read_eq := by
    rw [listOf, items?, Option.bind_some]
    induction as with
    | nil => rfl
    | cons a as ih =>
      rw [List.map_cons, List.mapM_cons, (h a List.mem_cons_self).read_eq,
        ih fun b hb => h b (List.mem_cons_of_mem a hb)]
      rfl

theorem gives_list_of_all {read : Json → Option α} {write : α → Json} {p : α → Bool}
    (hp : ∀ {a}, p a → Gives read (write a) a) {as : List α} (h : as.all p) :
    Gives (listOf read) (.array (as.map write)) as :=
  gives_list fun _ ha => hp (List.all_eq_true.1 h _ ha)

/-! ## Fields -/

/-- A reader gets a value from a field, which may be left out. -/
structure FieldGives (read : Option Json → Option α) (field : Option Json) (a : α) : Prop where
  exact : ∀ j ∈ field, j.Exact
  read_eq : read field = some a

section Fields

variable {read : Json → Option α} {write : α → Json} {j : Json} {a default : α}

theorem Gives.required (h : Gives read j a) : FieldGives (required read) (some j) a :=
  ⟨by simpa using h.exact, h.read_eq⟩

theorem Gives.orElse (h : Gives read j a) : FieldGives (orElse default read) (some j) a :=
  ⟨by simpa using h.exact, h.read_eq⟩

theorem Gives.optional (h : Gives read j a) : FieldGives (optional read) (some j) (some a) where
  exact := by simpa using h.exact
  read_eq := by
    have hne := h.ne_null
    rw [Json.optional]
    · rw [h.read_eq, Option.map_some]
    · exact hne

/-- A field that is null if there is nothing to write. -/
theorem fieldGives_orNull {o : Option α} (h : ∀ a ∈ o, Gives read (write a) a) :
    FieldGives (optional read) (some (orNull write o)) o := by
  cases o with
  | none => exact ⟨by simp [orNull, Exact], rfl⟩
  | some a => exact (h a rfl).optional

theorem fieldGives_orNull_of_all {p : α → Bool} (hp : ∀ {a}, p a → Gives read (write a) a)
    {o : Option α} (h : o.all p) : FieldGives (Json.optional read) (some (orNull write o)) o :=
  fieldGives_orNull fun _ ha => hp ((Option.all_eq_true ..).1 h _ ha)

/-- A field that is left out if there is nothing to write. -/
theorem fieldGives_map {o : Option α} (h : ∀ a ∈ o, Gives read (write a) a) :
    FieldGives (optional read) (o.map write) o := by
  cases o with
  | none => exact ⟨nofun, rfl⟩
  | some a => exact (h a rfl).optional

end Fields

/-! ## Records -/

/-- The members of an object, of which some may be left out. -/
def given : List String → List (Option Json) → List (String × Json)
  | name :: names, value :: values => value.toList.map (name, ·) ++ given names values
  | _, _ => []

theorem mem_given {names : List String} {values : List (Option Json)} {m : String × Json}
    (h : m ∈ given names values) : m.1 ∈ names ∧ some m.2 ∈ values := by
  induction names generalizing values with
  | nil => cases values <;> cases h
  | cons name names ih =>
    cases values with
    | nil => cases h
    | cons value values =>
      rw [given, List.mem_append, List.mem_map] at h
      rcases h with ⟨j, hj, rfl⟩ | h
      · exact ⟨List.mem_cons_self, List.mem_cons.2 (.inl (Option.mem_toList.1 hj).symm)⟩
      · exact ⟨List.mem_cons_of_mem _ (ih h).1, List.mem_cons_of_mem _ (ih h).2⟩

theorem filter_eq_nil_of_not_mem {name : String} {members : List (String × Json)}
    (h : name ∉ members.map Prod.fst) : members.filter (·.1 == name) = [] := by
  rw [List.filter_eq_nil_iff]
  intro m hm heq
  exact h (List.mem_map.2 ⟨m, hm, beq_iff_eq.1 heq⟩)

theorem not_mem_given {name : String} {names : List String} {values : List (Option Json)}
    (h : name ∉ names) : name ∉ (given names values).map Prod.fst := by
  rw [List.mem_map]
  rintro ⟨m, hm, rfl⟩
  exact h (mem_given hm).1

theorem single?_given {name : String} (value : Option Json) {before after : List (String × Json)}
    (hbefore : name ∉ before.map Prod.fst) (hafter : name ∉ after.map Prod.fst) :
    single? name (before ++ (value.toList.map (name, ·) ++ after)) = some value := by
  have hvalue : (value.toList.map (name, ·)).filter (·.1 == name) =
      value.toList.map (name, ·) := by
    rw [List.filter_eq_self, List.forall_mem_map]
    exact fun j _ => beq_self_eq_true name
  rw [single?, List.filter_append, List.filter_append, filter_eq_nil_of_not_mem hbefore,
    filter_eq_nil_of_not_mem hafter, hvalue]
  cases value <;> rfl

/-- Each name finds the value that was given for it. -/
theorem mapM_single?_given {names : List String} {values : List (Option Json)}
    (before : List (String × Json)) (hnames : names.Nodup) (hlength : names.length = values.length)
    (hbefore : ∀ name ∈ names, name ∉ before.map Prod.fst) :
    names.mapM (single? · (before ++ given names values)) = some values := by
  induction names generalizing values before with
  | nil =>
    rw [List.length_nil] at hlength
    rw [List.eq_nil_of_length_eq_zero hlength.symm]
    rfl
  | cons name names ih =>
    obtain ⟨value, values, rfl⟩ := List.exists_cons_of_length_eq_add_one hlength.symm
    rw [List.nodup_cons] at hnames
    have hrest : names.mapM (single? · (before ++ value.toList.map (name, ·) ++
        given names values)) = some values := by
      refine ih _ hnames.2 (Nat.succ.inj hlength) fun other hother hmem => ?_
      rw [List.map_append, List.mem_append] at hmem
      rcases hmem with hmem | hmem
      · exact hbefore other (List.mem_cons_of_mem _ hother) hmem
      · simp only [List.map_map, List.mem_map] at hmem
        obtain ⟨_, _, rfl⟩ := hmem
        exact hnames.1 hother
    rw [List.append_assoc] at hrest
    rw [List.mapM_cons, given, hrest,
      single?_given value (hbefore name List.mem_cons_self) (not_mem_given hnames.1)]
    rfl

theorem record?_given {names : List String} {values : List (Option Json)} (hnames : names.Nodup)
    (hlength : names.length = values.length) :
    record? names (.object (given names values)) = some values :=
  mapM_single?_given [] hnames hlength fun _ _ => List.not_mem_nil

/-- Fields whose values give a result one after another. -/
structure FieldsGive (values : List (Option Json)) (result : Option α) (a : α) : Prop where
  exact : ∀ j, some j ∈ values → j.Exact
  result_eq : result = some a

theorem FieldsGive.nil (a : α) : FieldsGive [] (some a) a := ⟨nofun, rfl⟩

theorem FieldsGive.cons {read : Option Json → Option α} {field : Option Json} {a : α}
    {values : List (Option Json)} {f : α → Option β} {b : β} (h : FieldGives read field a)
    (hrest : FieldsGive values (f a) b) :
    FieldsGive (field :: values) ((read field).bind f) b where
  exact j hj := (List.mem_cons.1 hj).elim (fun hj => h.exact j hj.symm) (hrest.exact j)
  result_eq := by rw [h.read_eq, Option.bind_some, hrest.result_eq]

/-- A reader of records gets from an object what its fields give. -/
theorem gives_record {read : Json → Option α} {names : List String}
    {f : List (Option Json) → Option α} {members : List (String × Json)} {a : α}
    (values : List (Option Json)) (hread : ∀ j, read j = (record? names j).bind f)
    (h : FieldsGive values (f values) a) (hnames : names.Nodup)
    (hlength : names.length = values.length) (hmembers : members = given names values) :
    Gives read (.object members) a where
  exact := exact_object.2 fun m hm => h.exact m.2 (mem_given (hmembers ▸ hm)).2
  ne_null := nofun
  read_eq := by
    rw [hmembers, hread, record?_given hnames hlength, Option.bind_some, h.result_eq]

theorem given_of_members (members : List (String × Json)) :
    given (members.map (·.1)) (members.map (some ·.2)) = members := by
  induction members with
  | nil => rfl
  | cons m members ih => exact congrArg (m :: ·) ih

/-- The same for an object with every field. -/
theorem gives_object {read : Json → Option α} {names : List String}
    {f : List (Option Json) → Option α} {members : List (String × Json)} {a : α}
    (hread : ∀ j, read j = (record? names j).bind f)
    (h : FieldsGive (members.map (some ·.2)) (f (members.map (some ·.2))) a)
    (hnames : names.Nodup) (hmembers : members.map (·.1) = names) :
    Gives read (.object members) a := by
  subst hmembers
  exact gives_record _ hread h hnames (by simp) (given_of_members members).symm

/-! ## Variants -/

theorem tagged?_withTag {tag variant : String} {variants : List String} {n : Nat}
    {fields : List (String × Json)} (htag : tag ∉ fields.map Prod.fst)
    (hvariant : variants.idxOf? variant = some n) :
    tagged? tag variants (.withTag tag variant fields) = some (n, .object fields) := by
  have hsingle : single? tag ([] ++ ([(tag, .string variant)] ++ fields)) =
      some (some (.string variant)) :=
    single?_given (some (.string variant)) List.not_mem_nil htag
  have hrest : ((tag, Json.string variant) :: fields).filter (·.1 != tag) = fields := by
    rw [List.filter_cons_of_neg (by simp), List.filter_eq_self]
    intro m hm
    rw [bne_iff_ne]
    rintro rfl
    exact htag (List.mem_map_of_mem hm)
  rw [List.nil_append, List.singleton_append] at hsingle
  rw [withTag, tagged?, hrest, hsingle]
  simp [variant?, hvariant]

/-- A reader of tagged records gets what it gets from the fields of the variant. -/
theorem gives_variant {read : Json → Option α} {tag variant : String} {variants : List String}
    {f : Nat × Json → Option α} {fields : List (String × Json)} {a : α} (n : Nat)
    (hread : ∀ j, read j = (tagged? tag variants j).bind f)
    (h : Gives (fun j => f (n, j)) (.object fields) a)
    (hvariant : variants.idxOf? variant = some n) (htag : tag ∉ fields.map Prod.fst) :
    Gives read (.withTag tag variant fields) a where
  exact := exact_object.2 <| List.forall_mem_cons.2 ⟨trivial, exact_object.1 h.exact⟩
  ne_null := nofun
  read_eq := by rw [hread, tagged?_withTag htag hvariant, Option.bind_some, h.read_eq]

end Schemata.Json
