import Schemata.Proofs.Compilation
import Schemata.Proofs.RestrictedContent

/-!
# What restrictions retain

A restriction that has a block retains what the block declares anew, in the order of the base, and
nothing else; so it is with its attributes and at every level of its children
(`retention_of_accepts`). A deletion has no say in this. A name that is deleted and not declared
anew is gone as any other name that is not spoken of, and one that is declared anew and deleted
further on in the same block stays.
-/

namespace Schemata

open Relation

/-! ## What entries select -/

namespace Entry

theorem keeps_ne_deletes (m n : String) : keeps m ≠ deletes n := nofun

/-- What entries of a block say is in order, when some names were spoken of before: they speak of
names of the base, and keep no name that was spoken of. -/
structure Suit (base mentioned : List String) (entries : List Entry) : Prop where
  known : ∀ x ∈ entries, x.name ∈ base
  fresh : ∀ n ∈ mentioned, .keeps n ∉ entries
  once : entries.Pairwise fun x y => ∀ n, y = .keeps n → x.name ≠ n

theorem suit_nil (base mentioned : List String) : Suit base mentioned [] :=
  ⟨nofun, fun _ _ => nofun, .nil⟩

theorem Suit.cons {base mentioned : List String} {x : Entry} {entries : List Entry}
    (h : Suit base (x.name :: mentioned) entries) (known : x.name ∈ base)
    (fresh : ∀ n ∈ mentioned, x ≠ .keeps n) : Suit base mentioned (x :: entries) where
  known := List.forall_mem_cons.2 ⟨known, h.known⟩
  fresh n hn hmem := by
    rcases List.mem_cons.1 hmem with heq | hmem
    · exact fresh n hn heq.symm
    · exact h.fresh n (List.mem_cons_of_mem _ hn) hmem
  once := by
    refine List.pairwise_cons.2 ⟨fun y hy n hyn hxn => ?_, h.once⟩
    exact h.fresh n (hxn ▸ List.mem_cons_self) (hyn ▸ hy)

/-- What the entries of a block leave of the names of a base. -/
structure Selects (entries : List Entry) (base names : List String) : Prop where
  kept : names = base.filter fun n => .keeps n ∈ entries
  known : ∀ x ∈ entries, x.name ∈ base
  /-- A name that was spoken of is not kept any more. -/
  once : entries.Pairwise fun x y => ∀ n, y = .keeps n → x.name ≠ n
  /-- Names that are deleted are gone if and only if none of them is kept as well. -/
  undeleted : (names = base.filter fun n => .keeps n ∈ entries ∧ .deletes n ∉ entries) ↔
    ∀ n, .keeps n ∈ entries → .deletes n ∉ entries

theorem Suit.selects {base names : List String} {entries : List Entry}
    (h : Suit base [] entries) (hnames : names = base.filter fun n => .keeps n ∈ entries) :
    Selects entries base names := by
  refine ⟨hnames, h.known, h.once, fun heq n hkeeps => ?_, fun hall => ?_⟩
  · have hmem : n ∈ names := by
      rw [hnames, List.mem_filter]
      exact ⟨h.known _ hkeeps, decide_eq_true hkeeps⟩
    rw [heq, List.mem_filter] at hmem
    exact (of_decide_eq_true hmem.2).2
  · rw [hnames]
    refine List.filter_congr fun n _ => decide_eq_decide.2 ?_
    exact (and_iff_left_of_imp (hall n)).symm

end Entry

/-! ## Attributes -/

theorem Attribute.map_name_kept (base made : List Attribute) :
    (Attribute.kept base made).map Attribute.name =
      (base.map Attribute.name).filter (Attribute.isIn made) := by
  unfold Attribute.kept
  induction base with
  | nil => rfl
  | cons a base ih =>
    rw [List.filterMap_cons, List.map_cons, List.filter_cons, ← Attribute.isSome_find?]
    cases h : Attribute.find? made a.name with
    | none => exact ih
    | some x =>
      rw [List.map_cons, Attribute.name_of_find? h, ih]
      rfl

namespace AttributeItem.RestrictsEach

variable {s : Schema} {c : Catalog} {scope : Scope} {base made : List Attribute}
  {mentioned : List String} {items : List AttributeItem}

theorem exists_item (h : RestrictsEach s c scope base mentioned items made) :
    ∀ a ∈ made, ∃ item ∈ items, item.attribute? s c scope = some a := by
  induction h with
  | nil => exact nofun
  | delete allowed others ih =>
    intro a ha
    obtain ⟨item, hitem, hmakes⟩ := ih a ha
    exact ⟨item, List.mem_cons_of_mem _ hitem, hmakes⟩
  | @keep mentioned item rest a made makes fresh known others ih =>
    refine List.forall_mem_append.2 ⟨fun b hb => ?_, List.forall_mem_singleton.2
      ⟨item, List.mem_cons_self, makes⟩⟩
    obtain ⟨item', hitem, hmakes⟩ := ih b hb
    exact ⟨item', List.mem_cons_of_mem _ hitem, hmakes⟩

variable (hnames : ∀ (item : AttributeItem) a, item.attribute? s c scope = some a →
  item.entry = .keeps a.name)

include hnames

theorem isIn_iff (h : RestrictsEach s c scope base mentioned items made) (n : String) :
    Attribute.isIn made n ↔ .keeps n ∈ items.map AttributeItem.entry := by
  induction h with
  | nil => simp [Attribute.isIn]
  | delete allowed others ih =>
    rw [ih, List.map_cons, List.mem_cons]
    exact (or_iff_right (Entry.keeps_ne_deletes _ _)).symm
  | @keep _ _ _ a _ makes fresh known others ih =>
    have hkeeps : Entry.keeps n = .keeps a.name ↔ a.name = n := by
      rw [Entry.keeps.injEq, eq_comm]
    rw [List.map_cons, List.mem_cons, ← ih, hnames _ _ makes, hkeeps, or_comm]
    simp [Attribute.isIn]

theorem suit (h : RestrictsEach s c scope base mentioned items made) :
    Entry.Suit (base.map Attribute.name) mentioned (items.map AttributeItem.entry) := by
  have hmem : ∀ n, Attribute.isIn base n → n ∈ base.map Attribute.name := by
    simp [Attribute.isIn]
  induction h with
  | nil => exact Entry.suit_nil _ _
  | delete allowed others ih =>
    exact ih.cons (hmem _ (Attribute.isIn_of_deletionFaults allowed))
      fun n _ => (Entry.keeps_ne_deletes n _).symm
  | keep makes fresh known others ih =>
    rw [List.map_cons, hnames _ _ makes]
    refine ih.cons (hmem _ known) fun n hn heq => fresh ?_
    cases heq
    exact hn

theorem selects (h : RestrictsEach s c scope base [] items made) :
    Entry.Selects (items.map AttributeItem.entry) (base.map Attribute.name)
      ((Attribute.kept base made).map Attribute.name) := by
  refine (h.suit hnames).selects ?_
  rw [Attribute.map_name_kept]
  refine List.filter_congr fun n _ => ?_
  rw [Bool.eq_iff_iff, h.isIn_iff hnames, decide_eq_true_iff]

end AttributeItem.RestrictsEach

/-! ## The members of a set -/

theorem Member.map_name_kept (base made : List Member) :
    (Member.kept base made).map Member.name =
      (base.map Member.name).filter (Member.isIn made) := by
  have hnames : ∀ ms : List Member, (ms.mapIdx fun i m => m.atOrder i).map Member.name =
      ms.map Member.name := fun ms =>
    List.ext_getElem (by simp) fun i _ _ => by simp [name_atOrder]
  rw [Member.kept, hnames]
  induction base with
  | nil => rfl
  | cons m base ih =>
    rw [List.filterMap_cons, List.map_cons, List.filter_cons]
    cases h : Member.find? made m.name with
    | none =>
      have hnot : Member.isIn made m.name = false := by
        rw [Bool.eq_false_iff]
        intro hin
        obtain ⟨x, hx⟩ := Member.isIn_iff.1 hin
        cases h.symm.trans hx
      rw [hnot]
      exact ih
    | some x =>
      rw [List.map_cons, Member.name_of_find? h, ih, Member.isIn_iff.2 ⟨x, h⟩]
      rfl

namespace Member

/-- The members inside a member: those of a set, or of the set that a list repeats. -/
def inner? : Member → Option (List Member)
  | .element _ _ _ => none
  | .set _ _ members _ => some members
  | .list _ item _ => item.inner?

/-- The kind and the members of the set that a member is, or that a list repeats. -/
def innerSet? : Member → Option (SetKind × List Member)
  | .element _ _ _ => none
  | .set _ kind members _ => some (kind, members)
  | .list _ item _ => item.innerSet?

theorem inner?_atOrder (order : Nat) (m : Member) : (m.atOrder order).inner? = m.inner? := by
  cases m <;> rfl

theorem inner?_held (m : Member) (occurs : Occurs) : (m.held occurs).target.inner? = m.inner? := by
  cases m <;> rfl

theorem innerSet?_held (m : Member) (occurs : Occurs) :
    (m.held occurs).target.innerSet? = m.innerSet? := by
  cases m <;> rfl

theorem inner?_wrap (p : RestrictedMember) (base : Member) (span : Option Span) (m : Member) :
    (p.wrap base span m).inner? = m.inner? := by
  unfold RestrictedMember.wrap
  split <;> rfl

/-- What is found under the name of a member of the base is found among what is kept. -/
theorem find?_kept {base made : List Member} {n : String} (hn : isIn base n) {m : Member}
    (hm : find? made n = some m) : ∃ i, find? (kept base made) n = some (m.atOrder i) := by
  have hindex : ∀ (ms : List Member) (f : Nat → Nat) (x : Member), find? ms n = some x →
      ∃ i, find? (ms.mapIdx fun i m => m.atOrder (f i)) n = some (x.atOrder i) := by
    intro ms
    induction ms with
    | nil => exact nofun
    | cons y ms ih =>
      intro f x hx
      rw [List.mapIdx_cons]
      unfold find? at hx ih ⊢
      rw [List.find?_cons] at hx ⊢
      rw [name_atOrder]
      split at hx
      · cases hx
        exact ⟨f 0, rfl⟩
      · exact ih (fun i => f (i + 1)) x hx
  refine hindex _ id m ?_
  obtain ⟨y, hy, hyn⟩ := List.any_eq_true.1 hn
  induction base with
  | nil => cases hy
  | cons x base ih =>
    by_cases hx : x.name = n
    · rw [List.filterMap_cons, hx, hm]
      unfold find?
      rw [List.find?_cons_of_pos (by rw [name_of_find? hm, beq_self_eq_true])]
    · have hy' : y ∈ base := by
        rcases List.mem_cons.1 hy with rfl | hy
        · exact absurd (eq_of_beq hyn) hx
        · exact hy
      have ih := ih (List.any_eq_true.2 ⟨y, hy', hyn⟩) hy'
      rw [List.filterMap_cons]
      cases hfound : find? made x.name with
      | none => exact ih
      | some z =>
        unfold find? at ih ⊢
        rw [List.find?_cons_of_neg (by rw [name_of_find? hfound]; simpa using hx), ih]

end Member

namespace ChildItem

variable {s : Schema} {c : Catalog} {scope : Scope}

theorem not_delete_of_restricts {base m : Member} {isOptional : Bool} {item : ChildItem}
    (h : item.Restricts s c scope base isOptional m) : ∀ d, item = .delete d → False := by
  rintro d rfl
  cases h

/-- A set is held against a set. -/
theorem Restricts.exists_each {base m : Member} {isOptional : Bool} {name : Option Ident}
    {kind : SetKind} {items : List ChildItem} {span : Option Span} {bounds : Option OccursDecl}
    (h : (ChildItem.set name kind items span bounds).Restricts s c scope base isOptional m) :
    ∃ members made, base.inner? = some members ∧ base.innerSet? = some (kind, members) ∧
      RestrictsEach s c scope kind members [] 0 items made ∧
      Member.Completes kind members made ∧ m.inner? = some (Member.kept members made) := by
  cases h with
  | set each complete => exact ⟨_, _, rfl, rfl, each, complete, rfl⟩

namespace RestrictsEach

variable {kind : SetKind} {base made : List Member} {mentioned : List String} {order : Nat}
  {items : List ChildItem}

theorem isIn_iff (h : RestrictsEach s c scope kind base mentioned order items made) (n : String) :
    Member.isIn made n ↔ .keeps n ∈ entries order items := by
  induction items generalizing mentioned order made with
  | nil =>
    cases h
    simp [Member.isIn, entries]
  | cons item rest ih =>
    cases h with
    | delete allowed others =>
      rw [ih others, entries, List.mem_cons]
      exact (or_iff_right (Entry.keeps_ne_deletes _ _)).symm
    | @keep _ _ _ _ _ _ inherited m occurs made fresh found bounds single others =>
      have hname : ((inherited.held occurs).wrap inherited item.span m).name =
          item.memberName order := by
        rw [Member.name_wrap _ single.name_eq, Member.name_of_find? found]
      have hkeeps : Entry.keeps n = .keeps (item.memberName order) ↔ item.memberName order = n := by
        rw [Entry.keeps.injEq, eq_comm]
      rw [entries, List.mem_cons, ← ih others,
        entry_of_not_delete (not_delete_of_restricts single), hkeeps, or_comm]
      simp [Member.isIn, hname]

theorem suit (h : RestrictsEach s c scope kind base mentioned order items made) :
    Entry.Suit (base.map Member.name) mentioned (entries order items) := by
  have hmem : ∀ n, Member.isIn base n → n ∈ base.map Member.name := by
    simp [Member.isIn]
  induction items generalizing mentioned order made with
  | nil => exact Entry.suit_nil _ _
  | cons item rest ih =>
    cases h with
    | delete allowed others =>
      exact (ih others).cons (hmem _ (Member.isIn_of_deletionFaults allowed))
        fun n _ => (Entry.keeps_ne_deletes n _).symm
    | @keep _ _ _ _ _ _ inherited m occurs made fresh found bounds single others =>
      rw [entries, entry_of_not_delete (not_delete_of_restricts single)]
      refine (ih others).cons (hmem _ (Member.isIn_iff.2 ⟨inherited, found⟩)) fun n hn heq => ?_
      cases heq
      exact fresh hn

theorem selects (h : RestrictsEach s c scope kind base [] 0 items made) :
    Entry.Selects (entries 0 items) (base.map Member.name)
      ((Member.kept base made).map Member.name) := by
  refine h.suit.selects ?_
  rw [Member.map_name_kept]
  refine List.filter_congr fun n _ => ?_
  rw [Bool.eq_iff_iff, h.isIn_iff, decide_eq_true_iff]

/-- An item that deletes nothing restricts a member of the base, and what it makes is kept. -/
theorem exists_kept (h : RestrictsEach s c scope kind base mentioned order items made) {i : Nat}
    {item : ChildItem} (hi : items[i]? = some item) (hitem : ∀ d, item = .delete d → False) :
    ∃ inherited occurs m, Member.find? base (item.memberName (order + i)) = some inherited ∧
      item.Restricts s c scope (inherited.held occurs).target (inherited.held occurs).isOptional
        m ∧
      Member.find? made (item.memberName (order + i)) =
        some ((inherited.held occurs).wrap inherited item.span m) := by
  induction items generalizing mentioned order made i with
  | nil => cases hi
  | cons first rest ih =>
    cases h with
    | @delete _ _ _ _ d _ made allowed others =>
      cases i with
      | zero =>
        cases hi
        exact (hitem d rfl).elim
      | succ i =>
        rw [show order + (i + 1) = order + 1 + i by omega]
        exact ih others hi
    | @keep _ _ _ _ _ _ inherited m occurs made fresh found bounds single others =>
      cases i with
      | zero =>
        cases hi
        refine ⟨inherited, occurs, m, found, single, ?_⟩
        have hnot : Member.find? made (item.memberName order) = none := by
          by_contra hsome
          obtain ⟨x, hx⟩ := Option.ne_none_iff_exists'.1 hsome
          exact others.suit.fresh _ List.mem_cons_self
            ((others.isIn_iff _).1 (Member.isIn_iff.2 ⟨x, hx⟩))
        have hname := Member.name_wrap item.span single.name_eq
        rw [Member.name_of_find? found] at hname
        unfold Member.find? at hnot ⊢
        rw [Nat.add_zero, List.find?_append, hnot, Option.none_or,
          List.find?_cons_of_pos (by rw [hname, beq_self_eq_true])]
      | succ i =>
        rw [show order + (i + 1) = order + 1 + i by omega]
        obtain ⟨inherited', occurs', m', hfound, hsingle, hmade⟩ := ih others hi
        refine ⟨inherited', occurs', m', hfound, hsingle, ?_⟩
        unfold Member.find? at hmade ⊢
        rw [List.find?_append, hmade, Option.some_or]

end RestrictsEach

end ChildItem

/-! ## Levels -/

/-- A level of a restricted child set: the items that are declared there, the members that they
restrict, and the members that come of it. -/
structure Level where
  items : List ChildItem
  base : List Member
  members : List Member

namespace Level

variable {s : Schema} {c : Catalog} {scope : Scope} {l l' : Level}

/-- What the items of a level say. -/
def entries (l : Level) : List Entry := ChildItem.entries 0 l.items

/-- The level inside a set that is declared at a level. -/
inductive Nested (l : Level) : Level → Prop
  | intro {i : Nat} {name : Option Ident} {kind : SetKind} {items : List ChildItem}
    {span : Option Span} {bounds : Option OccursDecl} {inherited own : Member}
    {base members : List Member} (item : l.items[i]? = some (.set name kind items span bounds))
    (found : Member.find? l.base ((ChildItem.set name kind items span bounds).memberName i) =
      some inherited) (restricted : inherited.inner? = some base)
    (kept : Member.find? l.members ((ChildItem.set name kind items span bounds).memberName i) =
      some own) (restricting : own.inner? = some members) : Nested l ⟨items, base, members⟩

/-- The members of a level are those that its items keep of the base, and every set among the items
leads one level further in. -/
structure Retains (l : Level) : Prop where
  selects : Entry.Selects l.entries (l.base.map Member.name) (l.members.map Member.name)
  nested : ∀ (i : Nat) name kind items span bounds,
    l.items[i]? = some (.set name kind items span bounds) →
      ∃ base members, l.Nested ⟨items, base, members⟩

/-- The members come of the items. -/
def Made (s : Schema) (c : Catalog) (scope : Scope) (l : Level) : Prop :=
  ∃ kind made, ChildItem.RestrictsEach s c scope kind l.base [] 0 l.items made ∧
    l.members = Member.kept l.base made

/-- What a set among the items restricts, and what is kept of it. -/
theorem Made.exists_nested (h : l.Made s c scope) {i : Nat} {name : Option Ident} {kind : SetKind}
    {items : List ChildItem} {span : Option Span} {bounds : Option OccursDecl}
    (hi : l.items[i]? = some (.set name kind items span bounds)) :
    ∃ inherited own base members,
      Member.find? l.base ((ChildItem.set name kind items span bounds).memberName i) =
        some inherited ∧ inherited.inner? = some base ∧
      Member.find? l.members ((ChildItem.set name kind items span bounds).memberName i) =
        some own ∧ own.inner? = some members ∧ Made s c scope ⟨items, base, members⟩ := by
  obtain ⟨kind, made, hmade, hmembers⟩ := h
  obtain ⟨inherited, occurs, m, hfound, hm, hkept⟩ := hmade.exists_kept hi nofun
  rw [Nat.zero_add] at hfound hkept
  obtain ⟨j, hj⟩ := Member.find?_kept (Member.isIn_iff.2 ⟨inherited, hfound⟩) hkept
  obtain ⟨base, made', hbase, -, heach, -, hinner⟩ := hm.exists_each
  rw [Member.inner?_held] at hbase
  rw [← hmembers] at hj
  refine ⟨inherited, _, base, Member.kept base made', hfound, hbase, hj, ?_, _, made', heach, rfl⟩
  rw [Member.inner?_atOrder, Member.inner?_wrap, hinner]

theorem Made.retains (h : l.Made s c scope) : l.Retains where
  selects := by
    obtain ⟨kind, made, hmade, hmembers⟩ := h
    exact hmembers ▸ hmade.selects
  nested i name kind items span bounds hi := by
    obtain ⟨inherited, own, base, members, hfound, hbase, hkept, hmembers, -⟩ := h.exists_nested hi
    exact ⟨base, members, .intro hi hfound hbase hkept hmembers⟩

/-- What comes of items at one level comes of items one level further in. -/
theorem Made.nested (h : l.Made s c scope) (hl : l.Nested l') : l'.Made s c scope := by
  cases hl with
  | intro item found restricted kept restricting =>
    obtain ⟨inherited, own, base, members, hfound, hbase, hkept, hmembers, hmade⟩ :=
      h.exists_nested item
    cases found.symm.trans hfound
    cases kept.symm.trans hkept
    cases restricted.symm.trans hbase
    cases restricting.symm.trans hmembers
    exact hmade

/-- At every level inside the members are what the items keep. -/
theorem Made.retains_of_reflTransGen (h : l.Made s c scope) (hl : ReflTransGen Nested l l') :
    l'.Retains := by
  suffices hmade : l'.Made s c scope from hmade.retains
  induction hl with
  | refl => exact h
  | tail _ hnested ih => exact ih.nested hnested

end Level

/-! ## What references are named for -/

/-- A name finds the declaration that has it. -/
theorem Catalog.exists_of_find? {c : Catalog} {n : FullName} {o : DeclarationId}
    (h : c.find? n = some (.declared o)) : ∃ d, c.get? o = some d ∧ d.fullName = n := by
  unfold find? at h
  split at h
  · obtain ⟨k, -, hk⟩ := Option.map_eq_some_iff.1 h
    cases hk
  · obtain ⟨i, hi, hio⟩ := Option.map_eq_some_iff.1 h
    cases hio
    obtain ⟨hlt, hn, -⟩ := Array.findIdx?_eq_some_iff_getElem.1 hi
    exact ⟨c.declarations[i], Array.getElem?_eq_getElem hlt, eq_of_beq hn⟩

/-- What a reference stands for is found under its name in some namespace. -/
theorem Catalog.exists_find?_of_resolve {c : Catalog} {scope : Scope} {r : NameRef} {x : Referent}
    (h : c.resolve scope r = .ok x) : ∃ uri, c.find? ⟨uri, r.name.text⟩ = some x := by
  have helim : ∀ {y : Option Referent} {f : Fault},
      y.elim (.error (f.diagnostic r.span)) Except.ok = .ok x → y = some x := by
    intro y f hy
    cases y <;> cases hy
    rfl
  unfold resolve at h
  dsimp only at h
  split at h
  · split at h
    · cases h
    · exact ⟨_, helim h⟩
  · split at h
    · rename_i hfound
      cases h
      exact ⟨_, hfound⟩
    · split at h
      · exact ⟨_, helim h⟩
      · rename_i uri found himported
        cases h
        have hmem : (uri, x) ∈ c.importedReferents scope r.name.text := by
          rw [himported]
          exact List.mem_cons_self
        obtain ⟨uri', -, hfound⟩ := List.mem_filterMap.1 hmem
        obtain ⟨_, hfound, heq⟩ := Option.map_eq_some_iff.1 hfound
        cases heq
        exact ⟨_, hfound⟩
      · cases h

/-- A reference has the name of the declaration that it stands for. -/
theorem Catalog.name_of_resolve {c : Catalog} {scope : Scope} {r : NameRef} {o : DeclarationId}
    (h : c.resolve scope r = .ok (.declared o)) :
    ∃ d, c.get? o = some d ∧ d.name = r.name.text := by
  obtain ⟨uri, huri⟩ := exists_find?_of_resolve h
  obtain ⟨d, hd, hname⟩ := exists_of_find? huri
  exact ⟨d, hd, congrArg FullName.name hname⟩

namespace Builder.Completes

variable {namespaces : List NamespaceDecl} {limits : Limits} {e : Builder}

/-- An entry keeps the attribute that it makes. -/
theorem entry_of_attribute (h : e.Completes namespaces limits) {s : Schema}
    (he : e.Becomes (Catalog.ofNamespaces namespaces).1 s) {scope : Scope} {item : AttributeItem}
    {a : Attribute} (ha : item.attribute? s (Catalog.ofNamespaces namespaces).1 scope = some a) :
    item.entry = .keeps a.name := by
  cases item with
  | declared d =>
    simp only [AttributeItem.attribute?, Option.bind_eq_bind, Option.bind_eq_some_iff,
      Option.pure_def, Option.some.injEq] at ha
    obtain ⟨_, -, _, -, rfl⟩ := ha
    rfl
  | reference u =>
    simp only [AttributeItem.attribute?, Option.bind_eq_bind, Option.bind_eq_some_iff,
      Option.pure_def, Option.some.injEq] at ha
    obtain ⟨id, ⟨symbol, hreferent, hid⟩, g, hg, rfl⟩ := ha
    obtain rfl : symbol = .attr id := by
      cases symbol <;> cases hid
      rfl
    unfold Schema.referent? Catalog.target? at hreferent
    split at hreferent
    · rename_i k hk
      cases (he.builtin k).symm.trans hreferent
    · rename_i o ho
      obtain ⟨d, hd, hname⟩ := Catalog.name_of_resolve ho
      obtain ⟨symbol, hsymbol⟩ := h.exists_symbol (o := o) (by rw [hd]; rfl)
      obtain ⟨d', hd', hlookup⟩ := he.declared o symbol hsymbol
      obtain rfl := Option.some.inj (hd.symm.trans hd')
      simp only [hd, Option.map_some, Option.bind_some, hlookup] at hreferent
      cases hreferent
      obtain ⟨d', hd', hdeclares⟩ := h.numbered.declares o _ (mem_of_symbol? hsymbol)
      obtain rfl := Option.some.inj (hd.symm.trans hd')
      obtain ⟨a, ha, hfull⟩ : ∃ a, e.schema.attribute? id = some a ∧ a.fullName = d.fullName := by
        cases hm : d.member <;> rw [hm] at hdeclares
        · exact hdeclares.elim
        · exact hdeclares
        · exact hdeclares.elim
      obtain rfl := Option.some.inj (hg.symm.trans ((he.attribute? id).trans ha))
      rw [AttributeItem.entry, ← hname]
      exact congrArg (fun n : FullName => Entry.keeps n.name) hfull.symm
    · cases hreferent
  | delete d => cases ha

/-- A declared restriction of a complex type has what its blocks keep of the content of its base. -/
theorem restriction_run (h : e.Completes namespaces limits) {o : DeclarationId} {id : TypeId}
    (hid : e.symbol? o = some (.type id)) {d : Declaration} {t : TypeDecl}
    (hget : (Catalog.ofNamespaces namespaces).1.getAs? (·.asType?) o = some (d, t)) {r : NameRef}
    {facets : Option FacetBlock} {attributes : Option AttributeBlock}
    {children : Option ChildrenDecl} (ht : t.body = .restriction r facets attributes children)
    {up : TypeId} (hup : (e.schema.typeDef id).base = some up)
    (hkind : (e.schema.typeDef id).kind = .complexType) {s : Schema}
    (he : e.Becomes (Catalog.ofNamespaces namespaces).1 s) :
    ∃ x, (e.schema.typeDef id).asComplex? = some x ∧
      ((e.schema.typeDef up).extended up).Restriction s (Catalog.ofNamespaces namespaces).1 d.scope
        attributes children x := by
  obtain ⟨x, b₀, b₁, hx, hsource, hbase, hrun⟩ := h.content_run hid hget hup hkind
  refine ⟨x, hx, ?_⟩
  rw [complexContent, run_schema_bind, ht, hbase] at hrun
  obtain ⟨-, -, -, hx⟩ := (Takes.restrictsContent he d.scope _ facets attributes children).apply
    hsource.placed hsource.inv hrun
  exact hx hsource.lasts

end Builder.Completes

/-- In an accepted schema, a declared restriction of a complex type has of the attributes of its
base those that its block keeps, each as the block declares it, if it has a block of attributes. If
it has a block of children, so it is with members at every level. Names that the block deletes are
gone if and only if it keeps none of them. -/
theorem retention_of_accepts {namespaces : List NamespaceDecl} {limits : Limits} {s : Schema}
    (h : Accepts namespaces limits s) {ns : NamespaceDecl} (hns : ns ∈ namespaces) {t : TypeDecl}
    (ht : .type t ∈ ns.members) {r : NameRef} {facets : Option FacetBlock}
    {attributes : Option AttributeBlock} {children : Option ChildrenDecl}
    (hbody : t.body = .restriction r facets attributes children) :
    ∃ id up, s.lookupType ⟨ns.uri, t.name.text⟩ = some id ∧
      s.referent? (Catalog.ofNamespaces namespaces).1 (Catalog.scopeIn namespaces ns) r =
        some (.type up) ∧
      s.Restricts id up ∧
      ∀ y, (s.typeDef up).asComplex? = some y → ∃ x, (s.typeDef id).asComplex? = some x ∧
        (∀ block, attributes = some block →
          Entry.Selects (block.items.map AttributeItem.entry)
            ((y.attributes.getD []).map Attribute.name)
            ((x.attributes.getD []).map Attribute.name) ∧
          ∀ a ∈ x.attributes.getD [], ∃ item ∈ block.items,
            item.attribute? s (Catalog.ofNamespaces namespaces).1
              (Catalog.scopeIn namespaces ns) = some a) ∧
        ∀ d, children = some (.set d) → ∃ inherited own,
          y.childSet? = some inherited ∧ x.childSet? = some own ∧
          ∀ l, ReflTransGen Level.Nested ⟨d.items, inherited.members, own.members⟩ l →
            l.Retains := by
  obtain ⟨e, he, rfl⟩ := h.exists_builder
  have hbecomes := he.becomes
  obtain ⟨o, id, up, hget, hid, hlookup, hreferent, hbase, hheader⟩ :=
    he.exists_derived hbecomes hns ht (r := r) (by rw [TypeDecl.base?, hbody])
  rw [TypeDecl.header, hbody] at hheader
  obtain ⟨hkind, hderivation⟩ := Prod.mk.inj hheader
  refine ⟨id, up, hlookup, hreferent, ⟨?_, ?_⟩, fun y hy => ?_⟩
  · rw [hbecomes.typeDef, hbase]
  · rw [hbecomes.typeDef, hderivation]
  rw [hbecomes.typeDef] at hy
  have hcomplex : (e.schema.typeDef up).kind = .complexType :=
    (Schema.asComplex?_isSome_iff he.inv.contents up).1 (by rw [hy]; rfl)
  obtain ⟨x, hx, hrestriction⟩ :=
    he.restriction_run hid hget hbody hbase (hkind.trans hcomplex) hbecomes
  rw [TypeDef.extended_of_complex hy] at hrestriction
  refine ⟨x, by rw [hbecomes.typeDef, hx], ?_, ?_⟩
  · rintro block rfl
    have hattributes := hrestriction.attributes
    generalize x.attributes = own at hattributes ⊢
    cases hattributes with
    | @block _ made each complete =>
      refine ⟨each.selects fun item a ha => he.entry_of_attribute hbecomes ha, fun a ha => ?_⟩
      obtain ⟨b, -, hab⟩ := List.mem_filterMap.1 ha
      exact each.exists_item a (Attribute.mem_of_find? hab)
  · rintro d rfl
    have hchildren := hrestriction.children
    cases hown : x.children with
    | none =>
      rw [hown] at hchildren
      cases hchildren
    | some own =>
      rw [hown] at hchildren
      cases hchildren with
      | @set _ inherited made inherits kind each complete =>
        refine ⟨inherited, _, ComplexContent.childSet?_eq_some.2 inherits,
          ComplexContent.childSet?_eq_some.2 hown, fun l hl => ?_⟩
        have hmade : Level.Made _ _ _
            ⟨d.items, inherited.members, Member.kept inherited.members made⟩ :=
          ⟨_, made, each, rfl⟩
        exact hmade.retains_of_reflTransGen hl

/-- The attributes of a ticket for a day: it has no seat. -/
def dayAttributes : AttributeBlock where
  items := [
    .declared { name := ⟨"note", none⟩, type := .ofText "String" },
    .delete { name := ⟨"seat", none⟩ }]

/-- The children of a ticket for a day: it is good for trains, and has no stop. -/
def dayChildren : ChildSetDecl where
  kind := .sequence
  items := [
    .delete { name := ⟨"stop", none⟩ },
    .set none .choice [
      .element { name := ⟨"train", none⟩, type := .ofText "String" },
      .delete { name := ⟨"bus", none⟩ }] none none]

/-- The attributes of an open ticket: the note is declared anew and deleted after that. -/
def openAttributes : AttributeBlock where
  items := [
    .declared { name := ⟨"note", none⟩, type := .ofText "String", isOptional := true },
    .delete { name := ⟨"note", none⟩ }]

/-- A ticket, one for a day and an open one. -/
def tickets : NamespaceDecl :=
  let string (name : String) : AttributeItem :=
    .declared { name := ⟨name, none⟩, type := .ofText "String", isOptional := true }
  let element (name : String) : ChildItem :=
    .element { name := ⟨name, none⟩, type := .ofText "String" }
  let ticket : TypeBody := .complex (some { items := [string "seat", string "note"] })
    (some (.set { kind := .sequence, items := [
      .element { name := ⟨"stop", none⟩, type := .ofText "String", occurs := some ⟨0, 1, none⟩ },
      .set none .choice [element "train", element "bus"] none none] }))
  { uri := "urn:tickets"
    members := [
      .type { name := ⟨"Ticket", none⟩, body := ticket },
      .type { name := ⟨"DayTicket", none⟩
              body := .restriction (.ofText "Ticket") none (some dayAttributes)
                (some (.set dayChildren)) },
      .type { name := ⟨"OpenTicket", none⟩
              body := .restriction (.ofText "Ticket") none (some openAttributes) none }] }

/-- Of a ticket for a day, the note and the train are left, the train one level further in. -/
theorem day_ticket_retains : let s := schemaOf [tickets] {}
    Accepts [tickets] {} s ∧ tickets ∈ [tickets] ∧
    ∃ x y inherited own, (s.typeDef ⟨23⟩).asComplex? = some x ∧
      (s.typeDef ⟨22⟩).asComplex? = some y ∧
      Entry.Selects [.keeps "note", .deletes "seat"] ((y.attributes.getD []).map Attribute.name)
        ((x.attributes.getD []).map Attribute.name) ∧
      (x.attributes.getD []).map Attribute.name = ["note"] ∧
      y.childSet? = some inherited ∧ x.childSet? = some own ∧
      (∀ l, ReflTransGen Level.Nested ⟨dayChildren.items, inherited.members, own.members⟩ l →
        l.Retains) ∧
      x.levels.map (·.map Member.name) = [["Choice1"], ["train"]] := by
  intro s
  have hs : Accepts [tickets] {} s := accepts_schemaOf (by decide +kernel)
  have htickets : tickets ∈ [tickets] := List.mem_cons_self
  refine ⟨hs, htickets, ?_⟩
  obtain ⟨id, up, hid, -, hrestricts, hcontent⟩ := retention_of_accepts hs htickets
    (t := ⟨⟨"DayTicket", none⟩, false, false, .restriction (.ofText "Ticket") none
      (some dayAttributes) (some (.set dayChildren))⟩) (.tail _ (.head _)) rfl
  have hfound : s.lookupType ⟨"urn:tickets", "DayTicket"⟩ = some ⟨23⟩ := by decide +kernel
  obtain rfl := Option.some.inj (hid.symm.trans hfound)
  have hbase : (s.typeDef ⟨23⟩).base = some ⟨22⟩ := by decide +kernel
  obtain rfl := Option.some.inj (hrestricts.1.symm.trans hbase)
  obtain ⟨y, hy⟩ : ∃ y, (s.typeDef ⟨22⟩).asComplex? = some y :=
    Option.isSome_iff_exists.1 (by decide +kernel)
  obtain ⟨x, hx, hattributes, hchildren⟩ := hcontent y hy
  obtain ⟨hselects, -⟩ := hattributes _ rfl
  obtain ⟨inherited, own, hinherited, hown, hlevels⟩ := hchildren _ rfl
  have hnames : (s.typeDef ⟨23⟩).asComplex?.map (fun x =>
      ((x.attributes.getD []).map Attribute.name, x.levels.map (·.map Member.name))) =
        some (["note"], [["Choice1"], ["train"]]) := by decide +kernel
  rw [hx] at hnames
  obtain ⟨hnote, htrain⟩ := Prod.mk.inj (Option.some.inj hnames)
  exact ⟨x, y, inherited, own, hx, hy, hselects, hnote, hinherited, hown, hlevels, htrain⟩

/-- The note is deleted and stays. -/
theorem open_ticket_has_note : let s := schemaOf [tickets] {}
    Accepts [tickets] {} s ∧
    s.lookupType ⟨"urn:tickets", "OpenTicket"⟩ = some ⟨24⟩ ∧ s.Restricts ⟨24⟩ ⟨22⟩ ∧
    .deletes "note" ∈ openAttributes.items.map AttributeItem.entry ∧
    ∃ x, (s.typeDef ⟨24⟩).asComplex? = some x ∧
      "note" ∈ (x.attributes.getD []).map Attribute.name := by
  intro s
  have hs : Accepts [tickets] {} s := accepts_schemaOf (by decide +kernel)
  have hnames : (s.typeDef ⟨24⟩).asComplex?.map (fun x =>
      (x.attributes.getD []).map Attribute.name) = some ["note"] := by decide +kernel
  obtain ⟨x, hx, hnote⟩ := Option.map_eq_some_iff.1 hnames
  refine ⟨hs, by decide +kernel, by decide +kernel, by decide, x, hx, ?_⟩
  rw [hnote]
  exact List.mem_cons_self

end Schemata
