import Mathlib.Data.List.InsertIdx
import Schemata.Proofs.Rearrangement
import Schemata.Proofs.Retention

/-!
# One more declaration

A member is added to a namespace under a name that nothing else has. Then the catalog has one
declaration more (`Catalog.Inserts`): those behind it move up by one place, and references that
stand for something stand for the same as before. Nothing is wrong with registering the members if
nothing was wrong before.
-/

namespace Schemata

/-- The number that is left for something if one number is taken. -/
def skip (k n : Nat) : Nat := if n < k then n else n + 1

theorem skip_of_lt {k n : Nat} (h : n < k) : skip k n = n := if_pos h

theorem skip_of_le {k n : Nat} (h : k ≤ n) : skip k n = n + 1 := if_neg (not_lt.2 h)

theorem skip_ne (k n : Nat) : skip k n ≠ k := by
  unfold skip
  split <;> omega

theorem skip_inj {k m n : Nat} (h : skip k m = skip k n) : m = n := by
  unfold skip at h
  split at h <;> split at h <;> omega

theorem map_skip_range'_of_le {start count k : Nat} (h : start + count ≤ k) :
    (List.range' start count).map (skip k) = List.range' start count := by
  refine (List.map_congr_left fun n hn => ?_).trans (List.map_id _)
  exact skip_of_lt ((List.mem_range'_1.1 hn).2.trans_le h)

theorem map_skip_range' (k count : Nat) :
    (List.range' k count).map (skip k) = List.range' (k + 1) count := by
  rw [Nat.add_comm k 1]
  refine (List.map_congr_left fun n hn => ?_).trans (List.map_add_range' k count 1)
  rw [skip_of_le (List.mem_range'_1.1 hn).1, Nat.add_comm]

/-- Numbers in a row, and the same with one more among them. -/
theorem range'_insert {start count k : Nat} (hstart : start ≤ k) (hk : k ≤ start + count) :
    List.range' start count =
      List.range' start (k - start) ++ List.range' k (start + count - k) ∧
    List.range' start (count + 1) =
      List.range' start (k - start) ++ k :: List.range' (k + 1) (start + count - k) := by
  obtain ⟨m, rfl⟩ := Nat.exists_eq_add_of_le hstart
  obtain ⟨l, rfl⟩ := Nat.exists_eq_add_of_le (Nat.le_of_add_le_add_left hk)
  rw [Nat.add_sub_cancel_left, ← Nat.add_assoc, Nat.add_sub_cancel_left, ← List.range'_succ,
    Nat.add_assoc m, List.range'_append_1, List.range'_append_1]
  exact ⟨rfl, rfl⟩

/-- The number of a declaration if one more is registered. -/
def DeclarationId.skip (k : Nat) (o : DeclarationId) : DeclarationId := ⟨Schemata.skip k o.index⟩

theorem DeclarationId.skip_inj {k : Nat} {o p : DeclarationId} (h : o.skip k = p.skip k) : o = p :=
  congrArg mk (Schemata.skip_inj (congrArg index h))

namespace Catalog

/-- Another catalog has one declaration more, under a name of its own. -/
structure Inserts (c c' : Catalog) (k : Nat) (d : Declaration) : Prop where
  declarations : ∃ front back, c.declarations.toList = front ++ back ∧ front.length = k ∧
    c'.declarations.toList = front ++ d :: back
  fresh : ∀ e ∈ c.declarations, e.name ≠ d.name
  unreserved : Kind.ofName? d.name = none

namespace Inserts

variable {c c' : Catalog} {k : Nat} {d : Declaration}

theorem get?_skip (h : c.Inserts c' k d) (o : DeclarationId) : c'.get? (o.skip k) = c.get? o := by
  obtain ⟨front, back, hlist, rfl, hlist'⟩ := h.declarations
  rw [get?, get?, ← Array.getElem?_toList, ← Array.getElem?_toList, hlist, hlist']
  change (front ++ d :: back)[skip front.length o.index]? = (front ++ back)[o.index]?
  rcases lt_or_ge o.index front.length with ho | ho
  · rw [skip_of_lt ho, List.getElem?_append_left ho, List.getElem?_append_left ho]
  · rw [skip_of_le ho, List.getElem?_append_right ho,
      List.getElem?_append_right (Nat.le_succ_of_le ho), Nat.succ_sub ho, List.getElem?_cons_succ]

theorem get?_new (h : c.Inserts c' k d) : c'.get? ⟨k⟩ = some d := by
  obtain ⟨front, back, -, rfl, hlist'⟩ := h.declarations
  rw [get?, ← Array.getElem?_toList, hlist', List.getElem?_append_right le_rfl, Nat.sub_self]
  rfl

theorem size_eq (h : c.Inserts c' k d) : c'.declarations.size = c.declarations.size + 1 := by
  obtain ⟨front, back, hlist, -, hlist'⟩ := h.declarations
  rw [← Array.length_toList, ← Array.length_toList, hlist, hlist']
  simp [Nat.add_assoc]

theorem le_size (h : c.Inserts c' k d) : k ≤ c.declarations.size := by
  obtain ⟨front, back, hlist, rfl, -⟩ := h.declarations
  rw [← Array.length_toList, hlist, List.length_append]
  exact Nat.le_add_right _ _

/-- The numbers of all declarations in order. -/
theorem ids_eq (h : c.Inserts c' k d) : ∃ back : List DeclarationId,
    c.ids = (List.range' 0 k).map DeclarationId.mk ++ back ∧
    c'.ids = ((List.range' 0 k).map DeclarationId.mk).map (·.skip k) ++
      ⟨k⟩ :: back.map (·.skip k) := by
  have hle : k ≤ 0 + c.declarations.size := (Nat.zero_add _).symm ▸ h.le_size
  obtain ⟨hrange, hrange'⟩ := range'_insert (Nat.zero_le k) hle
  have hskip (ns : List Nat) : (ns.map DeclarationId.mk).map (·.skip k) =
      (ns.map (skip k)).map DeclarationId.mk := by
    rw [List.map_map, List.map_map]
    rfl
  refine ⟨_, by rw [ids, List.range_eq_range', hrange, List.map_append]; rfl, ?_⟩
  rw [ids, h.size_eq, List.range_eq_range', hrange', List.map_append, List.map_cons, hskip, hskip,
    map_skip_range', map_skip_range'_of_le (Nat.zero_add k).le, Nat.sub_zero]

theorem find?_eq (h : c.Inserts c' k d) {n : FullName} (hn : n.name ≠ d.name) :
    c'.find? n = (c.find? n).map (·.place (·.skip k)) := by
  obtain ⟨front, back, hlist, rfl, hlist'⟩ := h.declarations
  have hd : (d.fullName == n) = false := by
    rw [beq_eq_false_iff_ne]
    rintro rfl
    exact hn rfl
  have htoList (c : Catalog) : c.declarations.findIdx? (·.fullName == n) =
      c.declarations.toList.findIdx? (·.fullName == n) := by
    rw [← List.findIdx?_toArray]
  unfold find?
  split
  · cases Kind.ofName? n.name <;> rfl
  · rw [htoList, htoList, hlist, hlist', List.findIdx?_append, List.findIdx?_append,
      List.findIdx?_cons, hd]
    cases hi : front.findIdx? (·.fullName == n) with
    | some i =>
      have hlt : i < front.length := (List.findIdx?_eq_some_iff_getElem.1 hi).1
      simp [Referent.place, DeclarationId.skip, skip_of_lt hlt]
    | none =>
      cases back.findIdx? (·.fullName == n) with
      | none => rfl
      | some j =>
        have hle : front.length ≤ j + front.length := Nat.le_add_left _ _
        simp [Referent.place, DeclarationId.skip, skip_of_le hle, Nat.add_right_comm]

theorem name_ne_of_resolve (h : c.Inserts c' k d) {scope : Scope} {r : NameRef} {x : Referent}
    (hx : c.resolve scope r = .ok x) : r.name.text ≠ d.name := by
  obtain ⟨uri, hfound⟩ := exists_find?_of_resolve hx
  intro hname
  cases x with
  | builtin l =>
    unfold find? at hfound
    split at hfound
    · rw [hname, h.unreserved] at hfound
      cases hfound
    · obtain ⟨i, -, hi⟩ := Option.map_eq_some_iff.1 hfound
      cases hi
  | declared o =>
    obtain ⟨e, he, hfull⟩ := exists_of_find? hfound
    exact h.fresh e (mem_of_get? he) ((congrArg FullName.name hfull).trans hname)

theorem embeds (h : c.Inserts c' k d) : c.Embeds c' (·.skip k) where
  get? := h.get?_skip
  resolve hx := by
    rw [resolve_map fun _ => h.find?_eq (h.name_ne_of_resolve hx), hx]
    rfl

end Inserts

end Catalog

/-! ## Registering one more member -/

/-- The same part of a namespace with a member between others. -/
def NamespaceDecl.insert (ns : NamespaceDecl) (ms : List MemberDecl) (m : MemberDecl)
    (ms' : List MemberDecl) : NamespaceDecl :=
  { ns with members := ms ++ m :: ms' }

section Registering

variable {front back : List NamespaceDecl} {ns : NamespaceDecl} {ms ms' : List MemberDecl}
  {m : MemberDecl}

/-- The same namespaces can be imported. -/
theorem uris_insert : (front ++ ns.insert ms m ms' :: back).map (·.uri) =
    (front ++ ns :: back).map (·.uri) := by
  simp [NamespaceDecl.insert]

theorem forall_mem_insert {P : MemberDecl → Prop} (hns : ns.members = ms ++ ms')
    (h : ∀ part ∈ front ++ ns :: back, ∀ e ∈ part.members, P e) (hm : P m) :
    ∀ part ∈ front ++ ns.insert ms m ms' :: back, ∀ e ∈ part.members, P e := by
  simp only [List.forall_mem_append, List.forall_mem_cons, hns, NamespaceDecl.insert] at h ⊢
  exact ⟨h.1, ⟨h.2.1.1, hm, h.2.1.2⟩, h.2.2⟩

/-- A member with a valid name that no other member has can be registered as well. -/
theorem registrable_insert (h : Registrable (front ++ ns :: back))
    (hns : ns.members = ms ++ ms') (hid : isIdentifier m.name.text)
    (hfresh : ∀ part ∈ front ++ ns :: back, ∀ e ∈ part.members, e.name.text ≠ m.name.text) :
    Registrable (front ++ ns.insert ms m ms' :: back) := by
  have hnew : (globals (front ++ ns.insert ms m ms' :: back)).Perm
      ((⟨ns.uri, m.name.text⟩, m) :: globals (front ++ ns :: back)) := by
    simp only [globals, List.flatMap_append, List.flatMap_cons, NamespaceDecl.insert, hns,
      List.map_append, List.map_cons, List.append_assoc, List.cons_append]
    rw [← List.append_assoc, ← List.append_assoc]
    exact List.perm_middle
  have hparts {P : NamespaceDecl → Prop} (hP : ∀ part ∈ front ++ ns :: back, P part)
      (hinsert : P ns → P (ns.insert ms m ms')) :
      ∀ part ∈ front ++ ns.insert ms m ms' :: back, P part := by
    simp only [List.forall_mem_append, List.forall_mem_cons] at hP ⊢
    exact ⟨hP.1, hinsert hP.2.1, hP.2.2⟩
  refine ⟨hparts h.unreserved id, forall_mem_insert hns h.identifiers hid, ?_, ?_⟩
  · rw [(hnew.map Prod.fst).nodup_iff, List.map_cons, List.nodup_cons]
    refine ⟨fun hmem => ?_, h.names⟩
    obtain ⟨⟨n, e⟩, he, hn⟩ := List.mem_map.1 hmem
    obtain ⟨part, hpart, he⟩ := List.mem_flatMap.1 he
    obtain ⟨_, hmem, heq⟩ := List.mem_map.1 he
    cases heq
    exact hfresh part hpart _ hmem (congrArg FullName.name hn)
  · rw [uris_insert]
    exact hparts h.imports id

/-- Where references are looked up does not depend on members. -/
theorem Catalog.scopeIn_insert (hns : ns.isReserved = false) (part : NamespaceDecl) :
    scopeIn (front ++ ns.insert ms m ms' :: back) part = scopeIn (front ++ ns :: back) part := by
  have hns' : (ns.insert ms m ms').isReserved = false := hns
  simp only [scopeIn, List.filter_append, List.filter_cons, hns, hns', List.map_append]
  rfl

/-- The catalog has one declaration more, behind those of the members before it. -/
theorem inserts_ofNamespaces (h : Registrable (front ++ ns :: back))
    (hns : ns.members = ms ++ ms') (hid : isIdentifier m.name.text)
    (hfresh : ∀ part ∈ front ++ ns :: back, ∀ e ∈ part.members, e.name.text ≠ m.name.text)
    (hkind : Kind.ofName? m.name.text = none) :
    ∃ k, (Catalog.ofNamespaces (front ++ ns :: back)).1.Inserts
        (Catalog.ofNamespaces (front ++ ns.insert ms m ms' :: back)).1 k
        ⟨Catalog.scopeIn (front ++ ns :: back) ns, m⟩ ∧
      ∀ e ∈ ms, ∃ o, o.index < k ∧ (Catalog.ofNamespaces (front ++ ns :: back)).1.get? o =
        some ⟨Catalog.scopeIn (front ++ ns :: back) ns, e⟩ := by
  have hnone {namespaces : List NamespaceDecl} (h : Registrable namespaces) :
      Harmless (Catalog.ofNamespaces namespaces).2 := by
    rw [h.ofNamespaces.1]
    exact harmless_nil
  have hlist := toList_declarations (hnone h)
  have hlist' := toList_declarations (hnone (registrable_insert h hns hid hfresh))
  have hreserved : ns.isReserved = false := h.unreserved ns (by simp)
  have hscope : Catalog.scopeIn (front ++ ns.insert ms m ms' :: back) =
      Catalog.scopeIn (front ++ ns :: back) := funext (Catalog.scopeIn_insert hreserved)
  have hscope' : Catalog.scopeIn (front ++ ns :: back) (ns.insert ms m ms') =
      Catalog.scopeIn (front ++ ns :: back) ns := rfl
  let declared (part : NamespaceDecl) (ms : List MemberDecl) : List Declaration :=
    ms.map (Declaration.mk (Catalog.scopeIn (front ++ ns :: back) part))
  have hcut : (Catalog.ofNamespaces (front ++ ns :: back)).1.declarations.toList =
      ((front.flatMap fun part => declared part part.members) ++ declared ns ms) ++
        (declared ns ms' ++ back.flatMap fun part => declared part part.members) := by
    simp only [hlist, List.flatMap_append, List.flatMap_cons, hns, List.map_append,
      List.append_assoc, declared]
  refine ⟨_, ⟨⟨_, _, hcut, rfl, ?_⟩, fun e he => ?_, hkind⟩, fun e he => ?_⟩
  · rw [hlist', hscope]
    simp only [List.flatMap_append, List.flatMap_cons, NamespaceDecl.insert, List.map_append,
      List.map_cons, List.append_assoc, List.cons_append, declared]
    rfl
  · rw [← Array.mem_toList_iff, hlist] at he
    obtain ⟨part, hpart, he⟩ := List.mem_flatMap.1 he
    obtain ⟨e, hmem, rfl⟩ := List.mem_map.1 he
    exact hfresh part hpart e hmem
  · have hmem : ⟨Catalog.scopeIn (front ++ ns :: back) ns, e⟩ ∈
        (front.flatMap fun part => declared part part.members) ++ declared ns ms :=
      List.mem_append_right _ (List.mem_map_of_mem he)
    obtain ⟨i, hi⟩ := List.mem_iff_getElem?.1 hmem
    have hlt := (List.getElem?_eq_some_iff.1 hi).1
    refine ⟨⟨i⟩, hlt, ?_⟩
    rw [Catalog.get?, ← Array.getElem?_toList, hcut, List.getElem?_append_left hlt, hi]

end Registering

end Schemata
