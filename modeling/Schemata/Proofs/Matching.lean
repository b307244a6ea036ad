import Schemata.Proofs.Compilation
import Schemata.Validation.Matching

/-!
# Members that objects stand for

The members of a base are wider than those of a restriction, so that an object which stands for a
member of the restriction stands for a member of the base, where the demand is a weaker one
(`Demand.Weaker`). The same objects are found for both if no object stands for two members of one
set (`Member.Unambiguous`).
-/

namespace Schemata

/-! ## Members that are told apart -/

/-- An element that keeps the type of another one. If both are uses of global elements, an object
that stands for the first is found to be the same global element for the other one. -/
structure Element.Restates (s : Schema) (e f : Element) : Prop where
  type : e.type = f.type
  found : ∀ id head, e.referenced = some id → f.referenced = some head →
    ∀ name x, s.matchGlobal name id = some x → s.matchGlobal name head = some x

/-- No object stands for two of some members. -/
def Member.Apart (s : Schema) (ms : List Member) : Prop :=
  ∀ o, ∀ m ∈ ms, ∀ n ∈ ms, (s.matchMember o m).isSome → (s.matchMember o n).isSome →
    m.name = n.name

mutual

/-- The members of every set of a member are told apart. -/
def Member.Unambiguous (s : Schema) : Member → Prop
  | .element _ _ _ => True
  | .set _ _ members _ => Member.Apart s members ∧ Member.AllUnambiguous s members
  | .list _ item _ => Member.Unambiguous s item

/-- The members of every set of some members are told apart. -/
def Member.AllUnambiguous (s : Schema) : List Member → Prop
  | [] => True
  | m :: ms => Member.Unambiguous s m ∧ Member.AllUnambiguous s ms

end

theorem Member.allUnambiguous_iff {s : Schema} {ms : List Member} :
    Member.AllUnambiguous s ms ↔ ∀ m ∈ ms, m.Unambiguous s := by
  induction ms with
  | nil => simp [Member.AllUnambiguous]
  | cons m ms ih => simp [Member.AllUnambiguous, ih]

mutual

/-- Whether a member makes no use of global elements. -/
def Member.isLocal : Member → Bool
  | .element _ e _ => e.referenced.isNone
  | .set _ _ members _ => Member.allLocal members
  | .list _ item _ => Member.isLocal item

/-- Whether no member makes use of global elements. -/
def Member.allLocal : List Member → Bool
  | [] => true
  | m :: ms => Member.isLocal m && Member.allLocal ms

end

theorem Member.allLocal_eq_true {ms : List Member} :
    Member.allLocal ms = true ↔ ∀ m ∈ ms, m.isLocal := by
  induction ms with
  | nil => simp [Member.allLocal]
  | cons m ms ih => simp [Member.allLocal, ih]

/-- The name by which an object finds a member. -/
def Object.memberName? : Object → Option String
  | .element name _ => some name.name
  | .childSet name _ | .childList name _ => name
  | _ => none

section Local

variable {s : Schema}

/-- An object stands for a local member only under the name of the member. -/
theorem memberName?_of_matchMember {m : Member} (hs : m.Sound s) (hl : m.isLocal) {o : Object}
    (h : (s.matchMember o m).isSome) : o.memberName? = some m.name := by
  cases m with
  | element l e opt =>
    cases o with
    | element name slot =>
      have href : e.referenced = none := by simpa [Member.isLocal] using hl
      have hm : name.matches e.fullName := by
        by_contra hne
        simp [Schema.matchMember, Schema.matchElement, href, hne] at h
      rw [FullName.matches, Bool.and_eq_true, beq_iff_eq] at hm
      rw [Object.memberName?, hm.1]
      exact congrArg some (hs.2 href).symm
    | _ => cases h
  | set l k ms p =>
    cases o with
    | childSet name items =>
      by_contra hne
      have hne : ¬name = some l.name := hne
      simp [Schema.matchMember, hne] at h
    | _ => cases h
  | list l i occurs =>
    cases o with
    | childList name items =>
      by_contra hne
      have hne : ¬name = some l.name := hne
      simp [Schema.matchMember, hne] at h
    | _ => cases h

theorem Member.apart_of_allLocal {ms : List Member} (hs : ∀ m ∈ ms, m.Sound s)
    (hl : Member.allLocal ms) : Member.Apart s ms := by
  rw [Member.allLocal_eq_true] at hl
  intro o m hm n hn hom hon
  have hm' := memberName?_of_matchMember (hs m hm) (hl m hm) hom
  have hn' := memberName?_of_matchMember (hs n hn) (hl n hn) hon
  exact Option.some.inj (hm'.symm.trans hn')

mutual

/-- Members that make no use of global elements are told apart. -/
theorem Member.unambiguous_of_isLocal {m : Member} (hs : m.Sound s) (hl : m.isLocal) :
    m.Unambiguous s := by
  cases m with
  | element l e o => trivial
  | set l k ms p =>
    have hset := (Member.sound_set.1 hs).members
    exact ⟨Member.apart_of_allLocal hset hl, Member.allUnambiguous_of_allLocal hs.2 hl⟩
  | list l i o => exact Member.unambiguous_of_isLocal (m := i) hs hl

theorem Member.allUnambiguous_of_allLocal {ms : List Member} (hs : Member.AllSound s ms)
    (hl : Member.allLocal ms) : Member.AllUnambiguous s ms := by
  cases ms with
  | nil => trivial
  | cons m ms =>
    simp only [Member.allLocal, Bool.and_eq_true] at hl
    exact ⟨Member.unambiguous_of_isLocal hs.1 hl.1,
      Member.allUnambiguous_of_allLocal hs.2 hl.2⟩

end

end Local

section Both

variable {s : Schema} {R R' : Element → Element → Prop}

theorem Member.SetSound.tail {m : Member} {ms : List Member} (h : Member.SetSound s (m :: ms)) :
    Member.SetSound s ms :=
  ⟨(List.nodup_cons.1 h.names).2, fun x hx => h.members x (List.mem_cons_of_mem _ hx)⟩

/-- What is left of some members has no name of a member before them. -/
theorem MembersNarrow.name_ne {k : SetKind} {ms ms' : List Member} {m m' : Member}
    (h : MembersNarrow R k ms ms') (hs : Member.SetSound s (m' :: ms')) (hm : m ∈ ms) :
    m.name ≠ m'.name := by
  intro hname
  have hmem := h.names.subset (List.mem_map_of_mem hm)
  rw [hname] at hmem
  exact (List.nodup_cons.1 hs.names).1 hmem

mutual

/-- Members narrow others in two respects at once, since names tell which belong together. -/
theorem Member.Narrows.both {m m' : Member} (h : m.Narrows R m') (h' : m.Narrows R' m')
    (hs : m'.Sound s) : m.Narrows (fun e f => R e f ∧ R' e f) m' := by
  cases h with
  | element name element optional =>
    cases h' with
    | element _ element' _ => exact .element name ⟨element, element'⟩ optional
  | set name members kept =>
    cases h' with
    | set _ members' _ =>
      exact .set name (MembersNarrow.both members members' (Member.sound_set.1 hs)) kept
  | list name item occurs =>
    cases h' with
    | list _ item' _ => exact .list name (Member.Narrows.both item item' hs) occurs

theorem MembersNarrow.both {k : SetKind} {ms ms' : List Member} (h : MembersNarrow R k ms ms')
    (h' : MembersNarrow R' k ms ms') (hs : Member.SetSound s ms') :
    MembersNarrow (fun e f => R e f ∧ R' e f) k ms ms' := by
  cases h with
  | nil => exact .nil
  | keep member rest =>
    cases h' with
    | keep member' rest' =>
      exact .keep (Member.Narrows.both member member' (hs.members _ List.mem_cons_self))
        (MembersNarrow.both rest rest' hs.tail)
    | drop _ rest' => exact absurd member.name (rest'.name_ne hs List.mem_cons_self)
  | drop optional rest =>
    cases h' with
    | keep member' rest' => exact absurd member'.name (rest.name_ne hs List.mem_cons_self)
    | drop _ rest' => exact .drop optional (MembersNarrow.both rest rest' hs.tail)

end

/-- Every member that is left has its counterpart. -/
theorem MembersNarrow.exists_counterpart {k : SetKind} {ms ms' : List Member}
    (h : MembersNarrow R k ms ms') {m : Member} (hm : m ∈ ms) :
    ∃ m' ∈ ms', m.Narrows R m' := by
  induction ms' generalizing ms with
  | nil =>
    cases h
    cases hm
  | cons m' ms' ih =>
    cases h with
    | keep member rest =>
      rcases List.mem_cons.1 hm with rfl | hm
      · exact ⟨m', List.mem_cons_self, member⟩
      · obtain ⟨x, hx, hmx⟩ := ih rest hm
        exact ⟨x, List.mem_cons_of_mem _ hx, hmx⟩
    | drop optional rest =>
      obtain ⟨x, hx, hmx⟩ := ih rest hm
      exact ⟨x, List.mem_cons_of_mem _ hx, hmx⟩

end Both

/-! ## Weaker demands -/

/-- An element that narrows and restates another one. -/
def Element.Keeps (s : Schema) (e f : Element) : Prop := e.Narrows s f ∧ e.Restates s f

/-- A demand that every object fulfils which fulfils another one. -/
inductive Demand.Weaker (s : Schema) : Demand → Demand → Prop
  | instanceOf (t : TypeId) : Demand.Weaker s (.instanceOf t) (.instanceOf t)
  | holderOf (t : TypeId) {n n' : Bool} (nullable : n → n') :
      Demand.Weaker s (.holderOf t n) (.holderOf t n')
  | element {e f : Element} (type : e.type = f.type) (nullable : e.isNullable → f.isNullable)
      (isAbstract : f.isAbstract → e.isAbstract) : Demand.Weaker s (.element e) (.element f)
  | childSet {k : SetKind} {ms ms' : List Member} {p p' : Option Span}
      (members : MembersNarrow (Element.Keeps s) k ms ms') (sound : Member.SetSound s ms')
      (apart : Member.Apart s ms') (unambiguous : ∀ m ∈ ms', m.Unambiguous s) :
      Demand.Weaker s (.childSet ⟨k, ms, p⟩) (.childSet ⟨k, ms', p'⟩)
  | childList {i i' : Member} {o o' : Occurs} (item : i.Narrows (Element.Keeps s) i')
      (occurs : o.restricts o') (sound : i'.Sound s) (unambiguous : i'.Unambiguous s) :
      Demand.Weaker s (.childList i o) (.childList i' o')

section Matching

variable {s : Schema}

theorem Demand.Weaker.refl_element (s : Schema) (e : Element) :
    Demand.Weaker s (.element e) (.element e) :=
  .element rfl id id

/-- An object that stands for an element stands for the one that it restates, with a weaker
demand. -/
theorem matchElement_weaker {e f : Element} (h : e.Keeps s f) {name : FullName} {x : Element}
    (hx : s.matchElement name e = some x) :
    ∃ y, s.matchElement name f = some y ∧ Demand.Weaker s (.element x) (.element y) := by
  obtain ⟨hn, hr⟩ := h
  unfold Schema.matchElement at hx ⊢
  cases hf : f.referenced with
  | some head =>
    obtain ⟨id, hid, -⟩ := hn.reference head hf
    simp only [hid] at hx
    exact ⟨x, hr.found id head hid hf name x hx, .refl_element s x⟩
  | none =>
    obtain ⟨hid, hname, habs⟩ := hn.inner hf
    simp only [hid, hname] at hx
    split at hx
    · rename_i hm
      cases hx
      simp only [hm, if_true]
      exact ⟨f, rfl, .element hr.type hn.nullable (by rw [habs]; exact id)⟩
    · cases hx

/-- An object that stands for a member stands for the one that the member narrows. -/
theorem matchMember_weaker {m m' : Member} (h : m.Narrows (Element.Keeps s) m') (hs : m'.Sound s)
    (hu : m'.Unambiguous s) {o : Object} {d : Demand} (hd : s.matchMember o m = some d) :
    ∃ d', s.matchMember o m' = some d' ∧ d.Weaker s d' := by
  cases h with
  | element name element optional =>
    cases o with
    | element n slot =>
      obtain ⟨x, hx, rfl⟩ := Option.map_eq_some_iff.1 hd
      obtain ⟨y, hy, hxy⟩ := matchElement_weaker element hx
      exact ⟨.element y, Option.map_eq_some_iff.2 ⟨y, hy, rfl⟩, hxy⟩
    | _ => cases hd
  | set name members kept =>
    cases o with
    | childSet n items =>
      unfold Schema.matchMember at hd ⊢
      dsimp only at hd ⊢
      split at hd
      · rename_i hn
        cases hd
        have hset := Member.sound_set.1 hs
        rw [if_pos (name ▸ hn)]
        exact ⟨_, rfl, .childSet members hset hu.1 (Member.allUnambiguous_iff.1 hu.2)⟩
      · cases hd
    | _ => cases hd
  | list name item occurs =>
    cases o with
    | childList n items =>
      unfold Schema.matchMember at hd ⊢
      dsimp only at hd ⊢
      split at hd
      · rename_i hn
        cases hd
        rw [if_pos (name ▸ hn)]
        exact ⟨_, rfl, .childList item occurs hs hu⟩
      · cases hd
    | _ => cases hd

/-- An item of a list stands for the item that the other list declares. -/
theorem matchItem_weaker {m m' : Member} (h : m.Narrows (Element.Keeps s) m') (hs : m'.Sound s)
    (hu : m'.Unambiguous s) {o : Object} {d : Demand} (hd : s.matchItem o m = some d) :
    ∃ d', s.matchItem o m' = some d' ∧ d.Weaker s d' := by
  cases h with
  | element name element optional =>
    cases o with
    | element n slot =>
      obtain ⟨x, hx, rfl⟩ := Option.map_eq_some_iff.1 hd
      obtain ⟨y, hy, hxy⟩ := matchElement_weaker element hx
      exact ⟨.element y, Option.map_eq_some_iff.2 ⟨y, hy, rfl⟩, hxy⟩
    | _ => cases hd
  | set name members kept =>
    cases o with
    | childSet n items =>
      unfold Schema.matchItem at hd ⊢
      dsimp only at hd ⊢
      split at hd
      · rename_i hn
        cases hd
        have hset := Member.sound_set.1 hs
        rw [if_pos (name ▸ hn)]
        exact ⟨_, rfl, .childSet members hset hu.1 (Member.allUnambiguous_iff.1 hu.2)⟩
      · cases hd
    | _ => cases hd
  | list name item occurs => cases o <;> cases hd

/-! ## Children that are found -/

/-- What an object of a tree has to be if it stands for a member. -/
def Schema.demandAt (s : Schema) (t : Tree) (m : Member) (id : ObjectId) : Option Demand :=
  (t.node? id).bind fun n => s.matchMember n.object m

theorem demandAt_weaker {t : Tree} {m m' : Member} (h : m.Narrows (Element.Keeps s) m')
    (hs : m'.Sound s) (hu : m'.Unambiguous s) {id : ObjectId} {d : Demand}
    (hd : s.demandAt t m id = some d) : ∃ d', s.demandAt t m' id = some d' ∧ d.Weaker s d' := by
  obtain ⟨n, hn, hd⟩ := Option.bind_eq_some_iff.1 hd
  obtain ⟨d', hd', hw⟩ := matchMember_weaker h hs hu hd
  exact ⟨d', Option.bind_eq_some_iff.2 ⟨n, hn, hd'⟩, hw⟩

theorem firstMatch_cons {t : Tree} {m : Member} (id : ObjectId) (rest : List ObjectId) :
    s.firstMatch t m (id :: rest) =
      match s.demandAt t m id with
      | some d => some ⟨id, d, [], rest⟩
      | none => (s.firstMatch t m rest).map fun f => { f with before := id :: f.before } := by
  rw [Schema.firstMatch]
  rfl

theorem demandAt_of_firstMatch {t : Tree} {m : Member} {ids : List ObjectId} {found : MemberMatch}
    (h : s.firstMatch t m ids = some found) : s.demandAt t m found.child = some found.demand := by
  induction ids generalizing found with
  | nil => cases h
  | cons id rest ih =>
    rw [firstMatch_cons] at h
    split at h
    · rename_i d hd
      cases h
      exact hd
    · obtain ⟨f, hf, rfl⟩ := Option.map_eq_some_iff.1 h
      have hd := ih hf
      exact hd

theorem firstMatch_eq_none {t : Tree} {m : Member} {ids : List ObjectId}
    (h : ∀ id ∈ ids, s.demandAt t m id = none) : s.firstMatch t m ids = none := by
  induction ids with
  | nil => rfl
  | cons id rest ih =>
    obtain ⟨hid, hrest⟩ := List.forall_mem_cons.1 h
    rw [firstMatch_cons, hid, ih hrest]
    rfl

/-- Where the same objects stand for two members, the same one is found first for both. -/
theorem firstMatch_weaker {t : Tree} {m m' : Member} (h : m.Narrows (Element.Keeps s) m')
    (hs : m'.Sound s) (hu : m'.Unambiguous s) {ids : List ObjectId}
    (hsame : ∀ id ∈ ids, (s.demandAt t m' id).isSome → (s.demandAt t m id).isSome) :
    (s.firstMatch t m ids = none ∧ s.firstMatch t m' ids = none) ∨
    ∃ found d', s.firstMatch t m ids = some found ∧
      s.firstMatch t m' ids = some { found with demand := d' } ∧ found.demand.Weaker s d' := by
  induction ids with
  | nil => exact Or.inl ⟨rfl, rfl⟩
  | cons id rest ih =>
    obtain ⟨hid, hrest⟩ := List.forall_mem_cons.1 hsame
    rw [firstMatch_cons, firstMatch_cons]
    cases hd : s.demandAt t m id with
    | some d =>
      obtain ⟨d', hd', hw⟩ := demandAt_weaker h hs hu hd
      rw [hd']
      exact Or.inr ⟨_, d', rfl, rfl, hw⟩
    | none =>
      have hd' : s.demandAt t m' id = none := by
        by_contra hne
        have := hid (Option.isSome_iff_ne_none.2 hne)
        rw [hd] at this
        cases this
      rw [hd']
      rcases ih hrest with ⟨hn, hn'⟩ | ⟨found, d', hf, hf', hw⟩
      · simp only [hn, hn']
        exact Or.inl ⟨rfl, rfl⟩
      · simp only [hf, hf']
        exact Or.inr ⟨_, d', rfl, rfl, hw⟩

theorem mem_remaining {kind : SetKind} {t : Tree} {m : Member} {ids : List ObjectId}
    {found : MemberMatch} (h : s.firstMatch t m ids = some found) {id : ObjectId}
    (hid : id ∈ found.remaining kind) : id ∈ ids := by
  rw [Schema.eq_of_firstMatch h]
  unfold MemberMatch.remaining at hid
  cases kind <;> simp only [List.mem_append, List.mem_cons] at hid ⊢ <;> tauto

/-! ## Members that are left -/

/-- Every object that stands for one of some members stands for the one of the same name among those
that are left of them. -/
def Schema.StandFor (s : Schema) (t : Tree) (ids : List ObjectId) (ms ms' : List Member) : Prop :=
  ∀ m' ∈ ms', ∀ id ∈ ids, (s.demandAt t m' id).isSome →
    ∃ m ∈ ms, m.name = m'.name ∧ (s.demandAt t m id).isSome

namespace Schema.StandFor

variable {t : Tree} {ids : List ObjectId} {k : SetKind} {m m' : Member} {ms ms' : List Member}
  {R : Element → Element → Prop}

theorem subset (h : s.StandFor t ids ms ms') {ids' : List ObjectId} (hsub : ∀ id ∈ ids', id ∈ ids) :
    s.StandFor t ids' ms ms' :=
  fun m' hm' id hid => h m' hm' id (hsub id hid)

/-- Nothing stands for a member that was dropped. -/
theorem dropped (h : s.StandFor t ids ms (m' :: ms')) (hn : MembersNarrow R k ms ms')
    (hs : Member.SetSound s (m' :: ms')) {id : ObjectId} (hid : id ∈ ids) :
    s.demandAt t m' id = none := by
  by_contra hne
  obtain ⟨x, hx, hname, -⟩ := h m' List.mem_cons_self id hid (Option.isSome_iff_ne_none.2 hne)
  exact hn.name_ne hs hx hname

/-- What stands for a member stands for what is left of it. -/
theorem head (h : s.StandFor t ids (m :: ms) (m' :: ms')) (hn : MembersNarrow R k ms ms')
    (hs : Member.SetSound s (m' :: ms')) {id : ObjectId} (hid : id ∈ ids)
    (hd : (s.demandAt t m' id).isSome) : (s.demandAt t m id).isSome := by
  obtain ⟨x, hx, hname, hxd⟩ := h m' List.mem_cons_self id hid hd
  rcases List.mem_cons.1 hx with rfl | hx
  · exact hxd
  · exact absurd hname (hn.name_ne hs hx)

theorem tail (h : s.StandFor t ids (m :: ms) (m' :: ms')) (hname : m.name = m'.name)
    (hs : Member.SetSound s (m' :: ms')) : s.StandFor t ids ms ms' := by
  intro x' hx' id hid hd
  obtain ⟨x, hx, hxname, hxd⟩ := h x' (List.mem_cons_of_mem _ hx') id hid hd
  rcases List.mem_cons.1 hx with rfl | hx
  · have hfresh := (List.nodup_cons.1 hs.names).1
    rw [← hname, hxname] at hfresh
    exact absurd (List.mem_map_of_mem hx') hfresh
  · exact ⟨x, hx, hxname, hxd⟩

/-- Where members are told apart, objects that stand for one that is left stand for no other member
than its counterpart. -/
theorem of_apart (hn : MembersNarrow (Element.Keeps s) k ms ms') (hs : Member.SetSound s ms')
    (ha : Member.Apart s ms') (hu : ∀ m ∈ ms', m.Unambiguous s)
    (hids : ∀ id ∈ ids, ∃ m ∈ ms, (s.demandAt t m id).isSome) : s.StandFor t ids ms ms' := by
  intro m' hm' id hid hd
  obtain ⟨m, hmem, hmd⟩ := hids id hid
  obtain ⟨n', hn', hmn⟩ := hn.exists_counterpart hmem
  refine ⟨m, hmem, hmn.name.trans ?_, hmd⟩
  obtain ⟨d, hdm⟩ := Option.isSome_iff_exists.1 hmd
  obtain ⟨e, hdn, -⟩ := demandAt_weaker hmn (hs.members n' hn') (hu n' hn') hdm
  obtain ⟨f, hdm'⟩ := Option.isSome_iff_exists.1 hd
  obtain ⟨node, hnode, hen⟩ := Option.bind_eq_some_iff.1 hdn
  obtain ⟨node', hnode', hfn⟩ := Option.bind_eq_some_iff.1 hdm'
  obtain rfl := Option.some.inj (hnode.symm.trans hnode')
  exact ha node.object n' hn' m' hm' (by rw [hen]; rfl) (by rw [hfn]; rfl)

end Schema.StandFor

end Matching

end Schemata
