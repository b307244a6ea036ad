import Schemata.Proofs.BuiltTrees
import Schemata.Proofs.Matching
import Schemata.Proofs.Substitution

/-!
# What a check finds wrong with a child set

A check looks for a child for each member in turn, and takes the first one that stands for it. In a
sequence it goes on behind that child, so it may pass over children which a later member needs, and
in a choice it goes on with all the others.

Which objects stand for which members is said by rules (`Schema.Matches`), and so is which children
a sequence may have: an assignment of the children to members in their order that leaves out only
members that may be absent (`Assigned`, or `Assigns` by positions). If nothing is found to be wrong
then the search itself is such an assignment. The converse holds if no child stands for two members,
since the search then passes over no child (`Schema.reports_of_childSet`).
-/

namespace Schemata

/-!
## What a check does

A check asks the tree, records findings and visits objects below. What it records itself, what it
visits and in which order depends on the schema and on the tree alone, and on nothing that a visit
tells or records: `Check.Does` says of a part of a check that it does certain deeds, one after the
other, and comes to a result. The rules follow a check from step to step.
-/

/-- Something that a check does: it records a finding for an object, or visits an object below. -/
inductive Deed
  | report (id : ObjectId) (f : Finding)
  | visit (id : ObjectId) (d : Demand)

/-- The finding that is recorded, for its object. -/
def Deed.finding? : Deed → Option (ObjectId × Finding)
  | .report id f => some (id, f)
  | .visit _ _ => none

/-- What some deeds record outside the visits among them. -/
def Deed.reports (deeds : List Deed) : List (ObjectId × Finding) := deeds.filterMap Deed.finding?

theorem Deed.reports_append (ds es : List Deed) :
    Deed.reports (ds ++ es) = Deed.reports ds ++ Deed.reports es :=
  List.filterMap_append

namespace Check

variable {σ α β : Type} {c : Check σ} {w : Walk σ α} {f : α → Walk σ β} {a : α} {b : β}
  {ds es : List Deed}

/-- Do some deeds, one after the other. -/
def perform (c : Check σ) : List Deed → Walk σ Unit
  | [] => pure ()
  | .report id f :: rest => do
    c.report id f
    c.perform rest
  | .visit id d :: rest => do
    c.below id d
    c.perform rest

theorem perform_append (c : Check σ) (ds es : List Deed) :
    c.perform (ds ++ es) = c.perform ds >>= fun _ => c.perform es := by
  induction ds with
  | nil => simp [perform]
  | cons d ds ih => cases d <;> simp [perform, ih]

/-- A part of a check does certain deeds and comes to a result. -/
def Does (c : Check σ) (w : Walk σ α) (deeds : List Deed) (a : α) : Prop :=
  w = c.perform deeds >>= fun _ => pure a

theorem does_unit {w : Walk σ Unit} : c.Does w ds () ↔ w = c.perform ds := by
  rw [Does, bind_pure_unit]

namespace Does

theorem pure (a : α) : c.Does (Pure.pure a) [] a := by
  simp [Does, perform]

/-- A question is no deed. -/
theorem ask {x : Except TreeFault α} (h : x = .ok a) : c.Does (Walk.ask x) [] a := by
  subst h
  simp [Does, perform]
  rfl

theorem report (id : ObjectId) (f : Finding) : c.Does (c.report id f) [.report id f] () :=
  does_unit.2 (by simp [perform])

theorem below (id : ObjectId) (d : Demand) : c.Does (c.below id d) [.visit id d] () :=
  does_unit.2 (by simp [perform])

theorem bind (h : c.Does w ds a) (hf : c.Does (f a) es b) : c.Does (w >>= f) (ds ++ es) b := by
  rw [Does] at h hf ⊢
  rw [h, perform_append, bind_assoc, bind_assoc]
  refine bind_congr fun _ => ?_
  rw [pure_bind, hf]

theorem ite {q : Prop} [Decidable q] {v : Walk σ α} (h : c.Does v ds a) (h' : c.Does w es a) :
    c.Does (if q then v else w) (if q then ds else es) a := by
  split
  · exact h
  · exact h'

/-- The first step may depend on a condition. -/
theorem ite_bind {q : Prop} [Decidable q] {w : Walk σ Unit} {rest : Walk σ β} (h : c.Does w ds ())
    (hrest : c.Does rest es b) :
    c.Does (if q then w >>= fun _ => rest else rest) ((if q then ds else []) ++ es) b := by
  split
  · exact h.bind hrest
  · exact hrest

end Does

theorem does_reportAll (f : ObjectId → Finding) (ids : List ObjectId) :
    c.Does (c.reportAll f ids) (ids.map fun id => .report id (f id)) () := by
  induction ids with
  | nil => exact .pure ()
  | cons id rest ih => exact (Does.report id (f id)).bind ih

end Check

open Relation

/-! ## Objects and members -/

/-- A name is that of a declared element, or its local part if it has no namespace. -/
def FullName.Denotes (given declared : FullName) : Prop :=
  given.name = declared.name ∧ (given.uri = "" ∨ given.uri = declared.uri)

theorem FullName.matches_iff (given declared : FullName) :
    given.matches declared ↔ given.Denotes declared := by
  simp [FullName.matches, Denotes]

namespace Schema

variable {s : Schema} {t : Tree}

/-- An object is one that a member asks for: an element of the declared name, or of the name of a
global element that may stand in for the declared one, or a set or a list of the name of the
member. -/
inductive Matches (s : Schema) : Object → Member → Prop
  | inner {label : MemberLabel} {e : Element} {optional : Bool} {name : FullName} {slot : Slot}
      (inner : e.referenced = none) (denotes : name.Denotes e.fullName) :
      Matches s (.element name slot) (.element label e optional)
  | global {label : MemberLabel} {e g : Element} {optional : Bool} {name : FullName} {slot : Slot}
      {head c : ElementId} (reference : e.referenced = some head)
      (substitutes : ReflTransGen (fun x y => s.substituted? x = some y) c head)
      (element : s.element? c = some g) (denotes : name.Denotes g.fullName) :
      Matches s (.element name slot) (.element label e optional)
  | set (label : MemberLabel) (kind : SetKind) (members : List Member) (span : Option Span)
      (items : List ObjectId) :
      Matches s (.childSet (some label.name) items) (.set label kind members span)
  | list (label : MemberLabel) (item : Member) (occurs : Occurs) (items : List ObjectId) :
      Matches s (.childList (some label.name) items) (.list label item occurs)

theorem Substitutes.isSome_matchGlobal (hs : s.Substitutes) {name : FullName} {head : ElementId} :
    (s.matchGlobal name head).isSome ↔
      ∃ c g, ReflTransGen (fun x y => s.substituted? x = some y) c head ∧
        s.element? c = some g ∧ name.Denotes g.fullName := by
  have hmem : ∀ c, c ∈ head :: s.allSubstitutors head ↔
      ReflTransGen (fun x y => s.substituted? x = some y) c head := fun c =>
    (mem_candidates (hs.search c head)).trans (hs.chain c head)
  rw [matchGlobal, List.find?_isSome]
  constructor
  · rintro ⟨g, hg, hname⟩
    obtain ⟨c, hc, hgc⟩ := List.mem_filterMap.1 hg
    exact ⟨c, g, (hmem c).1 hc, hgc, (FullName.matches_iff _ _).1 hname⟩
  · rintro ⟨c, g, hc, hgc, hname⟩
    exact ⟨g, List.mem_filterMap.2 ⟨c, (hmem c).2 hc, hgc⟩, (FullName.matches_iff _ _).2 hname⟩

/-- A demand is found for the objects that a member asks for. -/
theorem Substitutes.isSome_matchMember (hs : s.Substitutes) (o : Object) (m : Member) :
    (s.matchMember o m).isSome ↔ s.Matches o m := by
  constructor
  · intro h
    cases m with
    | element label e optional =>
      cases o with
      | element name slot =>
        rw [matchMember, Option.isSome_map, matchElement] at h
        cases hr : e.referenced with
        | none =>
          rw [hr] at h
          by_cases hname : name.matches e.fullName
          · exact .inner hr ((FullName.matches_iff _ _).1 hname)
          · simp [hname] at h
        | some head =>
          rw [hr] at h
          obtain ⟨c, g, hc, hg, hname⟩ := hs.isSome_matchGlobal.1 h
          exact .global hr hc hg hname
      | _ => cases h
    | set label kind members span =>
      cases o with
      | childSet name items =>
        by_cases hname : name = some label.name
        · exact hname ▸ .set label kind members span items
        · simp [matchMember, hname] at h
      | _ => cases h
    | list label item occurs =>
      cases o with
      | childList name items =>
        by_cases hname : name = some label.name
        · exact hname ▸ .list label item occurs items
        · simp [matchMember, hname] at h
      | _ => cases h
  · intro h
    cases h with
    | inner hr hname => simp [matchMember, matchElement, hr, (FullName.matches_iff _ _).2 hname]
    | global hr hc hg hname =>
      rw [matchMember, Option.isSome_map, matchElement, hr]
      exact hs.isSome_matchGlobal.2 ⟨_, _, hc, hg, hname⟩
    | set => simp [matchMember]
    | list => simp [matchMember]

/-- An object of a tree is one that a member asks for. -/
def StandsFor (s : Schema) (t : Tree) (x : ObjectId) (m : Member) : Prop :=
  ∃ o, t.get x = .ok o ∧ s.Matches o m

theorem Substitutes.isSome_demandAt (hs : s.Substitutes) {x : ObjectId} {m : Member} :
    (s.demandAt t m x).isSome ↔ s.StandsFor t x m := by
  unfold demandAt StandsFor
  rw [Option.isSome_bind]
  simp only [Option.any_eq_true, hs.isSome_matchMember, Tree.get_eq_ok, Tree.object?,
    Option.map_eq_some_iff]
  constructor
  · rintro ⟨n, hn, hm⟩
    exact ⟨_, ⟨n, hn, rfl⟩, hm⟩
  · rintro ⟨_, ⟨n, hn, rfl⟩, hm⟩
    exact ⟨n, hn, hm⟩

end Schema

/-! ## Assignments -/

section Assignments

variable {α β : Type} {P : α → β → Prop} {optional : β → Prop} {x : α} {m : β} {xs : List α}
  {ms : List β}

/-- Things are assigned to members in their order, and only members that may be absent are left
out. -/
inductive Assigned (P : α → β → Prop) (optional : β → Prop) : List α → List β → Prop
  | nil : Assigned P optional [] []
  | take {x : α} {m : β} {xs : List α} {ms : List β} (stands : P x m)
      (rest : Assigned P optional xs ms) : Assigned P optional (x :: xs) (m :: ms)
  | skip {m : β} {xs : List α} {ms : List β} (absent : optional m)
      (rest : Assigned P optional xs ms) : Assigned P optional xs (m :: ms)

theorem Assigned.exists_mem (h : Assigned P optional xs ms) (hx : x ∈ xs) : ∃ m ∈ ms, P x m := by
  induction h with
  | nil => cases hx
  | take stands _ ih =>
    rcases List.mem_cons.1 hx with rfl | hx
    · exact ⟨_, List.mem_cons_self, stands⟩
    · obtain ⟨m, hm, hP⟩ := ih hx
      exact ⟨m, List.mem_cons_of_mem _ hm, hP⟩
  | skip _ _ ih =>
    obtain ⟨m, hm, hP⟩ := ih hx
    exact ⟨m, List.mem_cons_of_mem _ hm, hP⟩

theorem Assigned.imp {Q : α → β → Prop} (hPQ : ∀ x m, P x m → Q x m)
    (h : Assigned P optional xs ms) : Assigned Q optional xs ms := by
  induction h with
  | nil => exact .nil
  | take stands _ ih => exact .take (hPQ _ _ stands) ih
  | skip absent _ ih => exact .skip absent ih

/-- A map from positions to positions of members that keeps the order and uses every member that
may not be absent. -/
structure Assigns (P : α → β → Prop) (optional : β → Prop) (xs : List α) (ms : List β)
    (f : Fin xs.length → Fin ms.length) : Prop where
  mono : StrictMono f
  stands : ∀ i, P (xs.get i) (ms.get (f i))
  used : ∀ j, ¬optional (ms.get j) → ∃ i, f i = j

namespace Assigns

theorem cons {f : Fin xs.length → Fin ms.length} (h : Assigns P optional xs ms f)
    (stands : P x m) :
    Assigns P optional (x :: xs) (m :: ms) (Fin.cons 0 fun i => (f i).succ) where
  mono := by
    intro i j hij
    cases j using Fin.cases with
    | zero => exact absurd hij (Fin.not_lt_zero i)
    | succ j =>
      cases i using Fin.cases with
      | zero => exact Fin.succ_pos _
      | succ i => exact Fin.succ_lt_succ_iff.2 (h.mono (Fin.succ_lt_succ_iff.1 hij))
  stands i := by
    cases i using Fin.cases with
    | zero => exact stands
    | succ i => exact h.stands i
  used j hj := by
    cases j using Fin.cases with
    | zero => exact ⟨0, rfl⟩
    | succ j =>
      obtain ⟨i, rfl⟩ := h.used j hj
      exact ⟨i.succ, rfl⟩

theorem skip {f : Fin xs.length → Fin ms.length} (h : Assigns P optional xs ms f)
    (absent : optional m) : Assigns P optional xs (m :: ms) (fun i => (f i).succ) where
  mono i j hij := Fin.succ_lt_succ_iff.2 (h.mono hij)
  stands := h.stands
  used j hj := by
    cases j using Fin.cases with
    | zero => exact absurd absent hj
    | succ j =>
      obtain ⟨i, rfl⟩ := h.used j hj
      exact ⟨i, rfl⟩

/-- No position but the first may be assigned to the first member, so the others are assigned to
the other members. -/
theorem tail {f : Fin xs.length → Fin (m :: ms).length} (h : Assigns P optional xs (m :: ms) f)
    (hf : ∀ i, f i ≠ 0) : Assigns P optional xs ms (fun i => (f i).pred (hf i)) where
  mono i j hij := Fin.pred_lt_pred_iff.2 (h.mono hij)
  stands i := by
    have hi := h.stands i
    rw [← Fin.succ_pred (f i) (hf i)] at hi
    exact hi
  used j hj := by
    obtain ⟨i, hi⟩ := h.used j.succ hj
    exact ⟨i, by simp [hi]⟩

/-- Behind the first position, which is assigned to the first member, the others are assigned to the
other members. -/
theorem behind {f : Fin (x :: xs).length → Fin (m :: ms).length}
    (h : Assigns P optional (x :: xs) (m :: ms) f) (hfirst : f 0 = 0)
    (hf : ∀ i : Fin xs.length, f i.succ ≠ 0) :
    Assigns P optional xs ms (fun i => (f i.succ).pred (hf i)) where
  mono i j hij := Fin.pred_lt_pred_iff.2 (h.mono (Fin.succ_lt_succ_iff.2 hij))
  stands i := by
    have hi := h.stands i.succ
    rw [← Fin.succ_pred (f i.succ) (hf i)] at hi
    exact hi
  used j hj := by
    obtain ⟨i, hi⟩ := h.used j.succ hj
    cases i using Fin.cases with
    | zero => exact absurd (hfirst.symm.trans hi) (Fin.succ_ne_zero j).symm
    | succ i => exact ⟨i, by simp [hi]⟩

end Assigns

/-- Assignments by position and by recursion are the same. -/
theorem assigned_iff_exists_assigns :
    Assigned P optional xs ms ↔ ∃ f, Assigns P optional xs ms f := by
  constructor
  · intro h
    induction h with
    | nil => exact ⟨id, strictMono_id, fun i => i.elim0, fun j => j.elim0⟩
    | take stands _ ih =>
      obtain ⟨f, hf⟩ := ih
      exact ⟨_, hf.cons stands⟩
    | skip absent _ ih =>
      obtain ⟨f, hf⟩ := ih
      exact ⟨_, hf.skip absent⟩
  · rintro ⟨f, hf⟩
    induction ms generalizing xs with
    | nil =>
      cases xs with
      | nil => exact .nil
      | cons x xs => exact (f 0).elim0
    | cons m ms ih =>
      by_cases hzero : ∃ i, f i = 0
      · obtain ⟨i, hi⟩ := hzero
        cases xs with
        | nil => exact i.elim0
        | cons x xs =>
          have hfirst : f 0 = 0 := Fin.le_zero_iff.1 (hi ▸ hf.mono.monotone (Fin.zero_le i))
          have hne : ∀ i : Fin xs.length, f i.succ ≠ 0 := fun i =>
            (hfirst ▸ hf.mono (Fin.succ_pos i)).ne'
          have hstands : P x m := by simpa [hfirst] using hf.stands 0
          exact .take hstands (ih _ (hf.behind hfirst hne))
      · have hne : ∀ i, f i ≠ 0 := fun i hi => hzero ⟨i, hi⟩
        refine .skip ?_ (ih _ (hf.tail hne))
        by_contra habsent
        exact hzero (hf.used 0 habsent)

end Assignments

/-! ## Searching -/

namespace Schema

variable {s : Schema} {t : Tree} {kind : SetKind} {m : Member} {ms : List Member}
  {available : List ObjectId} {found : MemberMatch} {x : ObjectId}

/-- What each member of a set finds, the members one after the other. -/
def search (s : Schema) (t : Tree) (kind : SetKind) :
    List Member → List ObjectId → List (Member × Option MemberMatch)
  | [], _ => []
  | m :: ms, available =>
    match s.firstMatch t m available with
    | some found => (m, some found) :: s.search t kind ms (found.remaining kind)
    | none => (m, none) :: s.search t kind ms available

/-- The children that are found, with the names of the members. -/
def known (s : Schema) (t : Tree) (kind : SetKind) (ms : List Member) (available : List ObjectId) :
    List (ObjectId × String) :=
  (s.search t kind ms available).filterMap fun p => p.2.map fun found => (found.child, p.1.name)

theorem search_of_some (h : s.firstMatch t m available = some found) :
    s.search t kind (m :: ms) available =
      (m, some found) :: s.search t kind ms (found.remaining kind) := by
  rw [search, h]

theorem search_of_none (h : s.firstMatch t m available = none) :
    s.search t kind (m :: ms) available = (m, none) :: s.search t kind ms available := by
  rw [search, h]

theorem known_of_some (h : s.firstMatch t m available = some found) :
    s.known t kind (m :: ms) available =
      (found.child, m.name) :: s.known t kind ms (found.remaining kind) := by
  rw [known, search_of_some h]
  rfl

theorem known_of_none (h : s.firstMatch t m available = none) :
    s.known t kind (m :: ms) available = s.known t kind ms available := by
  rw [known, search_of_none h]
  rfl

/-- No child is found twice, and none is found that there is not. -/
theorem subperm_known (s : Schema) (t : Tree) (kind : SetKind) (ms : List Member)
    (available : List ObjectId) : ((s.known t kind ms available).map (·.1)).Subperm available := by
  induction ms generalizing available with
  | nil => exact List.nil_subperm
  | cons m ms ih =>
    cases h : s.firstMatch t m available with
    | none =>
      rw [known_of_none h]
      exact ih available
    | some found =>
      have hremaining : (found.remaining kind).Sublist (found.before ++ found.after) := by
        cases kind with
        | sequence => exact List.sublist_append_right ..
        | choice => exact List.Sublist.refl _
      rw [known_of_some h, List.map_cons]
      conv_rhs => rw [eq_of_firstMatch h]
      refine List.Subperm.trans ?_ List.perm_middle.symm.subperm
      exact (List.subperm_cons _).2 ((ih _).trans hremaining.subperm)

/-- What is found stands for a member. -/
theorem exists_member_of_known (hx : x ∈ (s.known t kind ms available).map (·.1)) :
    ∃ m ∈ ms, (s.demandAt t m x).isSome := by
  induction ms generalizing available with
  | nil => cases hx
  | cons m ms ih =>
    cases h : s.firstMatch t m available with
    | none =>
      rw [known_of_none h] at hx
      obtain ⟨n, hn, hdemand⟩ := ih hx
      exact ⟨n, List.mem_cons_of_mem _ hn, hdemand⟩
    | some found =>
      rw [known_of_some h, List.map_cons] at hx
      rcases List.mem_cons.1 hx with rfl | hx
      · exact ⟨m, List.mem_cons_self, by simp [demandAt_of_firstMatch h]⟩
      · obtain ⟨n, hn, hdemand⟩ := ih hx
        exact ⟨n, List.mem_cons_of_mem _ hn, hdemand⟩

/-- A member finds a child if one stands for it. -/
theorem firstMatch_eq_none_iff :
    s.firstMatch t m available = none ↔ ∀ x ∈ available, s.demandAt t m x = none := by
  refine ⟨fun h => ?_, firstMatch_eq_none⟩
  induction available with
  | nil => simp
  | cons x rest ih =>
    rw [firstMatch_cons] at h
    cases hx : s.demandAt t m x with
    | some d => simp [hx] at h
    | none =>
      rw [hx] at h
      exact List.forall_mem_cons.2 ⟨hx, ih (Option.map_eq_none_iff.1 h)⟩

/-- Where nothing is found, nothing stands for a member. -/
theorem demandAt_eq_none_of_known (h : s.known t kind ms available = []) :
    ∀ m ∈ ms, ∀ x ∈ available, s.demandAt t m x = none := by
  induction ms with
  | nil => simp
  | cons m ms ih =>
    cases hm : s.firstMatch t m available with
    | some found => simp [known_of_some hm] at h
    | none =>
      rw [known_of_none hm] at h
      exact List.forall_mem_cons.2 ⟨firstMatch_eq_none_iff.1 hm, ih h⟩

/-! ### Sequences -/

/-- A search that finds every child assigns the children: the first child is found by the first
member that finds one, since a later one goes on behind what that member found. -/
theorem assigned_of_search (hnodup : available.Nodup)
    (hmissing : ∀ p ∈ s.search t .sequence ms available, p.2 = none → p.1.isOptional)
    (hknown : ∀ x ∈ available, x ∈ (s.known t .sequence ms available).map (·.1)) :
    Assigned (fun x m => (s.demandAt t m x).isSome) (·.isOptional) available ms := by
  induction ms generalizing available with
  | nil =>
    have hnil : available = [] := List.eq_nil_iff_forall_not_mem.2 fun x hx => by
      simpa [known, search] using hknown x hx
    exact hnil ▸ .nil
  | cons m ms ih =>
    cases h : s.firstMatch t m available with
    | none =>
      rw [search_of_none h] at hmissing
      rw [known_of_none h] at hknown
      obtain ⟨hm, hrest⟩ := List.forall_mem_cons.1 hmissing
      exact .skip (hm rfl) (ih hnodup hrest hknown)
    | some found =>
      rw [search_of_some h] at hmissing
      rw [known_of_some h, List.map_cons] at hknown
      have hwithin : ∀ x ∈ (s.known t .sequence ms found.after).map (·.1), x ∈ found.after :=
        fun x hx => (subperm_known ..).subset hx
      have heq := eq_of_firstMatch h
      rw [heq] at hnodup hknown
      obtain ⟨-, hfrom, hapart⟩ := List.nodup_append.1 hnodup
      -- a child before the one that is found would have to be found behind it
      have hbefore : found.before = [] := List.eq_nil_iff_forall_not_mem.2 fun x hx => by
        have hmem := List.mem_cons.1 (hknown x (List.mem_append_left _ hx))
        refine hapart x hx x (List.mem_cons.2 (hmem.imp_right fun hx => hwithin x hx)) rfl
      rw [hbefore, List.nil_append] at heq hknown
      obtain ⟨hself, hafter⟩ := List.nodup_cons.1 hfrom
      rw [heq]
      refine .take (by simp [demandAt_of_firstMatch h])
        (ih hafter (List.forall_mem_cons.1 hmissing).2 fun x hx => ?_)
      rcases List.mem_cons.1 (hknown x (List.mem_cons_of_mem _ hx)) with rfl | hx'
      · exact absurd hx hself
      · exact hx'

/-- Where children are assigned and none of them stands for two members, the search finds that
assignment: each member finds the child that is next, or none because it is left out. -/
theorem search_of_assigned
    (h : Assigned (fun x m => (s.demandAt t m x).isSome) (·.isOptional) available ms)
    (hapart : ms.Pairwise fun m n =>
      ∀ x ∈ available, ¬((s.demandAt t m x).isSome ∧ (s.demandAt t n x).isSome)) :
    (∀ p ∈ s.search t .sequence ms available, p.2 = none → p.1.isOptional) ∧
      (s.known t .sequence ms available).map (·.1) = available := by
  induction h with
  | nil => simp [search, known]
  | @take x m xs ms stands rest ih =>
    obtain ⟨d, hd⟩ := Option.isSome_iff_exists.1 stands
    have hfound : s.firstMatch t m (x :: xs) = some ⟨x, d, [], xs⟩ := by rw [firstMatch_cons, hd]
    have hrest := (List.pairwise_cons.1 hapart).2.imp fun h y hy => h y (List.mem_cons_of_mem _ hy)
    obtain ⟨hmissing, hknown⟩ := ih hrest
    rw [search_of_some hfound, known_of_some hfound, List.map_cons]
    refine ⟨List.forall_mem_cons.2 ⟨nofun, hmissing⟩, ?_⟩
    exact congrArg (x :: ·) hknown
  | @skip m xs ms absent rest ih =>
    obtain ⟨hm, hms⟩ := List.pairwise_cons.1 hapart
    have hnone : s.firstMatch t m xs = none := firstMatch_eq_none fun x hx => by
      obtain ⟨n, hn, hstands⟩ := rest.exists_mem hx
      rw [← Option.not_isSome_iff_eq_none]
      exact fun hsome => hm n hn x hx ⟨hsome, hstands⟩
    obtain ⟨hmissing, hknown⟩ := ih hms
    rw [search_of_none hnone, known_of_none hnone]
    exact ⟨List.forall_mem_cons.2 ⟨fun _ => absent, hmissing⟩, hknown⟩

/-! ### Choices -/

/-- A choice whose children are all found, by one member if there are any, has one child that
stands for a member, or none at all. -/
theorem choice_iff (kind : SetKind) {optional : Prop} (hnodup : available.Nodup) :
    (((s.known t kind ms available).length ≤ 1 ∧ (s.known t kind ms available = [] → optional)) ∧
      ∀ x ∈ available, x ∈ (s.known t kind ms available).map (·.1)) ↔
    (∃ x, available = [x] ∧ ∃ m ∈ ms, (s.demandAt t m x).isSome) ∨ available = [] ∧ optional := by
  have hsub := subperm_known s t kind ms available
  have hlength := hsub.length_le
  rw [List.length_map] at hlength
  constructor
  · rintro ⟨⟨hone, hnone⟩, hall⟩
    have hle := (List.subperm_of_subset hnodup hall).length_le
    rw [List.length_map] at hle
    match available, hle.trans hone with
    | [], _ => exact Or.inr ⟨rfl, hnone (List.length_eq_zero_iff.1 (Nat.le_zero.1 hlength))⟩
    | [x], _ =>
      exact Or.inl ⟨x, rfl, exists_member_of_known (hall x (List.mem_singleton_self x))⟩
  · rintro (⟨x, rfl, m, hm, hx⟩ | ⟨rfl, hoptional⟩)
    · have hne : s.known t kind ms [x] ≠ [] := fun h => by
        simp [demandAt_eq_none_of_known h m hm x (List.mem_singleton_self x)] at hx
      obtain ⟨p, hp⟩ := List.length_eq_one_iff.1
        (le_antisymm hlength (List.length_pos_iff.2 hne))
      rw [hp] at hsub ⊢
      refine ⟨⟨le_rfl, by simp⟩, fun y hy => ?_⟩
      have hmem := hsub.subset (List.mem_singleton_self p.1)
      rw [List.mem_singleton.1 hy, ← List.mem_singleton.1 hmem]
      exact List.mem_singleton_self _
    · exact ⟨⟨hlength.trans (Nat.zero_le 1), fun _ => hoptional⟩, by simp⟩

end Schema

/-! ## The deeds of a check -/

/-- What a check does for a member, told what the member found. -/
def Deed.ofMember (set : ObjectId) (kind : SetKind) : Member × Option MemberMatch → List Deed
  | (_, some found) => [.visit found.child found.demand]
  | (m, none) =>
    if kind = .sequence && !m.isOptional then [.report set (.missingMember m.name)] else []

/-- What a check does for a choice, told which members found a child. -/
def Deed.ofChoice (id : ObjectId) (s : ChildSet) : List String → List Deed
  | [] => if s.isOptional then [] else [.report id .noChoice]
  | [_] => []
  | names => [.report id (.severalChoices names)]

/-- What a check does for a child set that has some children. -/
def Schema.deedsOfChildSet (s : Schema) (t : Tree) (id : ObjectId) (set : ChildSet)
    (present : List ObjectId) : List Deed :=
  let known := s.known t set.kind set.members present
  (s.search t set.kind set.members present).flatMap (Deed.ofMember id set.kind) ++
    ((if set.kind = .choice then Deed.ofChoice id set (known.map (·.2)) else []) ++
      (present.filter fun child => !(known.map (·.1)).contains child).map fun child =>
        .report child .undeclaredChild)

namespace Check

variable {σ : Type} {c : Check σ} {id : ObjectId}

theorem does_members (kind : SetKind) (ms : List Member) (available : List ObjectId) :
    c.Does (c.members id kind ms available)
      ((c.schema.search c.tree kind ms available).flatMap (Deed.ofMember id kind))
      (c.schema.known c.tree kind ms available) := by
  induction ms generalizing available with
  | nil => exact .pure []
  | cons m ms ih =>
    rw [members]
    cases h : c.schema.firstMatch c.tree m available with
    | some found =>
      rw [Schema.search_of_some h, Schema.known_of_some h, List.flatMap_cons]
      have hrest := (ih (found.remaining kind)).bind
        (f := fun names => pure ((found.child, m.name) :: names)) (.pure _)
      rw [List.append_nil] at hrest
      exact (Does.below found.child found.demand).bind hrest
    | none =>
      rw [Schema.search_of_none h, Schema.known_of_none h, List.flatMap_cons]
      exact Does.ite_bind (.report id (.missingMember m.name)) (ih available)

theorem does_choice (s : ChildSet) (names : List String) :
    c.Does (c.choice id s names) (Deed.ofChoice id s names) () := by
  match names with
  | [] => exact .ite (.pure ()) (.report id .noChoice)
  | [_] => exact .pure ()
  | _ :: _ :: _ => exact .report id _

theorem does_childSet {present : List ObjectId} (h : c.tree.items id = .ok present)
    (set : ChildSet) :
    c.Does (c.childSet id set) (c.schema.deedsOfChildSet c.tree id set present) () := by
  have hmembers : c.Does (c.members id set.kind set.members present) _ _ := does_members ..
  have hundeclared := does_reportAll (c := c) (fun _ => .undeclaredChild) <|
    present.filter fun child =>
      !((c.schema.known c.tree set.kind set.members present).map (·.1)).contains child
  exact (Does.ask h).bind (hmembers.bind (.ite_bind (does_choice set _) hundeclared))

end Check

namespace Deed

theorem reports_ofMember {set : ObjectId} {kind : SetKind} {p : Member × Option MemberMatch} :
    reports (ofMember set kind p) = [] ↔
      (kind = .sequence → p.2 = none → p.1.isOptional) := by
  obtain ⟨m, _ | found⟩ := p
  · rw [ofMember]
    split
    · rename_i h
      rw [Bool.and_eq_true, decide_eq_true_iff, Bool.not_eq_true'] at h
      simp [reports, finding?, h]
    · rename_i h
      rw [Bool.and_eq_true, decide_eq_true_iff, Bool.not_eq_true', not_and] at h
      exact iff_of_true rfl fun hkind _ => by simpa using h hkind
  · simp [ofMember, reports, finding?]

theorem reports_nil : reports [] = [] := rfl

theorem reports_flatMap {α : Type} {f : α → List Deed} {xs : List α} :
    reports (xs.flatMap f) = [] ↔ ∀ x ∈ xs, reports (f x) = [] := by
  simp [reports, List.filterMap_flatMap]

theorem reports_ofChoice {id : ObjectId} {s : ChildSet} {names : List String} :
    reports (ofChoice id s names) = [] ↔ names.length ≤ 1 ∧ (names = [] → s.isOptional) := by
  match names with
  | [] =>
    unfold ofChoice
    split <;> simp_all [reports, finding?]
  | [_] => simp [ofChoice, reports]
  | _ :: _ :: _ => simp [ofChoice, reports, finding?]

end Deed

/-! ## Child sets without findings -/

namespace Schema

variable {s : Schema} {t : Tree} {id : ObjectId} {set : ChildSet} {present : List ObjectId}

/-- Nothing is recorded if no member of a sequence is missing that has to be there, a choice is
made, and every child is found by a member. -/
theorem reports_deedsOfChildSet : Deed.reports (s.deedsOfChildSet t id set present) = [] ↔
    (set.kind = .sequence →
      ∀ p ∈ s.search t .sequence set.members present, p.2 = none → p.1.isOptional) ∧
    (set.kind = .choice → (s.known t .choice set.members present).length ≤ 1 ∧
      (s.known t .choice set.members present = [] → set.isOptional)) ∧
    ∀ x ∈ present, x ∈ (s.known t set.kind set.members present).map (·.1) := by
  have hundeclared : ∀ ids : List ObjectId,
      Deed.reports (ids.map fun child => .report child .undeclaredChild) = [] ↔ ids = [] := by
    intro ids
    cases ids <;> simp [Deed.reports, Deed.finding?]
  rw [deedsOfChildSet, Deed.reports_append, Deed.reports_append, List.append_eq_nil_iff,
    List.append_eq_nil_iff, Deed.reports_flatMap, hundeclared]
  simp only [Deed.reports_ofMember]
  cases hkind : set.kind <;> simp [Deed.reports_ofChoice, Deed.reports_nil, List.filter_eq_nil_iff]

theorem reports_sequence (hs : s.Substitutes) (hkind : set.kind = .sequence)
    (hnodup : present.Nodup)
    (h : Deed.reports (s.deedsOfChildSet t id set present) = []) :
    Assigned (s.StandsFor t) (·.isOptional) present set.members := by
  obtain ⟨hmissing, -, hknown⟩ := reports_deedsOfChildSet.1 h
  rw [hkind] at hknown
  exact (assigned_of_search hnodup (hmissing hkind) hknown).imp fun _ _ => hs.isSome_demandAt.1

theorem reports_of_assigned (hs : s.Substitutes) (hkind : set.kind = .sequence)
    (h : Assigned (s.StandsFor t) (·.isOptional) present set.members)
    (hapart : set.members.Pairwise fun m n =>
      ∀ x ∈ present, ¬(s.StandsFor t x m ∧ s.StandsFor t x n)) :
    Deed.reports (s.deedsOfChildSet t id set present) = [] := by
  simp only [← hs.isSome_demandAt] at hapart
  obtain ⟨hmissing, hknown⟩ :=
    search_of_assigned (h.imp fun _ _ => hs.isSome_demandAt.2) hapart
  rw [reports_deedsOfChildSet, hkind, hknown]
  exact ⟨fun _ => hmissing, nofun, fun x hx => hx⟩

theorem reports_choice (hs : s.Substitutes) (hkind : set.kind = .choice)
    (hnodup : present.Nodup) : Deed.reports (s.deedsOfChildSet t id set present) = [] ↔
      (∃ x, present = [x] ∧ ∃ m ∈ set.members, s.StandsFor t x m) ∨
      present = [] ∧ set.isOptional := by
  rw [reports_deedsOfChildSet, hkind]
  simp only [← hs.isSome_demandAt]
  rw [← choice_iff .choice hnodup]
  simp only [reduceCtorEq, false_implies, true_and, forall_const]

end Schema

/-- What a check records for a child set, outside the visits of its children. It records nothing for
a choice if and only if the set has one child and that stands for a member, or has none and may be
absent. If it records nothing for a sequence, the children are assigned to members that they stand
for, in their order and with every member used that may not be absent; and if there is such an
assignment and no child stands for two members, it records nothing. -/
theorem Schema.reports_of_childSet {namespaces : List NamespaceDecl} {limits : Limits} {s : Schema}
    (hs : Accepts namespaces limits s) {ops : List Operation} {t : Tree}
    (ht : Tree.performAll {} ops = t) {id : ObjectId} {name : Option String} {items : List ObjectId}
    (hid : t.get id = .ok (.childSet name items)) (set : ChildSet) :
    ∃ deeds : List Deed,
      (∀ {σ : Type} (c : Check σ), c.schema = s → c.tree = t →
        c.childSet id set = c.perform deeds) ∧
      (set.kind = .choice → (Deed.reports deeds = [] ↔
        (∃ x, items = [x] ∧ ∃ m ∈ set.members, s.StandsFor t x m) ∨
          items = [] ∧ set.isOptional)) ∧
      (set.kind = .sequence →
        (Deed.reports deeds = [] →
          ∃ f, Assigns (s.StandsFor t) (·.isOptional) items set.members f) ∧
        ((∃ f, Assigns (s.StandsFor t) (·.isOptional) items set.members f) →
          (set.members.Pairwise fun m n =>
            ∀ x ∈ items, ¬(s.StandsFor t x m ∧ s.StandsFor t x n)) →
          Deed.reports deeds = [])) := by
  have hsub := substitution_of_accepts hs
  have hnodup : items.Nodup :=
    (Tree.wellFormed_of_built ht).nodup_owned_of_object? (Tree.get_eq_ok.1 hid)
  refine ⟨s.deedsOfChildSet t id set items, fun c hschema htree => ?_,
    fun hkind => reports_choice hsub hkind hnodup, fun hkind => ⟨fun h => ?_, fun h hapart => ?_⟩⟩
  · subst hschema htree
    have hitems : c.tree.items id = .ok items := by
      rw [Tree.items, hid]
      rfl
    exact Check.does_unit.1 (Check.does_childSet hitems set)
  · exact assigned_iff_exists_assigns.1 (reports_sequence hsub hkind hnodup h)
  · exact reports_of_assigned hsub hkind (assigned_iff_exists_assigns.2 h) hapart

/-- The children of an order that is paid in cash and goes by mail, without a note. -/
def parcel : List Operation := [
  .newChildSet none, .newElement ⟨"urn:shop", "cash"⟩, .newChildSet (some "way"),
  .newElement (.unqualified "mail"), .addChild ⟨0⟩ ⟨1⟩, .addChild ⟨0⟩ ⟨2⟩, .addChild ⟨2⟩ ⟨3⟩]

/-- Whether the children of the parcel are the last two members of a sequence and no other ones, and
the child of the second one is a way to send it. -/
def holdsParcel (s : Schema) (t : Tree) : ChildSet → Bool
  | ⟨.sequence, [note, payment, .set l .choice ways p], _⟩ =>
    note.isOptional && (s.demandAt t payment ⟨1⟩).isSome &&
      (s.demandAt t (.set l .choice ways p) ⟨2⟩).isSome &&
      decide ([note, payment, .set l .choice ways p].Pairwise fun m n =>
        ∀ x ∈ ([⟨1⟩, ⟨2⟩] : List ObjectId),
          ¬((s.demandAt t m x).isSome ∧ (s.demandAt t n x).isSome)) &&
      ways.any fun m => (s.demandAt t m ⟨3⟩).isSome
  | _ => false

/-- Nothing is recorded for the parcel, where cash stands in for the payment, and nothing for its
way. -/
theorem parcel_reports : Accepts orders {} (schemaOf orders {}) ∧
    ∃ (set : ChildSet) (l : MemberLabel) (ways : List Member) (p : Option Span),
      ((schemaOf orders {}).typeDef ⟨22⟩).asComplex?.bind (·.childSet?) = some set ∧
      set.kind = .sequence ∧ .set l .choice ways p ∈ set.members ∧
      (∃ deeds, (∀ c : Check Unit, c.schema = schemaOf orders {} →
        c.tree = Tree.performAll {} parcel → c.childSet ⟨0⟩ set = c.perform deeds) ∧
        Deed.reports deeds = []) ∧
      ∃ deeds, (∀ c : Check Unit, c.schema = schemaOf orders {} →
        c.tree = Tree.performAll {} parcel → c.childSet ⟨2⟩ ⟨.choice, ways, p⟩ = c.perform deeds) ∧
        Deed.reports deeds = [] := by
  have hs : Accepts orders {} (schemaOf orders {}) := accepts_schemaOf (by decide +kernel)
  have hsub := substitution_of_accepts hs
  have hbuilt : Tree.performAll {} parcel = Tree.performAll {} parcel := rfl
  have hroot : (Tree.performAll {} parcel).get ⟨0⟩ = .ok (.childSet none [⟨1⟩, ⟨2⟩]) := by rfl
  have hway : (Tree.performAll {} parcel).get ⟨2⟩ = .ok (.childSet (some "way") [⟨3⟩]) := by rfl
  have h : (((schemaOf orders {}).typeDef ⟨22⟩).asComplex?.bind (·.childSet?)).any
      (holdsParcel (schemaOf orders {}) (Tree.performAll {} parcel)) = true := by decide +kernel
  obtain ⟨set, hset, h⟩ := (Option.any_eq_true _ _).1 h
  unfold holdsParcel at h
  split at h
  · rename_i note payment l ways p q
    simp only [Bool.and_eq_true, decide_eq_true_eq, List.any_eq_true, hsub.isSome_demandAt] at h
    obtain ⟨⟨⟨⟨hnote, hpayment⟩, hsent⟩, hapart⟩, m, hm, hmail⟩ := h
    obtain ⟨deeds, hdeeds, -, hsequence⟩ := Schema.reports_of_childSet hs hbuilt hroot
      ⟨.sequence, [note, payment, .set l .choice ways p], q⟩
    obtain ⟨deeds', hdeeds', hchoice, -⟩ :=
      Schema.reports_of_childSet hs hbuilt hway ⟨.choice, ways, p⟩
    have hassigned : Assigned ((schemaOf orders {}).StandsFor (Tree.performAll {} parcel))
        (·.isOptional) [⟨1⟩, ⟨2⟩] [note, payment, .set l .choice ways p] :=
      .skip hnote (.take hpayment (.take hsent .nil))
    refine ⟨hs, _, l, ways, p, hset, rfl, by simp, ⟨deeds, hdeeds, ?_⟩, deeds', hdeeds', ?_⟩
    · exact (hsequence rfl).2 (assigned_iff_exists_assigns.1 hassigned) hapart
    · exact (hchoice rfl).2 (Or.inl ⟨⟨3⟩, rfl, m, hm, hmail⟩)
  · cases h

end Schemata
