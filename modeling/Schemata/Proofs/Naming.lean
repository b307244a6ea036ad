import Mathlib.Data.List.Nodup
import Schemata.Schema.Basic

/-!
# Names of symbols

Symbols get their names one after another. A name goes last in the namespace of its URI
(`Namespace.membersAt_addName`), so distinct names are listed in the order in which they were given,
and each finds its symbol.
-/

namespace Schemata

/-- The members under a URI among some namespaces. -/
def Namespace.membersAt (uri : String) (ns : List Namespace) : List (String × SymbolId) :=
  (ns.find? (·.uri == uri)).elim [] (·.members)

namespace Schema

/-- The members of a namespace, none if it has no symbols. -/
def members (s : Schema) (uri : String) : List (String × SymbolId) :=
  Namespace.membersAt uri s.namespaces

theorem lookup_eq (s : Schema) (n : FullName) : s.lookup n = (s.members n.uri).lookup n.name := by
  unfold lookup members Namespace.membersAt namespace?
  cases s.namespaces.find? (·.uri == n.uri) <;> rfl

end Schema

/-! ## Giving names -/

namespace Namespace

variable {uri : String} {id : SymbolId} {n : FullName} {ns : List Namespace}

theorem membersAt_cons (uri : String) (first : Namespace) (rest : List Namespace) :
    membersAt uri (first :: rest) =
      if first.uri = uri then first.members else membersAt uri rest := by
  unfold membersAt
  by_cases h : first.uri = uri <;> simp [h]

/-- Where URIs are distinct, every namespace is found. -/
theorem membersAt_of_mem (h : (ns.map Namespace.uri).Nodup) {one : Namespace} (hone : one ∈ ns) :
    membersAt one.uri ns = one.members := by
  induction ns with
  | nil => cases hone
  | cons first rest ih =>
    obtain ⟨hnot, hrest⟩ := List.nodup_cons.1 h
    rw [membersAt_cons]
    rcases List.mem_cons.1 hone with rfl | hmem
    · rw [if_pos rfl]
    · have hne : ¬first.uri = one.uri := fun heq => hnot (heq ▸ List.mem_map_of_mem hmem)
      rw [if_neg hne]
      exact ih hrest hmem

/-- A name goes last, unless it is taken. -/
theorem membersAt_addName : membersAt uri (Schema.addName id n ns) = membersAt uri ns ++
    if n.uri = uri ∧ (membersAt uri ns).lookup n.name = none then [(n.name, id)] else [] := by
  induction ns with
  | nil =>
    rw [Schema.addName, membersAt_cons]
    by_cases h : n.uri = uri <;> simp [h, membersAt]
  | cons first rest ih =>
    rw [Schema.addName, membersAt_cons uri first rest]
    by_cases hfirst : first.uri = n.uri
    · rw [if_pos (by simpa using hfirst)]
      by_cases htaken : (first.find? n.name).isSome
      · have hlookup : ¬first.members.lookup n.name = none := Option.isSome_iff_ne_none.1 htaken
        rw [if_pos htaken, membersAt_cons]
        by_cases huri : first.uri = uri
        · simp [huri, hlookup]
        · have hn : ¬n.uri = uri := fun h => huri (hfirst.trans h)
          simp [huri, hn]
      · have hlookup : first.members.lookup n.name = none := by
          rwa [Option.not_isSome_iff_eq_none] at htaken
        rw [if_neg htaken, membersAt_cons]
        by_cases huri : first.uri = uri
        · simp [huri, ← hfirst, hlookup]
        · have hn : ¬n.uri = uri := fun h => huri (hfirst.trans h)
          simp [huri, hn]
    · rw [if_neg (by simpa using hfirst), membersAt_cons]
      by_cases huri : first.uri = uri
      · have hn : ¬n.uri = uri := fun h => hfirst (huri.trans h.symm)
        simp [huri, hn]
      · simp only [huri, if_false]
        exact ih

/-- A namespace is added if there is none for the URI. -/
theorem uris_addName : (Schema.addName id n ns).map Namespace.uri =
    ns.map Namespace.uri ++ if n.uri ∈ ns.map Namespace.uri then [] else [n.uri] := by
  induction ns with
  | nil => simp [Schema.addName]
  | cons first rest ih =>
    rw [Schema.addName]
    by_cases hfirst : first.uri = n.uri
    · rw [if_pos (by simpa using hfirst)]
      split <;> simp [hfirst]
    · have hne : ¬n.uri = first.uri := fun h => hfirst h.symm
      rw [if_neg (by simpa using hfirst), List.map_cons, ih, List.map_cons]
      simp [hne]

/-- The namespaces with some more names. -/
def withNames (ns : List Namespace) (names : List (FullName × SymbolId)) : List Namespace :=
  names.foldl (fun ns p => Schema.addName p.2 p.1 ns) ns

theorem nodup_withNames {names : List (FullName × SymbolId)} (h : (ns.map Namespace.uri).Nodup) :
    ((withNames ns names).map Namespace.uri).Nodup := by
  induction names generalizing ns with
  | nil => exact h
  | cons p rest ih =>
    refine ih ?_
    rw [uris_addName]
    split
    · simpa using h
    · rename_i hnew
      exact h.append (List.nodup_singleton _) (List.disjoint_singleton.2 hnew)

/-- Distinct names that are not taken are listed in order. -/
theorem membersAt_withNames {names : List (FullName × SymbolId)}
    (hdistinct : (names.map Prod.fst).Nodup)
    (hnew : ∀ p ∈ names, (membersAt p.1.uri ns).lookup p.1.name = none) :
    membersAt uri (withNames ns names) = membersAt uri ns ++
      (names.filter (·.1.uri = uri)).map fun p => (p.1.name, p.2) := by
  induction names generalizing ns with
  | nil => simp [withNames]
  | cons p rest ih =>
    obtain ⟨hp, hrest⟩ := List.forall_mem_cons.1 hnew
    obtain ⟨hnot, hdistinct⟩ := List.nodup_cons.1 hdistinct
    have hfirst : ∀ uri, membersAt uri (Schema.addName p.2 p.1 ns) = membersAt uri ns ++
        if p.1.uri = uri then [(p.1.name, p.2)] else [] := by
      intro uri
      rw [membersAt_addName]
      by_cases h : p.1.uri = uri
      · subst h
        simp [hp]
      · simp [h]
    have hlater : ∀ q ∈ rest,
        (membersAt q.1.uri (Schema.addName p.2 p.1 ns)).lookup q.1.name = none := by
      intro q hq
      rw [hfirst, List.lookup_append, hrest q hq, Option.none_or]
      split
      · rename_i huri
        have hname : q.1.name ≠ p.1.name := by
          intro hname
          have heq : p.1 = q.1 := FullName.ext huri hname.symm
          exact hnot (heq ▸ List.mem_map_of_mem hq)
        simp [hname]
      · rfl
    have hfold := ih hdistinct hlater
    rw [show withNames ns (p :: rest) = withNames (Schema.addName p.2 p.1 ns) rest from rfl, hfold,
      hfirst, List.append_assoc, List.filter_cons]
    by_cases h : p.1.uri = uri <;> simp [h]

end Namespace

/-! ## Tables of names -/

section Tables

variable {α β γ : Type} [BEq α] [LawfulBEq α]

theorem lookup_eq_some_iff_mem {l : List (α × β)} (h : (l.map Prod.fst).Nodup) {a : α} {b : β} :
    l.lookup a = some b ↔ (a, b) ∈ l := by
  induction l with
  | nil => simp
  | cons p l ih =>
    obtain ⟨hnot, hnodup⟩ := List.nodup_cons.1 h
    rw [List.lookup_cons, List.mem_cons]
    by_cases ha : a = p.1
    · subst ha
      have hfresh : (p.1, b) ∉ l := fun hmem => hnot (List.mem_map.2 ⟨_, hmem, rfl⟩)
      simp [hfresh, Prod.ext_iff, eq_comm]
    · have hne : (a, b) ≠ p := fun h => ha (congrArg Prod.fst h)
      have hbeq : (a == p.1) = false := by simpa using ha
      rw [hbeq]
      simp only [hne, false_or]
      exact ih hnodup

/-- A table is what its keys find, in order. -/
theorem filterMap_lookup {l : List (α × β)} (h : (l.map Prod.fst).Nodup) (p : α → Bool)
    (f : α → β → γ) : ((l.map Prod.fst).filter p).filterMap (fun a => (l.lookup a).map (f a)) =
      (l.filter (p ·.1)).map fun q => f q.1 q.2 := by
  rw [List.filter_map, List.filterMap_map, ← List.filterMap_eq_map]
  refine List.filterMap_congr fun q hq => ?_
  have hfind : l.lookup q.1 = some q.2 := (lookup_eq_some_iff_mem h).2 (List.mem_of_mem_filter hq)
  simp [hfind]

end Tables

theorem lookup_localNames (n : FullName) (names : List (FullName × SymbolId)) :
    ((names.filter (·.1.uri = n.uri)).map fun p => (p.1.name, p.2)).lookup n.name =
      names.lookup n := by
  induction names with
  | nil => rfl
  | cons p rest ih =>
    rw [List.filter_cons, List.lookup_cons]
    by_cases huri : p.1.uri = n.uri
    · by_cases hname : n.name = p.1.name
      · have heq : n = p.1 := FullName.ext huri.symm hname
        simp [heq]
      · have hne : n ≠ p.1 := fun h => hname (congrArg FullName.name h)
        have hbeq : (n == p.1) = false := by simpa using hne
        have hbeq' : (n.name == p.1.name) = false := by simpa using hname
        simp [huri, List.lookup_cons, hbeq, hbeq', ih]
    · have hne : n ≠ p.1 := fun h => huri (congrArg FullName.uri h.symm)
      have hbeq : (n == p.1) = false := by simpa using hne
      simp [huri, hbeq, ih]

end Schemata
