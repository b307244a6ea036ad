import Schemata.Proofs.Publication
import Schemata.Proofs.Rearrangement

/-!
# Names on display

A full name is displayed as its local name after its URI in braces. A URI may hold any character,
braces too, but the name of a symbol is an identifier, so the last closing brace ends the URI: what
is displayed determines the name (`FullName.text_inj`).

Every symbol of an accepted schema is found under its own full name, and under no other. So types
are told apart by their displayed names, and so are global elements
(`Builder.Completes.typeName_inj`, `Builder.Completes.elementName_inj`).
-/

namespace Schemata

/-! ## What is displayed -/

theorem isIdentifierRest_of_start {c : Char} (h : isIdentifierStart c) : isIdentifierRest c := by
  unfold isIdentifierStart at h
  unfold isIdentifierRest Char.isAlphanum
  rw [Bool.or_eq_true] at h ⊢
  exact h.imp_left fun h => by rw [h, Bool.true_or]

theorem isIdentifierRest_of_mem {name : String} (h : isIdentifier name) {c : Char}
    (hc : c ∈ name.toList) : isIdentifierRest c := by
  unfold isIdentifier at h
  split at h
  · cases h
  · rename_i first rest heq
    rw [Bool.and_eq_true, List.all_eq_true] at h
    rw [heq, List.mem_cons] at hc
    rcases hc with rfl | hc
    · exact isIdentifierRest_of_start h.1
    · exact h.2 c hc

/-- The last occurrence of a character cuts a text in one way. -/
theorem append_cons_inj {α : Type} {a : α} {l m l' m' : List α} (hm : a ∉ m) (hm' : a ∉ m')
    (h : l ++ a :: m = l' ++ a :: m') : l = l' ∧ m = m' := by
  rcases List.append_eq_append_iff.1 h with ⟨c, rfl, hc⟩ | ⟨c, rfl, hc⟩
  all_goals
    cases c with
    | nil => simpa [eq_comm] using hc
    | cons x c =>
      rw [List.cons_append, List.cons.injEq] at hc
      simp [hc.2] at hm hm'

namespace FullName

theorem toList_text (n : FullName) : n.text.toList =
    if n.uri.isEmpty then n.name.toList
    else '\x7b' :: (n.uri.toList ++ '\x7d' :: n.name.toList) := by
  unfold text
  split
  · rfl
  · simp [String.toList_append]

/-- What is displayed determines the name, if the local names are identifiers. -/
theorem text_inj {m n : FullName} (hm : isIdentifier m.name) (hn : isIdentifier n.name)
    (h : m.text = n.text) : m = n := by
  have hopen : ∀ {name : String}, isIdentifier name → '\x7b' ∉ name.toList := fun hname hmem =>
    absurd (isIdentifierRest_of_mem hname hmem) (by decide)
  have hclose : ∀ {name : String}, isIdentifier name → '\x7d' ∉ name.toList := fun hname hmem =>
    absurd (isIdentifierRest_of_mem hname hmem) (by decide)
  have hlist := congrArg String.toList h
  rw [toList_text, toList_text] at hlist
  split at hlist
  · rename_i hempty
    split at hlist
    · rename_i hempty'
      rw [String.isEmpty_iff] at hempty hempty'
      exact FullName.ext (hempty.trans hempty'.symm) (String.toList_inj.1 hlist)
    · exact absurd (hlist ▸ List.mem_cons_self) (hopen hm)
  · split at hlist
    · exact absurd (hlist ▸ List.mem_cons_self) (hopen hn)
    · obtain ⟨huri, hname⟩ := append_cons_inj (hclose hm) (hclose hn) (List.cons.inj hlist).2
      exact FullName.ext (String.toList_inj.1 huri) (String.toList_inj.1 hname)

end FullName

theorem Kind.isIdentifier_name (k : Kind) : isIdentifier k.name := by
  have hall : ∀ k ∈ Kind.all, isIdentifier k.name := by decide
  exact hall k k.mem_all

/-! ## Symbols under their names -/

namespace Schema

/-- The full name of a symbol, if the schema has the number. -/
def fullName? (s : Schema) : SymbolId → Option FullName
  | .type id => s.types[id.index]?.map (·.fullName)
  | .attr id => (s.attribute? id).map (·.fullName)
  | .element id => (s.element? id).map (·.fullName)

variable {s : Schema} {n : FullName}

theorem typeName_of_fullName? {id : TypeId} (h : s.fullName? (.type id) = some n) :
    s.typeName id = n.text := by
  obtain ⟨t, ht, rfl⟩ := Option.map_eq_some_iff.1 h
  rw [typeName, typeDef, ht, Option.getD_some]

theorem elementName_of_fullName? {id : ElementId} (h : s.fullName? (.element id) = some n) :
    s.elementName id = n.text := by
  obtain ⟨e, he, rfl⟩ := Option.map_eq_some_iff.1 h
  rw [elementName, he, Option.elim_some]

theorem fullName?_of_declares {m : MemberDecl} {id : SymbolId} (h : s.Declares n m id) :
    s.fullName? id = some n := by
  cases m <;> cases id <;> try exact h.elim
  · obtain ⟨hid, rfl⟩ := h
    rw [fullName?, typeDef, Array.getElem?_eq_getElem hid]
    rfl
  · obtain ⟨a, ha, rfl⟩ := h
    rw [fullName?, ha, Option.map_some]
  · obtain ⟨e, he, rfl⟩ := h
    rw [fullName?, he, Option.map_some]

end Schema

namespace Builder.Completes

variable {b : Builder} {namespaces : List NamespaceDecl} {limits : Limits}

theorem isIdentifier_of_lookup (h : b.Completes namespaces limits) {n : FullName} {id : SymbolId}
    (hfound : (b.published (Catalog.ofNamespaces namespaces).1).lookup n = some id) :
    isIdentifier n.name := by
  rcases h.lookup_eq_some_iff.1 hfound with ⟨k, rfl, -⟩ | ⟨o, d, hd, -, rfl⟩
  · exact k.isIdentifier_name
  · have hentry : d.entry ∈ globals namespaces := by
      rw [← h.registers.entries]
      exact List.mem_map_of_mem (Array.mem_toList_iff.2 (Array.mem_of_getElem? hd))
    obtain ⟨ns, hns, hentry⟩ := List.mem_flatMap.1 hentry
    obtain ⟨m, hm, heq⟩ := List.mem_map.1 hentry
    have hid := (registrable_of_harmless h.harmless).identifiers ns hns m hm
    exact congrArg FullName.name (congrArg Prod.fst heq) ▸ hid

/-- What a name finds has that name. -/
theorem fullName?_of_lookup (h : b.Completes namespaces limits) {n : FullName} {id : SymbolId}
    (hfound : (b.published (Catalog.ofNamespaces namespaces).1).lookup n = some id) :
    (b.published (Catalog.ofNamespaces namespaces).1).fullName? id = some n := by
  rcases h.lookup_eq_some_iff.1 hfound with ⟨k, rfl, rfl⟩ | ⟨o, d, hd, ho, rfl⟩
  · have hget := h.inv.builtin k
    rw [published_eq_withNames]
    exact congrArg (Option.map TypeDef.fullName) hget
  · obtain ⟨d', hd', hdeclares⟩ := h.numbered.declares o id (mem_of_symbol? ho)
    obtain rfl := Option.some.inj (hd.symm.trans hd')
    exact Schema.fullName?_of_declares (declares_published.2 hdeclares)

/-- A symbol is found under its full name. -/
theorem lookup_of_fullName? (h : b.Completes namespaces limits) {n : FullName} {id : SymbolId}
    (hn : (b.published (Catalog.ofNamespaces namespaces).1).fullName? id = some n) :
    (b.published (Catalog.ofNamespaces namespaces).1).lookup n = some id := by
  have hissues : (b.published (Catalog.ofNamespaces namespaces).1).Issues id := by
    cases id <;> obtain ⟨x, hx, -⟩ := Option.map_eq_some_iff.1 hn <;>
      exact (Array.getElem?_eq_some_iff.1 hx).1
  obtain ⟨m, hm, -⟩ := h.existsUnique_of_issues (issues_published.1 hissues)
  obtain rfl := Option.some.inj (hn.symm.trans (h.fullName?_of_lookup hm))
  exact hm

theorem exists_fullName? (h : b.Completes namespaces limits) (id : SymbolId)
    (hid : (b.published (Catalog.ofNamespaces namespaces).1).Issues id) :
    ∃ n, (b.published (Catalog.ofNamespaces namespaces).1).fullName? id = some n := by
  obtain ⟨n, hn, -⟩ := h.existsUnique_of_issues (issues_published.1 hid)
  exact ⟨n, h.fullName?_of_lookup hn⟩

/-- Symbols whose names look the same are the same. -/
theorem eq_of_text_eq (h : b.Completes namespaces limits) {m n : FullName} {id id' : SymbolId}
    (hm : (b.published (Catalog.ofNamespaces namespaces).1).fullName? id = some m)
    (hn : (b.published (Catalog.ofNamespaces namespaces).1).fullName? id' = some n)
    (htext : m.text = n.text) : id = id' := by
  have hid := h.lookup_of_fullName? hm
  have hid' := h.lookup_of_fullName? hn
  obtain rfl := FullName.text_inj (h.isIdentifier_of_lookup hid) (h.isIdentifier_of_lookup hid')
    htext
  exact Option.some.inj (hid.symm.trans hid')

theorem typeName_inj (h : b.Completes namespaces limits) {id id' : TypeId}
    (hid : (b.published (Catalog.ofNamespaces namespaces).1).Has id)
    (hid' : (b.published (Catalog.ofNamespaces namespaces).1).Has id')
    (heq : (b.published (Catalog.ofNamespaces namespaces).1).typeName id =
      (b.published (Catalog.ofNamespaces namespaces).1).typeName id') : id = id' := by
  obtain ⟨m, hm⟩ := h.exists_fullName? (.type id) hid
  obtain ⟨n, hn⟩ := h.exists_fullName? (.type id') hid'
  rw [Schema.typeName_of_fullName? hm, Schema.typeName_of_fullName? hn] at heq
  exact SymbolId.type.inj (h.eq_of_text_eq hm hn heq)

theorem elementName_inj (h : b.Completes namespaces limits) {id id' : ElementId}
    (hid : (b.published (Catalog.ofNamespaces namespaces).1).Issues (.element id))
    (hid' : (b.published (Catalog.ofNamespaces namespaces).1).Issues (.element id'))
    (heq : (b.published (Catalog.ofNamespaces namespaces).1).elementName id =
      (b.published (Catalog.ofNamespaces namespaces).1).elementName id') : id = id' := by
  obtain ⟨m, hm⟩ := h.exists_fullName? (.element id) hid
  obtain ⟨n, hn⟩ := h.exists_fullName? (.element id') hid'
  rw [Schema.elementName_of_fullName? hm, Schema.elementName_of_fullName? hn] at heq
  exact SymbolId.element.inj (h.eq_of_text_eq hm hn heq)

end Builder.Completes

end Schemata
