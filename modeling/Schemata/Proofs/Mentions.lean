import Schemata.Proofs.Circles

/-!
# What declarations mention

A compilation may stop early for what declarations mention: a name that stands for nothing, or for
something of another sort than is required, and a literal that is a duration too long to count.
`MemberDecl.mentions` lists the names and the literals that a member contains, each name with what
it has to stand for; `Catalog.Mentions` says that some registered declaration mentions a thing where
names are looked up in some scope.

Not everything that is mentioned is looked up or read. What is, is mentioned, and that is how the
two conditions below come in: `Catalog.Missing` and `Catalog.TooLong` are what must be the case if a
compilation stops for a name or for a literal.
-/

namespace Schemata

/-! ## Literals that cannot be counted -/

/-- A text, or one of the words in it, is a duration that is too long to count. -/
def isUncountable (text : String) : Bool :=
  (text :: (Text.words text.toList).map String.ofList).any fun word =>
    !(Atomic.read .duration word).isOk

/-- Only a duration may be too long. -/
theorem Atomic.not_isOk_of_read {k : Kind} {literal : String} {e : TooLong}
    (h : Atomic.read k literal = .error e) : (Atomic.read .duration literal).isOk = false := by
  cases k with
  | duration => rw [h]; rfl
  | _ => cases h

theorem isUncountable_of_read {k : Kind} {text : String} {e : TooLong}
    (h : Atomic.read k text = .error e) : isUncountable text := by
  simp [isUncountable, Atomic.not_isOk_of_read h]

/-- What comes of reading some texts: a result with a property, unless one of the texts is too long
to count. -/
def ReadsFrom {α : Type} (texts : List String) (m : Except TooLong α) (P : α → Prop) : Prop :=
  match m with
  | .ok a => P a
  | .error _ => ∃ text ∈ texts, isUncountable text

namespace ReadsFrom

variable {α β : Type} {texts : List String} {P : α → Prop} {Q : β → Prop}

theorem bind {m : Except TooLong α} {f : α → Except TooLong β} (hm : ReadsFrom texts m P)
    (hf : ∀ a, P a → ReadsFrom texts (f a) Q) : ReadsFrom texts (m >>= f) Q := by
  cases m with
  | error e => exact hm
  | ok a => exact hf a hm

theorem atomic (k : Kind) {text : String} (h : text ∈ texts) :
    ReadsFrom texts (Atomic.read k text) fun _ => True := by
  cases hr : Atomic.read k text with
  | error e => exact ⟨text, h, isUncountable_of_read hr⟩
  | ok v => trivial

end ReadsFrom

theorem Schema.error_of_readAll {k : Kind} {literals : List String} {e : TooLong}
    (h : readAll k literals = .error e) : ∃ word ∈ literals, Atomic.read k word = .error e := by
  induction literals with
  | nil => cases h
  | cons word rest ih =>
    rw [readAll] at h
    cases hw : Atomic.read k word with
    | error e' =>
      rw [hw] at h
      cases h
      exact ⟨word, List.mem_cons_self, hw⟩
    | ok o =>
      rw [hw] at h
      cases o with
      | none => cases h
      | some v =>
        change (readAll k rest >>= _) = _ at h
        cases hr : readAll k rest with
        | error e' =>
          rw [hr] at h
          cases h
          obtain ⟨w, hmem, hread⟩ := ih hr
          exact ⟨w, List.mem_cons_of_mem _ hmem, hread⟩
        | ok vs =>
          rw [hr] at h
          cases h

/-- Reading a literal as a value of a simple type fails only if it is too long to count. -/
theorem Schema.readsFrom_readValue (s : Schema) (id : TypeId) (literal : String) :
    ReadsFrom [literal] (s.readValue id literal) fun _ => True := by
  unfold readValue
  dsimp only
  split
  · exact (ReadsFrom.atomic _ List.mem_cons_self).bind fun _ _ => trivial
  · split
    · split
      · trivial
      · rename_i k _
        refine ReadsFrom.bind (P := fun _ => True) ?_ fun _ _ => trivial
        cases h : readAll k ((Text.words literal.toList).map String.ofList) with
        | ok vs => trivial
        | error e =>
          obtain ⟨word, hmem, hread⟩ := error_of_readAll h
          refine ⟨literal, List.mem_cons_self, ?_⟩
          rw [isUncountable, List.any_eq_true]
          exact ⟨word, List.mem_cons_of_mem _ hmem, by simp [Atomic.not_isOk_of_read hread]⟩
    · trivial

/-! ## Mentions -/

/-- What a declaration mentions: a name with what it has to stand for, or a literal. -/
inductive Mention
  | type (r : NameRef)
  | attr (r : NameRef)
  | element (r : NameRef)
  | literal (text : String)

/-- The name that is mentioned. -/
def Mention.reference? : Mention → Option NameRef
  | .type r | .attr r | .element r => some r
  | .literal _ => none

def AttributeItem.mentions : AttributeItem → List Mention
  | .declared d => .type d.type :: d.defaultValue.toList.map .literal
  | .reference u => [.attr u.reference]
  | .delete _ => []

def AttributeBlock.mentions (b : AttributeBlock) : List Mention :=
  b.items.flatMap AttributeItem.mentions

mutual

def ChildItem.mentions : ChildItem → List Mention
  | .element d => [.type d.type]
  | .reference u => [.element u.reference]
  | .set _ _ items _ _ => allMentions items
  | .delete _ => []

/-- What several items mention. -/
def ChildItem.allMentions : List ChildItem → List Mention
  | [] => []
  | item :: rest => mentions item ++ allMentions rest

end

def ChildrenDecl.mentions : ChildrenDecl → List Mention
  | .simple type _ => [.type type]
  | .set d => ChildItem.allMentions d.items

/-- The literals of a range of values. -/
def ValueRangeDecl.literals (d : ValueRangeDecl) : List String :=
  d.least.toList.map (·.literal) ++ d.greatest.toList.map (·.literal)

/-- The literals of a facet block. -/
def FacetBlock.literals (b : FacetBlock) : List String :=
  b.valueRange.toList.flatMap ValueRangeDecl.literals ++
    b.enums.flatMap fun e => e.items.map (·.literal)

def FacetBlock.mentions (b : FacetBlock) : List Mention :=
  b.itemType.toList.map .type ++ b.literals.map .literal

/-- What the attributes and the children of a type mention. -/
def TypeBody.contentMentions (attributes : Option AttributeBlock)
    (children : Option ChildrenDecl) : List Mention :=
  attributes.toList.flatMap AttributeBlock.mentions ++
    children.toList.flatMap ChildrenDecl.mentions

def TypeBody.mentions : TypeBody → List Mention
  | .list item => [.type item]
  | .complex attributes children => contentMentions attributes children
  | .extension base attributes children => .type base :: contentMentions attributes children
  | .restriction base facets attributes children =>
    .type base :: facets.toList.flatMap FacetBlock.mentions ++
      contentMentions attributes children

def MemberDecl.mentions : MemberDecl → List Mention
  | .type d => d.body.mentions
  | .attr d => .type d.type :: d.defaultValue.toList.map .literal
  | .element d => .type d.type :: d.substitutes.toList.map .element

namespace Declaration

variable {d : Declaration}

theorem asType?_eq_some {t : TypeDecl} : d.asType? = some t ↔ d.member = .type t := by
  unfold asType?
  cases d.member <;> simp

theorem asAttribute?_eq_some {a : GlobalAttributeDecl} :
    d.asAttribute? = some a ↔ d.member = .attr a := by
  unfold asAttribute?
  cases d.member <;> simp

theorem asElement?_eq_some {e : GlobalElementDecl} :
    d.asElement? = some e ↔ d.member = .element e := by
  unfold asElement?
  cases d.member <;> simp

end Declaration

namespace Catalog

variable {c : Catalog} {scope : Scope}

/-- A registered declaration with some scope mentions a thing. -/
def Mentions (c : Catalog) (scope : Scope) (m : Mention) : Prop :=
  ∃ d ∈ c.declarations, d.scope = scope ∧ m ∈ d.member.mentions

/-- A name stands for what it has to stand for. -/
def Meets (c : Catalog) (scope : Scope) : Mention → Prop
  | .type r => ∃ x, c.resolve scope r = .ok x ∧ ∀ o, x = .declared o → c.DeclaresType o
  | .attr r => ∃ o, c.resolve scope r = .ok (.declared o) ∧ c.DeclaresAttribute o
  | .element r => ∃ o, c.resolve scope r = .ok (.declared o) ∧ c.DeclaresElement o
  | .literal _ => True

/-- A name that stands for nothing does not stand for what it has to. -/
theorem not_meets_of_resolve {m : Mention} {r : NameRef} {d : Diagnostic}
    (hr : m.reference? = some r) (h : c.resolve scope r = .error d) : ¬c.Meets scope m := by
  cases m with
  | literal text => cases hr
  | type r' | attr r' | element r' =>
    cases hr
    rintro ⟨o, ho, -⟩
    rw [h] at ho
    cases ho

theorem Meets.declaresType {r : NameRef} {o : DeclarationId} (h : c.Meets scope (.type r))
    (hr : c.resolve scope r = .ok (.declared o)) : c.DeclaresType o := by
  obtain ⟨x, hx, hmeets⟩ := h
  rw [hr] at hx
  cases hx
  exact hmeets o rfl

theorem Meets.declaresAttribute {r : NameRef} {x : Referent} (h : c.Meets scope (.attr r))
    (hr : c.resolve scope r = .ok x) : ∃ o, x = .declared o ∧ c.DeclaresAttribute o := by
  obtain ⟨o, ho, hmeets⟩ := h
  rw [hr] at ho
  cases ho
  exact ⟨o, rfl, hmeets⟩

theorem Meets.declaresElement {r : NameRef} {x : Referent} (h : c.Meets scope (.element r))
    (hr : c.resolve scope r = .ok x) : ∃ o, x = .declared o ∧ c.DeclaresElement o := by
  obtain ⟨o, ho, hmeets⟩ := h
  rw [hr] at ho
  cases ho
  exact ⟨o, rfl, hmeets⟩

/-- A name that is mentioned does not stand for what it has to stand for. -/
def Missing (c : Catalog) : Prop := ∃ scope m, c.Mentions scope m ∧ ¬c.Meets scope m

/-- A literal that is mentioned is too long to count. -/
def TooLong (c : Catalog) : Prop :=
  ∃ scope text, c.Mentions scope (.literal text) ∧ isUncountable text

section Sorts

variable {o : DeclarationId} {d : Declaration} {m : Mention}

theorem mentions_of_get? (h : c.get? o = some d) (hm : m ∈ d.member.mentions) :
    c.Mentions d.scope m :=
  ⟨d, Array.mem_of_getElem? h, rfl, hm⟩

theorem mentions_of_type {t : TypeDecl} (h : c.getAs? (·.asType?) o = some (d, t))
    (hm : m ∈ t.body.mentions) : c.Mentions d.scope m := by
  obtain ⟨hd, ht⟩ := getAs?_eq_some_iff.1 h
  refine mentions_of_get? hd ?_
  rw [Declaration.asType?_eq_some.1 ht]
  exact hm

theorem mentions_of_attribute {a : GlobalAttributeDecl}
    (h : c.getAs? (·.asAttribute?) o = some (d, a)) (hm : m ∈ (MemberDecl.attr a).mentions) :
    c.Mentions d.scope m := by
  obtain ⟨hd, ha⟩ := getAs?_eq_some_iff.1 h
  refine mentions_of_get? hd ?_
  rw [Declaration.asAttribute?_eq_some.1 ha]
  exact hm

theorem mentions_of_element {e : GlobalElementDecl}
    (h : c.getAs? (·.asElement?) o = some (d, e)) (hm : m ∈ (MemberDecl.element e).mentions) :
    c.Mentions d.scope m := by
  obtain ⟨hd, he⟩ := getAs?_eq_some_iff.1 h
  refine mentions_of_get? hd ?_
  rw [Declaration.asElement?_eq_some.1 he]
  exact hm

end Sorts

end Catalog

/-! ## Diagnostics that stop a compilation -/

/-- The codes of names that do not stand for what they have to stand for. -/
def Code.isLookup : Code → Bool
  | .invalidImportAliasReference | .invalidNameReference | .ambiguousNameReference
  | .invalidTypeNameReference | .invalidAttributeNameReference | .invalidElementNameReference =>
    true
  | _ => false

/-- The codes that only the last diagnostic of a compilation may have. -/
def Code.isFinal (c : Code) : Bool :=
  c.isLookup || c == .circularReferenceDetected || c == .internalCompilerError

/-- A diagnostic that does not stop a compilation. -/
def Diagnostic.Ordinary (d : Diagnostic) : Prop := d.code.isFinal = false

namespace Diagnostic.Ordinary

variable {d : Diagnostic}

theorem isLookup (h : d.Ordinary) : d.code.isLookup = false := by
  simp only [Ordinary, Code.isFinal, Bool.or_eq_false_iff] at h
  exact h.1.1

theorem ne_circular (h : d.Ordinary) : d.code ≠ .circularReferenceDetected := by
  intro hd
  rw [Ordinary, hd] at h
  cases h

theorem ne_internal (h : d.Ordinary) : d.code ≠ .internalCompilerError := by
  intro hd
  rw [Ordinary, hd] at h
  cases h

end Diagnostic.Ordinary

/-- A diagnostic is about a circle, and names a declaration that lies on it. -/
def Catalog.TellsOfCircle (c : Catalog) (d : Diagnostic) : Prop :=
  ∃ o e span, c.get? o = some e ∧ c.LiesOnCircle o ∧ d = (Fault.circular e.fullName).diagnostic span

theorem Catalog.TellsOfCircle.code {c : Catalog} {d : Diagnostic} (h : c.TellsOfCircle d) :
    d.code = .circularReferenceDetected := by
  obtain ⟨o, e, span, -, -, rfl⟩ := h
  rfl

theorem Catalog.TellsOfCircle.isCircular {c : Catalog} {d : Diagnostic} (h : c.TellsOfCircle d) :
    c.IsCircular := by
  obtain ⟨o, e, span, -, ho, -⟩ := h
  exact ⟨o, ho⟩

/-- What has to be the case for a diagnostic that stops a compilation: it is about a circle, and
there is one, or it is about a name, and there is one that does not stand for what it has to. -/
structure Catalog.Explains (c : Catalog) (d : Diagnostic) : Prop where
  isError : d.isError
  cause : c.TellsOfCircle d ∨ d.code.isLookup ∧ c.Missing

namespace Catalog.Explains

variable {c : Catalog} {d : Diagnostic}

theorem ne_internal (h : c.Explains d) : d.code ≠ .internalCompilerError := by
  intro hd
  rcases h.cause with h | ⟨h, -⟩
  · rw [h.code] at hd
    cases hd
  · rw [hd] at h
    cases h

theorem tellsOfCircle (h : c.Explains d) (hd : d.code = .circularReferenceDetected) :
    c.TellsOfCircle d := by
  refine h.cause.resolve_right fun h => ?_
  rw [hd] at h
  cases h.1

end Catalog.Explains

/-- A name that stands for nothing is told of by its code. -/
theorem Catalog.lookup_of_resolve {c : Catalog} {scope : Scope} {r : NameRef} {d : Diagnostic}
    (h : c.resolve scope r = .error d) : d.isError ∧ d.code.isLookup := by
  have key : ∀ {o : Option Referent} {f : Fault},
      o.elim (.error (f.diagnostic r.span)) Except.ok = .error d → f.diagnostic r.span = d := by
    intro o f h
    cases o <;> cases h
    rfl
  unfold resolve at h
  dsimp only at h
  split at h
  · split at h
    · cases h
      exact ⟨rfl, rfl⟩
    · rw [← key h]
      exact ⟨rfl, rfl⟩
  · split at h
    · cases h
    · split at h
      · rw [← key h]
        exact ⟨rfl, rfl⟩
      · cases h
      · cases h
        exact ⟨rfl, rfl⟩

/-- The failure to look up a name that is mentioned is explained by that name. -/
theorem Catalog.explains_of_resolve {c : Catalog} {scope : Scope} {m : Mention} {r : NameRef}
    {d : Diagnostic} (hm : c.Mentions scope m) (hr : m.reference? = some r)
    (h : c.resolve scope r = .error d) : c.Explains d := by
  obtain ⟨herror, hlookup⟩ := lookup_of_resolve h
  exact ⟨herror, Or.inr ⟨hlookup, scope, m, hm, not_meets_of_resolve hr h⟩⟩

/-- A fault of a name that is mentioned is explained by that name. -/
theorem Catalog.explains_fault {c : Catalog} {scope : Scope} {m : Mention} {f : Fault}
    (hm : c.Mentions scope m) (hmeets : ¬c.Meets scope m) (hf : f.code.isLookup)
    (span : Option Span) : c.Explains (f.diagnostic span) :=
  ⟨rfl, Or.inr ⟨hf, scope, m, hm, hmeets⟩⟩

end Schemata
