import Mathlib.Data.Option.Basic
import Schemata.Proofs.Runs

/-!
# Runs that are alike

Two catalogs may hold the same declarations in different scopes. If every reference stands for the
same thing in both, or for nothing in both, then a compilation takes the same steps with either, and
only what it records may differ, as far as the diagnostics of references do. A `Comparison` says
which diagnostics and which ledgers are close enough, and `Comparison.Alike` that two runs, from
builders that differ in their ledgers only, come to the same result or stop for the same reason.
The rules below follow two runs from step to step; no step reads the ledger. The steps that make
symbols are alike: a climb goes along the same links in both, or ends at a reference that fails in
both.

Restrictions may have different entries in their blocks (`MemberDecl.Resembles`). Only the steps that
make the content of complex types see the difference.
-/

namespace Schemata

/-- What two diagnostics and two ledgers have to have in common to be close enough. Recording keeps
ledgers close. -/
structure Comparison where
  diagnostics : Diagnostic → Diagnostic → Prop
  ledgers : Ledger → Ledger → Prop
  refl (d : Diagnostic) : diagnostics d d
  add {l l' : Ledger} {d d' : Diagnostic} (hl : ledgers l l') (hd : diagnostics d d') :
    ledgers (l.add d) (l'.add d')

namespace Comparison

/-- Two ways to get an answer give the same one, or fail with close diagnostics. -/
inductive Answers (K : Comparison) {α : Type} : Except Diagnostic α → Except Diagnostic α → Prop
  | ok (a : α) : K.Answers (.ok a) (.ok a)
  | error {d d' : Diagnostic} (h : K.diagnostics d d') : K.Answers (.error d) (.error d')

/-- Two runs end in the same way, apart from what they have recorded. -/
inductive Outcomes (K : Comparison) {α : Type} :
    Except Stop (α × Builder) → Except Stop (α × Builder) → Prop
  | ok (a : α) (b : Builder) {l : Ledger} (h : K.ledgers b.ledger l) :
    K.Outcomes (.ok (a, b)) (.ok (a, { b with ledger := l }))
  | aborted {l l' : Ledger} (h : K.ledgers l l') :
    K.Outcomes (.error (.aborted l)) (.error (.aborted l'))
  | failed (message : String) {l l' : Ledger} (h : K.ledgers l l') :
    K.Outcomes (.error (.failed message l)) (.error (.failed message l'))
  | tooLong : K.Outcomes (.error .tooLong) (.error .tooLong)

/-- Two runs end in the same way if they start in the same way. -/
def Alike (K : Comparison) {α : Type} (m m' : Build α) : Prop :=
  ∀ (b : Builder) (l : Ledger), K.ledgers b.ledger l →
    K.Outcomes (m.run b) (m'.run { b with ledger := l })

theorem Answers.cases {K : Comparison} {α : Type} {x x' : Except Diagnostic α}
    (h : K.Answers x x') :
    (∃ a, x = .ok a ∧ x' = .ok a) ∨
      ∃ d d', K.diagnostics d d' ∧ x = .error d ∧ x' = .error d' := by
  cases h with
  | ok a => exact .inl ⟨a, rfl, rfl⟩
  | @error d d' h => exact .inr ⟨d, d', h, rfl, rfl⟩

theorem Answers.refl (K : Comparison) {α : Type} (x : Except Diagnostic α) : K.Answers x x := by
  cases x with
  | ok a => exact .ok a
  | error d => exact .error (K.refl d)

namespace Alike

variable {K : Comparison} {α β : Type}

/-! ## Rules -/

theorem pure (a : α) : K.Alike (pure a) (pure a) := fun b _ hl => .ok a b hl

theorem bind {m m' : Build α} {f f' : α → Build β} (hm : K.Alike m m')
    (hf : ∀ a, K.Alike (f a) (f' a)) : K.Alike (m >>= f) (m' >>= f') := by
  intro b l hl
  have h := hm b l hl
  rw [StateT.run_bind, StateT.run_bind]
  generalize m.run b = x at h
  generalize m'.run { b with ledger := l } = x' at h
  cases h with
  | ok a b₁ h => exact hf a b₁ _ h
  | aborted h => exact .aborted h
  | failed message h => exact .failed message h
  | tooLong => exact .tooLong

theorem map {m m' : Build α} {f f' : α → β} (hm : K.Alike m m') (hf : ∀ a, f' a = f a) :
    K.Alike (f <$> m) (f' <$> m') := by
  obtain rfl : f' = f := funext hf
  exact hm.bind fun a => .pure (f' a)

theorem map_bind {γ : Type} {m m' : Build α} {g : α → γ} {f f' : γ → Build β} (hm : K.Alike m m')
    (hf : ∀ c, K.Alike (f c) (f' c)) : K.Alike (g <$> m >>= f) (g <$> m' >>= f') :=
  (hm.map fun _ => rfl).bind hf

theorem discard {m m' : Build α} (hm : K.Alike m m') :
    K.Alike (discard m) (discard m') :=
  hm.map fun _ => rfl

/-- The first step may depend on a condition. -/
theorem ite_bind {q : Prop} [Decidable q] {m m' : Build Unit} {rest rest' : Build β}
    (hm : K.Alike m m') (hrest : K.Alike rest rest') :
    K.Alike (if q then m >>= fun _ => rest else rest)
      (if q then m' >>= fun _ => rest' else rest') := by
  split
  · exact hm.bind fun _ => hrest
  · exact hrest

/-! ## The state -/

/-- What follows a look at the state must not depend on the ledger. -/
theorem get_bind {f f' : Builder → Build β} (hf : ∀ b l, f' { b with ledger := l } = f' b)
    (h : ∀ b, K.Alike (f b) (f' b)) : K.Alike (get >>= f) (get >>= f') := by
  intro b l hl
  have hrun := h b b l hl
  rw [← hf b l] at hrun
  exact hrun

theorem schema_bind {f f' : Schema → Build β} (h : ∀ s, K.Alike (f s) (f' s)) :
    K.Alike (Build.schema >>= f) (Build.schema >>= f') :=
  fun b l hl => h b.schema b l hl

/-- A step that neither reads nor writes the ledger. -/
theorem modifyGet {f : Builder → α × Builder}
    (hf : ∀ b l, f { b with ledger := l } = ((f b).1, { (f b).2 with ledger := l }))
    (hl : ∀ b, (f b).2.ledger = b.ledger) :
    K.Alike (modifyGet f) (modifyGet f) := by
  intro b l h
  change K.Outcomes (.ok (f b)) (.ok (f { b with ledger := l }))
  rw [hf b l]
  exact .ok (f b).1 (f b).2 ((hl b).symm ▸ h)

theorem modify {f : Builder → Builder}
    (hf : ∀ b l, f { b with ledger := l } = { f b with ledger := l })
    (hl : ∀ b, (f b).ledger = b.ledger) : K.Alike (modify f) (modify f) :=
  modifyGet (f := fun b => ((), f b)) (fun b l => by rw [hf b l]) hl

/-! ## Recording and stopping -/

theorem note_of {d d' : Diagnostic} (h : K.diagnostics d d') :
    K.Alike (Build.note d) (Build.note d') :=
  fun b _ hl => .ok () { b with ledger := b.ledger.add d } (K.add hl h)

theorem note (d : Diagnostic) : K.Alike (Build.note d) (Build.note d) := note_of (K.refl d)

theorem require (holds : Bool) (f : Fault) (span : Option Span) :
    K.Alike (Build.require holds f span) (Build.require holds f span) := by
  cases holds with
  | true => exact .pure ()
  | false => exact note _

theorem abort_of {d d' : Diagnostic} (h : K.diagnostics d d') :
    K.Alike (Build.abort d : Build α) (Build.abort d') :=
  fun _ _ hl => .aborted (K.add hl h)

theorem abort (d : Diagnostic) : K.Alike (Build.abort d : Build α) (Build.abort d) :=
  abort_of (K.refl d)

theorem internal (f : Fault) : K.Alike (Build.internal f : Build α) (Build.internal f) := abort _

theorem orAbort_bind {x x' : Except Diagnostic α} {f f' : α → Build β} (hx : K.Answers x x')
    (hf : ∀ a, K.Alike (f a) (f' a)) :
    K.Alike (Build.orAbort x >>= f) (Build.orAbort x' >>= f') := by
  cases hx with
  | ok a => exact hf a
  | error h => exact (abort_of h).bind hf

theorem reading (x : Except TooLong α) : K.Alike (Build.reading x) (Build.reading x) := by
  cases x with
  | ok a => exact .pure a
  | error e => exact fun _ _ _ => .tooLong

/-- Record something and go on in one way, or go on in another way. -/
theorem ite_note_bind {q : Prop} [Decidable q] (d : Diagnostic) {refused refused' rest rest' : Build β}
    (hrefused : K.Alike refused refused') (hrest : K.Alike rest rest') :
    K.Alike (if q then Build.note d >>= fun _ => refused else rest)
      (if q then Build.note d >>= fun _ => refused' else rest') := by
  split
  · exact (note d).bind fun _ => hrefused
  · exact hrest

/-! ## Loops -/

theorem forM {f f' : α → Build PUnit} (hf : ∀ a, K.Alike (f a) (f' a)) (as : List α) :
    K.Alike (as.forM f) (as.forM f') := by
  induction as with
  | nil => exact .pure PUnit.unit
  | cons a as ih => exact (hf a).bind fun _ => ih

theorem notes (d : α → Diagnostic) (as : List α) :
    K.Alike (as.forM fun a => Build.note (d a)) (as.forM fun a => Build.note (d a)) :=
  forM (fun a => note (d a)) as

theorem foldlM {f f' : β → α → Build β} (hf : ∀ x a, K.Alike (f x a) (f' x a)) (as : List α)
    (x : β) : K.Alike (as.foldlM f x) (as.foldlM f' x) := by
  induction as generalizing x with
  | nil => exact .pure x
  | cons a as ih =>
    rw [List.foldlM_cons, List.foldlM_cons]
    exact (hf x a).bind ih

end Alike

end Comparison

/-! ## Declarations -/

/-- Two ways to declare a type are the same, apart from the entries in the blocks of a
restriction. -/
inductive TypeBody.Resembles : TypeBody → TypeBody → Prop
  | refl (body : TypeBody) : Resembles body body
  | blocks {r : NameRef} {facets : Option FacetBlock} {attributes attributes' : Option AttributeBlock}
    {children children' : Option ChildrenDecl}
    (attributeSpan : attributes'.map (·.span) = attributes.map (·.span))
    (childrenSpan : children'.map (·.span) = children.map (·.span)) :
    Resembles (.restriction r facets attributes children)
      (.restriction r facets attributes' children')

/-- Two declarations of types are the same, apart from such entries. -/
structure TypeDecl.Resembles (t t' : TypeDecl) : Prop where
  name : t'.name = t.name
  isAbstract : t'.isAbstract = t.isAbstract
  isSealed : t'.isSealed = t.isSealed
  body : t.body.Resembles t'.body

/-- Two members of a namespace are the same, apart from such entries. -/
inductive MemberDecl.Resembles : MemberDecl → MemberDecl → Prop
  | refl (m : MemberDecl) : Resembles m m
  | type {t t' : TypeDecl} (h : t.Resembles t') : Resembles (.type t) (.type t')

namespace TypeDecl.Resembles

variable {t t' : TypeDecl} (h : t.Resembles t')
include h

theorem base?_eq : t'.base? = t.base? := by
  have hbody := h.body
  unfold base?
  generalize t.body = body at hbody
  generalize t'.body = body' at hbody
  cases hbody <;> rfl

theorem implicitBase_eq : t'.implicitBase = t.implicitBase := by
  have hbody := h.body
  unfold implicitBase
  generalize t.body = body at hbody
  generalize t'.body = body' at hbody
  cases hbody <;> rfl

theorem header_eq (base : TypeDef) : t'.header base = t.header base := by
  have hbody := h.body
  unfold header
  generalize t.body = body at hbody
  generalize t'.body = body' at hbody
  cases hbody <;> rfl

end TypeDecl.Resembles

theorem MemberDecl.Resembles.name_eq {m m' : MemberDecl} (h : m.Resembles m') :
    m'.name = m.name := by
  cases h with
  | refl => rfl
  | type h => exact h.name

namespace Comparison

/-! ## Catalogs -/

variable (K : Comparison) (c c' : Catalog)

/-- Every reference stands for the same thing in two scopes, or for nothing in both. -/
structure Scopes (s s' : Scope) : Prop where
  uri : s'.uri = s.uri
  resolve (r : NameRef) : K.Answers (c.resolve s r) (c'.resolve s' r)

/-- Two declarations are the same apart from their scopes and the blocks of restrictions. -/
structure Declarations (d d' : Declaration) : Prop where
  member : d.member.Resembles d'.member
  scope : K.Scopes c c' d.scope d'.scope

/-- Two catalogs hold the same declarations apart from their scopes and the blocks of
restrictions. -/
structure Catalogs : Prop where
  size : c'.declarations.size = c.declarations.size
  get? (id : DeclarationId) : Option.Rel (K.Declarations c c') (c.get? id) (c'.get? id)

/-- The types are declared with the same blocks. -/
def SameBodies : Prop := ∀ {o d t d' t'}, c.getAs? (·.asType?) o = some (d, t) →
  c'.getAs? (·.asType?) o = some (d', t') → t'.body = t.body

variable {K c c'}

/-- It is enough that the members are the same. -/
theorem sameBodies_of_members
    (h : ∀ o, (c'.get? o).map (·.member) = (c.get? o).map (·.member)) : SameBodies c c' := by
  intro o d t d' t' hget hget'
  obtain ⟨hd, ht⟩ := Catalog.getAs?_eq_some_iff.1 hget
  obtain ⟨hd', ht'⟩ := Catalog.getAs?_eq_some_iff.1 hget'
  have hm := h o
  rw [hd, hd', Option.map_some, Option.map_some, Option.some.injEq] at hm
  unfold Declaration.asType? at ht ht'
  rw [hm] at ht'
  rw [Option.some.inj (ht'.symm.trans ht)]

namespace Declarations

variable {d d' : Declaration} (h : K.Declarations c c' d d')
include h

theorem name : d'.name = d.name := congrArg Ident.text h.member.name_eq

theorem fullName : d'.fullName = d.fullName := by
  rw [Declaration.fullName, Declaration.fullName, h.name, h.scope.uri]

/-- Both are declarations of types, or neither is. -/
theorem asType?_cases : (d.asType? = none ∧ d'.asType? = none) ∨
    ∃ t t', t.Resembles t' ∧ d.asType? = some t ∧ d'.asType? = some t' := by
  have hm := h.member
  unfold Declaration.asType?
  generalize d.member = m at hm
  generalize d'.member = m' at hm
  cases hm with
  | refl m =>
    cases m with
    | type t => exact .inr ⟨t, t, ⟨rfl, rfl, rfl, .refl _⟩, rfl, rfl⟩
    | _ => exact .inl ⟨rfl, rfl⟩
  | type ht => exact .inr ⟨_, _, ht, rfl, rfl⟩

theorem isSome_asType? : d'.asType?.isSome = d.asType?.isSome := by
  rcases h.asType?_cases with ⟨hd, hd'⟩ | ⟨t, t', -, hd, hd'⟩ <;> simp [hd, hd']

/-- They name the same base. -/
theorem bind_base? : (d'.asType?.bind fun t => t.base?) = d.asType?.bind fun t => t.base? := by
  rcases h.asType?_cases with ⟨hd, hd'⟩ | ⟨t, t', ht, hd, hd'⟩ <;> rw [hd, hd']
  exact ht.base?_eq

theorem asAttribute? : d'.asAttribute? = d.asAttribute? := by
  have hm := h.member
  unfold Declaration.asAttribute?
  generalize d.member = m at hm
  generalize d'.member = m' at hm
  cases hm <;> rfl

theorem asElement? : d'.asElement? = d.asElement? := by
  have hm := h.member
  unfold Declaration.asElement?
  generalize d.member = m at hm
  generalize d'.member = m' at hm
  cases hm <;> rfl

theorem sort : d'.sort = d.sort := by
  have hm := h.member
  unfold Declaration.sort
  generalize d.member = m at hm
  generalize d'.member = m' at hm
  cases hm <;> rfl

end Declarations

namespace Catalogs

variable {α : Type} (h : K.Catalogs c c')
include h

theorem ids : c'.ids = c.ids := by
  rw [Catalog.ids, Catalog.ids, h.size]

/-- A number stands for the same declaration in both catalogs, or for none. -/
theorem get?_cases (id : DeclarationId) :
    (c.get? id = none ∧ c'.get? id = none) ∨
      ∃ d d', K.Declarations c c' d d' ∧ c.get? id = some d ∧ c'.get? id = some d' := by
  have hid := h.get? id
  generalize c.get? id = x at hid
  generalize c'.get? id = x' at hid
  cases hid with
  | none => exact .inl ⟨rfl, rfl⟩
  | @some d d' hd => exact .inr ⟨d, d', hd, rfl, rfl⟩

/-- What is said of declarations apart from their scopes is said in both catalogs. -/
theorem bind_get? {f : Declaration → Option α}
    (hf : ∀ {d d'}, K.Declarations c c' d d' → f d' = f d) (id : DeclarationId) :
    (c'.get? id).bind f = (c.get? id).bind f := by
  rcases h.get?_cases id with ⟨hc, hc'⟩ | ⟨d, d', hd, hc, hc'⟩
  · rw [hc, hc']
  · rw [hc, hc']
    exact hf hd

/-- Both catalogs declare the same thing under a number, or both nothing of that sort. -/
theorem getAs?_cases {as? : Declaration → Option α}
    (has : ∀ {d d'}, K.Declarations c c' d d' → as? d' = as? d) (id : DeclarationId) :
    (c.getAs? as? id = none ∧ c'.getAs? as? id = none) ∨
      ∃ d d' a, K.Declarations c c' d d' ∧ c.getAs? as? id = some (d, a) ∧
        c'.getAs? as? id = some (d', a) := by
  unfold Catalog.getAs?
  rcases h.get?_cases id with ⟨hc, hc'⟩ | ⟨d, d', hd, hc, hc'⟩
  · rw [hc, hc']
    exact .inl ⟨rfl, rfl⟩
  · rw [hc, hc', Option.bind_some, Option.bind_some, has hd]
    cases as? d with
    | none => exact .inl ⟨rfl, rfl⟩
    | some a => exact .inr ⟨d, d', a, hd, rfl, rfl⟩

/-- Both catalogs declare a type under a number, or both none. -/
theorem getType?_cases (id : DeclarationId) :
    (c.getAs? (·.asType?) id = none ∧ c'.getAs? (·.asType?) id = none) ∨
      ∃ d d' t t', K.Declarations c c' d d' ∧ t.Resembles t' ∧
        c.getAs? (·.asType?) id = some (d, t) ∧ c'.getAs? (·.asType?) id = some (d', t') := by
  unfold Catalog.getAs?
  rcases h.get?_cases id with ⟨hc, hc'⟩ | ⟨d, d', hd, hc, hc'⟩
  · rw [hc, hc']
    exact .inl ⟨rfl, rfl⟩
  · rw [hc, hc', Option.bind_some, Option.bind_some]
    dsimp only
    rcases hd.asType?_cases with ⟨ht, ht'⟩ | ⟨t, t', hr, ht, ht'⟩
    · rw [ht, ht']
      exact .inl ⟨rfl, rfl⟩
    · rw [ht, ht']
      exact .inr ⟨d, d', t, t', hd, hr, rfl, rfl⟩

theorem bind_getType?_cases (o : Option DeclarationId) :
    (o.bind (c.getAs? (·.asType?)) = none ∧ o.bind (c'.getAs? (·.asType?)) = none) ∨
      ∃ id d d' t t', K.Declarations c c' d d' ∧ t.Resembles t' ∧ o = some id ∧
        c.getAs? (·.asType?) id = some (d, t) ∧ c'.getAs? (·.asType?) id = some (d', t') := by
  cases o with
  | none => exact .inl ⟨rfl, rfl⟩
  | some id =>
    rcases h.getType?_cases id with hnone | ⟨d, d', t, t', hd, ht, hc, hc'⟩
    · exact .inl hnone
    · exact .inr ⟨id, d, d', t, t', hd, ht, rfl, hc, hc'⟩

/-- A circle is told in the same words. -/
theorem circleAt {reference : Declaration → Option NameRef}
    (hr : ∀ {d d'}, K.Declarations c c' d d' → reference d' = reference d)
    (passed : List DeclarationId) (id : DeclarationId) :
    circleAt c' reference passed id = circleAt c reference passed id := by
  have hclosing : ((passed.head?.bind c'.get?).bind fun d => (reference d).bind (·.span)) =
      (passed.head?.bind c.get?).bind fun d => (reference d).bind (·.span) := by
    cases passed.head? with
    | none => rfl
    | some last => exact h.bind_get? (fun hd => by rw [hr hd]) last
  unfold Schemata.circleAt
  rw [hclosing]
  rcases h.get?_cases id with ⟨hc, hc'⟩ | ⟨d, d', hd, hc, hc'⟩
  · rw [hc, hc']
  · rw [hc, hc']
    dsimp only
    rw [hd.fullName, hd.member.name_eq]

/-- Symbols get the same names. -/
theorem published (b : Builder) (l : Ledger) :
    { b with ledger := l }.published c' = b.published c := by
  unfold Builder.published
  rw [h.ids]
  congr 1
  funext s id
  have hsymbol : { b with ledger := l }.symbol? id = b.symbol? id := rfl
  rw [hsymbol]
  rcases h.get?_cases id with ⟨hc, hc'⟩ | ⟨d, d', hd, hc, hc'⟩
  · rw [hc, hc']
  · rw [hc, hc']
    cases b.symbol? id with
    | none => rfl
    | some symbol => exact congrArg (s.publish · symbol) hd.fullName

end Catalogs

end Comparison

/-! ## Symbols from two catalogs -/

namespace Comparison

variable {K : Comparison} {c c' : Catalog} {limits : Limits} {s s' : Scope}

/-! ## Links -/

/-- Two climbs along links that answer alike answer alike. -/
theorem Answers.climb {α : Type} {known : DeclarationId → Except Diagnostic (Option α)}
    {link link' : DeclarationId → Except Diagnostic (Link α)}
    {circle : List DeclarationId → DeclarationId → Diagnostic}
    (hlink : ∀ id, K.Answers (link id) (link' id)) (fuel : Nat) (passed : List DeclarationId)
    (id : DeclarationId) :
    K.Answers (climb known link circle fuel passed id)
      (climb known link' circle fuel passed id) := by
  induction fuel generalizing passed id with
  | zero => exact .refl K _
  | succ fuel ih =>
    unfold Schemata.climb
    split
    · exact .refl K _
    · exact .refl K _
    · split
      · exact .refl K _
      · rcases (hlink id).cases with ⟨l, hl, hl'⟩ | ⟨d, d', hd, hl, hl'⟩
        · rw [hl, hl']
          cases l with
          | root a => exact .ok _
          | next up => exact ih (id :: passed) up
        · rw [hl, hl']
          exact .error hd

namespace Catalogs

variable {α : Type} (h : K.Catalogs c c')
include h

theorem typeLink (id : DeclarationId) : K.Answers (typeLink c id) (typeLink c' id) := by
  unfold Schemata.typeLink
  rcases h.getType?_cases id with ⟨hc, hc'⟩ | ⟨d, d', t, t', hd, ht, hc, hc'⟩
  · rw [hc, hc']
    exact .refl K _
  · rw [hc, hc']
    dsimp only
    rw [ht.base?_eq, ht.implicitBase_eq]
    split
    · exact .ok _
    · rename_i r _
      rcases (hd.scope.resolve r).cases with ⟨referent, hr, hr'⟩ | ⟨e, e', he, hr, hr'⟩
      · rw [hr, hr']
        cases referent with
        | builtin k => exact .ok _
        | declared up =>
          dsimp only
          have hsort : ((c'.get? up).bind (·.asType?)).isSome =
              ((c.get? up).bind (·.asType?)).isSome := by
            rcases h.get?_cases up with ⟨hup, hup'⟩ | ⟨x, x', hx, hup, hup'⟩ <;> rw [hup, hup']
            exact hx.isSome_asType?
          rw [hsort]
          exact .refl K _
      · rw [hr, hr']
        exact .error he

theorem elementLink (id : DeclarationId) : K.Answers (elementLink c id) (elementLink c' id) := by
  unfold Schemata.elementLink
  rcases h.getAs?_cases (·.asElement?) id with ⟨hc, hc'⟩ | ⟨d, d', e, hd, hc, hc'⟩
  · rw [hc, hc']
    exact .refl K _
  · rw [hc, hc']
    dsimp only
    split
    · exact .ok _
    · rename_i r _
      rcases (hd.scope.resolve r).cases with ⟨referent, hr, hr'⟩ | ⟨e, e', he, hr, hr'⟩
      · rw [hr, hr']
        cases referent with
        | builtin k => exact .refl K _
        | declared up =>
          dsimp only
          rw [h.bind_get? (·.asElement?) up]
          exact .refl K _
      · rw [hr, hr']
        exact .error he

end Catalogs

namespace Alike

variable (h : K.Catalogs c c')
include h

/-! ## Types -/

theorem createType (base : TypeId) (id : DeclarationId) :
    K.Alike (createType c limits base id) (createType c' limits base id) := by
  unfold Schemata.createType
  rcases h.getType?_cases id with ⟨hc, hc'⟩ | ⟨d, d', t, t', hd, ht, hc, hc'⟩
  · rw [hc, hc']
    exact internal _
  · rw [hc, hc']
    dsimp only
    simp only [hd.fullName, ht.base?_eq, ht.header_eq, ht.name, ht.isAbstract, ht.isSealed]
    refine .schema_bind fun schema => ?_
    -- Whether a base is written only decides whether something is recorded first.
    split
    on_goal 2 => refine (notes _ _).bind fun _ => ?_
    all_goals
      refine .bind (.modifyGet (fun _ _ => rfl) fun _ => rfl) fun made => .schema_bind fun _ => ?_
      split
      · exact .pure _
      · exact (note _).bind fun _ => .pure _

theorem resolveType (id : DeclarationId) :
    K.Alike (resolveType c limits id) (resolveType c' limits id) := by
  unfold Schemata.resolveType
  refine .get_bind (fun _ _ => rfl) fun b => ?_
  dsimp only
  rw [funext₂ (h.circleAt fun hd => hd.bind_base?), h.size]
  refine .orAbort_bind (.climb h.typeLink _ _ _) fun p => ?_
  exact .foldlM (fun base id => createType h base id) p.2 p.1

theorem typeOf (hs : K.Scopes c c' s s') (r : NameRef) :
    K.Alike (typeOf c limits s r) (typeOf c' limits s' r) := by
  unfold Schemata.typeOf
  refine .orAbort_bind (hs.resolve r) fun referent => ?_
  cases referent with
  | builtin k => exact .pure _
  | declared id =>
    dsimp only
    rcases h.get?_cases id with ⟨hc, hc'⟩ | ⟨d, d', hd, hc, hc'⟩
    · rw [hc, hc']
      exact abort _
    · rw [hc, hc']
      dsimp only
      rw [hd.isSome_asType?, hd.sort]
      split
      · exact resolveType h id
      · exact abort _

theorem simpleTypeOf (hs : K.Scopes c c' s s') (r : NameRef) :
    K.Alike (simpleTypeOf c limits s r) (simpleTypeOf c' limits s' r) :=
  (typeOf h hs r).bind fun _ => .schema_bind fun _ => (require _ _ _).bind fun _ => .pure _

/-! ## Elements -/

theorem createElement (head : Option ElementId) (id : DeclarationId) :
    K.Alike (createElement c limits head id) (createElement c' limits head id) := by
  unfold Schemata.createElement
  rcases h.getAs?_cases (·.asElement?) id with ⟨hc, hc'⟩ | ⟨d, d', e, hd, hc, hc'⟩
  · rw [hc, hc']
    exact internal _
  · rw [hc, hc']
    dsimp only
    rw [hd.fullName]
    refine (typeOf h hd.scope e.type).bind fun type => ?_
    refine .bind (.modifyGet (fun _ _ => rfl) fun _ => rfl) fun made => .schema_bind fun _ => ?_
    split
    · exact .pure _
    · exact (notes _ _).bind fun _ => .pure _

theorem resolveElement (id : DeclarationId) :
    K.Alike (resolveElement c limits id) (resolveElement c' limits id) := by
  unfold Schemata.resolveElement
  refine .get_bind (fun _ _ => rfl) fun b => ?_
  dsimp only
  rw [funext₂ (h.circleAt fun hd => by rw [hd.asElement?]), h.size]
  refine .orAbort_bind (.climb h.elementLink _ _ _) fun p => ?_
  refine .bind (.foldlM (fun head id => createElement h head id) p.2 p.1) fun e => ?_
  cases e with
  | some e => exact .pure e
  | none => exact internal _

theorem elementOf (hs : K.Scopes c c' s s') (r : NameRef) :
    K.Alike (elementOf c limits s r) (elementOf c' limits s' r) := by
  unfold Schemata.elementOf
  refine .orAbort_bind (hs.resolve r) fun referent => ?_
  cases referent with
  | builtin k => exact abort _
  | declared id =>
    dsimp only
    rw [h.bind_get? (·.asElement?) id]
    split
    · exact resolveElement h id
    · exact abort _

/-! ## Simple types -/

omit h in
theorem restrictSimple_congr {attributes attributes' : Option AttributeBlock}
    {children children' : Option ChildrenDecl} {kind : Kind} {base : SimpleContent}
    {facets : Option FacetBlock} (ha : attributes'.map (·.span) = attributes.map (·.span))
    (hc : children'.map (·.span) = children.map (·.span)) :
    Schemata.restrictSimple c' limits s' kind base facets attributes' children' =
      Schemata.restrictSimple c' limits s' kind base facets attributes children := by
  have hspan {α : Type} {f : α → Option Span} {x x' : Option α} (hx : x'.map f = x.map f) :
      x'.isSome = x.isSome ∧ x'.bind f = x.bind f := by
    cases x <;> cases x' <;> simp_all
  unfold Schemata.restrictSimple
  rw [(hspan ha).1, (hspan ha).2, (hspan hc).1, (hspan hc).2]

theorem restrictItem (hs : K.Scopes c c' s s') (base : Option TypeId) (r : NameRef) :
    K.Alike (restrictItem c limits s base r) (restrictItem c' limits s' base r) := by
  unfold Schemata.restrictItem
  refine (simpleTypeOf h hs r).bind fun item => .schema_bind fun schema => ?_
  cases base with
  | none => exact .pure _
  | some baseItem =>
    dsimp only
    split
    · exact .pure _
    · exact (note _).bind fun _ => .pure _

theorem restrictSimple (hs : K.Scopes c c' s s') (kind : Kind) (base : SimpleContent)
    (facets : Option FacetBlock) (attributes : Option AttributeBlock)
    (children : Option ChildrenDecl) :
    K.Alike (restrictSimple c limits s kind base facets attributes children)
      (restrictSimple c' limits s' kind base facets attributes children) := by
  unfold Schemata.restrictSimple
  refine .ite_bind (note _) ?_
  cases facets with
  | none => exact .pure _
  | some block =>
    refine (reading _).bind fun narrowed => ?_
    extract_lets rest rest'
    have hrest (facets : Option FacetSet) : K.Alike (rest facets) (rest' facets) := by
      unfold rest rest'
      split
      · split
        · exact (restrictItem h hs _ _).bind fun _ => .pure _
        · exact .pure _
      · exact .pure _
    cases narrowed with
    | ok f => exact hrest (some f)
    | error ds => exact (forM note ds).bind fun _ => hrest base.facets

theorem simpleContent (hs : K.Scopes c c' s s') (kind : Kind) (base : SimpleContent)
    {body body' : TypeBody} (hbody : body.Resembles body') :
    K.Alike (simpleContent c limits s kind base body)
      (simpleContent c' limits s' kind base body') := by
  unfold Schemata.simpleContent
  cases hbody with
  | refl body =>
    cases body with
    | list item => exact (simpleTypeOf h hs item).bind fun _ => .pure _
    | restriction => exact restrictSimple h hs _ _ _ _ _
    | complex => exact .pure _
    | extension => exact .pure _
  | blocks attributeSpan childrenSpan =>
    -- Of blocks that a simple type cannot have it only matters whether they are there, and where.
    dsimp only
    rw [restrictSimple_congr attributeSpan childrenSpan]
    exact restrictSimple h hs _ _ _ _ _

theorem finishSimple (id : TypeId) :
    K.Alike (finishSimple c limits id) (finishSimple c' limits id) := by
  unfold Schemata.finishSimple
  refine .get_bind (fun _ _ => rfl) fun b => ?_
  rcases h.bind_getType?_cases (b.origin? id) with
    ⟨hc, hc'⟩ | ⟨o, d, d', t, t', hd, ht, ho, hc, hc'⟩
  · rw [hc, hc']
    exact internal _
  · rw [ho, Option.bind_some, Option.bind_some, hc, hc']
    refine .schema_bind fun schema => ?_
    refine .bind (.modify (fun _ _ => rfl) fun _ => rfl) fun _ => ?_
    refine (simpleContent h hd.scope _ _ ht.body).bind fun content => ?_
    exact .modify (fun _ _ => rfl) fun _ => rfl

theorem ensureSimple (id : TypeId) :
    K.Alike (ensureSimple c limits id) (ensureSimple c' limits id) := by
  unfold Schemata.ensureSimple
  refine .get_bind (fun _ _ => rfl) fun b => ?_
  dsimp only
  split
  · exact internal _
  · exact .forM (finishSimple h) _

theorem defaultValue (type : TypeId) (literal : Option String) (span : Option Span) :
    K.Alike (defaultValue c limits type literal span) (defaultValue c' limits type literal span) := by
  unfold Schemata.defaultValue
  cases literal with
  | none => exact .pure _
  | some text =>
    refine .schema_bind fun schema => ?_
    dsimp only
    split
    · exact .pure _
    · refine (ensureSimple h type).bind fun _ => .schema_bind fun schema => ?_
      refine (reading _).bind fun v => ?_
      cases v with
      | none => exact (note _).bind fun _ => .pure _
      | some v =>
        dsimp only
        split
        · exact .pure _
        · exact (note _).bind fun _ => .pure _

end Alike

end Comparison

end Schemata
