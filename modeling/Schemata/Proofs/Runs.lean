import Schemata.Proofs.Steps

/-!
# Runs of a compilation

`Builder.Ensures` is a triple for a run from one builder: if it comes to an end, the builder has
grown calmly, has kept its invariant, and ends with the given result. A run that stops early is of
no concern, since no schema comes out of it. The rules below follow a run from step to step; what
was known of an earlier builder stays at hand, so that a result may speak of that as well.
-/

namespace Schemata

namespace Builder

/-- Every run that comes to an end keeps the invariant and has the given result. -/
def Ensures {α : Type} (b : Builder) (c : Catalog) (m : Build α) (Q : α → Builder → Prop) :
    Prop :=
  b.Inv c → ∀ a b', m.run b = .ok (a, b') → b.GrowsCalmly c b' ∧ b'.Inv c ∧ Q a b'

namespace Ensures

variable {c : Catalog} {b : Builder} {α β : Type} {P : α → Builder → Prop}
  {Q : β → Builder → Prop}

/-! ## Rules -/

theorem pure {Q : α → Builder → Prop} {a : α} (h : Q a b) : b.Ensures c (pure a) Q := by
  intro hb a' b' hrun
  cases hrun
  exact ⟨.refl c b, hb, h⟩

theorem bind {m : Build α} {f : α → Build β} (hm : b.Ensures c m P)
    (hf : ∀ a b₁, b.GrowsCalmly c b₁ → b₁.Inv c → P a b₁ → b₁.Ensures c (f a) Q) :
    b.Ensures c (m >>= f) Q := by
  intro hb r b' hrun
  obtain ⟨⟨a, b₁⟩, hrun₁, hrun₂⟩ := bind_eq_ok hrun
  obtain ⟨hg₁, hb₁, hP⟩ := hm hb a b₁ hrun₁
  obtain ⟨hg₂, hb₂, hQ⟩ := hf a b₁ hg₁ hb₁ hP hb₁ r b' hrun₂
  exact ⟨hg₁.trans hb hb₁ hg₂, hb₂, hQ⟩

/-- What follows from the result, and from growth, is a result. -/
theorem mono {m : Build α} {Q : α → Builder → Prop} (hm : b.Ensures c m P)
    (h : ∀ a b₁, b.GrowsCalmly c b₁ → b₁.Inv c → P a b₁ → Q a b₁) : b.Ensures c m Q := by
  intro hb a b' hrun
  obtain ⟨hg, hb', hP⟩ := hm hb a b' hrun
  exact ⟨hg, hb', h a b' hg hb' hP⟩

/-- The invariant is there to be used. -/
theorem of_inv {m : Build α} (h : b.Inv c → b.Ensures c m P) : b.Ensures c m P :=
  fun hb => h hb hb

theorem map {m : Build α} {f : α → β} (hm : b.Ensures c m fun a b₁ => Q (f a) b₁) :
    b.Ensures c (f <$> m) Q :=
  hm.bind fun _ _ _ _ hQ => .pure hQ

theorem discard {m : Build α} {Q : Unit → Builder → Prop} (hm : b.Ensures c m fun _ b₁ => Q () b₁) :
    b.Ensures c (discard m) Q :=
  hm.bind fun _ _ _ _ hQ => .pure hQ

theorem map_bind {γ : Type} {m : Build α} {g : α → γ} {f : γ → Build β} (hm : b.Ensures c m P)
    (hf : ∀ a b₁, b.GrowsCalmly c b₁ → b₁.Inv c → P a b₁ → b₁.Ensures c (f (g a)) Q) :
    b.Ensures c (g <$> m >>= f) Q := by
  rw [bind_map_left]
  exact hm.bind hf

/-! ## Reading the state -/

theorem schema_bind {f : Schema → Build β} (h : b.Ensures c (f b.schema) Q) :
    b.Ensures c (Build.schema >>= f) Q := h

theorem get_bind {f : Builder → Build β} (h : b.Ensures c (f b) Q) :
    b.Ensures c (get >>= f) Q := h

/-! ## Stopping -/

theorem abort {d : Diagnostic} : b.Ensures c (Build.abort d) P := by
  intro _ _ _ hrun
  cases hrun

theorem internal {f : Fault} : b.Ensures c (Build.internal f) P := abort

theorem orAbort_bind {x : Except Diagnostic α} {f : α → Build β}
    (h : ∀ a, x = .ok a → b.Ensures c (f a) Q) : b.Ensures c (Build.orAbort x >>= f) Q := by
  cases x with
  | error d => exact abort.bind fun a b₁ _ _ (hfalse : False) => hfalse.elim
  | ok a => exact h a rfl

theorem reading_bind {x : Except TooLong α} {f : α → Build β}
    (h : ∀ a, x = .ok a → b.Ensures c (f a) Q) : b.Ensures c (Build.reading x >>= f) Q := by
  cases x with
  | error d =>
    intro _ _ _ hrun
    cases hrun
  | ok a => exact h a rfl

/-! ## Recording -/

theorem note (d : Diagnostic) : b.Ensures c (Build.note d) fun _ b₁ =>
    (∃ l, b₁ = { b with ledger := l }) ∧ (d.isError → ¬b₁.Clean) := by
  have hl : (b.ledger.add d).hasErrors = (b.ledger.hasErrors || d.isError) := by
    rw [Ledger.hasErrors_eq, Ledger.hasErrors_eq, Ledger.toList_add, List.any_append]
    simp
  have hl' : (b.ledger.add d).hasErrors = false → b.Clean := by
    rw [hl, Bool.or_eq_false_iff]
    exact fun h => h.1
  intro hb a b' hrun
  cases hrun
  exact ⟨withLedger_grows hl', withLedger_inv hb hl', ⟨_, rfl⟩, fun hd => by simp [Clean, hl, hd]⟩

theorem require (holds : Bool) (f : Fault) (span : Option Span) :
    b.Ensures c (Build.require holds f span) fun _ b₁ =>
      (∃ l, b₁ = { b with ledger := l }) ∧ (b₁.Clean → holds) := by
  cases holds with
  | false =>
    refine (note _).mono fun _ b₁ _ _ h => ?_
    exact ⟨h.1, fun hc => absurd hc (h.2 (f.isError_diagnostic span))⟩
  | true => exact .pure ⟨⟨b.ledger, rfl⟩, fun _ => rfl⟩

/-- Record a fault for each of some things. -/
theorem noteEach (d : α → Diagnostic) (hd : ∀ a, (d a).isError) (as : List α) :
    b.Ensures c (as.forM fun a => Build.note (d a)) fun _ b₁ =>
      (∃ l, b₁ = { b with ledger := l }) ∧ (b₁.Clean → as = []) := by
  induction as generalizing b with
  | nil => exact .pure ⟨⟨b.ledger, rfl⟩, fun _ => rfl⟩
  | cons a as ih =>
    change b.Ensures c (Build.note (d a) >>= fun _ => as.forM fun a => Build.note (d a)) _
    refine (note _).bind fun _ b₁ _ _ h => ih.mono fun _ b₂ hg _ h₂ => ?_
    obtain ⟨⟨l, rfl⟩, hne⟩ := h
    obtain ⟨⟨l', rfl⟩, -⟩ := h₂
    exact ⟨⟨l', rfl⟩, fun hc => absurd (hg.clean hc) (hne (hd a))⟩

theorem noteFaults (fs : List Fault) (span : Option Span) :
    b.Ensures c (fs.forM fun f => Build.note (f.diagnostic span)) fun _ b₁ =>
      (∃ l, b₁ = { b with ledger := l }) ∧ (b₁.Clean → fs = []) :=
  noteEach _ (fun f => f.isError_diagnostic span) fs

/-- Recording changes nothing else. -/
theorem noteAll (ds : List Diagnostic) : b.Ensures c (ds.forM Build.note) fun _ b₁ =>
    ∃ l, b₁ = { b with ledger := l } := by
  induction ds generalizing b with
  | nil => exact .pure ⟨b.ledger, rfl⟩
  | cons d ds ih =>
    change b.Ensures c (Build.note d >>= fun _ => ds.forM Build.note) _
    refine (note d).bind fun _ b₁ _ _ h => ih.mono fun _ b₂ _ _ h₂ => ?_
    obtain ⟨⟨l, rfl⟩, -⟩ := h
    exact h₂

/-! ## What is in the making -/

theorem openAttribute (o : DeclarationId) :
    b.Ensures c (modify (·.openAttribute o)) fun _ b₁ => b₁ = b.openAttribute o := by
  intro hb _ b' hrun
  cases hrun
  exact ⟨withOpen_grows _ _, withOpen_inv hb _ _, rfl⟩

theorem openType (id : TypeId) :
    b.Ensures c (modify (·.openType id)) fun _ b₁ => b₁ = b.openType id := by
  intro hb _ b' hrun
  cases hrun
  exact ⟨withOpen_grows _ _, withOpen_inv hb _ _, rfl⟩

/-! ## Adding symbols -/

theorem addType {o : DeclarationId} {t : TypeDef} {d : Declaration} {decl : TypeDecl}
    {up : TypeId} (hd : c.get? o = some d) (ht : d.asType? = some decl) (hk : ¬b.TypeKnown o)
    (hup : t.base = some up) (hhas : b.schema.Has up)
    (hh : decl.header (b.schema.typeDef up) = (t.kind, t.derivation))
    (hroot : ∀ root, typeLink c o = .ok (.root root) → up = root)
    (hc : t.content = t.kind.emptyContent) :
    b.Ensures c (modifyGet (·.addType o t)) fun id b₁ =>
      id = ⟨b.schema.types.size⟩ ∧ b₁ = (b.addType o t).2 := by
  intro hb a b' hrun
  cases hrun
  have ho : c.DeclaresType o := by simp [Catalog.DeclaresType, hd, ht]
  exact ⟨addType_grows hb t ho hk, addType_inv hb hd ht hk hup hhas hh hroot hc, rfl, rfl⟩

theorem addAttribute {o : DeclarationId} {a : Attribute} (ho : ¬c.DeclaresType o)
    (ha : b.DefaultFits 0 a) : b.Ensures c (modifyGet (·.addAttribute o a)) fun id b₁ =>
      id = ⟨b.schema.attributes.size⟩ ∧ b₁ = (b.addAttribute o a).2 := by
  intro hb _ b' hrun
  cases hrun
  exact ⟨addAttribute_grows a ho, addAttribute_inv hb ho ha, rfl, rfl⟩

theorem run_noteFaults (fs : List Fault) (span : Option Span) (b : Builder) :
    (fs.forM fun f => Build.note (f.diagnostic span)).run b =
      .ok ((), { b with ledger := b.ledger.extend (fs.map (·.diagnostic span)) }) := by
  induction fs generalizing b with
  | nil => rfl
  | cons f fs ih => exact ih _

/-- An element is added before it is known to go with the one that it substitutes. If the faults
that are recorded then include all that can be wrong, the invariant holds again. -/
theorem addElement (faults : Schema → List Fault) (span : Option Span) {o : DeclarationId}
    {e : Element} {rest : ElementId → Schema → Build (Option ElementId)}
    (hrest : ∀ id s, rest id s = do
      (faults s).forM fun f => Build.note (f.diagnostic span)
      return some id) (ho : ¬c.DeclaresType o)
    (hup : ∀ up, e.substituted = some up → up.index < b.schema.elements.size)
    (hs : faults (b.addElement o e).2.schema = [] → ∀ up h, e.substituted = some up →
      b.schema.element? up = some h →
      b.schema.derives e.type h.type ∧ (e.isNullable → h.isNullable)) :
    b.Ensures c (modifyGet (·.addElement o e) >>= fun id => Build.schema >>= rest id) fun id b₁ =>
      ∀ up, id = some up → up.index < b₁.schema.elements.size := by
  intro hb id b' hrun
  let fs := faults (b.addElement o e).2.schema
  let l := b.ledger.extend (fs.map (·.diagnostic span))
  have hrun' : (some (ElementId.mk b.schema.elements.size),
      (Builder.addElement { b with ledger := l } o e).2) = (id, b') := by
    have h : (rest ⟨b.schema.elements.size⟩ (b.addElement o e).2.schema).run (b.addElement o e).2 =
        .ok (id, b') := hrun
    rw [hrest, StateT.run_bind, run_noteFaults] at h
    exact Except.ok.inj h
  cases hrun'
  have hl : l.hasErrors = false → b.Clean ∧ fs = [] := by
    intro h
    rw [Ledger.hasErrors_extend, Bool.or_eq_false_iff, List.any_map, List.any_eq_false] at h
    refine ⟨h.1, List.eq_nil_iff_forall_not_mem.2 fun f hf => h.2 f hf (f.isError_diagnostic span)⟩
  have hg := withLedger_grows (c := c) fun h => (hl h).1
  have hb' := withLedger_inv hb fun h => (hl h).1
  refine ⟨hg.trans hb hb' (addElement_grows e ho), addElement_inv hb' ho hup fun hc => ?_, ?_⟩
  · exact hs (hl hc).2
  · rintro up ⟨⟩
    simp [Builder.addElement]

/-! ## Giving content -/

theorem finishSimple {id : TypeId} {x : SimpleContent} (hid : b.schema.Has id)
    (hf : ¬b.isFinished id) (hk : (b.schema.typeDef id).kind.isSimple)
    (hup : ∀ up, (b.schema.typeDef id).base = some up → b.isFinished up)
    (hx : ∀ up d, (b.schema.typeDef id).base = some up →
      (b.schema.typeDef up).asSimple? = some d → x.Narrows b.schema d)
    (hi : b.Clean → ∀ item, x.item = some item → (b.schema.typeDef item).kind.isSimple) :
    b.Ensures c (modify (·.finish id (.simple x))) fun _ b₁ => b₁.finished = id :: b.finished := by
  intro hb _ b' hrun
  cases hrun
  obtain ⟨hg, hb'⟩ := finish_simple hb hid hf hk hup hx hi
  exact ⟨hg, hb', rfl⟩

end Ensures

end Builder

end Schemata
