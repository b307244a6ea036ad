import Schemata.Proofs.Mirrors
import Schemata.Proofs.SimpleReports

/-!
# Runs that are mirrored

A run is mirrored (`Shift.Mirrored`) if another one comes to its end whenever it does, with the same
result under other numbers, and leaves a builder that mirrors the one that it leaves. Nothing is
said of runs that stop early. The rules below follow two runs from step to step. A type or an element
gets its symbol in a mirrored run, and so does everything above it, since links lead to the same
places; a simple type gets its content, and a literal is read as the same default value.
-/

namespace Schemata

namespace Shift

variable {c c' : Catalog} {α β γ δ : Type}

/-- Whenever one run comes to an end, so does the other one, with the mirrored result. -/
def Mirrored (σ : Shift c c') (m : Build α) (f : α → β) (m' : Build β) : Prop :=
  ∀ b b', σ.Mirrors b b' → ∀ a b₁, m.run b = .ok (a, b₁) →
    ∃ b₁', m'.run b' = .ok (f a, b₁') ∧ σ.Mirrors b₁ b₁'

namespace Mirrored

variable {σ : Shift c c'} {m : Build α} {m' : Build β} {f : α → β} {g : γ → δ}

/-! ## Rules -/

theorem pure (f : α → β) (a : α) : σ.Mirrored (pure a) f (pure (f a)) := by
  intro b b' h a b₁ hrun
  cases hrun
  exact ⟨b', rfl, h⟩

theorem pure_of {a : α} {a' : β} (h : a' = f a) :
    σ.Mirrored (Pure.pure a) f (Pure.pure a') := h ▸ pure f a

theorem bind {k : α → Build γ} {k' : β → Build δ} (hm : σ.Mirrored m f m')
    (hk : ∀ a, σ.Mirrored (k a) g (k' (f a))) : σ.Mirrored (m >>= k) g (m' >>= k') := by
  intro b b' h x b₂ hrun
  obtain ⟨⟨a, b₁⟩, hrun₁, hrun₂⟩ := bind_eq_ok hrun
  obtain ⟨b₁', hrun₁', h₁⟩ := hm b b' h a b₁ hrun₁
  obtain ⟨b₂', hrun₂', h₂⟩ := hk a b₁ b₁' h₁ x b₂ hrun₂
  exact ⟨b₂', (Builder.run_bind_of_ok hrun₁').trans hrun₂', h₂⟩

theorem map {p : α → γ} {p' : β → δ} (hm : σ.Mirrored m f m') (hp : ∀ a, p' (f a) = g (p a)) :
    σ.Mirrored (p <$> m) g (p' <$> m') := by
  intro b b' h x b₂ hrun
  obtain ⟨⟨a, b₁⟩, hrun₁, hrun₂⟩ := bind_eq_ok hrun
  cases hrun₂
  obtain ⟨b₁', hrun₁', h₁⟩ := hm b b' h a _ hrun₁
  refine ⟨b₁', ?_, h₁⟩
  rw [← hp a]
  exact Builder.run_bind_of_ok (f := fun y => Pure.pure (p' y)) hrun₁'

theorem map_bind {ε ζ : Type} {p : α → γ} {p' : β → δ} {k : γ → Build ε} {k' : δ → Build ζ}
    {q : ε → ζ} (hm : σ.Mirrored m f m') (hp : ∀ a, p' (f a) = g (p a))
    (hk : ∀ x, σ.Mirrored (k x) q (k' (g x))) : σ.Mirrored (p <$> m >>= k) q (p' <$> m' >>= k') :=
  (hm.map hp).bind hk

theorem discard (hm : σ.Mirrored m f m') :
    σ.Mirrored (discard m) (fun u => u) (discard m') :=
  hm.map fun _ => rfl

theorem get_bind {k : Builder → Build γ} {k' : Builder → Build δ}
    (h : ∀ b b', σ.Mirrors b b' → σ.Mirrored (k b) g (k' b')) :
    σ.Mirrored (get >>= k) g (get >>= k') :=
  fun b b' hb => h b b' hb b b' hb

theorem schema_bind {k : Schema → Build γ} {k' : Schema → Build δ}
    (h : ∀ s s', σ.Schemas s s' → σ.Mirrored (k s) g (k' s')) :
    σ.Mirrored (Build.schema >>= k) g (Build.schema >>= k') :=
  fun b b' hb => h _ _ hb.schemas b b' hb

theorem abort {d : Diagnostic} {m' : Build β} : σ.Mirrored (Build.abort d) f m' :=
  fun _ _ _ _ _ hrun => by cases hrun

theorem internal {x : Fault} {m' : Build β} : σ.Mirrored (Build.internal x) f m' := abort

theorem orAbort_bind {x : Except Diagnostic α} {x' : Except Diagnostic β} {k : α → Build γ}
    {k' : β → Build δ} (hx : ∀ a, x = .ok a → x' = .ok (f a))
    (hk : ∀ a, x = .ok a → σ.Mirrored (k a) g (k' (f a))) :
    σ.Mirrored (Build.orAbort x >>= k) g (Build.orAbort x' >>= k') := by
  cases x with
  | error d => exact fun _ _ _ _ _ hrun => by cases hrun
  | ok a =>
    rw [hx a rfl]
    exact hk a rfl

theorem reading_bind {x : Except TooLong α} {k : α → Build γ} {k' : α → Build δ}
    (hk : ∀ a, x = .ok a → σ.Mirrored (k a) g (k' a)) :
    σ.Mirrored (Build.reading x >>= k) g (Build.reading x >>= k') := by
  cases x with
  | error e => exact fun _ _ _ _ _ hrun => by cases hrun
  | ok a => exact hk a rfl

/-- A change of the state. -/
theorem changes {p : Builder → α × Builder} {p' : Builder → β × Builder}
    (h : ∀ b b', σ.Mirrors b b' → (p' b').1 = f (p b).1 ∧ σ.Mirrors (p b).2 (p' b').2) :
    σ.Mirrored (modifyGet p) f (modifyGet p') := by
  intro b b' hb a b₁ hrun
  have hp : p b = (a, b₁) := Except.ok.inj hrun
  obtain ⟨hresult, hb₁⟩ := h b b' hb
  rw [hp] at hresult hb₁
  exact ⟨(p' b').2, congrArg Except.ok (Prod.ext hresult rfl), hb₁⟩

theorem change {p p' : Builder → Builder}
    (h : ∀ b b', σ.Mirrors b b' → σ.Mirrors (p b) (p' b')) :
    σ.Mirrored (modify p) (fun u => u) (modify p') :=
  changes fun b b' hb => ⟨rfl, h b b' hb⟩

/-! ## Recording -/

theorem note {d : Diagnostic} (hd : d.isError) :
    σ.Mirrored (Build.note d) (fun u => u) (Build.note d) := by
  refine change fun b b' hb => ?_
  rw [hb.ledger]
  refine hb.withLedger ?_
  rw [Ledger.toList_add]
  exact List.forall_mem_append.2 ⟨hb.errors, List.forall_mem_singleton.2 hd⟩

theorem fault (x : Fault) (span : Option Span) :
    σ.Mirrored (Build.note (x.diagnostic span)) (fun u => u) (Build.note (x.diagnostic span)) :=
  note (x.isError_diagnostic span)

theorem require (holds : Bool) (x : Fault) (span : Option Span) :
    σ.Mirrored (Build.require holds x span) (fun u => u) (Build.require holds x span) := by
  cases holds with
  | true => exact pure _ ()
  | false => exact fault x span

/-- Steps for some things are mirrored by steps for what stands in their place. -/
theorem forM {p : α → Build PUnit} {p' : β → Build PUnit}
    (h : ∀ a, σ.Mirrored (p a) (fun u => u) (p' (f a))) (as : List α) :
    σ.Mirrored (as.forM p) (fun u => u) ((as.map f).forM p') := by
  induction as with
  | nil => exact pure _ PUnit.unit
  | cons a as ih => exact (h a).bind fun _ => ih

theorem foldlM {p : γ → α → Build γ} {p' : δ → β → Build δ}
    (h : ∀ x a, σ.Mirrored (p x a) g (p' (g x) (f a))) (as : List α) (x : γ) :
    σ.Mirrored (as.foldlM p x) g ((as.map f).foldlM p' (g x)) := by
  induction as generalizing x with
  | nil => exact pure g x
  | cons a as ih =>
    rw [List.map_cons, List.foldlM_cons, List.foldlM_cons]
    exact (h x a).bind ih

theorem faults (xs : List α) (x : α → Fault) (span : α → Option Span) :
    σ.Mirrored (xs.forM fun a => Build.note ((x a).diagnostic (span a))) (fun u => u)
      (xs.forM fun a => Build.note ((x a).diagnostic (span a))) := by
  have h := forM (f := fun a : α => a) (σ := σ) (fun a => fault (x a) (span a)) xs
  rwa [List.map_id'] at h

theorem notes {ds : List Diagnostic} (hds : ∀ d ∈ ds, d.isError) :
    σ.Mirrored (ds.forM Build.note) (fun u => u) (ds.forM Build.note) := by
  induction ds with
  | nil => exact pure _ PUnit.unit
  | cons d ds ih =>
    obtain ⟨hd, hds⟩ := List.forall_mem_cons.1 hds
    exact (note hd).bind fun _ => ih hds

/-- Record something and go on in one way, or go on in another way. -/
theorem ite_fault_bind {q : Prop} [Decidable q] (x : Fault) (span : Option Span)
    {refused rest : Build γ} {refused' rest' : Build δ} (hrefused : σ.Mirrored refused g refused')
    (hrest : σ.Mirrored rest g rest') :
    σ.Mirrored (if q then Build.note (x.diagnostic span) >>= fun _ => refused else rest) g
      (if q then Build.note (x.diagnostic span) >>= fun _ => refused' else rest') := by
  split
  · exact (fault x span).bind fun _ => hrefused
  · exact hrest

/-- The first step may depend on a condition. -/
theorem ite_bind {q : Prop} [Decidable q] {first first' : Build Unit} {rest : Build γ}
    {rest' : Build δ} (hfirst : σ.Mirrored first (fun u => u) first')
    (hrest : σ.Mirrored rest g rest') :
    σ.Mirrored (if q then first >>= fun _ => rest else rest) g
      (if q then first' >>= fun _ => rest' else rest') := by
  split
  · exact hfirst.bind fun _ => hrest
  · exact hrest

end Mirrored

/-! ## Climbing -/

/-- A climb along links that lead to the same places passes the same places. -/
theorem climb_place {f : α → β} {place : DeclarationId → DeclarationId}
    (hplace : Function.Injective place)
    {known : DeclarationId → Except Diagnostic (Option α)}
    {known' : DeclarationId → Except Diagnostic (Option β)}
    {link : DeclarationId → Except Diagnostic (Link α)}
    {link' : DeclarationId → Except Diagnostic (Link β)}
    {circle circle' : List DeclarationId → DeclarationId → Diagnostic}
    (hknown : ∀ o x, known o = .ok x → known' (place o) = .ok (x.map f))
    (hroot : ∀ o a, link o = .ok (.root a) → link' (place o) = .ok (.root (f a)))
    (hnext : ∀ o up, link o = .ok (.next up) → link' (place o) = .ok (.next (place up)))
    {n n' : Nat} (hn : n ≤ n') {passed chain : List DeclarationId} {o : DeclarationId} {a : α}
    (h : climb known link circle n passed o = .ok (a, chain)) :
    climb known' link' circle' n' (passed.map place) (place o) = .ok (f a, chain.map place) := by
  induction n generalizing n' passed o with
  | zero => cases h
  | succ n ih =>
    obtain ⟨m, rfl⟩ : ∃ m, n' = m + 1 := ⟨n' - 1, by omega⟩
    unfold climb at h ⊢
    split at h
    · cases h
    · rename_i known hk
      cases h
      rw [hknown o _ hk]
      rfl
    · rename_i hk
      rw [hknown o _ hk]
      dsimp only [Option.map_none]
      split at h
      · cases h
      · rename_i hmem
        have hmem' : ¬(passed.map place).contains (place o) := by
          rwa [List.contains_iff_mem, List.mem_map_of_injective hplace, ← List.contains_iff_mem]
        rw [if_neg hmem']
        split at h
        · cases h
        · rename_i root hl
          cases h
          rw [hroot o _ hl]
          rfl
        · rename_i up hl
          rw [hnext o up hl]
          exact ih (Nat.le_of_succ_le_succ hn) h

namespace Mirrored

variable (σ : Shift c c') {limits : Limits} {b b' b₁ : Builder}

/-! ## Types -/

theorem typeDef_renumber (d : Declaration) (t : TypeDecl) (up : TypeId) {base base' : TypeDef}
    (hkind : base'.kind = base.kind) :
    d.typeDef t (σ.type up) base' = σ.numbers.on (d.typeDef t up base) := by
  have hcontent (k : Kind) : σ.numbers.on k.emptyContent = k.emptyContent := by
    unfold Kind.emptyContent
    cases k.isComplex <;> rfl
  rw [d.typeDef_congr t (σ.type up) hkind]
  exact congrArg (fun x => { d.typeDef t (σ.type up) base with content := x })
    (hcontent (t.header base).1).symm

theorem isError_baseDiagnostics (t : TypeDecl) (base : TypeDef) :
    ∀ d ∈ t.baseDiagnostics base, d.isError := by
  unfold TypeDecl.baseDiagnostics
  cases t.base? with
  | none => simp
  | some r =>
    intro d hd
    obtain ⟨x, -, rfl⟩ := List.mem_map.1 hd
    exact x.isError_diagnostic r.span

theorem isError_depthDiagnostics (limits : Limits) (d : Declaration) (t : TypeDecl) (depth : Nat) :
    ∀ x ∈ depthDiagnostics limits d t depth, x.isError := by
  unfold depthDiagnostics
  split
  · simp
  · exact List.forall_mem_singleton.2 (Fault.isError_diagnostic _ _)

/-- A type gets its symbol above one that has been made. -/
theorem createType (h : σ.Mirrors b b') {up t : TypeId} (hup : b.schema.Has up)
    {o : DeclarationId} (hrun : (createType c limits up o).run b = .ok (t, b₁)) :
    ∃ b₁', (Schemata.createType c' limits (σ.type up) (σ.place o)).run b' = .ok (σ.type t, b₁') ∧
      σ.Mirrors b₁ b₁' ∧ b₁.schema.Has t := by
  cases hget : c.getAs? (·.asType?) o with
  | none =>
    unfold Schemata.createType at hrun
    rw [hget] at hrun
    cases hrun
  | some p =>
    obtain ⟨d, decl⟩ := p
    have hrun' : (Schemata.createType c' limits (σ.type up) (σ.place o)).run b' = _ :=
      Builder.run_createType ((σ.embeds.getAs?_eq _).trans hget)
    rw [Builder.run_createType hget] at hrun
    cases hrun
    have hadded := h.addType (o := o) (t := d.typeDef decl up (b.schema.typeDef up)) fun x hx =>
      Option.some.inj hx ▸ hup
    have hbase : decl.baseDiagnostics (b'.schema.typeDef (σ.type up)) =
        decl.baseDiagnostics (b.schema.typeDef up) := by
      rw [TypeDecl.baseDiagnostics, TypeDecl.baseDiagnostics, h.schemas.baseFaults_eq]
    rw [typeDef_renumber σ d decl up (h.schemas.kind_eq up), hbase, h.ledger] at hrun'
    have hid : (b'.addType (σ.place o)
        (σ.numbers.on (d.typeDef decl up (b.schema.typeDef up)))).1 =
          σ.type (b.addType o (d.typeDef decl up (b.schema.typeDef up))).1 := h.type_next.symm
    dsimp only at hrun'
    rw [hid, hadded.schemas.depth_eq] at hrun'
    refine ⟨_, hrun', hadded.withLedger ?_, by simp [Schema.Has, Builder.addType]⟩
    rw [Ledger.toList_extend, Ledger.toList_extend]
    exact List.forall_mem_append.2 ⟨List.forall_mem_append.2
      ⟨h.errors, isError_baseDiagnostics decl _⟩, isError_depthDiagnostics limits d decl _⟩

theorem createTypes (h : σ.Mirrors b b') {chain : List DeclarationId} {root t : TypeId}
    (hroot : b.schema.Has root)
    (hrun : (chain.foldlM (Schemata.createType c limits) root).run b = .ok (t, b₁)) :
    ∃ b₁', ((chain.map σ.place).foldlM (Schemata.createType c' limits) (σ.type root)).run b' =
      .ok (σ.type t, b₁') ∧ σ.Mirrors b₁ b₁' := by
  induction chain generalizing b b' root with
  | nil =>
    cases hrun
    exact ⟨b', rfl, h⟩
  | cons o chain ih =>
    rw [List.foldlM_cons] at hrun
    obtain ⟨⟨x, b₂⟩, hrun₁, hrun₂⟩ := bind_eq_ok hrun
    obtain ⟨b₂', hrun₁', h₂, hx⟩ := createType σ h hroot hrun₁
    obtain ⟨b₁', hrun₂', h₁⟩ := ih h₂ hx hrun₂
    refine ⟨b₁', ?_, h₁⟩
    rw [List.map_cons, List.foldlM_cons]
    exact (Builder.run_bind_of_ok hrun₁').trans hrun₂'

theorem climbType (h : σ.Mirrors b b') {o : DeclarationId} {root : TypeId}
    {chain : List DeclarationId}
    (hclimb : climb (b.symbolAs "type" (·.asType?)) (typeLink c)
      (circleAt c fun d => d.asType?.bind (·.base?)) (c.declarations.size + 1) [] o =
        .ok (root, chain)) :
    climb (b'.symbolAs "type" (·.asType?)) (typeLink c')
      (circleAt c' fun d => d.asType?.bind (·.base?)) (c'.declarations.size + 1) [] (σ.place o) =
        .ok (σ.type root, chain.map σ.place) := by
  refine climb_place σ.place_inj (fun o x hx => ?_) (fun o root hroot => ?_)
    (fun o up hnext => ?_) (Nat.succ_le_succ σ.size) hclimb
  · exact h.symbolAs_eq (fun s => by cases s <;> rfl) hx
  · obtain ⟨k, rfl⟩ := Builder.Ensures.typeLink_root hroot
    rw [σ.builtin]
    exact σ.embeds.typeLink_place hroot
  · exact σ.embeds.typeLink_place hnext

theorem resolveType (o : DeclarationId) :
    σ.Mirrored (resolveType c limits o) σ.type (resolveType c' limits (σ.place o)) := by
  intro b b' h t b₁ hrun
  have hstep (c : Catalog) (o : DeclarationId) (b : Builder) :
      (Schemata.resolveType c limits o).run b = (Build.orAbort (climb
        (b.symbolAs "type" (·.asType?)) (typeLink c) (circleAt c fun d => d.asType?.bind (·.base?))
        (c.declarations.size + 1) [] o) >>= fun p =>
          p.2.foldlM (Schemata.createType c limits) p.1).run b := rfl
  rw [hstep] at hrun ⊢
  obtain ⟨⟨⟨root, chain⟩, b₂⟩, habort, hrun⟩ := bind_eq_ok hrun
  cases hclimb : climb (b.symbolAs "type" (·.asType?)) (typeLink c)
      (circleAt c fun d => d.asType?.bind (·.base?)) (c.declarations.size + 1) [] o with
  | error e =>
    rw [hclimb] at habort
    cases habort
  | ok p =>
    rw [hclimb] at habort
    cases habort
    have hhas : b.schema.Has root := by
      obtain ⟨hc, -⟩ := climb_ok hclimb List.nodup_nil (by simp) (by simp)
      rcases hc.root with ⟨x, hx⟩ | ⟨x, hx⟩
      · exact h.known x root (Builder.Takes.symbol_of_asType (Builder.symbolAs_eq_some_iff.1 hx))
      · obtain ⟨k, rfl⟩ := Builder.Ensures.typeLink_root hx
        exact h.has_builtin k
    rw [climbType σ h hclimb]
    exact createTypes σ h hhas hrun

theorem typeOf (scope : Scope) (r : NameRef) :
    σ.Mirrored (typeOf c limits scope r) σ.type (typeOf c' limits scope r) := by
  unfold Schemata.typeOf
  refine orAbort_bind (fun _ => σ.embeds.resolve) fun referent _ => ?_
  cases referent with
  | builtin k => exact pure_of (σ.builtin k).symm
  | declared o =>
    dsimp only [Referent.place]
    rw [σ.embeds.get?]
    split
    · exact abort
    · split
      · exact resolveType σ o
      · exact abort

theorem simpleTypeOf (scope : Scope) (r : NameRef) :
    σ.Mirrored (simpleTypeOf c limits scope r) σ.type (simpleTypeOf c' limits scope r) := by
  refine (typeOf σ scope r).bind fun t => schema_bind fun s s' hs => ?_
  rw [hs.kind_eq]
  exact (require _ _ _).bind fun _ => pure _ _

/-! ## Elements -/

theorem createElement (head : Option ElementId) (o : DeclarationId) :
    σ.Mirrored (createElement c limits head o) (fun x => x)
      (createElement c' limits head (σ.place o)) := by
  unfold Schemata.createElement
  rw [σ.embeds.getAs?_eq]
  split
  · exact internal
  · rename_i d e hget
    refine (typeOf σ d.scope e.type).bind fun type => ?_
    have helement : d.element e (σ.type type) head = σ.numbers.on (d.element e type head) := by
      cases head <;> rfl
    have hadd : σ.Mirrored (modifyGet (·.addElement o (d.element e type head)) : Build ElementId)
        (fun i => i) (modifyGet (·.addElement (σ.place o) (d.element e (σ.type type) head))) := by
      rw [helement]
      exact changes fun b b' h => h.addElement o _
    refine hadd.bind fun i => schema_bind fun s s' hs => ?_
    have hhead : head.bind s'.element? = (head.bind s.element?).map σ.numbers.on := by
      cases head with
      | none => rfl
      | some up => exact hs.element?_eq up
    rw [hhead]
    cases head.bind s.element? with
    | none => exact pure _ _
    | some up =>
      have hfaults := hs.substitutionFaults_eq (d.element e type head) up
      rw [← helement] at hfaults
      dsimp only [Option.map_some, Declaration.element] at hfaults ⊢
      rw [hfaults]
      exact (faults _ _ _).bind fun _ => pure _ _

theorem climbElement (h : σ.Mirrors b b') {o : DeclarationId} {root : Option ElementId}
    {chain : List DeclarationId}
    (hclimb : climb (b.symbolAs "element" fun s => s.asElement?.map some) (elementLink c)
      (circleAt c fun d => d.asElement?.bind (·.substitutes)) (c.declarations.size + 1) [] o =
        .ok (root, chain)) :
    climb (b'.symbolAs "element" fun s => s.asElement?.map some) (elementLink c')
      (circleAt c' fun d => d.asElement?.bind (·.substitutes)) (c'.declarations.size + 1) []
      (σ.place o) = .ok (root, chain.map σ.place) := by
  refine climb_place (f := fun x => x) σ.place_inj (fun o x hx => ?_) (fun o root hroot => ?_)
    (fun o up hnext => ?_) (Nat.succ_le_succ σ.size) hclimb
  · exact h.symbolAs_eq (fun s => by cases s <;> rfl) hx
  · exact σ.embeds.elementLink_place hroot
  · exact σ.embeds.elementLink_place hnext

theorem resolveElement (o : DeclarationId) :
    σ.Mirrored (resolveElement c limits o) (fun i => i) (resolveElement c' limits (σ.place o)) := by
  unfold Schemata.resolveElement
  refine get_bind fun b b' h => ?_
  dsimp only
  refine orAbort_bind (f := fun p => (p.1, p.2.map σ.place)) (fun p hp => climbElement σ h hp)
    fun p _ => ?_
  refine (foldlM (fun head o => createElement σ head o) p.2 p.1).bind fun e => ?_
  cases e with
  | none => exact internal
  | some e => exact pure _ e

theorem elementOf (scope : Scope) (r : NameRef) :
    σ.Mirrored (elementOf c limits scope r) (fun i => i) (elementOf c' limits scope r) := by
  unfold Schemata.elementOf
  refine orAbort_bind (fun _ => σ.embeds.resolve) fun referent _ => ?_
  cases referent with
  | builtin k => exact abort
  | declared o =>
    dsimp only [Referent.place]
    rw [σ.embeds.get?]
    split
    · exact resolveElement σ o
    · exact abort

end Mirrored

end Shift

end Schemata
