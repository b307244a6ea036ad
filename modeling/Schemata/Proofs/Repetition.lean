import Schemata.Proofs.Agreement

/-!
# Runs that are repeated

A run of the first compilation tells what a run of the second one will do, in two steps. `Yields`
says what follows from a run that came to an end if the first compilation went on from there to its
own end; so the run has recorded nothing wrong, and whatever it looked at stays as it was.
`Succeeds` says that a run of the second compilation comes to an end as well, agrees with the first
compilation afterwards, and has a given result. What a `Yields` concludes with is a `Succeeds`.
-/

namespace Schemata

namespace Remake

variable {limits : Limits} (R : Remake limits) {b b₁ b' b₁' : Builder} {α β γ : Type}

/-- A run of the second compilation comes to an end, agrees with the first compilation, and has the
given result. -/
def Succeeds (b' : Builder) (m : Build α) (Q : α → Builder → Prop) : Prop :=
  R.Agrees b' → ∃ a b₁', m.run b' = .ok (a, b₁') ∧ b'.Lasts b₁' ∧ b'.Keeps b₁' ∧ R.Agrees b₁' ∧
    Q a b₁'

/-- A run that the first compilation has gone on from has a result with a property. -/
def Yields (b : Builder) (m : Build α) (Q : α → Prop) : Prop :=
  b.Takes R.c limits .all m fun a b₁ => b₁.Lasts R.made → Q a

variable {R}

namespace Succeeds

variable {P : α → Builder → Prop} {Q : β → Builder → Prop}

theorem pure {a : α} (h : P a b') : R.Succeeds b' (pure a) P :=
  fun hb => ⟨a, b', rfl, .refl b', .refl b', hb, h⟩

theorem bind {m : Build α} {f : α → Build β} (hm : R.Succeeds b' m P)
    (hf : ∀ a b₁', b'.Lasts b₁' → b'.Keeps b₁' → P a b₁' → R.Succeeds b₁' (f a) Q) :
    R.Succeeds b' (m >>= f) Q := by
  intro hb
  obtain ⟨a, b₁', hrun, hl, hk, hb₁, hP⟩ := hm hb
  obtain ⟨x, b₂', hrun', hl', hk', hb₂, hQ⟩ := hf a b₁' hl hk hP hb₁
  exact ⟨x, b₂', (Builder.run_bind_of_ok hrun).trans hrun', hl.trans hl', hk.trans hk', hb₂, hQ⟩

theorem mono {m : Build α} {Q : α → Builder → Prop} (hm : R.Succeeds b' m P)
    (h : ∀ a b₁', R.Agrees b₁' → P a b₁' → Q a b₁') : R.Succeeds b' m Q := by
  intro hb
  obtain ⟨a, b₁', hrun, hl, hk, hb₁, hP⟩ := hm hb
  exact ⟨a, b₁', hrun, hl, hk, hb₁, h a b₁' hb₁ hP⟩

/-- The agreement is there to be used. -/
theorem of_agrees {m : Build α} (h : R.Agrees b' → R.Succeeds b' m P) : R.Succeeds b' m P :=
  fun hb => h hb hb

theorem map {m : Build α} {f : α → β} (hm : R.Succeeds b' m fun a b₁' => Q (f a) b₁') :
    R.Succeeds b' (f <$> m) Q :=
  hm.bind fun _ _ _ _ hQ => .pure hQ

theorem schema_bind {f : Schema → Build β} (h : R.Succeeds b' (f b'.schema) Q) :
    R.Succeeds b' (Build.schema >>= f) Q := h

theorem get_bind {f : Builder → Build β} (h : R.Succeeds b' (f b') Q) :
    R.Succeeds b' (get >>= f) Q := h

theorem orAbort_bind {x : Except Diagnostic α} {a : α} {f : α → Build β} (hx : x = .ok a)
    (h : R.Succeeds b' (f a) Q) : R.Succeeds b' (Build.orAbort x >>= f) Q := by
  subst hx
  exact h

theorem reading_bind {x : Except TooLong α} {a : α} {f : α → Build β} (hx : x = .ok a)
    (h : R.Succeeds b' (f a) Q) : R.Succeeds b' (Build.reading x >>= f) Q := by
  subst hx
  exact h

theorem require_bind {holds : Bool} {f : Fault} {span : Option Span} {g : Unit → Build β}
    (hholds : holds) (h : R.Succeeds b' (g ()) Q) :
    R.Succeeds b' (Build.require holds f span >>= g) Q := by
  subst hholds
  exact h

theorem faults_bind {fs : List Fault} {span : Option Span} {g : PUnit → Build β} (hfs : fs = [])
    (h : R.Succeeds b' (g ⟨⟩) Q) :
    R.Succeeds b' (fs.forM (fun f => Build.note (f.diagnostic span)) >>= g) Q := by
  subst hfs
  exact h

theorem each_bind {as : List α} {d : α → Diagnostic} {g : PUnit → Build β} (has : as = [])
    (h : R.Succeeds b' (g ⟨⟩) Q) :
    R.Succeeds b' (as.forM (fun a => Build.note (d a)) >>= g) Q := by
  subst has
  exact h

end Succeeds

namespace Yields

variable {P : α → Prop} {Q : β → Prop}

/-- What a run comes to. -/
theorem apply {m : Build α} (h : R.Yields b m P) (hp : b.Placed) (hb : b.Inv R.c) {a : α}
    (hrun : m.run b = .ok (a, b₁)) (hl : b₁.Lasts R.made) : P a :=
  (Builder.Takes.apply h hp hb hrun).2.2.2 hl

theorem pure {a : α} (h : b.Lasts R.made → P a) : R.Yields b (pure a) P := Builder.Takes.pure h

theorem bind {m : Build α} {f : α → Build β} (hm : R.Yields b m P)
    (hf : ∀ a b₁, b.Lasts b₁ → R.Yields b₁ (f a) fun x => P a → Q x) :
    R.Yields b (m >>= f) Q :=
  Builder.Takes.bind hm fun a b₁ hl hP => Builder.Takes.mono (hf a b₁ hl) fun _ _ hl' hQ hlast =>
    hQ hlast (hP (hl'.trans hlast))

/-- Something is known of the builder that a run ends with. -/
theorem bind_of {T : α → Builder → Prop} {m : Build α} {f : α → Build β}
    (hT : b.Takes R.c limits .all m T) (hm : R.Yields b m P)
    (hf : ∀ a b₁, b.Lasts b₁ → T a b₁ → R.Yields b₁ (f a) fun x => P a → Q x) :
    R.Yields b (m >>= f) Q := by
  have hboth : b.Takes R.c limits .all m fun a b₁ => T a b₁ ∧ (b₁.Lasts R.made → P a) := by
    intro hp
    refine ((hT hp).and fun hb a b₁ hrun => hm.apply hp hb hrun).mono fun _ _ _ _ h => ?_
    exact ⟨h.1.1, h.1.2, h.2⟩
  exact hboth.bind fun a b₁ hl hP => Builder.Takes.mono (hf a b₁ hl hP.1) fun _ _ hl' hQ hlast =>
    hQ hlast (hP.2 (hl'.trans hlast))

theorem mono {m : Build α} {Q : α → Prop} (hm : R.Yields b m P) (h : ∀ a, P a → Q a) :
    R.Yields b m Q :=
  Builder.Takes.mono hm fun a _ _ hP hl => h a (hP hl)

theorem of_takes {T : α → Builder → Prop} {m : Build α} (hm : b.Takes R.c limits .all m T)
    (h : ∀ a b₁, b.Lasts b₁ → T a b₁ → b₁.Lasts R.made → P a) : R.Yields b m P :=
  hm.mono h

theorem of_inv {m : Build α} (h : b.Inv R.c → b.Placed → R.Yields b m P) : R.Yields b m P :=
  Builder.Takes.of_inv h

/-- What there is so far lasts. -/
theorem of_lasts {m : Build α} (h : R.Yields b m fun a => b.Lasts R.made → P a) :
    R.Yields b m P :=
  Builder.Takes.mono h fun _ _ hl hP hlast => hP hlast (hl.trans hlast)

theorem schema_bind {f : Schema → Build β} (h : R.Yields b (f b.schema) Q) :
    R.Yields b (Build.schema >>= f) Q := h

theorem map {m : Build α} {f : α → β} (hm : R.Yields b m fun a => Q (f a)) :
    R.Yields b (f <$> m) Q :=
  bind hm fun _ _ _ => pure fun _ hQ => hQ

theorem reading_bind {x : Except TooLong α} {f : α → Build β}
    (h : ∀ a, x = .ok a → R.Yields b (f a) Q) : R.Yields b (Build.reading x >>= f) Q :=
  Builder.Takes.reading_bind h

/-! ## Nothing wrong is recorded -/

theorem clean_of_lasts (hl : b.Lasts R.made) : b.Clean := hl.clean R.clean

/-- After something wrong was recorded, the first compilation does not go on to its end. -/
theorem note_bind {d : Diagnostic} (hd : d.isError) {P : β → Prop} {f : Unit → Build β}
    (hf : ∀ b₁, b.Lasts b₁ → R.Yields b₁ (f ()) P) : R.Yields b (Build.note d >>= f) Q :=
  (Builder.Takes.note d).bind fun _ b₁ hl hnote => Builder.Takes.mono (hf b₁ hl)
    fun _ _ hl' _ hlast => absurd (clean_of_lasts (hl'.trans hlast)) (hnote.2 hd)

theorem note_pure {d : Diagnostic} (hd : d.isError) {f : Unit → β} :
    R.Yields b (Build.note d >>= fun u => Pure.pure (f u)) Q :=
  note_bind (P := fun _ => True) hd fun _ _ => .pure fun _ => trivial

theorem notes_bind {ds : List Diagnostic} {g : PUnit → Build β}
    (hg : ∀ b₁, b.Lasts b₁ →
      R.Yields b₁ (g ⟨⟩) fun x => ds.any (·.isError) = false → Q x) :
    R.Yields b (ds.forM Build.note >>= g) Q := by
  induction ds generalizing b Q with
  | nil => exact (hg b (.refl b)).mono fun _ hQ => hQ rfl
  | cons d ds ih =>
    change R.Yields b (Build.note d >>= fun _ => ds.forM Build.note >>= g) Q
    refine (Builder.Takes.note d).bind fun _ b₁ hl hnote => ?_
    refine Builder.Takes.mono (ih (Q := fun x => d.isError = false → Q x) fun b₂ hl₂ =>
      (hg b₂ (hl.trans hl₂)).mono fun x hQ hds hd => hQ (by simp [hd, hds]))
      fun x b₂ hl₂ hQ hlast => hQ hlast (Bool.eq_false_iff.2 fun hd => ?_)
    exact hnote.2 hd (clean_of_lasts (hl₂.trans hlast))

theorem require_bind {holds : Bool} {f : Fault} {span : Option Span} {g : Unit → Build β}
    (hg : ∀ b₁, b.Lasts b₁ → R.Yields b₁ (g ()) fun x => holds → Q x) :
    R.Yields b (Build.require holds f span >>= g) Q :=
  (Builder.Takes.require holds f span).bind fun _ b₁ hl hr => Builder.Takes.mono (hg b₁ hl)
    fun _ _ hl' hQ hlast => hQ hlast (hr.2 (clean_of_lasts (hl'.trans hlast)))

theorem faults_bind {fs : List Fault} {span : Option Span} {g : PUnit → Build β}
    (hg : ∀ b₁, b.Lasts b₁ → R.Yields b₁ (g ⟨⟩) fun x => fs = [] → Q x) :
    R.Yields b (fs.forM (fun f => Build.note (f.diagnostic span)) >>= g) Q :=
  (Builder.Takes.noteFaults fs span).bind fun _ b₁ hl hn => Builder.Takes.mono (hg b₁ hl)
    fun _ _ hl' hQ hlast => hQ hlast (hn.2 (clean_of_lasts (hl'.trans hlast)))

theorem each_bind {as : List α} {d : α → Diagnostic} (hd : ∀ a, (d a).isError)
    {g : PUnit → Build β} (hg : ∀ b₁, b.Lasts b₁ → R.Yields b₁ (g ⟨⟩) fun x => as = [] → Q x) :
    R.Yields b (as.forM (fun a => Build.note (d a)) >>= g) Q :=
  (Builder.Takes.noteEach d hd as).bind fun _ b₁ hl hn => Builder.Takes.mono (hg b₁ hl)
    fun _ _ hl' hQ hlast => hQ hlast (hn.2 (clean_of_lasts (hl'.trans hlast)))

end Yields

end Remake

end Schemata
