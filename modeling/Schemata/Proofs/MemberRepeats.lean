import Schemata.Proofs.AttributeRepeats

/-!
# Members that are made again

What the second compilation does with the members of child sets: items make the same members at the
same positions, under the same names, and what restricts a member of the base in the first
compilation restricts the same one in the second.
-/

namespace Schemata

section Cons

variable {c : Catalog} {limits : Limits} {scope : Scope} {item : ChildItem}
  {rest : List ChildItem}

/-- An item that deletes no member makes one, which is added. -/
theorem addMembers_cons {members : List Member} (h : ∀ d, item ≠ .delete d) :
    addMembers c limits scope (item :: rest) members = (do
      match ← makeMember c limits scope members.length item with
      | none => addMembers c limits scope rest members
      | some m =>
        if Member.isIn members m.name then
          Build.note ((Fault.duplicateChild m.name).diagnostic item.span)
          addMembers c limits scope rest members
        else addMembers c limits scope rest (members ++ [m])) := by
  cases item with
  | delete d => exact absurd rfl (h d)
  | _ => exact (addMembers.eq_def ..).trans rfl

/-- An item that deletes no member makes one of the member that it restricts. -/
theorem restrictEachMember_cons {kind : SetKind} {base : List Member} {order : Nat}
    {r : RestrictedMembers} (h : ∀ d, item ≠ .delete d) :
    restrictEachMember c limits scope kind base order (item :: rest) r = (do
      let name := item.memberName order
      if r.mentioned.contains name then
        Build.note ((Fault.duplicateChild name).diagnostic item.span)
        restrictEachMember c limits scope kind base (order + 1) rest r
      else
        let mentioned := name :: r.mentioned
        match Member.find? base name with
        | none =>
          Build.note ((Fault.unknownRestrictedChild name).diagnostic item.span)
          restrictEachMember c limits scope kind base (order + 1) rest { r with mentioned }
        | some inherited =>
          match ← restrictOccurs inherited item with
          | none =>
            restrictEachMember c limits scope kind base (order + 1) rest { r with mentioned }
          | some plan =>
            let m ← restrictSingle c limits scope plan.target plan.isOptional item
            restrictEachMember c limits scope kind base (order + 1) rest
              ⟨mentioned, (m.map (plan.wrap inherited item.span)).toList ++ r.found⟩) := by
  have hadd : ∀ (inherited : Member) (plan : RestrictedMember) (mentioned : List String)
      (m : Option Member),
      (match m with
        | none =>
          restrictEachMember c limits scope kind base (order + 1) rest { r with mentioned }
        | some m =>
          restrictEachMember c limits scope kind base (order + 1) rest
            ⟨mentioned, plan.wrap inherited item.span m :: r.found⟩) =
      restrictEachMember c limits scope kind base (order + 1) rest
        ⟨mentioned, (m.map (plan.wrap inherited item.span)).toList ++ r.found⟩ := by
    intro inherited plan mentioned m
    cases m <;> rfl
  cases item with
  | delete d => exact absurd rfl (h d)
  | _ =>
    rw [restrictEachMember]
    · simp only [← hadd]
      rfl
    · exact h

/-- An item restricts a member that is no list by occurring at most once. -/
theorem restrictOccurs_of_ne {base : Member} (h : ∀ l i o, base ≠ .list l i o) :
    restrictOccurs base item = (do
      match ← occursOf item with
      | none => return none
      | some occurs =>
        if !occurs.isSingle then
          Build.note ((Fault.memberBecomesList base.name).diagnostic item.span)
          return none
        else
          let isOptional := occurs.least == 0
          Build.require (!isOptional || base.isOptional) (.memberBecomesOptional base.name) item.span
          return some ⟨base, isOptional, none⟩) := by
  cases base with
  | list l i o => exact absurd rfl (h l i o)
  | _ => rfl

end Cons

namespace Remake

variable {limits : Limits} {R : Remake limits} {b b' b₁' : Builder}

section Sends

variable {m m' : Member} {ms ms' : List Member}

theorem Sends.name_member (h : R.Sends b' m m') : m'.name = m.name := by
  rw [h.eq, Renumbering.name_member]

theorem Sends.isOptional_member (h : R.Sends b' m m') : m'.isOptional = m.isOptional := by
  rw [h.eq, Renumbering.isOptional_member]

theorem Sends.isIn_member (h : R.Sends b' ms ms') (name : String) :
    Member.isIn ms' name = Member.isIn ms name := by
  rw [h.eq, Renumbering.isIn_member]

theorem Sends.length_eq (h : R.Sends b' ms ms') : ms'.length = ms.length := by
  rw [h.eq]
  exact List.length_map _

theorem Sends.isEmpty_eq (h : R.Sends b' ms ms') : ms'.isEmpty = ms.isEmpty := by
  rw [h.eq]
  exact List.isEmpty_map

theorem Sends.find?_member (h : R.Sends b' ms ms') (name : String) :
    R.Sends b' (Member.find? ms name) (Member.find? ms' name) := by
  refine ⟨by rw [h.eq, Renumbering.find?_member], ?_⟩
  cases hfound : Member.find? ms name with
  | none => exact nofun
  | some m => exact (sends_some (h.of_mem (Member.mem_of_find? hfound))).knows

theorem sends_elementOf {label : MemberLabel} {e e' : Element} {occurs : Occurs}
    (h : R.Sends b' e e') :
    R.Sends b' (elementMember label e occurs) (elementMember label e' occurs) := by
  unfold elementMember
  split
  · exact sends_elementMember h
  · exact sends_listMember (sends_elementMember h)

theorem sends_setOf {label : MemberLabel} {kind : SetKind} {span : Option Span} {occurs : Occurs}
    (h : R.Sends b' ms ms') :
    R.Sends b' (setMember label kind ms span occurs) (setMember label kind ms' span occurs) := by
  unfold setMember
  split
  · exact sends_setMember h
  · exact sends_listMember (sends_setMember h)

theorem Sends.ne_list (h : R.Sends b' m m') (hm : ∀ l i o, m ≠ .list l i o) :
    ∀ l i o, m' ≠ .list l i o := by
  rw [h.eq]
  cases m with
  | element label e o => exact nofun
  | set label kind ms span =>
    rw [Renumbering.on_setMember]
    exact nofun
  | list l i o => exact absurd rfl (hm l i o)

theorem sends_wrap {plan : RestrictedMember} {target inherited inherited' : Member}
    {x x' : Option Member} {found found' : List Member} {span : Option Span}
    (hi : R.Sends b' inherited inherited') (hx : R.Sends b' x x') (hf : R.Sends b' found found') :
    R.Sends b' ((x.map (plan.wrap inherited span)).toList ++ found)
      ((x'.map ({ plan with target }.wrap inherited' span)).toList ++ found') := by
  cases x with
  | none =>
    rw [hx.eq]
    exact hf
  | some m =>
    obtain ⟨m', rfl, hm⟩ := exists_of_sends_some hx
    refine sends_cons ?_ hf
    unfold RestrictedMember.wrap
    rw [hi.eq, Renumbering.label_member]
    cases plan.repeated with
    | none => exact hm
    | some occurs => exact sends_listMember hm

theorem Sends.memberDeletionFaults_eq (h : R.Sends b' ms ms') (kind : SetKind) (name : String) :
    memberDeletionFaults kind ms' name = memberDeletionFaults kind ms name := by
  have hfound := h.find?_member name
  unfold memberDeletionFaults
  cases hm : Member.find? ms name with
  | none =>
    rw [hm] at hfound
    rw [hfound.eq]
    rfl
  | some m =>
    rw [hm] at hfound
    obtain ⟨m', hm', hsends⟩ := exists_of_sends_some hfound
    rw [hm']
    dsimp only
    rw [hsends.isOptional_member]

/-- The members that the items leave out are the same ones. -/
theorem Sends.leftOutMembers_eq (h : R.Sends b' ms ms') (kind : SetKind)
    {r r' : RestrictedMembers} (hm : r'.mentioned = r.mentioned)
    (hf : R.Sends b' r.found r'.found) :
    leftOutMembers kind ms' r' = (leftOutMembers kind ms r).map (R.numbering b').on := by
  unfold leftOutMembers
  rw [h.eq, Renumbering.on_list, List.filter_map]
  congr 1
  refine List.filter_congr fun m _ => ?_
  rw [Function.comp_apply, Renumbering.name_member, hf.isIn_member, hm,
    Renumbering.isOptional_member]

/-- The members that are found under the names of other ones. -/
theorem sends_foundMembers {found found' : List Member} (h : R.Sends b' ms ms')
    (hf : R.Sends b' found found') :
    R.Sends b' (ms.filterMap fun m => Member.find? found m.name)
      (ms'.filterMap fun m => Member.find? found' m.name) := by
  refine ⟨?_, fun i hi => ?_⟩
  · rw [h.eq, hf.eq]
    change (ms.map _).filterMap _ = (ms.filterMap _).map _
    rw [List.filterMap_map, List.map_filterMap]
    refine List.filterMap_congr fun m _ => ?_
    rw [Function.comp_apply, Renumbering.name_member, Renumbering.find?_member]
    rfl
  · obtain ⟨m, hm, hi⟩ := List.mem_flatMap.1 hi
    obtain ⟨x, -, hx⟩ := List.mem_filterMap.1 hm
    exact (hf.of_mem (Member.mem_of_find? hx)).knows i hi

theorem sends_atOrder (h : R.Sends b' ms ms') :
    R.Sends b' (ms.mapIdx fun i m => m.atOrder i) (ms'.mapIdx fun i m => m.atOrder i) := by
  refine ⟨?_, fun i hi => ?_⟩
  · rw [h.eq]
    refine List.ext_getElem (by simp [Renumbering.on_list]) fun i _ _ => ?_
    simp [Renumbering.on_list, Renumbering.atOrder_member]
  · obtain ⟨m, hm, hi⟩ := List.mem_flatMap.1 hi
    obtain ⟨j, hj, rfl⟩ := List.mem_mapIdx.1 hm
    change i ∈ (Member.atOrder j ms[j]).ids at hi
    rw [Member.ids_atOrder] at hi
    exact (h.of_mem (List.getElem_mem hj)).knows i hi

end Sends

namespace Yields

theorem occursOf (item : ChildItem) :
    R.Yields b (occursOf item) fun o => ∃ occurs, o = some occurs ∧
      ∀ b', R.Succeeds b' (occursOf item) fun o' _ => o' = some occurs := by
  unfold Schemata.occursOf
  cases item.occurs with
  | none => exact .pure fun _ => ⟨.once, rfl, fun _ => .pure rfl⟩
  | some d =>
    dsimp only
    split
    · exact .pure fun _ => ⟨_, rfl, fun _ => .pure rfl⟩
    · exact .note_pure rfl

theorem innerElement (scope : Scope) (d : ElementDecl) (span : Option Span) :
    R.Yields b (innerElement R.c limits scope d span) fun e =>
      ∀ b', R.Succeeds b' (innerElement R.c' limits scope d span) fun e' b₁' =>
        R.Sends b₁' e e' := by
  unfold Schemata.innerElement
  refine (typeOf scope d.type).bind fun t b₁ _ => .pure fun _ ht b' => ?_
  exact (ht.2 b').bind fun t' b₁' _ _ hs => .pure (sends_element hs sends_none sends_none)

mutual

theorem makeMember {b : Builder} (scope : Scope) (order : Nat) (item : ChildItem) :
    R.Yields b (makeMember R.c limits scope order item) fun m =>
      ∀ b', R.Succeeds b' (makeMember R.c' limits scope order item) fun m' b₁' =>
        R.Sends b₁' m m' := by
  cases item with
  | element d =>
    simp only [Schemata.makeMember]
    refine (occursOf _).bind fun o b₁ _ => ?_
    cases o with
    | none => exact .pure fun _ ⟨_, h, _⟩ => nomatch h
    | some occurs =>
      refine (innerElement scope d _).bind fun e b₂ _ => .pure fun _ he ⟨_, hsome, ho⟩ b' => ?_
      cases hsome
      refine (ho b').bind fun o' b₁' _ _ ho' => ?_
      subst ho'
      exact (he b₁').bind fun e' b₂' _ _ hs => .pure (sends_some (sends_elementOf hs))
  | reference u =>
    simp only [Schemata.makeMember]
    refine (occursOf _).bind fun o b₁ _ => ?_
    cases o with
    | none => exact .pure fun _ ⟨_, h, _⟩ => nomatch h
    | some occurs =>
      refine (elementReference scope u.reference _).bind fun x b₂ _ =>
        .pure fun _ hx ⟨_, hsome, ho⟩ b' => ?_
      cases hsome
      refine (ho b').bind fun o' b₁' _ _ ho' => ?_
      subst ho'
      exact (hx b₁').bind fun x' b₂' _ _ hs => .pure (sends_some (sends_elementOf hs.of_pair.2))
  | set name kind items span bounds =>
    simp only [Schemata.makeMember]
    refine (occursOf _).bind fun o b₁ _ => ?_
    cases o with
    | none => exact .pure fun _ ⟨_, h, _⟩ => nomatch h
    | some occurs =>
      refine (addMembers scope items []).bind fun ms b₂ _ =>
        .pure fun _ hms ⟨_, hsome, ho⟩ b' => ?_
      cases hsome
      refine (ho b').bind fun o' b₁' _ _ ho' => ?_
      subst ho'
      exact (hms b₁' [] sends_nil).bind fun ms' b₂' _ _ hs => .pure (sends_some (sends_setOf hs))
  | delete d =>
    simp only [Schemata.makeMember]
    exact .pure fun _ _ => .pure sends_none

theorem addMembers {b : Builder} (scope : Scope) (items : List ChildItem) (members : List Member) :
    R.Yields b (addMembers R.c limits scope items members) fun ms =>
      ∀ b' members', R.Sends b' members members' →
        R.Succeeds b' (addMembers R.c' limits scope items members') fun ms' b₁' =>
          R.Sends b₁' ms ms' := by
  cases items with
  | nil =>
    simp only [Schemata.addMembers]
    exact .pure fun _ _ _ hms => .pure hms
  | cons item rest =>
    by_cases hitem : ∃ d, item = .delete d
    · obtain ⟨d, rfl⟩ := hitem
      simp only [Schemata.addMembers]
      exact .note_bind rfl fun b₁ _ => addMembers scope rest members
    · have hitem : ∀ d, item ≠ .delete d := fun d hd => hitem ⟨d, hd⟩
      simp only [addMembers_cons hitem]
      refine (makeMember scope members.length item).bind fun m b₁ _ => ?_
      cases m with
      | none =>
        refine (addMembers scope rest members).mono fun ms hms hmake b' members' hs => ?_
        rw [hs.length_eq]
        refine (hmake b').bind fun m' b₁' hl _ hm => ?_
        obtain rfl : m' = none := hm.eq
        exact hms b₁' members' (hs.mono hl)
      | some m =>
        dsimp only
        split
        · exact .note_bind rfl fun b₂ _ => addMembers scope rest members
        · rename_i hnew
          refine (addMembers scope rest (members ++ [m])).mono
            fun ms hms hmake b' members' hs => ?_
          rw [hs.length_eq]
          refine (hmake b').bind fun m' b₁' hl _ hm => ?_
          obtain ⟨m', rfl, hm'⟩ := exists_of_sends_some hm
          have hs := hs.mono hl
          dsimp only
          rw [hm'.name_member, hs.isIn_member, if_neg hnew]
          exact hms b₁' _ (sends_append hs (sends_cons hm' sends_nil))

end

/-! ## Restriction -/

/-- The bounds of an item are checked against a member of the base in the same way, with the same
plan. -/
theorem restrictOccurs (base : Member) (item : ChildItem) :
    R.Yields b (restrictOccurs base item) fun p => ∃ plan, p = some plan ∧
      ∀ b' base', R.Sends b' base base' →
        R.Succeeds b' (restrictOccurs base' item) fun p' b₁' => ∃ target,
          p' = some { plan with target } ∧ R.Sends b₁' plan.target target := by
  by_cases hbase : ∃ l i o, base = .list l i o
  · obtain ⟨l, target, bounds, rfl⟩ := hbase
    unfold Schemata.restrictOccurs
    refine (occursOf item).bind fun o b₁ _ => ?_
    cases o with
    | none => exact .pure fun _ ⟨_, h, _⟩ => nomatch h
    | some occurs =>
      refine .require_bind fun b₂ _ => .require_bind fun b₃ _ => .pure fun _ hmost hleast ho => ?_
      obtain ⟨_, hsome, ho⟩ := ho
      cases hsome
      refine ⟨_, rfl, fun b' base' hb => ?_⟩
      obtain ⟨target', rfl, ht⟩ := hb.of_listMember
      refine (ho b').bind fun o' b₁' hl _ ho' => ?_
      subst ho'
      exact .require_bind hleast (.require_bind hmost (.pure ⟨_, rfl, ht.mono hl⟩))
  · have hbase : ∀ l i o, base ≠ .list l i o := fun l i o h => hbase ⟨l, i, o, h⟩
    rw [restrictOccurs_of_ne hbase]
    refine (occursOf item).bind fun o b₁ _ => ?_
    cases o with
    | none => exact .pure fun _ ⟨_, h, _⟩ => nomatch h
    | some occurs =>
      dsimp only
      split
      · exact .note_pure rfl
      · rename_i hsingle
        refine .require_bind fun b₂ _ => .pure fun _ hoptional ho => ?_
        obtain ⟨_, hsome, ho⟩ := ho
        cases hsome
        refine ⟨_, rfl, fun b' base' hb => ?_⟩
        rw [restrictOccurs_of_ne (hb.ne_list hbase)]
        refine (ho b').bind fun o' b₁' hl _ ho' => ?_
        subst ho'
        dsimp only
        rw [if_neg hsingle, hb.isOptional_member]
        exact .require_bind hoptional (.pure ⟨_, rfl, hb.mono hl⟩)

theorem shapeDiffers (base : Member) (span : Option Span) {P : Option Member → Prop} :
    R.Yields b (shapeDiffers base span) P := .note_pure rfl

theorem restrictInnerElement (scope : Scope) (base : Element) (d : ElementDecl)
    (span : Option Span) :
    R.Yields b (restrictInnerElement R.c limits scope base d span) fun e =>
      ∀ b' base', R.Sends b' base base' →
        R.Succeeds b' (restrictInnerElement R.c' limits scope base' d span) fun e' b₁' =>
          R.Sends b₁' e e' := by
  unfold Schemata.restrictInnerElement
  refine (typeOf scope d.type).bind fun t b₁ _ => .schema_bind (.of_lasts ?_)
  refine .require_bind fun b₂ _ => .require_bind fun b₃ _ =>
    .pure fun _ hderives hnullable hlast ht b' base' hb => ?_
  refine (ht.2 b').bind fun t' b₁' hl _ ht' => .of_agrees fun hagrees => .schema_bind ?_
  have hb := hb.mono hl
  have hderives := hagrees.derives ht' hb.of_element.1 (hlast.schema.derives hderives)
  refine .require_bind ?_ (.require_bind hderives (.pure ?_))
  · rw [hb.eq, Renumbering.isNullable_element]
    exact hnullable
  · obtain ⟨-, hsubstituted, hreferenced⟩ := hb.of_element
    have heq : { base' with type := t', isNullable := d.isNullable, span } =
        { base with
          type := t', isNullable := d.isNullable, span,
          substituted := base'.substituted, referenced := base'.referenced } := by
      rw [hb.eq]
      rfl
    rw [heq]
    exact sends_element (e := { base with type := t, isNullable := d.isNullable, span }) ht'
      hsubstituted hreferenced

theorem restrictReference (scope : Scope) (base : ElementId) (r : NameRef) (span : Option Span) :
    R.Yields b (restrictReference R.c limits scope base r span) fun e =>
      ∀ b' base', R.Sends b' base base' →
        R.Succeeds b' (restrictReference R.c' limits scope base' r span) fun e' b₁' =>
          R.Sends b₁' e e' := by
  unfold Schemata.restrictReference
  refine (elementReference scope r span).bind fun x b₁ _ => .schema_bind (.of_lasts ?_)
  refine .require_bind fun b₂ _ => .pure fun _ hsubstitutes hlast hx b' base' hb => ?_
  refine (hx b').bind fun x' b₁' hl _ hs => .of_agrees fun hagrees => .schema_bind ?_
  obtain ⟨hi, he⟩ := hs.of_pair
  refine .require_bind (hagrees.substitutes hi (hb.mono hl) ?_) (.pure he)
  exact hlast.schema.substitutes hsubstitutes

theorem finishRestriction (kind : SetKind) (base : List Member) (span : Option Span)
    (r : RestrictedMembers) :
    R.Yields b (finishRestriction kind base span r) fun ms =>
      ∀ b' base' r', R.Sends b' base base' → r'.mentioned = r.mentioned →
        R.Sends b' r.found r'.found →
        R.Succeeds b' (finishRestriction kind base' span r') fun ms' b₁' =>
          R.Sends b₁' ms ms' := by
  unfold Schemata.finishRestriction
  refine .each_bind (fun _ => rfl) fun b₁ _ => ?_
  extract_lets members
  refine .require_bind fun b₂ _ => .pure fun _ hempty hleft b' base' r' hb hm hf => ?_
  refine .each_bind (by rw [hb.leftOutMembers_eq kind hm hf, hleft]; rfl) ?_
  extract_lets members'
  have hmembers : R.Sends b' members members' := sends_foundMembers hb hf
  refine .require_bind ?_ (.pure (sends_atOrder hmembers))
  rw [hmembers.isEmpty_eq, hb.isEmpty_eq]
  exact hempty

mutual

/-- An item has the shape of what it restricts, and makes the same member of it. -/
theorem restrictSingle {b : Builder} (scope : Scope) (base : Member) (isOptional : Bool)
    (item : ChildItem) :
    R.Yields b (restrictSingle R.c limits scope base isOptional item) fun m =>
      ∀ b' base', R.Sends b' base base' →
        R.Succeeds b' (restrictSingle R.c' limits scope base' isOptional item) fun m' b₁' =>
          R.Sends b₁' m m' := by
  unfold Schemata.restrictSingle
  cases item with
  | element d =>
    cases base with
    | element label e o =>
      dsimp only
      split
      · exact shapeDiffers _ _
      · rename_i hreferenced
        refine (restrictInnerElement scope e d _).bind fun x b₁ _ =>
          .pure fun _ hx b' base' hb => ?_
        obtain ⟨e', rfl, he⟩ := hb.of_elementMember
        have hnone : e'.referenced.isSome = e.referenced.isSome := by
          rw [he.eq, Renumbering.referenced_element]
          exact Option.isSome_map
        dsimp only
        rw [hnone, if_neg hreferenced]
        exact (hx b' e' he).bind fun x' b₁' _ _ hs => .pure (sends_some (sends_elementMember hs))
    | set label kind ms span => exact shapeDiffers _ _
    | list label item o => exact shapeDiffers _ _
  | reference u =>
    cases base with
    | element label e o =>
      dsimp only
      cases hreferenced : e.referenced with
      | none => exact shapeDiffers _ _
      | some restricted =>
        refine (restrictReference scope restricted u.reference _).bind fun x b₁ _ =>
          .pure fun _ hx b' base' hb => ?_
        obtain ⟨e', rfl, he⟩ := hb.of_elementMember
        have hsends := he.of_element.2.2
        rw [hreferenced] at hsends
        obtain ⟨restricted', hreferenced', hs⟩ := exists_of_sends_some hsends
        simp only [hreferenced']
        exact (hx b' restricted' hs).bind fun x' b₁' _ _ hs =>
          .pure (sends_some (sends_elementMember hs))
    | set label kind ms span => exact shapeDiffers _ _
    | list label item o => exact shapeDiffers _ _
  | set name kind items span bounds =>
    cases base with
    | element label e o => exact shapeDiffers _ _
    | set label baseKind ms setSpan =>
      dsimp only
      split
      · rename_i hkind
        refine (restrictEachMember scope kind ms 0 items {}).bind fun r b₁ _ => ?_
        refine (finishRestriction kind ms span r).bind fun found b₂ _ =>
          .pure fun _ hfound hr b' base' hb => ?_
        obtain ⟨ms', rfl, hms⟩ := hb.of_setMember
        simp only [if_pos hkind]
        refine (hr b' ms' {} hms rfl sends_nil).bind fun r' b₁' hl _ ⟨hm, hf⟩ => ?_
        exact (hfound b₁' ms' r' (hms.mono hl) hm hf).bind fun found' b₂' _ _ hs =>
          .pure (sends_some (sends_setMember hs))
      · exact shapeDiffers _ _
    | list label item o => exact shapeDiffers _ _
  | delete d => exact shapeDiffers _ _

/-- Items restrict the same members of the base. -/
theorem restrictEachMember {b : Builder} (scope : Scope) (kind : SetKind) (base : List Member)
    (order : Nat) (items : List ChildItem) (r : RestrictedMembers) :
    R.Yields b (restrictEachMember R.c limits scope kind base order items r) fun x =>
      ∀ b' base' r', R.Sends b' base base' → r'.mentioned = r.mentioned →
        R.Sends b' r.found r'.found →
        R.Succeeds b' (restrictEachMember R.c' limits scope kind base' order items r')
          fun x' b₁' => x'.mentioned = x.mentioned ∧ R.Sends b₁' x.found x'.found := by
  cases items with
  | nil =>
    simp only [Schemata.restrictEachMember]
    exact .pure fun _ _ _ _ _ hm hf => .pure ⟨hm, hf⟩
  | cons item rest =>
    by_cases hitem : ∃ d, item = .delete d
    · obtain ⟨d, rfl⟩ := hitem
      simp only [Schemata.restrictEachMember]
      refine .faults_bind fun b₁ _ => (restrictEachMember scope kind base (order + 1) rest _).mono
        fun x hx hfaults b' base' r' hb hm hf => ?_
      refine .faults_bind (by rw [hb.memberDeletionFaults_eq, hfaults]) ?_
      exact hx b' base' _ hb (congrArg (List.cons _) hm) hf
    · have hitem : ∀ d, item ≠ .delete d := fun d hd => hitem ⟨d, hd⟩
      simp only [restrictEachMember_cons hitem]
      split
      · exact .note_bind rfl fun b₁ _ => restrictEachMember scope kind base (order + 1) rest r
      · rename_i hnew
        split
        · exact .note_bind rfl fun b₁ _ => restrictEachMember scope kind base (order + 1) rest _
        · rename_i inherited hfound
          refine (restrictOccurs inherited item).bind fun p b₁ _ => ?_
          cases p with
          | none =>
            exact (restrictEachMember scope kind base (order + 1) rest _).mono
              fun _ _ ⟨_, h, _⟩ => nomatch h
          | some plan =>
            refine (restrictSingle scope plan.target plan.isOptional item).bind fun m b₂ _ => ?_
            refine (restrictEachMember scope kind base (order + 1) rest _).mono
              fun x hx hsingle hplan b' base' r' hb hm hf => ?_
            obtain ⟨_, hsome, hplan⟩ := hplan
            cases hsome
            have hinherited := hb.find?_member (item.memberName order)
            rw [hfound] at hinherited
            obtain ⟨inherited', hfound', hi⟩ := exists_of_sends_some hinherited
            rw [hm, if_neg hnew, hfound']
            dsimp only
            refine (hplan b' inherited' hi).bind fun p' b₁' hl _ ⟨target, hp, ht⟩ => ?_
            subst hp
            refine (hsingle b₁' target ht).bind fun m' b₂' hl' _ hm' => ?_
            have hlast := hl.trans hl'
            exact hx b₂' base' _ (hb.mono hlast) rfl
              (sends_wrap (hi.mono hlast) hm' (hf.mono hlast))

end

end Yields

end Remake

end Schemata
