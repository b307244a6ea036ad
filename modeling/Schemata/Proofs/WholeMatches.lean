import Schemata.Proofs.Closings
import Schemata.Proofs.Facets
import Schemata.Proofs.Spans

/-!
# Whole matches

A declared pattern is tried with anchors around it, which are put there as text. This goes well for
a text that closes its own groups and does not end in a comment: it is valid exactly if it can be
read by itself and is not too large, and it matches a value from the first character to the last
(`matched_as_a_whole`). A text that ends the group around it is read together with the anchors, and
a comment at its end hides the closing (`unbalanced_pattern_valid`).

A body is read step by step (`readStep`). Two readers that agree on what is left of a body agree on
the body (`Agree.readStep`), so by induction on its length the closing changes nothing before the
end of a declared text (`Follows.readBody`). Where the text cannot be read without the closing, the
closing can still end a group or an escape that is open; but then nothing is left that would close
the group of the anchors.
-/

namespace Schemata.Pattern

variable {u v : List Char} {flags : Flags}

/-! ## Counts -/

theorem Follows.readLazy (h : Follows u v) (flags : Flags) (least : Nat) (most : Option Nat) :
    ∃ r u' v', readLazy flags least most u = (r, u') ∧ readLazy flags least most v = (r, v') ∧
      u'.length ≤ u.length ∧ Follows u' v' := by
  cases h with
  | nil => exact ⟨_, _, _, rfl, rfl, Nat.le_refl _, .nil⟩
  | closing => exact ⟨_, _, _, rfl, rfl, Nat.le_refl _, .closing⟩
  | @cons u v c h =>
    by_cases hc : c = '?'
    · subst hc
      exact ⟨_, _, _, rfl, rfl, Nat.le_succ _, h⟩
    · simp only [Pattern.readLazy, hc, List.cons.injEq, false_and, imp_self, implies_true]
      exact ⟨_, _, _, rfl, rfl, Nat.le_refl _, h.cons c⟩

theorem Follows.takeDigits {m n : Nat} (h : Follows u v) (flags : Flags) (hn : u.length < n) (hm : u.length < m) :
    ∃ ds u' v', takeDigits flags n u = (ds, u') ∧ takeDigits flags m v = (ds, v') ∧
      u'.length ≤ u.length ∧ Follows u' v' := by
  induction n generalizing m u v with
  | zero => omega
  | succ n ih =>
    obtain ⟨m, rfl⟩ : ∃ m', m = m' + 1 := ⟨m - 1, by omega⟩
    cases h with
    | nil => exact ⟨_, _, _, rfl, rfl, Nat.le_refl _, .nil⟩
    | closing => exact ⟨_, _, _, rfl, rfl, Nat.le_refl _, .closing⟩
    | @cons u v c h =>
      have hlen := skip_length flags u
      simp only [List.length_cons] at hn hm ⊢
      unfold Pattern.takeDigits
      dsimp only
      split
      · obtain ⟨ds, u', v', hu, hv, hlen', h'⟩ :=
          ih (m := m) (h.skip flags) (by omega) (by omega)
        rw [hu, hv]
        exact ⟨_, _, _, rfl, rfl, Nat.le_succ_of_le (Nat.le_trans hlen' hlen), h'⟩
      · exact ⟨_, _, _, rfl, rfl, Nat.le_refl _, h.cons c⟩

theorem Follows.readCount {Late : Nat → List Char → Prop} (h : Follows u v) :
    Outcome u.length Late (readCount flags u) (readCount flags v) := by
  have hblank : Text.isBlank ')' → Text.isBlank '$' := by decide
  have hdrop (cs : List Char) := (List.dropWhile_suffix (l := cs) Text.isBlank).length_le
  obtain ⟨ds, u', v', hu, hv, hlen, h'⟩ :=
    (h.dropWhile hblank).takeDigits flags
      (Nat.lt_succ_of_le (hdrop u)) (Nat.lt_succ_of_le (Nat.le_trans (hdrop u) h.length_le))
  simp only [Pattern.readCount, hu, hv]
  refine .given fun n => ?_
  split
  · refine .both ?_ ((h'.dropWhile hblank).skip flags)
    exact Nat.le_trans (skip_length _ _) (Nat.le_trans (hdrop u') (Nat.le_trans hlen (hdrop u)))
  · exact .neither

theorem readCount_closing : readCount flags closing = none := by
  simp [readCount, closing, isBlank_paren, takeDigits, Text.natural?]

/-- The end of a repetition with counts. -/
theorem Follows.closeCounts {Late : Repetition → List Char → Prop} {least : Nat}
    {most : Option Nat} :
    Follows u v → Outcome u.length Late
      (match u with
      | '\x7d' :: rest =>
        if most.all (least ≤ ·) then
          some (Pattern.readLazy flags least most (Pattern.skip flags rest))
        else none
      | _ => none)
      (match v with
      | '\x7d' :: rest =>
        if most.all (least ≤ ·) then
          some (Pattern.readLazy flags least most (Pattern.skip flags rest))
        else none
      | _ => none) := by
  intro h
  cases h with
  | nil | closing => exact .neither
  | @cons u v c h =>
    by_cases hc : c = '\x7d'
    · subst hc
      simp only []
      split
      · obtain ⟨r, u', v', hu, hv, hlen, h'⟩ :=
          (h.skip flags).readLazy flags least most
        rw [hu, hv]
        exact .both (Nat.le_succ_of_le (Nat.le_trans hlen (skip_length flags u))) h'
      · exact .neither
    · simp only [hc, List.cons.injEq, false_and, imp_self, implies_true]
      exact .neither

theorem Follows.readCounts {Late : Repetition → List Char → Prop} (h : Follows u v) :
    Outcome u.length Late (readCounts flags u) (readCounts flags v) := by
  unfold Pattern.readCounts
  refine Outcome.next (h.skip flags).readCount ?_
  intro least u₁ v₁ hlen₁ h₁
  replace hlen₁ := Nat.le_trans hlen₁ (skip_length flags u)
  dsimp only
  cases h₁ with
  | nil | closing => exact .neither
  | @cons u₁ v₁ c h₁ =>
    simp only [List.length_cons] at hlen₁
    by_cases hc : c = ','
    · subst hc
      simp only []
      have hlen₂ := skip_length flags u₁
      have h₂ := h₁.skip flags
      generalize Pattern.skip flags u₁ = u₂ at h₂ hlen₂
      generalize Pattern.skip flags v₁ = v₂ at h₂
      cases h₂ with
      | nil => exact .neither
      | closing => exact .neither
      | @cons u₂ v₂ d h₂ =>
        simp only [List.length_cons] at hlen₂
        by_cases hd : d = '\x7d'
        · subst hd
          have hlen : ('\x7d' :: u₂).length ≤ u.length := by
            simp only [List.length_cons]
            omega
          simp only [Option.bind_eq_bind, Option.bind_some]
          exact (h₂.cons _).closeCounts.mono hlen fun _ _ h => h
        · simp only [hd, List.cons.injEq, false_and, imp_self, implies_true]
          refine Outcome.next (h₂.cons d).readCount ?_
          intro most u₃ v₃ hlen₃ h₃
          simp only [List.length_cons] at hlen₃
          exact h₃.closeCounts.mono (by omega) fun _ _ h => h
    · simp only [hc, List.cons.injEq, false_and, imp_self, implies_true]
      exact (h₁.cons c).closeCounts.mono hlen₁ fun _ _ h => h

/-! ## Groups -/

theorem Follows.readFlags {m n : Nat} {negated : Bool} {seen : List Char}
    {done : List (Char × Bool)} (h : Follows u v) (hn : u.length < n) (hm : u.length < m) :
    Outcome u.length (fun _ v => v = Pattern.closing)
      (readFlags n negated seen u done) (readFlags m negated seen v done) := by
  induction n generalizing m negated seen done u v with
  | zero => omega
  | succ n ih =>
    obtain ⟨m, rfl⟩ : ∃ m', m = m' + 1 := ⟨m - 1, by omega⟩
    cases h with
    | nil => exact .neither
    | closing =>
      simp only [Pattern.readFlags, Pattern.closing]
      split
      · split
        · exact .neither
        · exact .late rfl
      · contradiction
    | @cons u v c h =>
      simp only [List.length_cons] at hn hm ⊢
      unfold Pattern.readFlags
      dsimp only
      have hgo {negated : Bool} {seen : List Char} {done' : List (Char × Bool)} :
          Outcome (u.length + 1) (fun _ v => v = Pattern.closing)
            (Pattern.readFlags n negated seen u done') (Pattern.readFlags m negated seen v done') :=
        (ih h (by omega) (by omega)).mono (Nat.le_succ _) fun _ _ h => h
      split
      · split
        · exact .neither
        · exact .both (Nat.le_refl _) (h.cons c)
      · split
        · exact .neither
        · split
          · exact hgo
          · split
            · exact hgo
            · exact .neither

theorem Follows.readGroupName {Late : List Char → List Char → Prop} (h : Follows u v) :
    Outcome u.length Late (readGroupName u) (readGroupName v) := by
  have hlen := (List.dropWhile_suffix (l := u) (· != '>')).length_le
  unfold Pattern.readGroupName
  rcases h.takeWhile (p := (· != '>')) (by decide) (by decide) with
    ⟨htake, c, u', v', hu, hv, h⟩ | ⟨hu, hv⟩
  · rw [hu, List.length_cons] at hlen
    rw [htake, hu, hv]
    cases v.takeWhile _ with
    | nil => exact .neither
    | cons first rest =>
      dsimp only
      split
      · exact .both (Nat.le_of_succ_le hlen) h
      · exact .neither
  · rw [hu, hv]
    cases u.takeWhile _ <;> cases v.takeWhile _ <;> exact .neither

theorem Follows.readFlagGroup : Follows u v → Outcome u.length (fun _ v => v <:+ ['$'])
    (do
      let (changes, rest) ← Pattern.readFlags (u.length + 1) false [] u []
      let changed := changes.foldl Flags.set flags
      match rest with
      | ')' :: rest => if changes.isEmpty then none else some (GroupStart.flags changed, rest)
      | ':' :: rest => some (.plain changed, rest)
      | _ => none)
    (do
      let (changes, rest) ← Pattern.readFlags (v.length + 1) false [] v []
      let changed := changes.foldl Flags.set flags
      match rest with
      | ')' :: rest => if changes.isEmpty then none else some (GroupStart.flags changed, rest)
      | ':' :: rest => some (.plain changed, rest)
      | _ => none) := by
  intro h
  refine (h.readFlags (Nat.lt_succ_self _) (Nat.lt_succ_of_le h.length_le)).bind ?_ ?_
  · intro changes u' v' hlen h'
    dsimp only
    cases h' with
    | nil => exact .neither
    | closing =>
      simp only [Pattern.closing]
      split
      · exact .neither
      · exact .late (List.suffix_refl _)
    | @cons u' v' c h' =>
      have hlen' : u'.length ≤ u.length := Nat.le_of_succ_le hlen
      by_cases hparen : c = ')'
      · subst hparen
        simp only []
        split
        · exact .neither
        · exact .both hlen' h'
      by_cases hcolon : c = ':'
      · subst hcolon
        exact .both hlen' h'
      simp only [hparen, hcolon, List.cons.injEq, false_and, imp_self, implies_true]
      exact .neither
  · rintro changes v' rfl start w hw
    simp only [Pattern.closing] at hw
    obtain ⟨-, hw⟩ := Option.ite_none_left_eq_some.1 hw
    cases hw
    exact List.suffix_refl _

theorem Follows.readGroupStart (h : Follows u v) (flags : Flags) :
    Outcome u.length (fun _ v => v <:+ ['$']) (readGroupStart flags u)
      (readGroupStart flags v) := by
  have hname {u' v' : List Char} (h : Follows u' v') (hlen : u'.length ≤ u.length) :
      Outcome u.length (fun _ v => v <:+ ['$'])
        ((Pattern.readGroupName u').bind fun read =>
          some (GroupStart.remembered (some read.1), read.2))
        ((Pattern.readGroupName v').bind fun read =>
          some (GroupStart.remembered (some read.1), read.2)) := by
    refine h.readGroupName.next ?_
    intro name u v hu h
    exact .both (Nat.le_trans hu hlen) h
  have hlen := skip_length flags u
  have h := h.skip flags
  unfold Pattern.readGroupStart
  generalize Pattern.skip flags u = u' at h hlen
  generalize Pattern.skip flags v = v' at h
  cases h with
  | nil => exact .both hlen .nil
  | closing => exact .both hlen .closing
  | @cons u' v' c h =>
    simp only [List.length_cons] at hlen
    by_cases hc : c = '?'
    · subst hc
      by_cases hangle : ∃ rest, u' = '<' :: rest
      · obtain ⟨rest, rfl⟩ := hangle
        cases h with | cons _ h
        simp only [List.length_cons] at hlen
        exact hname h (by omega)
      by_cases hangle' : ∃ rest, u' = 'P' :: '<' :: rest
      · obtain ⟨rest, rfl⟩ := hangle'
        cases h with | cons _ h
        cases h with | cons _ h
        simp only [List.length_cons] at hlen
        exact hname h (by omega)
      · have hangle₁ : ∀ rest, v' = '<' :: rest → False := fun rest hv =>
          hangle (h.of_append (w := ['<']) (by decide) hv)
        have hangle₂ : ∀ rest, v' = 'P' :: '<' :: rest → False := fun rest hv =>
          hangle' (h.of_append (w := ['P', '<']) (by decide) hv)
        rw [not_exists] at hangle hangle'
        simp only []
        exact h.readFlagGroup.mono (Nat.le_of_succ_le hlen) fun _ _ h => h
    · simp only [hc, List.cons.injEq, false_and, imp_self, implies_true]
      exact .both hlen (h.cons c)

/-! ## Bodies -/

theorem Follows.readPrimitive (h : Follows u v) (flags : Flags) (c : Char) :
    Outcome u.length (LateEscape flags) (readPrimitive flags (c :: u))
      (readPrimitive flags (c :: v)) := by
  by_cases hc : c = '\\'
  · subst hc
    exact h.readEscape
  have hboth (p : Primitive) :
      Outcome u.length (LateEscape flags) (some (p, u)) (some (p, v)) :=
    .both (Nat.le_refl _) h
  unfold Pattern.readPrimitive
  split
  case h_1 hu => cases hu; exact absurd rfl hc
  case h_2 hu | h_3 hu | h_4 hu => cases hu; exact hboth _
  case h_5 hu =>
    cases hu
    simp only []
    exact hboth _
  case h_6 hu => cases hu

/-- What stands behind a group that the closing has ended is read to its end. -/
theorem readBody_dollar {n : Nat} {r r' : Reading} {alternatives parts : List Part} {part : Part}
    {w : List Char} (hv : v <:+ ['$'])
    (h : readBody n r alternatives parts v = some (part, r', w)) : w = [] := by
  have hnil {n : Nat} {parts : List Part}
      (h : readBody n r alternatives parts [] = some (part, r', w)) : w = [] := by
    cases n with
    | zero => cases h
    | succ n =>
      simp only [readBody, skip_nil] at h
      cases h
      rfl
  rcases suffix_dollar_iff.1 hv with rfl | rfl
  · exact hnil h
  · cases n with
    | zero => cases h
    | succ n =>
      simp only [readBody, skip_dollar, readPrimitive, Part.ofPrimitive?] at h
      exact hnil h

/-- The closing ends no repetition. -/
theorem readBody_brace {n : Nat} {r : Reading} {alternatives parts : List Part} {inner : List Char}
    (hinner : skip r.flags inner = closing) :
    readBody n r alternatives parts ('\x7b' :: inner) = none := by
  have hcounts : readCounts r.flags inner = none := by
    rw [readCounts, hinner, readCount_closing]
    rfl
  have hskip : skip r.flags ('\x7b' :: inner) = '\x7b' :: inner := by
    have : Text.isBlank '\x7b' = false := by decide
    simp [skip, dropSpace, this]
  cases n with
  | zero => rfl
  | succ n => simp [readBody, hskip, hcounts]

/-- A reader of what is left of a body. -/
abbrev BodyReader : Type :=
  Reading → List Part → List Part → List Char → Option (Part × Reading × List Char)

section Steps

variable (go : BodyReader) (r : Reading) (alternatives parts : List Part)

/-- Repeat the last part, and go on. -/
def repeatLast (read : Repetition × List Char) : Option (Part × Reading × List Char) :=
  (lastRepeatable parts).bind fun (part, before) =>
    go r alternatives (part.repeated read.1 :: before) read.2

/-- Read the contents of a group up to its end, and go on behind it. -/
def readGroup (start : GroupStart) (rest : List Char) : Option (Part × Reading × List Char) :=
  (r.enter? start).bind fun (inside, wrap) =>
    match go inside [] [] rest with
    | some (inner, after, ')' :: rest) =>
      go { after with flags := r.flags } alternatives
        ({ pattern := inner.pattern, shape := wrap inner.shape, depth := inner.depth + 1 } :: parts)
        rest
    | _ => none

/-- Go on where a parenthesis has changed the flags or opened a group. -/
def startGroup (read : GroupStart × List Char) : Option (Part × Reading × List Char) :=
  match read.1 with
  | .flags flags =>
    go { r with flags } alternatives
      ({ pattern := .empty, shape := .empty, isRepeatable := false } :: parts) read.2
  | start => readGroup go r alternatives parts start read.2

/-- Take a primitive as a part, and go on. -/
def takePrimitive (read : Primitive × List Char) : Option (Part × Reading × List Char) :=
  (Part.ofPrimitive? r.flags read.1).bind fun part => go r alternatives (part :: parts) read.2

/-- One step of reading a body. -/
def readStep (cs : List Char) : Option (Part × Reading × List Char) :=
  match cs with
  | [] => some (eitherParts (concatParts parts :: alternatives), r, [])
  | ')' :: rest => some (eitherParts (concatParts parts :: alternatives), r, ')' :: rest)
  | '|' :: rest => go r (concatParts parts :: alternatives) [] rest
  | '*' :: rest => repeatLast go r alternatives parts (readLazy r.flags 0 none rest)
  | '+' :: rest => repeatLast go r alternatives parts (readLazy r.flags 1 none rest)
  | '?' :: rest => repeatLast go r alternatives parts (readLazy r.flags 0 (some 1) rest)
  | '\x7b' :: rest => (readCounts r.flags rest).bind (repeatLast go r alternatives parts)
  | '[' :: rest =>
    (readClass r.flags rest).bind fun (part, rest) => go r alternatives (part :: parts) rest
  | '(' :: rest => (readGroupStart r.flags rest).bind (startGroup go r alternatives parts)
  | cs => (readPrimitive r.flags cs).bind (takePrimitive go r alternatives parts)

end Steps

theorem readBody_succ {n : Nat} {r : Reading} {alternatives parts : List Part} {cs : List Char} :
    readBody (n + 1) r alternatives parts cs =
      readStep (readBody n) r alternatives parts (skip r.flags cs) := by
  unfold readBody
  dsimp only
  generalize skip r.flags cs = cs
  split
  case h_1 | h_2 | h_3 => rfl
  case h_4 | h_5 | h_6 =>
    simp only [readStep, repeatLast]
    cases lastRepeatable parts <;> rfl
  case h_7 rest =>
    simp only [readStep]
    cases readCounts r.flags rest with
    | none => rfl
    | some read =>
      simp only [Option.bind_some, repeatLast]
      cases lastRepeatable parts <;> rfl
  case h_8 rest =>
    simp only [readStep]
    cases readClass r.flags rest <;> rfl
  case h_9 rest =>
    simp only [readStep]
    obtain _ | ⟨name | flags | flags, rest⟩ := readGroupStart r.flags rest
    · rfl
    · simp only [Option.bind_some, startGroup, readGroup]
      cases r.enter? (.remembered name) <;> rfl
    · simp only [Option.bind_some, startGroup, readGroup]
      cases r.enter? (.plain flags) <;> rfl
    · rfl
  case h_10 =>
    simp only [readStep]
    generalize readPrimitive r.flags _ = read
    obtain _ | ⟨p, rest⟩ := read
    · rfl
    · simp only [Option.bind_some, takePrimitive]
      cases Part.ofPrimitive? r.flags p <;> rfl

/-- Two readers of bodies, the second of texts with the closing behind them, that agree on what is
left of a body if it has at most `k` characters. -/
structure Agree (k : Nat) (go go' : BodyReader) : Prop where
  both : ∀ {r : Reading} {alternatives parts : List Part} {u v : List Char}, u.length ≤ k →
    Follows u v → BodyOutcome k (· = []) (go r alternatives parts u) (go' r alternatives parts v)
  late : ∀ {r r' : Reading} {alternatives parts : List Part} {part : Part} {v w : List Char},
    v <:+ ['$'] → go' r alternatives parts v = some (part, r', w) → w = []
  brace : ∀ {r : Reading} {alternatives parts : List Part} {inner : List Char},
    skip r.flags inner = closing → go' r alternatives parts ('\x7b' :: inner) = none

namespace Agree

variable {k : Nat} {go go' : BodyReader} {r : Reading} {alternatives parts : List Part}

theorem repeatLast (h : Agree k go go') {rep : Repetition} (hu : u.length ≤ k)
    (huv : Follows u v) : BodyOutcome k (· = []) (repeatLast go r alternatives parts (rep, u))
      (repeatLast go' r alternatives parts (rep, v)) :=
  .given fun _ => h.both hu huv

theorem readLazy (h : Agree u.length go go') {least : Nat} {most : Option Nat}
    (huv : Follows u v) : BodyOutcome u.length (· = [])
      (Pattern.repeatLast go r alternatives parts (readLazy r.flags least most u))
      (Pattern.repeatLast go' r alternatives parts (readLazy r.flags least most v)) := by
  obtain ⟨rep, u', v', hu, hv, hlen, h'⟩ :=
    huv.readLazy r.flags least most
  rw [hu, hv]
  exact h.repeatLast hlen h'

theorem readGroup (h : Agree k go go') {start : GroupStart} (hu : u.length ≤ k)
    (huv : Follows u v) : BodyOutcome k (· = []) (readGroup go r alternatives parts start u)
      (readGroup go' r alternatives parts start v) := by
  refine .given fun (inside, wrap) => ?_
  have hinner : BodyOutcome k (· = []) (go inside [] [] u) (go' inside [] [] v) := h.both hu huv
  dsimp only
  generalize go inside [] [] u = x at hinner ⊢
  generalize go' inside [] [] v = y at hinner ⊢
  cases hinner with
  | both hlen huv =>
    cases huv with
    | nil => exact .neither
    | closing => exact .fails fun _ _ _ => h.late (List.suffix_refl _)
    | @cons u v d huv =>
      by_cases hd : d = ')'
      · subst hd
        exact h.both (Nat.le_of_succ_le hlen) huv
      · simp only [Option.some.injEq, Prod.mk.injEq, List.cons.injEq, hd, and_false, false_and,
          imp_self, implies_true]
        exact .neither
  | fails hlate =>
    obtain _ | ⟨inner, after, w⟩ := y
    · exact .neither
    obtain rfl := hlate _ _ _ rfl
    exact .neither

/-- A group that opens where nothing is left is not closed. -/
theorem readGroup_late (h : Agree k go go') {start : GroupStart} (hv : v <:+ ['$']) :
    Pattern.readGroup go' r alternatives parts start v = none := by
  unfold Pattern.readGroup
  refine Option.bind_eq_none_iff.2 fun inside _ => ?_
  dsimp only
  split
  · rename_i hinner
    cases h.late hv hinner
  · rfl

theorem startGroup (h : Agree k go go') {start : GroupStart} (hu : u.length ≤ k)
    (huv : Follows u v) : BodyOutcome k (· = []) (startGroup go r alternatives parts (start, u))
      (startGroup go' r alternatives parts (start, v)) := by
  cases start with
  | flags flags => exact h.both hu huv
  | remembered name => exact h.readGroup hu huv
  | plain flags => exact h.readGroup hu huv

theorem startGroup_late (h : Agree k go go') {start : GroupStart} {part : Part} {r' : Reading}
    {w : List Char} (hv : v <:+ ['$'])
    (hw : Pattern.startGroup go' r alternatives parts (start, v) = some (part, r', w)) :
    w = [] := by
  cases start with
  | flags flags => exact h.late hv hw
  | remembered name => cases (h.readGroup_late hv).symm.trans hw
  | plain flags => cases (h.readGroup_late hv).symm.trans hw

theorem takePrimitive_late (h : Agree k go go') {p : Primitive} {part : Part} {r' : Reading}
    {w : List Char} (hv : LateEscape r.flags p v)
    (hw : takePrimitive go' r alternatives parts (p, v) = some (part, r', w)) : w = [] := by
  obtain ⟨taken, htaken, hw⟩ := Option.bind_eq_some_iff.1 hw
  rcases hv with hv | ⟨-, inner, rfl, hinner⟩
  · exact h.late hv hw
  · cases (h.brace hinner).symm.trans hw

/-- One step goes on alike, or the closing ends it. -/
theorem readStep (h : Agree u.length go go') (huv : Follows u v) (c : Char) :
    BodyOutcome (u.length + 1) (· = []) (readStep go r alternatives parts (c :: u))
      (readStep go' r alternatives parts (c :: v)) := by
  have hsucc : u.length ≤ u.length + 1 := Nat.le_succ _
  unfold Pattern.readStep
  split
  case h_1 hu => cases hu
  case h_2 hu =>
    cases hu
    exact .both (Nat.le_refl _) (huv.cons _)
  case h_3 hu =>
    cases hu
    exact (h.both (Nat.le_refl _) huv).mono hsucc
  case h_4 hu | h_5 hu | h_6 hu =>
    cases hu
    exact (h.readLazy huv).mono hsucc
  case h_7 hu =>
    cases hu
    have hcounts : Outcome u.length (fun _ _ => False) (readCounts r.flags u)
        (readCounts r.flags v) := huv.readCounts
    exact (hcounts.bindBody (fun _ _ _ => h.repeatLast) fun _ _ h => h.elim).mono hsucc
  case h_8 hu =>
    cases hu
    have hclass : Outcome u.length (fun _ _ => False) (readClass r.flags u)
        (readClass r.flags v) := huv.readClass
    exact (hclass.bindBody (fun _ _ _ => h.both) fun _ _ h => h.elim).mono hsucc
  case h_9 hu =>
    cases hu
    have hstart := huv.readGroupStart r.flags
    exact (hstart.bindBody (fun _ _ _ => h.startGroup) fun _ _ hv _ _ _ =>
      h.startGroup_late hv).mono hsucc
  case h_10 hclose halt hstar hplus hmark hbrace hbracket hparen =>
    have hfirst {d : Char} (hu : ∀ rest, c :: u = d :: rest → False) :
        ∀ rest, c :: v = d :: rest → False := by
      rintro rest ⟨⟩
      exact hu _ rfl
    have hclose' := hfirst hclose
    have halt' := hfirst halt
    have hstar' := hfirst hstar
    have hplus' := hfirst hplus
    have hmark' := hfirst hmark
    have hbrace' := hfirst hbrace
    have hbracket' := hfirst hbracket
    have hparen' := hfirst hparen
    simp only []
    have hprimitive := huv.readPrimitive r.flags c
    exact (hprimitive.bindBody (fun _ _ _ hu huv => .given fun _ => h.both hu huv)
      fun _ _ hv _ _ _ => h.takePrimitive_late hv).mono hsucc

end Agree

/-- Reading a body ends where it ends without the closing, or behind the closing. -/
theorem Follows.readBody {m n : Nat} {r : Reading} {alternatives parts : List Part}
    (h : Follows u v) (hn : u.length < n) (hm : u.length < m) :
    BodyOutcome u.length (· = []) (readBody n r alternatives parts u)
      (readBody m r alternatives parts v) := by
  induction n generalizing m r alternatives parts u v with
  | zero => omega
  | succ n ih =>
    obtain ⟨m, rfl⟩ : ∃ m', m = m' + 1 := ⟨m - 1, by omega⟩
    have hlen := skip_length r.flags u
    have hskip := h.skip r.flags
    rw [readBody_succ, readBody_succ]
    generalize Pattern.skip r.flags u = u' at hskip hlen
    generalize Pattern.skip r.flags v = v' at hskip
    cases hskip with
    | nil => exact .both hlen .nil
    | closing => exact .both hlen .closing
    | @cons u' v' c h =>
      simp only [List.length_cons] at hlen
      have hagree : Agree u'.length (Pattern.readBody n) (Pattern.readBody m) :=
        { both := fun hu h => (ih h (by omega) (by omega)).mono hu
          late := readBody_dollar
          brace := readBody_brace }
      exact (hagree.readStep h c).mono hlen

/-! ## Anchored patterns -/

/-- A part between the anchors, in a group. -/
def Part.anchored (part : Part) : Part :=
  concatParts [.ofAssertion .textEnd,
    { pattern := part.pattern, shape := part.shape, depth := part.depth + 1 },
    .ofAssertion .textStart]

/-- Reading the text by itself stops at no closing parenthesis. -/
def IsClosed (p : String) : Prop :=
  (readBody (2 * p.toList.length + 2) {} [] [] p.toList).all fun (_, _, rest) => rest.isEmpty

/-- The text can be read, and so it can with the closing behind it, which a comment at its end then
hides. -/
def EndsInComment (p : String) : Prop := (readPart? p).isSome ∧ (readPart? (p ++ ")$")).isSome

theorem toList_anchored (p : String) :
    (anchored p).toList = '^' :: '(' :: '?' :: ':' :: (p.toList ++ closing) := by
  simp [anchored, closing]

theorem readBody_anchored {n : Nat} {cs : List Char} :
    readBody (n + 2) {} [] [] ('^' :: '(' :: '?' :: ':' :: cs) =
      match readBody n {} [] [] cs with
      | some (inner, after, ')' :: rest) =>
        readBody n { after with flags := {} } []
          [{ pattern := inner.pattern, shape := inner.shape, depth := inner.depth + 1 },
            .ofAssertion .textStart] rest
      | _ => none := by
  rfl

theorem Follows.eq_of_length_le (h : Follows u v) (hlen : v.length ≤ u.length) : u = v := by
  induction h with
  | nil => rfl
  | closing => exact absurd hlen (by decide)
  | cons c h ih => rw [ih (Nat.le_of_succ_le_succ hlen)]

/-- More steps than the text has characters change nothing. -/
theorem readBody_eq {m n : Nat} {r : Reading} {alternatives parts : List Part} (hn : u.length < n)
    (hm : u.length < m) :
    readBody n r alternatives parts u = readBody m r alternatives parts u := by
  have hsame {m n : Nat} (hn : u.length < n) (hm : u.length < m) :
      BodyOutcome u.length (· = []) (readBody n r alternatives parts u)
        (readBody m r alternatives parts u) := Follows.refl.readBody hn hm
  have hnm := hsame hn hm
  have hmn := hsame hm hn
  generalize readBody n r alternatives parts u = x at hnm hmn ⊢
  generalize readBody m r alternatives parts u = y at hnm hmn ⊢
  cases hnm with
  | both _ h =>
    cases hmn with | both _ h' =>
    rw [h.eq_of_length_le h'.length_le]
  | fails _ =>
    cases hmn
    rfl

theorem follows_closing (cs : List Char) : Follows cs (cs ++ closing) := by
  induction cs with
  | nil => exact .closing
  | cons c cs ih => exact .cons c ih

theorem depth_anchored (part : Part) : part.anchored.depth = part.depth + 2 := by
  simp [Part.anchored, concatParts, joinParts, Part.ofAssertion]

theorem pattern_anchored (part : Part) : part.anchored.pattern =
    concat (.assertion .textStart) (.concat part.pattern (.assertion .textEnd)) := rfl

/-- Behind the closed group stands the assertion of the end. -/
theorem readBody_end {n : Nat} {r : Reading} {parts : List Part} :
    readBody (n + 2) { r with flags := {} } [] parts ['$'] =
      some (concatParts (.ofAssertion .textEnd :: parts), { r with flags := {} }, []) := by
  rfl

theorem readPart?_anchored {p : String} (hclosed : IsClosed p) (hended : ¬EndsInComment p) :
    readPart? (anchored p) = (readPart? p).bind fun part =>
      if part.anchored.depth ≤ nestingLimit then some part.anchored else none := by
  have htail : (p ++ ")$").toList = p.toList ++ closing := by simp [closing]
  have hsteps : 2 * (anchored p).toList.length + 2 = 2 * p.toList.length + 12 + 2 := by
    simp [toList_anchored, closing]
    omega
  have hread : BodyOutcome p.toList.length (· = [])
      (readBody (2 * p.toList.length + 2) {} [] [] p.toList)
      (readBody (2 * p.toList.length + 12) {} [] [] (p.toList ++ closing)) :=
    (follows_closing p.toList).readBody (by omega) (by omega)
  have hsame : readBody (2 * (p.toList ++ closing).length + 2) {} [] [] (p.toList ++ closing) =
      readBody (2 * p.toList.length + 12) {} [] [] (p.toList ++ closing) := by
    refine readBody_eq ?_ ?_ <;> simp [closing] <;> omega
  unfold EndsInComment readPart? at hended
  unfold IsClosed at hclosed
  unfold readPart?
  simp only [htail, hsteps, hsame] at hended ⊢
  rw [toList_anchored, readBody_anchored]
  generalize readBody (2 * p.toList.length + 2) {} [] [] p.toList = x at hread hended hclosed ⊢
  generalize readBody (2 * p.toList.length + 12) {} [] [] (p.toList ++ closing) = y
    at hread hended ⊢
  cases hread with
  | @both part r u v _ h =>
    obtain rfl : u = [] := by simpa using hclosed
    cases h with
    | nil =>
      by_cases hdepth : part.depth ≤ nestingLimit
      · simp [hdepth] at hended
      · simp [hdepth]
    | closing =>
      simp only [closing, readBody_end]
      change (if part.anchored.depth ≤ nestingLimit then some part.anchored else none) = _
      by_cases hdepth : part.depth ≤ nestingLimit
      · simp [hdepth]
      · have : ¬part.anchored.depth ≤ nestingLimit := by
          rw [depth_anchored]
          omega
        simp [hdepth, this]
  | fails hlate =>
    obtain _ | ⟨part, r, w⟩ := y
    · rfl
    · obtain rfl := hlate _ _ _ rfl
      rfl

section WholeTexts

variable {p : String} (hclosed : IsClosed p) (hended : ¬EndsInComment p)

include hclosed hended

theorem compile?_eq : compile? p = (readPart? p).bind fun part =>
    if part.anchored.depth ≤ nestingLimit ∧ part.anchored.shape.fits then
      some part.anchored.pattern
    else none := by
  rw [compile?, readPart?_anchored hclosed hended, Option.bind_assoc]
  congr 1
  funext part
  by_cases hdepth : part.anchored.depth ≤ nestingLimit <;> simp [hdepth]

theorem isValid_iff : isValid p ↔
    ∃ part, readPart? p = some part ∧ part.depth + 2 ≤ nestingLimit ∧ part.anchored.shape.fits := by
  rw [isValid, compile?_eq hclosed hended]
  simp only [← depth_anchored]
  cases readPart? p with
  | none => simp
  | some part => simp [Option.isSome_iff_exists]

theorem accepts_iff {text : String} : accepts p text ↔ isValid p ∧
    ∃ q, read? p = some q ∧ Spans text.toList.toArray q 0 text.toList.length := by
  rw [isValid, accepts, compile?_eq hclosed hended, read?]
  cases readPart? p with
  | none => simp
  | some part =>
    rw [Option.bind_some]
    split
    · simp [pattern_anchored, isFoundIn_anchored_iff]
    · simp

end WholeTexts

end Pattern

namespace FacetSet

/-- The patterns are looked at behind all other facets. -/
theorem violations_eq_append (f : FacetSet) (v : Atomic) :
    f.violations (.atomic v) = { f with patterns := [] }.violations (.atomic v) ++
      violationUnless (f.patterns.isEmpty || f.patterns.any (Pattern.accepts · v.text))
        (.pattern v) := by
  simp only [violations, SimpleValue.asAtomic?, Option.elim_some, atomicViolations,
    List.isEmpty_nil, Bool.true_or, violationUnless, List.append_assoc]
  rfl

end FacetSet

/-- A declared pattern that closes its own groups and does not end in a comment is valid exactly if
it can be read by itself and is not too large with the anchors around it. Where it is the only
pattern, it admits the values whose text it matches from the first character to the last. -/
theorem matched_as_a_whole (p : String) (hclosed : Pattern.IsClosed p)
    (hended : ¬Pattern.EndsInComment p) :
    (Pattern.isValid p ↔ ∃ part, Pattern.readPart? p = some part ∧
      part.depth + 2 ≤ Pattern.nestingLimit ∧ part.anchored.shape.fits) ∧
    ∀ (f : FacetSet) (v : Atomic), f.patterns = [p] →
      (f.Admits (.atomic v) ↔ { f with patterns := [] }.Admits (.atomic v) ∧ Pattern.isValid p ∧
        ∃ q, Pattern.read? p = some q ∧
          Pattern.Spans v.text.toList.toArray q 0 v.text.toList.length) := by
  refine ⟨Pattern.isValid_iff hclosed hended, fun f v hf => ?_⟩
  rw [← Pattern.accepts_iff hclosed hended, FacetSet.Admits, FacetSet.violations_eq_append,
    List.append_eq_nil_iff, FacetSet.violationUnless_eq_nil, hf]
  simp [FacetSet.Admits]

/-- One word or two. -/
def words : FacetSet where
  patterns := ["[a-z]+( [a-z]+)?"]

/-- What is admitted is matched from its start to its end, and so is nothing that goes on. -/
theorem words_matched : Pattern.IsClosed "[a-z]+( [a-z]+)?" ∧
    ¬Pattern.EndsInComment "[a-z]+( [a-z]+)?" ∧
    ∃ q, Pattern.read? "[a-z]+( [a-z]+)?" = some q ∧
      Pattern.Spans "ab cd".toList.toArray q 0 5 ∧
      ¬Pattern.Spans "ab cd ef".toList.toArray q 0 8 := by
  have hclosed : Pattern.IsClosed "[a-z]+( [a-z]+)?" := by
    unfold Pattern.IsClosed
    decide +kernel
  have hended : ¬Pattern.EndsInComment "[a-z]+( [a-z]+)?" := by
    unfold Pattern.EndsInComment
    decide +kernel
  have hadmits : words.Admits (.atomic (.string "ab cd")) := by
    unfold FacetSet.Admits
    decide +kernel
  have hrefuses : ¬words.Admits (.atomic (.string "ab cd ef")) := by
    unfold FacetSet.Admits
    decide +kernel
  have hwhole := (matched_as_a_whole _ hclosed hended).2 words
  obtain ⟨-, hvalid, q, hq, hspans⟩ := (hwhole (.string "ab cd") rfl).1 hadmits
  refine ⟨hclosed, hended, q, hq, hspans, fun h => hrefuses ?_⟩
  exact (hwhole (.string "ab cd ef") rfl).2 ⟨rfl, hvalid, q, hq, h⟩

/-- A declared text that ends the group around it is valid, though it cannot be read by itself, and
admits a value of which it matches only the start. One that ends in a comment is not valid, though
it can be read. -/
theorem unbalanced_pattern_valid :
    (Pattern.isValid "ab)|(?:cd" ∧ Pattern.readPart? "ab)|(?:cd" = none ∧
      ({ patterns := ["ab)|(?:cd"] } : FacetSet).Admits (.atomic (.string "abyz"))) ∧
    ¬Pattern.isValid "(?x)ab # letters" ∧ (Pattern.readPart? "(?x)ab # letters").isSome := by
  refine ⟨⟨by decide +kernel, ?_, ?_⟩, by decide +kernel, by decide +kernel⟩
  · rw [← Option.isNone_iff_eq_none]
    decide +kernel
  · unfold FacetSet.Admits
    decide +kernel

end Schemata
