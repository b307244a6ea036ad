import Schemata.Pattern.Reader

/-!
# Texts with a closing behind them

An anchored pattern is a declared text between fixed ones. The readers of a pattern go on from where
they are and know nothing of the text that has been read, so what the text behind the declared one
can change is what is read at its end.

`Follows` relates the text that is left of a declared one to what is left of it with the closing of
its anchored pattern behind it. A reader either succeeds on both with the same result, or fails on
the declared text; the closing can then still complete what the text has left open, and it is used
up by that (`Outcome`).
-/

namespace Schemata.Pattern

/-- What an anchored pattern puts behind a declared text. -/
def closing : List Char := [')', '$']

/-- The second text is the first one, with the closing behind it or without. -/
inductive Follows : List Char → List Char → Prop
  | nil : Follows [] []
  | closing : Follows [] closing
  | cons {u v : List Char} (c : Char) (h : Follows u v) : Follows (c :: u) (c :: v)

/-- How reading a text compares to reading it with the closing behind it. Where there is a result
without the closing, at most `n` characters are left. -/
inductive Outcome {α : Type} (n : Nat) (Late : α → List Char → Prop) :
    Option (α × List Char) → Option (α × List Char) → Prop
  /-- Both have the same result. -/
  | both {a : α} {u v : List Char} (hn : u.length ≤ n) (h : Follows u v) :
    Outcome n Late (some (a, u)) (some (a, v))
  /-- Only the closing may complete what is read. -/
  | fails {y : Option (α × List Char)} (h : ∀ a v, y = some (a, v) → Late a v) :
    Outcome n Late none y

/-- The same for a body, of which two things are known where it ends. -/
inductive BodyOutcome {α β : Type} (n : Nat) (Late : List Char → Prop) :
    Option (α × β × List Char) → Option (α × β × List Char) → Prop
  | both {a : α} {b : β} {u v : List Char} (hn : u.length ≤ n) (h : Follows u v) :
    BodyOutcome n Late (some (a, b, u)) (some (a, b, v))
  | fails {y : Option (α × β × List Char)} (h : ∀ a b v, y = some (a, b, v) → Late v) :
    BodyOutcome n Late none y

namespace BodyOutcome

variable {α β : Type} {m n : Nat} {Late : List Char → Prop} {x y : Option (α × β × List Char)}

theorem neither : BodyOutcome n Late (none : Option (α × β × List Char)) none :=
  .fails fun _ _ _ h => by cases h

theorem mono (h : BodyOutcome m Late x y) (hn : m ≤ n) : BodyOutcome n Late x y := by
  cases h with
  | both hm h => exact .both (Nat.le_trans hm hn) h
  | fails h => exact .fails h

/-- What is worked out from the same value. -/
theorem given {γ : Type} {o : Option γ} {f g : γ → Option (α × β × List Char)}
    (h : ∀ c, BodyOutcome n Late (f c) (g c)) : BodyOutcome n Late (o.bind f) (o.bind g) := by
  cases o with
  | none => exact .neither
  | some c => exact h c

/-- Where the closing completes nothing, there is a result with it just in case there is one
without it. -/
theorem alike (h : BodyOutcome n (fun _ => False) x y) : (x = none ∧ y = none) ∨
    ∃ a b u v, x = some (a, b, u) ∧ y = some (a, b, v) ∧ u.length ≤ n ∧ Follows u v := by
  cases h with
  | @both a b u v hn h => exact Or.inr ⟨a, b, u, v, rfl, rfl, hn, h⟩
  | fails h =>
    refine Or.inl ⟨rfl, ?_⟩
    obtain _ | ⟨a, b, v⟩ := y
    · rfl
    · exact (h a b v rfl).elim

end BodyOutcome

namespace Outcome

variable {α β : Type} {m n : Nat} {Late : α → List Char → Prop} {Late' : β → List Char → Prop}
  {x y : Option (α × List Char)}

theorem neither : Outcome n Late none none := .fails fun _ _ h => by cases h

theorem late {a : α} {v : List Char} (h : Late a v) : Outcome n Late none (some (a, v)) := by
  refine .fails fun a' v' h' => ?_
  cases h'
  exact h

theorem mono {Late' : α → List Char → Prop} (h : Outcome m Late x y) (hn : m ≤ n)
    (hlate : ∀ a v, Late a v → Late' a v) : Outcome n Late' x y := by
  cases h with
  | both hm h => exact .both (Nat.le_trans hm hn) h
  | fails h => exact .fails fun a v hy => hlate a v (h a v hy)

theorem bind {f g : α × List Char → Option (β × List Char)} (h : Outcome m Late x y)
    (hboth : ∀ a u v, u.length ≤ m → Follows u v → Outcome n Late' (f (a, u)) (g (a, v)))
    (hlate : ∀ a v, Late a v → ∀ b w, g (a, v) = some (b, w) → Late' b w) :
    Outcome n Late' (x.bind f) (y.bind g) := by
  cases h with
  | both hm h => exact hboth _ _ _ hm h
  | fails h =>
    refine .fails fun b w hw => ?_
    obtain ⟨⟨a, v⟩, hy, hw⟩ := Option.bind_eq_some_iff.1 hw
    exact hlate a v (h a v hy) b w hw

/-- Where the closing completes nothing, there is a result with it just in case there is one
without it. -/
theorem alike (h : Outcome n (fun _ _ => False) x y) : (x = none ∧ y = none) ∨
    ∃ a u v, x = some (a, u) ∧ y = some (a, v) ∧ u.length ≤ n ∧ Follows u v := by
  cases h with
  | @both a u v hn h => exact Or.inr ⟨a, u, v, rfl, rfl, hn, h⟩
  | fails h =>
    refine Or.inl ⟨rfl, ?_⟩
    obtain _ | ⟨a, v⟩ := y
    · rfl
    · exact (h a v rfl).elim

/-- The same where the closing completes nothing. -/
theorem next {f g : α × List Char → Option (β × List Char)} (h : Outcome m (fun _ _ => False) x y)
    (hboth : ∀ a u v, u.length ≤ m → Follows u v → Outcome n Late' (f (a, u)) (g (a, v))) :
    Outcome n Late' (x.bind f) (y.bind g) :=
  h.bind hboth fun _ _ h => h.elim

theorem bindBody {γ : Type} {Late' : List Char → Prop}
    {f g : α × List Char → Option (β × γ × List Char)} (h : Outcome m Late x y)
    (hboth : ∀ a u v, u.length ≤ m → Follows u v → BodyOutcome n Late' (f (a, u)) (g (a, v)))
    (hlate : ∀ a v, Late a v → ∀ b c w, g (a, v) = some (b, c, w) → Late' w) :
    BodyOutcome n Late' (x.bind f) (y.bind g) := by
  cases h with
  | both hm h => exact hboth _ _ _ hm h
  | fails h =>
    refine .fails fun b c w hw => ?_
    obtain ⟨⟨a, v⟩, hy, hw⟩ := Option.bind_eq_some_iff.1 hw
    exact hlate a v (h a v hy) b c w hw

theorem given {γ : Type} {o : Option γ} {f g : γ → Option (α × List Char)}
    (h : ∀ c, Outcome n Late (f c) (g c)) : Outcome n Late (o.bind f) (o.bind g) := by
  cases o with
  | none => exact .neither
  | some c => exact h c

theorem mapped {γ : Type} {o : Option γ} {f : γ → α} {u v : List Char} (hn : u.length ≤ n)
    (h : Follows u v) : Outcome n Late (o.map fun c => (f c, u)) (o.map fun c => (f c, v)) := by
  cases o with
  | none => exact .neither
  | some c => exact .both hn h

end Outcome

variable {u v : List Char} {flags : Flags}

/-! ## Blanks -/

theorem Follows.refl : Follows u u := by
  induction u with
  | nil => exact .nil
  | cons c u ih => exact .cons c ih

theorem Follows.length_le (h : Follows u v) : u.length ≤ v.length := by
  induction h with
  | nil | closing => exact Nat.zero_le _
  | cons c h ih => exact Nat.succ_le_succ ih

theorem isBlank_paren : Text.isBlank ')' = false := by decide

theorem isBlank_dollar : Text.isBlank '$' = false := by decide

theorem Follows.dropComment (h : Follows u v) : Follows (dropComment u) (dropComment v) := by
  induction h with
  | nil | closing => exact .nil
  | cons c h ih =>
    unfold Pattern.dropComment
    split
    · exact h
    · exact ih

theorem dropSpace_length (cs : List Char) : (dropSpace cs).length ≤ cs.length := by
  induction cs using dropSpace.induct with
  | case1 => simp [dropSpace]
  | case2 c rest hc ih =>
    rw [dropSpace, if_pos hc]
    exact Nat.le_succ_of_le ih
  | case3 c rest hc hc' ih =>
    rw [dropSpace, if_neg hc, if_pos hc']
    exact Nat.le_succ_of_le (Nat.le_trans ih (dropComment_length rest))
  | case4 c rest hc hc' => simp [dropSpace, hc, hc']

theorem Follows.dropSpace (h : Follows u v) : Follows (dropSpace u) (dropSpace v) := by
  induction u using dropSpace.induct generalizing v with
  | case1 =>
    cases h with
    | nil => exact .refl
    | closing =>
      simp only [Pattern.dropSpace, Pattern.closing, isBlank_paren]
      exact .closing
  | case2 c rest hc ih =>
    cases h with | cons _ h
    rw [Pattern.dropSpace, Pattern.dropSpace, if_pos hc, if_pos hc]
    exact ih h
  | case3 c rest hc hc' ih =>
    cases h with | cons _ h
    rw [Pattern.dropSpace, Pattern.dropSpace, if_neg hc, if_neg hc, if_pos hc', if_pos hc']
    exact ih h.dropComment
  | case4 c rest hc hc' =>
    cases h with | cons _ h
    rw [Pattern.dropSpace, Pattern.dropSpace, if_neg hc, if_neg hc, if_neg hc', if_neg hc']
    exact .cons c h

theorem skip_length (flags : Flags) (cs : List Char) : (skip flags cs).length ≤ cs.length := by
  unfold skip
  split
  · exact dropSpace_length cs
  · exact Nat.le_refl _

theorem Follows.skip (flags : Flags) (h : Follows u v) : Follows (skip flags u) (skip flags v) := by
  unfold Pattern.skip
  split
  · exact h.dropSpace
  · exact h

@[simp] theorem skip_nil : skip flags [] = [] := by simp [skip, dropSpace]

@[simp] theorem skip_paren (cs : List Char) : skip flags (')' :: cs) = ')' :: cs := by
  simp [skip, dropSpace, isBlank_paren]

@[simp] theorem skip_dollar (cs : List Char) : skip flags ('$' :: cs) = '$' :: cs := by
  simp [skip, dropSpace, isBlank_dollar]

theorem skip_closing : skip flags closing = closing := skip_paren _

/-- Characters are left out alike where the closing is not cut in two. -/
theorem Follows.dropWhile {p : Char → Bool} (h : Follows u v) (hp : p ')' → p '$') :
    Follows (u.dropWhile p) (v.dropWhile p) := by
  induction h with
  | nil => exact .nil
  | closing =>
    by_cases hparen : p ')'
    · simp [Pattern.closing, hparen, hp hparen, Follows.nil]
    · simp [Pattern.closing, hparen]
      exact .closing
  | cons c h ih =>
    by_cases hc : p c
    · simpa [hc] using ih
    · simp [hc]
      exact .cons c h

/-- The characters up to one that the closing does not have, and what stands behind them. -/
theorem Follows.takeWhile {p : Char → Bool} (h : Follows u v) (hparen : p ')') (hdollar : p '$') :
    (u.takeWhile p = v.takeWhile p ∧
      ∃ c u' v', u.dropWhile p = c :: u' ∧ v.dropWhile p = c :: v' ∧ Follows u' v') ∨
      u.dropWhile p = [] ∧ v.dropWhile p = [] := by
  induction h with
  | nil => exact Or.inr ⟨rfl, rfl⟩
  | closing => exact Or.inr ⟨rfl, by simp [Pattern.closing, hparen, hdollar]⟩
  | @cons u v c h ih =>
    by_cases hc : p c
    · simpa [hc] using ih
    · exact Or.inl ⟨by simp [hc], c, u, v, by simp [hc], by simp [hc], h⟩

/-- A word that opens the text with the closing opens the text without it. -/
theorem Follows.of_append {w rest : List Char} (h : Follows u v) (hw : ')' ∉ w)
    (hv : v = w ++ rest) : ∃ rest, u = w ++ rest := by
  induction h generalizing w with
  | nil => exact ⟨rest, hv⟩
  | closing =>
    cases w with
    | nil => exact ⟨[], rfl⟩
    | cons d w =>
      obtain rfl : ')' = d := (List.cons.inj hv).1
      exact absurd List.mem_cons_self hw
  | @cons u v c h ih =>
    cases w with
    | nil => exact ⟨c :: u, rfl⟩
    | cons d w =>
      cases hv
      obtain ⟨rest, rfl⟩ := ih (fun hmem => hw (List.mem_cons_of_mem _ hmem)) rfl
      exact ⟨rest, rfl⟩

theorem Follows.head?_beq {c : Char} (h : Follows u v) (hparen : c ≠ ')') :
    (u.head? == some c) = (v.head? == some c) := by
  cases h with
  | nil => rfl
  | closing => simp [Pattern.closing, hparen.symm]
  | cons d h => rfl

theorem Follows.peek_beq {c : Char} (h : Follows u v) (hparen : c ≠ ')') :
    (peek flags u == some c) = (peek flags v == some c) := by
  have hblank : Text.isBlank ')' → Text.isBlank '$' := by decide
  unfold peek
  split
  · have h := h.dropWhile hblank
    generalize u.dropWhile Text.isBlank = u at h
    generalize v.dropWhile Text.isBlank = v at h
    cases h with
    | nil => rfl
    | closing => exact Follows.closing.head?_beq hparen
    | cons d h =>
      by_cases hd : d = '#'
      · subst hd
        exact (h.dropWhile hblank).head?_beq hparen
      · simp [hd]
  · exact h.head?_beq hparen

theorem suffix_dollar_iff : v <:+ ['$'] ↔ v = [] ∨ v = ['$'] := by
  rw [List.suffix_cons_iff, List.suffix_nil, or_comm]

/-! ## Escapes -/

theorem Follows.takeHex {Late : List Char → List Char → Prop} {n : Nat} {done : List Char}
    (h : Follows u v) :
    Outcome u.length Late (takeHex flags n done u) (takeHex flags n done v) := by
  induction n generalizing done u v with
  | zero => exact .both (Nat.le_refl _) h
  | succ n ih =>
    cases h with
    | nil => exact .neither
    | closing => exact .neither
    | @cons u v c h =>
      unfold Pattern.takeHex
      split
      · exact (ih (h.skip flags)).mono (Nat.le_succ_of_le (skip_length flags u)) fun _ _ h => h
      · exact .neither

theorem takeBraced_go_dollar {n : Nat} {done : List Char} :
    takeBraced.go flags n done ['$'] = none := by
  rcases n with _ | _ | n <;> simp [takeBraced.go]

theorem Follows.takeBraced_go {Late : List Char → List Char → Prop} {m n : Nat} {done : List Char}
    (h : Follows u v) (hn : u.length < n) (hm : u.length < m) :
    Outcome u.length Late (takeBraced.go flags n done u) (takeBraced.go flags m done v) := by
  induction n generalizing m done u v with
  | zero => omega
  | succ n ih =>
    obtain ⟨m, rfl⟩ : ∃ m', m = m' + 1 := ⟨m - 1, by omega⟩
    have hlen := skip_length flags u
    have h := h.skip flags
    unfold takeBraced.go
    generalize Pattern.skip flags u = u' at h hlen
    generalize Pattern.skip flags v = v' at h
    cases h with
    | nil => exact .neither
    | closing =>
      simp only [Pattern.closing]
      rw [if_neg (by decide), takeBraced_go_dollar]
      exact .neither
    | @cons u' v' c h =>
      simp only [List.length_cons] at hlen
      dsimp only
      split
      · exact .both (by omega) h
      · exact (ih h (by omega) (by omega)).mono (by omega) fun _ _ h => h

theorem Follows.takeBraced {Late : List Char → List Char → Prop} (h : Follows u v) :
    Outcome u.length Late (takeBraced flags u) (takeBraced flags v) :=
  h.takeBraced_go (Nat.lt_succ_self _) (Nat.lt_succ_of_le h.length_le)

theorem Follows.readHex {Late : Primitive → List Char → Prop} {digits : Nat}
    (h : Follows u v) :
    Outcome u.length Late (readHex flags (digits + 1) u) (readHex flags (digits + 1) v) := by
  have hlen := skip_length flags u
  have h := h.skip flags
  unfold Pattern.readHex
  generalize Pattern.skip flags u = u' at h hlen
  generalize Pattern.skip flags v = v' at h
  cases h with
  | nil => exact .neither
  | closing => exact .neither
  | @cons u' v' c h =>
    simp only [List.length_cons] at hlen
    by_cases hc : c = '\x7b'
    · subst hc
      refine h.takeBraced.next ?_
      intro ds u v hu h
      dsimp only
      split
      · exact .neither
      · have hlen' := skip_length flags u
        exact .given fun n => .given fun c => .both (by omega) (h.skip flags)
    · simp only [hc, List.cons.injEq, false_and, imp_self, implies_true]
      refine Outcome.next (h.cons c).takeHex ?_
      intro ds u v hu h
      exact .given fun n => .given fun c => .both (Nat.le_trans hu hlen) h

theorem Follows.readProperty {Late : Primitive → List Char → Prop} {negated : Bool}
    (h : Follows u v) :
    Outcome u.length Late (readProperty flags negated u) (readProperty flags negated v) := by
  have hlen := skip_length flags u
  have h := h.skip flags
  have hset : ∀ {n : Nat} {x : CharSet × Bool} {u v : List Char}, u.length ≤ n → Follows u v →
      Outcome n Late
        (if !flags.unicode then none
          else some (.set (if negated == x.2 then fold flags x.1 else (fold flags x.1).compl), u))
        (if !flags.unicode then none
          else some (.set (if negated == x.2 then fold flags x.1 else (fold flags x.1).compl), v))
      := by
    intro n x u v hn h
    split
    · exact .neither
    · exact .both hn h
  unfold Pattern.readProperty
  generalize Pattern.skip flags u = u' at h hlen
  generalize Pattern.skip flags v = v' at h
  cases h with
  | nil => exact .neither
  | closing =>
    have : namedSet? [')'] = none := by decide +kernel
    simp [Pattern.closing, this]
    exact .neither
  | @cons u' v' c h =>
    simp only [List.length_cons] at hlen
    by_cases hc : c = '\x7b'
    · subst hc
      simp only
      refine h.takeBraced.next ?_
      intro name u v hu h
      exact .given fun s => hset (x := s) (Nat.le_trans hu (Nat.le_of_succ_le hlen)) h
    by_cases hc' : c = '\\'
    · subst hc'
      exact .neither
    simp only
    have hlen' := skip_length flags u'
    exact .given fun s => hset (x := (s, false)) (Nat.le_trans hlen' (Nat.le_of_succ_le hlen))
      (h.skip flags)

/-- What an escape leaves that only the closing completes: nothing of the declared text, or the
opening of a brace behind an assertion, and nothing in it. -/
def LateEscape (flags : Flags) (p : Primitive) (v : List Char) : Prop :=
  v <:+ ['$'] ∨ (∃ a, p = .assertion a) ∧ ∃ inner, v = '\x7b' :: inner ∧ skip flags inner = closing

theorem Follows.readWordEdge (h : Follows u v) :
    Outcome u.length (LateEscape flags) (readWordEdge flags u) (readWordEdge flags v) := by
  unfold Pattern.readWordEdge
  cases h with
  | nil => exact .both (Nat.le_refl _) .nil
  | closing => exact .both (Nat.le_refl _) .closing
  | @cons u v c h =>
    by_cases hc : c = '\x7b'
    · subst hc
      simp only
      have hinner := h.skip flags
      generalize Pattern.skip flags u = u' at hinner
      generalize hv : Pattern.skip flags v = v' at hinner
      cases hinner with
      | nil => exact .neither
      | closing =>
        refine .late (Or.inr ⟨⟨_, rfl⟩, v, rfl, hv⟩)
      | @cons u' v' c' h' =>
        simp only
        split
        · refine h.takeBraced.next ?_
          intro word u v hu h
          dsimp only
          split
          · exact .given fun a => .both (Nat.le_succ_of_le hu) h
          · exact .neither
        · exact .both (Nat.le_refl _) (h.cons _)
    · simp only [hc, List.cons.injEq, false_and, imp_self, implies_true]
      exact .both (Nat.le_refl _) (h.cons c)

theorem Follows.readEscape (h : Follows u v) :
    Outcome u.length (LateEscape flags) (readEscape flags u) (readEscape flags v) := by
  cases h with
  | nil => exact .neither
  | closing => exact .late (Or.inl (List.suffix_refl _))
  | @cons u v c h =>
    have hboth (p : Primitive) :
        Outcome (u.length + 1) (LateEscape flags) (some (p, u)) (some (p, v)) :=
      .both (Nat.le_succ _) h
    simp only [Pattern.readEscape]
    split
    case h_1 | h_2 | h_3 => exact h.readHex.mono (Nat.le_succ _) fun _ _ h => h
    case h_4 | h_5 => exact h.readProperty.mono (Nat.le_succ _) fun _ _ h => h
    case h_6 | h_7 | h_8 | h_9 | h_10 | h_11 => exact .mapped (Nat.le_succ _) h
    case h_20 => exact h.readWordEdge.mono (Nat.le_succ _) fun _ _ h => h
    case h_24 =>
      split
      · exact hboth _
      · exact .neither
    all_goals exact hboth _

/-! ## Classes -/

/-- What stands up to the end of a named class. -/
theorem Follows.asciiName {Late : Option CharSet → List Char → Prop} {f : CharSet → Option CharSet}
    (h : Follows u v) :
    Outcome u.length Late
      (match u.dropWhile (· != ':') with
      | ':' :: ']' :: after => (asciiClass? (u.takeWhile (· != ':'))).map fun s => (f s, after)
      | _ => none)
      (match v.dropWhile (· != ':') with
      | ':' :: ']' :: after => (asciiClass? (v.takeWhile (· != ':'))).map fun s => (f s, after)
      | _ => none) := by
  have hlen := (List.dropWhile_suffix (l := u) (· != ':')).length_le
  rcases h.takeWhile (p := (· != ':')) (by decide) (by decide) with
    ⟨htake, c, u', v', hu, hv, h⟩ | ⟨hu, hv⟩
  · rw [hu, List.length_cons] at hlen
    rw [htake, hu, hv]
    by_cases hc : c = ':'
    · subst hc
      cases h with
      | nil | closing => exact .neither
      | @cons u' v' d h =>
        simp only [List.length_cons] at hlen
        by_cases hd : d = ']'
        · subst hd
          exact .mapped (by omega) h
        · simp only [hd, List.cons.injEq, false_and, and_false, imp_self, implies_true]
          exact .neither
    · simp only [hc, List.cons.injEq, false_and, imp_self, implies_true]
      exact .neither
  · rw [hu, hv]
    exact .neither

theorem Follows.readAsciiClass {Late : Option CharSet → List Char → Prop} (h : Follows u v) :
    Outcome u.length Late (readAsciiClass flags u) (readAsciiClass flags v) := by
  cases h with
  | nil | closing => exact .neither
  | @cons u v c h =>
    by_cases hc : c = ':'
    · subst hc
      cases h with
      | nil | closing => exact .neither
      | @cons u v c h =>
        by_cases hc : c = '^'
        · subst hc
          exact h.asciiName.mono (by simp only [List.length_cons]; omega) fun _ _ h => h
        · simp only [Pattern.readAsciiClass, hc, List.cons.injEq, false_and, imp_self, implies_true]
          exact (h.cons c).asciiName.mono (by simp only [List.length_cons]; omega) fun _ _ h => h
    · simp only [Pattern.readAsciiClass, hc, List.cons.injEq, false_and, imp_self, implies_true]
      exact .neither

/-- A character that opens what is left of a class, or an escape. -/
theorem Follows.readClassPrimitive_cons (h : Follows u v) (c : Char) :
    Outcome u.length (LateEscape flags) (readClassPrimitive flags (c :: u))
      (readClassPrimitive flags (c :: v)) := by
  by_cases hc : c = '\\'
  · subst hc
    exact h.readEscape
  · simp only [Pattern.readClassPrimitive]
    exact .both (Nat.le_refl _) h

theorem Follows.readClassPrimitive (h : Follows u v) :
    Outcome u.length (LateEscape flags) (Pattern.readClassPrimitive flags u)
      (Pattern.readClassPrimitive flags v) := by
  cases h with
  | nil => exact .neither
  | closing => exact .late (Or.inl (List.suffix_refl _))
  | cons c h => exact (h.readClassPrimitive_cons c).mono (Nat.le_succ _) fun _ _ h => h

theorem Follows.takeHyphens {m n : Nat} {items : ClassItems} (h : Follows u v) (hn : u.length < n)
    (hm : u.length < m) :
    ∃ items' u' v', takeHyphens flags n items u = (items', u') ∧
      takeHyphens flags m items v = (items', v') ∧ u'.length ≤ u.length ∧ Follows u' v' := by
  induction n generalizing m items u v with
  | zero => omega
  | succ n ih =>
    obtain ⟨m, rfl⟩ : ∃ m', m = m' + 1 := ⟨m - 1, by omega⟩
    cases h with
    | nil => exact ⟨_, _, _, rfl, rfl, Nat.le_refl _, .nil⟩
    | closing => exact ⟨_, _, _, rfl, rfl, Nat.le_refl _, .closing⟩
    | @cons u v c h =>
      by_cases hc : c = '-'
      · subst hc
        have hlen := skip_length flags u
        simp only [List.length_cons] at hn hm ⊢
        obtain ⟨items', u', v', hu, hv, hlen', h'⟩ :=
          @ih _ _ m (items.add (.single '-')) (h.skip flags) (by omega) (by omega)
        exact ⟨items', u', v', hu, hv, by omega, h'⟩
      · simp only [Pattern.takeHyphens, hc, List.cons.injEq, false_and, imp_self, implies_true]
        exact ⟨_, _, _, rfl, rfl, Nat.le_refl _, h.cons c⟩

/-- A closing bracket counts as an item where there is none before it. -/
theorem Follows.bracketItem (h : Follows u v) (flags : Flags) (negated : Bool)
    (items : ClassItems) :
    ∃ items' u' v',
      (match items.count, u with
        | 0, ']' :: rest => (negated, items.add (.single ']'), Pattern.skip flags rest)
        | _, cs => (negated, items, cs)) = (negated, items', u') ∧
      (match items.count, v with
        | 0, ']' :: rest => (negated, items.add (.single ']'), Pattern.skip flags rest)
        | _, cs => (negated, items, cs)) = (negated, items', v') ∧
      u'.length ≤ u.length ∧ Follows u' v' := by
  cases h with
  | nil => exact ⟨items, [], [], by simp, by simp, Nat.le_refl _, .nil⟩
  | closing => exact ⟨items, [], _, by simp, by simp [Pattern.closing], Nat.le_refl _, .closing⟩
  | @cons u v c h =>
    cases hcount : items.count with
    | succ n => exact ⟨items, _, _, rfl, rfl, Nat.le_refl _, h.cons c⟩
    | zero =>
      by_cases hc : c = ']'
      · subst hc
        exact ⟨_, _, _, rfl, rfl, Nat.le_succ_of_le (skip_length flags u), h.skip flags⟩
      · simp only [hc, List.cons.injEq, false_and, imp_self, implies_true]
        exact ⟨_, _, _, rfl, rfl, Nat.le_refl _, h.cons c⟩

theorem Follows.openClass (h : Follows u v) (flags : Flags) :
    ∃ negated items u' v', openClass flags u = (negated, items, u') ∧
      openClass flags v = (negated, items, v') ∧ u'.length ≤ u.length ∧ Follows u' v' := by
  have hitems {u v : List Char} (h : Follows u v) : ∃ items u' v',
      Pattern.takeHyphens flags (u.length + 1) {} u = (items, u') ∧
      Pattern.takeHyphens flags (v.length + 1) {} v = (items, v') ∧
      u'.length ≤ u.length ∧ Follows u' v' :=
    h.takeHyphens (Nat.lt_succ_self _) (Nat.lt_succ_of_le h.length_le)
  have hlen := skip_length flags u
  have h := h.skip flags
  unfold Pattern.openClass
  dsimp only
  generalize Pattern.skip flags u = u' at h hlen
  generalize Pattern.skip flags v = v' at h
  cases h with
  | nil => exact ⟨_, _, _, _, rfl, rfl, Nat.zero_le _, .nil⟩
  | closing => exact ⟨_, _, _, _, rfl, rfl, Nat.zero_le _, .closing⟩
  | @cons u' v' c h =>
    simp only [List.length_cons] at hlen
    by_cases hc : c = '^'
    · subst hc
      have hlen₁ := skip_length flags u'
      obtain ⟨items₁, u₁, v₁, hu₁, hv₁, hlen₂, h₁⟩ := hitems (h.skip flags)
      obtain ⟨items, u₂, v₂, hu₂, hv₂, hlen₃, h₂⟩ :=
        h₁.bracketItem flags true items₁
      refine ⟨true, items, u₂, v₂, ?_, ?_, by omega, h₂⟩
      · simp only [hu₁]
        exact hu₂
      · simp only [hv₁]
        exact hv₂
    · obtain ⟨items₁, u₁, v₁, hu₁, hv₁, hlen₁, h₁⟩ := hitems (h.cons c)
      obtain ⟨items, u₂, v₂, hu₂, hv₂, hlen₂, h₂⟩ :=
        h₁.bracketItem flags false items₁
      simp only [List.length_cons] at hlen₁
      refine ⟨false, items, u₂, v₂, ?_, ?_, by omega, h₂⟩
      · simp only [hc, List.cons.injEq, false_and, imp_self, implies_true, hu₁]
        exact hu₂
      · simp only [hc, List.cons.injEq, false_and, imp_self, implies_true, hv₁]
        exact hv₂

/-- The single item that a primitive is in a class leaves what stands behind it. -/
theorem rest_of_classItem {first : Primitive} {s : CharSet} {w w' : List Char}
    (h : (match first with
      | .set s => some (s, w)
      | p => (classLiteral? flags p).map fun d => (.single d, w)) = some (s, w')) : w' = w := by
  cases first with
  | set s =>
    cases h
    rfl
  | _ =>
    obtain ⟨d, -, h⟩ := Option.map_eq_some_iff.1 h
    cases h
    rfl

theorem Follows.readClassRange (h : Follows u v) (flags : Flags) (c : Char) :
    Outcome u.length (fun _ v => v <:+ Pattern.closing) (readClassRange flags (c :: u))
      (readClassRange flags (c :: v)) := by
  unfold Pattern.readClassRange
  refine (h.readClassPrimitive_cons c).bind ?_ ?_
  · intro first u v hu h
    have hlen := skip_length flags u
    have h := h.skip flags
    dsimp only
    generalize Pattern.skip flags u = u' at h hlen
    generalize Pattern.skip flags v = v' at h
    cases h with
    | nil => exact .neither
    | closing =>
      refine .fails fun s w hw => ?_
      obtain rfl := rest_of_classItem hw
      exact List.suffix_refl _
    | @cons u' v' d h =>
      simp only [h.peek_beq (c := ']') (by decide), h.peek_beq (c := '-') (by decide)]
      simp only [List.length_cons] at hlen
      split
      · cases first with
        | set s => exact .both (Nat.le_trans hlen hu) (h.cons d)
        | _ => exact .mapped (Nat.le_trans hlen hu) (h.cons d)
      · have hlen' := skip_length flags u'
        refine (h.skip flags).readClassPrimitive.bind ?_ ?_
        · intro last u v hlast h
          refine .given fun first => .given fun last => ?_
          split
          · exact .both (by simp only []; omega) h
          · exact .neither
        · rintro last v (hv | ⟨⟨a, rfl⟩, -⟩) s w hw
          · obtain ⟨first, -, hw⟩ := Option.bind_eq_some_iff.1 hw
            obtain ⟨last, -, hw⟩ := Option.bind_eq_some_iff.1 hw
            obtain ⟨-, hw⟩ := Option.ite_none_right_eq_some.1 hw
            cases hw
            exact hv.trans (List.suffix_cons _ _)
          · simp [classLiteral?] at hw
  · rintro first v (hv | ⟨⟨a, rfl⟩, -⟩) s w hw
    · rcases suffix_dollar_iff.1 hv with rfl | rfl
      · simp at hw
      · dsimp only at hw
        rw [skip_dollar] at hw
        obtain rfl := rest_of_classItem hw
        exact List.suffix_cons _ _
    · -- an assertion is no item of a class
      dsimp only at hw
      split at hw
      · cases hw
      · split at hw
        · cases hw
        · obtain ⟨last, -, hw⟩ := Option.bind_eq_some_iff.1 hw
          cases hw

/-- What stands behind a declared text closes no class. -/
theorem readClassBody_closing {n : Nat} {negated : Bool} {pending : Option Pending}
    {items : ClassItems} (hv : v <:+ closing) :
    readClassBody flags n negated pending items v = none := by
  have hnil {n : Nat} {items : ClassItems} :
      readClassBody flags n negated pending items [] = none := by
    cases n <;> simp [readClassBody]
  have hdollar {n : Nat} {items : ClassItems} :
      readClassBody flags n negated pending items ['$'] = none := by
    cases n with
    | zero => rfl
    | succ n => simp [readClassBody, readClassRange, readClassPrimitive]
  rcases List.suffix_cons_iff.1 hv with rfl | hv
  · cases n with
    | zero => rfl
    | succ n =>
      have hrange : readClassRange flags [')', '$'] =
          (classLiteral? flags (.literal ')' false)).map fun d => (.single d, ['$']) := by
        simp [readClassRange, readClassPrimitive]
      cases hd : classLiteral? flags (.literal ')' false) with
      | none => simp [readClassBody, hrange, hd]
      | some d => simp [readClassBody, hrange, hd, hdollar]
  · rcases suffix_dollar_iff.1 hv with rfl | rfl
    · exact hnil
    · exact hdollar

/-- A class ends before the closing, or not at all. -/
theorem Follows.readClassBody {m n : Nat} {negated : Bool} {pending : Option Pending}
    {items : ClassItems} (h : Follows u v) (hn : u.length < n) (hm : u.length < m) :
    BodyOutcome u.length (fun _ => False) (readClassBody flags n negated pending items u)
      (readClassBody flags m negated pending items v) := by
  induction n generalizing m negated pending items u v with
  | zero => omega
  | succ n ih =>
    obtain ⟨m, rfl⟩ : ∃ m', m = m' + 1 := ⟨m - 1, by omega⟩
    have hlen := skip_length flags u
    have hskip := h.skip flags
    unfold Pattern.readClassBody
    dsimp only
    generalize Pattern.skip flags u = u' at hskip hlen
    generalize hv : Pattern.skip flags v = v' at hskip
    cases hskip with
    | nil => exact .neither
    | closing =>
      have hnone :
          Pattern.readClassBody flags (m + 1) negated pending items Pattern.closing = none :=
        readClassBody_closing (List.suffix_refl _)
      unfold Pattern.readClassBody at hnone
      rw [skip_closing] at hnone
      exact .fails fun s depth w hw => by cases hw.symm.trans hnone
    | @cons u' v' c h =>
      simp only [List.length_cons] at hlen
      have hgo {negated : Bool} {pending : Option Pending} {items : ClassItems} {u v : List Char}
          (hu : u.length ≤ u'.length) (h : Follows u v) :
          BodyOutcome u'.length (fun _ => False)
            (Pattern.readClassBody flags n negated pending items u)
            (Pattern.readClassBody flags m negated pending items v) :=
        (ih h (by omega) (by omega)).mono hu
      split
      case h_1 hu => cases hu
      case h_2 hu =>
        cases hu
        simp only []
        have hname : Outcome u'.length (fun _ _ => False) (Pattern.readAsciiClass flags u')
            (Pattern.readAsciiClass flags v') := h.readAsciiClass
        rcases hname.alike with ⟨hu, hv⟩ | ⟨s, u₁, v₁, hu, hv, hlen₁, h₁⟩
        · -- a class in the class, which ends before the closing as well
          obtain ⟨negated', items', u₁, v₁, hopen, hopen', hlen₁, h₁⟩ := h.openClass flags
          have hinner : BodyOutcome u'.length (fun _ => False)
              (Pattern.readClassBody flags n negated' none items' u₁)
              (Pattern.readClassBody flags m negated' none items' v₁) := hgo hlen₁ h₁
          simp only [hu, hv, hopen, hopen']
          rcases hinner.alike with ⟨hx, hy⟩ | ⟨s, depth, u₂, v₂, hx, hy, hlen₂, h₂⟩
          · simp only [hx, hy]
            exact .neither
          · simp only [hx, hy]
            exact (hgo hlen₂ h₂).mono (Nat.le_of_succ_le hlen)
        · simp only [hu, hv]
          cases s with
          | none => exact .neither
          | some s => exact (hgo hlen₁ h₁).mono (Nat.le_of_succ_le hlen)
      case h_3 hu =>
        cases hu
        simp only []
        split
        · exact .both (Nat.le_of_succ_le hlen) h
        · split
          · exact .both (Nat.le_of_succ_le hlen) h
          · exact .neither
      case h_4 hu | h_5 hu | h_6 hu =>
        cases hu
        cases h with | cons _ h
        simp only [List.length_cons] at hlen ⊢
        exact (hgo (Nat.le_succ _) h).mono (Nat.le_of_succ_le hlen)
      case h_7 hopen hclose hinter hminus hdiff =>
        -- what does not open the text does not open it with the closing behind it either
        have hword {w : List Char} (hw : ')' ∉ w) (hu : ∀ rest, c :: u' = w ++ rest → False) :
            ∀ rest, c :: v' = w ++ rest → False := fun rest hv =>
          ((h.cons c).of_append hw hv).elim hu
        have hopen' : ∀ rest, c :: v' = '[' :: rest → False :=
          hword (w := ['[']) (by decide) hopen
        have hclose' : ∀ rest, c :: v' = ']' :: rest → False :=
          hword (w := [']']) (by decide) hclose
        have hinter' : ∀ rest, c :: v' = '&' :: '&' :: rest → False :=
          hword (w := ['&', '&']) (by decide) hinter
        have hminus' : ∀ rest, c :: v' = '-' :: '-' :: rest → False :=
          hword (w := ['-', '-']) (by decide) hminus
        have hdiff' : ∀ rest, c :: v' = '~' :: '~' :: rest → False :=
          hword (w := ['~', '~']) (by decide) hdiff
        have hrange := h.readClassRange flags c
        simp only []
        generalize Pattern.readClassRange flags (c :: u') = x at hrange ⊢
        generalize Pattern.readClassRange flags (c :: v') = y at hrange ⊢
        cases hrange with
        | both hlen' h' => exact (hgo hlen' h').mono (Nat.le_of_succ_le hlen)
        | fails hlate =>
          cases y with
          | none => exact .neither
          | some next =>
            simp only [readClassBody_closing (hlate next.1 next.2 rfl)]
            exact .neither

theorem Follows.readClass {Late : Part → List Char → Prop} (h : Follows u v) :
    Outcome u.length Late (readClass flags u) (readClass flags v) := by
  obtain ⟨negated, items, u', v', hu, hv, hlen, h'⟩ := h.openClass flags
  have hle := h.length_le
  have hbody : BodyOutcome u'.length (fun _ => False)
      (Pattern.readClassBody flags (2 * u.length + 2) negated none items u')
      (Pattern.readClassBody flags (2 * v.length + 2) negated none items v') :=
    h'.readClassBody (by omega) (by omega)
  simp only [Pattern.readClass, hu, hv]
  rcases hbody.alike with ⟨hx, hy⟩ | ⟨s, depth, u₁, v₁, hx, hy, hlen₁, h₁⟩
  · rw [hx, hy]
    exact .neither
  · rw [hx, hy]
    exact .both (Nat.le_trans hlen₁ hlen) h₁

end Schemata.Pattern
