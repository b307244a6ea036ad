import Schemata.Proofs.ListTexts
import Schemata.Proofs.Verdicts

/-!
# Durations that are too long to count

The parts of a duration are added up with checked arithmetic, and a literal is given up, with
whatever reads it, if a part or a sum on the way is out of range. This happens for nothing else:
`Duration.Overflows` is exactly when a duration is given up, and no literal of another kind ever is,
however large its numbers are (`Atomic.exists_read_iff`). It follows which literals are given up
when they are read as values of a simple type (`Schema.exists_readValue_iff`), and that a
compilation gives a result if none of the literals that are mentioned is too long.

A literal with at most eleven digits in a row is never too long, since less than a hundred billion
days, hours, minutes and seconds together are still a duration (`Duration.not_overflows_of_short`).
-/

namespace Schemata

/-! ## Runs of digits -/

namespace Text

/-- There are never more than eleven digits in a row. -/
def Short (cs : List Char) : Prop :=
  ∀ ds, ds <:+: cs → (∀ c ∈ ds, c.isDigit) → ds.length ≤ 11

variable {cs part : List Char}

theorem Short.of_isInfix (h : Short cs) (hp : part <:+: cs) : Short part :=
  fun ds hds => h ds (hds.trans hp)

theorem isInfix_trim (cs : List Char) : trim cs <:+: cs := by
  have hend : dropBlankEnd (cs.dropWhile isBlank) <+: cs.dropWhile isBlank := by
    have := (List.dropWhile_suffix isBlank (l := (cs.dropWhile isBlank).reverse)).reverse
    rwa [List.reverse_reverse] at this
  exact hend.isInfix.trans (List.dropWhile_suffix isBlank).isInfix

theorem isInfix_of_mem_words {word : List Char} (h : word ∈ words cs) : word <:+: cs := by
  -- the word at the front stands at the front, and all words stand somewhere
  have key : ∀ cs, (frontWord cs).1 <+: cs ∧ ∀ word ∈ (frontWord cs).2, word <:+: cs := by
    intro cs
    induction cs with
    | nil => exact ⟨List.nil_prefix, List.forall_mem_nil _⟩
    | cons c cs ih =>
      obtain ⟨hfront, hfound⟩ := ih
      have hlater : ∀ word ∈ (frontWord cs).2, word <:+: c :: cs := fun word hword =>
        (hfound word hword).trans (List.suffix_cons c cs).isInfix
      have hword : (frontWord cs).1 <:+: c :: cs :=
        hfront.isInfix.trans (List.suffix_cons c cs).isInfix
      simp only [frontWord]
      split
      · refine ⟨List.nil_prefix, ?_⟩
        dsimp only
        split
        · exact hlater
        · exact List.forall_mem_cons.2 ⟨hword, hlater⟩
      · exact ⟨List.prefix_cons_inj c |>.2 hfront, hlater⟩
  obtain ⟨hfront, hfound⟩ := key cs
  rw [words_eq] at h
  split at h
  · exact hfound word h
  · rcases List.mem_cons.1 h with rfl | h
    · exact hfront.isInfix
    · exact hfound word h

/-- The number that a short run of digits stands for. -/
theorem natural?_lt_of_short (h : Short cs) {n : Nat} (hn : natural? cs = some n) :
    n < 10 ^ 11 := by
  obtain ⟨-, hdigit, rfl⟩ := natural?_eq_some.1 hn
  exact (digitsValue_lt hdigit).trans_le
    (Nat.pow_le_pow_right (by decide) (h cs (List.infix_refl cs) hdigit))

end Text

/-! ## Sums -/

namespace Duration

/-- Nanoseconds that make up a duration. -/
def InRange (n : Int) : Prop := n.natAbs ≤ ((1 <<< 63) - 1) * 1000000

instance (n : Int) : Decidable (InRange n) := inferInstanceAs (Decidable (_ ≤ _))

/-- The sums on the way when parts are added to a total one after the other. -/
def totals (total : Int) : List Int → List Int
  | [] => []
  | part :: rest => (total + part) :: totals (total + part) rest

/-- Every part is a duration, and so is every sum on the way. -/
def Countable (total : Int) (parts : List Int) : Prop :=
  (∀ part ∈ parts, InRange part) ∧ ∀ n ∈ totals total parts, InRange n

instance (total : Int) (parts : List Int) : Decidable (Countable total parts) :=
  inferInstanceAs (Decidable (_ ∧ _))

theorem countable_cons {total part : Int} {parts : List Int} :
    Countable total (part :: parts) ↔
      InRange part ∧ InRange (total + part) ∧ Countable (total + part) parts := by
  simp only [Countable, totals, List.forall_mem_cons]
  tauto

/-- Parts add up exactly if they can be counted. -/
theorem exists_sum?_iff (total : Duration) (parts : List Int) :
    (∃ d, sum? total parts = some d) ↔ Countable total.nanoseconds parts := by
  induction parts generalizing total with
  | nil => simp [sum?, Countable, totals]
  | cons part parts ih =>
    rw [countable_cons]
    by_cases hpart : InRange part
    · by_cases hnext : InRange (total.nanoseconds + part)
      · have hsum : sum? total (part :: parts) = sum? ⟨total.nanoseconds + part, hnext⟩ parts := by
          simp only [sum?, ofNanoseconds?, dif_pos (show _ ≤ _ from hpart),
            dif_pos (show _ ≤ _ from hnext), Option.bind_eq_bind, Option.bind_some]
        rw [hsum, ih]
        exact ⟨fun h => ⟨hpart, hnext, h⟩, fun h => h.2.2⟩
      · have hsum : sum? total (part :: parts) = none := by
          simp only [sum?, ofNanoseconds?, dif_pos (show _ ≤ _ from hpart),
            dif_neg (show ¬_ ≤ _ from hnext), Option.bind_eq_bind, Option.bind_some,
            Option.bind_none]
        simp [hsum, hnext]
    · have hsum : sum? total (part :: parts) = none := by
        simp only [sum?, ofNanoseconds?, dif_neg (show ¬_ ≤ _ from hpart), Option.bind_eq_bind,
          Option.bind_none]
      simp [hsum, hpart]

/-- Parts can be counted if all of them are in range even in one direction. -/
theorem countable_of_sum_natAbs {total : Int} {parts : List Int}
    (h : InRange (total.natAbs + (parts.map Int.natAbs).sum : Nat)) : Countable total parts := by
  unfold InRange at h
  rw [Int.natAbs_natCast] at h
  induction parts generalizing total with
  | nil => exact ⟨List.forall_mem_nil _, List.forall_mem_nil _⟩
  | cons part parts ih =>
    rw [List.map_cons, List.sum_cons] at h
    refine countable_cons.2 ⟨?_, ?_, ih ?_⟩ <;> unfold InRange at * <;> omega

/-! ## Durations -/

/-- A duration without the minus in front. -/
def unsigned (cs : List Char) : List Char :=
  if cs.head? == some '-' then cs.tail else cs

/-- The parts that a duration is read as cannot be counted. -/
def Overflows (cs : List Char) : Prop :=
  ∃ parts, readParts (unsigned cs) = some parts ∧ ¬Countable 0 parts

instance (cs : List Char) : Decidable (Overflows cs) :=
  decidable_of_iff (∃ parts ∈ readParts (unsigned cs), ¬Countable 0 parts) Iff.rfl

/-- Reading a duration comes to an end exactly if its parts can be counted. -/
theorem exists_read_iff {cs : List Char} : (∃ o, read cs = .ok o) ↔ ¬Overflows cs := by
  unfold read Overflows unsigned
  dsimp only
  cases readParts (if cs.head? == some '-' then cs.tail else cs) with
  | none => simp
  | some parts =>
    have hsum := exists_sum?_iff ⟨0, by decide⟩ parts
    simp only [Option.some.injEq, exists_eq_left', not_not]
    rw [← hsum]
    cases sum? ⟨0, by decide⟩ parts <;> simp

/-! ## Durations with few digits -/

theorem isInfix_splitFirst {mark : Char} {cs first : List Char} {rest : Option (List Char)}
    (h : splitFirst mark cs = (first, rest)) :
    first <:+: cs ∧ ∀ after, rest = some after → after <:+: cs := by
  unfold splitFirst at h
  split at h
  · cases h
    refine ⟨List.infix_refl cs, fun after hafter => ?_⟩
    cases hafter
  · rename_i c tail hdrop
    cases h
    refine ⟨(List.takeWhile_prefix _).isInfix, fun after hafter => ?_⟩
    cases hafter
    have hsuffix : c :: tail <:+ cs := hdrop ▸ List.dropWhile_suffix _
    exact ((List.suffix_cons c tail).trans hsuffix).isInfix

/-- A part is a run of digits, the sign apart. -/
theorem exists_of_readPart {cs : List Char} {n : Int} (h : readPart cs = some n) :
    ∃ ds, ds <:+: cs ∧ Text.natural? ds = some n.natAbs := by
  unfold readPart at h
  split at h
  · rename_i ds
    refine ⟨ds, (List.suffix_cons _ _).isInfix, ?_⟩
    cases hds : Text.natural? ds with
    | none => simp [hds] at h
    | some k =>
      simp [hds] at h
      rw [← h.2, Int.natAbs_neg, Int.natAbs_natCast]
  · rename_i ds
    refine ⟨ds, (List.suffix_cons _ _).isInfix, ?_⟩
    cases hds : Text.natural? ds with
    | none => simp [hds] at h
    | some k =>
      simp [hds] at h
      rw [← h.2, Int.natAbs_natCast]
  · refine ⟨cs, List.infix_refl cs, ?_⟩
    cases hcs : Text.natural? cs with
    | none => simp [hcs] at h
    | some k =>
      simp [hcs] at h
      rw [← h.2, Int.natAbs_natCast]

theorem natAbs_lt_of_readPart {cs : List Char} (h : Text.Short cs) {n : Int}
    (hn : readPart cs = some n) : n.natAbs < 10 ^ 11 := by
  obtain ⟨ds, hds, hvalue⟩ := exists_of_readPart hn
  exact Text.natural?_lt_of_short (h.of_isInfix hds) hvalue

theorem natAbs_lt_of_readFraction {cs : List Char} {n : Int} (hn : readFraction cs = some n) :
    n.natAbs < 10 ^ 9 := by
  unfold readFraction at hn
  split at hn
  · cases hn
  · obtain ⟨k, hk, rfl⟩ := Option.map_eq_some_iff.1 hn
    obtain ⟨-, hdigit, rfl⟩ := Text.natural?_eq_some.1 hk
    have hvalue := Text.digitsValue_lt hdigit
    rw [Int.natAbs_natCast]
    calc Text.digitsValue cs * Nat.pow 10 (9 - cs.length)
        < 10 ^ cs.length * 10 ^ (9 - cs.length) :=
          Nat.mul_lt_mul_of_pos_right hvalue (Nat.pow_pos (by decide))
      _ = 10 ^ 9 := by rw [← Nat.pow_add, Nat.add_sub_cancel' (by omega)]

/-- The days and the hours. -/
def readDays (cs : List Char) : Option (Int × Int) :=
  match splitFirst '.' cs with
  | (days, some hours) => do some (← readPart days, ← readPart hours)
  | (hours, none) => do some (0, ← readPart hours)

/-- The seconds and the nanoseconds. -/
def readSeconds (cs : List Char) : Option (Int × Int) :=
  match splitFirst '.' cs with
  | (seconds, some fraction) => do some (← readPart seconds, ← readFraction fraction)
  | (seconds, none) => do some (← readPart seconds, 0)

theorem readParts_eq (cs : List Char) : readParts cs =
    (splitFirst ':' cs).2.bind fun rest => (splitFirst ':' rest).2.bind fun third =>
      (readDays (splitFirst ':' cs).1).bind fun front =>
        (readPart (splitFirst ':' rest).1).bind fun minutes =>
          (readSeconds third).bind fun back =>
            if front.2 ≤ 23 ∧ minutes ≤ 59 ∧ back.1 ≤ 59 then
              some [front.1 * 86400000000000, front.2 * 3600000000000, minutes * 60000000000,
                back.1 * 1000000000, back.2]
            else none := by
  unfold readParts readDays readSeconds
  rcases splitFirst ':' cs with ⟨first, _ | rest⟩
  · rfl
  · dsimp only [Option.bind_eq_bind, Option.bind_some]
    rcases splitFirst ':' rest with ⟨second, _ | third⟩
    · rfl
    · dsimp only [Option.bind_some]
      rcases splitFirst '.' first with ⟨_, _ | _⟩ <;>
        rcases splitFirst '.' third with ⟨_, _ | _⟩ <;> simp [Option.bind_assoc]

variable {cs : List Char}

theorem natAbs_lt_of_readDays (h : Text.Short cs) {front : Int × Int}
    (hfront : readDays cs = some front) : front.1.natAbs < 10 ^ 11 ∧ front.2.natAbs < 10 ^ 11 := by
  unfold readDays at hfront
  split at hfront
  · rename_i first rest hsplit
    obtain ⟨hfirst, hrest⟩ := isInfix_splitFirst hsplit
    obtain ⟨days, hdays, hfront⟩ := Option.bind_eq_some_iff.1 hfront
    obtain ⟨hours, hhours, hfront⟩ := Option.bind_eq_some_iff.1 hfront
    cases hfront
    exact ⟨natAbs_lt_of_readPart (h.of_isInfix hfirst) hdays,
      natAbs_lt_of_readPart (h.of_isInfix (hrest _ rfl)) hhours⟩
  · rename_i first hsplit
    obtain ⟨hfirst, -⟩ := isInfix_splitFirst hsplit
    obtain ⟨hours, hhours, hfront⟩ := Option.bind_eq_some_iff.1 hfront
    cases hfront
    exact ⟨Nat.pow_pos (by decide), natAbs_lt_of_readPart (h.of_isInfix hfirst) hhours⟩

theorem natAbs_lt_of_readSeconds (h : Text.Short cs) {back : Int × Int}
    (hback : readSeconds cs = some back) : back.1.natAbs < 10 ^ 11 ∧ back.2.natAbs < 10 ^ 9 := by
  unfold readSeconds at hback
  split at hback
  · rename_i first rest hsplit
    obtain ⟨hfirst, -⟩ := isInfix_splitFirst hsplit
    obtain ⟨seconds, hseconds, hback⟩ := Option.bind_eq_some_iff.1 hback
    obtain ⟨fraction, hfraction, hback⟩ := Option.bind_eq_some_iff.1 hback
    cases hback
    exact ⟨natAbs_lt_of_readPart (h.of_isInfix hfirst) hseconds,
      natAbs_lt_of_readFraction hfraction⟩
  · rename_i first hsplit
    obtain ⟨hfirst, -⟩ := isInfix_splitFirst hsplit
    obtain ⟨seconds, hseconds, hback⟩ := Option.bind_eq_some_iff.1 hback
    cases hback
    exact ⟨natAbs_lt_of_readPart (h.of_isInfix hfirst) hseconds,
      Nat.pow_pos (by decide)⟩

/-- Less than a hundred billion days, hours, minutes and seconds can be counted. -/
theorem countable_of_readParts (h : Text.Short cs) {parts : List Int}
    (hparts : readParts cs = some parts) : Countable 0 parts := by
  rw [readParts_eq] at hparts
  obtain ⟨rest, hrest, hparts⟩ := Option.bind_eq_some_iff.1 hparts
  obtain ⟨third, hthird, hparts⟩ := Option.bind_eq_some_iff.1 hparts
  obtain ⟨front, hfront, hparts⟩ := Option.bind_eq_some_iff.1 hparts
  obtain ⟨minutes, hminutes, hparts⟩ := Option.bind_eq_some_iff.1 hparts
  obtain ⟨back, hback, hparts⟩ := Option.bind_eq_some_iff.1 hparts
  obtain ⟨hfirst, hafterFirst⟩ := isInfix_splitFirst (Eq.refl (splitFirst ':' cs))
  have hrestShort := h.of_isInfix (hafterFirst _ hrest)
  obtain ⟨hsecond, hafterSecond⟩ := isInfix_splitFirst (Eq.refl (splitFirst ':' rest))
  obtain ⟨hdays, hhours⟩ := natAbs_lt_of_readDays (h.of_isInfix hfirst) hfront
  have hminutes := natAbs_lt_of_readPart (hrestShort.of_isInfix hsecond) hminutes
  obtain ⟨hseconds, hfraction⟩ :=
    natAbs_lt_of_readSeconds (hrestShort.of_isInfix (hafterSecond _ hthird)) hback
  split at hparts
  · cases hparts
    refine countable_of_sum_natAbs ?_
    simp only [InRange, List.map_cons, List.map_nil, List.sum_cons, List.sum_nil]
    omega
  · cases hparts

theorem not_overflows_of_short (h : Text.Short cs) : ¬Overflows cs := by
  rintro ⟨parts, hparts, hnot⟩
  refine hnot (countable_of_readParts (h.of_isInfix ?_) hparts)
  unfold unsigned
  split
  · exact (List.tail_suffix cs).isInfix
  · exact List.infix_refl cs

end Duration

/-! ## Literals -/

theorem Except.exists_ok_map {ε α β : Type} {m : Except ε α} {f : α → β} :
    (∃ b, (m >>= fun a => pure (f a)) = .ok b) ↔ ∃ a, m = .ok a := by
  cases m with
  | error e => exact ⟨fun ⟨_, h⟩ => (nomatch h), fun ⟨_, h⟩ => (nomatch h)⟩
  | ok a => exact ⟨fun _ => ⟨a, rfl⟩, fun _ => ⟨f a, rfl⟩⟩

namespace Atomic

/-- The literal is a duration that is too long to count. -/
def Overflows (k : Kind) (literal : String) : Prop :=
  k = .duration ∧ Duration.Overflows (Text.trim literal.toList)

instance (k : Kind) (literal : String) : Decidable (Overflows k literal) :=
  inferInstanceAs (Decidable (_ ∧ _))

/-- A literal is read as a value. -/
def Reads (k : Kind) (literal : String) : Prop := ∃ v, read k literal = .ok (some v)

instance (k : Kind) (literal : String) : Decidable (Reads k literal) :=
  match h : read k literal with
  | .ok (some v) => isTrue ⟨v, h⟩
  | .ok none | .error _ => isFalse fun ⟨_, hv⟩ => nomatch h.symm.trans hv

/-- Reading a literal comes to an end unless it is a duration that is too long to count. -/
theorem exists_read_iff {k : Kind} {literal : String} :
    (∃ o, read k literal = .ok o) ↔ ¬Overflows k literal := by
  cases k with
  | duration =>
    rw [Overflows, and_iff_right rfl, ← Duration.exists_read_iff]
    exact Except.exists_ok_map
  | _ => exact ⟨fun _ h => (nomatch h.1), fun _ => ⟨_, rfl⟩⟩

theorem not_overflows_of_short {k : Kind} {literal : String} (h : Text.Short literal.toList) :
    ¬Overflows k literal := fun hlong =>
  Duration.not_overflows_of_short (h.of_isInfix (Text.isInfix_trim _)) hlong.2

end Atomic

namespace Schema

/-- One of the literals is too long to count, and all before it are read. -/
def OverflowsAmong (k : Kind) (literals : List String) : Prop :=
  ∃ before literal after, literals = before ++ literal :: after ∧
    (∀ first ∈ before, Atomic.Reads k first) ∧ Atomic.Overflows k literal

theorem overflowsAmong_cons {k : Kind} {literal : String} {rest : List String} :
    OverflowsAmong k (literal :: rest) ↔ Atomic.Overflows k literal ∨
      Atomic.Reads k literal ∧ OverflowsAmong k rest := by
  constructor
  · rintro ⟨_ | ⟨first, before⟩, long, after, heq, hbefore, hlong⟩
    · cases heq
      exact Or.inl hlong
    · cases heq
      obtain ⟨hfirst, hbefore⟩ := List.forall_mem_cons.1 hbefore
      exact Or.inr ⟨hfirst, before, long, after, rfl, hbefore, hlong⟩
  · rintro (hlong | ⟨hread, before, long, after, rfl, hbefore, hlong⟩)
    · exact ⟨[], literal, rest, rfl, List.forall_mem_nil _, hlong⟩
    · exact ⟨literal :: before, long, after, rfl, List.forall_mem_cons.2 ⟨hread, hbefore⟩, hlong⟩

theorem not_overflowsAmong_nil {k : Kind} : ¬OverflowsAmong k [] := by
  rintro ⟨before, literal, after, heq, -⟩
  simp at heq

instance decidableOverflowsAmong (k : Kind) :
    (literals : List String) → Decidable (OverflowsAmong k literals)
  | [] => isFalse not_overflowsAmong_nil
  | _ :: rest =>
    have := decidableOverflowsAmong k rest
    decidable_of_iff _ overflowsAmong_cons.symm

theorem exists_readAll_iff {k : Kind} {literals : List String} :
    (∃ o, readAll k literals = .ok o) ↔ ¬OverflowsAmong k literals := by
  induction literals with
  | nil => exact ⟨fun _ => not_overflowsAmong_nil, fun _ => ⟨_, rfl⟩⟩
  | cons literal rest ih =>
    rw [overflowsAmong_cons, not_or, not_and_or, ← ih, ← Atomic.exists_read_iff, readAll,
      Atomic.Reads]
    cases Atomic.read k literal with
    | error e => simp [bind, Except.bind]
    | ok o =>
      cases o with
      | none => simp [bind, Except.bind, pure, Except.pure]
      | some v =>
        simp only [Except.ok.injEq, Option.some.injEq, exists_eq', not_true_eq_false, false_or,
          true_and]
        exact Except.exists_ok_map

/-- The literal is too long to count as a value of a simple type, whole or in one of its words. -/
def Overflows (s : Schema) (id : TypeId) (literal : String) : Prop :=
  if (s.typeDef id).kind.isAtomic then Atomic.Overflows (s.typeDef id).kind literal
  else (s.typeDef id).kind.isList ∧ ∃ k ∈ s.itemKind? (s.typeDef id),
    OverflowsAmong k ((Text.words literal.toList).map String.ofList)

instance (s : Schema) (id : TypeId) (literal : String) : Decidable (s.Overflows id literal) :=
  inferInstanceAs (Decidable (ite _ _ (_ ∧ ∃ k ∈ s.itemKind? (s.typeDef id), OverflowsAmong k _)))

/-- Reading a literal as a value of a type comes to an end unless it is too long to count. -/
theorem exists_readValue_iff {s : Schema} {id : TypeId} {literal : String} :
    (∃ o, s.readValue id literal = .ok o) ↔ ¬s.Overflows id literal := by
  unfold readValue Overflows
  dsimp only
  split
  · rw [← Atomic.exists_read_iff]
    exact Except.exists_ok_map
  · split
    · rename_i hlist
      rw [and_iff_right hlist]
      cases s.itemKind? (s.typeDef id) with
      | none => simp [pure, Except.pure]
      | some k =>
        simp only [Option.mem_some_iff, exists_eq_left', ← exists_readAll_iff]
        exact Except.exists_ok_map
    · rename_i hlist
      exact ⟨fun _ h => hlist h.1, fun _ => ⟨_, rfl⟩⟩

theorem not_overflows_of_short {s : Schema} {id : TypeId} {literal : String}
    (h : Text.Short literal.toList) : ¬s.Overflows id literal := by
  unfold Overflows
  split
  · exact Atomic.not_overflows_of_short h
  · rintro ⟨-, k, -, before, word, after, hwords, -, hlong⟩
    have hmem : word ∈ (Text.words literal.toList).map String.ofList := by simp [hwords]
    obtain ⟨cs, hcs, rfl⟩ := List.mem_map.1 hmem
    refine Atomic.not_overflows_of_short ?_ hlong
    rw [String.toList_ofList]
    exact h.of_isInfix (Text.isInfix_of_mem_words hcs)

end Schema

/-- Neither the text nor one of its words is a duration that is too long to count. -/
def IsCountable (text : String) : Prop :=
  ∀ word ∈ text :: (Text.words text.toList).map String.ofList, ¬Atomic.Overflows .duration word

instance (text : String) : Decidable (IsCountable text) :=
  inferInstanceAs (Decidable (∀ _ ∈ _, _))

theorem isUncountable_iff {text : String} : isUncountable text ↔ ¬IsCountable text := by
  simp only [isUncountable, IsCountable, List.any_eq_true, not_forall, not_not, exists_prop]
  refine exists_congr fun word => and_congr_right fun _ => ?_
  rw [← not_iff_not, ← Atomic.exists_read_iff]
  cases Atomic.read .duration word <;> simp [Except.isOk, Except.toBool]

theorem isCountable_of_short {text : String} (h : Text.Short text.toList) : IsCountable text := by
  refine List.forall_mem_cons.2 ⟨Atomic.not_overflows_of_short h, ?_⟩
  rw [List.forall_mem_map]
  intro word hword
  refine Atomic.not_overflows_of_short ?_
  rw [String.toList_ofList]
  exact h.of_isInfix (Text.isInfix_of_mem_words hword)

/-- A literal is given up only as a duration whose parts overflow, and for a list in a word of it
that is reached. Unless a literal that is mentioned does so, a compilation gives a result, whatever
its declarations are. No literal with at most eleven digits in a row is given up. -/
theorem reading_ends (k : Kind) (s : Schema) (id : TypeId) (literal : String)
    (namespaces : List NamespaceDecl) (limits : Limits) :
    ((∃ o, Atomic.read k literal = .ok o) ↔ ¬Atomic.Overflows k literal) ∧
    ((∃ o, s.readValue id literal = .ok o) ↔ ¬s.Overflows id literal) ∧
    ((∀ scope text, (Catalog.ofNamespaces namespaces).1.Mentions scope (.literal text) →
      IsCountable text) → ∃ r, compile namespaces limits = .ok r) ∧
    (Text.Short literal.toList →
      ¬Atomic.Overflows k literal ∧ ¬s.Overflows id literal ∧ IsCountable literal) := by
  refine ⟨Atomic.exists_read_iff, Schema.exists_readValue_iff, fun h => ?_, fun h =>
    ⟨Atomic.not_overflows_of_short h, Schema.not_overflows_of_short h, isCountable_of_short h⟩⟩
  refine exists_of_compile limits ?_
  rintro ⟨scope, text, hmentions, hlong⟩
  exact isUncountable_iff.1 hlong (h scope text hmentions)

/-- Lists of durations, and an attribute with a duration as its default value. -/
def journeys (literal : String) : List NamespaceDecl :=
  [{ uri := "urn:journeys"
     members := [
      .type { name := ⟨"Legs", none⟩, body := .list (.ofText "Duration") },
      .attr { name := ⟨"longest", none⟩, type := .ofText "Duration",
              defaultValue := some literal }] }]

/-- The literals that the declarations of a catalog mention. -/
def Catalog.literals (c : Catalog) : List String :=
  c.declarations.toList.flatMap fun d => d.member.mentions.filterMap fun
    | .literal text => some text
    | _ => none

theorem Catalog.mem_literals {c : Catalog} {scope : Scope} {text : String}
    (h : c.Mentions scope (.literal text)) : text ∈ c.literals := by
  obtain ⟨d, hd, -, hm⟩ := h
  exact List.mem_flatMap.2 ⟨d, Array.mem_toList_iff.2 hd, List.mem_filterMap.2 ⟨_, hm, rfl⟩⟩

/-- The greatest duration is read, by itself and behind a day in a list, and may be a default. -/
theorem longest_journey_ends :
    (∃ o, Atomic.read .duration "106751991167.07:12:55.807" = .ok o) ∧
    (∃ o, (schemaOf (journeys "00:00:00") {}).readValue ⟨22⟩ "1.0:0:0 106751991167.07:12:55.807" =
      .ok o) ∧
    ∃ r, compile (journeys "106751991167.07:12:55.807") {} = .ok r := by
  have hends := reading_ends .duration (schemaOf (journeys "00:00:00") {}) ⟨22⟩
  have hliterals :
      ∀ text ∈ (Catalog.ofNamespaces (journeys "106751991167.07:12:55.807")).1.literals,
        IsCountable text := by decide +kernel
  refine ⟨(hends _ [] {}).1.2 (by decide +kernel), (hends _ [] {}).2.1.2 (by decide +kernel),
    (hends "" _ {}).2.2.1 fun scope text hm => hliterals text (Catalog.mem_literals hm)⟩

/-- A duration of some more hours is given up, by itself, in a list and as a default. -/
theorem longer_journey_overflows :
    (¬∃ o, Atomic.read .duration "106751991168.00:00:00" = .ok o) ∧
    (¬∃ o, (schemaOf (journeys "00:00:00") {}).readValue ⟨22⟩ "1.0:0:0 106751991168.00:00:00" =
      .ok o) ∧
    ¬∃ r, compile (journeys "106751991168.00:00:00") {} = .ok r := by
  have hcompile : (compile (journeys "106751991168.00:00:00") {}).isOk = false := by decide +kernel
  refine ⟨?_, ?_, ?_⟩
  · rw [Atomic.exists_read_iff]
    decide +kernel
  · rw [Schema.exists_readValue_iff]
    decide +kernel
  · rintro ⟨r, hr⟩
    rw [hr] at hcompile
    cases hcompile

end Schemata
