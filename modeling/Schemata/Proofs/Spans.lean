import Schemata.Pattern.Basic

/-!
# Where matches end

`Pattern.ends` finds exactly the positions at which a match from one of the given ones ends
(`Pattern.mem_ends`). For a repetition this is a search by steps: exactly so many at first, and from
there on those positions again that are new. As a match never goes back, of a row of matches only
those count that go on, and these are not more than the text has characters. So a bound on the
number of steps does not cut off the search of an unbounded repetition.

A pattern between the two anchors is found in a text exactly if it matches the whole of it
(`Pattern.isFoundIn_anchored_iff`).
-/

namespace Schemata.Pattern

/-! ## Steps in a row -/

/-- `n` steps in a row lead from one position to another. -/
inductive Chain (R : Nat → Nat → Prop) : Nat → Nat → Nat → Prop
  | nil {i : Nat} : Chain R 0 i i
  | cons {n i j k : Nat} (step : R i j) (rest : Chain R n j k) : Chain R (n + 1) i k

namespace Chain

variable {R : Nat → Nat → Prop} {m n i j k : Nat}

theorem append (h : Chain R m i j) (h' : Chain R n j k) : Chain R (m + n) i k := by
  induction h with
  | nil => rwa [Nat.zero_add]
  | cons step _ ih =>
    rw [Nat.add_right_comm]
    exact .cons step (ih h')

theorem split (h : Chain R (m + n) i k) : ∃ j, Chain R m i j ∧ Chain R n j k := by
  induction m generalizing i with
  | zero => exact ⟨i, .nil, by rwa [Nat.zero_add] at h⟩
  | succ m ih =>
    rw [Nat.add_right_comm] at h
    cases h with
    | cons step rest =>
      obtain ⟨j, hj, hk⟩ := ih rest
      exact ⟨j, .cons step hj, hk⟩

theorem le (hR : ∀ i j, R i j → i ≤ j) (h : Chain R n i j) : i ≤ j := by
  induction h with
  | nil => exact Nat.le_refl _
  | cons step _ ih => exact Nat.le_trans (hR _ _ step) ih

/-- Steps that lead nowhere can be left out. -/
theorem shorten (hR : ∀ i j, R i j → i ≤ j) (h : Chain R n i j) : ∃ m ≤ j - i, Chain R m i j := by
  induction h with
  | nil => exact ⟨0, Nat.zero_le _, .nil⟩
  | @cons n i j k step rest ih =>
    obtain ⟨m, hm, hchain⟩ := ih
    have hjk := rest.le hR
    rcases Nat.eq_or_lt_of_le (hR i j step) with rfl | hij
    · exact ⟨m, hm, hchain⟩
    · exact ⟨m + 1, by omega, .cons step hchain⟩

end Chain

/-! ## The search -/

section Search

variable {R : Nat → Nat → Prop}

/-- Where every step from a position that was seen leads to one that was seen, unless it starts from
a fresh one, a row of steps leaves what was seen through a fresh one. -/
theorem seen_or_fresh {seen fresh : List Nat} {m i j : Nat}
    (hclosed : ∀ i ∈ seen, ∀ j, R i j → j ∈ seen ∨ i ∈ fresh) (hi : i ∈ seen)
    (h : Chain R m i j) : j ∈ seen ∨ ∃ i' ∈ fresh, ∃ m' ≤ m, Chain R m' i' j := by
  induction h with
  | nil => exact Or.inl hi
  | @cons n i i' j hi' hchain ih =>
    rcases hclosed i hi i' hi' with hseen | hfresh
    · refine (ih hseen).imp_right ?_
      rintro ⟨x, hx, m', hm', h⟩
      exact ⟨x, hx, m', Nat.le_succ_of_le hm', h⟩
    · exact Or.inr ⟨i, hfresh, n + 1, Nat.le_refl _, .cons hi' hchain⟩

variable {step : List Nat → List Nat} (hstep : ∀ here j, j ∈ step here ↔ ∃ i ∈ here, R i j)

include hstep

theorem mem_iterate {n j : Nat} {here : List Nat} :
    j ∈ iterate step n here ↔ ∃ i ∈ here, Chain R n i j := by
  induction n generalizing here with
  | zero =>
    refine ⟨fun h => ⟨j, h, .nil⟩, ?_⟩
    rintro ⟨i, hi, ⟨⟩⟩
    exact hi
  | succ n ih =>
    have hnext : (∃ i ∈ step here, Chain R n i j) ↔ ∃ i ∈ here, Chain R (n + 1) i j := by
      constructor
      · rintro ⟨i', hi', hchain⟩
        obtain ⟨i, hi, hi'⟩ := (hstep here i').1 hi'
        exact ⟨i, hi, .cons hi' hchain⟩
      · rintro ⟨i, hi, hchain⟩
        cases hchain with
        | cons hi' hchain => exact ⟨_, (hstep here _).2 ⟨i, hi, hi'⟩, hchain⟩
    unfold iterate
    dsimp only
    split
    · rename_i hsame
      have hsame : step here = here := by simpa using hsame
      -- positions that a step keeps are kept by any number of steps
      have hkept : ∀ m, iterate step m here = here := fun m => by
        cases m with
        | zero => rfl
        | succ m => simp [iterate, hsame]
      rw [← hnext, hsame, ← ih, hkept]
    · rw [ih, hnext]

theorem mem_reach {n j : Nat} {seen fresh : List Nat} (hfresh : fresh ⊆ seen)
    (hclosed : ∀ i ∈ seen, ∀ j, R i j → j ∈ seen ∨ i ∈ fresh) :
    j ∈ reach step n seen fresh ↔ j ∈ seen ∨ ∃ i ∈ fresh, ∃ m ≤ n, Chain R m i j := by
  induction n generalizing seen fresh with
  | zero =>
    refine ⟨Or.inl, fun h => h.elim id ?_⟩
    rintro ⟨i, hi, m, hm, hchain⟩
    cases Nat.le_zero.1 hm
    cases hchain
    exact hfresh hi
  | succ n ih =>
    unfold reach
    extract_lets next
    have hnext : ∀ j, j ∈ next ↔ (∃ i ∈ fresh, R i j) ∧ j ∉ seen := by
      intro j
      simp [next, hstep]
    have hnew : ∀ i ∈ seen, ∀ j, R i j → j ∈ seen ++ next := by
      intro i hi j hij
      by_cases hj : j ∈ seen
      · exact List.mem_append_left _ hj
      · refine List.mem_append_right _ ((hnext j).2 ⟨⟨i, ?_, hij⟩, hj⟩)
        exact (hclosed i hi j hij).resolve_left hj
    split
    · rename_i hempty
      rw [List.isEmpty_iff.1 hempty] at hnew
      simp only [List.append_nil] at hnew
      refine ⟨Or.inl, fun h => h.elim id ?_⟩
      rintro ⟨i, hi, m, -, hchain⟩
      refine (@seen_or_fresh R seen [] m i j (fun i hi j hij => Or.inl (hnew i hi j hij))
        (hfresh hi) hchain).resolve_right ?_
      rintro ⟨_, h, -⟩
      cases h
    · have hclosed' : ∀ i ∈ seen ++ next, ∀ j, R i j → j ∈ seen ++ next ∨ i ∈ next := by
        intro i hi j hij
        exact (List.mem_append.1 hi).imp (fun hi => hnew i hi j hij) id
      rw [ih (List.subset_append_right _ _) hclosed']
      constructor
      · rintro (hj | ⟨i', hi', m, hm, hchain⟩)
        · rcases List.mem_append.1 hj with hj | hj
          · exact Or.inl hj
          · obtain ⟨⟨i, hi, hij⟩, -⟩ := (hnext j).1 hj
            exact Or.inr ⟨i, hi, 1, by omega, .cons hij .nil⟩
        · obtain ⟨⟨i, hi, hii'⟩, -⟩ := (hnext i').1 hi'
          exact Or.inr ⟨i, hi, m + 1, by omega, .cons hii' hchain⟩
      · rintro (hj | ⟨i, hi, m, hm, hchain⟩)
        · exact Or.inl (List.mem_append_left _ hj)
        · cases hchain with
          | nil => exact Or.inl (List.mem_append_left _ (hfresh hi))
          | @cons m _ i' _ hii' hchain =>
            refine (seen_or_fresh hclosed' (hnew i (hfresh hi) i' hii') hchain).imp_right ?_
            rintro ⟨x, hx, m', hm', h⟩
            exact ⟨x, hx, m', by omega, h⟩

end Search

/-! ## Matches -/

section Matches

variable {text : Array Char} {p q : Pattern} {i j : Nat}

/-- A match does not go back, and not beyond the text. -/
theorem Spans.bounds (h : Spans text p i j) : i ≤ j ∧ j ≤ max i text.size := by
  induction h with
  | empty | assertion | stop => omega
  | @char s i c hc =>
    obtain ⟨hi, -⟩ := Array.getElem?_eq_some_iff.1 hc
    omega
  | left _ ih | right _ ih => exact ih
  | concat _ _ ih ih' => omega
  | again _ _ _ ih ih' => omega

theorem spans_empty_iff : Spans text .empty i j ↔ i = j := by
  refine ⟨fun h => by cases h; rfl, ?_⟩
  rintro rfl
  exact .empty

theorem spans_char_iff {s : CharSet} :
    Spans text (.char s) i j ↔ (text[i]?.any s.contains) ∧ i + 1 = j := by
  constructor
  · intro h
    cases h with
    | char hc hs => simp [hc, hs]
  · rintro ⟨h, rfl⟩
    obtain ⟨c, hc, hs⟩ := (Option.any_eq_true _ _).1 h
    exact .char hc hs

theorem spans_assertion_iff {a : Assertion} :
    Spans text (.assertion a) i j ↔ a.holds text i ∧ i = j := by
  constructor
  · intro h
    cases h with
    | assertion h => exact ⟨h, rfl⟩
  · rintro ⟨h, rfl⟩
    exact .assertion h

theorem spans_concat_iff :
    Spans text (.concat p q) i j ↔ ∃ k, Spans text p i k ∧ Spans text q k j := by
  constructor
  · intro h
    cases h with
    | concat hp hq => exact ⟨_, hp, hq⟩
  · rintro ⟨k, hp, hq⟩
    exact .concat hp hq

theorem spans_either_iff : Spans text (.either p q) i j ↔ Spans text p i j ∨ Spans text q i j := by
  constructor
  · intro h
    cases h with
    | left h => exact Or.inl h
    | right h => exact Or.inr h
  · rintro (h | h)
    · exact .left h
    · exact .right h

/-- A repetition is so many matches in a row. -/
theorem spans_times_iff {least : Nat} {most : Option Nat} :
    Spans text (.times p least most) i j ↔
      ∃ n, least ≤ n ∧ (∀ m ∈ most, n ≤ max least m) ∧ Chain (Spans text p) n i j := by
  constructor
  · intro h
    generalize hr : Pattern.times p least most = r at h
    induction h generalizing least most with
    | stop =>
      cases hr
      exact ⟨0, Nat.le_refl _, fun m _ => Nat.zero_le _, .nil⟩
    | @again p least most i j k hm hp _ _ ih =>
      cases hr
      obtain ⟨n, hn, hmost, hchain⟩ := ih rfl
      refine ⟨n + 1, by omega, fun m hmem => ?_, .cons hp hchain⟩
      cases hmem
      have hle := hmost (m - 1) rfl
      have hpos : 0 < least ∨ m ≠ 0 := by simpa using hm
      omega
    | _ => cases hr
  · rintro ⟨n, hn, hmost, hchain⟩
    induction hchain generalizing least most with
    | nil =>
      cases Nat.le_zero.1 hn
      exact .stop
    | @cons n i j k hp _ ih =>
      by_cases hleast : least = 0
      · subst hleast
        refine .again (Or.inr ?_) hp (ih (Nat.zero_le _) fun m hm => ?_)
        · rintro rfl
          have := hmost 0 rfl
          omega
        · obtain ⟨m', hm', rfl⟩ := Option.map_eq_some_iff.1 hm
          have := hmost m' hm'
          omega
      · refine .again (Or.inl (by omega)) hp (ih (by omega) fun m hm => ?_)
        obtain ⟨m', hm', rfl⟩ := Option.map_eq_some_iff.1 hm
        have := hmost m' hm'
        omega

/-- The positions that are found are those at which a match ends. -/
theorem mem_ends {starts : List Nat} :
    j ∈ ends text p starts ↔ ∃ i ∈ starts, Spans text p i j := by
  induction p generalizing starts j with
  | empty => simp [ends, spans_empty_iff]
  | char s =>
    simp only [ends, List.mem_filterMap, spans_char_iff]
    refine exists_congr fun i => and_congr_right fun _ => ?_
    split <;> simp_all
  | assertion a => simp [ends, spans_assertion_iff]
  | concat p q hp hq =>
    simp only [ends, hq, hp, spans_concat_iff]
    constructor
    · rintro ⟨k, ⟨i, hi, hik⟩, hkj⟩
      exact ⟨i, hi, k, hik, hkj⟩
    · rintro ⟨i, hi, k, hik, hkj⟩
      exact ⟨k, ⟨i, hi, hik⟩, hkj⟩
  | either p q hp hq =>
    have hmem : j ∈ ends text (.either p q) starts ↔
        j ∈ ends text p starts ∨ j ∈ ends text q starts := by
      by_cases hj : j ∈ ends text p starts <;> simp [ends, hj]
    simp only [hmem, hp, hq, spans_either_iff, and_or_left, exists_or]
  | times p least most hp =>
    have hstep : ∀ here j, j ∈ ends text p here ↔ ∃ i ∈ here, Spans text p i j :=
      fun here j => hp
    unfold ends
    extract_lets first more
    rw [mem_reach hstep (fun _ h => h) fun i hi _ _ => Or.inr hi]
    have hfirst : ∀ i, i ∈ first ↔ ∃ i₀ ∈ starts, Chain (Spans text p) least i₀ i :=
      fun i => mem_iterate hstep
    constructor
    · intro h
      obtain ⟨i, hi, m, hm, hchain⟩ : ∃ i ∈ first, ∃ m ≤ more, Chain (Spans text p) m i j :=
        h.elim (fun hj => ⟨j, hj, 0, Nat.zero_le _, .nil⟩) id
      obtain ⟨i₀, hi₀, hleast⟩ := (hfirst i).1 hi
      refine ⟨i₀, hi₀, spans_times_iff.2 ⟨least + m, Nat.le_add_right _ _, fun b hb => ?_,
        hleast.append hchain⟩⟩
      have hmore : more = b - least := by
        unfold more
        rw [hb]
      omega
    · rintro ⟨i₀, hi₀, h⟩
      obtain ⟨n, hn, hmost, hchain⟩ := spans_times_iff.1 h
      obtain ⟨m, rfl⟩ := Nat.exists_eq_add_of_le hn
      obtain ⟨i, hleast, hrest⟩ := hchain.split
      refine Or.inr ⟨i, (hfirst i).2 ⟨i₀, hi₀, hleast⟩, ?_⟩
      cases hb : most with
      | some b =>
        have hmore : more = b - least := by
          unfold more
          rw [hb]
        have := hmost b hb
        exact ⟨m, by omega, hrest⟩
      | none =>
        have hmore : more = text.size + 1 := by
          unfold more
          rw [hb]
        obtain ⟨m', hm', hshort⟩ := hrest.shorten fun _ _ h => h.bounds.1
        have hbounds : Spans text (.times p 0 none) i j :=
          spans_times_iff.2 ⟨m, Nat.zero_le _, fun _ h => (by cases h), hrest⟩
        have := hbounds.bounds
        exact ⟨m', by omega, hshort⟩

theorem holds_textStart_iff (hi : i ≤ text.size) :
    Assertion.textStart.holds text i ↔ i = 0 := by
  cases i with
  | zero => exact iff_of_true rfl rfl
  | succ i =>
    have hsome : text[i]? = some text[i] := Array.getElem?_eq_getElem hi
    simp [Assertion.holds, Assertion.holdsBetween, Assertion.charBefore, hsome]

theorem holds_textEnd_iff (hj : j ≤ text.size) :
    Assertion.textEnd.holds text j ↔ j = text.size := by
  simp only [Assertion.holds, Assertion.holdsBetween, Option.isNone_iff_eq_none,
    Array.getElem?_eq_none_iff]
  omega

theorem isFoundIn_iff : p.isFoundIn text ↔ ∃ i ≤ text.size, ∃ j, Spans text p i j := by
  simp only [isFoundIn, Bool.not_eq_true', List.isEmpty_eq_false_iff_exists_mem, mem_ends,
    List.mem_range, Nat.lt_succ_iff]
  constructor
  · rintro ⟨j, i, hi, h⟩
    exact ⟨i, hi, j, h⟩
  · rintro ⟨i, hi, j, h⟩
    exact ⟨j, i, hi, h⟩

/-- A match between the start of the text and its end is one of the whole text. -/
theorem isFoundIn_anchored_iff :
    (concat (.assertion .textStart) (.concat p (.assertion .textEnd))).isFoundIn text ↔
      Spans text p 0 text.size := by
  simp only [isFoundIn_iff, spans_concat_iff, spans_assertion_iff]
  constructor
  · rintro ⟨i, hi, j, _, ⟨hstart, rfl⟩, _, h, hend, rfl⟩
    obtain rfl := (holds_textStart_iff hi).1 hstart
    have := h.bounds
    obtain rfl := (holds_textEnd_iff (by omega)).1 hend
    exact h
  · intro h
    exact ⟨0, Nat.zero_le _, text.size, 0, ⟨rfl, rfl⟩, text.size, h,
      (holds_textEnd_iff (Nat.le_refl _)).2 rfl, rfl⟩

end Matches

end Schemata.Pattern
