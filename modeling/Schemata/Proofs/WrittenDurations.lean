import Mathlib.Algebra.Order.BigOperators.Group.List
import Schemata.Proofs.DigitTexts
import Schemata.Value.Duration

/-!
# Durations that were written

Reading a written duration gives the duration (`Duration.read_text`). The parts that are read are
those that the magnitude was taken apart into (`Duration.readParts_clockText`), none of them is
negative, and so no sum of them on the way is greater than the duration itself.
-/

namespace Schemata.Duration

/-! ## Parts -/

theorem readPart_of_natural? {cs : List Char} {n : Nat} (h : Text.natural? cs = some n)
    (hn : n < 1 <<< 63) : readPart cs = some (n : Int) := by
  obtain ⟨hne, hdigit, -⟩ := Text.natural?_eq_some.1 h
  obtain ⟨c, cs, rfl⟩ := List.exists_cons_of_ne_nil hne
  have hc := hdigit c List.mem_cons_self
  have hrange : IntegerKind.int64.least ≤ n ∧ (n : Int) ≤ IntegerKind.int64.greatest := by
    constructor
    · exact Int.le_trans (by decide) (Int.natCast_nonneg n)
    · exact Int.le_trans (Int.ofNat_le.2 (Nat.le_pred_of_lt hn)) (by decide)
  unfold readPart
  split
  · rename_i heq
    cases heq
    cases hc
  · rename_i heq
    cases heq
    cases hc
  · simp [h, hrange]

theorem splitFirst_append {mark : Char} {first : List Char} (h : mark ∉ first) (rest : List Char) :
    splitFirst mark (first ++ mark :: rest) = (first, some rest) := by
  have hne : ∀ c ∈ first, (c != mark) = true := fun c hc => by
    rw [bne_iff_ne]
    rintro rfl
    exact h hc
  rw [splitFirst, List.dropWhile_append_of_pos hne, List.takeWhile_append_of_pos hne,
    List.dropWhile_cons_of_neg (by simp), List.takeWhile_cons_of_neg (by simp), List.append_nil]

theorem splitFirst_of_not_mem {mark : Char} {cs : List Char} (h : mark ∉ cs) :
    splitFirst mark cs = (cs, none) := by
  have hdrop : cs.dropWhile (· != mark) = [] := by
    rw [List.dropWhile_eq_nil_iff]
    intro c hc
    rw [bne_iff_ne]
    rintro rfl
    exact h hc
  rw [splitFirst, hdrop]

/-- The zeros that are left out of a fraction are put back. -/
theorem readFraction_dropZeroEnd {n : Nat} (h : n < 10 ^ 9) (hn : n ≠ 0) :
    readFraction (Text.dropZeroEnd (Text.padded 9 n)) = some (n : Int) := by
  obtain ⟨k, hk⟩ := Text.exists_dropZeroEnd (Text.padded 9 n)
  have hlength := Text.length_padded (by decide) h
  have hvalue := Text.digitsValue_padded 9 n
  have hdigit : ∀ c ∈ Text.padded 9 n, c.isDigit := fun _ => Text.isDigit_of_mem_padded
  generalize Text.dropZeroEnd (Text.padded 9 n) = kept at hk ⊢
  rw [hk, List.length_append, List.length_replicate] at hlength
  rw [hk, Text.digitsValue_append_digits, Text.digitsValue_replicate_zero, List.length_replicate,
    Nat.add_zero] at hvalue
  have hne : kept ≠ [] := by
    rintro rfl
    exact hn (by simpa [Text.digitsValue] using hvalue.symm)
  have hnatural : Text.natural? kept = some (Text.digitsValue kept) :=
    Text.natural?_eq_some.2 ⟨hne, fun c hc => hdigit c (hk ▸ List.mem_append_left _ hc), rfl⟩
  rw [readFraction, if_neg (by omega), hnatural, show 9 - kept.length = k by omega]
  exact congrArg (fun n : Nat => some (n : Int)) hvalue

/-! ## Sums -/

theorem exists_ofNanoseconds? {n : Int} (hn : 0 ≤ n) {d : Duration} (h : n ≤ d.nanoseconds) :
    ∃ x : Duration, ofNanoseconds? n = some x ∧ x.nanoseconds = n := by
  have := d.natAbs_le
  exact ⟨_, dif_pos (by omega), rfl⟩

/-- Parts that are not negative add up if their sum is a duration. -/
theorem sum?_of_nonneg {total d : Duration} {parts : List Int} (ht : 0 ≤ total.nanoseconds)
    (hparts : ∀ part ∈ parts, 0 ≤ part) (h : total.nanoseconds + parts.sum = d.nanoseconds) :
    sum? total parts = some d := by
  induction parts generalizing total with
  | nil =>
    rw [List.sum_nil, Int.add_zero] at h
    cases total
    cases d
    cases h
    rfl
  | cons part parts ih =>
    obtain ⟨hpart, hrest⟩ := List.forall_mem_cons.1 hparts
    have hsum := List.sum_nonneg hrest
    rw [List.sum_cons] at h
    obtain ⟨x, hx, -⟩ := exists_ofNanoseconds? hpart (d := d) (by omega)
    obtain ⟨next, hnext, hvalue⟩ :=
      exists_ofNanoseconds? (n := total.nanoseconds + part) (d := d) (by omega) (by omega)
    simp only [sum?, hx, hnext, Option.bind_eq_bind, Option.bind_some]
    exact ih (by omega) hrest (by omega)

/-! ## Written durations -/

/-- The written form of the parts of a duration, without the sign. -/
def clockText (days hours minutes seconds nanoseconds : Nat) : List Char :=
  ((if days = 0 then [] else Nat.toDigits 10 days ++ ['.']) ++ Text.padded 2 hours) ++
    ':' :: (Text.padded 2 minutes ++ ':' :: (Text.padded 2 seconds ++
      if nanoseconds = 0 then [] else '.' :: Text.dropZeroEnd (Text.padded 9 nanoseconds)))

/-- The nanoseconds of the parts of a duration. -/
def clockParts (days hours minutes seconds nanoseconds : Nat) : List Int :=
  [(days : Int) * 86400000000000, (hours : Int) * 3600000000000, (minutes : Int) * 60000000000,
    (seconds : Int) * 1000000000, (nanoseconds : Int)]

theorem text_eq (d : Duration) :
    d.text = (if d.nanoseconds < 0 then ['-'] else []) ++
      let seconds := d.nanoseconds.natAbs / 1000000000
      clockText (seconds / 86400) (seconds / 3600 % 24) (seconds / 60 % 60) (seconds % 60)
        (d.nanoseconds.natAbs % 1000000000) := by
  simp only [text, clockText, List.append_assoc, List.cons_append]

/-- The parts of a written duration are read back. -/
theorem readParts_clockText {days hours minutes seconds nanoseconds : Nat} (hd : days < 1 <<< 63)
    (hh : hours < 24) (hm : minutes < 60) (hs : seconds < 60) (hn : nanoseconds < 10 ^ 9) :
    readParts (clockText days hours minutes seconds nanoseconds) =
      some (clockParts days hours minutes seconds nanoseconds) := by
  have hpart : readPart (Nat.toDigits 10 days) = some (days : Int) :=
    readPart_of_natural? (Text.natural?_toDigits _) hd
  have hpadded : ∀ n < 60, readPart (Text.padded 2 n) = some (n : Int) := fun n hn =>
    readPart_of_natural? (Text.natural?_padded 2 n) (by omega)
  have hdays : ':' ∉ Nat.toDigits 10 days := Text.not_mem_toDigits (by decide) days
  have hpoint : '.' ∉ Nat.toDigits 10 days := Text.not_mem_toDigits (by decide) days
  have hcolon : ∀ n, ':' ∉ Text.padded 2 n := Text.not_mem_padded (by decide) 2
  have hpaddedPoint : ∀ n, '.' ∉ Text.padded 2 n := Text.not_mem_padded (by decide) 2
  have hfirst : ':' ∉ (if days = 0 then [] else Nat.toDigits 10 days ++ ['.']) ++
      Text.padded 2 hours := by
    split <;> simp [hdays, hcolon]
  have hclock : (hours : Int) ≤ 23 ∧ (minutes : Int) ≤ 59 ∧ (seconds : Int) ≤ 59 := by omega
  -- what stands before the first colon and what stands behind the last one
  have hfront : splitFirst '.' ((if days = 0 then [] else Nat.toDigits 10 days ++ ['.']) ++
      Text.padded 2 hours) = if days = 0 then (Text.padded 2 hours, none)
      else (Nat.toDigits 10 days, some (Text.padded 2 hours)) := by
    split
    · exact splitFirst_of_not_mem (hpaddedPoint hours)
    · rw [List.append_assoc, List.singleton_append, splitFirst_append hpoint]
  have hback : splitFirst '.' (Text.padded 2 seconds ++ if nanoseconds = 0 then []
      else '.' :: Text.dropZeroEnd (Text.padded 9 nanoseconds)) = if nanoseconds = 0
      then (Text.padded 2 seconds, none)
      else (Text.padded 2 seconds, some (Text.dropZeroEnd (Text.padded 9 nanoseconds))) := by
    split
    · rw [List.append_nil, splitFirst_of_not_mem (hpaddedPoint seconds)]
    · exact splitFirst_append (hpaddedPoint seconds) _
  simp only [readParts, clockText, splitFirst_append hfirst, splitFirst_append (hcolon _),
    hfront, hback, Option.bind_eq_bind, Option.bind_some]
  by_cases hzero : days = 0 <;> by_cases hnone : nanoseconds = 0 <;>
    simp [hzero, hnone, hpart, hpadded hours (by omega), hpadded minutes hm, hpadded seconds hs,
      readFraction_dropZeroEnd hn, hclock, clockParts]

theorem exists_digit_clockText (days hours minutes seconds nanoseconds : Nat) :
    ∃ c cs, clockText days hours minutes seconds nanoseconds = c :: cs ∧ c.isDigit := by
  rw [clockText, List.append_assoc]
  split
  · obtain ⟨c, cs, hcs⟩ := List.exists_cons_of_ne_nil (Text.padded_ne_nil 2 hours)
    have hc : c.isDigit := Text.isDigit_of_mem_padded (hcs ▸ List.mem_cons_self)
    rw [hcs]
    exact ⟨c, _, rfl, hc⟩
  · obtain ⟨c, cs, hcs⟩ := List.exists_cons_of_ne_nil (Nat.toDigits_ne_nil (n := days) (b := 10))
    have hc : c.isDigit := Text.isDigit_of_mem_toDigits (hcs ▸ List.mem_cons_self)
    rw [hcs]
    exact ⟨c, _, rfl, hc⟩

theorem read_of_readParts (negative : Bool) {c : Char} (hc : c.isDigit) {cs : List Char}
    {parts : List Int} (hparts : readParts (c :: cs) = some parts) {d : Duration}
    (hsum : sum? ⟨0, by decide⟩ parts = some d) :
    read ((if negative then ['-'] else []) ++ c :: cs) =
      .ok (some (if negative then d.neg else d)) := by
  cases negative with
  | true => simp [read, hparts, hsum]
  | false =>
    have hminus : (c == '-') = false := Text.beq_eq_false_of_isDigit hc (by decide)
    simp [read, hminus, hparts, hsum]

/-- Parts that make up a duration are read as that duration, or as its opposite after a minus. -/
theorem read_clockText (negative : Bool) {days hours minutes seconds nanoseconds : Nat}
    (hd : days < 1 <<< 63) (hh : hours < 24) (hm : minutes < 60) (hs : seconds < 60)
    (hn : nanoseconds < 10 ^ 9) {d : Duration}
    (h : (clockParts days hours minutes seconds nanoseconds).sum = d.nanoseconds) :
    read ((if negative then ['-'] else []) ++ clockText days hours minutes seconds nanoseconds) =
      .ok (some (if negative then d.neg else d)) := by
  have hparts := readParts_clockText hd hh hm hs hn
  have hnonneg : ∀ part ∈ clockParts days hours minutes seconds nanoseconds, 0 ≤ part := by
    intro part hpart
    simp only [clockParts, List.mem_cons, List.not_mem_nil, or_false] at hpart
    omega
  obtain ⟨c, cs, hcs, hc⟩ := exists_digit_clockText days hours minutes seconds nanoseconds
  rw [hcs] at hparts ⊢
  exact read_of_readParts negative hc hparts
    (sum?_of_nonneg (le_refl 0) hnonneg (by rw [h, Int.zero_add]))

/-- Reading a written duration gives the duration. -/
theorem read_text (d : Duration) : read d.text = .ok (some d) := by
  -- the sign apart, what is read is the duration of as many nanoseconds forward
  have hbound := d.natAbs_le
  let magnitude : Duration := ⟨d.nanoseconds.natAbs, by rwa [Int.natAbs_natCast]⟩
  let seconds := d.nanoseconds.natAbs / 1000000000
  have hsum : (clockParts (seconds / 86400) (seconds / 3600 % 24) (seconds / 60 % 60) (seconds % 60)
      (d.nanoseconds.natAbs % 1000000000)).sum = magnitude.nanoseconds := by
    simp only [clockParts, List.sum_cons, List.sum_nil, magnitude, seconds]
    omega
  have hread := read_clockText (decide (d.nanoseconds < 0)) (by omega) (by omega) (by omega)
    (by omega) (by omega) hsum
  simp only [decide_eq_true_eq] at hread
  rw [text_eq, hread]
  split
  · rename_i hneg
    have hvalue : -((d.nanoseconds.natAbs : Nat) : Int) = d.nanoseconds := by omega
    simp only [neg, magnitude, hvalue]
  · rename_i hpos
    have hvalue : ((d.nanoseconds.natAbs : Nat) : Int) = d.nanoseconds := by omega
    simp only [magnitude, hvalue]

theorem isVisible_clockText (days hours minutes seconds nanoseconds : Nat) :
    ∀ c ∈ clockText days hours minutes seconds nanoseconds, Text.IsVisible c := by
  have hpoint : Text.IsVisible '.' := by decide
  have hcolon : Text.IsVisible ':' := by decide
  have hpadded := Text.isVisible_padded 2
  have hdays : ∀ c ∈ (if days = 0 then [] else Nat.toDigits 10 days ++ ['.']),
      Text.IsVisible c := by
    split
    · exact List.forall_mem_nil _
    · exact List.forall_mem_append.2
        ⟨Text.isVisible_toDigits days, List.forall_mem_singleton.2 hpoint⟩
  have hfraction : ∀ c ∈ (if nanoseconds = 0 then []
      else '.' :: Text.dropZeroEnd (Text.padded 9 nanoseconds)), Text.IsVisible c := by
    split
    · exact List.forall_mem_nil _
    · exact List.forall_mem_cons.2 ⟨hpoint, Text.isVisible_dropZeroEnd (Text.isVisible_padded 9 _)⟩
  simp only [clockText, List.forall_mem_append, List.forall_mem_cons]
  exact ⟨⟨hdays, hpadded hours⟩, hcolon, hpadded minutes, hcolon, hpadded seconds, hfraction⟩

theorem isVisible_text (d : Duration) : ∀ c ∈ d.text, Text.IsVisible c := by
  have hminus : Text.IsVisible '-' := by decide
  rw [text_eq]
  refine List.forall_mem_append.2 ⟨?_, isVisible_clockText _ _ _ _ _⟩
  split
  · exact List.forall_mem_singleton.2 hminus
  · exact List.forall_mem_nil _

end Schemata.Duration
