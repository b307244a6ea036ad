import Mathlib.Data.List.TakeWhile
import Schemata.Proofs.DigitTexts
import Schemata.Value.Moment

/-!
# Moments that were written

Reading a written moment gives the moment (`Moment.read?_text`) if its parts are within the bounds
of a calendar and a clock, as those of every moment that was read are (`Moment.regular_of_read?`). A
leap second is written as second 60 and goes back to second 59.
-/

namespace Schemata.Moment

/-! ## Moments that are read -/

/-- The parts of a moment are within the bounds of a calendar and a clock. Only second 59 may be a
leap second. -/
structure Regular (m : Moment) : Prop where
  year : m.year < 10 ^ 4
  month : 1 ≤ m.month ∧ m.month ≤ 12
  day : 1 ≤ m.day ∧ m.day ≤ daysInMonth m.year m.month
  hour : m.hour ≤ 23
  minute : m.minute ≤ 59
  second : m.second ≤ 59
  nanosecond : m.nanosecond < 1000000000 ∨ m.second = 59 ∧ m.nanosecond < 2000000000
  offset : m.offset.natAbs ≤ 23 * 60 + 59

theorem lt_of_takeDigits {n v : Nat} {cs rest : List Char} (h : takeDigits n cs = some (v, rest)) :
    v < 10 ^ n := by
  unfold takeDigits at h
  extract_lets ds at h
  split at h
  · rename_i hlength
    obtain ⟨v', hv, heq⟩ := Option.map_eq_some_iff.1 h
    obtain ⟨-, hdigit, rfl⟩ := Text.natural?_eq_some.1 hv
    cases heq
    exact hlength ▸ Text.digitsValue_lt hdigit
  · cases h

theorem lt_of_takeFraction {n : Nat} {cs rest : List Char}
    (h : takeFraction cs = some (n, rest)) : n < 1000000000 := by
  unfold takeFraction at h
  extract_lets ds at h
  split at h
  · cases h
  · cases h
    have hdigit : ∀ c ∈ ds.take 9, c.isDigit := fun c hc =>
      List.mem_takeWhile_imp (List.mem_of_mem_take hc)
    have hlt := Text.digitsValue_lt hdigit
    have hwidth : (ds.take 9).length + (9 - ds.length) = 9 := by
      rw [List.length_take]
      omega
    calc Text.digitsValue (ds.take 9) * Nat.pow 10 (9 - ds.length)
        < 10 ^ (ds.take 9).length * 10 ^ (9 - ds.length) :=
          Nat.mul_lt_mul_of_pos_right hlt (Nat.pow_pos (by decide))
      _ = 1000000000 := by rw [← Nat.pow_add, hwidth]

theorem natAbs_le_of_readOffset {cs : List Char} {offset : Int} (h : readOffset cs = some offset) :
    offset.natAbs ≤ 23 * 60 + 59 := by
  unfold readOffset at h
  split at h
  · cases h
    decide
  · cases h
    decide
  · extract_lets finish at h
    split at h
    · change finish _ = _ at h
      obtain ⟨⟨hours, cs⟩, -, h⟩ := Option.bind_eq_some_iff.1 h
      obtain ⟨cs, -, h⟩ := Option.bind_eq_some_iff.1 h
      obtain ⟨⟨minutes, cs⟩, -, h⟩ := Option.bind_eq_some_iff.1 h
      dsimp only at h
      split at h
      · rename_i hbounds
        simp only [Bool.and_eq_true, decide_eq_true_eq] at hbounds
        cases h
        split <;> omega
      · cases h
    · cases h
  · cases h

/-- The moment of some parts, if they are within bounds. -/
def ofParts? (year month day hour minute second nanosecond : Nat) (offset : Int) : Option Moment :=
  if 1 ≤ month ∧ month ≤ 12 ∧ 1 ≤ day ∧ day ≤ daysInMonth year month ∧
      hour ≤ 23 ∧ minute ≤ 59 ∧ second ≤ 60 then
    if second = 60 then
      some ⟨year, month, day, hour, minute, 59, nanosecond + 1000000000, offset⟩
    else some ⟨year, month, day, hour, minute, second, nanosecond, offset⟩
  else none

theorem regular_of_ofParts? {year month day hour minute second nanosecond : Nat} {offset : Int}
    {m : Moment} (hyear : year < 10 ^ 4) (hnanosecond : nanosecond < 1000000000)
    (hoffset : offset.natAbs ≤ 23 * 60 + 59)
    (h : ofParts? year month day hour minute second nanosecond offset = some m) : m.Regular := by
  unfold ofParts? at h
  split at h
  · rename_i hbounds
    obtain ⟨hmonth, hmonth', hday, hday', hhour, hminute, hsecond⟩ := hbounds
    split at h
    all_goals cases h
    · exact ⟨hyear, ⟨hmonth, hmonth'⟩, ⟨hday, hday'⟩, hhour, hminute, le_refl 59,
        .inr ⟨rfl, Nat.add_lt_add_right hnanosecond _⟩, hoffset⟩
    · rename_i hne
      exact ⟨hyear, ⟨hmonth, hmonth'⟩, ⟨hday, hday'⟩, hhour, hminute,
        Nat.le_of_lt_succ (lt_of_le_of_ne hsecond hne), .inl hnanosecond, hoffset⟩
  · cases h

/-- Every moment that is read is regular. -/
theorem regular_of_read? {cs : List Char} {m : Moment} (h : read? cs = some m) : m.Regular := by
  -- the fields in their order, with the marks between them
  obtain ⟨⟨year, cs⟩, hyear, h⟩ := Option.bind_eq_some_iff.1 h
  obtain ⟨cs, -, h⟩ := Option.bind_eq_some_iff.1 h
  obtain ⟨⟨month, cs⟩, -, h⟩ := Option.bind_eq_some_iff.1 h
  obtain ⟨cs, -, h⟩ := Option.bind_eq_some_iff.1 h
  obtain ⟨⟨day, cs⟩, -, h⟩ := Option.bind_eq_some_iff.1 h
  obtain ⟨cs, -, h⟩ := Option.bind_eq_some_iff.1 h
  obtain ⟨⟨hour, cs⟩, -, h⟩ := Option.bind_eq_some_iff.1 h
  obtain ⟨cs, -, h⟩ := Option.bind_eq_some_iff.1 h
  obtain ⟨⟨minute, cs⟩, -, h⟩ := Option.bind_eq_some_iff.1 h
  obtain ⟨cs, -, h⟩ := Option.bind_eq_some_iff.1 h
  obtain ⟨⟨second, cs⟩, -, h⟩ := Option.bind_eq_some_iff.1 h
  have hyearBound := lt_of_takeDigits hyear
  dsimp only at h
  split at h
  · obtain ⟨⟨nanosecond, cs⟩, hfraction, h⟩ := Option.bind_eq_some_iff.1 h
    obtain ⟨offset, hoffset, h⟩ := Option.bind_eq_some_iff.1 h
    exact regular_of_ofParts? hyearBound (lt_of_takeFraction hfraction)
      (natAbs_le_of_readOffset hoffset) h
  · obtain ⟨⟨nanosecond, cs⟩, hnone, h⟩ := Option.bind_eq_some_iff.1 h
    cases hnone
    obtain ⟨offset, hoffset, h⟩ := Option.bind_eq_some_iff.1 h
    exact regular_of_ofParts? hyearBound (Nat.zero_lt_succ _) (natAbs_le_of_readOffset hoffset) h

/-! ## Written moments -/

theorem takeDigits_padded {n v : Nat} (hn : 0 < n) (h : v < 10 ^ n) (rest : List Char) :
    takeDigits n (Text.padded n v ++ rest) = some (v, rest) := by
  have hlength := Text.length_padded hn h
  have htake : (Text.padded n v ++ rest).take n = Text.padded n v :=
    (List.take_append_of_le_length hlength.ge).trans (List.take_of_length_le hlength.le)
  rw [takeDigits, htake, if_pos hlength, Text.natural?_padded,
    List.drop_append_of_le_length hlength.ge, List.drop_of_length_le hlength.le]
  rfl

theorem skip_of_mem {marks : List Char} {c : Char} (h : c ∈ marks) (rest : List Char) :
    skip marks (c :: rest) = some rest := by
  rw [skip, if_pos (List.contains_iff_mem.2 h)]

/-- A written fraction of three, six or nine digits is read back. -/
theorem takeFraction_padded {w v : Nat} (hw : 0 < w) (hle : w ≤ 9) (h : v < 10 ^ w) {sign : Char}
    (hsign : sign.isDigit = false) (rest : List Char) :
    takeFraction (Text.padded w v ++ sign :: rest) =
      some (v * 10 ^ (9 - w), sign :: rest) := by
  have hdigit : ∀ c ∈ Text.padded w v, c.isDigit := fun _ => Text.isDigit_of_mem_padded
  have hlength := Text.length_padded hw h
  have htake : (Text.padded w v ++ sign :: rest).takeWhile Char.isDigit = Text.padded w v := by
    rw [List.takeWhile_append_of_pos hdigit, List.takeWhile_cons_of_neg (by simp [hsign]),
      List.append_nil]
  have hdrop : (Text.padded w v ++ sign :: rest).dropWhile Char.isDigit = sign :: rest := by
    rw [List.dropWhile_append_of_pos hdigit, List.dropWhile_cons_of_neg (by simp [hsign])]
  have hempty : (Text.padded w v).isEmpty = false := by
    simpa using Text.padded_ne_nil w v
  rw [takeFraction, htake, hdrop]
  simp only [hempty, hlength, List.take_of_length_le (hlength.trans_le hle),
    Text.digitsValue_padded, Bool.false_eq_true, if_false]
  rfl

theorem exists_takeFraction_fractionText {n : Nat} (hn : n ≠ 0) (h : n < 1000000000) {sign : Char}
    (hsign : sign.isDigit = false) (rest : List Char) :
    ∃ ds, fractionText n = '.' :: ds ∧
      takeFraction (ds ++ sign :: rest) = some (n, sign :: rest) := by
  rw [fractionText, if_neg hn]
  split
  · refine ⟨_, rfl, ?_⟩
    rw [takeFraction_padded (by decide) (by decide) (by omega) hsign]
    exact congrArg (fun n => some (n, sign :: rest)) (by omega)
  · split
    · refine ⟨_, rfl, ?_⟩
      rw [takeFraction_padded (by decide) (by decide) (by omega) hsign]
      exact congrArg (fun n => some (n, sign :: rest)) (by omega)
    · refine ⟨_, rfl, ?_⟩
      rw [takeFraction_padded (by decide) (by decide) h hsign]
      exact congrArg (fun n => some (n, sign :: rest)) (by omega)

/-- The written form of an offset. -/
def offsetText (offset : Int) : List Char :=
  (if offset < 0 then '-' else '+') :: (Text.padded 2 (offset.natAbs / 60) ++
    ':' :: Text.padded 2 (offset.natAbs % 60))

theorem text_eq (m : Moment) :
    m.text = Text.padded 4 m.year ++ '-' :: (Text.padded 2 m.month ++ '-' ::
      (Text.padded 2 m.day ++ 'T' :: (Text.padded 2 m.hour ++ ':' :: (Text.padded 2 m.minute ++
      ':' :: (Text.padded 2 (if m.nanosecond < 1000000000 then m.second else m.second + 1) ++
      (fractionText (m.nanosecond % 1000000000) ++ offsetText m.offset)))))) := by
  simp only [text, offsetText, List.append_assoc, List.cons_append]

theorem readOffset_sign {sign : Char} (h : sign ∈ ['+', '-']) {hours minutes : Nat}
    (hh : hours ≤ 23) (hm : minutes ≤ 59) :
    readOffset (sign :: (Text.padded 2 hours ++ ':' :: Text.padded 2 minutes)) =
      let offset : Int := hours * 60 + minutes
      some (if sign == '+' then offset else -offset) := by
  have hhours := takeDigits_padded (n := 2) (v := hours) (by decide) (by omega)
  have hminutes := takeDigits_padded (n := 2) (v := minutes) (by decide) (by omega) []
  rw [List.append_nil] at hminutes
  have hcolon : ∀ rest, skip [':'] (':' :: rest) = some rest := skip_of_mem List.mem_cons_self
  have hmark : ['+', '-', '\u2212'].contains sign := by
    simp only [List.mem_cons, List.not_mem_nil, or_false] at h
    rcases h with rfl | rfl <;> decide
  unfold readOffset
  split
  · rename_i heq
    simp at heq
  · rename_i heq
    simp at heq
  · rename_i heq
    obtain ⟨rfl, rfl⟩ := List.cons.inj heq
    rw [if_pos hmark]
    refine Option.bind_eq_some_iff.2 ⟨_, rfl, ?_⟩
    refine Option.bind_eq_some_iff.2 ⟨(hours, _), hhours _, ?_⟩
    refine Option.bind_eq_some_iff.2 ⟨_, hcolon _, ?_⟩
    refine Option.bind_eq_some_iff.2 ⟨(minutes, _), hminutes, ?_⟩
    simp only [List.isEmpty_nil, hh, hm, decide_true, Bool.and_self, if_true]
  · rename_i heq
    cases heq

/-- Reading a written offset gives the offset. -/
theorem readOffset_offsetText {offset : Int} (h : offset.natAbs ≤ 23 * 60 + 59) :
    readOffset (offsetText offset) = some offset := by
  unfold offsetText
  split
  · rw [readOffset_sign (by decide) (by omega) (by omega)]
    simp only [show ('-' == '+') = false by decide, Bool.false_eq_true, if_false, Option.some.injEq]
    omega
  · rw [readOffset_sign (by decide) (by omega) (by omega)]
    simp only [beq_self_eq_true, if_true, Option.some.injEq]
    omega

theorem Regular.day_le {m : Moment} (h : m.Regular) : m.day ≤ 31 := by
  refine h.day.2.trans ?_
  unfold daysInMonth
  split
  · split <;> decide
  · split <;> decide

/-- A second and the nanoseconds past it are kept in a way of their own if the second is a leap
second. -/
theorem Regular.ofParts?_eq {m : Moment} (h : m.Regular) :
    ofParts? m.year m.month m.day m.hour m.minute
      (if m.nanosecond < 1000000000 then m.second else m.second + 1) (m.nanosecond % 1000000000)
      m.offset = some m := by
  have hsecond := h.second
  have hnanosecond := h.nanosecond
  have hbound : (if m.nanosecond < 1000000000 then m.second else m.second + 1) ≤ 60 := by
    split <;> omega
  rw [ofParts?, if_pos ⟨h.month.1, h.month.2, h.day.1, h.day.2, h.hour, h.minute, hbound⟩]
  by_cases hlt : m.nanosecond < 1000000000
  · rw [if_pos hlt, if_neg (by omega), Nat.mod_eq_of_lt hlt]
  · have hleap : m.second = 59 := by omega
    have hrest : m.nanosecond % 1000000000 + 1000000000 = m.nanosecond := by omega
    rw [if_neg hlt, if_pos (by omega), hrest, ← hleap]

/-- Reading a written moment gives the moment. -/
theorem read?_text {m : Moment} (h : m.Regular) : read? m.text = some m := by
  have hcolon : ∀ rest, skip [':'] (':' :: rest) = some rest := skip_of_mem List.mem_cons_self
  have hdash : ∀ rest, skip ['-'] ('-' :: rest) = some rest := skip_of_mem List.mem_cons_self
  have hmark : ∀ rest, skip ['T', 't', ' '] ('T' :: rest) = some rest :=
    skip_of_mem List.mem_cons_self
  have hyear := takeDigits_padded (by decide) h.year
  have hpadded : ∀ {v}, v ≤ 60 → ∀ rest, takeDigits 2 (Text.padded 2 v ++ rest) = some (v, rest) :=
    fun hv => takeDigits_padded (by decide) (by omega)
  have hmonth := hpadded (h.month.2.trans (by decide))
  have hday := hpadded (h.day_le.trans (by decide))
  have hhour := hpadded (h.hour.trans (by decide))
  have hminute := hpadded (h.minute.trans (by decide))
  have hsecond : (if m.nanosecond < 1000000000 then m.second else m.second + 1) ≤ 60 := by
    have := h.second
    split <;> omega
  have hoffset := readOffset_offsetText h.offset
  rw [text_eq]
  -- every bind reads a field or the mark behind it
  refine Option.bind_eq_some_iff.2 ⟨(m.year, _), hyear _, ?_⟩
  refine Option.bind_eq_some_iff.2 ⟨_, hdash _, ?_⟩
  refine Option.bind_eq_some_iff.2 ⟨(m.month, _), hmonth _, ?_⟩
  refine Option.bind_eq_some_iff.2 ⟨_, hdash _, ?_⟩
  refine Option.bind_eq_some_iff.2 ⟨(m.day, _), hday _, ?_⟩
  refine Option.bind_eq_some_iff.2 ⟨_, hmark _, ?_⟩
  refine Option.bind_eq_some_iff.2 ⟨(m.hour, _), hhour _, ?_⟩
  refine Option.bind_eq_some_iff.2 ⟨_, hcolon _, ?_⟩
  refine Option.bind_eq_some_iff.2 ⟨(m.minute, _), hminute _, ?_⟩
  refine Option.bind_eq_some_iff.2 ⟨_, hcolon _, ?_⟩
  refine Option.bind_eq_some_iff.2 ⟨(_, _), hpadded hsecond _, ?_⟩
  dsimp only
  obtain ⟨sign, rest, hsign, hdigit, hpoint⟩ :
      ∃ sign rest, offsetText m.offset = sign :: rest ∧ sign.isDigit = false ∧ sign ≠ '.' := by
    refine ⟨_, _, rfl, ?_⟩
    split <;> decide
  by_cases hzero : m.nanosecond % 1000000000 = 0
  · have hnone : fractionText (m.nanosecond % 1000000000) = [] := if_pos hzero
    split
    · rename_i heq
      rw [hnone, List.nil_append, hsign] at heq
      exact absurd (List.cons.inj heq).1 hpoint
    · refine Option.bind_eq_some_iff.2 ⟨_, rfl, ?_⟩
      refine Option.bind_eq_some_iff.2 ⟨m.offset, ?_, ?_⟩
      · rw [hnone]
        exact hoffset
      · rw [← hzero]
        exact h.ofParts?_eq
  · obtain ⟨ds, hds, hfraction⟩ := exists_takeFraction_fractionText hzero
      (Nat.mod_lt _ (by decide)) hdigit rest
    split
    · rename_i heq
      rw [hds, List.cons_append, hsign] at heq
      obtain ⟨-, rfl⟩ := List.cons.inj heq
      refine Option.bind_eq_some_iff.2 ⟨_, hfraction, ?_⟩
      refine Option.bind_eq_some_iff.2 ⟨m.offset, hsign ▸ hoffset, ?_⟩
      exact h.ofParts?_eq
    · rename_i hne
      exact absurd (by rw [hds]; rfl) (hne _)

theorem isVisible_fractionText (n : Nat) : ∀ c ∈ fractionText n, Text.IsVisible c := by
  have hfraction : ∀ w v, ∀ c ∈ '.' :: Text.padded w v, Text.IsVisible c := fun w v =>
    List.forall_mem_cons.2 ⟨by decide, Text.isVisible_padded w v⟩
  unfold fractionText
  split
  · exact List.forall_mem_nil _
  · split
    · exact hfraction _ _
    · split <;> exact hfraction _ _

theorem isVisible_text (m : Moment) : ∀ c ∈ m.text, Text.IsVisible c := by
  have hdash : Text.IsVisible '-' := by decide
  have hcolon : Text.IsVisible ':' := by decide
  have hmark : Text.IsVisible 'T' := by decide
  have hsign : Text.IsVisible (if m.offset < 0 then '-' else '+') := by split <;> decide
  have hpadded := Text.isVisible_padded 2
  simp only [text_eq, offsetText, List.forall_mem_append, List.forall_mem_cons]
  exact ⟨Text.isVisible_padded 4 _, hdash, hpadded _, hdash, hpadded _, hmark, hpadded _, hcolon,
    hpadded _, hcolon, hpadded _, isVisible_fractionText _, hsign, hpadded _, hcolon, hpadded _⟩

end Schemata.Moment
