import Schemata.Proofs.DigitTexts
import Schemata.Value.Atomic

/-!
# Numbers that were written

Reading a written integer gives the integer (`readInteger_text`), and reading a written decimal
gives the decimal with all its digits (`Decimal.read?_text`). Only the sign of a zero is lost.
-/

namespace Schemata

/-! ## Integers -/

namespace Atomic

theorem readInteger_of_isDigit {k : IntegerKind} {c : Char} (hc : c.isDigit) (cs : List Char) :
    readInteger k (c :: cs) = (Text.natural? (c :: cs)).bind fun n => ofInt? k n := by
  rw [readInteger]
  all_goals
    rintro _ ⟨⟩
    cases hc

theorem readInteger_toDigits (k : IntegerKind) (n : Nat) :
    readInteger k (Nat.toDigits 10 n) = ofInt? k n := by
  obtain ⟨d, ds, hds⟩ := List.exists_cons_of_ne_nil (Nat.toDigits_ne_nil (n := n) (b := 10))
  have hd : d.isDigit := Text.isDigit_of_mem_toDigits (hds ▸ List.mem_cons_self)
  rw [hds, readInteger_of_isDigit hd, ← hds, Text.natural?_toDigits]
  rfl

/-- Reading a written integer gives the integer. -/
theorem readInteger_text {k : IntegerKind} {n : Int} (h : k.least ≤ n ∧ n ≤ k.greatest) :
    readInteger k (toString n).toList = some (.integer k n h) := by
  have hvalue : ofInt? k n = some (.integer k n h) := dif_pos h
  cases n with
  | ofNat n =>
    rw [← hvalue]
    exact (congrArg _ (Text.toList_toString_ofNat n)).trans (readInteger_toDigits k n)
  | negSucc n =>
    have hsigned : k.isSigned := by
      by_contra hk
      simp only [IntegerKind.least, hk] at h
      exact absurd h.1 (by simp)
    rw [Text.toList_toString_negSucc, readInteger, if_pos hsigned, Text.natural?_toDigits,
      Option.bind_some, ← hvalue]
    rfl

theorem isVisible_toString (n : Int) : ∀ c ∈ (toString n).toList, Text.IsVisible c := by
  cases n with
  | ofNat n =>
    rw [Int.ofNat_eq_natCast, Text.toList_toString_ofNat]
    exact Text.isVisible_toDigits n
  | negSucc n =>
    rw [Text.toList_toString_negSucc]
    exact List.forall_mem_cons.2 ⟨by decide, Text.isVisible_toDigits (n + 1)⟩

end Atomic

/-! ## Decimals -/

namespace Decimal

/-- What has been read of a magnitude after some more digits. -/
def Scan.after (s : Scan) (ds : List Char) : Scan where
  mantissa := ds.foldl (fun n c => 10 * n + Text.digitValue c) s.mantissa
  scale := if s.pastPoint then s.scale + ds.length else s.scale
  pastPoint := s.pastPoint
  hasDigit := s.hasDigit || !ds.isEmpty

theorem Scan.mantissa_le_after (s : Scan) (ds : List Char) :
    s.mantissa ≤ (s.after ds).mantissa := by
  rw [Scan.after, Text.foldl_digits]
  exact Nat.le_add_right_of_le (Nat.le_mul_of_pos_right _ (Nat.pow_pos (by decide)))

/-- Digits that find room are read one after the other. -/
theorem readPlain_digits (s : Scan) {ds : List Char} (hd : ∀ c ∈ ds, c.isDigit)
    (hm : (s.after ds).mantissa < 1 <<< 96) (hs : s.pastPoint → s.scale + ds.length ≤ 28)
    (rest : List Char) : readPlain s (ds ++ rest) = readPlain (s.after ds) rest := by
  -- the mantissa never shrinks, so the bound at the end holds for every digit on the way
  induction ds generalizing s with
  | nil => simp [Scan.after]
  | cons c ds ih =>
    have hc : c.isDigit := hd c List.mem_cons_self
    let next : Scan :=
      ⟨10 * s.mantissa + Text.digitValue c, if s.pastPoint then s.scale + 1 else s.scale,
        s.pastPoint, true⟩
    have hafter : next.after ds = s.after (c :: ds) := by
      cases hp : s.pastPoint <;> simp [next, Scan.after, hp]
      omega
    have hroom : (s.pastPoint && decide (28 ≤ s.scale)) = false := by
      simp only [Bool.and_eq_false_imp, decide_eq_false_iff_not]
      intro hp
      have := hs hp
      rw [List.length_cons] at this
      omega
    rw [← hafter] at hm ⊢
    rw [List.cons_append, readPlain, hroom, if_neg Bool.false_ne_true, if_pos hc,
      if_pos (Nat.lt_of_le_of_lt (next.mantissa_le_after ds) hm)]
    refine ih next (fun d hd' => hd d (List.mem_cons_of_mem _ hd')) hm fun hp => ?_
    have := hs hp
    have hscale : next.scale = s.scale + 1 := if_pos hp
    rw [List.length_cons] at this
    omega

theorem readPlain_point {s : Scan} (h : s.pastPoint = false) (rest : List Char) :
    readPlain s ('.' :: rest) = readPlain { s with pastPoint := true } rest := by
  have hdigit : '.'.isDigit = false := rfl
  simp [readPlain, h, hdigit]

/-- Digits with a point before the last of them are read as one number. -/
theorem readPlain_parts {first last : List Char} (hfirst : ∀ c ∈ first, c.isDigit)
    (hne : first ≠ []) (hlast : ∀ c ∈ last, c.isDigit)
    (hm : Text.digitsValue (first ++ last) < 1 <<< 96) (hs : last.length ≤ 28) :
    readPlain {} (first ++ if last.length = 0 then [] else '.' :: last) =
      some (Text.digitsValue (first ++ last), last.length) := by
  let s : Scan := ({} : Scan).after first
  let s' : Scan := { s with pastPoint := true }
  have hmantissa : (s'.after last).mantissa = Text.digitsValue (first ++ last) :=
    List.foldl_append.symm
  have hfirstRoom : s.mantissa < 1 <<< 96 :=
    Nat.lt_of_le_of_lt (s'.mantissa_le_after last) (hmantissa ▸ hm)
  have hany : s.hasDigit := by simpa [s, Scan.after] using hne
  rw [readPlain_digits {} hfirst hfirstRoom nofun]
  change readPlain s _ = _
  split
  · rename_i hzero
    obtain rfl := List.eq_nil_of_length_eq_zero hzero
    rw [readPlain, if_pos hany, List.append_nil]
    rfl
  · have hscale : s'.scale = 0 := rfl
    have hroom : s'.pastPoint → s'.scale + last.length ≤ 28 := fun _ => by omega
    have hlastRoom : (s'.after last).mantissa < 1 <<< 96 := hmantissa ▸ hm
    have hanyLast : (s'.after last).hasDigit := by simp [Scan.after, s', hany]
    rw [readPlain_point rfl, ← List.append_nil last]
    change readPlain s' (last ++ []) = _
    rw [readPlain_digits s' hlast hlastRoom hroom, readPlain, if_pos hanyLast, hmantissa,
      List.append_nil]
    exact congrArg (fun n => some (_, n)) (Nat.zero_add _)

/-- A decimal is written as digits with a point before as many of them as its scale says. -/
theorem exists_parts (d : Decimal) : ∃ first last, first ≠ [] ∧ (∀ c ∈ first, c.isDigit) ∧
    (∀ c ∈ last, c.isDigit) ∧ last.length = d.scale ∧
    Text.digitsValue (first ++ last) = d.magnitude ∧
    d.text = (if d.negative then ['-'] else []) ++
      (first ++ if last.length = 0 then [] else '.' :: last) := by
  have hlength := Text.le_length_padded (d.scale + 1) d.magnitude
  have hvalue := Text.digitsValue_padded (d.scale + 1) d.magnitude
  have hdigit : ∀ c ∈ Text.padded (d.scale + 1) d.magnitude, c.isDigit := fun _ =>
    Text.isDigit_of_mem_padded
  unfold text
  generalize Text.padded (d.scale + 1) d.magnitude = digits at *
  have hlast : (digits.drop (digits.length - d.scale)).length = d.scale := by
    rw [List.length_drop]
    omega
  refine ⟨digits.take (digits.length - d.scale), digits.drop (digits.length - d.scale), ?_,
    fun c hc => hdigit c (List.mem_of_mem_take hc), fun c hc => hdigit c (List.mem_of_mem_drop hc),
    hlast, ?_, ?_⟩
  · rw [← List.length_pos_iff, List.length_take]
    omega
  · rw [List.take_append_drop, hvalue]
  · rw [hlast, List.append_assoc]

theorem readSigned_of_isDigit (negative : Bool) {c : Char} (hc : c.isDigit) (cs : List Char) :
    readSigned ((if negative then ['-'] else []) ++ c :: cs) =
      (readPlain {} (c :: cs)).bind fun (m, scale) => ofParts? (negative && m != 0) m scale := by
  cases negative with
  | true => rfl
  | false =>
    have hplus : (c == '+') = false := Text.beq_eq_false_of_isDigit hc (by decide)
    have hminus : (c == '-') = false := Text.beq_eq_false_of_isDigit hc (by decide)
    simp [readSigned, hplus, hminus]

/-- Reading a written decimal gives the decimal, but a zero without its sign. -/
theorem read?_text (d : Decimal) :
    read? d.text = some { d with negative := d.negative && d.magnitude != 0 } := by
  obtain ⟨first, last, hne, hfirst, hlast, hscale, hvalue, htext⟩ := d.exists_parts
  have hplain := readPlain_parts hfirst hne hlast (hvalue ▸ d.magnitude_lt) (hscale ▸ d.scale_le)
  obtain ⟨c, cs, rfl⟩ := List.exists_cons_of_ne_nil hne
  have hsigned : readSigned d.text =
      ofParts? (d.negative && d.magnitude != 0) d.magnitude d.scale := by
    rw [htext, List.cons_append, readSigned_of_isDigit _ (hfirst c List.mem_cons_self),
      ← List.cons_append, hplain, hvalue, hscale]
    rfl
  rw [read?, hsigned, ofParts?, dif_pos ⟨d.magnitude_lt, d.scale_le⟩]
  rfl

theorem equal_unsigned_zero (d : Decimal) :
    d.equal { d with negative := d.negative && d.magnitude != 0 } := by
  have hmantissa : Decimal.mantissa { d with negative := d.negative && d.magnitude != 0 } =
      d.mantissa := by
    by_cases hm : d.magnitude = 0 <;> simp [mantissa, hm]
  simp [equal, compare, hmantissa]

theorem isVisible_text (d : Decimal) : ∀ c ∈ d.text, Text.IsVisible c := by
  obtain ⟨first, last, -, hfirst, hlast, -, -, htext⟩ := d.exists_parts
  have hpoint : Text.IsVisible '.' := by decide
  have hminus : Text.IsVisible '-' := by decide
  have hfirstVisible := fun c hc => Text.isVisible_of_isDigit (hfirst c hc)
  have hlastVisible := fun c hc => Text.isVisible_of_isDigit (hlast c hc)
  rw [htext, List.forall_mem_append, List.forall_mem_append]
  refine ⟨?_, hfirstVisible, ?_⟩
  · split <;> simp [hminus]
  · split
    · exact List.forall_mem_nil _
    · exact List.forall_mem_cons.2 ⟨hpoint, hlastVisible⟩

end Decimal

end Schemata
