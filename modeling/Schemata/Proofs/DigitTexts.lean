import Mathlib.Data.List.Induction
import Mathlib.Data.List.TakeWhile
import Mathlib.Tactic.Ring
import Schemata.Text.Blank
import Schemata.Text.Digits

/-!
# Texts of digits

A run of digits is one number, whichever way it is cut into a first and a last part
(`digitsValue_append_digits`), and a number of any width that has room for it reads back
(`natural?_padded`). A text of visible characters has no blanks to trim.
-/

namespace Schemata.Text

/-! ## The number of a run of digits -/

theorem foldl_digits (n : Nat) (ds : List Char) :
    ds.foldl (fun n c => 10 * n + digitValue c) n = n * 10 ^ ds.length + digitsValue ds := by
  rw [Nat.mul_comm n]
  exact Nat.ofDigitChars_eq_ofDigitChars_zero

theorem digitsValue_append_digits (first last : List Char) :
    digitsValue (first ++ last) = digitsValue first * 10 ^ last.length + digitsValue last := by
  rw [digitsValue, List.foldl_append, foldl_digits]
  rfl

theorem digitValue_lt {c : Char} (h : c.isDigit) : digitValue c < 10 := by
  obtain ⟨hzero, hnine⟩ := Char.isDigit_iff_toNat.1 h
  exact (Nat.sub_lt_iff_lt_add hzero).2 (Nat.lt_succ_of_le hnine)

theorem beq_eq_false_of_isDigit {c mark : Char} (hc : c.isDigit) (hmark : mark.isDigit = false) :
    (c == mark) = false :=
  beq_false_of_ne fun h => Bool.false_ne_true (hmark.symm.trans (h ▸ hc))

theorem digitsValue_lt {ds : List Char} (h : ∀ c ∈ ds, c.isDigit) :
    digitsValue ds < 10 ^ ds.length := by
  induction ds using List.reverseRecOn with
  | nil => decide
  | append_singleton ds c ih =>
    have hds := ih fun d hd => h d (List.mem_append_left _ hd)
    have hc := digitValue_lt (h c (by simp))
    rw [digitsValue_append, List.length_append, List.length_singleton, Nat.pow_succ]
    omega

theorem digitsValue_replicate_zero (n : Nat) : digitsValue (List.replicate n '0') = 0 := by
  rw [digitsValue_eq, Nat.ofDigitChars_replicate_zero, Nat.mul_zero]

/-- A text is read as a number exactly if it is a run of one or more digits. -/
theorem natural?_eq_some {cs : List Char} {n : Nat} :
    natural? cs = some n ↔ cs ≠ [] ∧ (∀ c ∈ cs, c.isDigit) ∧ digitsValue cs = n := by
  cases cs <;> simp [natural?, and_assoc]

theorem toList_toString_ofNat (n : Nat) : (toString (n : Int)).toList = Nat.toDigits 10 n :=
  Nat.toList_repr

theorem toList_toString_negSucc (n : Nat) :
    (toString (Int.negSucc n)).toList = '-' :: Nat.toDigits 10 (n + 1) := by
  change ("-" ++ (n + 1).repr).toList = _
  rw [String.toList_append, Nat.toList_repr]
  rfl

/-! ## Numbers of some width -/

theorem isDigit_of_mem_padded {width n : Nat} {c : Char} (h : c ∈ padded width n) : c.isDigit := by
  rcases List.mem_append.1 h with h | h
  · rw [(List.mem_replicate.1 h).2]
    rfl
  · exact isDigit_of_mem_toDigits h

theorem le_length_padded (width n : Nat) : width ≤ (padded width n).length := by
  rw [padded, List.length_append, List.length_replicate]
  omega

theorem length_padded {width n : Nat} (hw : 0 < width) (h : n < 10 ^ width) :
    (padded width n).length = width := by
  have hle := (Nat.length_toDigits_le_iff (by decide) hw).2 h
  rw [padded, List.length_append, List.length_replicate]
  omega

theorem padded_ne_nil (width n : Nat) : padded width n ≠ [] :=
  List.append_ne_nil_of_right_ne_nil _ Nat.toDigits_ne_nil

theorem digitsValue_padded (width n : Nat) : digitsValue (padded width n) = n := by
  rw [padded, digitsValue_append_digits, digitsValue_replicate_zero, digitsValue_toDigits,
    Nat.zero_mul, Nat.zero_add]

/-- Reading a number with zeros before it gives the number. -/
theorem natural?_padded (width n : Nat) : natural? (padded width n) = some n :=
  natural?_eq_some.2 ⟨padded_ne_nil width n, fun _ => isDigit_of_mem_padded,
    digitsValue_padded width n⟩

theorem not_mem_toDigits {c : Char} (h : c.isDigit = false) (n : Nat) : c ∉ Nat.toDigits 10 n :=
  fun hc => Bool.false_ne_true (h.symm.trans (isDigit_of_mem_toDigits hc))

theorem not_mem_padded {c : Char} (h : c.isDigit = false) (width n : Nat) : c ∉ padded width n :=
  fun hc => Bool.false_ne_true (h.symm.trans (isDigit_of_mem_padded hc))

/-! ## Zeros at the end -/

/-- The zeros that were dropped are what is missing. -/
theorem exists_dropZeroEnd (cs : List Char) :
    ∃ n, cs = dropZeroEnd cs ++ List.replicate n '0' := by
  have hzeros : ∀ c ∈ cs.reverse.takeWhile (· == '0'), c = '0' := fun c hc =>
    eq_of_beq (List.mem_takeWhile_imp (p := (· == '0')) hc)
  refine ⟨(cs.reverse.takeWhile (· == '0')).length, ?_⟩
  calc cs = (cs.reverse.takeWhile (· == '0') ++ cs.reverse.dropWhile (· == '0')).reverse := by
        rw [List.takeWhile_append_dropWhile, List.reverse_reverse]
    _ = dropZeroEnd cs ++ (cs.reverse.takeWhile (· == '0')).reverse := List.reverse_append
    _ = dropZeroEnd cs ++ List.replicate (cs.reverse.takeWhile (· == '0')).length '0' := by
        conv_lhs => rw [List.eq_replicate_of_mem hzeros, List.reverse_replicate]

/-! ## Visible characters -/

/-- A printable character of ASCII that is no space. -/
def IsVisible (c : Char) : Prop := 0x21 ≤ c.toNat ∧ c.toNat ≤ 0x7E

instance (c : Char) : Decidable (IsVisible c) := inferInstanceAs (Decidable (_ ∧ _))

theorem isVisible_of_isDigit {c : Char} (h : c.isDigit) : IsVisible c := by
  simp only [Char.isDigit, Bool.and_eq_true, decide_eq_true_eq, UInt32.le_iff_toNat_le] at h
  exact ⟨Nat.le_trans (by decide) h.1, Nat.le_trans h.2 (by decide)⟩

theorem isVisible_padded (width n : Nat) : ∀ c ∈ padded width n, IsVisible c := fun _ hc =>
  isVisible_of_isDigit (isDigit_of_mem_padded hc)

theorem isVisible_toDigits (n : Nat) : ∀ c ∈ Nat.toDigits 10 n, IsVisible c := fun _ hc =>
  isVisible_of_isDigit (isDigit_of_mem_toDigits hc)

theorem isVisible_dropZeroEnd {cs : List Char} (h : ∀ c ∈ cs, IsVisible c) :
    ∀ c ∈ dropZeroEnd cs, IsVisible c := fun c hc => by
  obtain ⟨n, hn⟩ := exists_dropZeroEnd cs
  exact h c (hn ▸ List.mem_append_left _ hc)

theorem IsVisible.isBlank_eq_false {c : Char} (h : IsVisible c) : isBlank c = false := by
  obtain ⟨hleast, hgreatest⟩ := h
  simp only [isBlank, Ranges.contains, blankRanges, List.any_cons, List.any_nil,
    Bool.or_eq_false_iff, Bool.and_eq_false_iff, decide_eq_false_iff_not, and_true]
  omega

/-- Nothing is trimmed from a text without blanks. -/
theorem trim_eq_self {cs : List Char} (h : ∀ c ∈ cs, isBlank c = false) : trim cs = cs := by
  have hkeep : ∀ {cs : List Char}, (∀ c ∈ cs, isBlank c = false) → cs.dropWhile isBlank = cs
    | [], _ => rfl
    | c :: cs, h => List.dropWhile_cons_of_neg (by simp [h c List.mem_cons_self])
  rw [trim, hkeep h, dropBlankEnd, hkeep fun c hc => h c (List.mem_reverse.1 hc),
    List.reverse_reverse]

theorem trim_of_visible {cs : List Char} (h : ∀ c ∈ cs, IsVisible c) : trim cs = cs :=
  trim_eq_self fun c hc => (h c hc).isBlank_eq_false

end Schemata.Text
