import Mathlib.Order.Bounds.Basic
import Schemata.Proofs.Facets

/-!
# The digits that a number needs

Facets bound the digits of an exact number, those after the point (`Facet.scale`) and all of them
(`Facet.precision`). `Decimal.digits` counts them in the shortest form of the number: the mantissa
and the scale that remain when the zeros at the end of the fraction are dropped.

What is counted is a matter of the number alone. With `k` digits after the point a number can be
written if and only if it is an integer times `10 ^ -k`, and the scale of the shortest form is the
least such `k` (`Decimal.isLeast_normal`). So the digits are the same for every spelling of the
number and for every kind, and bounds on them admit just the numbers that can be written within the
bounds (`digits_of_exact`).
-/

namespace Schemata

/-- The numbers of digits after the point with which a number can be written. -/
def fractionDigits (x : ℚ) : Set ℕ := {k | ∃ m : ℤ, x * 10 ^ k = m}

/-- The numbers of digits in all with which a number can be written, when `s` of them are after the
point. There is at least one. -/
def totalDigits (x : ℚ) (s : ℕ) : Set ℕ := {p | 1 ≤ p ∧ s ≤ p ∧ |x| * 10 ^ s < 10 ^ p}

/-- The absolute value of a number is written with as many digits after the point. -/
theorem abs_mul_pow_of_eq {x : ℚ} {k : ℕ} {m : ℤ} (h : x * 10 ^ k = m) :
    |x| * 10 ^ k = |(m : ℚ)| := by
  have hten : (0 : ℚ) ≤ 10 ^ k := by positivity
  rw [← h, abs_mul, abs_of_nonneg hten]

namespace Decimal

variable (d : Decimal)

/-- The shortest form is the same number, and has no zero at the end of its fraction. -/
theorem normal_spec : IsNormal d.normal ∧ d.normal.2 ≤ d.scale ∧
    d.mantissa = d.normal.1 * 10 ^ (d.scale - d.normal.2) :=
  dropZeros_spec d.mantissa d.scale

theorem toRat_mul_pow_normal : d.toRat * 10 ^ d.normal.2 = d.normal.1 := by
  obtain ⟨-, hle, hm⟩ := d.normal_spec
  have hten : (10 : ℚ) ^ d.scale ≠ 0 := by positivity
  rw [toRat, div_mul_eq_mul_div, div_eq_iff hten]
  calc (d.mantissa : ℚ) * 10 ^ d.normal.2
      = d.normal.1 * 10 ^ (d.scale - d.normal.2) * 10 ^ d.normal.2 := by
        exact_mod_cast congrArg (· * (10 : ℤ) ^ d.normal.2) hm
    _ = d.normal.1 * 10 ^ d.scale := by rw [mul_assoc, ← pow_add, Nat.sub_add_cancel hle]

/-- The scale of the shortest form is the least number of digits after the point. -/
theorem isLeast_normal : IsLeast (fractionDigits d.toRat) d.normal.2 := by
  refine ⟨⟨_, d.toRat_mul_pow_normal⟩, ?_⟩
  rintro k ⟨m, hm⟩
  by_contra hlt
  obtain ⟨j, hj⟩ := Nat.exists_eq_add_of_lt (not_le.1 hlt)
  -- with fewer digits the mantissa would end in a zero
  have hmantissa : d.normal.1 = m * 10 ^ (j + 1) := by
    have h : (d.normal.1 : ℚ) = m * 10 ^ (j + 1) := by
      rw [← toRat_mul_pow_normal, ← hm, hj, add_assoc, pow_add, mul_assoc]
    exact_mod_cast h
  rcases d.normal_spec.1 with hzero | hnot
  · exact absurd (hzero.symm.trans hj) (by omega)
  · exact hnot ⟨m * 10 ^ j, by rw [hmantissa, pow_succ]; ring⟩

/-- The digits that are counted are enough, and so is every greater number of digits and no smaller
one. -/
theorem totalDigits_eq : totalDigits d.toRat d.normal.2 = Set.Ici d.digits.1 := by
  ext p
  have hroom : |d.toRat| * 10 ^ d.normal.2 < 10 ^ p ↔ d.normal.1.natAbs < 10 ^ p := by
    rw [abs_mul_pow_of_eq d.toRat_mul_pow_normal, ← Int.cast_abs, Int.abs_eq_natAbs]
    exact_mod_cast Iff.rfl
  have hdigits : d.digits.1 = max (Nat.toDigits 10 d.normal.1.natAbs).length d.normal.2 := rfl
  have hpos : 0 < (Nat.toDigits 10 d.normal.1.natAbs).length := Nat.length_toDigits_pos
  rw [totalDigits, Set.mem_ofPred_eq, hroom, hdigits, Set.mem_Ici, max_le_iff]
  constructor
  · rintro ⟨hp, hs, hlt⟩
    exact ⟨(Nat.length_toDigits_le_iff (by decide) hp).2 hlt, hs⟩
  · rintro ⟨hlength, hs⟩
    have hp : 1 ≤ p := hpos.trans_le hlength
    exact ⟨hp, hs, (Nat.length_toDigits_le_iff (by decide) hp).1 hlength⟩

theorem isLeast_digits : IsLeast (totalDigits d.toRat d.normal.2) d.digits.1 := by
  rw [totalDigits_eq]
  exact isLeast_Ici

end Decimal

namespace Atomic

variable {v w : Atomic} {x : ℚ}

/-- The digits of an exact number are the least ones with which it can be written. -/
theorem exists_digits? (h : v.toRat? = some x) : ∃ p s, v.digits? = some (p, s) ∧
    IsLeast (fractionDigits x) s ∧ IsLeast (totalDigits x s) p := by
  rw [toRat?_eq] at h
  obtain ⟨d, hd, rfl⟩ := Option.map_eq_some_iff.1 h
  exact ⟨d.digits.1, d.normal.2, by rw [digits?, hd]; rfl, d.isLeast_normal, d.isLeast_digits⟩

/-- Exact numbers that are the same number need the same digits. -/
theorem digits?_eq_of_toRat? (hv : v.toRat? = some x) (hw : w.toRat? = some x) :
    w.digits? = v.digits? := by
  obtain ⟨p, s, hp, hs, hleast⟩ := exists_digits? hv
  obtain ⟨q, t, hq, ht, hleast'⟩ := exists_digits? hw
  obtain rfl := hs.unique ht
  rw [hp, hq, hleast.unique hleast']

/-- Only exact numbers compare with exact numbers. -/
theorem exists_toRat?_of_compare? {o : Ordering} (hv : v.toRat? = some x)
    (h : v.compare? w = some o) : ∃ y, w.toRat? = some y := by
  cases v <;> cases hv <;> cases w <;> first | exact ⟨_, rfl⟩ | cases h

end Atomic

namespace FacetSet

/-- Bounds on the digits alone admit the values whose digits are within the bounds. -/
theorem admits_digits_iff {v : Atomic} {p s precision scale : ℕ} (h : v.digits? = some (p, s)) :
    Admits { precision := some precision, scale := some scale } (.atomic v) ↔
      p ≤ precision ∧ s ≤ scale := by
  have hlength : v.length? = none := by
    cases v <;> first | rfl | cases h
  simp [Admits, violations, atomicViolations, digitViolations, h, violationUnless_eq_nil,
    SimpleValue.asAtomic?, SimpleValue.length?, hlength]

end FacetSet

/-- Bounds on the digits of an exact number, with room for those after the point among all, hold if
and only if the number can be written within them. -/
theorem digits_le_iff {x : ℚ} {p s precision scale : ℕ} (hs : IsLeast (fractionDigits x) s)
    (hp : IsLeast (totalDigits x s) p) (hpos : 1 ≤ precision) (hroom : scale ≤ precision) :
    p ≤ precision ∧ s ≤ scale ↔ ∃ k ≤ scale, ∃ m : ℤ, x * 10 ^ k = m ∧ |m| < 10 ^ precision := by
  constructor
  · rintro ⟨hle, hsle⟩
    obtain ⟨m, hm⟩ := hs.1
    obtain ⟨-, -, hlt⟩ := hp.1
    rw [abs_mul_pow_of_eq hm] at hlt
    refine ⟨s, hsle, m, hm, ?_⟩
    have hlt' : |m| < 10 ^ p := by exact_mod_cast hlt
    exact hlt'.trans_le (pow_le_pow_right₀ (by decide) hle)
  · rintro ⟨k, hk, m, hm, hlt⟩
    have hsk : s ≤ k := hs.2 ⟨m, hm⟩
    refine ⟨hp.2 ⟨hpos, (hsk.trans hk).trans hroom, ?_⟩, hsk.trans hk⟩
    calc |x| * 10 ^ s ≤ |x| * 10 ^ k := by
          gcongr
          norm_num
      _ = |(m : ℚ)| := abs_mul_pow_of_eq hm
      _ < 10 ^ precision := by exact_mod_cast hlt

/-- Of every exact number `digits?` gives the least numbers of digits with which it can be written,
after the point and in all. They are the same for all spellings of the number and all kinds, so for
values that compare as equal. Bounds on the digits alone, with room for those after the point among
all, admit the number if and only if it can be written within the bounds. -/
theorem digits_of_exact {v : Atomic} (hv : v.kind.isDecimalFamily) : ∃ x, v.toRat? = some x ∧
    (∃ p s, v.digits? = some (p, s) ∧
      IsLeast (fractionDigits x) s ∧ IsLeast (totalDigits x s) p) ∧
    (∀ w : Atomic, w.toRat? = some x → w.digits? = v.digits?) ∧
    (∀ w : Atomic, v.compare? w = some .eq → w.digits? = v.digits?) ∧
    ∀ precision scale : ℕ, 1 ≤ precision → scale ≤ precision →
      (FacetSet.Admits { precision := some precision, scale := some scale } (.atomic v) ↔
        ∃ k ≤ scale, ∃ m : ℤ, x * 10 ^ k = m ∧ |m| < 10 ^ precision) := by
  obtain ⟨x, hx⟩ := Atomic.exists_toRat? hv
  obtain ⟨p, s, hdigits, hs, hp⟩ := Atomic.exists_digits? hx
  refine ⟨x, hx, ⟨p, s, hdigits, hs, hp⟩, fun w hw => Atomic.digits?_eq_of_toRat? hx hw,
    fun w hw => ?_, fun precision scale hpos hroom => ?_⟩
  · obtain ⟨y, hy⟩ := Atomic.exists_toRat?_of_compare? hx hw
    rw [Atomic.compare?_of_toRat? hx hy, Option.some_inj, compare_eq_iff_eq] at hw
    exact Atomic.digits?_eq_of_toRat? hx (hw ▸ hy)
  · exact (FacetSet.admits_digits_iff hdigits).trans (digits_le_iff hs hp hpos hroom)

/-- A discount of `1.250` needs three digits, two of them after the point, so it is not admitted
where one is allowed there. -/
theorem discount_digits :
    let discount : Atomic := .decimal ⟨true, 1250, 3, by decide, by decide⟩
    discount.kind.isDecimalFamily ∧ ∃ x, discount.toRat? = some x ∧
      IsLeast (fractionDigits x) 2 ∧ IsLeast (totalDigits x 2) 3 ∧
      ¬∃ k ≤ 1, ∃ m : ℤ, x * 10 ^ k = m ∧ |m| < 10 ^ 3 := by
  intro discount
  obtain ⟨x, hx, ⟨p, s, hdigits, hs, hp⟩, -, -, hadmits⟩ := digits_of_exact (v := discount) rfl
  cases hdigits
  refine ⟨rfl, x, hx, hs, hp, fun h => ?_⟩
  have h := (hadmits 3 1 (by decide) (by decide)).2 h
  exact absurd ((FacetSet.admits_digits_iff rfl).1 h).2 (by decide)

end Schemata
