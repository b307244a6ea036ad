import Mathlib.Algebra.Order.Field.Rat
import Mathlib.Data.String.Basic
import Mathlib.Tactic.Positivity
import Mathlib.Tactic.Ring
import Schemata.Facets.Basic
import Schemata.Value.Atomic
import Schemata.Value.Simple

/-!
# The order and the equality of values

`Atomic.compare?` compares values family by family: exact numbers, floating point numbers, texts,
durations and moments. It sees of a value only its `Key`, the family and the place in the order of
the family, so whatever holds of the order of each family holds of all values: comparisons in the
same direction chain (`Atomic.compare?_trans`).

Equality of values is an equivalence, for atomic values and for lists of any depth, and equal values
contribute the same to a hash. Of a decimal that is the shortest form of its value, which no other
decimal of the value differs in (`Decimal.normal_eq_of_equal`).

Ranges ask for the order of values, enumerations for their equality and, when they are kept in a
hash table, for what a value contributes to a hash. The three agree (`values_agree`).

* A hash table compares a key only with the entries of the same hash. It misses no entry of an equal
  value, whatever the hash function (`EnumItem.lookup?_eq`).
* Of every kind whose values all compare, the order is linear, and the values that it does not tell
  apart are the equal ones (`Kind.orderedLinearly_of_comparable`). The floating point kinds are left
  out: what is not a number equals itself and compares with nothing.
* Exact numbers compare as the rational numbers that they are, whatever their kinds
  (`Atomic.compare?_of_toRat?`).
-/

namespace Schemata

open Std (TransCmp OrientedCmp)

/-- Two comparisons that do not go in opposite directions. -/
def Ordering.agrees : Ordering → Ordering → Bool
  | .lt, .gt | .gt, .lt => false
  | _, _ => true

/-- Comparisons in one direction chain: the result is strict if one of them is. -/
theorem compare_then {α : Type} (cmp : α → α → Ordering) [TransCmp cmp] {a b c : α}
    (h : Ordering.agrees (cmp a b) (cmp b c)) : cmp a c = (cmp a b).then (cmp b c) := by
  cases hab : cmp a b <;> cases hbc : cmp b c <;> simp only [hab, hbc, Ordering.agrees] at h
  · exact TransCmp.lt_trans hab hbc
  · exact TransCmp.lt_of_lt_of_eq hab hbc
  · cases h
  · exact TransCmp.lt_of_eq_of_lt hab hbc
  · exact TransCmp.eq_trans hab hbc
  · exact TransCmp.gt_of_eq_of_gt hab hbc
  · cases h
  · exact TransCmp.gt_of_gt_of_eq hab hbc
  · exact TransCmp.gt_trans hab hbc

/-! ## The order of each family -/

namespace Decimal

/-- The rational number that a decimal is. -/
def toRat (d : Decimal) : ℚ := d.mantissa / (10 : ℚ) ^ d.scale

/-- The order of decimals is that of rational numbers. -/
theorem compare_eq (a b : Decimal) : a.compare b = Ord.compare a.toRat b.toRat := by
  have ha : (0 : ℚ) < 10 ^ a.scale := by positivity
  have hb : (0 : ℚ) < 10 ^ b.scale := by positivity
  have hlt : a.mantissa * 10 ^ b.scale < b.mantissa * 10 ^ a.scale ↔ a.toRat < b.toRat := by
    rw [toRat, toRat, div_lt_div_iff₀ ha hb]
    exact_mod_cast Iff.rfl
  have heq : a.mantissa * 10 ^ b.scale = b.mantissa * 10 ^ a.scale ↔ a.toRat = b.toRat := by
    rw [toRat, toRat, div_eq_div_iff ha.ne' hb.ne']
    exact_mod_cast Iff.rfl
  unfold compare
  simp only [Nat.pow_eq, Nat.cast_pow, Nat.cast_ofNat]
  cases h : Ord.compare a.toRat b.toRat with
  | lt => exact compare_lt_iff_lt.2 (hlt.2 (compare_lt_iff_lt.1 h))
  | eq => exact compare_eq_iff_eq.2 (heq.2 (compare_eq_iff_eq.1 h))
  | gt =>
    have hgt := compare_gt_iff_gt.1 h
    refine compare_gt_iff_gt.2 (lt_of_le_of_ne (not_lt.1 fun h => ?_) fun h => ?_)
    · exact lt_asymm hgt (hlt.1 h)
    · exact hgt.ne' (heq.1 h.symm)

instance : TransCmp compare where
  eq_swap {a b} := by rw [compare_eq, compare_eq, ← OrientedCmp.eq_swap]
  isLE_trans {a b c} := by
    simp only [compare_eq]
    exact TransCmp.isLE_trans

end Decimal

instance : TransCmp Moment.compare :=
  inferInstanceAs (TransCmp (compareLex (compareOn fun m : Moment => m.instant.1)
    (compareOn fun m : Moment => m.instant.2)))

namespace Atomic

theorem compareText_eq (a b : String) : compareText a b = Ord.compare a b := by
  rw [LinearOrder.compare_eq_compareOfLessAndEq]
  simp only [compareText, compareOfLessAndEq, beq_iff_eq]

instance : TransCmp compareText := by
  have h : compareText = Ord.compare := by
    funext a b
    exact compareText_eq a b
  rw [h]
  infer_instance

/-- What the order sees of a value: its family, and the place in the order of the family. -/
inductive Key
  | number (d : Decimal)
  | float (rank : Int)
  | text (s : String)
  | foldedText (s : String)
  | duration (nanoseconds : Int)
  | moment (m : Moment)

/-- The key of a value that is ordered. -/
def key? : Atomic → Option Key
  | .string s => some (.text s)
  | .ignoreCaseString s => some (.foldedText (Text.lowercase s))
  | .decimal d => some (.number d)
  | .integer _ n h => some (.number (.ofInt n (natAbs_lt_of_inRange h)))
  | .double x | .single x => x.rank?.map .float
  | .duration d => some (.duration d.nanoseconds)
  | .dateTime m => some (.moment m)
  | .boolean _ | .binary _ | .guid _ => none

/-- Compare two keys of one family. -/
def Key.compare? : Key → Key → Option Ordering
  | .number a, .number b => some (a.compare b)
  | .float a, .float b => some (compare a b)
  | .text a, .text b => some (compareText a b)
  | .foldedText a, .foldedText b => some (compareText a b)
  | .duration a, .duration b => some (compare a b)
  | .moment a, .moment b => some (a.compare b)
  | _, _ => none

theorem compare?_eq (a b : Atomic) :
    a.compare? b = a.key?.bind fun k => b.key?.bind fun l => k.compare? l := by
  rcases a with _ | _ | _ | _ | (_ | _) | (_ | _) | _ | _ | _ | _ | _ <;>
    rcases b with _ | _ | _ | _ | (_ | _) | (_ | _) | _ | _ | _ | _ | _ <;> rfl

theorem Key.compare?_trans {k l m : Key} {o p : Ordering} (h : k.compare? l = some o)
    (h' : l.compare? m = some p) (ha : Ordering.agrees o p) : k.compare? m = some (o.then p) := by
  cases k <;> cases l <;> cases h <;> cases m <;> cases h'
  all_goals exact congrArg some (compare_then _ ha)

/-- Comparisons of values in one direction chain: the result is strict if one of them is. -/
theorem compare?_trans {a b c : Atomic} {o p : Ordering} (h : a.compare? b = some o)
    (h' : b.compare? c = some p) (ha : Ordering.agrees o p) :
    a.compare? c = some (o.then p) := by
  rw [compare?_eq] at h h' ⊢
  obtain ⟨k, hk, h⟩ := Option.bind_eq_some_iff.1 h
  obtain ⟨l, hl, h⟩ := Option.bind_eq_some_iff.1 h
  obtain ⟨l', hl', h'⟩ := Option.bind_eq_some_iff.1 h'
  obtain ⟨m, hm, h'⟩ := Option.bind_eq_some_iff.1 h'
  obtain rfl : l = l' := Option.some.inj (hl.symm.trans hl')
  rw [hk, hm]
  exact Key.compare?_trans h h' ha

/-! ## Equality -/

theorem equal_refl (a : Atomic) : a.equal a := by
  cases a <;> simp [equal, Decimal.equal, Double.equal, Moment.equal, Decimal.compare_eq]

theorem equal_trans {a b c : Atomic} (h : a.equal b) (h' : b.equal c) : a.equal c := by
  cases a <;> cases b <;> first | cases h | skip
  all_goals cases c <;> first | cases h' | skip
  all_goals
    simp_all [equal, Decimal.equal, Double.equal, Moment.equal, Decimal.compare_eq]

end Atomic

/-! ## Decimals -/

namespace Decimal

/-- A mantissa and a scale of a number, without a zero at the end of the fraction. -/
def IsNormal (p : Int × Nat) : Prop := p.2 = 0 ∨ ¬(10 : Int) ∣ p.1

/-- The number stays the same when zeros are dropped, and none is left. -/
theorem dropZeros_spec (m : Int) (s : Nat) :
    IsNormal (dropZeros m s) ∧ (dropZeros m s).2 ≤ s ∧
      m = (dropZeros m s).1 * 10 ^ (s - (dropZeros m s).2) := by
  induction s generalizing m with
  | zero => exact ⟨Or.inl rfl, le_rfl, by simp [dropZeros]⟩
  | succ s ih =>
    rw [dropZeros]
    split
    · rename_i hdvd
      obtain ⟨hnormal, hle, heq⟩ := ih (m / 10)
      refine ⟨hnormal, hle.trans (Nat.le_succ s), ?_⟩
      rw [Nat.succ_sub hle, pow_succ, ← mul_assoc, ← heq]
      exact (Int.ediv_mul_cancel (Int.dvd_of_emod_eq_zero hdvd)).symm
    · rename_i hnot
      exact ⟨Or.inr fun hdvd => hnot (Int.emod_eq_zero_of_dvd hdvd), le_rfl, by simp⟩

/-- A number has one form without zeros at its end. -/
theorem eq_of_isNormal {p q : Int × Nat} (hp : IsNormal p) (hq : IsNormal q)
    (h : p.1 * 10 ^ q.2 = q.1 * 10 ^ p.2) : p = q := by
  wlog hle : p.2 ≤ q.2 generalizing p q with hsymm
  · exact (hsymm hq hp h.symm (le_of_not_ge hle)).symm
  obtain ⟨d, hd⟩ := Nat.exists_eq_add_of_le hle
  have hten : (10 : Int) ^ p.2 ≠ 0 := pow_ne_zero _ (by decide)
  have hq₁ : p.1 * 10 ^ d = q.1 := by
    rw [hd, pow_add, mul_comm ((10 : Int) ^ p.2), ← mul_assoc] at h
    exact mul_right_cancel₀ hten h
  cases d with
  | zero => exact Prod.ext (by simpa using hq₁) hd.symm
  | succ d =>
    rcases hq with hq | hq
    · omega
    · exact absurd ⟨p.1 * 10 ^ d, by rw [← hq₁, pow_succ]; ring⟩ hq

/-- Decimals of one value have the same shortest form. -/
theorem normal_eq_of_equal {a b : Decimal} (h : a.equal b) : a.normal = b.normal := by
  have hvalue : a.mantissa * 10 ^ b.scale = b.mantissa * 10 ^ a.scale := by
    have heq := compare_eq_iff_eq.1 (beq_iff_eq.1 h)
    simpa [Nat.pow_eq] using heq
  obtain ⟨ha, hla, hma⟩ := dropZeros_spec a.mantissa a.scale
  obtain ⟨hb, hlb, hmb⟩ := dropZeros_spec b.mantissa b.scale
  refine eq_of_isNormal ha hb ?_
  unfold normal
  generalize dropZeros a.mantissa a.scale = p at *
  generalize dropZeros b.mantissa b.scale = q at *
  -- both sides times what was dropped are the two sides for the numbers as they were
  have hten : (10 : Int) ^ (a.scale - p.2) * 10 ^ (b.scale - q.2) ≠ 0 :=
    mul_ne_zero (pow_ne_zero _ (by decide)) (pow_ne_zero _ (by decide))
  refine mul_right_cancel₀ hten ?_
  calc p.1 * 10 ^ q.2 * (10 ^ (a.scale - p.2) * 10 ^ (b.scale - q.2))
      = p.1 * 10 ^ (a.scale - p.2) * 10 ^ (q.2 + (b.scale - q.2)) := by rw [pow_add]; ring
    _ = a.mantissa * 10 ^ b.scale := by rw [← hma, Nat.add_sub_cancel' hlb]
    _ = b.mantissa * 10 ^ a.scale := hvalue
    _ = q.1 * 10 ^ (b.scale - q.2) * 10 ^ (p.2 + (a.scale - p.2)) := by
      rw [← hmb, Nat.add_sub_cancel' hla]
    _ = q.1 * 10 ^ p.2 * (10 ^ (a.scale - p.2) * 10 ^ (b.scale - q.2)) := by rw [pow_add]; ring

end Decimal

/-! ## Atomic values -/

namespace Atomic

theorem equal_symm {a b : Atomic} (h : a.equal b) : b.equal a := by
  cases a <;> cases b <;> first | cases h | skip
  all_goals simp_all [equal, Decimal.equal, Double.equal, Moment.equal, Decimal.compare_eq]

/-- Equal values contribute the same to a hash. -/
theorem fingerprint_eq_of_equal {a b : Atomic} (h : a.equal b) : a.fingerprint = b.fingerprint := by
  cases a <;> cases b <;> first | cases h | skip
  case decimal.decimal d e =>
    simp only [fingerprint, kind, Decimal.normal_eq_of_equal h]
  all_goals simp_all [equal, Double.equal, Moment.equal, fingerprint, kind, doubleData]

end Atomic

/-! ## Lists -/

namespace SimpleValue

mutual

theorem equal_refl : ∀ v : SimpleValue, v.equal v
  | .atomic a => a.equal_refl
  | .list vs => equalItems_refl vs

theorem equalItems_refl : ∀ vs : List SimpleValue, equalItems vs vs
  | [] => rfl
  | v :: vs => Bool.and_eq_true_iff.2 ⟨equal_refl v, equalItems_refl vs⟩

end

mutual

theorem equal_symm : ∀ {v w : SimpleValue}, v.equal w → w.equal v
  | .atomic _, .atomic _, h => Atomic.equal_symm h
  | .list _, .list _, h => equalItems_symm h
  | .atomic _, .list _, h | .list _, .atomic _, h => nomatch h

theorem equalItems_symm : ∀ {vs ws : List SimpleValue}, equalItems vs ws → equalItems ws vs
  | [], [], _ => rfl
  | _ :: _, _ :: _, h =>
    have ⟨h₁, h₂⟩ := Bool.and_eq_true_iff.1 h
    Bool.and_eq_true_iff.2 ⟨equal_symm h₁, equalItems_symm h₂⟩
  | [], _ :: _, h | _ :: _, [], h => nomatch h

end

mutual

theorem equal_trans : ∀ {u v w : SimpleValue}, u.equal v → v.equal w → u.equal w
  | .atomic _, .atomic _, .atomic _, h, h' => Atomic.equal_trans h h'
  | .list _, .list _, .list _, h, h' => equalItems_trans h h'
  | .atomic _, .list _, _, h, _ | .list _, .atomic _, _, h, _ => nomatch h
  | .atomic _, .atomic _, .list _, _, h | .list _, .list _, .atomic _, _, h => nomatch h

theorem equalItems_trans : ∀ {us vs ws : List SimpleValue},
    equalItems us vs → equalItems vs ws → equalItems us ws
  | [], [], [], _, _ => rfl
  | _ :: _, _ :: _, _ :: _, h, h' =>
    have ⟨h₁, h₂⟩ := Bool.and_eq_true_iff.1 h
    have ⟨h₁', h₂'⟩ := Bool.and_eq_true_iff.1 h'
    Bool.and_eq_true_iff.2 ⟨equal_trans h₁ h₁', equalItems_trans h₂ h₂'⟩
  | [], _ :: _, _, h, _ | _ :: _, [], _, h, _ => nomatch h
  | [], [], _ :: _, _, h | _ :: _, _ :: _, [], _, h => nomatch h

end

theorem length_eq_of_equalItems : ∀ {vs ws : List SimpleValue}, equalItems vs ws →
    vs.length = ws.length
  | [], [], _ => rfl
  | _ :: _, _ :: _, h =>
    congrArg (· + 1) (length_eq_of_equalItems (Bool.and_eq_true_iff.1 h).2)
  | [], _ :: _, h | _ :: _, [], h => nomatch h

mutual

theorem fingerprint_eq_of_equal : ∀ {v w : SimpleValue}, v.equal w → v.fingerprint = w.fingerprint
  | .atomic _, .atomic _, h => congrArg (HashDatum.number 0 :: ·) (Atomic.fingerprint_eq_of_equal h)
  | .list vs, .list ws, h => by
    rw [fingerprint, fingerprint, length_eq_of_equalItems h, itemFingerprint_eq_of_equalItems h]
  | .atomic _, .list _, h | .list _, .atomic _, h => nomatch h

theorem itemFingerprint_eq_of_equalItems : ∀ {vs ws : List SimpleValue}, equalItems vs ws →
    itemFingerprint vs = itemFingerprint ws
  | [], [], _ => rfl
  | _ :: _, _ :: _, h => by
    obtain ⟨h₁, h₂⟩ := Bool.and_eq_true_iff.1 h
    rw [itemFingerprint, itemFingerprint, fingerprint_eq_of_equal h₁,
      itemFingerprint_eq_of_equalItems h₂]
  | [], _ :: _, h | _ :: _, [], h => nomatch h

end

end SimpleValue

/-! ## The order from the other side -/

namespace Atomic

theorem Key.compare?_swap (k l : Key) : l.compare? k = (k.compare? l).map Ordering.swap := by
  cases k <;> cases l <;> first | rfl | exact congrArg some Std.OrientedCmp.eq_swap

/-- From the other side a comparison is the opposite one. -/
theorem compare?_swap (a b : Atomic) : b.compare? a = (a.compare? b).map Ordering.swap := by
  rw [compare?_eq, compare?_eq]
  cases a.key? <;> cases b.key? <;> first | rfl | exact Key.compare?_swap _ _

end Atomic

/-! ## Exact numbers -/

namespace Decimal

/-- An integer as a decimal is the rational number that it is. -/
theorem toRat_ofInt (n : Int) (h : n.natAbs < 1 <<< 96) : (ofInt n h).toRat = n := by
  have hm : (ofInt n h).mantissa = n := by
    simp only [mantissa, ofInt, decide_eq_true_eq]
    omega
  rw [toRat, hm]
  exact div_one _

end Decimal

namespace Atomic

variable {a b : Atomic}

/-- The rational number that an exact number is. -/
def toRat? : Atomic → Option ℚ
  | .decimal d => some d.toRat
  | .integer _ n _ => some n
  | _ => none

theorem toRat?_eq (v : Atomic) : v.toRat? = v.asDecimal?.map Decimal.toRat := by
  cases v with
  | integer _ n _ => exact congrArg some (Decimal.toRat_ofInt n _).symm
  | _ => rfl

theorem exists_toRat? (h : a.kind.isDecimalFamily) : ∃ x, a.toRat? = some x := by
  cases a <;> cases h
  all_goals exact ⟨_, rfl⟩

/-- Exact numbers of any kinds compare as rational numbers. -/
theorem compare?_of_toRat? {x y : ℚ} (ha : a.toRat? = some x) (hb : b.toRat? = some y) :
    a.compare? b = some (compare x y) := by
  rw [toRat?_eq] at ha hb
  obtain ⟨d, hd, rfl⟩ := Option.map_eq_some_iff.1 ha
  obtain ⟨e, he, rfl⟩ := Option.map_eq_some_iff.1 hb
  simp only [compare?, hd, he, Decimal.compare_eq]

end Atomic

/-! ## Kinds whose values all compare -/

namespace Kind

/-- Whether any two values of the kind compare: texts, durations, moments and exact numbers. -/
def isComparable : Kind → Bool
  | .string | .ignoreCaseString | .duration | .dateTime => true
  | k => k.isDecimalFamily

/-- The order of the values of a kind is linear up to equality. -/
structure OrderedLinearly (k : Kind) : Prop where
  compares {a b : Atomic} (ha : a.kind = k) (hb : b.kind = k) :
    ∃ o, a.compare? b = some o ∧ b.compare? a = some o.swap
  antisymm {a b : Atomic} {o p : Ordering} (ha : a.kind = k) (hb : b.kind = k)
    (h : a.compare? b = some o) (h' : b.compare? a = some p) (ho : o.isLE) (hp : p.isLE) : a.equal b
  /-- Comparisons in one direction chain: the result is strict if one of them is. -/
  trans {a b c : Atomic} {o p : Ordering} (ha : a.kind = k) (hb : b.kind = k) (hc : c.kind = k)
    (h : a.compare? b = some o) (h' : b.compare? c = some p) (ho : Ordering.agrees o p) :
    a.compare? c = some (o.then p)
  eq_iff {a b : Atomic} (ha : a.kind = k) (hb : b.kind = k) :
    a.compare? b = some .eq ↔ a.equal b

end Kind

namespace Atomic

variable {a b : Atomic} {k : Kind}

theorem compareText_eq_eq_iff {s t : String} : compareText s t = .eq ↔ (s == t) = true := by
  rw [compareText_eq, compare_eq_iff_eq, beq_iff_eq]

/-- Values of one kind whose values all compare: the order does not tell equal values apart, and no
others. -/
theorem exists_compare?_eq_iff (hk : k.isComparable) (ha : a.kind = k) (hb : b.kind = k) :
    ∃ o, a.compare? b = some o ∧ (o = .eq ↔ a.equal b) := by
  subst ha
  cases a <;> cases hk <;> cases b <;> cases hb
  case string s t => exact ⟨_, rfl, compareText_eq_eq_iff⟩
  case ignoreCaseString s t => exact ⟨_, rfl, compareText_eq_eq_iff⟩
  case decimal d e => exact ⟨_, rfl, beq_iff_eq.symm⟩
  case integer i m hm n hn =>
    refine ⟨_, rfl, ?_⟩
    rw [Decimal.compare_eq, Decimal.toRat_ofInt, Decimal.toRat_ofInt, compare_eq_iff_eq]
    simp [equal]
  case duration d e =>
    refine ⟨_, rfl, compare_eq_iff_eq.trans ?_⟩
    cases d
    cases e
    simp [equal]
  case dateTime l m =>
    refine ⟨_, rfl, ?_⟩
    simp [Moment.compare, equal, Moment.equal, Ordering.then_eq_eq, Prod.ext_iff]

end Atomic

namespace Kind

theorem orderedLinearly_of_comparable {k : Kind} (hk : k.isComparable) : k.OrderedLinearly where
  compares {a b} ha hb := by
    obtain ⟨o, ho, -⟩ := Atomic.exists_compare?_eq_iff hk ha hb
    exact ⟨o, ho, by rw [Atomic.compare?_swap, ho, Option.map_some]⟩
  antisymm {a b o p} ha hb h h' ho hp := by
    rw [Atomic.compare?_swap, h] at h'
    cases h'
    -- only an equality goes both ways
    obtain rfl : o = .eq := by
      cases o with
      | eq => rfl
      | lt => cases hp
      | gt => cases ho
    obtain ⟨o, h', heq⟩ := Atomic.exists_compare?_eq_iff hk ha hb
    exact heq.1 (Option.some.inj (h'.symm.trans h))
  trans _ _ _ h h' ho := Atomic.compare?_trans h h' ho
  eq_iff {a b} ha hb := by
    obtain ⟨o, h, heq⟩ := Atomic.exists_compare?_eq_iff hk ha hb
    rw [h, Option.some_inj, heq]

end Kind

/-! ## Lookups by hash -/

namespace EnumItem

/-- The item of a value in a hash table, under a hash function: of the items whose values have the
hash of the value, the first one whose value is equal. -/
def lookup? {β : Type} [DecidableEq β] (hash : List HashDatum → β) (items : List EnumItem)
    (v : Atomic) : Option EnumItem :=
  (items.filter fun item => hash item.value.fingerprint = hash v.fingerprint).find?
    fun item => item.value.equal v

/-- The hash keeps no item of an equal value from being found. -/
theorem lookup?_eq {β : Type} [DecidableEq β] (hash : List HashDatum → β) (items : List EnumItem)
    (v : Atomic) : lookup? hash items v = items.find? fun item => item.value.equal v := by
  rw [lookup?, List.find?_filter]
  congr 1
  funext item
  rw [Bool.eq_iff_iff, decide_eq_true_iff, decide_eq_true_iff]
  exact ⟨And.right, fun h => ⟨congrArg hash (Atomic.fingerprint_eq_of_equal h), h⟩⟩

end EnumItem

/-- Equality, hashes and the order of values agree. Equality is an equivalence, and equal values
contribute the same to a hash, so an enumeration in a hash table has the items that an enumeration
has: a value is found if and only if it is equal to one of them. Of texts, durations, moments and
each kind of exact numbers any two values compare, in an order that is linear up to equality, and
across all kinds of exact numbers it is the order of rational numbers. -/
theorem values_agree :
    (Equivalence fun a b : Atomic => (a.equal b : Prop)) ∧
    (∀ a b : Atomic, a.equal b → a.fingerprint = b.fingerprint) ∧
    (∀ (β : Type) [DecidableEq β] (hash : List HashDatum → β) (items : List EnumItem) (v : Atomic),
      ((EnumItem.lookup? hash items v).isSome = FacetSet.enumerates items v) ∧
      ((EnumItem.lookup? hash items v).isSome ↔ ∃ item ∈ items, item.value.equal v)) ∧
    (∀ k : Kind, k.isComparable → k.OrderedLinearly) ∧
    ∀ a b : Atomic, a.kind.isDecimalFamily → b.kind.isDecimalFamily →
      ∃ x y, a.toRat? = some x ∧ b.toRat? = some y ∧ a.compare? b = some (compare x y) := by
  refine ⟨⟨Atomic.equal_refl, Atomic.equal_symm, Atomic.equal_trans⟩,
    fun _ _ => Atomic.fingerprint_eq_of_equal, fun β _ hash items v => ?_,
    fun _ => Kind.orderedLinearly_of_comparable, fun a b ha hb => ?_⟩
  · rw [EnumItem.lookup?_eq, List.find?_isSome]
    refine ⟨?_, Iff.rfl⟩
    rw [FacetSet.enumerates, List.isSome_find?]
  · obtain ⟨x, hx⟩ := Atomic.exists_toRat? ha
    obtain ⟨y, hy⟩ := Atomic.exists_toRat? hb
    exact ⟨x, y, hx, hy, Atomic.compare?_of_toRat? hx hy⟩

/-- Half a percent in two spellings: equal, of one hash, found in an enumeration under a hash
function that looks at the kind alone, and between a zero and a one of two other kinds. -/
theorem half_percent_agrees :
    let half : Atomic := .decimal ⟨false, 5, 3, by decide, by decide⟩
    let padded : Atomic := .decimal ⟨false, 500, 5, by decide, by decide⟩
    let zero : Atomic := .integer .int32 0 (by decide)
    let one : Atomic := .integer .byte 1 (by decide)
    half.fingerprint = padded.fingerprint ∧
    (EnumItem.lookup? List.head? [⟨zero, none⟩, ⟨half, some "half"⟩] padded).isSome ∧
    half.compare? padded = some .eq ∧ zero.compare? half = some .lt ∧
    padded.compare? one = some .lt := by
  intro half padded zero one
  obtain ⟨hequiv, hhash, hlookup, hkind, hexact⟩ := values_agree
  have hequal : half.equal padded := by decide +kernel
  refine ⟨hhash _ _ hequal, (hlookup _ _ _ _).2.2 ⟨⟨half, some "half"⟩, by simp, hequal⟩,
    ((hkind .decimal rfl).eq_iff rfl rfl).2 hequal, ?_, ?_⟩
  · obtain ⟨x, y, hx, hy, h⟩ := hexact zero half rfl rfl
    cases hx
    cases hy
    rw [h]
    decide +kernel
  · obtain ⟨x, y, hx, hy, h⟩ := hexact padded one rfl rfl
    cases hx
    cases hy
    rw [h]
    decide +kernel

end Schemata
