import Schemata.Proofs.SimpleTypes
import Schemata.Proofs.Values
import Schemata.Proofs.WrittenDurations
import Schemata.Proofs.WrittenMoments
import Schemata.Proofs.WrittenNumbers

/-!
# Atomic values that were written

An atomic value that a literal is read as is read again from its written form, as an equal value
(`Atomic.read_text`), unless it is a floating point number. Nothing is lost on the way but the sign
of a decimal zero. Of the kinds only that of moments has values that no literal is read as, so it is
the only one for which it matters that the value was read (`Atomic.Regular`).
-/

namespace Schemata

/-! ## Identifiers -/

namespace Guid

theorem digit?_digitChar (d : Fin 16) : digit? (Nat.digitChar d.val) = some d := by
  revert d
  decide

theorem isVisible_digitChar (d : Fin 16) : Text.IsVisible (Nat.digitChar d.val) := by
  revert d
  decide

/-- The characters of an identifier without its hyphens. -/
def chars (g : Guid) : List Char := g.digits.map fun d => Nat.digitChar d.val

theorem length_chars (g : Guid) : g.chars.length = 32 := by
  rw [chars, List.length_map, g.length_digits]

theorem ne_hyphen_of_mem_chars {g : Guid} : ∀ c ∈ g.chars, c ≠ '-' := by
  have hdigit : ∀ d : Fin 16, Nat.digitChar d.val ≠ '-' := by decide
  exact List.forall_mem_map.2 fun d _ => hdigit d

theorem mapM_digit?_map (ds : List (Fin 16)) :
    (ds.map fun d => Nat.digitChar d.val).mapM digit? = some ds := by
  induction ds with
  | nil => rfl
  | cons d ds ih => simp [digit?_digitChar, ih]

theorem ofDigits?_chars (g : Guid) : ofDigits? g.chars = some g := by
  rw [ofDigits?, chars, mapM_digit?_map]
  exact dif_pos g.length_digits

/-- A group of digits stands where no hyphen is to stand. -/
theorem all_group {cs : List Char} (hcs : ∀ c ∈ cs, c ≠ '-') {n : Nat}
    (hn : ∀ i ∈ [8, 13, 18, 23], i < n ∨ n + cs.length ≤ i) :
    ((cs.zipIdx n).all fun (c, i) => (c == '-') == decide (i ∈ [8, 13, 18, 23])) = true := by
  rw [List.all_eq_true]
  rintro ⟨c, i⟩ hmem
  obtain ⟨hle, hlt, hc⟩ := List.mem_zipIdx hmem
  have hne : c ≠ '-' := hcs c (hc ▸ List.getElem_mem _)
  have hi : i ∉ [8, 13, 18, 23] := fun hi => by
    have := hn i hi
    omega
  change ((c == '-') == decide (i ∈ [8, 13, 18, 23])) = true
  rw [beq_false_of_ne hne, decide_eq_false hi]
  rfl

/-- The groups of the digits of an identifier. -/
theorem exists_groups (g : Guid) : ∃ a b c d e, g.chars = a ++ (b ++ (c ++ (d ++ e))) ∧
    a.length = 8 ∧ b.length = 4 ∧ c.length = 4 ∧ d.length = 4 ∧ e.length = 12 ∧
    g.text = a ++ '-' :: (b ++ '-' :: (c ++ '-' :: (d ++ '-' :: e))) := by
  have hlength := g.length_chars
  refine ⟨g.chars.take 8, (g.chars.drop 8).take 4, (g.chars.drop 12).take 4,
    (g.chars.drop 16).take 4, g.chars.drop 20, ?_, ?_, ?_, ?_, ?_, ?_, ?_⟩
  · have hsplit : ∀ n, g.chars.drop n = (g.chars.drop n).take 4 ++ g.chars.drop (n + 4) := by
      intro n
      rw [← List.drop_drop, List.take_append_drop]
    rw [← hsplit 16, ← hsplit 12, ← hsplit 8, List.take_append_drop]
  · rw [List.length_take, hlength]
    rfl
  · rw [List.length_take, List.length_drop, hlength]
    rfl
  · rw [List.length_take, List.length_drop, hlength]
    rfl
  · rw [List.length_take, List.length_drop, hlength]
    rfl
  · rw [List.length_drop, hlength]
  · simp only [text, chars, List.append_assoc, List.cons_append]

/-- Reading a written identifier gives the identifier. -/
theorem read?_text (g : Guid) : read? g.text = some g := by
  obtain ⟨a, b, c, d, e, hchars, ha, hb, hc, hd, he, htext⟩ := g.exists_groups
  have hne : ∀ x ∈ a ++ (b ++ (c ++ (d ++ e))), x ≠ '-' := hchars ▸ ne_hyphen_of_mem_chars
  simp only [List.forall_mem_append] at hne
  obtain ⟨hna, hnb, hnc, hnd, hne⟩ := hne
  have hlength : g.text.length = 36 := by
    simp only [htext, List.length_append, List.length_cons, ha, hb, hc, hd, he]
  have hgrouped : isGrouped g.text := by
    rw [isGrouped, hlength, htext]
    simp only [List.zipIdx_append, List.zipIdx_cons, List.all_append, List.all_cons, ha, hb, hc, hd,
      Bool.and_eq_true]
    exact ⟨rfl, all_group hna (by rw [ha]; decide), by decide, all_group hnb (by rw [hb]; decide),
      by decide, all_group hnc (by rw [hc]; decide), by decide, all_group hnd (by rw [hd]; decide),
      by decide, all_group hne (by rw [he]; decide)⟩
  have hfilter : ∀ {cs : List Char}, (∀ x ∈ cs, x ≠ '-') → cs.filter (· != '-') = cs := fun h =>
    List.filter_eq_self.2 fun x hx => bne_iff_ne.2 (h x hx)
  have hdigits : g.text.filter (· != '-') = g.chars := by
    have hhyphen : ∀ cs, ('-' :: cs).filter (· != '-') = cs.filter (· != '-') := fun cs =>
      List.filter_cons_of_neg (by decide)
    simp only [htext, hchars, List.filter_append, hhyphen, hfilter hna, hfilter hnb, hfilter hnc,
      hfilter hnd, hfilter hne]
  rw [read?, hlength]
  change readGrouped g.text = some g
  rw [readGrouped, if_pos hgrouped, hdigits, ofDigits?_chars]

theorem isVisible_text (g : Guid) : ∀ c ∈ g.text, Text.IsVisible c := by
  obtain ⟨a, b, c, d, e, hchars, -, -, -, -, -, htext⟩ := g.exists_groups
  have hhyphen : Text.IsVisible '-' := by decide
  have hvisible : ∀ x ∈ g.chars, Text.IsVisible x :=
    List.forall_mem_map.2 fun d _ => isVisible_digitChar d
  simp only [hchars, List.forall_mem_append] at hvisible
  obtain ⟨ha, hb, hc, hd, he⟩ := hvisible
  simp only [htext, List.forall_mem_append, List.forall_mem_cons]
  exact ⟨ha, hhyphen, hb, hhyphen, hc, hhyphen, hd, hhyphen, he⟩

end Guid

/-! ## Binary values -/

namespace Base64

theorem isVisible_digit {n : Nat} (h : n < 64) : Text.IsVisible (digit n) := by
  have hall : ∀ n ∈ List.range 64, Text.IsVisible (digit n) := by decide
  exact hall n (List.mem_range.2 h)

theorem isVisible_encode (bytes : List UInt8) : ∀ c ∈ encode bytes, Text.IsVisible c := by
  have hpad : Text.IsVisible '=' := by decide
  fun_induction encode bytes with
  | case1 => exact List.forall_mem_nil _
  | case2 a =>
    have ha := a.toNat_lt
    simp only [List.forall_mem_cons]
    exact ⟨isVisible_digit (by omega), isVisible_digit (by omega), hpad, hpad,
      List.forall_mem_nil _⟩
  | case3 a b =>
    have ha := a.toNat_lt
    have hb := b.toNat_lt
    simp only [List.forall_mem_cons]
    exact ⟨isVisible_digit (by omega), isVisible_digit (by omega), isVisible_digit (by omega), hpad,
      List.forall_mem_nil _⟩
  | case4 a b c rest ih =>
    have ha := a.toNat_lt
    have hb := b.toNat_lt
    have hc := c.toNat_lt
    simp only [List.forall_mem_cons]
    exact ⟨isVisible_digit (by omega), isVisible_digit (by omega), isVisible_digit (by omega),
      isVisible_digit (by omega), ih⟩

end Base64

/-! ## Atomic values -/

namespace Atomic

/-- No floating point number, and if it is a moment, one that is within the bounds of a calendar. -/
def Regular : Atomic → Prop
  | .double _ | .single _ => False
  | .dateTime m => m.Regular
  | _ => True

/-- A value that is read is regular, unless it is a floating point number. -/
theorem regular_of_read {k : Kind} {literal : String} {v : Atomic}
    (h : read k literal = .ok (some v)) (hdouble : k ≠ .double) (hsingle : k ≠ .single) :
    v.Regular := by
  obtain rfl := kind_read h
  cases v with
  | double x => exact hdouble rfl
  | single x => exact hsingle rfl
  | dateTime m =>
    obtain ⟨m', hread, heq⟩ := Option.map_eq_some_iff.1 (Except.ok.inj h)
    cases heq
    exact Moment.regular_of_read? hread
  | _ => trivial

/-- Reading the written form of a value gives an equal value. -/
theorem read_text {v : Atomic} (h : v.Regular) :
    ∃ w, read v.kind v.text = .ok (some w) ∧ v.equal w := by
  cases v with
  | string s => exact ⟨_, rfl, equal_refl _⟩
  | ignoreCaseString s => exact ⟨_, rfl, equal_refl _⟩
  | decimal d =>
    refine ⟨.decimal { d with negative := d.negative && d.magnitude != 0 }, ?_,
      d.equal_unsigned_zero⟩
    simp only [read, kind, text, String.toList_ofList, Text.trim_of_visible d.isVisible_text,
      d.read?_text, Option.map_some]
  | integer k n hn =>
    refine ⟨_, ?_, equal_refl _⟩
    simp only [read, kind, text, Text.trim_of_visible (isVisible_toString n), readInteger_text hn]
  | double x => exact h.elim
  | single x => exact h.elim
  | boolean b =>
    refine ⟨_, ?_, equal_refl _⟩
    cases b <;> rfl
  | binary bytes =>
    refine ⟨_, ?_, equal_refl _⟩
    simp only [read, kind, text, String.toList_ofList,
      Text.trim_of_visible (Base64.isVisible_encode bytes), Base64.decode?_encode, Option.map_some]
  | guid g =>
    refine ⟨_, ?_, equal_refl _⟩
    simp only [read, kind, text, String.toList_ofList, Text.trim_of_visible g.isVisible_text,
      g.read?_text, Option.map_some]
  | duration d =>
    refine ⟨_, ?_, equal_refl _⟩
    simp only [read, kind, text, String.toList_ofList, Text.trim_of_visible d.isVisible_text,
      d.read_text]
    rfl
  | dateTime m =>
    refine ⟨_, ?_, equal_refl _⟩
    simp only [read, kind, text, String.toList_ofList, Text.trim_of_visible m.isVisible_text,
      Moment.read?_text h, Option.map_some]

/-- A value that a literal is read as is read again from its written form, as an equal value of the
same kind, unless it is a floating point number. The literal need not be the written form: it may
have blanks around it, signs, zeros or digits beyond those that the value keeps. -/
theorem read_back {k : Kind} {literal : String} {v : Atomic}
    (h : read k literal = .ok (some v)) (hdouble : k ≠ .double) (hsingle : k ≠ .single) :
    ∃ w, read k v.text = .ok (some w) ∧ v.equal w := by
  obtain ⟨w, hw, hequal⟩ := read_text (regular_of_read h hdouble hsingle)
  rw [kind_read h] at hw
  exact ⟨w, hw, hequal⟩

/-- Whether a literal is read as a value that is written in a given form. -/
def readsAs (k : Kind) (literal text : String) : Bool :=
  match read k literal with
  | .ok (some v) => v.text == text
  | _ => false

theorem exists_of_readsAs {k : Kind} {literal text : String} (h : readsAs k literal text) :
    ∃ v, read k literal = .ok (some v) ∧ v.text = text := by
  unfold readsAs at h
  split at h
  · rename_i v hv
    exact ⟨v, hv, beq_iff_eq.1 h⟩
  · cases h

/-- The decimal loses its last digit to the exponent. The zero that is left is written with a sign,
and the sign is not read. The parts of the duration count in both directions, and the moment lies in
a leap second. -/
theorem roundings_read_back :
    (∃ v w, read .decimal "-0.4e-28" = .ok (some v) ∧
      v.text = "-0.0000000000000000000000000000" ∧ read .decimal v.text = .ok (some w) ∧
      w.text = "0.0000000000000000000000000000" ∧ v.equal w) ∧
    (∃ v w, read .duration " -1.-2:3:04.50 " = .ok (some v) ∧ v.text = "-22:03:04.5" ∧
      read .duration v.text = .ok (some w) ∧ v.equal w) ∧
    ∃ v w, read .dateTime "2016-12-31t23:59:60.25-00:30" = .ok (some v) ∧
      v.text = "2016-12-31T23:59:60.250-00:30" ∧ read .dateTime v.text = .ok (some w) ∧
      v.equal w := by
  refine ⟨?_, ?_, ?_⟩
  · obtain ⟨v, hv, htext⟩ := exists_of_readsAs
      (show readsAs .decimal "-0.4e-28" "-0.0000000000000000000000000000" by decide +kernel)
    obtain ⟨w, hw, hequal⟩ := read_back hv nofun nofun
    obtain ⟨w', hw', htext'⟩ := exists_of_readsAs
      (show readsAs .decimal v.text "0.0000000000000000000000000000" by
        rw [htext]
        decide +kernel)
    obtain rfl := Option.some.inj (Except.ok.inj (hw.symm.trans hw'))
    exact ⟨v, w, hv, htext, hw, htext', hequal⟩
  · obtain ⟨v, hv, htext⟩ := exists_of_readsAs
      (show readsAs .duration " -1.-2:3:04.50 " "-22:03:04.5" by decide +kernel)
    obtain ⟨w, hw, hequal⟩ := read_back hv nofun nofun
    exact ⟨v, w, hv, htext, hw, hequal⟩
  · obtain ⟨v, hv, htext⟩ := exists_of_readsAs
      (show readsAs .dateTime "2016-12-31t23:59:60.25-00:30" "2016-12-31T23:59:60.250-00:30" by
        decide +kernel)
    obtain ⟨w, hw, hequal⟩ := read_back hv nofun nofun
    exact ⟨v, w, hv, htext, hw, hequal⟩

end Atomic

end Schemata
