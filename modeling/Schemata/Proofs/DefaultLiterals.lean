import Schemata.Outline.Basic
import Schemata.Proofs.Defaults
import Schemata.Proofs.ListTexts

/-!
# Default values in outlines

The outline of an attribute has its default value as a literal. Read as a value of the type of the
attribute, the literal gives the default value back if the type is atomic, and never if it is a list
type (`default_literal`): lists are read word by word, and are written with marks around the words.
-/

namespace Schemata

theorem Kind.isAtomic_eq_false_of_isList {k : Kind} (h : k.isList) : k.isAtomic = false := by
  cases k <;> first | rfl | cases h

namespace Schema

variable {s : Schema} {type : TypeId}

/-- A value of an atomic type that was read is read again from its written form. -/
theorem exists_readValue_text {v : Atomic} (hread : (SimpleValue.atomic v).IsRead)
    (hkind : s.fitsKind (s.typeDef type) (.atomic v)) (hdouble : (s.typeDef type).kind ≠ .double)
    (hsingle : (s.typeDef type).kind ≠ .single) :
    (s.typeDef type).kind.isAtomic ∧ ∃ w, s.readValue type (SimpleValue.atomic v).text =
      .ok (some w) ∧ (SimpleValue.atomic v).equal w := by
  rw [fitsKind, Bool.and_eq_true, beq_iff_eq] at hkind
  obtain ⟨hatomic, hk⟩ := hkind
  obtain ⟨literal, hliteral⟩ := hread
  obtain ⟨w, hw, heq⟩ := Atomic.read_text
    (Atomic.regular_of_read hliteral (hk ▸ hdouble) (hk ▸ hsingle))
  refine ⟨hatomic, .atomic w, ?_, heq⟩
  rw [hk] at hw
  simp only [readValue, hatomic, if_true, SimpleValue.text, hw]
  rfl

/-- A list that was read is not read again from its written form. -/
theorem equal_eq_false_of_readValue {vs : List SimpleValue} (hread : (SimpleValue.list vs).IsRead)
    {w : SimpleValue} (hw : s.readValue type (SimpleValue.list vs).text = .ok (some w)) :
    (SimpleValue.list vs).equal w = false := by
  obtain ⟨k, literal, hliteral⟩ := hread
  unfold readValue at hw
  dsimp only at hw
  split at hw
  · obtain ⟨o, -, hw⟩ := bind_eq_ok hw
    obtain ⟨a, -, rfl⟩ := Option.map_eq_some_iff.1 (Except.ok.inj hw)
    rfl
  · split at hw
    · split at hw
      · cases hw
      · obtain ⟨o, ho, hw⟩ := bind_eq_ok hw
        obtain ⟨ws, rfl, rfl⟩ := Option.map_eq_some_iff.1 (Except.ok.inj hw)
        exact SimpleValue.equalItems_eq_false_of_read hliteral ho
    · cases hw

end Schema

/-- The default value of an attribute is read back from the literal that the outline of the
attribute has for it, as an equal value, if the type of the attribute is atomic. If it is a list
type, the literal is never read as an equal value. -/
theorem default_literal {namespaces : List NamespaceDecl} {limits : Limits} {s : Schema}
    (h : Accepts namespaces limits s) {a : Attribute} (ha : s.HasAttribute a) {v : SimpleValue}
    (hv : a.defaultValue = some v) (hdouble : (s.typeDef a.type).kind ≠ .double)
    (hsingle : (s.typeDef a.type).kind ≠ .single) :
    ∃ literal, (s.attributeOutline a).defaultValue = some literal ∧
      ((∃ w, s.readValue a.type literal = .ok (some w) ∧ v.equal w) ↔
        (s.typeDef a.type).kind.isAtomic) := by
  have hfits := h.sound.defaultFits ha v hv
  refine ⟨v.text, congrArg (Option.map SimpleValue.text) hv, ?_⟩
  cases v with
  | atomic x =>
    obtain ⟨hatomic, hw⟩ := Schema.exists_readValue_text hfits.read hfits.kind hdouble hsingle
    exact iff_of_true hw hatomic
  | list vs =>
    have hlist : (s.typeDef a.type).kind.isList := (Bool.and_eq_true_iff.1 hfits.kind).1
    refine iff_of_false ?_ (by simp [Kind.isAtomic_eq_false_of_isList hlist])
    rintro ⟨w, hw, hequal⟩
    rw [Schema.equal_eq_false_of_readValue hfits.read hw] at hequal
    cases hequal

/-- Lists of integers, and two global attributes with default values: an integer and a list. -/
def meters : List NamespaceDecl :=
  let text (name : String) : Ident := ⟨name, none⟩
  [{ uri := "urn:meters"
     members := [
      .type { name := text "Counts", body := .list (.ofText "Int32") },
      .attr { name := text "start", type := .ofText "Int32", defaultValue := some " +07" },
      .attr { name := text "marks", type := .ofText "Counts", defaultValue := some "1 2" }] }]

/-- The default value of the integer attribute is read back from its outline. -/
theorem start_reads_back : ∃ a v literal w, (schemaOf meters {}).HasAttribute a ∧
    a.defaultValue = some v ∧
    ((schemaOf meters {}).attributeOutline a).defaultValue = some literal ∧
    (schemaOf meters {}).readValue a.type literal = .ok (some w) ∧ v.equal w := by
  have hs : Accepts meters {} (schemaOf meters {}) := accepts_schemaOf (by decide +kernel)
  have h : ((schemaOf meters {}).attribute? ⟨0⟩).any (fun a => a.defaultValue.isSome &&
      ((schemaOf meters {}).typeDef a.type).kind == .integer .int32) = true := by decide +kernel
  obtain ⟨a, ha, h⟩ := (Option.any_eq_true _ _).1 h
  simp only [Bool.and_eq_true, Option.isSome_iff_exists, beq_iff_eq] at h
  obtain ⟨⟨v, hv⟩, hk⟩ := h
  have hmem : (schemaOf meters {}).HasAttribute a := Or.inl ⟨_, ha⟩
  obtain ⟨literal, hliteral, hiff⟩ :=
    default_literal hs hmem hv (by rw [hk]; decide) (by rw [hk]; decide)
  obtain ⟨w, hw, hequal⟩ := hiff.2 (by rw [hk]; rfl)
  exact ⟨a, v, literal, w, hmem, hv, hliteral, hw, hequal⟩

/-- The default value of the attribute with a list of integers is written as a literal that its type
does not have. -/
theorem marks_unread : Accepts meters {} (schemaOf meters {}) ∧ ∃ a v literal,
    (schemaOf meters {}).HasAttribute a ∧ a.defaultValue = some v ∧
    ((schemaOf meters {}).typeDef a.type).item? = some (Kind.integer .int32).typeId ∧
    ((schemaOf meters {}).attributeOutline a).defaultValue = some literal ∧
    (schemaOf meters {}).readValue a.type literal = .ok none := by
  have h : ((schemaOf meters {}).attribute? ⟨1⟩).any (fun a =>
      ((schemaOf meters {}).typeDef a.type).item? == some (Kind.integer .int32).typeId &&
      a.defaultValue.any fun v =>
        ((schemaOf meters {}).readValue a.type v.text).toOption.any Option.isNone) = true := by
    decide +kernel
  obtain ⟨a, ha, h⟩ := (Option.any_eq_true _ _).1 h
  obtain ⟨hitem, h⟩ := Bool.and_eq_true_iff.1 h
  obtain ⟨v, hv, h⟩ := (Option.any_eq_true _ _).1 h
  obtain ⟨o, ho, h⟩ := (Option.any_eq_true _ _).1 h
  obtain rfl := Option.isNone_iff_eq_none.1 h
  refine ⟨accepts_schemaOf (by decide +kernel), a, v, v.text, Or.inl ⟨_, ha⟩, hv, eq_of_beq hitem,
    congrArg (Option.map SimpleValue.text) hv, ?_⟩
  cases hread : (schemaOf meters {}).readValue a.type v.text with
  | error e =>
    rw [hread] at ho
    cases ho
  | ok o =>
    rw [hread] at ho
    rw [Option.some.inj ho]

end Schemata
