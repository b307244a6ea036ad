import Mathlib.Data.List.Forall2
import Schemata.Outline.Basic
import Schemata.Proofs.Facets
import Schemata.Proofs.Values
import Schemata.Proofs.WrittenAtoms

/-!
# Outlines of facets

The outline of facets is a list of keywords and texts. The texts tell the facets apart: lengths,
digits and patterns as such, and values up to equality, as they were all read from literals and so
are read again from their texts (`Atomic.equal_of_text_eq`).

With an enumeration it is not quite so. An empty one has no texts, as if there were none. And the
display name stands behind the value and the word `as`, where a value that is a text may have that
word in it as well. Of values that do not (`Atomic.IsPlain`) the text tells the value and the name.
-/

namespace Schemata

/-! ## Texts of values -/

namespace Atomic

/-- The word in front of a display name. -/
def nameMark : List Char := " as ".toList

/-- Where a display name follows the value, the word in front of it does not come earlier. -/
def IsPlain (v : Atomic) : Prop := ¬nameMark <:+: v.text.toList ++ [' ']

variable {k : Kind} {v w : Atomic}

/-- Values of one kind that were read and have one text are equal. -/
theorem equal_of_text_eq (hdouble : k ≠ .double) (hsingle : k ≠ .single) (hv : v.IsReadAs k)
    (hw : w.IsReadAs k) (h : v.text = w.text) : v.equal w := by
  obtain ⟨_, hv⟩ := hv
  obtain ⟨_, hw⟩ := hw
  obtain ⟨v', hread, hequal⟩ := read_back hv hdouble hsingle
  obtain ⟨w', hread', hequal'⟩ := read_back hw hdouble hsingle
  rw [h] at hread
  obtain rfl := Option.some.inj (Except.ok.inj (hread.symm.trans hread'))
  exact equal_trans hequal (equal_symm hequal')

/-- Texts without blanks are plain, and only texts as values have blanks. -/
theorem isPlain_of_not_mem (h : ' ' ∉ v.text.toList) : v.IsPlain := by
  rintro ⟨front, back, heq⟩
  have hlength := congrArg List.length heq
  have hlt : front.length < v.text.toList.length := by
    simp only [List.length_append, List.length_singleton,
      show nameMark.length = 4 from rfl] at hlength
    omega
  have hblank := congrArg (·[front.length]?) heq
  simp only [List.append_assoc, List.getElem?_append_right le_rfl, Nat.sub_self,
    List.getElem?_append_left hlt] at hblank
  exact h (List.mem_of_getElem? hblank.symm)

theorem isPlain_of_kind (hstring : v.kind ≠ .string) (hignore : v.kind ≠ .ignoreCaseString)
    (hdouble : v.kind ≠ .double) (hsingle : v.kind ≠ .single) : v.IsPlain := by
  refine isPlain_of_not_mem fun hmem => ?_
  have hvisible : Text.IsVisible ' ' := by
    cases v with
    | string s => exact absurd rfl hstring
    | ignoreCaseString s => exact absurd rfl hignore
    | double x => exact absurd rfl hdouble
    | single x => exact absurd rfl hsingle
    | decimal d => exact d.isVisible_text _ (by simpa [text] using hmem)
    | integer i n h => exact isVisible_toString n _ hmem
    | boolean b => cases b <;> exact absurd hmem (by decide)
    | binary bytes => exact Base64.isVisible_encode bytes _ (by simpa [text] using hmem)
    | guid g => exact g.isVisible_text _ (by simpa [text] using hmem)
    | duration d => exact d.isVisible_text _ (by simpa [text] using hmem)
    | dateTime m => exact m.isVisible_text _ (by simpa [text] using hmem)
  exact absurd hvisible (by decide)

/-- A text is cut in one way at a word that comes first behind the value. -/
theorem eq_of_append_nameMark {v w n m : List Char} (hv : ¬nameMark <:+: v ++ [' '])
    (hw : ¬nameMark <:+: w ++ [' ']) (h : v ++ (nameMark ++ n) = w ++ (nameMark ++ m)) :
    v = w ∧ n = m := by
  wlog hle : v.length ≤ w.length generalizing v w n m with hsymm
  · exact (hsymm hw hv h.symm (Nat.le_of_not_le hle)).imp Eq.symm Eq.symm
  obtain ⟨between, rfl⟩ : v <+: w := List.prefix_of_prefix_length_le (List.prefix_append _ _)
    (h.symm ▸ List.prefix_append w (nameMark ++ m)) hle
  rw [List.append_assoc, List.append_cancel_left_eq] at h
  -- two words that overlap do so in the blank between them at most
  match between with
  | [] => exact ⟨(List.append_nil v).symm, List.append_cancel_left h⟩
  | [_] | [_, _] => simp [nameMark] at h
  | [a, b, c] =>
    obtain ⟨rfl, rfl, rfl, -⟩ : ' ' = a ∧ 'a' = b ∧ 's' = c ∧ _ := by simpa [nameMark] using h
    exact absurd ⟨v, [], by simp [nameMark]⟩ hw
  | a :: b :: c :: d :: between =>
    obtain ⟨rfl, rfl, rfl, rfl, -⟩ : ' ' = a ∧ 'a' = b ∧ 's' = c ∧ ' ' = d ∧ _ := by
      simpa [nameMark] using h
    exact absurd ⟨v, between ++ [' '], by simp [nameMark]⟩ hw

end Atomic

/-! ## Bounds and items -/

/-- Two bounds are at equal values, and both or neither include it. -/
structure Bound.Agrees (b c : Bound) : Prop where
  value : b.value.equal c.value
  isInclusive : b.isInclusive = c.isInclusive

/-- Two items have equal values and the same display name, or none. -/
structure EnumItem.Agrees (i j : EnumItem) : Prop where
  value : i.value.equal j.value
  name : i.name = j.name

/-- What stands behind the value of a bound. -/
def Bound.ending (isInclusive : Bool) : String :=
  if isInclusive then " (inclusive)" else " (exclusive)"

theorem Bound.text_eq (b : Bound) : b.text = b.value.text ++ ending b.isInclusive := by
  unfold text ending
  split <;> rfl

theorem EnumItem.toList_text_of_none {i : EnumItem} (h : i.name = none) :
    i.text.toList = i.value.text.toList := by
  rw [text, h]

theorem EnumItem.toList_text_of_some {i : EnumItem} {name : String} (h : i.name = some name) :
    i.text.toList = i.value.text.toList ++ (Atomic.nameMark ++ name.toList) := by
  rw [text, h]
  change (i.value.text ++ " as " ++ name).toList = _
  rw [String.toList_append, String.toList_append, List.append_assoc, Atomic.nameMark]

/-- The text of an item without a name has no room for a name if the value is plain. -/
theorem EnumItem.name_eq_none {i j : EnumItem} (hi : i.name = none) (hplain : i.value.IsPlain)
    (h : i.text = j.text) : j.name = none := by
  by_contra hj
  obtain ⟨name, hj⟩ := Option.ne_none_iff_exists'.1 hj
  have hlist := congrArg String.toList h
  rw [toList_text_of_none hi, toList_text_of_some hj] at hlist
  refine hplain ⟨j.value.text.toList, name.toList ++ [' '], ?_⟩
  rw [hlist]
  simp only [List.append_assoc]

section Texts

variable {k : Kind} (hdouble : k ≠ .double) (hsingle : k ≠ .single)

include hdouble hsingle

theorem Bound.agrees_of_text_eq {b c : Bound} (hb : b.value.IsReadAs k) (hc : c.value.IsReadAs k)
    (h : b.text = c.text) : b.Agrees c := by
  rw [Bound.text_eq, Bound.text_eq] at h
  have hlist := congrArg String.toList h
  rw [String.toList_append, String.toList_append] at hlist
  have hlength : ∀ p q, (Bound.ending p).toList.length = (Bound.ending q).toList.length := by decide
  have hinj : ∀ p q, (Bound.ending p).toList = (Bound.ending q).toList → p = q := by decide
  obtain ⟨hvalue, hending⟩ := List.append_inj' hlist (hlength _ _)
  exact ⟨Atomic.equal_of_text_eq hdouble hsingle hb hc (String.toList_inj.1 hvalue), hinj _ _ hending⟩

theorem EnumItem.agrees_of_text_eq {i j : EnumItem} (hi : i.value.IsReadAs k)
    (hj : j.value.IsReadAs k) (hplain : i.value.IsPlain) (hplain' : j.value.IsPlain)
    (h : i.text = j.text) : i.Agrees j := by
  have hequal := Atomic.equal_of_text_eq hdouble hsingle hi hj
  cases hn : i.name with
  | none =>
    have hm := EnumItem.name_eq_none hn hplain h
    have hlist := congrArg String.toList h
    rw [EnumItem.toList_text_of_none hn, EnumItem.toList_text_of_none hm] at hlist
    exact ⟨hequal (String.toList_inj.1 hlist), hn.trans hm.symm⟩
  | some name =>
    cases hm : j.name with
    | none => cases hn.symm.trans (EnumItem.name_eq_none hm hplain' h.symm)
    | some name' =>
      have hlist := congrArg String.toList h
      rw [EnumItem.toList_text_of_some hn, EnumItem.toList_text_of_some hm] at hlist
      obtain ⟨hvalue, hname⟩ := Atomic.eq_of_append_nameMark hplain hplain' hlist
      refine ⟨hequal (String.toList_inj.1 hvalue), ?_⟩
      rw [hn, hm, String.toList_inj.1 hname]

theorem EnumItem.forall₂_of_map_text {is js : List EnumItem} (hi : ∀ i ∈ is, i.value.IsReadAs k)
    (hj : ∀ j ∈ js, j.value.IsReadAs k) (h : is.map EnumItem.text = js.map EnumItem.text) :
    List.Forall₂ (fun i j => i.text = j.text ∧ (i.value.IsPlain → j.value.IsPlain → i.Agrees j))
      is js := by
  induction is generalizing js with
  | nil =>
    obtain rfl := List.map_eq_nil_iff.1 h.symm
    exact .nil
  | cons i is ih =>
    cases js with
    | nil => cases h
    | cons j js =>
      obtain ⟨htext, htexts⟩ := List.cons_eq_cons.1 h
      obtain ⟨hi, his⟩ := List.forall_mem_cons.1 hi
      obtain ⟨hj, hjs⟩ := List.forall_mem_cons.1 hj
      exact .cons ⟨htext, fun hplain hplain' =>
        EnumItem.agrees_of_text_eq hdouble hsingle hi hj hplain hplain' htext⟩ (ih his hjs htexts)

end Texts

/-! ## Facets that are narrowed step by step -/

namespace Narrowing

variable (base : FacetSet) (n : Narrowing)

theorem lengthRange_result (d : LengthRangeDecl) : ∃ least greatest,
    (lengthRange base d n).result =
      { n.result with leastLength := least, greatestLength := greatest } := by
  refine ⟨(lengthRange base d n).result.leastLength,
    (lengthRange base d n).result.greatestLength, ?_⟩
  unfold lengthRange fault
  dsimp only
  repeat' split
  all_goals rfl

theorem precision_result (d : CountDecl) :
    ∃ bound, (precision base d n).result = { n.result with precision := bound } := by
  refine ⟨(precision base d n).result.precision, ?_⟩
  unfold precision fault
  repeat' split
  all_goals rfl

theorem scale_result (d : CountDecl) :
    ∃ bound, (scale base d n).result = { n.result with scale := bound } := by
  refine ⟨(scale base d n).result.scale, ?_⟩
  unfold scale fault
  repeat' split
  all_goals rfl

theorem pattern_result (d : PatternDecl) :
    ∃ patterns, (pattern n d).result = { n.result with patterns := patterns } := by
  refine ⟨(pattern n d).result.patterns, ?_⟩
  unfold pattern fault
  repeat' split
  all_goals rfl

end Narrowing

namespace FacetSet

/-- Facets that are obtained for a kind by narrowing no facets, and these again, and so on. -/
inductive NarrowedFor (k : Kind) : FacetSet → Prop
  | start : NarrowedFor k {}
  | step {base f : FacetSet} {block : FacetBlock} (hbase : NarrowedFor k base)
    (h : narrow k base block = .ok (.ok f)) : NarrowedFor k f

/-- All values of facets were read from literals of a kind. -/
structure IsReadAs (f : FacetSet) (k : Kind) : Prop where
  least : ∀ b, f.least = some b → b.value.IsReadAs k
  greatest : ∀ b, f.greatest = some b → b.value.IsReadAs k
  enumeration : ∀ i ∈ f.enumeration.getD [], i.value.IsReadAs k

variable {k : Kind} {f g base : FacetSet}

theorem isReadAs_of_narrow {block : FacetBlock} (hbase : base.IsReadAs k)
    (h : narrow k base block = .ok (.ok f)) : f.IsReadAs k := by
  obtain ⟨n, hn, h⟩ := bind_eq_ok h
  have hread : n.result.IsReadAs k := by
    refine Narrowing.narrowing_keeps (P := (·.IsReadAs k)) hbase (fun d n h => ?_) (fun d n h => ?_)
      (fun d n h => ?_) (fun d n n' h hn => ?_) (fun bs n n' h hn => ?_) (fun d n h => ?_) hn
    · obtain ⟨_, _, hr⟩ := Narrowing.lengthRange_result base n d
      exact hr ▸ { h with }
    · obtain ⟨_, hr⟩ := Narrowing.precision_result base n d
      exact hr ▸ { h with }
    · obtain ⟨_, hr⟩ := Narrowing.scale_result base n d
      exact hr ▸ { h with }
    · exact Narrowing.valueRange_keeps (P := (·.IsReadAs k))
        (fun f b h hb _ => { h with least := fun c hc => Option.some.inj hc ▸ hb })
        (fun f b h hb _ => { h with greatest := fun c hc => Option.some.inj hc ▸ hb }) h hn
    · obtain ⟨items, hr, hitems⟩ := Narrowing.enumeration_cases (fun _ hv _ => hv) hn
      rw [hr]
      exact { h with enumeration := hitems }
    · obtain ⟨_, hr⟩ := Narrowing.pattern_result n d
      exact hr ▸ { h with }
  split at h
  · cases h
    exact hread
  · cases h

theorem NarrowedFor.isReadAs (h : f.NarrowedFor k) : f.IsReadAs k := by
  induction h with
  | start => exact ⟨fun _ hb => (by cases hb), fun _ hb => (by cases hb), fun _ hi => (by cases hi)⟩
  | step _ h ih => exact isReadAs_of_narrow ih h

/-! ## Texts by keyword -/

/-- The texts of a keyword. -/
def textsOf (keyword : String) (l : List (String × String)) : List String :=
  (l.filter (·.1 == keyword)).map (·.2)

theorem textsOf_append (keyword : String) (l l' : List (String × String)) :
    textsOf keyword (l ++ l') = textsOf keyword l ++ textsOf keyword l' := by
  rw [textsOf, List.filter_append, List.map_append, textsOf, textsOf]

theorem textsOf_map (keyword keyword' : String) {α : Type} (text : α → String) (l : List α) :
    textsOf keyword (l.map fun a => (keyword', text a)) =
      if keyword' = keyword then l.map text else [] := by
  unfold textsOf
  split
  · rename_i h
    subst h
    rw [List.filter_eq_self.2 (by simp), List.map_map]
    rfl
  · rename_i h
    rw [List.filter_eq_nil_iff.2 (by simp [h]), List.map_nil]

theorem textsOf_facetOutline (keyword keyword' : String) (text : Option String) :
    textsOf keyword (facetOutline keyword' text) =
      if keyword' = keyword then text.toList else [] := by
  cases text with
  | none => exact (ite_self _).symm
  | some text => exact textsOf_map keyword keyword' id [text]

/-- The outline of facets has the texts of each keyword together. -/
theorem textsOf_outline (f : FacetSet) :
    textsOf "min_length" f.outline = (f.leastLength.map toString).toList ∧
    textsOf "max_length" f.outline = (f.greatestLength.map toString).toList ∧
    textsOf "precision" f.outline = (f.precision.map toString).toList ∧
    textsOf "scale" f.outline = (f.scale.map toString).toList ∧
    textsOf "min_value" f.outline = (f.least.map Bound.text).toList ∧
    textsOf "max_value" f.outline = (f.greatest.map Bound.text).toList ∧
    textsOf "enum" f.outline = (f.enumeration.getD []).map EnumItem.text ∧
    textsOf "pattern" f.outline = f.patterns := by
  have hpatterns : ∀ keyword, textsOf keyword (f.patterns.map fun pattern => ("pattern", pattern)) =
      if "pattern" = keyword then f.patterns else [] := fun keyword => by
    simpa using textsOf_map keyword "pattern" id f.patterns
  simp only [outline, textsOf_append, textsOf_facetOutline, textsOf_map, hpatterns]
  simp

theorem eq_of_toList {a b : Option String} (h : a.toList = b.toList) : a = b := by
  simpa using congrArg List.head? h

theorem eq_of_map_toString {a b : Option Nat}
    (h : (a.map toString).toList = (b.map toString).toList) : a = b := by
  refine Option.map_injective (fun m n hmn => ?_) (eq_of_toList h)
  have hdigits : Nat.toDigits 10 m = Nat.toDigits 10 n := by
    simpa [toString, Nat.repr] using congrArg String.toList hmn
  have hread := congrArg Text.natural? hdigits
  rwa [Text.natural?_toDigits, Text.natural?_toDigits, Option.some.injEq] at hread

theorem agrees_of_map_text (hdouble : k ≠ .double) (hsingle : k ≠ .single) {a b : Option Bound}
    (ha : ∀ c, a = some c → c.value.IsReadAs k) (hb : ∀ c, b = some c → c.value.IsReadAs k)
    (h : (a.map Bound.text).toList = (b.map Bound.text).toList) : Option.Rel Bound.Agrees a b := by
  have htext := eq_of_toList h
  cases a with
  | none =>
    cases b with
    | none => exact .none
    | some c => cases htext
  | some c =>
    cases b with
    | none => cases htext
    | some d =>
      exact .some (Bound.agrees_of_text_eq hdouble hsingle (ha c rfl) (hb d rfl)
        (Option.some.inj htext))

/-- Two facets that are the same for a reader: values count up to equality. -/
structure Agrees (f g : FacetSet) : Prop where
  leastLength : f.leastLength = g.leastLength
  greatestLength : f.greatestLength = g.greatestLength
  precision : f.precision = g.precision
  scale : f.scale = g.scale
  least : Option.Rel Bound.Agrees f.least g.least
  greatest : Option.Rel Bound.Agrees f.greatest g.greatest
  enumeration : Option.Rel (List.Forall₂ EnumItem.Agrees) f.enumeration g.enumeration
  patterns : f.patterns = g.patterns

/-- Facets that were narrowed for one kind, apart from floating point numbers, agree if their outlines
do, but for enumerations: of these all texts agree, so that an empty one is taken for none, and items
agree wherever both values are plain. Values of other kinds than texts always are. -/
theorem agreement_of_outline (hdouble : k ≠ .double) (hsingle : k ≠ .single)
    (hf : f.NarrowedFor k) (hg : g.NarrowedFor k) (h : f.outline = g.outline) :
    (f.leastLength = g.leastLength ∧ f.greatestLength = g.greatestLength ∧
      f.precision = g.precision ∧ f.scale = g.scale ∧ Option.Rel Bound.Agrees f.least g.least ∧
      Option.Rel Bound.Agrees f.greatest g.greatest ∧ f.patterns = g.patterns) ∧
    List.Forall₂ (fun i j => i.text = j.text ∧
      (i.value.IsPlain → j.value.IsPlain → i.Agrees j)) (f.enumeration.getD [])
      (g.enumeration.getD []) ∧
    (k ≠ .string → k ≠ .ignoreCaseString →
      ∀ i ∈ f.enumeration.getD [] ++ g.enumeration.getD [], i.value.IsPlain) := by
  obtain ⟨h₁, h₂, h₃, h₄, h₅, h₆, h₇, h₈⟩ := f.textsOf_outline
  obtain ⟨k₁, k₂, k₃, k₄, k₅, k₆, k₇, k₈⟩ := g.textsOf_outline
  rw [h] at h₁ h₂ h₃ h₄ h₅ h₆ h₇ h₈
  have hreadf := hf.isReadAs
  have hreadg := hg.isReadAs
  refine ⟨⟨?_, ?_, ?_, ?_, ?_, ?_, h₈.symm.trans k₈⟩, ?_, fun hstring hignore => ?_⟩
  · exact eq_of_map_toString (h₁.symm.trans k₁)
  · exact eq_of_map_toString (h₂.symm.trans k₂)
  · exact eq_of_map_toString (h₃.symm.trans k₃)
  · exact eq_of_map_toString (h₄.symm.trans k₄)
  · exact agrees_of_map_text hdouble hsingle hreadf.least hreadg.least (h₅.symm.trans k₅)
  · exact agrees_of_map_text hdouble hsingle hreadf.greatest hreadg.greatest (h₆.symm.trans k₆)
  · exact EnumItem.forall₂_of_map_text hdouble hsingle hreadf.enumeration hreadg.enumeration
      (h₇.symm.trans k₇)
  · have hplain : ∀ i : EnumItem, i.value.IsReadAs k → i.value.IsPlain := fun i ⟨_, hread⟩ => by
      obtain rfl := Atomic.kind_read hread
      exact Atomic.isPlain_of_kind hstring hignore hdouble hsingle
    exact List.forall_mem_append.2 ⟨fun i hi => hplain i (hreadf.enumeration i hi),
      fun i hi => hplain i (hreadg.enumeration i hi)⟩

/-- The facets with one value and its display name. -/
def offering (value : String) (name : Option String) : FacetSet :=
  { enumeration := some [⟨.string value, name⟩] }

theorem narrowedFor_offering (value : String) (name : Option String) :
    (offering value name).NarrowedFor .string := by
  let block : FacetBlock := { enums := [{ items := [⟨name.map (⟨·, none⟩), value, none⟩] }] }
  have hnarrow : narrow .string {} block = .ok (.ok (offering value name)) := by
    cases name <;> rfl
  exact .step .start hnarrow

/-- The word in front of a display name may belong to the value as well, and an enumeration that has
no values leaves no trace. -/
theorem ambiguous_outlines :
    ((offering "trial" (some "error")).NarrowedFor .string ∧
      (offering "trial as error" none).NarrowedFor .string ∧
      (offering "trial" (some "error")).outline = (offering "trial as error" none).outline ∧
      ¬(offering "trial" (some "error")).Agrees (offering "trial as error" none)) ∧
    NarrowedFor .string { enumeration := some [] } ∧ NarrowedFor .string {} ∧
      outline { enumeration := some [] } = outline {} ∧ ¬Agrees { enumeration := some [] } {} := by
  have hempty : narrow .string {} { enums := [{}] } = .ok (.ok { enumeration := some [] }) := rfl
  refine ⟨⟨narrowedFor_offering _ _, narrowedFor_offering _ _, by decide, fun h => ?_⟩,
    .step .start hempty, .start, rfl, fun h => ?_⟩
  · cases h.enumeration with
    | some h =>
      cases h with
      | cons hitem => cases hitem.name
  · cases h.enumeration

theorem same_offering_agrees :
    (Kind.string ≠ .double ∧ Kind.string ≠ .single ∧
      (offering "post" (some "by post")).NarrowedFor .string ∧
      (offering "post" (some "by post")).outline = [("enum", "post as by post")]) ∧
    ∃ i : EnumItem, (offering "post" (some "by post")).enumeration = some [i] ∧
      i.value.IsPlain ∧ i.Agrees i := by
  have hnarrowed := narrowedFor_offering "post" (some "by post")
  have hplain : Atomic.IsPlain (.string "post") := by
    unfold Atomic.IsPlain
    decide
  refine ⟨⟨by decide, by decide, hnarrowed, by decide⟩, _, rfl, hplain, ?_⟩
  have hall := (agreement_of_outline (by decide) (by decide) hnarrowed hnarrowed rfl).2.1
  exact (List.forall₂_cons.1 hall).1.2 hplain hplain

end FacetSet

end Schemata
