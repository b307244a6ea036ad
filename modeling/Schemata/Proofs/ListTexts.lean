import Schemata.Proofs.WrittenAtoms

/-!
# Texts of lists

The written form of a list opens with `#[`, and a list is read word by word. So the first word of a
written list is no literal of any kind but that of texts (`Atomic.read_hash`), and of a list of
texts it is longer than the first text was. A list that was read is therefore never read again from
its written form (`SimpleValue.equalItems_eq_false_of_read`).
-/

namespace Schemata

/-! ## Words -/

namespace Text

/-- The word that a text begins with, empty if it begins with a blank, and the words after it. -/
def frontWord : List Char → List Char × List (List Char)
  | [] => ([], [])
  | c :: cs =>
    let (word, found) := frontWord cs
    if isBlank c then ([], if word.isEmpty then found else word :: found) else (c :: word, found)

theorem words_eq (cs : List Char) :
    words cs = if (frontWord cs).1.isEmpty then (frontWord cs).2
      else (frontWord cs).1 :: (frontWord cs).2 := by
  unfold words
  extract_lets step
  have hfold : ∀ cs, cs.foldr step ([], []) = frontWord cs := by
    intro cs
    induction cs with
    | nil => rfl
    | cons c cs ih => rw [List.foldr_cons, ih, frontWord]
  rw [hfold]

theorem frontWord_append {word : List Char} (hword : ∀ c ∈ word, isBlank c = false)
    (rest : List Char) :
    frontWord (word ++ rest) = (word ++ (frontWord rest).1, (frontWord rest).2) := by
  induction word with
  | nil => rfl
  | cons c word ih =>
    obtain ⟨hc, hword⟩ := List.forall_mem_cons.1 hword
    simp only [List.cons_append, frontWord, ih hword, hc, Bool.false_eq_true, if_false]

theorem frontWord_of_head {rest : List Char} (h : ∀ c ∈ rest.head?, isBlank c) :
    frontWord rest = ([], words rest) := by
  rw [words_eq]
  cases rest with
  | nil => rfl
  | cons c rest => simp [frontWord, h c rfl]

/-- Characters up to a blank, or up to the end, are the first word. -/
theorem words_append {word rest : List Char} (hne : word ≠ [])
    (hword : ∀ c ∈ word, isBlank c = false) (hrest : ∀ c ∈ rest.head?, isBlank c) :
    words (word ++ rest) = word :: words rest := by
  rw [words_eq, frontWord_append hword, frontWord_of_head hrest, List.append_nil,
    if_neg (by simpa using hne)]

/-- The first word of a text that begins with one. -/
theorem words_cons {c : Char} (hc : isBlank c = false) (cs : List Char) :
    words (c :: cs) = (c :: cs.takeWhile (!isBlank ·)) :: words (cs.dropWhile (!isBlank ·)) := by
  have hword : ∀ d ∈ c :: cs.takeWhile (!isBlank ·), isBlank d = false :=
    List.forall_mem_cons.2 ⟨hc, fun d hd => by simpa using List.mem_takeWhile_imp hd⟩
  have hrest : ∀ d ∈ (cs.dropWhile (!isBlank ·)).head?, isBlank d := fun d hd => by
    have hhead := List.head?_dropWhile_not (!isBlank ·) cs
    rw [hd] at hhead
    simpa using hhead
  conv_lhs =>
    rw [← List.takeWhile_append_dropWhile (p := (!isBlank ·)) (l := cs), ← List.cons_append]
  exact words_append (List.cons_ne_nil _ _) hword hrest

/-- No word holds a blank. -/
theorem isBlank_of_mem_words {cs word : List Char} (h : word ∈ words cs) :
    ∀ c ∈ word, isBlank c = false := by
  have key : ∀ cs, ∀ word ∈ (frontWord cs).1 :: (frontWord cs).2,
      ∀ c ∈ word, isBlank c = false := by
    intro cs
    induction cs with
    | nil => simp [frontWord]
    | cons c cs ih =>
      obtain ⟨hword, hfound⟩ := List.forall_mem_cons.1 ih
      simp only [frontWord]
      split
      · refine List.forall_mem_cons.2 ⟨List.forall_mem_nil _, ?_⟩
        dsimp only
        split
        · exact hfound
        · exact ih
      · rename_i hc
        exact List.forall_mem_cons.2 ⟨List.forall_mem_cons.2 ⟨by simpa using hc, hword⟩, hfound⟩
  rw [words_eq] at h
  split at h
  · exact key cs word (List.mem_cons_of_mem _ h)
  · exact key cs word h

end Text

/-! ## Literals that begin with a hash -/

theorem Text.natural?_hash (cs : List Char) : Text.natural? ('#' :: cs) = none := by
  have hdigit : '#'.isDigit = false := by decide
  simp [Text.natural?, hdigit]

theorem Decimal.readSigned_hash (cs : List Char) : Decimal.readSigned ('#' :: cs) = none := by
  have hdigit : '#'.isDigit = false := by decide
  have hplain : readPlain {} ('#' :: cs) = none := by
    rw [readPlain]
    simp [hdigit]
  simp [readSigned, hplain]

theorem Decimal.read?_hash (cs : List Char) : Decimal.read? ('#' :: cs) = none := by
  rw [read?, readSigned_hash, Option.none_or]
  simp only [readScientific]
  split
  · rfl
  · rw [List.takeWhile_cons_of_pos (by decide), readSigned_hash]
    rfl

theorem Atomic.readInteger_hash (k : IntegerKind) (cs : List Char) :
    Atomic.readInteger k ('#' :: cs) = none := by
  simp [readInteger, Text.natural?_hash]

theorem ofList_hash_ne {word : String} (h : word.toList.head? ≠ some '#') (cs : List Char) :
    String.ofList ('#' :: cs) ≠ word := by
  rintro rfl
  simp at h

theorem Atomic.readBoolean_hash (cs : List Char) : Atomic.readBoolean ('#' :: cs) = none := by
  unfold readBoolean
  split
  · exact absurd ‹_› (ofList_hash_ne (by decide) cs)
  · exact absurd ‹_› (ofList_hash_ne (by decide) cs)
  · rfl

theorem Double.read?_hash (cs : List Char) : Double.read? ('#' :: cs) = none := by
  have hdigit : '#'.isDigit = false := by decide
  have hmagnitude : ∀ negative, readMagnitude negative ('#' :: cs) = none := fun negative => by
    simp [readMagnitude, hdigit]
  have hlower : ('#' :: cs).map Char.toLower = '#' :: cs.map Char.toLower := rfl
  have hsign : (some '#' == some '-') = false := by decide
  have hplus : (some '#' == some '+') = false := by decide
  simp only [read?, List.head?_cons, hsign, hplus, Bool.or_self, Bool.false_eq_true, if_false,
    hlower]
  split
  · exact absurd ‹_› (ofList_hash_ne (by decide) _)
  · exact absurd ‹_› (ofList_hash_ne (by decide) _)
  · exact absurd ‹_› (ofList_hash_ne (by decide) _)
  · exact hmagnitude _

theorem Guid.ofDigits?_hash (cs : List Char) : Guid.ofDigits? ('#' :: cs) = none := by
  have hdigit : digit? '#' = none := by decide
  simp [ofDigits?, hdigit]

theorem Guid.read?_hash (cs : List Char) : Guid.read? ('#' :: cs) = none := by
  have hgrouped : readGrouped ('#' :: cs) = none := by
    rw [readGrouped, List.filter_cons_of_pos (by decide), ofDigits?_hash]
    split <;> rfl
  unfold read?
  split
  · exact ofDigits?_hash cs
  · exact hgrouped
  · rw [if_neg (by simp)]
  · rw [if_neg]
    intro h
    have hhead : some '#' = "urn:uuid:".toList.head? := congrArg List.head? (eq_of_beq h)
    exact absurd hhead (by decide)
  · rfl

theorem Base64.decode?_hash (cs : List Char) : Base64.decode? ('#' :: cs) = none := by
  have hdigit : value? '#' = none := by decide
  match cs with
  | [] => rfl
  | [_] => rfl
  | [_, _] => rfl
  | [x, y, z] => simp [decode?, decodeLast, hdigit]
  | x :: y :: z :: c :: cs => simp [decode?, hdigit]

theorem Duration.readPart_hash (cs : List Char) : Duration.readPart ('#' :: cs) = none := by
  simp [readPart, Text.natural?_hash]

theorem Duration.exists_splitFirst_hash (mark : Char) (h : mark ≠ '#') (cs : List Char) :
    ∃ front after, Duration.splitFirst mark ('#' :: cs) = ('#' :: front, after) := by
  have hkeep : ('#' != mark) = true := bne_iff_ne.2 h.symm
  unfold splitFirst
  split
  · exact ⟨cs, none, rfl⟩
  · rename_i after _
    refine ⟨cs.takeWhile (· != mark), some after, ?_⟩
    rw [List.takeWhile_cons, if_pos hkeep]

theorem Duration.readParts_hash (cs : List Char) : Duration.readParts ('#' :: cs) = none := by
  obtain ⟨first, rest, hfirst⟩ := exists_splitFirst_hash ':' (by decide) cs
  obtain ⟨days, hours, hdays⟩ := exists_splitFirst_hash '.' (by decide) first
  rw [Option.eq_none_iff_forall_ne_some]
  intro parts h
  rw [readParts, hfirst] at h
  obtain ⟨after, -, h⟩ := Option.bind_eq_some_iff.1 h
  obtain ⟨third, -, h⟩ := Option.bind_eq_some_iff.1 h
  dsimp only at h
  rw [hdays] at h
  -- with a point or without, a part that begins with the hash is read next
  cases hours with
  | none =>
    obtain ⟨n, hn, -⟩ := Option.bind_eq_some_iff.1 h
    cases (readPart_hash days).symm.trans hn
  | some hours =>
    obtain ⟨n, hn, -⟩ := Option.bind_eq_some_iff.1 h
    cases (readPart_hash days).symm.trans hn

theorem Duration.read_hash (cs : List Char) : Duration.read ('#' :: cs) = .ok none := by
  simp [read, readParts_hash]

theorem Moment.read?_hash (cs : List Char) : Moment.read? ('#' :: cs) = none := by
  have hyear : takeDigits 4 ('#' :: cs) = none := by
    simp [takeDigits, Text.natural?_hash]
  rw [read?, hyear]
  rfl

/-- No literal that begins with a hash is read as a value of a kind, but for the kinds of texts. -/
theorem Atomic.read_hash {k : Kind} (hstring : k ≠ .string) (hfolded : k ≠ .ignoreCaseString)
    {cs : List Char} (hcs : ∀ c ∈ cs, Text.isBlank c = false) :
    Atomic.read k (String.ofList ('#' :: cs)) = .ok none := by
  have htrim : Text.trim ('#' :: cs) = '#' :: cs :=
    Text.trim_eq_self (List.forall_mem_cons.2 ⟨by decide, hcs⟩)
  unfold read
  simp only [String.toList_ofList, htrim]
  cases k with
  | string => exact absurd rfl hstring
  | ignoreCaseString => exact absurd rfl hfolded
  | decimal => rw [Decimal.read?_hash]; rfl
  | integer k => exact congrArg Except.ok (readInteger_hash k cs)
  | double => rw [Double.read?_hash]; rfl
  | single => rw [Double.read?_hash]; rfl
  | boolean => exact congrArg Except.ok (readBoolean_hash cs)
  | binary => rw [Base64.decode?_hash]; rfl
  | guid => rw [Guid.read?_hash]; rfl
  | duration => rw [Duration.read_hash]; rfl
  | dateTime => rw [Moment.read?_hash]; rfl
  | complexType | simpleType | atomicType | listType => rfl

/-! ## Lengths of folded texts -/

namespace Text

/-- The number of characters that a text has in lower case. -/
def lowerLength (cs : List Char) : Nat :=
  (cs.map fun c => if c.toNat == 0x3A3 then 1 else (lowerChar c).length).sum

theorem length_lowerAfter (before cs : List Char) :
    (lowerAfter before cs).length = lowerLength cs := by
  induction cs generalizing before with
  | nil => rfl
  | cons c cs ih =>
    rw [lowerAfter, List.length_append, ih, lowerLength, lowerLength, List.map_cons, List.sum_cons]
    split <;> rfl

theorem length_lowercase (text : String) :
    (lowercase text).toList.length = lowerLength text.toList := by
  rw [lowercase, String.toList_ofList, length_lowerAfter]

/-- A text in lower case is longer with a mark of a list before it. -/
theorem lowerLength_lt (cs rest : List Char) :
    lowerLength cs < lowerLength ('#' :: '[' :: (cs ++ rest)) := by
  have hhash : lowerLength ['#', '['] = 2 := by decide
  have hsplit : ∀ as bs : List Char, lowerLength (as ++ bs) = lowerLength as + lowerLength bs :=
    fun as bs => by simp only [lowerLength, List.map_append, List.sum_append]
  change _ < lowerLength (['#', '['] ++ (cs ++ rest))
  rw [hsplit, hsplit, hhash]
  omega

end Text

/-! ## Lists -/

theorem Atomic.kind_eq_of_equal {v w : Atomic} (h : v.equal w) : v.kind = w.kind := by
  cases v <;> cases w <;> first | rfl | cases h | skip
  -- only integers are of several kinds
  obtain ⟨hk, -⟩ := Bool.and_eq_true_iff.1 h
  exact congrArg Kind.integer (eq_of_beq hk)

theorem Schema.exists_of_readAll_cons {k : Kind} {literal : String} {literals : List String}
    {vs : List SimpleValue} (h : readAll k (literal :: literals) = .ok (some vs)) :
    ∃ v rest, vs = .atomic v :: rest ∧ Atomic.read k literal = .ok (some v) ∧
      readAll k literals = .ok (some rest) := by
  obtain ⟨o, ho, h⟩ := bind_eq_ok h
  cases o with
  | none => cases h
  | some v =>
    obtain ⟨o, hrest, h⟩ := bind_eq_ok h
    obtain ⟨rest, rfl, rfl⟩ := Option.map_eq_some_iff.1 (Except.ok.inj h)
    exact ⟨v, rest, rfl, ho, hrest⟩

namespace SimpleValue

theorem exists_toList_text_cons (v : SimpleValue) (vs : List SimpleValue) :
    ∃ rest, (text (.list (v :: vs))).toList = '#' :: '[' :: (v.text.toList ++ rest) := by
  cases vs with
  | nil => exact ⟨[']'], by simp [text, itemTexts]⟩
  | cons w ws =>
    refine ⟨' ' :: ((String.intercalate " " (itemTexts (w :: ws))).toList ++ [']']), ?_⟩
    simp [text, itemTexts, String.intercalate_cons_cons]

theorem exists_toList_text_list (vs : List SimpleValue) :
    ∃ rest, (text (.list vs)).toList = '#' :: rest := by
  refine ⟨'[' :: ((String.intercalate " " (itemTexts vs)).toList ++ [']']), ?_⟩
  simp [text]

/-- A text is not equal to that text with the mark of a list before it. -/
theorem not_equal_marked {k : Kind} (hk : k = .string ∨ k = .ignoreCaseString)
    {word rest : List Char} {v w : Atomic} (hv : Atomic.read k (String.ofList word) = .ok (some v))
    (hw : Atomic.read k (String.ofList ('#' :: '[' :: (word ++ rest))) = .ok (some w)) :
    v.equal w = false := by
  rcases hk with rfl | rfl
  · cases hv
    cases hw
    refine beq_false_of_ne fun heq => ?_
    have hlength := congrArg List.length (congrArg String.toList heq)
    simp only [String.toList_ofList, List.length_cons, List.length_append] at hlength
    omega
  · cases hv
    cases hw
    refine beq_false_of_ne fun heq => ?_
    have hlength := congrArg List.length (congrArg String.toList heq)
    rw [Text.length_lowercase, Text.length_lowercase, String.toList_ofList,
      String.toList_ofList] at hlength
    exact absurd hlength (Nat.ne_of_lt (Text.lowerLength_lt word rest))

/-- The values that the words of a written list are read as are not those of the list. -/
theorem equalItems_eq_false_of_read {k l : Kind} {literal : List Char} {vs ws : List SimpleValue}
    (hvs : Schema.readAll k ((Text.words literal).map String.ofList) = .ok (some vs))
    (hws : Schema.readAll l ((Text.words (text (.list vs)).toList).map String.ofList) =
      .ok (some ws)) : equalItems vs ws = false := by
  have hhash : Text.isBlank '#' = false := by decide
  have hbracket : Text.isBlank '[' = false := by decide
  -- the written form begins with a word that no kind but those of texts reads
  obtain ⟨tail, htail⟩ := exists_toList_text_list vs
  have hfirst : ∀ c ∈ tail.takeWhile (!Text.isBlank ·), Text.isBlank c = false := fun c hc => by
    simpa using List.mem_takeWhile_imp hc
  rw [htail, Text.words_cons hhash, List.map_cons] at hws
  obtain ⟨w, ws, rfl, hw, -⟩ := Schema.exists_of_readAll_cons hws
  have hl : l = .string ∨ l = .ignoreCaseString := by
    by_contra hl
    rw [not_or] at hl
    cases hw.symm.trans (Atomic.read_hash hl.1 hl.2 hfirst)
  cases hwords : Text.words literal with
  | nil =>
    rw [hwords] at hvs
    cases hvs
    rfl
  | cons word words =>
    rw [hwords, List.map_cons] at hvs
    obtain ⟨v, vs, rfl, hv, -⟩ := Schema.exists_of_readAll_cons hvs
    have hword : ∀ c ∈ word, Text.isBlank c = false :=
      Text.isBlank_of_mem_words (hwords ▸ List.mem_cons_self)
    rw [equalItems, Bool.and_eq_false_iff]
    left
    by_contra hequal
    rw [Bool.not_eq_false] at hequal
    have hkind := Atomic.kind_eq_of_equal hequal
    rw [Atomic.kind_read hv, Atomic.kind_read hw] at hkind
    subst hkind
    have htext : (SimpleValue.atomic v).text.toList = word := by
      rcases hl with rfl | rfl
      · cases hv
        exact String.toList_ofList
      · cases hv
        exact String.toList_ofList
    obtain ⟨rest, hrest⟩ := exists_toList_text_cons (.atomic v) vs
    rw [htail, htext] at hrest
    obtain ⟨-, rfl⟩ := List.cons.inj hrest
    rw [List.takeWhile_cons_of_pos (by simp [hbracket]),
      List.takeWhile_append_of_pos (by simpa using hword)] at hw
    rw [equal, not_equal_marked hl hv hw] at hequal
    cases hequal

end SimpleValue

end Schemata
