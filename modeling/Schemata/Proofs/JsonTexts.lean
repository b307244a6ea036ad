import Schemata.Json.Reader
import Schemata.Json.Writer
import Schemata.Proofs.DigitTexts

/-!
# JSON texts

Reading a text that was written gives the value back, in every style (`read?_text`). The values are
those whose numbers are integers of 64 bits, and whose nesting is within the bound of the reader; a
value that nests deeper is refused.

The reader counts its steps. Every token takes a character (`Token.length_lt_of_read`), so the
count never ends it, and `Progress.read` is the same run without one. It follows the text of a value
to its end and hands the value to the innermost frame (`Progress.read_write`).
-/

namespace Schemata.Json

/-! ## Exact values -/

mutual

/-- No number but integers of 64 bits. -/
def Exact : Json → Prop
  | .integer n => -(1 <<< 63) ≤ n ∧ n < 1 <<< 64
  | .real _ => False
  | .array items => ItemsExact items
  | .object members => MembersExact members
  | _ => True

/-- Every item is exact. -/
def ItemsExact : List Json → Prop
  | [] => True
  | j :: js => Exact j ∧ ItemsExact js

/-- Every member is exact. -/
def MembersExact : List (String × Json) → Prop
  | [] => True
  | (_, j) :: rest => Exact j ∧ MembersExact rest

end

theorem exact_array {items : List Json} : (Json.array items).Exact ↔ ∀ j ∈ items, j.Exact := by
  rw [Exact]
  induction items with
  | nil => simp [ItemsExact]
  | cons j js ih => simp [ItemsExact, ih]

theorem exact_object {members : List (String × Json)} :
    (Json.object members).Exact ↔ ∀ m ∈ members, m.2.Exact := by
  rw [Exact]
  induction members with
  | nil => simp [MembersExact]
  | cons m rest ih => simp [MembersExact, ih]

theorem exact_ofNat {n : Nat} (h : n < 1 <<< 64) : (Json.integer n).Exact := by
  rw [Exact]
  omega

theorem depth_lt_of_mem_items {items : List Json} {j : Json} (h : j ∈ items) :
    j.depth < (Json.array items).depth := by
  rw [depth, Nat.lt_succ_iff]
  induction items with
  | nil => cases h
  | cons i rest ih =>
    rw [itemsDepth]
    rcases List.mem_cons.1 h with rfl | h
    · exact Nat.le_max_left ..
    · exact Nat.le_trans (ih h) (Nat.le_max_right ..)

theorem depth_lt_of_mem_members {members : List (String × Json)} {m : String × Json}
    (h : m ∈ members) : m.2.depth < (Json.object members).depth := by
  rw [depth, Nat.lt_succ_iff]
  induction members with
  | nil => cases h
  | cons i rest ih =>
    rw [membersDepth]
    rcases List.mem_cons.1 h with rfl | h
    · exact Nat.le_max_left ..
    · exact Nat.le_trans (ih h) (Nat.le_max_right ..)

/-! ## Tokens take characters -/

namespace Token

theorem length_lt_of_readString {done cs rest : List Char} {s : String}
    (h : readString done cs = some (s, rest)) : rest.length < cs.length := by
  fun_induction readString done cs
  all_goals try cases h
  case case1 => exact Nat.lt_succ_self _
  all_goals
    rename_i ih
    have hlt := ih h
    simp only [List.length_cons]
    omega

theorem length_le_of_takeFraction {cs rest : List Char} {fraction : Option (List Char)}
    (h : takeFraction cs = some (fraction, rest)) : rest.length ≤ cs.length := by
  unfold takeFraction at h
  split at h
  · dsimp only at h
    split at h
    · cases h
    · cases h
      exact Nat.le_succ_of_le (List.length_dropWhile_le ..)
  · cases h
    exact Nat.le_refl _

theorem length_le_of_takeExponentDigits {negative : Bool} {cs rest : List Char} {e : Int}
    (h : takeExponentDigits negative cs = some (e, rest)) : rest.length ≤ cs.length := by
  unfold takeExponentDigits at h
  dsimp only at h
  split at h
  · cases h
  · cases h
    exact List.length_dropWhile_le ..

theorem length_le_of_takeExponent {cs rest : List Char} {exponent : Option Int}
    (h : takeExponent cs = some (exponent, rest)) : rest.length ≤ cs.length := by
  unfold takeExponent at h
  split at h
  · rename_i mark tail
    split at h
    · obtain ⟨⟨e, r⟩, he, h⟩ := Option.map_eq_some_iff.1 h
      cases h
      have hle := length_le_of_takeExponentDigits he
      grind
    · cases h
      exact Nat.le_refl _
  · cases h
    exact Nat.le_refl _

theorem length_lt_of_readNumber {negative : Bool} {cs rest : List Char} {j : Json}
    (h : readNumber negative cs = some (j, rest)) : rest.length < cs.length := by
  unfold readNumber at h
  dsimp only at h
  split at h
  · cases h
  · rename_i hwhole
    obtain ⟨⟨fraction, r⟩, hf, h⟩ := Option.bind_eq_some_iff.1 h
    obtain ⟨⟨exponent, r'⟩, he, h⟩ := Option.bind_eq_some_iff.1 h
    obtain ⟨j', -, h⟩ := Option.bind_eq_some_iff.1 h
    cases h
    have hlt : (cs.dropWhile Char.isDigit).length < cs.length := by
      have hsum := congrArg List.length (List.takeWhile_append_dropWhile (p := Char.isDigit) (l := cs))
      have hpos : 0 < (cs.takeWhile Char.isDigit).length := by
        rw [List.length_pos_iff]
        intro hnil
        simp [hnil] at hwhole
      rw [List.length_append] at hsum
      omega
    have hle := length_le_of_takeFraction hf
    have hle' := length_le_of_takeExponent he
    exact Nat.lt_of_le_of_lt (Nat.le_trans hle' hle) hlt

theorem length_le_of_afterWord {word cs rest : List Char} (h : afterWord word cs = some rest) :
    rest.length ≤ cs.length := by
  fun_induction afterWord word cs <;> grind

theorem length_lt_of_readFront {cs rest : List Char} {t : Token}
    (h : readFront cs = some (t, rest)) : rest.length < cs.length := by
  unfold readFront at h
  split at h
  · cases h
  · rename_i c tail
    split at h
    case h_7 =>
      obtain ⟨⟨s, r⟩, hs, h⟩ := Option.map_eq_some_iff.1 h
      cases h
      exact Nat.lt_succ_of_lt (length_lt_of_readString hs)
    case h_8 | h_9 | h_10 =>
      obtain ⟨r, hr, h⟩ := Option.map_eq_some_iff.1 h
      cases h
      exact Nat.lt_succ_of_le (length_le_of_afterWord hr)
    case h_11 =>
      obtain ⟨⟨j, r⟩, hj, h⟩ := Option.map_eq_some_iff.1 h
      cases h
      exact Nat.lt_succ_of_lt (length_lt_of_readNumber hj)
    case h_12 =>
      obtain ⟨⟨j, r⟩, hj, h⟩ := Option.map_eq_some_iff.1 h
      cases h
      exact length_lt_of_readNumber hj
    all_goals
      cases h
      exact Nat.lt_succ_self _

/-- Every token takes a character. -/
theorem length_lt_of_read {cs rest : List Char} {t : Token} (h : read cs = some (t, rest)) :
    rest.length < cs.length :=
  Nat.lt_of_lt_of_le (length_lt_of_readFront h) (List.length_dropWhile_le ..)

/-- Blanks in front of a token do not matter. -/
theorem read_append_blanks {blanks : List Char} (h : ∀ c ∈ blanks, isBlank c) (cs : List Char) :
    read (blanks ++ cs) = read cs := by
  rw [read, read, List.dropWhile_append_of_pos h]

/-! ## Written strings -/

theorem unit?_control {c : Char} (h : c.toNat < 32) :
    unit? '0' '0' (hexDigit (c.toNat / 16)) (hexDigit (c.toNat % 16)) = some c.toNat := by
  have key : ∀ n ∈ List.range 32,
      unit? '0' '0' (hexDigit (n / 16)) (hexDigit (n % 16)) = some n := by decide
  exact key c.toNat (List.mem_range.2 h)

/-- Reading the written form of a character gives the character. -/
theorem readString_escaped (done : List Char) (c : Char) (rest : List Char) :
    readString done (escaped c ++ rest) = readString (c :: done) rest := by
  unfold escaped
  split
  case h_8 hquote hslash _ _ _ _ _ =>
    split
    · rename_i hcontrol
      have hhigh : isHigh c.toNat = false := by
        simp only [isHigh, Bool.and_eq_false_iff, decide_eq_false_iff_not]
        omega
      have hlow : isLow c.toNat = false := by
        simp only [isLow, Bool.and_eq_false_iff, decide_eq_false_iff_not]
        omega
      simp only [List.cons_append, List.nil_append]
      rw [readString]
      simp only [unit?_control hcontrol, hhigh, hlow, Bool.false_eq_true, if_false,
        Char.ofNat_toNat]
    · rename_i hcontrol
      rw [List.singleton_append, readString]
      · simp only [decide_eq_false hcontrol, Bool.false_or, beq_iff_eq]
        exact if_neg hslash
      · exact hquote
      · exact fun _ _ _ _ _ h => absurd h hslash
      · exact fun _ _ h => absurd h hslash
  all_goals
    simp only [List.cons_append, List.nil_append]
    rw [readString]
    · rfl
    · nofun

theorem readString_written (done s rest : List Char) :
    readString done (s.flatMap escaped ++ '"' :: rest) =
      some (String.ofList (done.reverse ++ s), rest) := by
  induction s generalizing done with
  | nil => simp [readString]
  | cons c s ih =>
    rw [List.flatMap_cons, List.append_assoc, readString_escaped, ih]
    simp

theorem read_quoted (s : String) (rest : List Char) :
    read (quoted s rest) = some (.text s, rest) := by
  rw [read, quoted, List.cons_append, List.dropWhile_cons_of_neg (by decide), readFront,
    readString_written]
  simp

/-! ## Written integers -/

/-- What follows is no part of a number. -/
def EndsNumber (rest : List Char) : Prop :=
  ∀ c ∈ rest.head?, c.isDigit = false ∧ c ≠ '.' ∧ c ≠ 'e' ∧ c ≠ 'E'

theorem takeWhile_isDigit {ds rest : List Char} (hd : ∀ c ∈ ds, c.isDigit)
    (hr : EndsNumber rest) : (ds ++ rest).takeWhile Char.isDigit = ds := by
  rw [List.takeWhile_append_of_pos hd]
  cases rest with
  | nil => simp
  | cons c rest => simp [(hr c rfl).1]

theorem dropWhile_isDigit {ds rest : List Char} (hd : ∀ c ∈ ds, c.isDigit)
    (hr : EndsNumber rest) : (ds ++ rest).dropWhile Char.isDigit = rest := by
  rw [List.dropWhile_append_of_pos hd]
  cases rest with
  | nil => rfl
  | cons c rest => simp [(hr c rfl).1]

theorem takeFraction_of_endsNumber {rest : List Char} (hr : EndsNumber rest) :
    takeFraction rest = some (none, rest) := by
  unfold takeFraction
  split
  · exact absurd rfl (hr '.' rfl).2.1
  · rfl

theorem takeExponent_of_endsNumber {rest : List Char} (hr : EndsNumber rest) :
    takeExponent rest = some (none, rest) := by
  cases rest with
  | nil => rfl
  | cons c rest =>
    obtain ⟨-, -, he, hE⟩ := hr c rfl
    simp [takeExponent, he, hE]

theorem eq_zero_of_head?_toDigits {n : Nat} (h : (Nat.toDigits 10 n).head? = some '0') :
    n = 0 := by
  induction n using Nat.strongRecOn with
  | ind n ih =>
    by_cases hn : n < 10
    · have key : ∀ n ∈ List.range 10, (Nat.toDigits 10 n).head? = some '0' → n = 0 := by decide
      exact key n (List.mem_range.2 hn) h
    · rw [Nat.toDigits_of_base_le (by decide) (by omega), List.head?_append] at h
      cases hhead : (Nat.toDigits 10 (n / 10)).head? with
      | none => simp at hhead
      | some c =>
        rw [hhead, Option.some_or] at h
        have hzero := ih (n / 10) (by omega) (hhead.trans h)
        omega

/-- Reading the digits of a number gives the number. -/
theorem readNumber_toDigits {negative : Bool} {n : Nat} {rest : List Char}
    (hn : if negative then 0 < n ∧ n ≤ 1 <<< 63 else n < 1 <<< 64) (hr : EndsNumber rest) :
    readNumber negative (Nat.toDigits 10 n ++ rest) =
      some (.integer (if negative then -(n : Int) else n), rest) := by
  have hd : ∀ c ∈ Nat.toDigits 10 n, c.isDigit := fun _ => Text.isDigit_of_mem_toDigits
  have hwhole : ((Nat.toDigits 10 n).isEmpty || (Nat.toDigits 10 n).head? == some '0' &&
      (Nat.toDigits 10 n).length != 1) = false := by
    by_cases h : (Nat.toDigits 10 n).head? = some '0'
    · rw [eq_zero_of_head?_toDigits h]
      rfl
    · simp [h]
  have hparts : numberOfParts negative (Nat.toDigits 10 n) none none =
      some (.integer (if negative then -(n : Int) else n)) := by
    rw [numberOfParts, Text.digitsValue_toDigits, if_pos]
    cases negative <;> simpa using hn
  unfold readNumber
  simp only [takeWhile_isDigit hd hr, dropWhile_isDigit hd hr, hwhole, Bool.false_eq_true,
    if_false, takeFraction_of_endsNumber hr, takeExponent_of_endsNumber hr, hparts,
    Option.bind_eq_bind, Option.bind_some]

theorem readFront_of_isDigit {c : Char} (hc : c.isDigit) (rest : List Char) :
    readFront (c :: rest) = (readNumber false (c :: rest)).map fun (j, rest) => (.scalar j, rest) := by
  rw [readFront]
  all_goals
    rintro rfl
    cases hc

/-- Reading a written integer gives the integer, unless what follows belongs to the number. -/
theorem read_integer {n : Int} (hn : (Json.integer n).Exact) {rest : List Char}
    (hr : EndsNumber rest) :
    read ((toString n).toList ++ rest) = some (.scalar (.integer n), rest) := by
  rw [Exact] at hn
  cases n with
  | ofNat n =>
    rw [Int.ofNat_eq_natCast] at hn ⊢
    have hnum : readNumber false (Nat.toDigits 10 n ++ rest) = some (.integer n, rest) :=
      readNumber_toDigits (if_neg Bool.false_ne_true ▸ by omega) hr
    rw [Text.toList_toString_ofNat]
    obtain ⟨d, ds, hds⟩ := List.exists_cons_of_ne_nil (Nat.toDigits_ne_nil (n := n) (b := 10))
    have hd : d.isDigit := Text.isDigit_of_mem_toDigits (hds ▸ List.mem_cons_self)
    have hblank : ¬isBlank d := by
      simp only [isBlank, Bool.or_eq_true, beq_iff_eq]
      rintro (((rfl | rfl) | rfl) | rfl) <;> cases hd
    rw [hds] at hnum ⊢
    rw [read, List.cons_append, List.dropWhile_cons_of_neg hblank, readFront_of_isDigit hd,
      ← List.cons_append, hnum]
    rfl
  | negSucc n =>
    have hnum : readNumber true (Nat.toDigits 10 (n + 1) ++ rest) =
        some (.integer (-((n + 1 : Nat) : Int)), rest) :=
      readNumber_toDigits (by rw [if_pos rfl]; omega) hr
    rw [Text.toList_toString_negSucc, List.cons_append, read,
      List.dropWhile_cons_of_neg (by decide),
      readFront, hnum]
    rfl

/-! ## Written marks -/

variable (rest : List Char)

theorem read_openArray : read ('[' :: rest) = some (.openArray, rest) := rfl

theorem read_closeArray : read (']' :: rest) = some (.closeArray, rest) := rfl

theorem read_openObject : read ('\x7b' :: rest) = some (.openObject, rest) := rfl

theorem read_closeObject : read ('\x7d' :: rest) = some (.closeObject, rest) := rfl

theorem read_comma : read (',' :: rest) = some (.comma, rest) := rfl

theorem read_colon : read (':' :: rest) = some (.colon, rest) := rfl

theorem read_null : read ("null".toList ++ rest) = some (.scalar .null, rest) := rfl

theorem read_bool (b : Bool) : read ((if b then "true" else "false").toList ++ rest) =
    some (.scalar (.bool b), rest) := by
  cases b <;> rfl

variable {rest}

theorem endsNumber_comma : EndsNumber (',' :: rest) := by
  simp [EndsNumber]

theorem endsNumber_nil : EndsNumber [] := nofun

/-- Blanks and a closing mark end a number. -/
theorem endsNumber_close {blanks : List Char} (hb : ∀ c ∈ blanks, isBlank c) {mark : Char}
    (hm : mark = ']' ∨ mark = '\x7d') : EndsNumber (blanks ++ mark :: rest) := by
  cases blanks with
  | nil => rcases hm with rfl | rfl <;> simp [EndsNumber]
  | cons c blanks =>
    have hc := hb c List.mem_cons_self
    simp only [isBlank, Bool.or_eq_true, beq_iff_eq] at hc
    rcases hc with ((rfl | rfl) | rfl) | rfl <;> simp [EndsNumber]

end Token

theorem Style.isBlank_lineBreak (style : Style) : ∀ c ∈ style.lineBreak, Token.isBlank c := by
  cases style with
  | compact => nofun
  | indented level =>
    intro c hc
    rcases List.mem_cons.1 hc with rfl | hc
    · rfl
    · rw [List.eq_of_mem_replicate hc]
      rfl

/-! ## Runs without a count -/

namespace Progress

/-- As many steps as there are characters, and one more, are enough. -/
theorem run_congr {bound m n : Nat} {p : Progress} {cs : List Char} (hm : cs.length < m)
    (hn : cs.length < n) : run bound m p cs = run bound n p cs := by
  induction m generalizing n p cs with
  | zero => omega
  | succ m ih =>
    obtain ⟨n, rfl⟩ : ∃ k, n = k + 1 := ⟨n - 1, by omega⟩
    rw [run, run]
    cases ht : Token.read cs with
    | none => rfl
    | some x =>
      obtain ⟨token, rest⟩ := x
      have hlt := Token.length_lt_of_read ht
      dsimp only
      split
      · rfl
      · rfl
      · exact ih (by omega) (by omega)

/-- Take tokens until the value is complete. -/
def read (bound : Nat) (p : Progress) (cs : List Char) : Option (Json × List Char) :=
  run bound (cs.length + 1) p cs

end Progress

/-- Go on after a token. -/
def Advance.resume (bound : Nat) (rest : List Char) : Advance → Option (Json × List Char)
  | .finished j => some (j, rest)
  | .more p => p.read bound rest

namespace Progress

theorem read_eq (bound : Nat) (p : Progress) (cs : List Char) :
    p.read bound cs = (Token.read cs).bind fun (token, rest) =>
      (p.step bound token).bind (·.resume bound rest) := by
  rw [read, run]
  cases ht : Token.read cs with
  | none => rfl
  | some x =>
    obtain ⟨token, rest⟩ := x
    have hlt := Token.length_lt_of_read ht
    dsimp only [Option.bind_some]
    cases p.step bound token with
    | none => rfl
    | some a =>
      cases a with
      | finished j => rfl
      | more q => exact run_congr hlt (Nat.lt_succ_self _)

theorem read_of_token {bound : Nat} {p : Progress} {cs rest : List Char} {token : Token}
    (h : Token.read cs = some (token, rest)) :
    p.read bound cs = (p.step bound token).bind (·.resume bound rest) := by
  rw [read_eq, h, Option.bind_some]

theorem read_append_blanks {bound : Nat} {p : Progress} {blanks : List Char}
    (h : ∀ c ∈ blanks, Token.isBlank c) (cs : List Char) :
    p.read bound (blanks ++ cs) = p.read bound cs := by
  rw [read_eq, read_eq, Token.read_append_blanks h]

/-! ## Written values -/

section Written

variable {bound : Nat} {p : Progress} {rest : List Char}

theorem read_of_leaf {j : Json} {cs : List Char} {token : Token}
    (h : Token.read cs = some (token, rest)) (hstep : p.step bound token = some (deliver j p.frames))
    (hj : j.depth = 0) (hle : p.frames.length ≤ bound) :
    p.read bound cs =
      if p.frames.length + j.depth ≤ bound then (deliver j p.frames).resume bound rest else none := by
  rw [read_of_token h, hstep, Option.bind_some, hj, Nat.add_zero, if_pos hle]

theorem read_of_openArray (hp : p.awaitsValue) :
    p.read bound ('[' :: rest) = if p.frames.length < bound then
      (⟨.array [] :: p.frames, .valueOrEnd⟩ : Progress).read bound rest else none := by
  rw [read_of_token (Token.read_openArray rest), step, if_pos hp, enter]
  split <;> rfl

theorem read_of_openObject (hp : p.awaitsValue) :
    p.read bound ('\x7b' :: rest) = if p.frames.length < bound then
      (⟨.object [] "" :: p.frames, .nameOrEnd⟩ : Progress).read bound rest else none := by
  rw [read_of_token (Token.read_openObject rest), step, if_pos hp, enter]
  split <;> rfl

variable {frames : List Frame}

theorem read_of_quoted {style : Style} {done : List (String × Json)} {name name' : String}
    {next : Expectation} (hnext : next = .name ∨ next = .nameOrEnd) :
    (⟨.object done name' :: frames, next⟩ : Progress).read bound
        (quoted name (style.colon ++ rest)) =
      (⟨.object done name :: frames, .value⟩ : Progress).read bound rest := by
  have hcolon : (⟨.object done name :: frames, .colon⟩ : Progress).read bound
      (style.colon ++ rest) =
        (⟨.object done name :: frames, .value⟩ : Progress).read bound rest := by
    cases style with
    | compact => rw [Style.colon, List.singleton_append, read_of_token (Token.read_colon rest)]; rfl
    | indented level =>
      have hblank : ∀ c ∈ [' '], Token.isBlank c := fun c hc => by
        rw [List.mem_singleton.1 hc]
        rfl
      rw [Style.colon, List.cons_append, read_of_token (Token.read_colon _)]
      exact read_append_blanks hblank rest
  rw [read_of_token (Token.read_quoted name _), ← hcolon]
  rcases hnext with rfl | rfl <;> rfl

end Written

/-- Two depths are within a bound if both of them are. -/
theorem ite_max {α : Type} (a m n b : Nat) (x : Option α) :
    (if a + max m n ≤ b then x else none) =
      if a + m ≤ b then if a + n ≤ b then x else none else none := by
  by_cases hm : a + m ≤ b <;> by_cases hn : a + n ≤ b
  · rw [if_pos hm, if_pos hn, if_pos (by omega)]
  · rw [if_pos hm, if_neg hn, if_neg (by omega)]
  · rw [if_neg hm, if_neg (by omega)]
  · rw [if_neg hm, if_neg (by omega)]

theorem endsNumber_writeItems {style : Style} {js : List Json} {rest : List Char}
    (hrest : Token.EndsNumber rest) : Token.EndsNumber (writeItems style js rest) := by
  cases js with
  | nil => exact hrest
  | cons j js => exact Token.endsNumber_comma

theorem endsNumber_writeMembers {style : Style} {ms : List (String × Json)} {rest : List Char}
    (hrest : Token.EndsNumber rest) : Token.EndsNumber (writeMembers style ms rest) := by
  cases ms with
  | nil => exact hrest
  | cons m ms => exact Token.endsNumber_comma

mutual

/-- A run that awaits a value reads what was written and hands it to the innermost frame, if the
frames that are open leave room for its depth. -/
theorem read_write {bound : Nat} : ∀ {j : Json}, j.Exact → ∀ {style : Style} {p : Progress}
    {rest : List Char}, p.awaitsValue → p.frames.length ≤ bound → Token.EndsNumber rest →
    p.read bound (j.write style rest) =
      if p.frames.length + j.depth ≤ bound then (deliver j p.frames).resume bound rest else none
  | .null, _, _, _, rest, hp, hle, _ =>
    read_of_leaf (Token.read_null rest) (if_pos hp) rfl hle
  | .bool b, _, _, _, rest, hp, hle, _ =>
    read_of_leaf (Token.read_bool rest b) (if_pos hp) rfl hle
  | .integer _, hj, _, _, _, hp, hle, hrest =>
    read_of_leaf (Token.read_integer hj hrest) (if_pos hp) rfl hle
  | .real _, hj, _, _, _, _, _, _ => by
    rw [Exact] at hj
    exact hj.elim
  | .string s, _, _, _, rest, hp, hle, _ =>
    read_of_leaf (Token.read_quoted s rest) (if_pos hp) rfl hle
  | .array [], _, _, p, rest, hp, _, _ => by
    rw [write, read_of_openArray hp, read_of_token (Token.read_closeArray rest)]
    rfl
  | .array (j :: js), hj, style, p, rest, hp, hle, hrest => by
    rw [Exact, ItemsExact] at hj
    have hend : Token.EndsNumber (style.lineBreak ++ ']' :: rest) :=
      Token.endsNumber_close style.isBlank_lineBreak (.inl rfl)
    rw [write, List.cons_append, read_of_openArray hp, depth, itemsDepth]
    by_cases hlt : p.frames.length < bound
    · rw [if_pos hlt, read_append_blanks style.deeper.isBlank_lineBreak,
        read_write hj.1 (by rfl) hlt (endsNumber_writeItems hend), List.length_cons,
        Nat.add_comm (max _ _), ← Nat.add_assoc, ite_max]
      split
      · exact read_writeItems hj.2 hlt style.isBlank_lineBreak
      · rfl
    · rw [if_neg hlt, if_neg (by omega)]
  | .object [], _, _, p, rest, hp, _, _ => by
    rw [write, read_of_openObject hp, read_of_token (Token.read_closeObject rest)]
    rfl
  | .object ((name, j) :: ms), hj, style, p, rest, hp, hle, hrest => by
    rw [Exact, MembersExact] at hj
    have hend : Token.EndsNumber (style.lineBreak ++ '\x7d' :: rest) :=
      Token.endsNumber_close style.isBlank_lineBreak (.inr rfl)
    rw [write, List.cons_append, read_of_openObject hp, depth, membersDepth]
    by_cases hlt : p.frames.length < bound
    · rw [if_pos hlt, read_append_blanks style.deeper.isBlank_lineBreak, read_of_quoted (.inr rfl),
        read_write hj.1 (by rfl) hlt (endsNumber_writeMembers hend), List.length_cons,
        Nat.add_comm (max _ _), ← Nat.add_assoc, ite_max]
      split
      · exact read_writeMembers hj.2 hlt style.isBlank_lineBreak
      · rfl
    · rw [if_neg hlt, if_neg (by omega)]

/-- The same for the rest of an array. -/
theorem read_writeItems {bound : Nat} : ∀ {js : List Json}, ItemsExact js → ∀ {style : Style}
    {done : List Json} {frames : List Frame} {blanks rest : List Char}, frames.length < bound →
    (∀ c ∈ blanks, Token.isBlank c) →
    (⟨.array done :: frames, .commaOrEnd⟩ : Progress).read bound
        (writeItems style js (blanks ++ ']' :: rest)) =
      if frames.length + 1 + itemsDepth js ≤ bound then
        (deliver (.array (done.reverse ++ js)) frames).resume bound rest else none
  | [], _, _, done, frames, blanks, rest, hlt, hb => by
    rw [writeItems, itemsDepth, Nat.add_zero, if_pos (by omega), read_append_blanks hb,
      read_of_token (Token.read_closeArray rest), List.append_nil]
    rfl
  | j :: js, hjs, style, done, frames, blanks, rest, hlt, hb => by
    rw [ItemsExact] at hjs
    have hend : Token.EndsNumber (blanks ++ ']' :: rest) := Token.endsNumber_close hb (.inl rfl)
    have hcomma : ∀ cs, (⟨.array done :: frames, .commaOrEnd⟩ : Progress).read bound (',' :: cs) =
        (⟨.array done :: frames, .value⟩ : Progress).read bound cs := fun cs => by
      rw [read_of_token (Token.read_comma cs)]
      rfl
    rw [writeItems, List.cons_append, hcomma, read_append_blanks style.isBlank_lineBreak,
      read_write hjs.1 (by rfl) hlt (endsNumber_writeItems hend), List.length_cons, itemsDepth,
      ite_max]
    split
    · rw [deliver, Advance.resume, read_writeItems hjs.2 hlt hb, List.reverse_cons,
        List.append_assoc, List.singleton_append]
    · rfl

/-- The same for the rest of an object. -/
theorem read_writeMembers {bound : Nat} : ∀ {ms : List (String × Json)}, MembersExact ms →
    ∀ {style : Style} {done : List (String × Json)} {frames : List Frame}
    {blanks rest : List Char}, frames.length < bound → (∀ c ∈ blanks, Token.isBlank c) →
    (⟨.object done "" :: frames, .commaOrEnd⟩ : Progress).read bound
        (writeMembers style ms (blanks ++ '\x7d' :: rest)) =
      if frames.length + 1 + membersDepth ms ≤ bound then
        (deliver (.object (done.reverse ++ ms)) frames).resume bound rest else none
  | [], _, _, done, frames, blanks, rest, hlt, hb => by
    rw [writeMembers, membersDepth, Nat.add_zero, if_pos (by omega), read_append_blanks hb,
      read_of_token (Token.read_closeObject rest), List.append_nil]
    rfl
  | (name, j) :: ms, hms, style, done, frames, blanks, rest, hlt, hb => by
    rw [MembersExact] at hms
    have hend : Token.EndsNumber (blanks ++ '\x7d' :: rest) := Token.endsNumber_close hb (.inr rfl)
    have hcomma : ∀ cs, (⟨.object done "" :: frames, .commaOrEnd⟩ : Progress).read bound
        (',' :: cs) = (⟨.object done "" :: frames, .name⟩ : Progress).read bound cs := fun cs => by
      rw [read_of_token (Token.read_comma cs)]
      rfl
    rw [writeMembers, List.cons_append, hcomma, read_append_blanks style.isBlank_lineBreak,
      read_of_quoted (.inl rfl), read_write hms.1 (by rfl) hlt (endsNumber_writeMembers hend),
      List.length_cons, membersDepth, ite_max]
    split
    · rw [deliver, Advance.resume, read_writeMembers hms.2 hlt hb, List.reverse_cons,
        List.append_assoc, List.singleton_append]
    · rfl

end

end Progress

/-! ## Written texts -/

/-- The text of a value in a style. -/
def text (style : Style) (j : Json) : String := String.ofList (j.write style [])

theorem compact_eq_text (j : Json) : j.compact = j.text .compact := rfl

theorem pretty_eq_text (j : Json) : j.pretty = j.text (.indented 0) := rfl

/-- What was written is read back to its end, if it does not nest too deep. -/
theorem readFront_text {j : Json} (hj : j.Exact) (bound : Nat) (style : Style) :
    readFront bound (j.text style).toList = if j.depth ≤ bound then some (j, []) else none := by
  have h : Progress.read bound ⟨[], .value⟩ (j.write style []) =
      if 0 + j.depth ≤ bound then some (j, []) else none :=
    Progress.read_write hj (by rfl) (Nat.zero_le bound) Token.endsNumber_nil
  rw [Nat.zero_add] at h
  rw [text, String.toList_ofList]
  exact h

theorem read?_text {j : Json} (hj : j.Exact) (bound : Nat) (style : Style) :
    read? bound (j.text style) = if j.depth ≤ bound then some j else none := by
  rw [read?, readFront_text hj]
  split <;> rfl

end Schemata.Json
