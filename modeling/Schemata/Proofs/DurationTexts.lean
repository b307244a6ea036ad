import Schemata.Proofs.LongDurations

/-!
# Texts that are durations

A duration has the form `[-][d.]hh:mm:ss[.fffffffff]`. `Duration.Spells` says this by rules, for any
notion of what a part is: digits and nothing else (`Duration.Unsigned`), or digits with an optional
sign of their own (`Duration.Signed`).

What is read is exactly the form with signs (`Duration.readParts_eq_some_iff`), since only the upper
bound of a part is checked. So every text of the form without them is read, as the parts that it
spells, but `00:-5:00` is read too, as five minutes back. The two forms differ in nothing else: a
text that is read is of the form without signs if and only if neither sign occurs behind the minus
of the whole (`duration_read_iff`).
-/

namespace Schemata

namespace Duration

/-! ## The form of a duration -/

/-- A run of one or more digits, and the number that it stands for. -/
structure IsDigits (ds : List Char) (n : Nat) : Prop where
  ne_nil : ds ≠ []
  isDigit : ∀ c ∈ ds, c.isDigit
  value : Text.digitsValue ds = n

/-- A part that is digits and nothing else, of a number in 64 bits. -/
inductive Unsigned : List Char → Int → Prop
  | digits {ds : List Char} {n : Nat} (isDigits : IsDigits ds n) (room : n < 1 <<< 63) :
      Unsigned ds n

/-- A part that may have a sign of its own, of a number in 64 bits. -/
inductive Signed : List Char → Int → Prop
  | bare {ds : List Char} {n : Int} (unsigned : Unsigned ds n) : Signed ds n
  | plus {ds : List Char} {n : Int} (unsigned : Unsigned ds n) : Signed ('+' :: ds) n
  | minus {ds : List Char} {n : Nat} (isDigits : IsDigits ds n) (room : n ≤ 1 <<< 63) :
      Signed ('-' :: ds) (-n)

/-- The days with the point behind them, if there are any. -/
inductive SpellsDays (Part : List Char → Int → Prop) : List Char → Int → Prop
  | none : SpellsDays Part [] 0
  | some {ds : List Char} {n : Int} (days : Part ds n) : SpellsDays Part (ds ++ ['.']) n

/-- A fraction of one to nine digits with the point before them, in nanoseconds, if there is one. -/
inductive SpellsFraction : List Char → Int → Prop
  | none : SpellsFraction [] 0
  | some {ds : List Char} {n : Nat} (isDigits : IsDigits ds n) (length_le : ds.length ≤ 9) :
      SpellsFraction ('.' :: ds) (n * 10 ^ (9 - ds.length) : Nat)

/-- What a duration is made of: days, hours, minutes, seconds, and a fraction in nanoseconds. -/
structure Clock where
  days : Int
  hours : Int
  minutes : Int
  seconds : Int
  fraction : Int

/-- The nanoseconds of everything together. -/
def Clock.nanoseconds (c : Clock) : Int :=
  (((c.days * 24 + c.hours) * 60 + c.minutes) * 60 + c.seconds) * 1000000000 + c.fraction

/-- A text of the form `[d.]hh:mm:ss[.fffffffff]`, for some notion of what a part is. -/
inductive Spells (Part : List Char → Int → Prop) : List Char → Clock → Prop
  | mk {front hh mm ss back : List Char} {c : Clock} (days : SpellsDays Part front c.days)
      (hours : Part hh c.hours) (minutes : Part mm c.minutes) (seconds : Part ss c.seconds)
      (fraction : SpellsFraction back c.fraction) (hours_le : c.hours ≤ 23)
      (minutes_le : c.minutes ≤ 59) (seconds_le : c.seconds ≤ 59) :
      Spells Part (front ++ hh ++ ':' :: (mm ++ ':' :: (ss ++ back))) c

/-! ## Characters that do not occur -/

variable {cs : List Char} {n : Int} {c : Clock} {x : Char}

theorem IsDigits.not_mem {n : Nat} (h : IsDigits cs n) (hx : x.isDigit = false) : x ∉ cs :=
  fun hmem => Bool.false_ne_true (hx.symm.trans (h.isDigit x hmem))

theorem Unsigned.not_mem (h : Unsigned cs n) (hx : x.isDigit = false) : x ∉ cs := by
  obtain ⟨hd, -⟩ := h
  exact hd.not_mem hx

theorem Signed.not_mem (h : Signed cs n) (hx : x.isDigit = false) (hplus : x ≠ '+')
    (hminus : x ≠ '-') : x ∉ cs := by
  cases h with
  | bare h => exact h.not_mem hx
  | plus h => exact List.not_mem_cons_of_ne_of_not_mem hplus (h.not_mem hx)
  | minus h => exact List.not_mem_cons_of_ne_of_not_mem hminus (h.not_mem hx)

theorem SpellsFraction.not_mem (h : SpellsFraction cs n) (hx : x.isDigit = false)
    (hpoint : x ≠ '.') : x ∉ cs := by
  cases h with
  | none => exact List.not_mem_nil
  | some h => exact List.not_mem_cons_of_ne_of_not_mem hpoint (h.not_mem hx)

theorem SpellsDays.not_mem {Part : List Char → Int → Prop} (h : SpellsDays Part cs n)
    (hpart : ∀ ds k, Part ds k → x ∉ ds) (hpoint : x ≠ '.') : x ∉ cs := by
  cases h with
  | none => exact List.not_mem_nil
  | some days => simpa [hpoint] using hpart _ _ days

/-- A text without signs has no other characters than digits, points and colons. -/
theorem Spells.not_mem (h : Spells Unsigned cs c) (hx : x.isDigit = false) (hpoint : x ≠ '.')
    (hcolon : x ≠ ':') : x ∉ cs := by
  obtain ⟨days, hours, minutes, seconds, fraction, -, -, -⟩ := h
  have hfront := days.not_mem (fun _ _ hd => hd.not_mem hx) hpoint
  simp [hcolon, hfront, hours.not_mem hx, minutes.not_mem hx, seconds.not_mem hx,
    fraction.not_mem hx hpoint]

/-! ## Parts without signs -/

section Parts

variable {P Q : List Char → Int → Prop}

theorem SpellsDays.imp (h : SpellsDays P cs n) (hPQ : ∀ ds k, ds ⊆ cs → P ds k → Q ds k) :
    SpellsDays Q cs n := by
  cases h with
  | none => exact .none
  | some days => exact .some (hPQ _ _ (List.subset_append_left _ _) days)

/-- The form depends only on what the pieces of the text are as parts. -/
theorem Spells.imp (h : Spells P cs c) (hPQ : ∀ ds k, ds ⊆ cs → P ds k → Q ds k) :
    Spells Q cs c := by
  obtain ⟨days, hours, minutes, seconds, fraction, hours_le, minutes_le, seconds_le⟩ := h
  refine .mk (days.imp fun ds k hds => hPQ ds k fun x hx => ?_) (hPQ _ _ ?_ hours)
    (hPQ _ _ ?_ minutes) (hPQ _ _ ?_ seconds) fraction hours_le minutes_le seconds_le
  · simp [hds hx]
  all_goals
    intro x hx
    simp [hx]

end Parts

/-- A part without a sign is a part in which no sign occurs. -/
theorem unsigned_iff : Unsigned cs n ↔ Signed cs n ∧ '+' ∉ cs ∧ '-' ∉ cs := by
  constructor
  · exact fun h => ⟨.bare h, h.not_mem rfl, h.not_mem rfl⟩
  · rintro ⟨h, hplus, hminus⟩
    cases h with
    | bare h => exact h
    | plus => exact absurd List.mem_cons_self hplus
    | minus => exact absurd List.mem_cons_self hminus

/-- The form without signs is the other one in a text in which no sign occurs. -/
theorem spells_unsigned_iff :
    Spells Unsigned cs c ↔ Spells Signed cs c ∧ '+' ∉ cs ∧ '-' ∉ cs := by
  constructor
  · intro h
    exact ⟨h.imp fun _ _ _ => .bare, h.not_mem rfl (by decide) (by decide),
      h.not_mem rfl (by decide) (by decide)⟩
  · rintro ⟨h, hplus, hminus⟩
    exact h.imp fun ds k hds hk =>
      unsigned_iff.2 ⟨hk, fun hx => hplus (hds hx), fun hx => hminus (hds hx)⟩

/-! ## What is read -/

theorem natural?_eq_some_iff {n : Nat} : Text.natural? cs = some n ↔ IsDigits cs n :=
  Text.natural?_eq_some.trans ⟨fun ⟨h₁, h₂, h₃⟩ => ⟨h₁, h₂, h₃⟩, fun ⟨h₁, h₂, h₃⟩ => ⟨h₁, h₂, h₃⟩⟩

theorem readPart_eq (cs : List Char) : readPart cs =
    (match cs with
      | '-' :: ds => (Text.natural? ds).map fun k : Nat => -(k : Int)
      | '+' :: ds => (Text.natural? ds).map fun k : Nat => (k : Int)
      | ds => (Text.natural? ds).map fun k : Nat => (k : Int)).filter
        fun n => IntegerKind.int64.least ≤ n ∧ n ≤ IntegerKind.int64.greatest := by
  unfold readPart
  split
  · rename_i ds
    cases h : Text.natural? ds <;> simp [h, Option.filter]
  · rename_i ds
    cases h : Text.natural? ds <;> simp [h, Option.filter]
  · cases h : Text.natural? cs <;> simp [h, Option.filter]

/-- A part that is read is digits with an optional sign. -/
theorem readPart_eq_some_iff : readPart cs = some n ↔ Signed cs n := by
  have hgreatest : IntegerKind.int64.greatest = (1 <<< 63) - 1 := by decide
  have hleast : IntegerKind.int64.least = -(1 <<< 63) := by decide
  rw [readPart_eq, Option.filter_eq_some_iff, decide_eq_true_iff, hgreatest, hleast]
  constructor
  · rintro ⟨hread, hroom⟩
    split at hread <;> obtain ⟨k, hk, rfl⟩ := Option.map_eq_some_iff.1 hread
    · exact .minus (natural?_eq_some_iff.1 hk) (by omega)
    · exact .plus (.digits (natural?_eq_some_iff.1 hk) (by omega))
    · exact .bare (.digits (natural?_eq_some_iff.1 hk) (by omega))
  · intro h
    cases h with
    | bare h =>
      obtain ⟨hd, room⟩ := h
      refine ⟨?_, by omega⟩
      split
      · exact absurd List.mem_cons_self (hd.not_mem rfl)
      · exact absurd List.mem_cons_self (hd.not_mem rfl)
      · rw [natural?_eq_some_iff.2 hd]
        rfl
    | plus h =>
      obtain ⟨hd, room⟩ := h
      refine ⟨?_, by omega⟩
      simp only [natural?_eq_some_iff.2 hd, Option.map_some]
    | minus hd room =>
      refine ⟨?_, by omega⟩
      simp only [natural?_eq_some_iff.2 hd, Option.map_some]

theorem splitFirst_eq_some_iff {mark : Char} {first rest : List Char} :
    splitFirst mark cs = (first, some rest) ↔ mark ∉ first ∧ cs = first ++ mark :: rest := by
  constructor
  · intro h
    unfold splitFirst at h
    split at h
    · cases h
    · rename_i c after hdrop
      cases h
      have hmark : c = mark := by
        have := List.head?_dropWhile_not (· != mark) cs
        simpa [hdrop] using this
      refine ⟨fun hmem => ?_, ?_⟩
      · simpa using List.mem_takeWhile_imp hmem
      · conv_lhs =>
          rw [← List.takeWhile_append_dropWhile (p := (· != mark)) (l := cs), hdrop, hmark]
  · rintro ⟨hmark, rfl⟩
    exact splitFirst_append hmark rest

theorem splitFirst_eq_none_iff {mark : Char} {first : List Char} :
    splitFirst mark cs = (first, none) ↔ mark ∉ cs ∧ first = cs := by
  constructor
  · intro h
    unfold splitFirst at h
    split at h
    · rename_i hdrop
      cases h
      rw [List.dropWhile_eq_nil_iff] at hdrop
      exact ⟨fun hmem => by simpa using hdrop mark hmem, rfl⟩
    · cases h
  · rintro ⟨hmark, rfl⟩
    exact splitFirst_of_not_mem hmark

theorem readFraction_eq_some_iff :
    readFraction cs = some n ↔ SpellsFraction ('.' :: cs) n := by
  constructor
  · intro h
    unfold readFraction at h
    split at h
    · cases h
    · rename_i hlength
      obtain ⟨k, hk, rfl⟩ := Option.map_eq_some_iff.1 h
      exact .some (natural?_eq_some_iff.1 hk) (not_lt.1 hlength)
  · rintro (_ | ⟨hd, hlength⟩)
    rw [readFraction, if_neg (not_lt.2 hlength), natural?_eq_some_iff.2 hd]
    rfl

/-- The days and the hours that are read. -/
theorem readDays_eq_some_iff {d h : Int} : readDays cs = some (d, h) ↔
    ∃ front hh, cs = front ++ hh ∧ SpellsDays Signed front d ∧ Signed hh h := by
  have hpoint : ∀ {cs n}, Signed cs n → '.' ∉ cs := fun h => h.not_mem rfl (by decide) (by decide)
  constructor
  · intro hread
    unfold readDays at hread
    split at hread
    · rename_i days hours hsplit
      obtain ⟨-, rfl⟩ := splitFirst_eq_some_iff.1 hsplit
      obtain ⟨d', hd, hread⟩ := Option.bind_eq_some_iff.1 hread
      obtain ⟨h', hh, hread⟩ := Option.bind_eq_some_iff.1 hread
      cases hread
      exact ⟨days ++ ['.'], hours, by simp, .some (readPart_eq_some_iff.1 hd),
        readPart_eq_some_iff.1 hh⟩
    · rename_i hours hsplit
      obtain ⟨-, rfl⟩ := splitFirst_eq_none_iff.1 hsplit
      obtain ⟨h', hh, hread⟩ := Option.bind_eq_some_iff.1 hread
      cases hread
      exact ⟨[], hours, rfl, .none, readPart_eq_some_iff.1 hh⟩
  · rintro ⟨_, hh, rfl, _ | days, hours⟩
    · rw [readDays, List.nil_append, splitFirst_of_not_mem (hpoint hours)]
      simp [readPart_eq_some_iff.2 hours]
    · rw [readDays, List.append_assoc, List.singleton_append, splitFirst_append (hpoint days)]
      simp [readPart_eq_some_iff.2 days, readPart_eq_some_iff.2 hours]

/-- The seconds and the fraction that are read. -/
theorem readSeconds_eq_some_iff {s f : Int} : readSeconds cs = some (s, f) ↔
    ∃ ss back, cs = ss ++ back ∧ Signed ss s ∧ SpellsFraction back f := by
  have hpoint : ∀ {cs n}, Signed cs n → '.' ∉ cs := fun h => h.not_mem rfl (by decide) (by decide)
  constructor
  · intro hread
    unfold readSeconds at hread
    split at hread
    · rename_i seconds fraction hsplit
      obtain ⟨-, rfl⟩ := splitFirst_eq_some_iff.1 hsplit
      obtain ⟨s', hs, hread⟩ := Option.bind_eq_some_iff.1 hread
      obtain ⟨f', hf, hread⟩ := Option.bind_eq_some_iff.1 hread
      cases hread
      exact ⟨seconds, '.' :: fraction, rfl, readPart_eq_some_iff.1 hs,
        readFraction_eq_some_iff.1 hf⟩
    · rename_i seconds hsplit
      obtain ⟨-, rfl⟩ := splitFirst_eq_none_iff.1 hsplit
      obtain ⟨s', hs, hread⟩ := Option.bind_eq_some_iff.1 hread
      cases hread
      exact ⟨seconds, [], by simp, readPart_eq_some_iff.1 hs, .none⟩
  · rintro ⟨ss, back, rfl, seconds, fraction⟩
    cases hback : fraction with
    | none =>
      rw [readSeconds, List.append_nil, splitFirst_of_not_mem (hpoint seconds)]
      simp [readPart_eq_some_iff.2 seconds]
    | some =>
      rw [readSeconds, splitFirst_append (hpoint seconds)]
      simp [readPart_eq_some_iff.2 seconds, readFraction_eq_some_iff.2 fraction]

/-- The nanoseconds of the parts one by one, in the order in which they are added. -/
def Clock.parts (c : Clock) : List Int :=
  [c.days * 86400000000000, c.hours * 3600000000000, c.minutes * 60000000000,
    c.seconds * 1000000000, c.fraction]

theorem Clock.sum_parts (c : Clock) : c.parts.sum = c.nanoseconds := by
  simp only [parts, nanoseconds, List.sum_cons, List.sum_nil]
  ring

/-- Exactly the texts of the form with signs are read, as the parts that they spell. -/
theorem readParts_eq_some_iff {parts : List Int} :
    readParts cs = some parts ↔ ∃ c, Spells Signed cs c ∧ c.parts = parts := by
  rw [readParts_eq]
  constructor
  · intro h
    rcases hfirst : splitFirst ':' cs with ⟨first, _ | rest⟩ <;> rw [hfirst] at h
    · cases h
    dsimp only [Option.bind_some] at h
    rcases hsecond : splitFirst ':' rest with ⟨second, _ | third⟩ <;> rw [hsecond] at h
    · cases h
    dsimp only [Option.bind_some] at h
    obtain ⟨⟨days, hours⟩, hfront, h⟩ := Option.bind_eq_some_iff.1 h
    obtain ⟨minutes, hminutes, h⟩ := Option.bind_eq_some_iff.1 h
    obtain ⟨⟨seconds, fraction⟩, hback, h⟩ := Option.bind_eq_some_iff.1 h
    obtain ⟨hle, h⟩ := Option.ite_none_right_eq_some.1 h
    cases h
    obtain ⟨-, rfl⟩ := splitFirst_eq_some_iff.1 hfirst
    obtain ⟨-, rfl⟩ := splitFirst_eq_some_iff.1 hsecond
    obtain ⟨front, hh, rfl, hdays, hhours⟩ := readDays_eq_some_iff.1 hfront
    obtain ⟨ss, back, rfl, hseconds, hfraction⟩ := readSeconds_eq_some_iff.1 hback
    exact ⟨⟨days, hours, minutes, seconds, fraction⟩, .mk hdays hhours
      (readPart_eq_some_iff.1 hminutes) hseconds hfraction hle.1 hle.2.1 hle.2.2, rfl⟩
  · rintro ⟨c, ⟨days, hours, minutes, seconds, fraction, hours_le, minutes_le, seconds_le⟩, rfl⟩
    have hcolon : ∀ ds k, Signed ds k → ':' ∉ ds := fun _ _ h =>
      h.not_mem rfl (by decide) (by decide)
    have hfront := List.not_mem_append (days.not_mem hcolon (by decide)) (hcolon _ _ hours)
    simp only [splitFirst_append hfront, splitFirst_append (hcolon _ _ minutes), Option.bind_some,
      readDays_eq_some_iff.2 ⟨_, _, rfl, days, hours⟩, readPart_eq_some_iff.2 minutes,
      readSeconds_eq_some_iff.2 ⟨_, _, rfl, seconds, fraction⟩]
    exact if_pos ⟨hours_le, minutes_le, seconds_le⟩

theorem nanoseconds_of_sum? {total d : Duration} {parts : List Int}
    (h : sum? total parts = some d) : d.nanoseconds = total.nanoseconds + parts.sum := by
  induction parts generalizing total with
  | nil =>
    cases h
    simp
  | cons part parts ih =>
    obtain ⟨_, -, h⟩ := Option.bind_eq_some_iff.1 h
    obtain ⟨next, hnext, h⟩ := Option.bind_eq_some_iff.1 h
    unfold ofNanoseconds? at hnext
    split at hnext <;> cases hnext
    rw [ih h, List.sum_cons]
    ring

/-- A duration that is read is that of the parts together, or its opposite behind a minus. -/
theorem read_of_readParts_unsigned {parts : List Int}
    (hparts : readParts (unsigned cs) = some parts) (hends : ∃ o, read cs = .ok o) :
    ∃ d, read cs = .ok (some d) ∧
      d.nanoseconds = if cs.head? = some '-' then -parts.sum else parts.sum := by
  have hcount : Countable 0 parts := by
    by_contra hnot
    exact exists_read_iff.1 hends ⟨parts, hparts, hnot⟩
  obtain ⟨d, hsum⟩ := (exists_sum?_iff ⟨0, by decide⟩ parts).2 hcount
  have hvalue := nanoseconds_of_sum? hsum
  rw [Int.zero_add] at hvalue
  unfold unsigned at hparts
  refine ⟨if cs.head? == some '-' then d.neg else d, ?_, ?_⟩
  · simp only [read, hparts, hsum]
  · by_cases hminus : cs.head? = some '-' <;> simp [hminus, neg, hvalue]

theorem readParts_of_read {d : Duration} (h : read cs = .ok (some d)) :
    ∃ parts, readParts (unsigned cs) = some parts := by
  unfold read at h
  unfold unsigned
  dsimp only at h
  split at h
  · cases h
  · exact ⟨_, ‹_›⟩

end Duration

/-- Reading a literal as a duration, if it comes to an end, gives a value exactly for the texts of
the form `[-][d.]hh:mm:ss[.fffffffff]` whose parts are numbers of 64 bits that may have a sign of
their own. The value is the parts added up, and the opposite behind a minus. The texts of the form
whose parts are digits alone are those among them in which there is no sign but that minus. -/
theorem duration_read_iff {literal : String} (hends : ∃ o, Atomic.read .duration literal = .ok o) :
    let cs := Text.trim literal.toList
    ((∃ v, Atomic.read .duration literal = .ok (some v)) ↔
      ∃ c, Duration.Spells Duration.Signed (Duration.unsigned cs) c) ∧
    (∀ c, Duration.Spells Duration.Signed (Duration.unsigned cs) c →
      ∃ d : Duration, Atomic.read .duration literal = .ok (some (.duration d)) ∧
        d.nanoseconds = if cs.head? = some '-' then -c.nanoseconds else c.nanoseconds) ∧
    ∀ c, Duration.Spells Duration.Unsigned (Duration.unsigned cs) c ↔
      Duration.Spells Duration.Signed (Duration.unsigned cs) c ∧
        '+' ∉ Duration.unsigned cs ∧ '-' ∉ Duration.unsigned cs := by
  intro cs
  have hvalue : ∀ c, Duration.Spells Duration.Signed (Duration.unsigned cs) c →
      ∃ d : Duration, Atomic.read .duration literal = .ok (some (.duration d)) ∧
        d.nanoseconds = if cs.head? = some '-' then -c.nanoseconds else c.nanoseconds := by
    intro c hc
    have hparts := Duration.readParts_eq_some_iff.2 ⟨c, hc, rfl⟩
    obtain ⟨d, hread, hd⟩ :=
      Duration.read_of_readParts_unsigned hparts (Except.exists_ok_map.1 hends)
    rw [c.sum_parts] at hd
    refine ⟨d, ?_, hd⟩
    rw [Atomic.read, hread]
    rfl
  refine ⟨⟨?_, ?_⟩, hvalue, fun c => Duration.spells_unsigned_iff⟩
  · rintro ⟨v, hv⟩
    rw [Atomic.read] at hv
    cases hread : Duration.read cs with
    | error e =>
      rw [hread] at hv
      cases hv
    | ok o =>
      rw [hread] at hv
      obtain ⟨d, rfl, -⟩ := Option.map_eq_some_iff.1 (Except.ok.inj hv)
      obtain ⟨parts, hparts⟩ := Duration.readParts_of_read hread
      obtain ⟨c, hc, -⟩ := Duration.readParts_eq_some_iff.1 hparts
      exact ⟨c, hc⟩
  · rintro ⟨c, hc⟩
    obtain ⟨d, hread, -⟩ := hvalue c hc
    exact ⟨_, hread⟩

/-- A day, some hours and half a second back, between blanks. -/
theorem day_back_read : (∃ o, Atomic.read .duration " -1.02:03:04.5\n" = .ok o) ∧
    ∃ d : Duration, Atomic.read .duration " -1.02:03:04.5\n" = .ok (some (.duration d)) ∧
      d.nanoseconds = -93784500000000 := by
  have hends : ∃ o, Atomic.read .duration " -1.02:03:04.5\n" = .ok o :=
    Atomic.exists_read_iff.2 (by decide +kernel)
  obtain ⟨-, hvalue, hiff⟩ := duration_read_iff hends
  have htext : Text.trim " -1.02:03:04.5\n".toList = "-1.02:03:04.5".toList := by decide +kernel
  have hpart : ∀ ds n, Text.natural? ds = some n → n < 60 → Duration.Unsigned ds n :=
    fun ds n hn hlt => .digits (Duration.natural?_eq_some_iff.1 hn) (by omega)
  have hhalf : Duration.IsDigits ['5'] 5 := Duration.natural?_eq_some_iff.1 rfl
  have hspells : Duration.Spells Duration.Unsigned
      (['1'] ++ ['.'] ++ ['0', '2'] ++ ':' :: (['0', '3'] ++ ':' :: (['0', '4'] ++ ['.', '5'])))
      ⟨1, 2, 3, 4, 500000000⟩ :=
    .mk (.some (hpart _ 1 rfl (by decide))) (hpart _ 2 rfl (by decide)) (hpart _ 3 rfl (by decide))
      (hpart _ 4 rfl (by decide)) (.some hhalf (by decide)) (by decide) (by decide) (by decide)
  rw [htext] at hvalue hiff
  obtain ⟨d, hread, hd⟩ := hvalue _ ((hiff _).1 hspells).1
  exact ⟨hends, d, hread, hd⟩

/-- Five minutes back are read where the form has digits alone. -/
theorem minutes_back_read : (∃ v, Atomic.read .duration "00:-5:00" = .ok (some v)) ∧
    ¬∃ c, Duration.Spells Duration.Unsigned
      (Duration.unsigned (Text.trim "00:-5:00".toList)) c := by
  refine ⟨(by decide +kernel : Atomic.Reads .duration "00:-5:00"), ?_⟩
  rintro ⟨c, hc⟩
  exact hc.not_mem (x := '-') rfl (by decide) (by decide) (by decide +kernel)

end Schemata
