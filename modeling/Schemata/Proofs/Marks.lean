import Mathlib.Order.MinMax
import Schemata.Ledger

/-!
# What the marks of a ledger remember

A mark is the position at which the ledger ended when it was taken, and nothing more. To say what
was recorded after a mark, a ledger is compared with its chronicle (`Chronicle`), in which every
diagnostic carries the serial number under which it was recorded; the same actions go on in both
(`Chronicle.ledger_performAll`).

While a pass goes on, what stays of the diagnostics at a mark is as many of them as the ledger had
when it was shortest (`Chronicle.exists_added`), with newer diagnostics behind. So a mark separates
the older diagnostics from the newer ones if and only if no newer diagnostic stands below it, and
for this the ledger must never have been shorter than both the mark and its present end
(`Ledger.Keeps`). Passes that restore their marks nested in one another keep all of them
(`Ledger.keeps_of_restores`). A ledger that was restored to an earlier mark and has grown again does
not keep the later one: restoring it leaves newer diagnostics (`marks_hold_iff`, `regrown_mark`).
-/

namespace Schemata

namespace Ledger

/-- What a pass does with its ledger. A mark is a value that the pass keeps; any mark that it holds
may be restored, in any order. -/
inductive Action
  | add (d : Diagnostic)
  | error (place : Option Span) (code : Code) (message : String)
  | extend (ds : List Diagnostic)
  | mark
  | restore (m : Mark)
  deriving DecidableEq

/-- The ledger after an action. -/
def perform (l : Ledger) : Action → Ledger
  | .add d => l.add d
  | .error place code message => l.add (.errorAt place code message)
  | .extend ds => l.extend ds
  | .mark => l
  | .restore m => l.restore m

/-- The ledger after several actions. -/
def performAll (l : Ledger) (actions : List Action) : Ledger := actions.foldl perform l

/-- The least size of the ledger while the actions are performed. -/
def low (l : Ledger) : List Action → Nat
  | [] => l.size
  | a :: actions => min l.size ((l.perform a).low actions)

/-- While the actions are performed, the ledger is never shorter than both a mark taken now and
its end after them. -/
def Keeps (l : Ledger) (actions : List Action) : Prop :=
  ∀ first, first <+: actions → min l.size (l.performAll actions).size ≤ (l.performAll first).size

theorem size_eq (l : Ledger) : l.size = l.entries.toList.length := Array.length_toList.symm

theorem low_le (l : Ledger) (actions : List Action) : l.low actions ≤ l.size := by
  cases actions with
  | nil => exact Nat.le_refl _
  | cons a actions => exact Nat.min_le_left _ _

/-- The least size is a lower bound of all sizes, and the greatest one. -/
theorem le_low_iff {l : Ledger} {actions : List Action} {n : Nat} :
    n ≤ l.low actions ↔ ∀ first, first <+: actions → n ≤ (l.performAll first).size := by
  induction actions generalizing l with
  | nil => simp [low, performAll]
  | cons a actions ih =>
    rw [low, le_min_iff, ih]
    constructor
    · rintro ⟨hl, h⟩ first hfirst
      cases first with
      | nil => exact hl
      | cons b first =>
        obtain ⟨rfl, hrest⟩ := List.cons_prefix_cons.1 hfirst
        exact h first hrest
    · intro h
      exact ⟨h [] (List.nil_prefix), fun first hfirst =>
        h (a :: first) (List.cons_prefix_cons.2 ⟨rfl, hfirst⟩)⟩

theorem keeps_iff {l : Ledger} {actions : List Action} :
    l.Keeps actions ↔ min l.size (l.performAll actions).size ≤ l.low actions :=
  le_low_iff.symm

/-- An action that restores no mark below a position does not fall below it. -/
theorem le_size_perform {l : Ledger} {a : Action} {n : Nat} (hl : n ≤ l.size)
    (ha : ∀ m, a = .restore m → n ≤ m.position) : n ≤ (l.perform a).size := by
  rw [size_eq] at hl ⊢
  cases a with
  | add d =>
    rw [perform, toList_add, List.length_append]
    exact Nat.le_add_right_of_le hl
  | error place code message =>
    rw [perform, toList_add, List.length_append]
    exact Nat.le_add_right_of_le hl
  | extend ds =>
    rw [perform, toList_extend, List.length_append]
    exact Nat.le_add_right_of_le hl
  | mark => exact hl
  | restore m =>
    rw [perform, toList_restore, List.length_take]
    exact le_min (ha m rfl) hl

theorem le_low_of_restores {l : Ledger} {actions : List Action} {n : Nat} (hl : n ≤ l.size)
    (h : ∀ m, .restore m ∈ actions → n ≤ m.position) : n ≤ l.low actions := by
  induction actions generalizing l with
  | nil => exact hl
  | cons a actions ih =>
    have hstep := le_size_perform (a := a) hl fun m ha => h m (ha ▸ List.mem_cons_self)
    exact le_min hl (ih hstep fun m hm => h m (List.mem_cons_of_mem _ hm))

/-- **Nested marks keep.** If only marks that were not taken earlier are restored, a mark keeps. -/
theorem keeps_of_restores {l : Ledger} {actions : List Action}
    (h : ∀ m, .restore m ∈ actions → l.mark.position ≤ m.position) : l.Keeps actions :=
  keeps_iff.2 ((min_le_left _ _).trans (le_low_of_restores (Nat.le_refl l.size) h))

end Ledger

/-! ## Chronicles -/

/-- A diagnostic with the number of diagnostics that were recorded before it, those included that
have been dropped. -/
structure Chronicle.Entry where
  serial : Nat
  diagnostic : Diagnostic
  deriving DecidableEq

/-- A ledger whose diagnostics carry serial numbers, and the next such number. -/
structure Chronicle where
  entries : List Chronicle.Entry := []
  next : Nat := 0

namespace Chronicle

open Ledger (Action Mark)

/-- The ledger that a chronicle tells about. -/
def ledger (c : Chronicle) : Ledger := ⟨(c.entries.map (·.diagnostic)).toArray⟩

/-- Record a diagnostic under the next number. -/
def add (c : Chronicle) (d : Diagnostic) : Chronicle :=
  ⟨c.entries ++ [⟨c.next, d⟩], c.next + 1⟩

/-- Drop everything beyond a mark. -/
def restore (c : Chronicle) (m : Mark) : Chronicle :=
  { c with entries := c.entries.take m.position }

/-- The chronicle after an action. -/
def perform (c : Chronicle) : Action → Chronicle
  | .add d => c.add d
  | .error place code message => c.add (.errorAt place code message)
  | .extend ds => ds.foldl add c
  | .mark => c
  | .restore m => c.restore m

/-- The chronicle after several actions. -/
def performAll (c : Chronicle) (actions : List Action) : Chronicle := actions.foldl perform c

/-- The entries that were recorded before the moment of another chronicle of the same pass. -/
def older (c moment : Chronicle) : List Entry :=
  c.entries.filter fun e => e.serial < moment.next

/-- Every entry was recorded before. -/
def Dated (c : Chronicle) : Prop := ∀ e ∈ c.entries, e.serial < c.next

variable {c now : Chronicle} {a : Action} {actions : List Action}

theorem toList_ledger (c : Chronicle) :
    c.ledger.entries.toList = c.entries.map (·.diagnostic) := by
  rw [ledger, List.toList_toArray]

theorem size_ledger (c : Chronicle) : c.ledger.size = c.entries.length := by
  simp [ledger, Ledger.size]

/-! ## The same actions in both -/

theorem ledger_add (c : Chronicle) (d : Diagnostic) : (c.add d).ledger = c.ledger.add d := by
  simp [ledger, add, Ledger.add]

theorem ledger_addAll (c : Chronicle) (ds : List Diagnostic) :
    (ds.foldl add c).ledger = c.ledger.extend ds := by
  induction ds generalizing c with
  | nil => rfl
  | cons d ds ih => exact (ih (c.add d)).trans (by rw [ledger_add]; rfl)

theorem ledger_restore (c : Chronicle) (m : Mark) :
    (c.restore m).ledger = c.ledger.restore m := by
  simp [ledger, restore, Ledger.restore]

theorem ledger_perform (c : Chronicle) (a : Action) :
    (c.perform a).ledger = c.ledger.perform a := by
  cases a with
  | add d => exact ledger_add c d
  | error place code message => exact ledger_add c _
  | extend ds => exact ledger_addAll c ds
  | mark => rfl
  | restore m => exact ledger_restore c m

/-- A chronicle tells about the ledger of the same pass. -/
theorem ledger_performAll (c : Chronicle) (actions : List Action) :
    (c.performAll actions).ledger = c.ledger.performAll actions := by
  induction actions generalizing c with
  | nil => rfl
  | cons a actions ih =>
    refine (ih (c.perform a)).trans ?_
    rw [ledger_perform]
    rfl

/-! ## What an action adds -/

/-- One chronicle follows another: of the older entries some are left at the front, and what stands
behind them is newer. -/
structure Follows (c now : Chronicle) (kept : Nat) : Prop where
  next : c.next ≤ now.next
  dated : c.Dated → now.Dated
  entries : ∃ added : List Entry,
    now.entries = c.entries.take kept ++ added ∧ ∀ e ∈ added, c.next ≤ e.serial

theorem follows_refl (c : Chronicle) : Follows c c c.entries.length :=
  ⟨Nat.le_refl _, id, [], by simp, by simp⟩

/-- What is left after a second run was left after the first. -/
theorem Follows.trans {c mid now : Chronicle} {k n : Nat} (h : Follows c mid k)
    (h' : Follows mid now n) : Follows c now (min k n) := by
  obtain ⟨mine, hmine, hnew⟩ := h.entries
  obtain ⟨theirs, htheirs, hnew'⟩ := h'.entries
  refine ⟨h.next.trans h'.next, fun hd => h'.dated (h.dated hd),
    mine.take (n - (c.entries.take k).length) ++ theirs, ?_, ?_⟩
  · rw [htheirs, hmine, List.take_append, List.take_take, Nat.min_comm, List.append_assoc]
  · intro e he
    rcases List.mem_append.1 he with he | he
    · exact hnew e (List.mem_of_mem_take he)
    · exact h.next.trans (hnew' e he)

theorem follows_add (c : Chronicle) (d : Diagnostic) :
    Follows c (c.add d) c.entries.length := by
  refine ⟨Nat.le_succ _, fun hd e he => ?_, [⟨c.next, d⟩], by simp [add], by simp⟩
  rcases List.mem_append.1 he with he | he
  · exact Nat.lt_succ_of_lt (hd e he)
  · rw [List.mem_singleton.1 he]
    exact Nat.lt_succ_self _

theorem follows_addAll (c : Chronicle) (ds : List Diagnostic) :
    Follows c (ds.foldl add c) c.entries.length := by
  induction ds generalizing c with
  | nil => exact follows_refl c
  | cons d ds ih =>
    have h := (follows_add c d).trans (ih (c.add d))
    rwa [Nat.min_eq_left (by simp [add])] at h

theorem follows_restore (c : Chronicle) (m : Mark) :
    Follows c (c.restore m) (c.restore m).entries.length := by
  refine ⟨Nat.le_refl _, fun hd e he => hd e (List.mem_of_mem_take he), [], ?_, by simp⟩
  simp [restore, List.take_eq_take_iff]

/-- An action leaves as many entries as there are before it and after it. -/
theorem follows_perform (c : Chronicle) (a : Action) :
    Follows c (c.perform a) (min c.entries.length (c.perform a).entries.length) := by
  have hadd (now : Chronicle) (h : Follows c now c.entries.length) :
      Follows c now (min c.entries.length now.entries.length) := by
    obtain ⟨added, hadded, -⟩ := h.entries
    have hle : c.entries.length ≤ now.entries.length := by simp [hadded]
    rwa [Nat.min_eq_left hle]
  cases a with
  | add d => exact hadd _ (follows_add c d)
  | error place code message => exact hadd _ (follows_add c _)
  | extend ds => exact hadd _ (follows_addAll c ds)
  | mark => exact hadd _ (follows_refl c)
  | restore m =>
    have hle : (c.restore m).entries.length ≤ c.entries.length := by simp [restore]
    have h := follows_restore c m
    rwa [← Nat.min_eq_right hle] at h

/-- **What a run leaves of the entries** is as many of them as there were when the ledger was
shortest. -/
theorem follows_performAll (c : Chronicle) (actions : List Action) :
    Follows c (c.performAll actions) (c.ledger.low actions) := by
  induction actions generalizing c with
  | nil =>
    have h := follows_refl c
    rwa [← size_ledger] at h
  | cons a actions ih =>
    have h := (follows_perform c a).trans (ih (c.perform a))
    have hlow := (c.perform a).ledger.low_le actions
    rw [size_ledger, ledger_perform] at hlow
    rw [ledger_perform, Nat.min_assoc, Nat.min_eq_right hlow] at h
    rwa [Ledger.low, size_ledger]

theorem dated_empty : ({} : Chronicle).Dated := by
  intro e he
  cases he

theorem dated_performAll (actions : List Action) : (({} : Chronicle).performAll actions).Dated :=
  (follows_performAll {} actions).dated dated_empty

/-- The entries after a run are the older ones, which were left by it, and newer ones behind. -/
theorem exists_added (hd : c.Dated) (actions : List Action) :
    ∃ added, (c.performAll actions).entries = (c.performAll actions).older c ++ added ∧
      (c.performAll actions).older c = c.entries.take (c.ledger.low actions) ∧
      ∀ e ∈ added, c.next ≤ e.serial := by
  obtain ⟨added, hentries, hnew⟩ := (follows_performAll c actions).entries
  have holder : (c.performAll actions).older c = c.entries.take (c.ledger.low actions) := by
    rw [older, hentries, List.filter_append, List.filter_eq_self.2, List.filter_eq_nil_iff.2,
      List.append_nil]
    · intro e he
      simpa using hnew e he
    · intro e he
      simpa using hd e (List.mem_of_mem_take he)
  exact ⟨added, by rw [holder, hentries], holder, hnew⟩

/-- The older entries are those that were there at the moment and have not been dropped since. -/
theorem mem_older_iff (hd : c.Dated) (actions : List Action) (e : Entry) :
    e ∈ (c.performAll actions).older c ↔
      e ∈ c.entries ∧ e ∈ (c.performAll actions).entries := by
  obtain ⟨added, -, holder, -⟩ := exists_added hd actions
  constructor
  · intro he
    refine ⟨?_, (List.mem_filter.1 he).1⟩
    rw [holder] at he
    exact List.mem_of_mem_take he
  · rintro ⟨hmem, he⟩
    exact List.mem_filter.2 ⟨he, by simpa using hd e hmem⟩

/-! ## Marks -/

/-- How a mark, taken before some actions, divides the entries after them: the older ones, newer
ones that stand below it, and newer ones beyond it. -/
structure Divides (c : Chronicle) (actions : List Action) (below beyond : List Entry) : Prop where
  entries : (c.performAll actions).entries = (c.performAll actions).older c ++ below ++ beyond
  newer : ∀ e ∈ below ++ beyond, c.next ≤ e.serial
  restore : ((c.performAll actions).ledger.restore c.ledger.mark).entries.toList =
    ((c.performAll actions).older c ++ below).map (·.diagnostic)
  since : (c.performAll actions).ledger.since c.ledger.mark = beyond.map (·.diagnostic)
  /-- Nothing newer stands below a mark that is kept. -/
  keeps : c.ledger.Keeps actions ↔ below = []

/-- The older entries all stand below a mark. What newer entries fill up to it stand there too. -/
theorem exists_divides (hd : c.Dated) (actions : List Action) :
    ∃ below beyond, c.Divides actions below beyond := by
  obtain ⟨added, hentries, holder, hnew⟩ := exists_added hd actions
  have hlength : ((c.performAll actions).older c).length = c.ledger.low actions := by
    rw [holder, List.length_take, ← size_ledger, Nat.min_eq_left (c.ledger.low_le actions)]
  have hle : ((c.performAll actions).older c).length ≤ c.ledger.size :=
    hlength.trans_le (c.ledger.low_le actions)
  generalize hroom : c.ledger.size - ((c.performAll actions).older c).length = room
  have hsplit : (c.performAll actions).entries = (c.performAll actions).older c ++
      added.take room ++ added.drop room := by
    rw [List.append_assoc, List.take_append_drop, ← hentries]
  have hmark : c.ledger.mark = ⟨c.ledger.size⟩ := rfl
  refine ⟨added.take room, added.drop room, hsplit, ?_, ?_, ?_, ?_⟩
  · rwa [List.take_append_drop]
  · rw [Ledger.toList_restore, hmark, toList_ledger, ← List.map_take]
    conv_lhs => rw [hentries]
    rw [List.take_append, List.take_of_length_le hle, hroom]
  · rw [Ledger.since, hmark, toList_ledger, ← List.map_drop]
    conv_lhs => rw [hentries]
    rw [List.drop_append, List.drop_of_length_le hle, List.nil_append, hroom]
  · rw [Ledger.keeps_iff, ← ledger_performAll, size_ledger (c.performAll actions), hentries,
      List.length_append, ← hlength, List.take_eq_nil_iff, ← List.length_eq_zero_iff]
    omega

end Chronicle

section Marks

open Ledger (Action)

/-- **When a mark separates the older diagnostics from the newer ones.** Let a pass take a mark and
go on, adding diagnostics and restoring marks, also older and younger ones. The older entries are
those that were there at the mark and have not been dropped. Restoring the mark leaves just these if
and only if the ledger was never shorter than both the mark and its present end; then an error is
reported since the mark if and only if one was recorded after it. In any case restoring the mark
drops no older diagnostic, and an error is reported only if one was recorded after the mark. -/
theorem marks_hold_iff (before after : List Action) :
    let opened := ({} : Ledger).performAll before
    let closed := opened.performAll after
    let start := ({} : Chronicle).performAll before
    let now := start.performAll after
    let newError := ∃ e ∈ now.entries, start.next ≤ e.serial ∧ e.diagnostic.isError = true
    (start.ledger = opened ∧ now.ledger = closed) ∧
    (∀ e, e ∈ now.older start ↔ e ∈ start.entries ∧ e ∈ now.entries) ∧
    ((closed.restore opened.mark).entries.toList = (now.older start).map (·.diagnostic) ↔
      opened.Keeps after) ∧
    (opened.Keeps after → (closed.hasErrorsSince opened.mark = true ↔ newError)) ∧
    (now.older start).map (·.diagnostic) <+: (closed.restore opened.mark).entries.toList ∧
    (closed.hasErrorsSince opened.mark = true → newError) := by
  intro opened closed start now newError
  have hstart : start.ledger = opened := Chronicle.ledger_performAll {} before
  have hnow : now.ledger = closed := by
    rw [Chronicle.ledger_performAll, hstart]
  have hdated : start.Dated := Chronicle.dated_performAll before
  obtain ⟨below, beyond, h⟩ := Chronicle.exists_divides hdated after
  have hrestore := h.restore
  have hkeeps := h.keeps
  rw [hstart] at hrestore hkeeps
  rw [hnow] at hrestore
  have herror : closed.hasErrorsSince opened.mark = true ↔
      ∃ e ∈ beyond, e.diagnostic.isError = true := by
    rw [← hnow, ← hstart, Ledger.hasErrorsSince, h.since, List.any_map, List.any_eq_true]
    rfl
  have hnewError : newError ↔ ∃ e ∈ below ++ beyond, e.diagnostic.isError = true := by
    refine ⟨fun ⟨e, he, hserial, herr⟩ => ?_, fun ⟨e, he, herr⟩ => ?_⟩
    · rw [h.entries, List.append_assoc, List.mem_append] at he
      refine ⟨e, he.resolve_left fun hold => ?_, herr⟩
      have hlt : e.serial < start.next := by simpa using (List.mem_filter.1 hold).2
      omega
    · refine ⟨e, ?_, h.newer e he, herr⟩
      rw [h.entries, List.append_assoc]
      exact List.mem_append_right _ he
  refine ⟨⟨hstart, hnow⟩, Chronicle.mem_older_iff hdated after, ?_, fun hk => ?_, ?_, fun hk => ?_⟩
  · rw [hkeeps, hrestore, List.map_append, List.append_right_eq_self, List.map_eq_nil_iff]
  · rw [herror, hnewError, hkeeps.1 hk, List.nil_append]
  · rw [hrestore, List.map_append]
    exact List.prefix_append ..
  · obtain ⟨e, he, herr⟩ := herror.1 hk
    exact hnewError.2 ⟨e, List.mem_append_right _ he, herr⟩

/-- A mark behind one error, an earlier mark restored, and another error: the second error now
stands below the mark. It is not reported since the mark, and restoring the mark leaves it. -/
theorem regrown_mark :
    let first := Diagnostic.errorAt none .duplicateMemberName "a"
    let second := Diagnostic.errorAt none .duplicateMemberName "b"
    let outer := ({} : Ledger).mark
    let before : List Action := [.mark, .error none .duplicateMemberName "a", .mark]
    let after : List Action := [.restore outer, .error none .duplicateMemberName "b"]
    let opened := ({} : Ledger).performAll before
    let closed := opened.performAll after
    let start := ({} : Chronicle).performAll before
    let now := start.performAll after
    start.entries = [⟨0, first⟩] ∧ start.next = 1 ∧ now.entries = [⟨1, second⟩] ∧
    (closed.hasErrorsSince opened.mark = false ∧
      ∃ e ∈ now.entries, start.next ≤ e.serial ∧ e.diagnostic.isError = true) ∧
    ((closed.restore opened.mark).entries.toList = [second] ∧ now.older start = []) := by
  decide +kernel

end Marks

end Schemata
