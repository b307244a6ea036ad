/-!
# Validation modes

How strictly an object is held against its type.
-/

namespace Schemata

/-- A validation mode. -/
inductive Mode
  /-- Every failure is an error. -/
  | strict
  /-- Attributes and children that are not declared are reported as warnings. -/
  | lax
  /-- Nothing is checked. -/
  | skip
  deriving DecidableEq

namespace Mode

/-- The word for a mode. -/
def text : Mode → String
  | .strict => "strict"
  | .lax => "lax"
  | .skip => "skip"

/-- The mode that a word stands for. -/
def ofText? : String → Option Mode
  | "strict" => some .strict
  | "lax" => some .lax
  | "skip" => some .skip
  | _ => none

/-- The mode that holds where none is chosen. -/
def standard : Mode := .strict

/-- The wording for a word that stands for no mode. -/
def unknownMessage (word : String) : String :=
  s!"invalid validation mode: '{word}', must be 'strict', 'lax' or 'skip'"

theorem ofText?_text (m : Mode) : ofText? m.text = some m := by
  cases m <;> rfl

end Mode

end Schemata
