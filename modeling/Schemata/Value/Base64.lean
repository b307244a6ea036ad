/-!
# Base 64

Bytes as text over the standard alphabet of 64 digits: three bytes become four digits, and a last
group of one or two bytes is padded. Only the form that `encode` writes is accepted: the padding
must be there, and the bits that it leaves unused must be zero. Decoding what was encoded gives the
bytes back (`decode?_encode`).
-/

namespace Schemata.Base64

/-- The digit for a value below 64. -/
def digit (n : Nat) : Char :=
  if n < 26 then Char.ofNat (65 + n)
  else if n < 52 then Char.ofNat (97 + (n - 26))
  else if n < 62 then Char.ofNat (48 + (n - 52))
  else if n = 62 then '+'
  else '/'

/-- The value of a digit. -/
def value? (c : Char) : Option Nat :=
  if 'A' ≤ c ∧ c ≤ 'Z' then some (c.toNat - 65)
  else if 'a' ≤ c ∧ c ≤ 'z' then some (c.toNat - 97 + 26)
  else if '0' ≤ c ∧ c ≤ '9' then some (c.toNat - 48 + 52)
  else if c = '+' then some 62
  else if c = '/' then some 63
  else none

/-- Write bytes. -/
def encode : List UInt8 → List Char
  | [] => []
  | [a] => [digit (a.toNat / 4), digit (a.toNat % 4 * 16), '=', '=']
  | [a, b] =>
    [digit (a.toNat / 4), digit (a.toNat % 4 * 16 + b.toNat / 16), digit (b.toNat % 16 * 4), '=']
  | a :: b :: c :: rest =>
    digit (a.toNat / 4) :: digit (a.toNat % 4 * 16 + b.toNat / 16) ::
      digit (b.toNat % 16 * 4 + c.toNat / 64) :: digit (c.toNat % 64) :: encode rest

/-- The last group of digits, padded or not. -/
def decodeLast (w x y z : Char) : Option (List UInt8) := do
  let w ← value? w
  let x ← value? x
  if y == '=' && z == '=' then
    if x % 16 = 0 then some [UInt8.ofNat (w * 4 + x / 16)] else none
  else
    let y ← value? y
    if z == '=' then
      if y % 4 = 0 then
        some [UInt8.ofNat (w * 4 + x / 16), UInt8.ofNat (x % 16 * 16 + y / 4)]
      else none
    else
      let z ← value? z
      some [UInt8.ofNat (w * 4 + x / 16), UInt8.ofNat (x % 16 * 16 + y / 4),
        UInt8.ofNat (y % 4 * 64 + z)]

/-- Read bytes. -/
def decode? : List Char → Option (List UInt8)
  | [] => some []
  | [w, x, y, z] => decodeLast w x y z
  | w :: x :: y :: z :: rest => do
    let w ← value? w
    let x ← value? x
    let y ← value? y
    let z ← value? z
    let bytes ← decode? rest
    some (UInt8.ofNat (w * 4 + x / 16) :: UInt8.ofNat (x % 16 * 16 + y / 4) ::
      UInt8.ofNat (y % 4 * 64 + z) :: bytes)
  | _ => none

theorem value?_digit {n : Nat} (h : n < 64) : value? (digit n) = some n := by
  have : ∀ n ∈ List.range 64, value? (digit n) = some n := by decide
  exact this n (List.mem_range.2 h)

theorem digit_ne_pad {n : Nat} (h : n < 64) : (digit n == '=') = false := by
  have : ∀ n ∈ List.range 64, (digit n == '=') = false := by decide
  exact this n (List.mem_range.2 h)

/-- Decoding what was encoded gives the bytes back. -/
theorem decode?_encode (bytes : List UInt8) : decode? (encode bytes) = some bytes := by
  fun_induction encode bytes with
  | case1 => rfl
  | case2 a =>
    have ha := a.toNat_lt
    simp only [decode?, decodeLast, value?_digit (show a.toNat / 4 < 64 by omega),
      value?_digit (show a.toNat % 4 * 16 < 64 by omega), Option.bind_eq_bind, Option.bind_some]
    simp only [beq_self_eq_true, Bool.and_self, if_true, UInt8.ofNat_toNat,
      show a.toNat % 4 * 16 % 16 = 0 by omega,
      show a.toNat / 4 * 4 + a.toNat % 4 * 16 / 16 = a.toNat by omega]
  | case3 a b =>
    have ha := a.toNat_lt
    have hb := b.toNat_lt
    simp only [decode?, decodeLast, value?_digit (show a.toNat / 4 < 64 by omega),
      value?_digit (show a.toNat % 4 * 16 + b.toNat / 16 < 64 by omega),
      value?_digit (show b.toNat % 16 * 4 < 64 by omega),
      digit_ne_pad (show b.toNat % 16 * 4 < 64 by omega), Option.bind_eq_bind, Option.bind_some]
    simp only [beq_self_eq_true, Bool.false_and, Bool.false_eq_true, if_true, if_false,
      UInt8.ofNat_toNat, show b.toNat % 16 * 4 % 4 = 0 by omega,
      show a.toNat / 4 * 4 + (a.toNat % 4 * 16 + b.toNat / 16) / 16 = a.toNat by omega,
      show (a.toNat % 4 * 16 + b.toNat / 16) % 16 * 16 + b.toNat % 16 * 4 / 4 = b.toNat by omega]
  | case4 a b c rest ih =>
    have ha := a.toNat_lt
    have hb := b.toNat_lt
    have hc := c.toNat_lt
    have e₁ : a.toNat / 4 * 4 + (a.toNat % 4 * 16 + b.toNat / 16) / 16 = a.toNat := by omega
    have e₂ : (a.toNat % 4 * 16 + b.toNat / 16) % 16 * 16 + (b.toNat % 16 * 4 + c.toNat / 64) / 4
        = b.toNat := by omega
    have e₃ : (b.toNat % 16 * 4 + c.toNat / 64) % 4 * 64 + c.toNat % 64 = c.toNat := by omega
    have hw := value?_digit (show a.toNat / 4 < 64 by omega)
    have hx := value?_digit (show a.toNat % 4 * 16 + b.toNat / 16 < 64 by omega)
    have hy := value?_digit (show b.toNat % 16 * 4 + c.toNat / 64 < 64 by omega)
    have hz := value?_digit (show c.toNat % 64 < 64 by omega)
    have py := digit_ne_pad (show b.toNat % 16 * 4 + c.toNat / 64 < 64 by omega)
    have pz := digit_ne_pad (show c.toNat % 64 < 64 by omega)
    match rest with
    | [] =>
      simp only [encode, decode?, decodeLast, hw, hx, hy, hz, py, pz, Option.bind_eq_bind,
        Option.bind_some, Bool.false_and, Bool.false_eq_true, if_false, e₁, e₂, e₃,
        UInt8.ofNat_toNat]
    | r :: rs =>
      cases he : encode (r :: rs) with
      | nil => rw [he] at ih; simp [decode?] at ih
      | cons d ds =>
        rw [he] at ih
        simp only [decode?, hw, hx, hy, hz, ih, Option.bind_eq_bind, Option.bind_some, e₁, e₂, e₃,
          UInt8.ofNat_toNat]

end Schemata.Base64
