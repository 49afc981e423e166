/-
  DeclExport.Json.Numeral
  ────────────────────────────────
  **THE VALUE OF A NUMBER TOKEN.**

  A number token is collected digit by digit as a significand and a power of
  ten.  A significand is a machine word: digits that no longer fit are only
  counted.  Three readings are told apart, and no fourth exists:

      whole     — an integer written without point and exponent
      inexact   — every other number (`-0` and integers past a word included)
      huge      — a number that no double reaches
-/

namespace DeclExport.Json

/-! ## §1. What a number token denotes. -/

/-- The reading of a complete number token. -/
inductive Numeral where
  /-- An integer without point or exponent whose digits fit one word. -/
  | whole (value : Int)
  /-- A number that is not an integer token: fraction, exponent, `-0`, or too
  many digits. -/
  | inexact
  /-- A number whose nearest double would be infinite. -/
  | huge
  deriving Repr, DecidableEq

/-! ## §2. Collecting digits. -/

/-- A number token under collection: `significand · 10 ^ scale`, negated when
`negative`. -/
structure Digits where
  negative : Bool
  significand : Nat
  scale : Int
  /-- A digit has been left out of the significand. -/
  full : Bool
  deriving Repr, DecidableEq

namespace Digits

/-- No digit yet. -/
def start (negative : Bool) : Digits := ⟨negative, 0, 0, false⟩

/-- The significand with one more digit, as long as it fits 64 bits. -/
def absorb (n : Digits) (digit : Nat) : Option Nat :=
  let grown := n.significand * 10 + digit
  if !n.full && grown < UInt64.size then some grown else none

/-- One more digit before the point. -/
def whole (n : Digits) (digit : Nat) : Digits :=
  match n.absorb digit with
  | some s => { n with significand := s }
  | none => { n with scale := n.scale + 1, full := true }

/-- The point: digits after it are tried against the significand again. -/
def point (n : Digits) : Digits := { n with full := false }

/-- One more digit after the point. -/
def fraction (n : Digits) (digit : Nat) : Digits :=
  match n.absorb digit with
  | some s => { n with significand := s, scale := n.scale - 1 }
  | none => { n with full := true }

/-- The written exponent. -/
def exponent (n : Digits) (negative : Bool) (magnitude : Nat) : Digits :=
  { n with scale := if negative then n.scale - magnitude else n.scale + magnitude }

end Digits

/-! ## §3. Numbers past every double. -/

/-- The natural number of at most 53 significant bits nearest to `n`, a tie
going to the even one. -/
def roundToDouble (n : Nat) : Nat :=
  let unit := Nat.pow 2 (n.log2 - 52)
  let quotient := n / unit
  let rest := n % unit
  if 2 * rest > unit ∨ (2 * rest = unit ∧ quotient % 2 = 1) then (quotient + 1) * unit
  else quotient * unit

/-- From here on a product of doubles rounds to infinity: half a unit above the
largest double. -/
def infiniteFrom : Nat := Nat.pow 2 1024 - Nat.pow 2 970

/-- Whether the number is past every double: significand and power of ten are
rounded to doubles and multiplied. -/
def Digits.isHuge (n : Digits) : Bool :=
  n.significand ≠ 0 &&
    match n.scale with
    | .ofNat e =>
        if e ≤ 308 then
          infiniteFrom ≤ roundToDouble n.significand * roundToDouble (Nat.pow 10 e)
        else true
    | .negSucc _ => false

/-- The reading of a token with a point or an exponent. -/
def Digits.decimal (n : Digits) : Numeral :=
  if n.isHuge then .huge else .inexact

/-- The reading of a token of digits only. -/
def Digits.integer (n : Digits) : Numeral :=
  if n.full then n.decimal
  else if !n.negative then .whole n.significand
  else if n.significand = 0 then .inexact
  else .whole (-n.significand)

end DeclExport.Json
