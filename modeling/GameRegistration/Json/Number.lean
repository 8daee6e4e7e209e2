/-! JSON number literals. Whole numbers are kept as long as a 64-bit word holds them; of all others
only it matters whether a double can hold them. -/
namespace GameRegistration.Json

inductive Number where
  | natural (n : Nat)
  | negative (n : Nat)
  /-- A fraction, an exponent, minus zero, or a whole number beyond 64 bits. -/
  | real
  /-- So large that a double of it is infinite. -/
  | outOfRange
deriving DecidableEq, Repr

def isDigit (c : Char) : Bool := '0' ≤ c && c ≤ '9'

def digit (c : Char) : Nat := c.toNat - 48

def value (digits : List Char) : Nat := digits.foldl (fun n c => 10 * n + digit c) 0

/-- The nearest number of 53 significant bits, ties to even. -/
def roundToDouble (n : Nat) : Nat :=
  let bits := n.log2 + 1
  if bits ≤ 53 then n
  else
    let unit := Nat.pow 2 (bits - 53)
    let q := n / unit
    let r := n % unit
    if unit < 2 * r ∨ (unit = 2 * r ∧ q % 2 = 1) then (q + 1) * unit else q * unit

/-- From here on a product of doubles is infinite. -/
def doubleLimit : Nat := Nat.pow 2 1024 - Nat.pow 2 970

/-- Appends digits to a number while a 64-bit word holds it; also how many were left over. -/
def appendDigits (n : Nat) : List Char → Nat × Nat
  | [] => (n, 0)
  | c :: rest =>
    if 10 * n + digit c < Nat.pow 2 64 then appendDigits (10 * n + digit c) rest
    else (n, rest.length + 1)

structure NumberLiteral where
  isNegative : Bool
  whole : List Char
  fraction : List Char
  exponent : Option Int

namespace NumberLiteral

/-- Whether the literal is too large for a double, which is computed as the first digits times a
power of ten. -/
def overflows (l : NumberLiteral) : Bool :=
  let (n, dropped) := appendDigits 0 l.whole
  let (n, unused) := appendDigits n l.fraction
  let exponent : Int := dropped - (l.fraction.length - unused : Nat) + l.exponent.getD 0
  n != 0 && 0 ≤ exponent &&
    (308 < exponent || doubleLimit ≤ roundToDouble n * roundToDouble (Nat.pow 10 exponent.toNat))

def number (l : NumberLiteral) : Number :=
  let n := value l.whole
  if l.fraction.isEmpty && l.exponent.isNone && !l.isNegative && n < Nat.pow 2 64 then .natural n
  else if l.fraction.isEmpty && l.exponent.isNone && l.isNegative && 0 < n && n ≤ Nat.pow 2 63 then
    .negative n
  else if l.overflows then .outOfRange
  else .real

end NumberLiteral

def readSign : List Char → Bool × List Char
  | '-' :: rest => (true, rest)
  | cs => (false, cs)

/-- At least one digit, and no zero before others. -/
def readWhole (cs : List Char) : Option (List Char × List Char) :=
  match cs.takeWhile isDigit with
  | [] => none
  | '0' :: _ :: _ => none
  | digits => some (digits, cs.dropWhile isDigit)

/-- A point must be followed by a digit. -/
def readFraction : List Char → Option (List Char × List Char)
  | '.' :: rest =>
    if (rest.takeWhile isDigit).isEmpty then none
    else some (rest.takeWhile isDigit, rest.dropWhile isDigit)
  | cs => some ([], cs)

def readExponentDigits (isNegative : Bool) (cs : List Char) : Option (Option Int × List Char) :=
  let digits := cs.takeWhile isDigit
  if digits.isEmpty then none
  else
    let n : Int := value digits
    some (some (if isNegative then -n else n), cs.dropWhile isDigit)

def readExponent : List Char → Option (Option Int × List Char)
  | c :: rest =>
    if c = 'e' ∨ c = 'E' then
      match rest with
      | '+' :: rest => readExponentDigits false rest
      | '-' :: rest => readExponentDigits true rest
      | _ => readExponentDigits false rest
    else some (none, c :: rest)
  | [] => some (none, [])

def readNumber (cs : List Char) : Option (Number × List Char) := do
  let (isNegative, cs) := readSign cs
  let (whole, cs) ← readWhole cs
  let (fraction, cs) ← readFraction cs
  let (exponent, cs) ← readExponent cs
  return (NumberLiteral.number { isNegative, whole, fraction, exponent }, cs)

end GameRegistration.Json
