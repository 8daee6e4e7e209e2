import GameRegistration.Json.Number
import GameRegistration.Text

/-! The values of TOML that have no parts: texts, numbers, dates and times. No setting takes one, so
for all but the texts of keys it only matters whether they are well formed. -/
namespace GameRegistration.Toml

def isSpace (c : Char) : Bool := c == ' ' || c == '\t'

def skipSpaces (cs : List Char) : List Char := cs.dropWhile isSpace

/-- Control characters other than the tab stand nowhere. -/
def isPrintable (c : Char) : Bool := c == '\t' || (0x20 ≤ c.toNat && c.toNat != 0x7F)

def isBare (c : Char) : Bool := c.isAlphanum || c == '_' || c == '-'

/-! ### Texts -/

def hexNumber? (cs : List Char) : Option Nat :=
  cs.foldlM (fun n c => (Text.hexDigit? c).map (16 * n + ·.val)) 0

def scalar? (digits : List Char) : Option Char := do
  let n ← hexNumber? digits
  if n < 0xD800 ∨ (0xDFFF < n ∧ n < 0x110000) then some (Char.ofNat n) else none

def escaped? : Char → Option Char
  | 'b' => some '\x08'
  | 't' => some '\t'
  | 'n' => some '\n'
  | 'f' => some '\x0C'
  | 'r' => some '\r'
  | '"' => some '"'
  | '\\' => some '\\'
  | _ => none

def push (c : Char) (r : List Char × List Char) : List Char × List Char := (c :: r.1, r.2)

def readBasic : List Char → Option (List Char × List Char)
  | [] => none
  | '"' :: rest => some ([], rest)
  | '\\' :: 'u' :: a :: b :: c :: d :: rest => do
    let code ← scalar? [a, b, c, d]
    return push code (← readBasic rest)
  | '\\' :: 'U' :: a :: b :: c :: d :: e :: f :: g :: h :: rest => do
    let code ← scalar? [a, b, c, d, e, f, g, h]
    return push code (← readBasic rest)
  | '\\' :: c :: rest => do
    let code ← escaped? c
    return push code (← readBasic rest)
  | c :: rest => if isPrintable c then do return push c (← readBasic rest) else none

def readLiteral : List Char → Option (List Char × List Char)
  | [] => none
  | '\'' :: rest => some ([], rest)
  | c :: rest => if isPrintable c then do return push c (← readLiteral rest) else none

/-- Whether a backslash may stand before this: an escape, or spaces up to the end of the line. -/
def isEscapeBody (cs : List Char) : Bool :=
  match cs with
  | 'u' :: rest => 4 ≤ rest.length && (scalar? (rest.take 4)).isSome
  | 'U' :: rest => 8 ≤ rest.length && (scalar? (rest.take 8)).isSome
  | cs =>
    (cs.head?.bind escaped?).isSome ||
      (match skipSpaces cs with
        | '\n' :: _ => true
        | '\r' :: '\n' :: _ => true
        | _ => false)

/-- Up to two quotes may stand right before the three that end a text of many lines. -/
def skipLastQuotes (quote : Char) (cs : List Char) : List Char :=
  cs.drop ((cs.take 2).takeWhile (· == quote)).length

/-- Skips what follows three double quotes, up to the three that end the text. The characters of an
escape past the first are as good as any others. -/
def skipLongBasic : List Char → Option (List Char)
  | [] => none
  | '"' :: '"' :: '"' :: rest => some (skipLastQuotes '"' rest)
  | '\\' :: c :: rest => if isEscapeBody (c :: rest) then skipLongBasic rest else none
  | '\r' :: '\n' :: rest => skipLongBasic rest
  | c :: rest => if c == '\n' || isPrintable c then skipLongBasic rest else none

def skipLongLiteral : List Char → Option (List Char)
  | [] => none
  | '\'' :: '\'' :: '\'' :: rest => some (skipLastQuotes '\'' rest)
  | '\r' :: '\n' :: rest => skipLongLiteral rest
  | c :: rest => if c == '\n' || isPrintable c then skipLongLiteral rest else none

/-! ### Numbers -/

/-- Digits of a base, with single underscores between them. -/
def isDigits (isDigit : Char → Bool) : List Char → Bool
  | [] => false
  | [c] => isDigit c
  | c :: '_' :: rest => isDigit c && isDigits isDigit rest
  | c :: rest => isDigit c && isDigits isDigit rest

def digitsOf (cs : List Char) : List Char := cs.filter (· != '_')

def isDecimal (cs : List Char) : Bool :=
  isDigits Json.isDigit cs && (cs.head? != some '0' || cs.length == 1)

def unsigned : List Char → List Char
  | '+' :: rest => rest
  | '-' :: rest => rest
  | cs => cs

/-- Whole numbers must fit into 64 bits with a sign. -/
def isInteger (cs : List Char) : Bool :=
  match cs with
  | '0' :: 'x' :: rest =>
    isDigits (fun c => (Text.hexDigit? c).isSome) rest &&
      (hexNumber? (digitsOf rest)).any (· < Nat.pow 2 63)
  | '0' :: 'o' :: rest =>
    isDigits (fun c => '0' ≤ c && c ≤ '7') rest &&
      (digitsOf rest).foldl (fun n c => 8 * n + Json.digit c) 0 < Nat.pow 2 63
  | '0' :: 'b' :: rest =>
    isDigits (fun c => c == '0' || c == '1') rest &&
      (digitsOf rest).foldl (fun n c => 2 * n + Json.digit c) 0 < Nat.pow 2 63
  | cs =>
    let n := Json.value (digitsOf (unsigned cs))
    isDecimal (unsigned cs) && (n < Nat.pow 2 63 || (cs.head? == some '-' && n == Nat.pow 2 63))

def isExponentMark (c : Char) : Bool := c == 'e' || c == 'E'

def readFraction (cs : List Char) : Option (List Char × List Char) :=
  match cs with
  | '.' :: rest =>
    let digits := rest.takeWhile (!isExponentMark ·)
    if isDigits Json.isDigit digits then some (digitsOf digits, rest.dropWhile (!isExponentMark ·))
    else none
  | cs => some ([], cs)

def readExponent (cs : List Char) : Option (Option Int) :=
  match cs with
  | [] => some none
  | mark :: rest =>
    if isExponentMark mark && isDigits Json.isDigit (unsigned rest) then
      let n : Int := Json.value (digitsOf (unsigned rest))
      some (some (if rest.head? = some '-' then -n else n))
    else none

def floatLiteral? (token : List Char) : Option Json.NumberLiteral := do
  let isMark (c : Char) : Bool := c == '.' || isExponentMark c
  let whole := (unsigned token).takeWhile (!isMark ·)
  let (fraction, rest) ← readFraction ((unsigned token).dropWhile (!isMark ·))
  let exponent ← readExponent rest
  if isDecimal whole && !(fraction.isEmpty && exponent.isNone) then
    some { isNegative := token.head? == some '-', whole := digitsOf whole, fraction, exponent }
  else none

/-- Whether the double nearest to a number is infinite, its sign apart. How many digits stand before
the point decides this, but for a few numbers that are compared with the limit. -/
def isInfinite (l : Json.NumberLiteral) : Bool :=
  let digits := (l.whole ++ l.fraction).dropWhile (· == '0')
  let exponent : Int := l.exponent.getD 0 - l.fraction.length
  let places : Int := exponent + digits.length
  !digits.isEmpty && 308 < places &&
    (310 < places ||
      Json.doubleLimit * Nat.pow 10 (-exponent).toNat ≤
        Json.value digits * Nat.pow 10 exponent.toNat)

/-- Infinity must be spelt out, but minus infinity need not be. -/
def isFloat (token : List Char) : Bool :=
  unsigned token == ['i', 'n', 'f'] || unsigned token == ['n', 'a', 'n'] ||
    (floatLiteral? token).any fun l => l.isNegative || !isInfinite l

/-! ### Dates and times -/

def isPair (least most : Nat) (a b : Char) : Bool :=
  Json.isDigit a && Json.isDigit b && least ≤ Json.value [a, b] && Json.value [a, b] ≤ most

def daysOfMonth (year month : Nat) : Nat :=
  if month = 2 then if year % 4 = 0 ∧ (year % 100 ≠ 0 ∨ year % 400 = 0) then 29 else 28
  else if month ∈ [4, 6, 9, 11] then 30
  else 31

def isDate : List Char → Bool
  | [a, b, c, d, '-', e, f, '-', g, h] =>
    [a, b, c, d].all Json.isDigit && isPair 1 12 e f &&
      isPair 1 (daysOfMonth (Json.value [a, b, c, d]) (Json.value [e, f])) g h
  | _ => false

def isOffset : List Char → Bool
  | ['Z'] => true
  | ['z'] => true
  | [sign, a, b, ':', c, d] => (sign == '+' || sign == '-') && isPair 0 23 a b && isPair 0 59 c d
  | _ => false

/-- A time of day, whose last minute may have a second more. -/
def isTime (mayHaveOffset : Bool) : List Char → Bool
  | a :: b :: ':' :: c :: d :: ':' :: e :: f :: rest =>
    let isEnd (cs : List Char) : Bool := cs.isEmpty || (mayHaveOffset && isOffset cs)
    isPair 0 23 a b && isPair 0 59 c d && isPair 0 60 e f &&
      (match rest with
        | '.' :: rest =>
          !(rest.takeWhile Json.isDigit).isEmpty && isEnd (rest.dropWhile Json.isDigit)
        | rest => isEnd rest)
  | _ => false

/-- A date, a time, or a date and a time with a letter between them. -/
def isMoment (token : List Char) : Bool :=
  isDate token || isTime false token ||
    (isDate (token.take 10) &&
      (match token.drop 10 with
        | mark :: time => (mark == 'T' || mark == 't') && isTime true time
        | [] => false))

end GameRegistration.Toml
