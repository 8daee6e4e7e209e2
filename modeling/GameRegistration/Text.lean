/-! Characters of texts: blanks, which have the Unicode property White_Space, and hexadecimal digits. -/
namespace GameRegistration.Text

/-! Blanks -/

/-- White_Space. U+200B, U+FEFF and the separators U+001C to U+001F are not in it. -/
def isBlank (c : Char) : Bool :=
  let n := c.toNat
  (0x09 ≤ n && n ≤ 0x0D) || n == 0x20 || n == 0x85 || n == 0xA0 || n == 0x1680 ||
    (0x2000 ≤ n && n ≤ 0x200A) || n == 0x2028 || n == 0x2029 || n == 0x202F || n == 0x205F ||
    n == 0x3000

def trim (cs : List Char) : List Char :=
  ((cs.dropWhile isBlank).reverse.dropWhile isBlank).reverse

/-! Hexadecimal digits, in either letter case when read -/

def lastHexDigit (n : Nat) : Fin 16 := Fin.ofNat 16 n

def hexDigit? (c : Char) : Option (Fin 16) :=
  if '0' ≤ c ∧ c ≤ '9' then some (Fin.ofNat 16 (c.toNat - 48))
  else if 'a' ≤ c ∧ c ≤ 'f' then some (Fin.ofNat 16 (c.toNat - 87))
  else if 'A' ≤ c ∧ c ≤ 'F' then some (Fin.ofNat 16 (c.toNat - 55))
  else none

def hexUpper (d : Fin 16) : Char :=
  if d.val < 10 then Char.ofNat (48 + d.val) else Char.ofNat (55 + d.val)

def hexLower (d : Fin 16) : Char :=
  if d.val < 10 then Char.ofNat (48 + d.val) else Char.ofNat (87 + d.val)

theorem hexDigit?_hexUpper : ∀ d, hexDigit? (hexUpper d) = some d := by decide

theorem hexDigit?_hexLower : ∀ d, hexDigit? (hexLower d) = some d := by decide

end GameRegistration.Text
