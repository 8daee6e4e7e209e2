import GameRegistration.Text

/-! GUIDs: 128 bits as 32 hexadecimal digits. Four spellings are read; one, braced and in capitals, is
written. -/
namespace GameRegistration

structure Guid where
  digits : List (Fin 16)
  length_digits : digits.length = 32

namespace Guid

def groupSizes : List Nat := [8, 4, 4, 4, 12]

def joinGroups : List Nat → List Char → List Char
  | [], _ => []
  | [size], cs => cs.take size
  | size :: sizes, cs => cs.take size ++ '-' :: joinGroups sizes (cs.drop size)

/-- The characters of the groups without the hyphens, if those stand where the sizes put them. -/
def splitGroups : List Nat → List Char → Option (List Char)
  | [], cs => if cs.isEmpty then some [] else none
  | [size], cs => if cs.length = size then some cs else none
  | size :: sizes, cs =>
    match cs.drop size with
    | '-' :: rest => (splitGroups sizes rest).map (cs.take size ++ ·)
    | _ => none

def ofPlain? (cs : List Char) : Option Guid := do
  let digits ← cs.mapM Text.hexDigit?
  if h : digits.length = 32 then some ⟨digits, h⟩ else none

def ofHyphenated? (cs : List Char) : Option Guid :=
  (splitGroups groupSizes cs).bind ofPlain?

def ofBraced? : List Char → Option Guid
  | '{' :: rest => if rest.getLast? = some '}' then ofHyphenated? rest.dropLast else none
  | _ => none

def urnScheme : List Char := "urn:uuid:".toList

def ofUrn? (cs : List Char) : Option Guid :=
  if (cs.take urnScheme.length).map Char.toLower = urnScheme then
    ofHyphenated? (cs.drop urnScheme.length)
  else none

def ofChars? (cs : List Char) : Option Guid :=
  ofPlain? cs <|> ofHyphenated? cs <|> ofBraced? cs <|> ofUrn? cs

def parse? (text : String) : Option Guid := ofChars? (Text.trim text.toList)

def chars (g : Guid) : List Char :=
  '{' :: joinGroups groupSizes (g.digits.map Text.hexUpper) ++ ['}']

def text (g : Guid) : String := String.ofList g.chars

end Guid

end GameRegistration
