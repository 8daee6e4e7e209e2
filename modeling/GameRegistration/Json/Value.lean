import GameRegistration.Json.Quoted

/-! JSON values and their two written forms: compact, without blanks, and pretty, with two blanks
for each level. -/
namespace GameRegistration

inductive Json where
  | null
  | bool (value : Bool)
  | number (value : Nat)
  | text (value : String)
  | array (items : List Json)
  | object (members : List (String × Json))
deriving Repr, Inhabited

namespace Json

def ofOption (f : α → Json) : Option α → Json
  | some a => f a
  | none => .null

def ofTextOption (s : Option String) : Json := ofOption .text s

/-- What stands before an item at a depth. -/
def gap (pretty : Bool) (depth : Nat) : List Char :=
  if pretty then '\n' :: List.replicate (2 * depth) ' ' else []

def colon (pretty : Bool) : List Char := if pretty then [':', ' '] else [':']

mutual

def write (pretty : Bool) (depth : Nat) : Json → List Char
  | .null => ['n', 'u', 'l', 'l']
  | .bool true => ['t', 'r', 'u', 'e']
  | .bool false => ['f', 'a', 'l', 's', 'e']
  | .number n => Nat.toDigits 10 n
  | .text s => quote s
  | .array [] => ['[', ']']
  | .array (item :: rest) =>
    '[' :: gap pretty (depth + 1) ++ write pretty (depth + 1) item ++ writeItems pretty depth rest
  | .object [] => ['{', '}']
  | .object ((key, value) :: rest) =>
    '{' :: gap pretty (depth + 1) ++ quote key ++ colon pretty ++
      write pretty (depth + 1) value ++ writeMembers pretty depth rest

def writeItems (pretty : Bool) (depth : Nat) : List Json → List Char
  | [] => gap pretty depth ++ [']']
  | item :: rest =>
    ',' :: gap pretty (depth + 1) ++ write pretty (depth + 1) item ++ writeItems pretty depth rest

def writeMembers (pretty : Bool) (depth : Nat) : List (String × Json) → List Char
  | [] => gap pretty depth ++ ['}']
  | (key, value) :: rest =>
    ',' :: gap pretty (depth + 1) ++ quote key ++ colon pretty ++
      write pretty (depth + 1) value ++ writeMembers pretty depth rest

end

def render (pretty : Bool) (v : Json) : String := String.ofList (write pretty 0 v)

def compact (v : Json) : String := render false v

end Json

end GameRegistration
