import GameRegistration.Digest

/-! Installer identifiers: their grammar and length limit, identifiers composed of a stem and an
owner, and identifiers made from a digest of several parts. -/
namespace GameRegistration.Identifier

/-- The longest identifier the installer takes, in characters. -/
def maxLength : Nat := 72

def isStart (c : Char) : Bool := c.isAlpha || c == '_'

def isPart (c : Char) : Bool := c.isAlphanum || c == '_' || c == '.'

def isLegalChars : List Char → Bool
  | [] => false
  | c :: rest => isStart c && rest.all isPart

/-- The grammar alone: a legal identifier may still be too long. -/
def isLegal (id : String) : Bool := isLegalChars id.toList

inductive Violation where
  | tooLong (length : Nat)
  | badGrammar
deriving DecidableEq, Repr

def Violation.text : Violation → String
  | .tooLong length => s!"too long ({length} characters)"
  | .badGrammar => "not a legal identifier"

/-- Excess length is named before bad grammar. -/
def violation? (id : String) : Option Violation :=
  if maxLength < id.length then some (.tooLong id.length)
  else if isLegal id then none
  else some .badGrammar

def compose (stem owner : String) : String := stem ++ "_" ++ owner

def safeSymbol (c : Char) : Char :=
  if c = '+' then '.' else if c = '/' then '_' else c

/-- A digest in identifier characters: its base64 text without the filling. -/
def digestChars (digest : List UInt8) : List Char :=
  ((Digest.base64 digest).takeWhile (· != '=')).map safeSymbol

/-- The text that stands for several parts when they are hashed. -/
def joined (parts : List String) : String := "|".intercalate parts

/-- Stable: the same stem and parts always give the same identifier. -/
def hashed (stem : String) (parts : List String) : String :=
  stem ++ String.ofList (digestChars (Digest.sha1 (joined parts).toUTF8.toList))

theorem violation?_eq_none_iff {id : String} :
    violation? id = none ↔ id.length ≤ maxLength ∧ isLegal id = true := by
  unfold violation?
  by_cases h : maxLength < id.length
  · simp only [h, if_true]
    exact ⟨fun e => by simp at e, fun e => absurd e.1 (by omega)⟩
  · by_cases l : isLegal id = true
    · simp [h, l]; omega
    · simp [h, l]

end GameRegistration.Identifier
