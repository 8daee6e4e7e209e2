import GameRegistration.Text.LowerCase.Table

/-! Full Unicode lower-casing of a text. One capital grows (`İ` becomes `i` and a combining dot),
and a capital sigma that ends a word has a form of its own. -/
namespace GameRegistration.Text

def inRanges (ranges : List (Nat × Nat)) (n : Nat) : Bool :=
  ranges.any fun (first, last) => first ≤ n && n ≤ last

def isCased (c : Char) : Bool := inRanges casedRanges c.toNat

/-- Marks, modifiers and the like: they do not separate a letter from its word. -/
def isCaseIgnorable (c : Char) : Bool := inRanges ignorableRanges c.toNat

def lowerChar (c : Char) : Char :=
  if c.toNat < 0x80 then c.toLower
  else match lowerSpans.find? (·.has c.toNat) with
    | some s => Char.ofNat (s.image + (c.toNat - s.first))
    | none => c

def startsCased (cs : List Char) : Bool :=
  match cs.dropWhile isCaseIgnorable with
  | [] => false
  | c :: _ => isCased c

/-- `inWord` says whether the nearest character before that counts is cased. A sigma is final when
such a character stands before it and none follows. -/
def lowerFrom (inWord : Bool) : List Char → List Char
  | [] => []
  | c :: rest =>
    let lowered :=
      if c = 'Σ' then [if inWord && !startsCased rest then 'ς' else 'σ']
      else if c = 'İ' then ['i', '\u0307']
      else [lowerChar c]
    lowered ++ lowerFrom (if isCaseIgnorable c then inWord else isCased c) rest

def lower (cs : List Char) : List Char := lowerFrom false cs

def lowerText (s : String) : String := String.ofList (lower s.toList)

@[simp] theorem toList_lowerText (s : String) : (lowerText s).toList = lower s.toList := by
  simp [lowerText]

end GameRegistration.Text
