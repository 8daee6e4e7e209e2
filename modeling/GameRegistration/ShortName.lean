import GameRegistration.Text.LowerCase
import GameRegistration.Identifier

/-! Short file names: up to eight characters, a dot and an extension of up to three. With wildcards
the lengths double, for every character may be a placeholder. -/
namespace GameRegistration.ShortName

def reserved : List Char :=
  ['\\', '|', '>', '<', ':', '/', '"', '+', ',', ';', '=', '[', ']', '.', ' ']

def isAllowed (wildcards : Bool) (c : Char) : Bool :=
  !reserved.contains c && (wildcards || (c != '?' && c != '*'))

def maxBase (wildcards : Bool) : Nat := if wildcards then 16 else 8

def maxExtension (wildcards : Bool) : Nat := if wildcards then 6 else 3

/-- What follows the base: nothing, or a dot and an extension, which may be empty. -/
def isLegalTail (wildcards : Bool) : List Char → Bool
  | [] => true
  | dot :: extension =>
    dot == '.' && decide (extension.length ≤ maxExtension wildcards) &&
      extension.all (isAllowed wildcards)

def isLegalChars (wildcards : Bool) (cs : List Char) : Bool :=
  let base := cs.takeWhile (· != '.')
  let tail := cs.dropWhile (· != '.')
  decide (1 ≤ base.length) && decide (base.length ≤ maxBase wildcards) &&
    base.all (isAllowed wildcards) && isLegalTail wildcards tail

def isLegal (name : String) (wildcards : Bool) : Bool := isLegalChars wildcards name.toList

def isSeparator (c : Char) : Bool := c == '.' || c == '\\' || c == '/'

/-- The extension with its dot: what follows the last separator, if that is a dot and something
follows it. -/
def extension (cs : List Char) : List Char :=
  let last := (cs.reverse.takeWhile (!isSeparator ·)).reverse
  match cs.reverse.dropWhile (!isSeparator ·) with
  | '.' :: _ => if last.isEmpty then [] else '.' :: last
  | _ => []

/-- A reference to a localized text, `!(loc.Name)`, whose letter case counts. -/
def isLocalized (cs : List Char) : Bool :=
  match cs with
  | '!' :: '(' :: 'l' :: 'o' :: 'c' :: '.' :: rest =>
    rest.getLast? == some ')' && Identifier.isLegalChars rest.dropLast
  | _ => false

def fileSymbol (c : Char) : Char :=
  if c = '+' then '-' else if c = '/' then '_' else c

def digestChars (digest : List UInt8) : List Char :=
  ((Digest.base64 digest).take 8).map fileSymbol

def baseChars (name : List Char) (parts : List String) : List Char :=
  digestChars (Digest.sha1 (Identifier.joined (String.ofList name :: parts)).toUTF8.toList)

def generateChars (name : List Char) (keepExtension wildcards : Bool) (parts : List String) :
    List Char :=
  let name := if isLocalized name then name else Text.lower name
  let base := baseChars name parts
  let full := base ++ (extension name).take 4
  Text.lower (if keepExtension && isLegalChars wildcards full then full else base)

/-- A stable short name for a long one. The parts keep apart short names of one long name; an
extension is kept where the result stays legal. -/
def generate (name : String) (keepExtension wildcards : Bool) (parts : List String) : String :=
  String.ofList (generateChars name.toList keepExtension wildcards parts)

end GameRegistration.ShortName
