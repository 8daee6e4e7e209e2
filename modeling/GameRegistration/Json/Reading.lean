import GameRegistration.Json.Number
import GameRegistration.Json.Quoted

/-! Reading JSON texts. A reading is a text as far as it is well-formed: where it breaks off, the
reading says so. Nothing is judged but the grammar. -/
namespace GameRegistration.Json

mutual

inductive Reading where
  | null
  | bool (value : Bool)
  | number (value : Number)
  /-- None stands for a text with half a surrogate pair. -/
  | text (value : Option String)
  | array (items : Items)
  | object (members : Members)
  | broken

inductive Items where
  | close
  | broken
  | item (value : Reading) (rest : Items)

inductive Members where
  | close
  | broken
  | member (key : Option String) (value : Reading) (rest : Members)

end

instance : Inhabited Reading := ⟨.broken⟩

def isGap (c : Char) : Bool := c == ' ' || c == '\n' || c == '\t' || c == '\r'

def skipGaps (cs : List Char) : List Char := cs.dropWhile isGap

mutual

/-- Reads a value; the rest of the text comes with it unless the text broke off. -/
def readValue : Nat → List Char → Reading × Option (List Char)
  | 0, _ => (.broken, none)
  | fuel + 1, cs =>
    match skipGaps cs with
    | '[' :: rest =>
      match skipGaps rest with
      | ']' :: rest => (.array .close, some rest)
      | rest =>
        let (items, rest) := readItems fuel rest
        (.array items, rest)
    | '{' :: rest =>
      match skipGaps rest with
      | '}' :: rest => (.object .close, some rest)
      | rest =>
        let (members, rest) := readMembers fuel rest
        (.object members, rest)
    | '"' :: rest =>
      match unquote rest with
      | some (text, rest) => (.text text, some rest)
      | none => (.broken, none)
    | 'n' :: 'u' :: 'l' :: 'l' :: rest => (.null, some rest)
    | 't' :: 'r' :: 'u' :: 'e' :: rest => (.bool true, some rest)
    | 'f' :: 'a' :: 'l' :: 's' :: 'e' :: rest => (.bool false, some rest)
    | cs =>
      match readNumber cs with
      | some (n, rest) => (.number n, some rest)
      | none => (.broken, none)

def readItems : Nat → List Char → Items × Option (List Char)
  | 0, _ => (.broken, none)
  | fuel + 1, cs =>
    match readValue fuel cs with
    | (value, none) => (.item value .broken, none)
    | (value, some rest) =>
      match skipGaps rest with
      | ',' :: rest =>
        let (items, rest) := readItems fuel rest
        (.item value items, rest)
      | ']' :: rest => (.item value .close, some rest)
      | _ => (.item value .broken, none)

def readMembers : Nat → List Char → Members × Option (List Char)
  | 0, _ => (.broken, none)
  | fuel + 1, cs =>
    match skipGaps cs with
    | '"' :: rest =>
      match unquote rest with
      | none => (.broken, none)
      | some (key, rest) =>
        match skipGaps rest with
        | ':' :: rest =>
          match readValue fuel rest with
          | (value, none) => (.member key value .broken, none)
          | (value, some rest) =>
            match skipGaps rest with
            | ',' :: rest =>
              let (members, rest) := readMembers fuel rest
              (.member key value members, rest)
            | '}' :: rest => (.member key value .close, some rest)
            | _ => (.member key value .broken, none)
        | _ => (.member key .broken .broken, none)
    | _ => (.broken, none)

end

/-- Every call but one takes a character, and that one is followed by one that does. -/
def enoughFuel (cs : List Char) : Nat := 2 * cs.length + 2

structure Document where
  root : Reading
  isEnded : Bool

def readChars (cs : List Char) : Document :=
  match readValue (enoughFuel cs) cs with
  | (root, some rest) => { root, isEnded := (skipGaps rest).isEmpty }
  | (root, none) => { root, isEnded := false }

def read (text : String) : Document := readChars text.toList

end GameRegistration.Json
