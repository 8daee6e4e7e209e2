import GameRegistration.Settings.Toml.Scalar

/-! TOML documents, the language of settings files. A table may be defined once only, and neither
keys nor values may be nested too deep. -/
namespace GameRegistration

/-- How a table came to be, which decides what may be added to it later. -/
inductive TableKind where
  | header
  /-- On the way to a header that names a table below it. -/
  | implied
  /-- On the way of a dotted key. -/
  | dotted
  | inline
deriving DecidableEq, Repr

inductive Toml where
  | boolean (value : Bool)
  /-- A number or a text: no setting takes one. -/
  | scalar
  /-- A date, a time of day, or both. -/
  | moment
  | array (items : List Toml)
  | table (kind : TableKind) (entries : List (String × Toml))
  /-- Tables with one header each. -/
  | tables (items : List Toml)
deriving Inhabited

namespace Toml

def setEntry (key : String) (value : Toml) : List (String × Toml) → List (String × Toml)
  | [] => [(key, value)]
  | (k, v) :: rest => if k = key then (k, value) :: rest else (k, v) :: setEntry key value rest

/-- Changes the table at the end of a path, and makes those on the way that are not there. A dotted
key may not enter a table that has a header, and nothing enters an inline table. -/
def modifyTable (isDotted : Bool) (change : Toml → Option Toml) : List String → Toml → Option Toml
  | [], t => change t
  | key :: path, .table kind entries => do
    let value ← match entries.lookup key with
      | none => modifyTable isDotted change path (.table (if isDotted then .dotted else .implied) [])
      | some (.table below inner) =>
        if below = .inline ∨ (isDotted ∧ below = .header) then none
        else modifyTable isDotted change path (.table below inner)
      | some (.tables items) =>
        items.getLast?.bind fun last =>
          (modifyTable isDotted change path last).map fun changed =>
            .tables (items.dropLast ++ [changed])
      | some _ => none
    return .table kind (setEntry key value entries)
  | _ :: _, _ => none

/-- Adds a new entry; the way to it is dotted exactly if it has one. -/
def addEntry (path : List String) (key : String) (value : Toml) (t : Toml) : Option Toml :=
  let add : Toml → Option Toml
    | .table kind entries =>
      if decide (kind = .dotted) = path.isEmpty then none
      else if (entries.lookup key).isSome then none
      else some (.table kind (entries ++ [(key, value)]))
    | _ => none
  modifyTable true add path t

/-- Opens the table of a header. One that is only implied so far may still get its header. -/
def openTable (key : String) : Toml → Option Toml
  | .table kind entries =>
    match entries.lookup key with
    | none => some (.table kind (setEntry key (.table .header []) entries))
    | some (.table .implied inner) => some (.table kind (setEntry key (.table .header inner) entries))
    | some _ => none
  | _ => none

def openNextTable (key : String) : Toml → Option Toml
  | .table kind entries =>
    match entries.lookup key with
    | none => some (.table kind (setEntry key (.tables [.table .header []]) entries))
    | some (.tables items) =>
      some (.table kind (setEntry key (.tables (items ++ [.table .header []])) entries))
    | some _ => none
  | _ => none

def readSimpleKey (cs : List Char) : Option (String × List Char) :=
  match cs with
  | '"' :: rest => (readBasic rest).map fun (key, rest) => (String.ofList key, rest)
  | '\'' :: rest => (readLiteral rest).map fun (key, rest) => (String.ofList key, rest)
  | cs =>
    let key := cs.takeWhile isBare
    if key.isEmpty then none else some (String.ofList key, cs.dropWhile isBare)

/-- The most parts of a key, and the most arrays and inline tables that a value may be inside of. -/
def maxDepth : Nat := 79

/-- Reads a key of at most so many parts: the way, the last part, and what follows. -/
def readKeyParts : Nat → List Char → Option (List String × String × List Char)
  | 0, _ => none
  | most + 1, cs => do
    let (part, rest) ← readSimpleKey (skipSpaces cs)
    match skipSpaces rest with
    | '.' :: rest =>
      let (path, key, rest) ← readKeyParts most rest
      return (part :: path, key, rest)
    | rest => return ([], part, rest)

def readKey (cs : List Char) : Option (List String × String × List Char) := readKeyParts maxDepth cs

def isTokenChar (c : Char) : Bool := isBare c || c == '+' || c == '.' || c == ':'

def ofToken? (token : List Char) : Option Toml :=
  if token = ['t', 'r', 'u', 'e'] then some (.boolean true)
  else if token = ['f', 'a', 'l', 's', 'e'] then some (.boolean false)
  else if isInteger token || isFloat token then some .scalar
  else if isMoment token then some .moment
  else none

/-- A date and a time may stand apart. -/
def readToken (cs : List Char) : Option (Toml × List Char) :=
  let token := cs.takeWhile isTokenChar
  let rest := cs.dropWhile isTokenChar
  match rest with
  | ' ' :: next =>
    if isDate token && isTime true (next.takeWhile isTokenChar) then
      some (.moment, next.dropWhile isTokenChar)
    else (ofToken? token).map (·, rest)
  | rest => (ofToken? token).map (·, rest)

def skipComment (cs : List Char) : Option (List Char) :=
  match cs with
  | '#' :: rest =>
    match rest.dropWhile isPrintable with
    | [] => some []
    | '\n' :: rest => some ('\n' :: rest)
    | '\r' :: '\n' :: rest => some ('\r' :: '\n' :: rest)
    | _ => none
  | cs => some cs

def endLine (cs : List Char) : Option (List Char) := do
  match ← skipComment (skipSpaces cs) with
  | [] => some []
  | '\n' :: rest => some rest
  | '\r' :: '\n' :: rest => some rest
  | _ => none

/-- Skips spaces, comments and ends of lines between the items of an array. -/
def skipBetween : Nat → List Char → Option (List Char)
  | 0, _ => none
  | fuel + 1, cs => do
    match ← skipComment (skipSpaces cs) with
    | '\n' :: rest => skipBetween fuel rest
    | '\r' :: '\n' :: rest => skipBetween fuel rest
    | rest => some rest

mutual

/-- Reads a value that may hold so many arrays and inline tables inside each other. -/
def readValue : Nat → Nat → List Char → Option (Toml × List Char)
  | 0, _, _ => none
  | fuel + 1, depth, cs =>
    match cs with
    | '"' :: '"' :: '"' :: rest => (skipLongBasic rest).map (.scalar, ·)
    | '\'' :: '\'' :: '\'' :: rest => (skipLongLiteral rest).map (.scalar, ·)
    | '"' :: rest => (readBasic rest).map fun (_, rest) => (.scalar, rest)
    | '\'' :: rest => (readLiteral rest).map fun (_, rest) => (.scalar, rest)
    | '[' :: rest =>
      match depth with
      | 0 => none
      | depth + 1 => (readItems fuel depth rest).map fun (items, rest) => (.array items, rest)
    | '{' :: rest =>
      match depth, skipSpaces rest with
      | 0, _ => none
      | _, '}' :: rest => some (.table .inline [], rest)
      | depth + 1, rest => readPairs fuel depth (.table .inline []) rest
    | cs => readToken cs

/-- The items of an array, which may end in a comma, and what follows the array. -/
def readItems : Nat → Nat → List Char → Option (List Toml × List Char)
  | 0, _, _ => none
  | fuel + 1, depth, cs => do
    match ← skipBetween (cs.length + 1) cs with
    | ']' :: rest => return ([], rest)
    | cs =>
      let (item, rest) ← readValue fuel depth cs
      match ← skipBetween (rest.length + 1) rest with
      | ',' :: rest =>
        let (items, rest) ← readItems fuel depth rest
        return (item :: items, rest)
      | ']' :: rest => return ([item], rest)
      | _ => none

/-- The entries of an inline table, on one line and without a comma at the end. -/
def readPairs : Nat → Nat → Toml → List Char → Option (Toml × List Char)
  | 0, _, _, _ => none
  | fuel + 1, depth, t, cs => do
    let (path, key, rest) ← readKey cs
    match rest with
    | '=' :: rest =>
      let (value, rest) ← readValue fuel depth (skipSpaces rest)
      let t ← addEntry path key value t
      match skipSpaces rest with
      | ',' :: rest => readPairs fuel depth t rest
      | '}' :: rest => return (t, rest)
      | _ => none
    | _ => none

end

structure Progress where
  root : Toml := .table .header []
  path : List String := []

def readHeader (p : Progress) (isNext : Bool) (cs : List Char) : Option (Progress × List Char) := do
  let (path, key, rest) ← readKey cs
  let root ← modifyTable false (if isNext then openNextTable key else openTable key) path p.root
  return ({ root, path := path ++ [key] }, rest)

def readEntry (p : Progress) (cs : List Char) : Option (Progress × List Char) := do
  let (path, key, rest) ← readKey cs
  match rest with
  | '=' :: rest =>
    let (value, rest) ← readValue (2 * rest.length + 2) maxDepth (skipSpaces rest)
    let root ← modifyTable false (addEntry path key value) p.path p.root
    return ({ p with root }, rest)
  | _ => none

def readLine (p : Progress) (cs : List Char) : Option (Progress × List Char) := do
  match skipSpaces cs with
  | '[' :: '[' :: rest =>
    match ← readHeader p true rest with
    | (p, ']' :: ']' :: rest) => return (p, ← endLine rest)
    | _ => none
  | '[' :: rest =>
    match ← readHeader p false rest with
    | (p, ']' :: rest) => return (p, ← endLine rest)
    | _ => none
  | cs =>
    match cs with
    | [] | '#' :: _ | '\n' :: _ | '\r' :: _ => return (p, ← endLine cs)
    | cs =>
      let (p, rest) ← readEntry p cs
      return (p, ← endLine rest)

def readLines : Nat → Progress → List Char → Option Progress
  | _, p, [] => some p
  | 0, _, _ => none
  | fuel + 1, p, cs => do
    let (p, rest) ← readLine p cs
    readLines fuel p rest

/-- Reads a whole document; a byte order mark in front is passed over. -/
def read (text : String) : Option Toml :=
  let cs := match text.toList with
    | '\uFEFF' :: rest => rest
    | cs => cs
  (readLines (cs.length + 1) {} cs).map (·.root)

end Toml

end GameRegistration
