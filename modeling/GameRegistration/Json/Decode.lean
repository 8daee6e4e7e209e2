import GameRegistration.Json.Reading

/-! Decoding readings. The first fault in the order of the text is the one reported; where the text
breaks off, that is the fault. -/
namespace GameRegistration.Json

inductive Fault where
  /-- The text is not well-formed, or too deep, or holds what has no value. -/
  | malformed
  | missingField (name : String)
  | duplicateField (name : String)
  | unknownVariant (found : String) (expected : List String)
  | invalidType
  | invalidValue
  | invalidLength
deriving DecidableEq, Repr

abbrev Result := Except Fault

namespace Fault

def tick (name : String) : String := "`" ++ name ++ "`"

/-- Names joined for a message: one alone, two with "or", more as a list. -/
def oneOf : List String → String
  | [a] => tick a
  | [a, b] => tick a ++ " or " ++ tick b
  | names => "one of " ++ ", ".intercalate (names.map tick)

def message : Fault → String
  | .malformed => "malformed text"
  | .missingField name => "missing field " ++ tick name
  | .duplicateField name => "duplicate field " ++ tick name
  | .unknownVariant found expected =>
    "unknown variant " ++ tick found ++ ", expected " ++ oneOf expected
  | .invalidType => "invalid type"
  | .invalidValue => "invalid value"
  | .invalidLength => "invalid length"

end Fault

/-- A text is decoded while it streams in, with room for so many more nested arrays and objects, or
from a buffer that has been checked whole. -/
inductive Mode where
  | streaming (room : Nat)
  | buffered
deriving DecidableEq, Repr

namespace Mode

/-- The nesting that a text may have. -/
def maxNesting : Nat := 127

def start : Mode := .streaming maxNesting

def enter : Mode → Result Mode
  | .streaming 0 => .error .malformed
  | .streaming (room + 1) => .ok (.streaming room)
  | .buffered => .ok .buffered

/-- Elements beyond the last field: a stream was expected to end there. -/
def surplus : Mode → Fault
  | .streaming _ => .malformed
  | .buffered => .invalidLength

end Mode

mutual

def Reading.isWhole : Reading → Bool
  | .broken => false
  | .array items => items.isWhole
  | .object members => members.isWhole
  | _ => true

def Items.isWhole : Items → Bool
  | .close => true
  | .broken => false
  | .item value rest => value.isWhole && rest.isWhole

def Members.isWhole : Members → Bool
  | .close => true
  | .broken => false
  | .member _ value rest => value.isWhole && rest.isWhole

end

mutual

/-- Whether a reading can be kept: whole, with texts and numbers that have values, and no deeper
than there is room. -/
def Reading.isSound (room : Nat) : Reading → Bool
  | .broken | .text none | .number .outOfRange => false
  | .array items => room != 0 && items.isSound (room - 1)
  | .object members => room != 0 && members.isSound (room - 1)
  | _ => true

def Items.isSound (room : Nat) : Items → Bool
  | .close => true
  | .broken => false
  | .item value rest => value.isSound room && rest.isSound room

def Members.isSound (room : Nat) : Members → Bool
  | .close => true
  | .broken | .member none _ _ => false
  | .member (some _) value rest => value.isSound room && rest.isSound room

end

namespace Reading

/-- The fault of a value of the wrong type. A scalar without a value is malformed before that. -/
def mismatch : Reading → Fault
  | .broken | .text none | .number .outOfRange => .malformed
  | _ => .invalidType

def skip (r : Reading) : Result Unit := if r.isWhole then .ok () else .error .malformed

def buffer (mode : Mode) (r : Reading) : Result Unit :=
  match mode with
  | .streaming room => if r.isSound room then .ok () else .error .malformed
  | .buffered => .ok ()

def asText : Reading → Result String
  | .text (some s) => .ok s
  | r => .error r.mismatch

def asTextOption : Reading → Result (Option String)
  | .null => .ok none
  | r => some <$> r.asText

def asBool : Reading → Result Bool
  | .bool b => .ok b
  | r => .error r.mismatch

def asWord : Reading → Result UInt32
  | .number (.natural n) => if n < Nat.pow 2 32 then .ok (UInt32.ofNat n) else .error .invalidValue
  | .number (.negative _) => .error .invalidValue
  | r => .error r.mismatch

def asWordOption : Reading → Result (Option UInt32)
  | .null => .ok none
  | r => some <$> r.asWord

end Reading

def Items.decode (decode : Reading → Result α) : Items → Result (List α)
  | .close => .ok []
  | .broken => .error .malformed
  | .item value rest => do
    let a ← decode value
    let as ← rest.decode decode
    return a :: as

def Reading.asList (mode : Mode) (decode : Mode → Reading → Result α) : Reading → Result (List α)
  | .array items => do items.decode (decode (← mode.enter))
  | r => .error r.mismatch

/-- The members of a closed object with one kind of value; keys may repeat. -/
def Members.decode (decode : Reading → Result α) : Members → Result (List (String × α))
  | .close => .ok []
  | .broken | .member none _ _ => .error .malformed
  | .member (some key) value rest => do
    let a ← decode value
    let as ← rest.decode decode
    return (key, a) :: as

def Reading.asMap (mode : Mode) (decode : Mode → Reading → Result α) :
    Reading → Result (List (String × α))
  | .object members => do members.decode (decode (← mode.enter))
  | r => .error r.mismatch

/-- The slots that the fields of a structure are decoded into. A structure is an object, or an array
of its fields in order. -/
structure Slots (σ : Type) where
  empty : σ
  /-- How the value of a key is put into its slot, if the key names a field. -/
  put : σ → String → Option (Reading → Result σ)
  /-- The fields from an array, with the fault of elements beyond the last. -/
  fromItems : Fault → Items → Result σ

namespace Slots

def nil : Slots Unit where
  empty := ()
  put _ _ := none
  fromItems surplus
    | .close => .ok ()
    | .broken => .error .malformed
    | .item _ _ => .error surplus

/-- One more field in front. `mayLack` says that an array may end before it. -/
def field (name : String) (mayLack : Bool) (decode : Reading → Result α) (rest : Slots σ) :
    Slots (Option α × σ) where
  empty := (none, rest.empty)
  put s key :=
    if key = name then
      some fun value =>
        if s.1.isSome then .error (.duplicateField name)
        else do return (some (← decode value), s.2)
    else (rest.put s.2 key).map fun put value => do return (s.1, ← put value)
  fromItems surplus
    | .item value items => do
      let a ← decode value
      return (some a, ← rest.fromItems surplus items)
    | .broken => .error .malformed
    | .close =>
      if mayLack then do return (none, ← rest.fromItems surplus .close)
      else .error .invalidLength

def required (name : String) (decode : Reading → Result α) (rest : Slots σ) :
    Slots (Option α × σ) :=
  rest.field name false decode

def optional (name : String) (decode : Reading → Result α) (rest : Slots σ) :
    Slots (Option α × σ) :=
  rest.field name true decode

/-- Members go into their slots in order, and unknown ones are passed over. -/
def fill (slots : Slots σ) (s : σ) : Members → Result σ
  | .close => .ok s
  | .broken | .member none _ _ => .error .malformed
  | .member (some key) value rest => do
    match slots.put s key with
    | some put => slots.fill (← put value) rest
    | none =>
      value.skip
      slots.fill s rest

end Slots

def demand (name : String) : Option α → Result α
  | some a => .ok a
  | none => .error (.missingField name)

def Reading.asStructure (mode : Mode) (slots : Mode → Slots σ) (build : σ → Result α) :
    Reading → Result α
  | .object members => do
    let slots := slots (← mode.enter)
    build (← slots.fill slots.empty members)
  | .array items => do
    let inner ← mode.enter
    build (← (slots inner).fromItems inner.surplus items)
  | r => .error r.mismatch

def Reading.asVariant (names : List String) (r : Reading) : Result String := do
  let name ← r.asText
  if names.contains name then return name else .error (.unknownVariant name names)

/-- A constant of a closed set from a buffer: its name, or an object with that as the only key of
nothing. -/
def Reading.asChoice (names : List String) : Reading → Result String
  | .text s => (Reading.text s).asVariant names
  | .object .close => .error .invalidValue
  | .object (.member key value .close) => do
    let name ← (Reading.text key).asVariant names
    match value with
    | .null | .object .close => return name
    | value => .error value.mismatch
  | .object _ => .error .invalidValue
  | r => .error r.mismatch

/-- The members but the tag go into the buffer; the tag is decoded where it stands. -/
def Members.untag (mode : Mode) (tag : String) (names : List String) (found : Option String) :
    Members → Result (String × Members)
  | .close => do return (← demand tag found, .close)
  | .broken | .member none _ _ => .error .malformed
  | .member (some key) value rest =>
    if key = tag then
      if found.isSome then .error (.duplicateField tag)
      else do rest.untag mode tag names (some (← value.asVariant names))
    else do
      value.buffer mode
      let (variant, members) ← rest.untag mode tag names found
      return (variant, .member key value members)

/-- A tagged value: the name of its variant, and its content for decoding from the buffer. In an
array the tag comes first. -/
def Reading.asTagged (mode : Mode) (tag : String) (names : List String) :
    Reading → Result (String × Reading)
  | .object members => do
    let (variant, members) ← members.untag (← mode.enter) tag names none
    return (variant, .object members)
  | .array items => do
    let mode ← mode.enter
    match items with
    | .close => .error (.missingField tag)
    | .broken => .error .malformed
    | .item value rest =>
      let variant ← value.asVariant names
      let _ ← rest.decode (Reading.buffer mode)
      return (variant, .array rest)
  | r => .error r.mismatch

/-- Decodes a whole text; what stands after the value is looked at last. -/
def decodeText (decode : Mode → Reading → Result α) (text : String) : Result α := do
  let document := read text
  let a ← decode .start document.root
  if document.isEnded then return a else .error .malformed

end GameRegistration.Json
