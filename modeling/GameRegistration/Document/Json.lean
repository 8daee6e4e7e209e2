import GameRegistration.Document
import GameRegistration.Json.Value
import GameRegistration.Json.Decode

/-! Documents as JSON. Absent namespaces and line numbers are left out when written; fields with a
default may be left out when read. -/
namespace GameRegistration

open Json

namespace QualifiedName

def toJson (n : QualifiedName) : Json :=
  .object ((n.rawSpace.map fun space => ("namespace", Json.text space)).toList ++
    [("local_name", .text n.localName)])

def slots : Slots (Option (Option String) × Option String × Unit) :=
  .optional "namespace" Reading.asTextOption <| .required "local_name" Reading.asText .nil

def decode (mode : Mode) : Reading → Result QualifiedName :=
  Reading.asStructure mode (fun _ => slots) fun (space, localName, ()) => do
    return { rawSpace := space.join, localName := ← demand "local_name" localName }

end QualifiedName

namespace SourcePosition

def toJson (p : SourcePosition) : Json :=
  .object (("file_name", .text p.file) ::
    (p.line.map fun line => ("line_number", Json.number line.toNat)).toList)

def slots : Slots (Option String × Option (Option UInt32) × Unit) :=
  .required "file_name" Reading.asText <| .optional "line_number" Reading.asWordOption .nil

def decode (mode : Mode) : Reading → Result SourcePosition :=
  Reading.asStructure mode (fun _ => slots) fun (file, line, ()) => do
    return { file := ← demand "file_name" file, line := line.join }

end SourcePosition

namespace Attribute

def toJson (a : Attribute) : Json :=
  .object [("name", a.name.toJson), ("value", .text a.value)]

def slots (mode : Mode) : Slots (Option QualifiedName × Option String × Unit) :=
  .required "name" (QualifiedName.decode mode) <| .required "value" Reading.asText .nil

def decode (mode : Mode) : Reading → Result Attribute :=
  Reading.asStructure mode slots fun (name, value, ()) => do
    return { name := ← demand "name" name, value := ← demand "value" value }

end Attribute

namespace Element

mutual

def toJson : Element → Json
  | ⟨name, source, attributes, children⟩ =>
    .object [("name", name.toJson), ("source_line", source.toJson),
      ("attributes", .array (attributes.map Attribute.toJson)),
      ("children", .array (toJsonList children))]

def toJsonList : List Element → List Json
  | [] => []
  | e :: rest => e.toJson :: toJsonList rest

end

structure Parts where
  name : Option QualifiedName := none
  source : Option SourcePosition := none
  attributes : Option (List Attribute) := none
  children : Option (List Element) := none

namespace Parts

def build (p : Parts) : Result Element := do
  return { name := ← demand "name" p.name, source := p.source.getD {}
           attributes := p.attributes.getD [], children := p.children.getD [] }

def fresh (name : String) (part : Option α) : Result Unit :=
  if part.isSome then .error (.duplicateField name) else .ok ()

def put (mode : Mode) (p : Parts) (key : String) (value : Reading) : Result Parts := do
  if key = "name" then
    fresh "name" p.name
    return { p with name := some (← QualifiedName.decode mode value) }
  else if key = "source_line" then
    fresh "source_line" p.source
    return { p with source := some (← SourcePosition.decode mode value) }
  else if key = "attributes" then
    fresh "attributes" p.attributes
    return { p with attributes := some (← value.asList mode Attribute.decode) }
  else
    value.skip
    return p

end Parts

mutual

def decode (mode : Mode) : Reading → Result Element
  | .object members => do
    let inner ← mode.enter
    (← decodeMembers inner {} members).build
  | .array items => do
    let inner ← mode.enter
    decodeItems inner items
  | r => .error r.mismatch

def decodeMembers (mode : Mode) (p : Parts) : Members → Result Parts
  | .close => .ok p
  | .broken | .member none _ _ => .error .malformed
  | .member (some key) value rest =>
    if key = "children" then do
      Parts.fresh "children" p.children
      let children ← decodeChildren mode value
      decodeMembers mode { p with children := some children } rest
    else do
      let p ← p.put mode key value
      decodeMembers mode p rest

/-- The fields in order; all but the name may be missing at the end. -/
def decodeItems (mode : Mode) : Items → Result Element
  | .close => .error .invalidLength
  | .broken => .error .malformed
  | .item name rest => do
    let name ← QualifiedName.decode mode name
    match rest with
    | .close => return { name }
    | .broken => .error .malformed
    | .item source rest =>
      let source ← SourcePosition.decode mode source
      match rest with
      | .close => return { name, source }
      | .broken => .error .malformed
      | .item attributes rest =>
        let attributes ← attributes.asList mode Attribute.decode
        match rest with
        | .close => return { name, source, attributes }
        | .broken => .error .malformed
        | .item children rest =>
          let children ← decodeChildren mode children
          match rest with
          | .close => return { name, source, attributes, children }
          | .broken => .error .malformed
          | .item _ _ => .error mode.surplus

def decodeChildren (mode : Mode) : Reading → Result (List Element)
  | .array items => do
    let inner ← mode.enter
    decodeList inner items
  | r => .error r.mismatch

def decodeList (mode : Mode) : Items → Result (List Element)
  | .close => .ok []
  | .broken => .error .malformed
  | .item value rest => do
    let e ← decode mode value
    let es ← decodeList mode rest
    return e :: es

end

def ofText (text : String) : Result Element := decodeText decode text

end Element

end GameRegistration
