/-! The authored document: a tree of elements with qualified names, in document order. An empty
namespace counts as none. -/
namespace GameRegistration

def gamingSpace : String := "http://wixtoolset.org/schemas/v4/wxs/gaming"

structure QualifiedName where
  /-- The namespace as authored; see `space`. -/
  rawSpace : Option String := none
  localName : String
deriving DecidableEq, Repr, Inhabited

namespace QualifiedName

def space (n : QualifiedName) : Option String := n.rawSpace.filter (· != "")

def isIn (n : QualifiedName) (space : String) : Bool := n.space == some space

def text (n : QualifiedName) : String :=
  match n.space with
  | some space => "\x7b" ++ space ++ "\x7d" ++ n.localName
  | none => n.localName

end QualifiedName

structure SourcePosition where
  file : String := ""
  line : Option UInt32 := none
deriving DecidableEq, Repr, Inhabited

def SourcePosition.text (p : SourcePosition) : String :=
  match p.line with
  | some line => p.file ++ "(" ++ toString line ++ ")"
  | none => p.file

structure Attribute where
  name : QualifiedName
  value : String
deriving DecidableEq, Repr, Inhabited

namespace Attribute

def localName (a : Attribute) : String := a.name.localName

/-- An attribute without a namespace belongs to its element's own. -/
def isOwn (a : Attribute) : Bool := a.name.space.isNone || a.name.isIn gamingSpace

end Attribute

structure Element where
  name : QualifiedName
  source : SourcePosition := {}
  attributes : List Attribute := []
  children : List Element := []
deriving Repr, Inhabited

namespace Element

def localName (e : Element) : String := e.name.localName

def attribute? (e : Element) (localName : String) : Option Attribute :=
  e.attributes.find? fun a => a.name.space.isNone && a.localName == localName

end Element

end GameRegistration
