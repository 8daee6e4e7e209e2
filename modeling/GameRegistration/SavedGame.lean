import GameRegistration.Plan
import GameRegistration.Text.LowerCase

/-! Rich saved games: four registry values give the files of an extension a preview, and their
properties to the shell. -/
namespace GameRegistration

/-- What tells registry values apart. Letter case in key and name does not, and no name is like an
empty one. -/
def registryParts (component : String) (root : RegistryRoot) (key : String) (name : Option String) :
    List String :=
  [component, toString root.number, Text.lowerText key, (name.map Text.lowerText).getD ""]

def registryValue (source : SourcePosition) (root : RegistryRoot) (key : String)
    (name : Option String) (value component : String) : RegistryRecord where
  source := source
  id := Identifier.hashed "reg" (registryParts component root key name)
  root := root
  key := key
  name := name
  value := some value
  componentRef := component

/-- The file class, the component and the extension, without its dot, of a rich saved game. -/
structure SavedGame where
  progId : String
  componentId : String
  extensionId : String
deriving DecidableEq, Repr

namespace SavedGame

def previewHandler : String := "\x7b4E5BFBF8-F59A-4E87-9805-1F9B42CC254A\x7d"
def propertyHandler : String := "\x7bECDD6472-2B9B-4B4B-AE36-F316DF3C8D60\x7d"
def thumbnailSlot : String := "\x7bBB2E617C-0920-11D1-9A0B-00C04FC2D6C1\x7d"

def previewTitle : String := "prop:System.Game.RichSaveName;System.Game.RichApplicationName"

def previewDetails : String :=
  "prop:System.Game.RichLevel;System.DateChanged;System.Game.RichComment;" ++
  "System.DisplayName;System.DisplayType"

def thumbnailKey (g : SavedGame) : String := "." ++ g.extensionId ++ "\\" ++ thumbnailSlot

def propertyKey (g : SavedGame) : String :=
  "Software\\Microsoft\\Windows\\CurrentVersion\\PropertySystem\\PropertyHandlers\\." ++
    g.extensionId

def values (g : SavedGame) (source : SourcePosition) : List RegistryRecord :=
  [registryValue source .classesRoot g.progId (some "PreviewTitle") previewTitle g.componentId,
   registryValue source .classesRoot g.progId (some "PreviewDetails") previewDetails g.componentId,
   registryValue source .classesRoot g.thumbnailKey none previewHandler g.componentId,
   registryValue source .localMachine g.propertyKey none propertyHandler g.componentId]

def register (g : SavedGame) (source : SourcePosition) : List Action :=
  (g.values source).map fun value => .emit (.registry value)

@[simp] theorem length_values (g : SavedGame) (source : SourcePosition) :
    (g.values source).length = 4 := rfl

end SavedGame

end GameRegistration
