import GameRegistration.AttributeValue

/-! Values handed down from the authored element around the one being compiled. -/
namespace GameRegistration

structure Context where
  entries : List (String × String) := []
deriving DecidableEq, Repr

namespace Context

def fileId : String := "FileId"
def componentId : String := "ComponentId"
def directoryId : String := "DirectoryId"
def progId : String := "ProgId"
def extensionId : String := "ExtensionId"

def get? (c : Context) (key : String) : Option String := c.entries.lookup key

def insertInto (key value : String) : List (String × String) → List (String × String)
  | [] => [(key, value)]
  | (k, v) :: rest => if k = key then (key, value) :: rest else (k, v) :: insertInto key value rest

/-- A key keeps its place when its value is replaced. -/
def insert (c : Context) (key value : String) : Context := ⟨insertInto key value c.entries⟩

/-- The last value of a repeated key counts. -/
def ofList (entries : List (String × String)) : Context :=
  entries.foldl (fun c (key, value) => c.insert key value) {}

theorem lookup_insertInto (key value k : String) (entries : List (String × String)) :
    (insertInto key value entries).lookup k =
      if k = key then some value else entries.lookup k := by
  induction entries with
  | nil =>
    rw [insertInto, List.lookup_cons, List.lookup_nil]
    by_cases h : k = key
    · simp [h]
    · simp [beq_eq_false_iff_ne.2 h, h]
  | cons e rest ih =>
    obtain ⟨k', v'⟩ := e
    by_cases h' : k = k'
    · subst h'
      by_cases h : k = key <;> simp [insertInto, h]
    · have ne : (k == k') = false := beq_eq_false_iff_ne.2 h'
      by_cases h : k' = key
      · subst h
        simp [insertInto, List.lookup_cons, ne, h']
      · simp [insertInto, List.lookup_cons, h, ne, ih]

theorem get?_insert (c : Context) (key value k : String) :
    (c.insert key value).get? k = if k = key then some value else c.get? k :=
  lookup_insertInto key value k c.entries

def require (c : Context) (key element : String) (source : SourcePosition) :
    Resolved (Option String) where
  value := c.get? key
  actions := if (c.get? key).isNone then [.error source (.missingContext element key)] else []

end Context

/-- The file that a game is started by, its component, and the directory of that. -/
structure FileContext where
  fileId : String
  componentId : String
  directoryId : String
deriving DecidableEq, Repr

/-- Every missing value is reported. -/
def FileContext.resolve (c : Context) (element : String) (source : SourcePosition) :
    Resolved (Option FileContext) :=
  let file := c.require Context.fileId element source
  let component := c.require Context.componentId element source
  let directory := c.require Context.directoryId element source
  { value := do
      let fileId ← file.value
      let componentId ← component.value
      let directoryId ← directory.value
      return { fileId, componentId, directoryId }
    actions := file.actions ++ component.actions ++ directory.actions }

end GameRegistration
