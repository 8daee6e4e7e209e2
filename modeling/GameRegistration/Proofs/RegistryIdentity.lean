import Mathlib.Data.List.Nodup
import GameRegistration.SavedGame
import GameRegistration.Proofs.Identifiers
import GameRegistration.Proofs.LowerCase

/-! Identity of registry values: a digest of four parts with separators between them, which a key
may hold too. The parts are read off the joined text from both ends. -/
namespace GameRegistration

namespace Identifier

theorem append_last_separator_inj {separator : Char} {front front' back back' : List Char}
    (h : separator ∉ back) (h' : separator ∉ back') :
    front ++ separator :: back = front' ++ separator :: back' ↔ front = front' ∧ back = back' := by
  have hreverse (front back : List Char) :
      (front ++ separator :: back).reverse = back.reverse ++ separator :: front.reverse := by simp
  rw [← List.reverse_inj, hreverse, hreverse,
    Text.append_separator_inj (mt List.mem_reverse.1 h) (mt List.mem_reverse.1 h'), List.reverse_inj,
    List.reverse_inj]
  exact and_comm

theorem toList_joined (component root key name : String) :
    (joined [component, root, key, name]).toList =
      component.toList ++ '|' :: (root.toList ++ '|' :: (key.toList ++ '|' :: name.toList)) := by
  simp [joined]

/-- Only the key may hold separators. -/
theorem joined_inj {component component' root root' key key' name name' : String}
    (hcomponent : '|' ∉ component.toList) (hcomponent' : '|' ∉ component'.toList)
    (hroot : '|' ∉ root.toList) (hroot' : '|' ∉ root'.toList) (hname : '|' ∉ name.toList)
    (hname' : '|' ∉ name'.toList) :
    joined [component, root, key, name] = joined [component', root', key', name'] ↔
      component = component' ∧ root = root' ∧ key = key' ∧ name = name' := by
  rw [← String.toList_inj, toList_joined, toList_joined,
    Text.append_separator_inj hcomponent hcomponent', Text.append_separator_inj hroot hroot',
    append_last_separator_inj hname hname']
  simp only [String.toList_inj]

/-- Behind one component, which may hold separators, so may the keys. -/
theorem root_and_name_of_joined {component root root' key key' name name' : String}
    (hroot : '|' ∉ root.toList) (hroot' : '|' ∉ root'.toList) (hname : '|' ∉ name.toList)
    (hname' : '|' ∉ name'.toList)
    (h : joined [component, root, key, name] = joined [component, root', key', name']) :
    root = root' ∧ name = name' := by
  rw [← String.toList_inj, toList_joined, toList_joined, List.append_cancel_left_eq,
    List.cons.injEq, Text.append_separator_inj hroot hroot', append_last_separator_inj hname hname'] at h
  exact ⟨String.toList_inj.1 h.2.1, String.toList_inj.1 h.2.2.2⟩

/-- No two of the texts have one digest. -/
def AreToldApart (texts : List String) : Prop :=
  ∀ text ∈ texts, ∀ text' ∈ texts,
    Digest.sha1 text.toUTF8.toList = Digest.sha1 text'.toUTF8.toList → text = text'

theorem areToldApart_of_heads {texts : List String} (heads : List (Option UInt8))
    (hheads : texts.map (fun text => (Digest.sha1 text.toUTF8.toList).head?) = heads)
    (h : heads.Nodup) : AreToldApart texts := by
  intro text ht text' ht' heq
  rw [← hheads] at h
  exact List.inj_on_of_nodup_map h ht ht' (congrArg List.head? heq)

end Identifier

theorem RegistryRoot.toString_number_inj {root root' : RegistryRoot} :
    toString root.number = toString root'.number ↔ root = root' := by
  cases root <;> cases root' <;> decide

theorem RegistryRoot.separator_notMem (root : RegistryRoot) :
    '|' ∉ (toString root.number).toList := by
  cases root <;> decide

theorem Text.separator_notMem_lowerText {text : String} (h : '|' ∉ text.toList) :
    '|' ∉ (lowerText text).toList := by
  rw [toList_lowerText]
  exact notMem_lower (by decide) (by decide) h

namespace RegistryRecord

/-- An absent name counts as empty, and letter case does not count. -/
def lowerName (r : RegistryRecord) : String := Text.lowerText (r.name.getD "")

def hashedText (r : RegistryRecord) : String :=
  Identifier.joined (registryParts r.componentRef r.root r.key r.name)

theorem hashedText_eq (r : RegistryRecord) :
    r.hashedText = Identifier.joined
      [r.componentRef, toString r.root.number, Text.lowerText r.key, r.lowerName] := by
  have hname : (r.name.map Text.lowerText).getD "" = r.lowerName := by
    unfold lowerName
    cases r.name <;> rfl
  rw [hashedText, registryParts, hname]

/-- The identifier is the digest of the text. -/
def IsIdentified (r : RegistryRecord) : Prop :=
  r.id = Identifier.hashed "reg" (registryParts r.componentRef r.root r.key r.name)

theorem id_of_isIdentified {r : RegistryRecord} (h : r.IsIdentified) :
    r.id = Identifier.hashed "reg" [r.hashedText] := by
  have hjoined : Identifier.joined [r.hashedText] = r.hashedText := by simp [Identifier.joined]
  rw [h, Identifier.hashed_eq_hashed_iff, hjoined]
  rfl

theorem id_eq_iff {r r' : RegistryRecord} {texts : List String} (hid : r.IsIdentified)
    (hid' : r'.IsIdentified) (h : Identifier.AreToldApart texts) (hr : r.hashedText ∈ texts)
    (hr' : r'.hashedText ∈ texts) : r.id = r'.id ↔ r.hashedText = r'.hashedText := by
  rw [hid, hid', Identifier.hashed_eq_hashed_iff]
  exact ⟨h _ hr _ hr', fun heq => congrArg (fun t : String => Digest.sha1 t.toUTF8.toList) heq⟩

end RegistryRecord

namespace SavedGame
variable (g : SavedGame) (source : SourcePosition)

theorem isIdentified_values : ∀ r ∈ g.values source, r.IsIdentified := by
  simp [values, registryValue, RegistryRecord.IsIdentified]

theorem lowerText_names : Text.lowerText "PreviewTitle" = "previewtitle" ∧
    Text.lowerText "PreviewDetails" = "previewdetails" ∧ Text.lowerText "" = "" := by decide

/-- Root and name of each value, the name as it is hashed. -/
def marks : List (RegistryRoot × String) :=
  [(.classesRoot, "previewtitle"), (.classesRoot, "previewdetails"), (.classesRoot, ""),
    (.localMachine, "")]

theorem map_values_eq_marks : (g.values source).map (fun r => (r.root, r.lowerName)) = marks := by
  obtain ⟨htitle, hdetails, hempty⟩ := lowerText_names
  simp only [values, registryValue, RegistryRecord.lowerName, List.map_cons, List.map_nil,
    Option.getD_some, Option.getD_none, htitle, hdetails, hempty, marks]

theorem nodup_map_values : ((g.values source).map fun r => (r.root, r.lowerName)).Nodup := by
  rw [map_values_eq_marks]
  decide

theorem separator_notMem_lowerName {r : RegistryRecord} (h : r ∈ g.values source) :
    '|' ∉ r.lowerName.toList := by
  have hall : ∀ mark ∈ marks, '|' ∉ mark.2.toList := by
    simp only [marks, List.forall_mem_cons]
    decide
  have hmem : (r.root, r.lowerName) ∈ marks :=
    g.map_values_eq_marks source ▸ List.mem_map_of_mem h
  exact hall (r.root, r.lowerName) hmem

theorem componentRef_values : ∀ r ∈ g.values source, r.componentRef = g.componentId := by
  simp [values, registryValue]

/-- The four values have one component, and no two of them have root and name in common. -/
theorem hashedText_inj {r r' : RegistryRecord} (hr : r ∈ g.values source)
    (hr' : r' ∈ g.values source) (h : r.hashedText = r'.hashedText) : r = r' := by
  rw [r.hashedText_eq, r'.hashedText_eq, g.componentRef_values source r hr,
    g.componentRef_values source r' hr'] at h
  obtain ⟨hroots, hnames⟩ := Identifier.root_and_name_of_joined r.root.separator_notMem
    r'.root.separator_notMem (g.separator_notMem_lowerName source hr)
    (g.separator_notMem_lowerName source hr') h
  exact List.inj_on_of_nodup_map (g.nodup_map_values source) hr hr'
    (Prod.ext (RegistryRoot.toString_number_inj.1 hroots) hnames)

theorem nodup_values : (g.values source).Nodup := (g.nodup_map_values source).of_map

/-- Component, root, key and name of the four values, key and name with small letters. -/
def hashedTexts : List String :=
  [Identifier.joined [g.componentId, "0", Text.lowerText g.progId, "previewtitle"],
   Identifier.joined [g.componentId, "0", Text.lowerText g.progId, "previewdetails"],
   Identifier.joined [g.componentId, "0", Text.lowerText g.thumbnailKey, ""],
   Identifier.joined [g.componentId, "2", Text.lowerText g.propertyKey, ""]]

theorem map_hashedText_values : (g.values source).map RegistryRecord.hashedText = g.hashedTexts := by
  obtain ⟨htitle, hdetails, -⟩ := lowerText_names
  have hroots : toString RegistryRoot.classesRoot.number = "0" ∧
      toString RegistryRoot.localMachine.number = "2" := by decide
  simp only [values, registryValue, RegistryRecord.hashedText, registryParts, List.map_cons, List.map_nil,
    Option.map_some, Option.map_none, Option.getD_some, Option.getD_none, htitle, hdetails, hroots,
    hashedTexts]

theorem map_id_values :
    (g.values source).map (·.id) = g.hashedTexts.map fun text => Identifier.hashed "reg" [text] := by
  rw [← g.map_hashedText_values source, List.map_map]
  exact List.map_congr_left fun r hr => RegistryRecord.id_of_isIdentified (g.isIdentified_values source r hr)

theorem nodup_hashedTexts : g.hashedTexts.Nodup := by
  rw [← g.map_hashedText_values {}]
  exact (g.nodup_values {}).map_on fun r hr r' hr' => g.hashedText_inj {} hr hr'

theorem nodup_ids (h : Identifier.AreToldApart g.hashedTexts) : ((g.values source).map (·.id)).Nodup := by
  rw [← g.map_hashedText_values source] at h
  refine (g.nodup_values source).map_on fun r hr r' hr' heq => g.hashedText_inj source hr hr' ?_
  exact (RegistryRecord.id_eq_iff (g.isIdentified_values source r hr)
    (g.isIdentified_values source r' hr') h (List.mem_map_of_mem hr) (List.mem_map_of_mem hr')).1 heq

end SavedGame

/-- Two calls give one identifier exactly if they agree in component, root, key and name, letter case
apart. A saved game registers four values, each under the digest of its text; and no two of these texts
agree, whatever the game's own identifiers hold. -/
theorem registryValue_id_eq_iff :
    (∀ (source source' : SourcePosition) (root root' : RegistryRoot) (key key' : String)
        (name name' : Option String) (value value' component component' : String),
      let r := registryValue source root key name value component
      let r' := registryValue source' root' key' name' value' component'
      '|' ∉ component.toList → '|' ∉ component'.toList →
      (∀ text, name = some text → '|' ∉ text.toList) →
      (∀ text, name' = some text → '|' ∉ text.toList) →
      Identifier.AreToldApart [r.hashedText, r'.hashedText] →
      (r.id = r'.id ↔ component = component' ∧ root = root' ∧
        Text.lowerText key = Text.lowerText key' ∧
        Text.lowerText (name.getD "") = Text.lowerText (name'.getD ""))) ∧
    ∀ (g : SavedGame) (source : SourcePosition) (setup : Setup),
      (performAll setup (g.register source)).records = (g.values source).map Record.registry ∧
      (g.values source).length = 4 ∧
      (g.values source).map (fun r => (r.root, r.key, r.name)) =
        [(.classesRoot, g.progId, some "PreviewTitle"),
         (.classesRoot, g.progId, some "PreviewDetails"),
         (.classesRoot, g.thumbnailKey, none),
         (.localMachine, g.propertyKey, none)] ∧
      (∀ r ∈ g.values source, r.componentRef = g.componentId) ∧
      (g.values source).map RegistryRecord.hashedText = g.hashedTexts ∧
      (g.values source).map (·.id) = g.hashedTexts.map (fun text => Identifier.hashed "reg" [text]) ∧
      g.hashedTexts.Nodup ∧
      (Identifier.AreToldApart g.hashedTexts → ((g.values source).map (·.id)).Nodup) := by
  constructor
  · intro source source' root root' key key' name name' value value' component component' r r'
      hcomponent hcomponent' hname hname' h
    have hlower {name : Option String} (h : ∀ text, name = some text → '|' ∉ text.toList) :
        '|' ∉ (Text.lowerText (name.getD "")).toList := by
      cases name with
      | none => exact Text.separator_notMem_lowerText List.not_mem_nil
      | some text => exact Text.separator_notMem_lowerText (h text rfl)
    have hid : r.IsIdentified := rfl
    have hid' : r'.IsIdentified := rfl
    rw [RegistryRecord.id_eq_iff hid hid' h List.mem_cons_self
        (List.mem_cons_of_mem _ List.mem_cons_self), r.hashedText_eq, r'.hashedText_eq]
    refine (Identifier.joined_inj hcomponent hcomponent' root.separator_notMem
      root'.separator_notMem (hlower hname) (hlower hname')).trans ?_
    rw [RegistryRoot.toString_number_inj]
    exact Iff.rfl
  · intro g source setup
    exact ⟨rfl, g.length_values source, rfl, g.componentRef_values source,
      g.map_hashedText_values source, g.map_id_values source, g.nodup_hashedTexts, g.nodup_ids source⟩

namespace Sample

/-- Its identifiers hold the separator, and the component looks as if a root followed. -/
def pipedGame : SavedGame where
  progId := "My|Game"
  componentId := "C|0"
  extensionId := "s|v"

end Sample

/-- The key of two previews holds the separator, and so do all the parts of a saved game. -/
theorem registryValue_id_of_separators :
    (let title := registryValue {} .classesRoot "My|Game" (some "PreviewTitle") "" "GameComp"
     let details := registryValue {} .classesRoot "My|Game" (some "PreviewDetails") "" "GameComp"
     Identifier.AreToldApart [title.hashedText, details.hashedText] ∧ title.id ≠ details.id) ∧
    Identifier.AreToldApart Sample.pipedGame.hashedTexts ∧
      ((Sample.pipedGame.values {}).map (·.id)).length = 4 ∧
      ((Sample.pipedGame.values {}).map (·.id)).Nodup := by
  constructor
  · intro title details
    have happart : Identifier.AreToldApart [title.hashedText, details.hashedText] :=
      Identifier.areToldApart_of_heads [some 105, some 87] (by decide +kernel) (by decide)
    refine ⟨happart, fun heq => ?_⟩
    have hnames := ((registryValue_id_eq_iff.1 {} {} .classesRoot .classesRoot "My|Game" "My|Game"
      (some "PreviewTitle") (some "PreviewDetails") "" "" "GameComp" "GameComp" (by decide) (by decide)
      (by rintro _ ⟨⟩; decide) (by rintro _ ⟨⟩; decide) happart).1 heq).2.2.2
    exact absurd hnames (by decide)
  · have happart : Identifier.AreToldApart Sample.pipedGame.hashedTexts :=
      Identifier.areToldApart_of_heads [some 211, some 73, some 139, some 37] (by decide +kernel)
        (by decide)
    obtain ⟨-, hlength, -, -, -, -, -, hnodup⟩ := registryValue_id_eq_iff.2 Sample.pipedGame {} {}
    exact ⟨happart, (List.length_map _).trans hlength, hnodup happart⟩

end GameRegistration
