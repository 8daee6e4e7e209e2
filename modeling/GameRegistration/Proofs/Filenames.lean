import GameRegistration.Proofs.GameRecords
import GameRegistration.Proofs.ShortNames

/-! The name column of shortcuts. Two names stand in it with a separator between them, which a long
name may hold too; but no short one does, so that the first separator tells the two apart. -/
namespace GameRegistration

namespace ShortcutRecord

/-- The names in a text of the name column: what is in front of the first separator, if there is one,
and what is behind it. -/
def readFilename (text : String) : Option String × String :=
  match text.toList.dropWhile (· != '|') with
  | [] => (none, text)
  | _ :: long => (some (String.ofList (text.toList.takeWhile (· != '|'))), String.ofList long)

theorem readFilename_of_no_separator {text : String} (h : '|' ∉ text.toList) :
    readFilename text = (none, text) := by
  have hnone : text.toList.dropWhile (· != '|') = [] :=
    List.dropWhile_eq_nil_iff.2 (Text.ne_of_notMem h)
  rw [readFilename, hnone]

theorem readFilename_append {short : String} (long : String) (h : '|' ∉ short.toList) :
    readFilename (short ++ "|" ++ long) = (some short, long) := by
  have hchars : (short ++ "|" ++ long).toList = short.toList ++ '|' :: long.toList := by simp
  rw [readFilename, hchars, Text.dropWhile_separator _ h, Text.takeWhile_separator _ h]
  simp

end ShortcutRecord

namespace TaskElement
variable {setup : Setup} {task : Element} {file : FileContext} {executable : String}
  {ordinal : UInt32} {s : ShortcutRecord}

theorem shortcut_of_mem_emission {a : Action} (h : a ∈ emission .play task file executable ordinal)
    (hs : .shortcut s ∈ (a.perform setup).records) :
    ∃ directory name, s = playShortcut task file executable directory name := by
  cases hname : nameOf .play task with
  | none =>
    unfold emission at h
    rw [hname] at h
    cases h
  | some name =>
    rw [emission_play file executable ordinal hname, List.mem_append, List.mem_singleton] at h
    obtain hdirectory | rfl := h
    · obtain ⟨_, _, rfl⟩ | rfl := Task.cases_of_mem_directory hdirectory
      · cases hs
      · cases List.mem_singleton.1 hs
    · cases List.mem_singleton.1 hs
      exact ⟨_, name, rfl⟩

theorem shortcut_of_mem_plan {failed : Bool}
    (h : .shortcut s ∈ (Plan.perform setup failed (plan .play task file executable ordinal)).records) :
    ∃ directory name, s = playShortcut task file executable directory name := by
  refine (plan .play task file executable ordinal).perform_of_actions
    (P := fun j => .shortcut s ∈ j.records → ∃ directory name,
      s = playShortcut task file executable directory name) nofun (fun ha hb hmem => ?_)
    (fun a ha hs => ?_) failed h
  · rw [Journal.records_append, List.mem_append] at hmem
    exact hmem.elim ha hb
  · rw [plan, Plan.actions_append, Plan.actions_ofActions, List.mem_append] at ha
    obtain hcheck | hemission := ha
    · have hischeck := isCheck_checks .play task a hcheck
      obtain rfl | ⟨node, -, hnode⟩ | ⟨link, rfl, -⟩ := Action.cases_of_mem_records hs
      · cases hischeck
      · cases hnode
      · cases hischeck
    · simp only [Plan.actions, List.flatMap_singleton, Step.actions, List.nil_append] at hemission
      exact shortcut_of_mem_emission hemission hs

end TaskElement

namespace ShortcutRecord

def IsOfPlayTask (s : ShortcutRecord) : Prop :=
  ∃ setup failed task file executable ordinal,
    .shortcut s ∈
      (Plan.perform setup failed (TaskElement.plan .play task file executable ordinal)).records

theorem IsOfPlayTask.shortName_eq {s : ShortcutRecord} (h : s.IsOfPlayTask) :
    ∃ directory, s.shortName = TaskElement.shortNameFor directory s.name := by
  obtain ⟨setup, failed, task, file, executable, ordinal, hmem⟩ := h
  obtain ⟨directory, name, rfl⟩ := TaskElement.shortcut_of_mem_plan hmem
  exact ⟨directory, rfl⟩

theorem IsOfPlayTask.shortName_cases {s : ShortcutRecord} (h : s.IsOfPlayTask) :
    s.shortName = none ∧ ShortName.isLegal s.name false = true ∨
      ∃ short, s.shortName = some short ∧ ShortName.isLegal s.name false = false ∧
        ShortName.isLegal short false = true := by
  obtain ⟨directory, hshort⟩ := h.shortName_eq
  rw [hshort, TaskElement.shortNameFor]
  cases hlegal : ShortName.isLegal s.name false with
  | true => exact .inl ⟨rfl, rfl⟩
  | false => exact .inr ⟨_, rfl, rfl, ShortName.isLegal_generate s.name true false _⟩

theorem IsOfPlayTask.readFilename_filename {s : ShortcutRecord} (h : s.IsOfPlayTask) :
    readFilename s.filename = (s.shortName, s.name) := by
  obtain ⟨hnone, hlegal⟩ | ⟨short, hsome, -, hlegal⟩ := h.shortName_cases
  · rw [filename, hnone]
    exact readFilename_of_no_separator (ShortName.separator_notMem_of_isLegal hlegal)
  · rw [filename, hsome]
    exact readFilename_append s.name (ShortName.separator_notMem_of_isLegal hlegal)

/-- The names of a shortcut that a play task makes can be read off its name column. There is a short one
exactly if the name is no legal short name. Without one the column holds the name and no separator, and
with one it holds both, with the first separator in between. So the column decides on both names. -/
theorem filename_decides_names (s s' : ShortcutRecord) (h : s.IsOfPlayTask) (h' : s'.IsOfPlayTask) :
    (s.shortName = none ↔ ShortName.isLegal s.name false = true) ∧
    (s.shortName = none → s.filename = s.name ∧ '|' ∉ s.filename.toList) ∧
    (∀ short, s.shortName = some short →
      ShortName.isLegal short false = true ∧ '|' ∉ short.toList ∧
        s.filename = short ++ "|" ++ s.name) ∧
    readFilename s.filename = (s.shortName, s.name) ∧
    (s.filename = s'.filename → s.shortName = s'.shortName ∧ s.name = s'.name) := by
  have hread := h.readFilename_filename
  refine ⟨?_, ?_, ?_, hread, fun heq => ?_⟩
  · obtain ⟨hnone, hlegal⟩ | ⟨short, hsome, hillegal, -⟩ := h.shortName_cases
    · simp [hnone, hlegal]
    · simp [hsome, hillegal]
  · intro hnone
    obtain ⟨-, hlegal⟩ | ⟨short, hsome, -⟩ := h.shortName_cases
    · have hname : s.filename = s.name := by rw [filename, hnone]
      rw [hname]
      exact ⟨rfl, ShortName.separator_notMem_of_isLegal hlegal⟩
    · rw [hnone] at hsome
      cases hsome
  · intro short hshort
    obtain ⟨hnone, -⟩ | ⟨short', hsome, -, hlegal⟩ := h.shortName_cases
    · rw [hnone] at hshort
      cases hshort
    · rw [hshort] at hsome
      cases hsome
      exact ⟨hlegal, ShortName.separator_notMem_of_isLegal hlegal, by rw [filename, hshort]⟩
  · rw [heq, h'.readFilename_filename] at hread
    exact Prod.mk.inj hread.symm

end ShortcutRecord

namespace Sample

def pipedTask : Element := element "PlayTask" [("Name", "Play|Safe")]

def pipedShortcut : ShortcutRecord :=
  TaskElement.playShortcut pipedTask fileContext "GameExe" "WixPlayTask0_GameComp" "Play|Safe"

def plainShortcut : ShortcutRecord :=
  TaskElement.playShortcut playTask fileContext "GameExe" "WixPlayTask1_GameComp" "Play"

theorem isOfPlayTask_pipedShortcut : pipedShortcut.IsOfPlayTask :=
  ⟨{}, false, pipedTask, fileContext, "GameExe", 0, .tail _ (.head _)⟩

theorem isOfPlayTask_plainShortcut : plainShortcut.IsOfPlayTask :=
  ⟨{}, false, playTask, fileContext, "GameExe", 1, .tail _ (.head _)⟩

end Sample

/-- Of two separators the first one counts, and a short name stands alone. -/
theorem ShortcutRecord.names_of_pipedShortcut :
    (∃ short, readFilename Sample.pipedShortcut.filename = (some short, "Play|Safe")) ∧
      readFilename Sample.plainShortcut.filename = (none, "Play") ∧
      Sample.pipedShortcut.filename ≠ Sample.plainShortcut.filename := by
  obtain ⟨hpiped, -, -, hreadPiped, hdecides⟩ := filename_decides_names _ _
    Sample.isOfPlayTask_pipedShortcut Sample.isOfPlayTask_plainShortcut
  obtain ⟨hplain, -, -, hreadPlain, -⟩ := filename_decides_names _ _
    Sample.isOfPlayTask_plainShortcut Sample.isOfPlayTask_pipedShortcut
  have hnone : Sample.plainShortcut.shortName = none := hplain.2 (by decide)
  have hsome : Sample.pipedShortcut.shortName ≠ none := fun h => absurd (hpiped.1 h) (by decide)
  obtain ⟨short, hshort⟩ := Option.ne_none_iff_exists'.1 hsome
  rw [hshort] at hreadPiped
  rw [hnone] at hreadPlain
  exact ⟨⟨short, hreadPiped⟩, hreadPlain, fun heq => absurd (hdecides heq).2 (by decide)⟩

end GameRegistration
