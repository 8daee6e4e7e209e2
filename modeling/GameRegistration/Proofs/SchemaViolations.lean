import GameRegistration.Proofs.Elevation
import GameRegistration.Proofs.SectionText
import GameRegistration.Proofs.TranslationViews
import GameRegistration.Proofs.WellFormedRecords

/-! Rows that their table does not take. What the check of committed rows finds is a file that is
too long, and with warnings elevated only one that the job was handed. -/
namespace GameRegistration

/-- The identifiers of a row are looked at from left to right. -/
theorem GameRecord.violation?_row (g : GameRecord) :
    gameTable.violation? g.row =
      if 38 < g.instanceId.length then
        some (.valueTooLong "WixGameExplorer" "InstanceId" 38 g.instanceId.length)
      else if 72 < g.fileRef.length then
        some (.valueTooLong "WixGameExplorer" "File_" 72 g.fileRef.length)
      else none := by
  by_cases hid : 38 < g.instanceId.length
  · simp [Table.violation?, gameTable, row, Column.violation?, hid]
  · by_cases hfile : 72 < g.fileRef.length <;>
      simp [Table.violation?, gameTable, row, Column.violation?, hid, hfile]

namespace GameRecord

def isFileTooLong (g : GameRecord) : Bool := 72 < g.fileRef.length

def fileTooLong (g : GameRecord) : SchemaViolation :=
  .valueTooLong "WixGameExplorer" "File_" 72 g.fileRef.length

end GameRecord

/-- Where every GUID fits, the first file that is too long is reported. -/
theorem Section.violation?_eq {s : Section} (h : ∀ g ∈ s.games, g.instanceId.length = 38) :
    s.violation? = (s.games.find? GameRecord.isFileTooLong).map GameRecord.fileTooLong := by
  rw [violation?]
  generalize s.games = games at h
  induction games with
  | nil => rfl
  | cons g rest ih =>
    obtain ⟨hid, hrest⟩ := List.forall_mem_cons.1 h
    rw [List.findSome?_cons, g.violation?_row, if_neg (by omega), List.find?_cons, ih hrest]
    by_cases hlong : 72 < g.fileRef.length
    · simp [GameRecord.isFileTooLong, GameRecord.fileTooLong, hlong]
    · simp [GameRecord.isFileTooLong, hlong]

/-- With warnings elevated, an identifier that was looked at without an error is short enough. -/
theorem AttributeValue.length_le_of_clean {setup : Setup} {source : SourcePosition}
    {element : String} {attr : Attribute} (helevated : setup.warnings.treatment = .elevate)
    (h : (performAll setup (identifier source element attr).actions).failed = false) :
    attr.value.length ≤ 72 := by
  by_contra hlong
  have hlegal := isLegal_of_clean h
  have hnonempty : attr.value ≠ "" := by
    intro hempty
    rw [hempty] at hlong
    exact hlong (by decide)
  have hactions : (identifier source element attr).actions =
      [.warning source (.identifierTooLong element attr.localName attr.value)] := by
    rw [identifier, if_neg hnonempty, hlegal]
    exact if_pos (Nat.lt_of_not_le hlong)
  rw [hactions] at h
  change (Journal.warning setup.warnings _ _ ++ {}).failed = false at h
  rw [Journal.append_empty, Journal.warning, Journal.settle, helevated] at h
  cases h

namespace Request
variable {setup : Setup} {r : Request}

theorem exists_job_of_game (h : r.IsCommitted setup) {g : GameRecord}
    (hg : .game g ∈ (r.run setup).records) :
    ∃ job ∈ r.jobs, .game g ∈ (Plan.perform setup false job.plan).records ∧
      ∃ file game, ∃ guid : Guid, job.game? = some (file, game) ∧
        g = { source := game.source, instanceId := guid.text
              fileRef := Game.definitionFile game file } := by
  rw [records_of_isCommitted h] at hg
  obtain ⟨job, hjob, hg⟩ := List.mem_flatMap.1 hg
  refine ⟨job, hjob, hg, ?_⟩
  have hclean := clean_of_isCommitted h hjob
  cases hgame : job.game? with
  | none =>
    obtain ⟨values, hvalues⟩ := Job.records_of_game?_eq_none hgame hclean
    simp [hvalues] at hg
  | some pair =>
    obtain ⟨file, game⟩ := pair
    obtain ⟨guid, -, hrecords⟩ := Job.guid_of_game? hgame hclean
    have hview : g ∈ (Translation.game setup.foreign file guid.text game).filterMap Record.game? := by
      rw [← hrecords]
      exact List.mem_filterMap.2 ⟨_, hg, rfl⟩
    rw [Translation.games_game, List.mem_singleton, ← Game.definitionFile_eq] at hview
    exact ⟨file, game, guid, rfl, hview⟩

theorem mem_games_iff {commit : Commit} (h : r.outcome setup = .ok commit) {g : GameRecord} :
    g ∈ commit.content.games ↔ .game g ∈ (r.run setup).records := by
  rw [(Compilation.finish_eq_ok_iff.1 h).2, Section.games, List.mem_filterMap]
  constructor
  · rintro ⟨record, hrecord, hgame⟩
    cases record with
    | game g' =>
      cases hgame
      exact hrecord
    | _ => cases hgame
  · exact fun hg => ⟨_, hg, rfl⟩

theorem violation?_of_outcome {commit : Commit} (h : r.outcome setup = .ok commit) :
    commit.content.violation? =
      (commit.content.games.find? GameRecord.isFileTooLong).map GameRecord.fileTooLong := by
  refine Section.violation?_eq fun g hg => ?_
  obtain ⟨_, -, -, _, _, guid, -, rfl⟩ := exists_job_of_game ⟨commit, h⟩ ((mem_games_iff h).1 hg)
  exact guid.isBraced_text.length_eq

end Request

/-- With warnings elevated, a file that is too long was not named by the game. -/
theorem Job.fileRef_of_elevated {setup : Setup} {job : Job} {file : FileContext} {game : Element}
    (helevated : setup.warnings.treatment = .elevate) (hgame : job.game? = some (file, game))
    (hclean : (Plan.perform setup false job.plan).failed = false)
    (hlong : 72 < (Game.definitionFile game file).length) :
    job.context.get? Context.fileId = some (Game.definitionFile game file) := by
  rw [plan_of_game? hgame] at hclean
  rw [Plan.perform_of_clean setup hclean] at hclean
  obtain hown | ⟨a, hvalue, hread⟩ :=
    Game.definitionFile_cases file (Game.clean_attributes_of_clean hclean)
  · rw [hown]
    exact (context_of_game? hgame).2.1
  · have hshort := AttributeValue.length_le_of_clean helevated hread
    rw [hvalue] at hlong
    omega

namespace Request
variable {setup : Setup} {r : Request}

theorem fileRef_of_elevated (helevated : setup.warnings.treatment = .elevate)
    (h : r.IsCommitted setup) {g : GameRecord} (hg : .game g ∈ (r.run setup).records)
    (hlong : 72 < g.fileRef.length) :
    ∃ job ∈ r.jobs, .game g ∈ ((r.alone job).run setup).records ∧
      job.context.get? Context.fileId = some g.fileRef := by
  obtain ⟨job, hjob, hmade, file, game, guid, hgame, rfl⟩ := exists_job_of_game h hg
  refine ⟨job, hjob, ?_, ?_⟩
  · rw [records_alone]
    exact hmade
  · exact Job.fileRef_of_elevated helevated hgame (clean_of_isCommitted h hjob) hlong

end Request

namespace CommandLine
variable (warnings : WarningPolicy) (pretty : Bool) (file : Option ByteArray)

/-- The file holds a request that is committed. -/
def Holds (request : Request) (commit : Commit) : Prop :=
  ∃ text, file.bind String.fromUTF8? = some text ∧ Request.ofText text = .ok request ∧
    request.outcome { warnings } = .ok commit

theorem compile_eq_violation_iff (violation : SchemaViolation) :
    (compile warnings pretty file).2 = .error (.schema violation) ↔
      ∃ request commit, Holds warnings file request commit ∧
        commit.content.violation? = some violation := by
  constructor
  · intro h
    cases htext : file.bind String.fromUTF8? with
    | none =>
      rw [compile_of_unreadable warnings pretty htext] at h
      cases h
    | some text =>
      rw [compile_of_text warnings pretty htext] at h
      unfold compileText at h
      split at h
      next => cases h
      next request hrequest =>
      dsimp only at h
      split at h
      next => cases h
      next commit hcommit =>
      split at h
      next violation' hviolation =>
        cases h
        exact ⟨request, commit, ⟨text, htext, hrequest, hcommit⟩, hviolation⟩
      next => cases h
  · rintro ⟨request, commit, ⟨text, htext, hrequest, hcommit⟩, hviolation⟩
    rw [Request.outcome] at hcommit
    rw [compile_of_text warnings pretty htext, compileText, hrequest]
    simp only [hcommit, hviolation]

/-- A row is refused exactly if a request is committed with a file that is longer than its column is
wide; the first such row of the section is the one reported. With warnings elevated that file is the
one which the context of its job names. -/
theorem compile_eq_schema_iff :
    ((∃ violation, (compile warnings pretty file).2 = .error (.schema violation)) ↔
      ∃ request commit, Holds warnings file request commit ∧
        ∃ g ∈ commit.content.games, 72 < g.fileRef.length) ∧
    (∀ violation, (compile warnings pretty file).2 = .error (.schema violation) ↔
      ∃ request commit g, Holds warnings file request commit ∧
        commit.content.games.find? (fun g => 72 < g.fileRef.length) = some g ∧
        violation = .valueTooLong "WixGameExplorer" "File_" 72 g.fileRef.length) ∧
    (warnings.warningsAsErrors = true → ∀ request commit, Holds warnings file request commit →
      ∀ g ∈ commit.content.games, 72 < g.fileRef.length →
        ∃ job ∈ request.jobs, .game g ∈ ((request.alone job).run { warnings }).records ∧
          job.context.get? Context.fileId = some g.fileRef) := by
  have hfirst (violation : SchemaViolation) :
      (compile warnings pretty file).2 = .error (.schema violation) ↔
        ∃ request commit g, Holds warnings file request commit ∧
          commit.content.games.find? (fun g => 72 < g.fileRef.length) = some g ∧
          violation = .valueTooLong "WixGameExplorer" "File_" 72 g.fileRef.length := by
    rw [compile_eq_violation_iff]
    constructor
    · rintro ⟨request, commit, hholds, hviolation⟩
      obtain ⟨_, -, -, hcommit⟩ := id hholds
      rw [Request.violation?_of_outcome hcommit, Option.map_eq_some_iff] at hviolation
      obtain ⟨g, hg, rfl⟩ := hviolation
      exact ⟨request, commit, g, hholds, hg, rfl⟩
    · rintro ⟨request, commit, g, hholds, hg, rfl⟩
      obtain ⟨_, -, -, hcommit⟩ := id hholds
      refine ⟨request, commit, hholds, ?_⟩
      rw [Request.violation?_of_outcome hcommit]
      exact Option.map_eq_some_iff.2 ⟨g, hg, rfl⟩
  refine ⟨?_, hfirst, ?_⟩
  · simp only [hfirst]
    constructor
    · rintro ⟨_, request, commit, g, hholds, hg, -⟩
      exact ⟨request, commit, hholds, g, List.mem_of_find?_eq_some hg, by
        simpa using List.find?_some hg⟩
    · rintro ⟨request, commit, hholds, g, hg, hlong⟩
      obtain ⟨first, hfound⟩ : ∃ first,
          commit.content.games.find? (fun g => 72 < g.fileRef.length) = some first := by
        rw [← Option.isSome_iff_exists, List.find?_isSome]
        exact ⟨g, hg, by simpa using hlong⟩
      exact ⟨_, request, commit, first, hholds, hfound, rfl⟩
  · rintro helevated request commit ⟨_, -, -, hcommit⟩ g hg hlong
    have htreatment : ({ warnings } : Setup).warnings.treatment = .elevate := by
      simp [WarningPolicy.treatment, helevated]
    exact Request.fileRef_of_elevated htreatment ⟨commit, hcommit⟩
      ((Request.mem_games_iff hcommit).1 hg) hlong

end CommandLine

end GameRegistration
