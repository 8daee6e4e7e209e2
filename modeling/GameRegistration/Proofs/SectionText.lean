import GameRegistration.CommandLine
import GameRegistration.Proofs.Independence
import GameRegistration.Proofs.JsonDecoding

/-! Sections as texts. Every section reads back from both of its written forms, and what the compile
command writes is the committed section in such a form, or nothing. -/
namespace GameRegistration

open Json

theorem SourcePosition.decode_toJson {mode inner : Mode} (hmode : mode.enter = .ok inner)
    (p : SourcePosition) : decode mode (Reading.ofJson p.toJson) = .ok p := by
  obtain ⟨file, line⟩ := p
  cases line with
  | none =>
    exact Reading.asStructure_ofJson hmode
      (.field rfl (by simp) <| .lacking (by simp) .nil) rfl
  | some line =>
    exact Reading.asStructure_ofJson hmode
      (.field rfl (by simp) <| .field (Reading.asWordOption_ofJson line) (by simp) .nil) rfl

theorem SourcePosition.isSound_toJson (p : SourcePosition) (room : Nat) :
    (Reading.ofJson p.toJson).isSound (room + 1) = true := by
  refine Reading.isSound_object fun m hm => ?_
  obtain rfl | hline := List.mem_cons.1 hm
  · rfl
  · simp only [Option.mem_toList, Option.map_eq_some_iff] at hline
    obtain ⟨line, -, rfl⟩ := hline
    exact Reading.isSound_number room (Nat.lt_trans line.toNat_lt (by decide))

/-! The constants -/

theorem ActionType.decode_name (t : ActionType) : decode (Reading.ofJson (.text t.name)) = .ok t := by
  cases t
  rfl

theorem ActionExecution.decode_name (e : ActionExecution) :
    decode (Reading.ofJson (.text e.name)) = .ok e := by
  cases e
  rfl

theorem SequenceTable.decode_name (t : SequenceTable) :
    decode (Reading.ofJson (.text t.name)) = .ok t := by
  cases t
  rfl

theorem RegistryRoot.decode_name (r : RegistryRoot) :
    decode (Reading.ofJson (.text r.name)) = .ok r := by
  cases r <;> rfl

/-! The kinds of records, from the buffer -/

theorem GameRecord.decode_members (r : GameRecord) :
    decode .buffered (Reading.ofJson (.object r.members)) = .ok r :=
  Reading.asStructure_ofJson rfl
    (.field (r.source.decode_toJson rfl) (by simp) <| .field rfl (by simp) <|
      .field rfl (by simp) .nil)
    rfl

theorem DirectoryRecord.decode_members (r : DirectoryRecord) :
    decode .buffered (Reading.ofJson (.object r.members)) = .ok r :=
  Reading.asStructure_ofJson rfl
    (.field (r.source.decode_toJson rfl) (by simp) <| .field rfl (by simp) <|
      .field rfl (by simp) <| .field rfl (by simp) .nil)
    rfl

theorem CustomActionRecord.decode_members (r : CustomActionRecord) :
    decode .buffered (Reading.ofJson (.object r.members)) = .ok r :=
  Reading.asStructure_ofJson rfl
    (.field (r.source.decode_toJson rfl) (by simp) <| .field rfl (by simp) <|
      .field r.type.decode_name (by simp) <| .field r.execution.decode_name (by simp) <|
      .field rfl (by simp) <| .field rfl (by simp) .nil)
    rfl

theorem ScheduleRecord.decode_members (r : ScheduleRecord) :
    decode .buffered (Reading.ofJson (.object r.members)) = .ok r :=
  Reading.asStructure_ofJson rfl
    (.field (r.source.decode_toJson rfl) (by simp) <| .field r.sequence.decode_name (by simp) <|
      .field rfl (by simp) <| .field (Reading.asTextOption_ofJson r.condition) (by simp) <|
      .field (Reading.asTextOption_ofJson r.before) (by simp) <|
      .field (Reading.asTextOption_ofJson r.after) (by simp) .nil)
    rfl

theorem ShortcutRecord.decode_members (r : ShortcutRecord) :
    decode .buffered (Reading.ofJson (.object r.members)) = .ok r :=
  Reading.asStructure_ofJson rfl
    (.field (r.source.decode_toJson rfl) (by simp) <| .field rfl (by simp) <|
      .field rfl (by simp) <| .field rfl (by simp) <|
      .field (Reading.asTextOption_ofJson r.shortName) (by simp) <|
      .field rfl (by simp) <| .field rfl (by simp) <|
      .field (Reading.asTextOption_ofJson r.arguments) (by simp) <| .field rfl (by simp) .nil)
    rfl

theorem RegistryRecord.decode_members (r : RegistryRecord) :
    decode .buffered (Reading.ofJson (.object r.members)) = .ok r :=
  Reading.asStructure_ofJson rfl
    (.field (r.source.decode_toJson rfl) (by simp) <| .field rfl (by simp) <|
      .field r.root.decode_name (by simp) <| .field rfl (by simp) <|
      .field (Reading.asTextOption_ofJson r.name) (by simp) <|
      .field (Reading.asTextOption_ofJson r.value) (by simp) <| .field rfl (by simp) .nil)
    rfl

theorem ReferenceRecord.decode_members (r : ReferenceRecord) :
    decode .buffered (Reading.ofJson (.object r.members)) = .ok r :=
  Reading.asStructure_ofJson rfl
    (.field (r.source.decode_toJson rfl) (by simp) <| .field rfl (by simp) <|
      .field rfl (by simp) .nil)
    rfl

/-! Records -/

namespace Record

theorem decodeContent_members (r : Record) :
    decodeContent r.table (Reading.ofJson (.object r.members)) = .ok r := by
  cases r with
  | game r => simp [table, members, decodeContent, r.decode_members, Functor.map, Except.map]
  | directory r => simp [table, members, decodeContent, r.decode_members, Functor.map, Except.map]
  | customAction r => simp [table, members, decodeContent, r.decode_members, Functor.map, Except.map]
  | schedule r => simp [table, members, decodeContent, r.decode_members, Functor.map, Except.map]
  | shortcut r => simp [table, members, decodeContent, r.decode_members, Functor.map, Except.map]
  | registry r => simp [table, members, decodeContent, r.decode_members, Functor.map, Except.map]
  | reference r => simp [table, members, decodeContent, r.decode_members, Functor.map, Except.map]

theorem type_not_mem_members (r : Record) : "type" ∉ r.members.map Prod.fst := by
  cases r <;> simp [members, GameRecord.members, DirectoryRecord.members, CustomActionRecord.members,
    ScheduleRecord.members, ShortcutRecord.members, RegistryRecord.members, ReferenceRecord.members]

theorem isSound_of_mem_members (r : Record) (room : Nat) :
    ∀ m ∈ r.members, (Reading.ofJson m.2).isSound (room + 1) = true := by
  have hsource := fun p : SourcePosition => p.isSound_toJson room
  cases r <;> simp [members, GameRecord.members, DirectoryRecord.members, CustomActionRecord.members,
    ScheduleRecord.members, ShortcutRecord.members, RegistryRecord.members, ReferenceRecord.members,
    hsource]

theorem decode_toJson (r : Record) (room : Nat) :
    decode (.streaming (room + 2)) (Reading.ofJson r.toJson) = .ok r := by
  have htagged := Reading.asTagged_ofJson r.table_mem_tableNames r.type_not_mem_members
    (r.isSound_of_mem_members room)
  rw [decode, toJson, htagged]
  exact r.decodeContent_members

end Record

/-! Sections -/

namespace Section

theorem decode_toJson (s : Section) : decode .start (Reading.ofJson s.toJson) = .ok s := by
  have hrecords : ∀ r ∈ s.records,
      Record.decode (.streaming 125) (Reading.ofJson r.toJson) = .ok r :=
    fun r _ => r.decode_toJson 123
  exact Reading.asStructure_ofJson rfl
    (.field rfl (by simp) <| .field (Reading.asList_ofJson rfl hrecords) (by simp) .nil) rfl

theorem ofText_render (s : Section) (pretty : Bool) {gaps : String}
    (hgaps : ∀ c ∈ gaps.toList, isGap c = true) :
    ofText (s.toJson.render pretty ++ gaps) = .ok s :=
  decodeText_render s.decode_toJson pretty hgaps

theorem ofText_render_line (s : Section) (pretty : Bool) :
    ofText (s.toJson.render pretty) = .ok s ∧ ofText (s.toJson.render pretty ++ "\n") = .ok s := by
  have halone : ofText (s.toJson.render pretty ++ "") = .ok s := s.ofText_render pretty (by simp)
  rw [String.append_empty] at halone
  exact ⟨halone, s.ofText_render pretty (by simp [isGap])⟩

end Section

/-! The compile command -/

namespace CommandLine

variable (warnings : WarningPolicy) (pretty : Bool)

/-- A request that commits rows as their tables ask for. -/
def Commits (text : String) (commit : Commit) : Prop :=
  ∃ request, Request.ofText text = .ok request ∧ request.outcome { warnings } = .ok commit ∧
    commit.content.violation? = none

/-- Either the rows go out or nothing does, whatever the reason. -/
theorem compileText_cases (text : String) :
    (compileText warnings pretty text).2 ≠ .ok .committed ∧
        (compileText warnings pretty text).1.out = "" ∧ (∀ commit, ¬ Commits warnings text commit) ∨
      ∃ commit, Commits warnings text commit ∧
        (compileText warnings pretty text).2 = .ok .committed ∧
        (compileText warnings pretty text).1.out = commit.content.toJson.render pretty ++ "\n" := by
  unfold compileText
  split
  next error herror =>
    refine .inl ⟨nofun, rfl, ?_⟩
    rintro _ ⟨request, hrequest, -⟩
    cases herror.symm.trans hrequest
  next request hrequest =>
  dsimp only
  split
  next failure hfailure =>
    refine .inl ⟨nofun, rfl, ?_⟩
    rintro _ ⟨request', hrequest', hcommit, -⟩
    cases hrequest.symm.trans hrequest'
    cases hfailure.symm.trans hcommit
  next commit hcommit =>
  split
  next violation hviolation =>
    refine .inl ⟨nofun, rfl, ?_⟩
    rintro _ ⟨request', hrequest', hcommit', hsound⟩
    cases hrequest.symm.trans hrequest'
    cases hcommit.symm.trans hcommit'
    cases hviolation.symm.trans hsound
  next hsound => exact .inr ⟨commit, ⟨request, hrequest, hcommit, hsound⟩, rfl, rfl⟩

theorem compile_of_text {file : Option ByteArray} {text : String}
    (h : file.bind String.fromUTF8? = some text) :
    compile warnings pretty file = compileText warnings pretty text := by
  rw [compile, h]

theorem compile_of_unreadable {file : Option ByteArray} (h : file.bind String.fromUTF8? = none) :
    compile warnings pretty file = ({}, .error .unreadable) := by
  rw [compile, h]

theorem compile_eq_committed_iff (file : Option ByteArray) :
    (compile warnings pretty file).2 = .ok .committed ↔
      ∃ text commit, file.bind String.fromUTF8? = some text ∧ Commits warnings text commit := by
  cases htext : file.bind String.fromUTF8? with
  | none => simp [compile_of_unreadable warnings pretty htext]
  | some text =>
    rw [compile_of_text warnings pretty htext]
    obtain ⟨hstatus, -, hnone⟩ | ⟨commit, hcommits, hstatus, -⟩ :=
      compileText_cases warnings pretty text
    · refine iff_of_false hstatus ?_
      rintro ⟨_, commit, ⟨⟩, hcommits⟩
      exact hnone commit hcommits
    · exact iff_of_true hstatus ⟨text, commit, rfl, hcommits⟩

/-- The command commits just what the request does. Nothing is written to the first output unless it
commits, and then it is one document with its line end, from which the committed section reads back.
So does every section that there is from both of its written forms. -/
theorem compile_out (file : Option ByteArray) :
    ((compile warnings pretty file).2 = .ok .committed ↔
        ∃ text commit, file.bind String.fromUTF8? = some text ∧ Commits warnings text commit) ∧
      ((compile warnings pretty file).2 ≠ .ok .committed →
        (compile warnings pretty file).1.out = "") ∧
      ((compile warnings pretty file).2 = .ok .committed →
        ∃ text request commit document, file.bind String.fromUTF8? = some text ∧
          Request.ofText text = .ok request ∧ request.outcome { warnings } = .ok commit ∧
          (compile warnings pretty file).1.out = document ++ "\n" ∧
          document = commit.content.toJson.render pretty ∧
          Section.ofText document = .ok commit.content ∧
          Section.ofText (document ++ "\n") = .ok commit.content) ∧
      ∀ (s : Section) (isPretty : Bool), Section.ofText (s.toJson.render isPretty) = .ok s ∧
        Section.ofText (s.toJson.render isPretty ++ "\n") = .ok s := by
  refine ⟨compile_eq_committed_iff warnings pretty file, ?_⟩
  cases htext : file.bind String.fromUTF8? with
  | none =>
    rw [compile_of_unreadable warnings pretty htext]
    exact ⟨fun _ => rfl, nofun, Section.ofText_render_line⟩
  | some text =>
    rw [compile_of_text warnings pretty htext]
    obtain ⟨hstatus, hout, -⟩ | ⟨commit, ⟨request, hrequest, hcommit, -⟩, hstatus, hout⟩ :=
      compileText_cases warnings pretty text
    · exact ⟨fun _ => hout, fun h => absurd h hstatus, Section.ofText_render_line⟩
    · obtain ⟨halone, hline⟩ := commit.content.ofText_render_line pretty
      exact ⟨fun h => absurd hstatus h,
        fun _ => ⟨text, request, commit, _, rfl, hrequest, hcommit, hout, rfl, halone, hline⟩,
        Section.ofText_render_line⟩

example : (compileText {} false "\x7b\"section_id\":\"A\",\"jobs\":[]\x7d").1.out =
    "\x7b\"id\":\"A\",\"tuples\":[]\x7d\n" := by
  decide +kernel

end CommandLine

end GameRegistration
