import GameRegistration.Proofs.Hooks

/-! The verdict. However errors and warnings come about, the flag and the diagnostics never
disagree, so the verdict is on the diagnostics alone. -/
namespace GameRegistration

/-- The level at which a warning is recorded, if it is. -/
def WarningPolicy.level? (p : WarningPolicy) : Option Level :=
  match p.treatment with
  | .keep => some .warning
  | .elevate => some .error
  | .suppress => none

namespace Call

def diagnostic? (policy : WarningPolicy) : Call → Option Diagnostic
  | .error source problem => some ⟨source, .error, problem⟩
  | .warning source problem => policy.level?.map (⟨source, ·, problem⟩)
  | _ => none

theorem diagnostics_perform (policy : WarningPolicy) (call : Call) :
    (call.perform policy).diagnostics = (call.diagnostic? policy).toList := by
  cases call with
  | warning source problem =>
    unfold perform Journal.warning Journal.settle diagnostic? WarningPolicy.level?
    cases policy.treatment <;> rfl
  | _ => rfl

theorem honest_perform (policy : WarningPolicy) (call : Call) : (call.perform policy).Honest := by
  cases call with
  | error source problem => exact Journal.honest_write source .error problem
  | warning source problem => exact Journal.honest_warning policy source problem
  | _ => exact Journal.IsQuiet.honest ⟨rfl, rfl⟩

end Call

section Calls
variable (policy : WarningPolicy) (calls : List Call)

theorem diagnostics_performCalls :
    (performCalls policy calls).diagnostics = calls.filterMap (Call.diagnostic? policy) :=
  filterMap_performCalls (Call.diagnostics_perform policy) calls

theorem honest_performCalls : (performCalls policy calls).Honest :=
  performCalls_of_each (P := Journal.Honest) rfl .append fun call _ => call.honest_perform policy

theorem diagnostics_take_prefix (n k : Nat) :
    (performCalls policy (calls.take n)).diagnostics <+:
      (performCalls policy (calls.take (n + k))).diagnostics := by
  rw [diagnostics_performCalls, diagnostics_performCalls]
  exact (List.take_prefix_take_left (Nat.le_add_right n k)).filterMap _

end Calls

theorem Journal.Honest.failed_iff_errorCount_pos {j : Journal} (h : j.Honest) :
    j.failed = true ↔ 0 < j.errorCount := by
  rw [h.failed_iff, errorCount, List.countP_pos_iff]
  simp [Diagnostic.isError]

theorem Section.foldl_add (rs : List Record) (s : Section) :
    rs.foldl add s = { s with records := s.records ++ rs } := by
  induction rs generalizing s with
  | nil => simp
  | cons r rest ih => rw [List.foldl_cons, ih, add, List.append_assoc, List.singleton_append]

namespace Compilation
variable {sectionId : String} {j : Journal}

theorem finish_of_failed (h : j.failed = true) :
    finish sectionId j =
      .error { diagnostics := j.diagnostics
               discarded := { id := sectionId, records := j.records } } :=
  if_pos h

theorem finish_of_clean (h : j.failed = false) :
    finish sectionId j =
      .ok { content := { id := sectionId, records := j.records }, warnings := j.diagnostics } :=
  if_neg (by rw [h]; exact Bool.false_ne_true)

/-- The flag decides, but it stands for the diagnostics. -/
theorem exists_finish_eq_ok_iff (h : j.Honest) :
    (∃ commit, finish sectionId j = .ok commit) ↔ ∀ d ∈ j.diagnostics, d.level ≠ .error := by
  constructor
  · rintro ⟨commit, hok⟩ d hd hlevel
    rw [finish_of_failed (h.failed_iff.2 ⟨d, hd, hlevel⟩)] at hok
    cases hok
  · intro hnone
    have hclean : j.failed = false := by
      rw [← Bool.not_eq_true, h.failed_iff]
      rintro ⟨d, hd, hlevel⟩
      exact hnone d hd hlevel
    exact ⟨_, finish_of_clean hclean⟩

/-- However calls follow one another: after each of them the flag says whether an error is among the
diagnostics, and at the end these decide what becomes of the records. -/
theorem finish_performCalls (policy : WarningPolicy) (calls : List Call) (sectionId : String) :
    let j := performCalls policy calls
    let added := (calls.filterMap Call.addition?).map (·.2)
    let content := added.foldl Section.add { id := sectionId }
    (∀ n,
        let now := performCalls policy (calls.take n)
        (now.failed = true ↔ ∃ d ∈ now.diagnostics, d.level = .error) ∧
          (now.failed = true ↔ 0 < now.errorCount) ∧
          ∀ k, now.diagnostics <+: (performCalls policy (calls.take (n + k))).diagnostics) ∧
      j.diagnostics = calls.filterMap (Call.diagnostic? policy) ∧
      ((∃ commit, finish sectionId j = .ok commit) ↔ ∀ d ∈ j.diagnostics, d.level ≠ .error) ∧
      match finish sectionId j with
      | .ok commit =>
        commit.content = content ∧ commit.warnings = j.diagnostics ∧
          ∀ d ∈ commit.warnings, d.level = .warning
      | .error failure =>
        failure.discarded = content ∧ failure.diagnostics = j.diagnostics ∧
          failure.errors = j.diagnostics.filter (·.level = .error) ∧ failure.errors ≠ [] := by
  intro j added content
  have hadded : added = j.records := by
    rw [← j.map_additions, additions_performCalls]
  have hcontent : content = { id := sectionId, records := j.records } := by
    simp only [content, Section.foldl_add, hadded, List.nil_append]
  have hj : j.Honest := honest_performCalls policy calls
  refine ⟨fun n => ?_, diagnostics_performCalls policy calls, exists_finish_eq_ok_iff hj, ?_⟩
  · have hnow := honest_performCalls policy (calls.take n)
    exact ⟨hnow.failed_iff, hnow.failed_iff_errorCount_pos, diagnostics_take_prefix policy calls n⟩
  · cases hfailed : j.failed with
    | true =>
      obtain ⟨d, hd, hlevel⟩ := hj.failed_iff.1 hfailed
      have herror : d ∈ j.diagnostics.filter (·.level = .error) :=
        List.mem_filter.2 ⟨hd, decide_eq_true hlevel⟩
      rw [finish_of_failed hfailed]
      exact ⟨hcontent.symm, rfl, rfl, List.ne_nil_of_mem herror⟩
    | false =>
      have hok : finish sectionId j = _ := finish_of_clean hfailed
      rw [hok]
      refine ⟨hcontent.symm, rfl, fun d hd => ?_⟩
      have hne := (exists_finish_eq_ok_iff hj).1 ⟨_, hok⟩ d hd
      cases hlevel : d.level with
      | warning => rfl
      | error => exact absurd hlevel hne

end Compilation

end GameRegistration
