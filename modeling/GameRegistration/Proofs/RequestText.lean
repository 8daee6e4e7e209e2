import Mathlib.Data.List.Forall2
import GameRegistration.Proofs.DocumentText
import GameRegistration.Proofs.RearrangedDecoding

/-! Rearranged texts of requests. What is read differs in the order of the contexts alone, and
nothing asks for that. -/
namespace GameRegistration

open Json

theorem QualifiedName.respects (mode : Mode) : ∀ depth, Respects .name id depth (decode mode)
  | 0 => .zero
  | _ + 1 => .asStructure_of_view_eq ⟨fun _ => rfl, rfl, rfl⟩
    (fun _ _ => .field .asTextOption <| .field .asText .nil) (by simp)

theorem SourcePosition.respects (mode : Mode) : ∀ depth, Respects .position id depth (decode mode)
  | 0 => .zero
  | _ + 1 => .asStructure_of_view_eq ⟨fun _ => rfl, rfl, rfl⟩
    (fun _ _ => .field .asText <| .field .asWordOption .nil) (by simp)

theorem Attribute.respects (mode : Mode) : ∀ depth, Respects .attribute id depth (decode mode)
  | 0 => .zero
  | depth + 1 => .asStructure_of_view_eq ⟨fun _ => rfl, rfl, rfl⟩
    (fun inner _ => .field (QualifiedName.respects inner depth) <| .field .asText .nil) (by simp)

namespace Element

/-- The children are less deep, and that is what the induction is on. -/
theorem respects (mode : Mode) (depth : Nat) : Respects .element id depth (decode mode) := by
  induction depth generalizing mode with
  | zero => exact .zero
  | succ depth ih =>
    have hattributes (inner : Mode) :
        Respects (.list .attribute) (List.map id) depth (Reading.asList inner Attribute.decode) :=
      Respects.mono (.asList fun inner _ => Attribute.respects inner depth) (Nat.le_succ depth)
    have hchildren (inner : Mode) :
        Respects (.list .element) (List.map id) depth (decodeChildren inner) := by
      rw [funext (decodeChildren_eq inner)]
      exact Respects.mono (.asList fun inner _ => ih inner) (Nat.le_succ depth)
    rw [funext (decode_eq_asStructure mode)]
    exact .asStructure_of_view_eq ⟨fun _ => rfl, rfl, rfl⟩
      (fun inner _ => .field (QualifiedName.respects inner depth) <|
        .field (SourcePosition.respects inner depth) <| .field (hattributes inner) <|
        .field (hchildren inner) .nil)
      (by simp)

end Element

/-! Contexts -/

namespace Context

theorem get?_foldl (entries : List (String × String)) (c : Context) (key : String) :
    (entries.foldl (fun c (key, value) => c.insert key value) c).get? key =
      ((valuesAt entries key).getLast?.map Prod.snd).or (c.get? key) := by
  induction entries generalizing c with
  | nil => rfl
  | cons e entries ih =>
    obtain ⟨k, value⟩ := e
    rw [List.foldl_cons, ih, get?_insert]
    by_cases h : k = key
    · subst h
      have hhere : valuesAt ((k, value) :: entries) k = (k, value) :: valuesAt entries k := by
        simp [valuesAt]
      rw [hhere, if_pos rfl, List.getLast?_cons]
      cases (valuesAt entries k).getLast? <;> rfl
    · have hpast : valuesAt ((k, value) :: entries) key = valuesAt entries key := by
        simp [valuesAt, h]
      rw [hpast, if_neg (Ne.symm h)]

theorem get?_ofList (entries : List (String × String)) (key : String) :
    (ofList entries).get? key = (valuesAt entries key).getLast?.map Prod.snd := by
  rw [ofList, get?_foldl, get?, List.lookup_nil, Option.or_none]

theorem respects (mode : Mode) (depth : Nat) : Respects .other get? depth (decode mode) := by
  intro r r' hr hdepth
  refine (Respects.asMap (fun _ _ => .asText) r r' hr hdepth).map fun entries entries' h => ?_
  funext key
  rw [get?_ofList, get?_ofList, h]

end Context

/-! Jobs -/

namespace Job

/-- The same job, but for the order of its context. -/
inductive Same : Job → Job → Prop where
  | onElement {context context' : Context} {parent element : Element}
    (h : ∀ key, context'.get? key = context.get? key) :
    Same (.onElement context parent element) (.onElement context' parent element)
  | onAttribute {context context' : Context} {parent : Element} {a : Attribute}
    (h : ∀ key, context'.get? key = context.get? key) :
    Same (.onAttribute context parent a) (.onAttribute context' parent a)

/-- What is looked at in a job. -/
def view : Job → (String → Option String) × Element × (Element ⊕ Attribute)
  | .onElement context parent element => (context.get?, parent, .inl element)
  | .onAttribute context parent a => (context.get?, parent, .inr a)

theorem same_of_view_eq {j j' : Job} (h : j'.view = j.view) : j.Same j' := by
  cases j <;> cases j' <;> simp only [view, Prod.mk.injEq, Sum.inl.injEq, Sum.inr.injEq, reduceCtorEq,
    and_false] at h
  · obtain ⟨hcontext, rfl, rfl⟩ := h
    exact .onElement (congrFun hcontext)
  · obtain ⟨hcontext, rfl, rfl⟩ := h
    exact .onAttribute (congrFun hcontext)

theorem view_context {found found' : Option Context}
    (h : found'.map Context.get? = found.map Context.get?) :
    (found'.getD {}).get? = (found.getD {}).get? := by
  cases found <;> cases found' <;> simp_all

theorem respects_decodeOnElement (mode : Mode) :
    ∀ depth, Respects (.untagged "element") view depth (decodeOnElement mode)
  | 0 => .zero
  | depth + 1 => by
    refine .asStructure ⟨fun _ => rfl, rfl, rfl⟩
      (fun inner _ => .field (Context.respects inner depth) <|
        .field (Element.respects inner depth) <| .field (Element.respects inner depth) .nil) ?_
    rintro ⟨context, parent, element, _⟩ ⟨context', parent', element', _⟩ h
    simp only [Prod.mk.injEq] at h
    obtain ⟨hcontext, hparent, helement, -⟩ := h
    refine .bind (.demand hparent) fun parent parent' (hparent : parent' = parent) => ?_
    refine .bind (.demand helement) fun element element' (helement : element' = element) => .ok ?_
    rw [view, view, view_context hcontext, hparent, helement]

theorem respects_decodeOnAttribute (mode : Mode) {kind : String} (hkind : kind ≠ "element") :
    ∀ depth, Respects (.untagged kind) view depth (decodeOnAttribute mode)
  | 0 => .zero
  | depth + 1 => by
    have hfields : (Place.untagged kind).fields =
        [("context", .other), ("parent", .element), ("attribute", .attribute)] := by
      simp [Place.fields, Place.jobFields, hkind]
    refine .asStructure ⟨fun _ => rfl, rfl, hfields⟩
      (fun inner _ => .field (Context.respects inner depth) <|
        .field (Element.respects inner depth) <| .field (Attribute.respects inner depth) .nil) ?_
    rintro ⟨context, parent, a, _⟩ ⟨context', parent', a', _⟩ h
    simp only [Prod.mk.injEq] at h
    obtain ⟨hcontext, hparent, ha, -⟩ := h
    refine .bind (.demand hparent) fun parent parent' (hparent : parent' = parent) => ?_
    refine .bind (.demand ha) fun a a' (ha : a' = a) => .ok ?_
    rw [view, view, view_context hcontext, hparent, ha]

/-- Wherever the tag stands, the job is decoded from the buffer. -/
theorem respects : ∀ depth, Respects .job view depth (decode (.streaming depth))
  | 0 => .zero
  | depth + 1 => by
    intro r r' hr hdepth j hj
    obtain ⟨⟨kind, content⟩, htagged, hj⟩ := bind_eq_ok_iff.1 hj
    obtain ⟨content', htagged', hcontent⟩ := Reading.asTagged_rearranges hr hdepth htagged
    have hdecode : decode (.streaming (depth + 1)) r' =
        if kind = "element" then decodeOnElement .buffered content'
        else decodeOnAttribute .buffered content' := by
      rw [decode, htagged']
      rfl
    rw [hdecode]
    have hfits := Nat.le_refl content'.depth
    by_cases hkind : kind = "element"
    · subst hkind
      exact respects_decodeOnElement .buffered _ content content' hcontent hfits j hj
    · rw [if_neg hkind]
      exact respects_decodeOnAttribute .buffered hkind _ content content' hcontent hfits j
        (by simpa [hkind] using hj)

/-- A context is only asked for the values of keys. -/
theorem Same.plan_eq {j j' : Job} (h : j.Same j') : j'.plan = j.plan := by
  cases h with
  | @onElement context context' parent element h =>
    have hfile : FileContext.resolve context' = FileContext.resolve context := by
      funext localName source
      simp only [FileContext.resolve, Context.require, h]
    rw [plan, plan, elementPlan, elementPlan, hfile]
  | @onAttribute context context' parent a h =>
    have hafter (key : String) :
        (attributeContext context' parent).get? key = (attributeContext context parent).get? key := by
      unfold attributeContext
      split
      · split
        · rw [Context.get?_insert, Context.get?_insert, h]
        · exact h key
      · exact h key
    rw [plan, plan, attributePlan, attributePlan, extensionPlan, extensionPlan, registerPlan,
      registerPlan, savedGame?, savedGame?]
    simp only [hafter]

theorem Same.tracedPlan_eq {j j' : Job} (h : j.Same j') : j'.tracedPlan = j.tracedPlan := by
  have hplan := h.plan_eq
  cases h <;> rw [tracedPlan, tracedPlan, hplan] <;> rfl

end Job

namespace Request

/-- Nothing that a run records tells the two apart. -/
theorem run_eq_of_same {r r' : Request} (h : List.Forall₂ Job.Same r.jobs r'.jobs) (setup : Setup) :
    r'.run setup = r.run setup := by
  have hplans {jobs jobs' : List Job} (h : List.Forall₂ Job.Same jobs jobs') :
      jobs'.flatMap Job.tracedPlan = jobs.flatMap Job.tracedPlan := by
    induction h with
    | nil => rfl
    | cons hj _ ih => rw [List.flatMap_cons, List.flatMap_cons, hj.tracedPlan_eq, ih]
  rw [run, run, hplans h]

def view (r : Request) : String × List ((String → Option String) × Element × (Element ⊕ Attribute)) :=
  (r.sectionId, r.jobs.map Job.view)

theorem respects_jobs : ∀ depth, Respects (.list .job) (List.map Job.view) depth
    (Reading.asList (.streaming depth) Job.decode)
  | 0 => .zero
  | depth + 1 => .asList fun inner hinner => by
    cases hinner
    exact Job.respects depth

theorem respects : ∀ depth, Respects .request view depth (decode (.streaming depth))
  | 0 => .zero
  | depth + 1 => by
    have hslots (inner : Mode) (hinner : (Mode.streaming (depth + 1)).enter = .ok inner) :
        Respects (.list .job) (List.map Job.view) depth (Reading.asList inner Job.decode) := by
      cases hinner
      exact respects_jobs depth
    refine .asStructure ⟨fun _ => rfl, rfl, rfl⟩
      (fun inner hinner => .field .asText <| .field (hslots inner hinner) .nil) ?_
    rintro ⟨sectionId, jobs, _⟩ ⟨sectionId', jobs', _⟩ h
    simp only [Prod.mk.injEq] at h
    obtain ⟨hsection, hjobs, -⟩ := h
    refine .bind (.demand hsection) fun _ _ hsection => ?_
    exact .bind (.demand hjobs) fun _ _ hjobs => .ok (Prod.ext hsection hjobs)

variable {text text' : String} {request : Request}

theorem ofText_eq_ok_iff : ofText text = .ok request ↔
    decodeText decode text = .ok request ∧ request.sectionId ≠ "" := by
  unfold ofText
  split
  next fault hfault => simp [hfault]
  next found hfound =>
    split
    next hname =>
      refine iff_of_false nofun ?_
      rintro ⟨hdecode, hne⟩
      exact hne (Except.ok.inj (hfound.symm.trans hdecode) ▸ hname)
    next hname =>
      simp only [hfound, Except.ok.injEq]
      exact ⟨fun heq => ⟨heq, heq ▸ hname⟩, fun h => h.1⟩

/-- A text that a request is read from may be rearranged, as long as it is not nested too deep then: the
members of objects may stand in any order, the tags of jobs among them, and structures and jobs may have
members that are no fields of theirs. The same request is read from it. -/
theorem ofText_of_rearranges (htext : ofText text = .ok request)
    (hroot : (read text).root.Rearranges .request (read text').root)
    (hended : (read text').isEnded = true) (hnesting : nesting text' ≤ 127) :
    ∃ request', ofText text' = .ok request' ∧ request'.sectionId = request.sectionId ∧
      List.Forall₂ Job.Same request.jobs request'.jobs := by
  obtain ⟨hdecode, hname⟩ := ofText_eq_ok_iff.1 htext
  obtain ⟨request', hdecode', hview⟩ :=
    respects 127 _ _ hroot hnesting request (decodeText_eq_ok_iff.1 hdecode).1
  obtain ⟨hsection, hjobs⟩ := Prod.mk.injEq _ _ _ _ ▸ hview
  have htext' : ofText text' = .ok request' :=
    ofText_eq_ok_iff.2 ⟨decodeText_eq_ok_iff.2 ⟨hdecode', hended⟩, hsection ▸ hname⟩
  have hforall := List.forall₂_eq_eq_eq ▸ hjobs.symm
  rw [List.forall₂_map_left_iff, List.forall₂_map_right_iff] at hforall
  exact ⟨request', htext', hsection, hforall.imp fun _ _ h => Job.same_of_view_eq h.symm⟩

end Request

namespace Sample

def taggedJson : Json :=
  .object [("kind", .text "attribute"),
    ("parent", .object [("name", .object [("local_name", .text "Extension")])]),
    ("attribute", .object [("name", .object [("local_name", .text "IsRichSavedGame")]),
      ("value", .text "yes")])]

def requestJson : Json := .object [("section_id", .text "Games"), ("jobs", .array [taggedJson])]

/-- The tag stands last, and the name of a field of the other kind of job is just another name. -/
def rearrangedTaggedJson : Json :=
  .object [("parent", .object [("name", .object [("local_name", .text "Extension")])]),
    ("attribute", .object [("value", .text "yes"),
      ("name", .object [("local_name", .text "IsRichSavedGame")])]),
    ("element", .null), ("kind", .text "attribute")]

def rearrangedRequestJson : Json :=
  .object [("jobs", .array [rearrangedTaggedJson]), ("note", .array [.bool true]),
    ("section_id", .text "Games")]

def requestRead : Request where
  sectionId := "Games"
  jobs := [.onAttribute {} { name := { localName := "Extension" } }
    { name := { localName := "IsRichSavedGame" }, value := "yes" }]

theorem ofText_requestJson : Request.ofText requestJson.compact = .ok requestRead := by
  refine Request.ofText_eq_ok_iff.2 ⟨decodeText_eq_ok_iff.2 ?_, by decide⟩
  rw [compact, read_render_alone]
  exact ⟨rfl, rfl⟩

theorem rearranges_taggedJson :
    (Reading.ofJson taggedJson).Rearranges .job (Reading.ofJson rearrangedTaggedJson) := by
  have hfields : (Place.resolve (Reading.ofJson taggedJson) .job).fields =
      ("kind", .other) :: Place.jobFields "attribute" := rfl
  have hlast (kind parent attr : Reading) :
      ([(some "kind", kind)] ++ [(some "parent", parent), (some "attribute", attr)]).Perm
        ([(some "parent", parent), (some "attribute", attr)] ++ [(some "kind", kind)]) :=
    List.perm_append_comm
  refine .object (hfields ▸ .trans (Members.rearranges_of_perm (hlast _ _ _) ?_) ?_)
  · simp
  · refine .member .same (.member (.object (.swap nofun)) ?_)
    exact .insert (List.cons_ne_nil _ _) (by decide) (rfl : Reading.null.isSound 0 = true)

theorem rearranges_requestJson :
    (Reading.ofJson requestJson).Rearranges .request (Reading.ofJson rearrangedRequestJson) := by
  refine .object (.trans (.swap nofun) (.member ?_ ?_))
  · exact .array (.item rearranges_taggedJson .same)
  · exact .insert (List.cons_ne_nil _ _) (by decide)
      (rfl : (Reading.array (.item (.bool true) .close)).isSound 1 = true)

end Sample

theorem Request.ofText_of_rearranges_sample :
    ∃ request', ofText Sample.rearrangedRequestJson.compact = .ok request' ∧
      request'.sectionId = "Games" ∧
      List.Forall₂ Job.Same Sample.requestRead.jobs request'.jobs := by
  refine ofText_of_rearranges Sample.ofText_requestJson ?_ ?_ ?_
  · rw [compact, compact, read_render_alone, read_render_alone]
    exact Sample.rearranges_requestJson
  · rw [compact, read_render_alone]
  · rw [nesting, compact, read_render_alone]
    decide

end GameRegistration
