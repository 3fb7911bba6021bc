/-
# Substituted workflows

The references in the steps of a workflow are replaced in the document the steps make up, which is then read back.
This never fails, and what is read back is the steps with every text substituted (`rewrite_eq`): a step that is written
and rewritten is the step with its texts rewritten, one lemma for each part of a step.

Main statement: `rewrite_leafwise`, for every workflow.  The document of each step keeps its shape, and everything else
in the workflow stays as it is.  References resolve to the variables of the workflow, over which its own name, project
and zone count (`Resolves`).
-/
import ImageImport.Proofs.Json.Leaves
import ImageImport.Proofs.Workflow.Document
import ImageImport.Workflow.Builder

namespace ImageImport

open Json

/-! ## 1. Texts without a reference -/

namespace Text

theorem occursIn_append {p cs ds : List Char} {c : Char} (hp : p.head? = some c) (hc : c ∉ cs)
    (hd : occursIn p ds = false) : occursIn p (cs ++ ds) = false := by
  induction cs with
  | nil => exact hd
  | cons x cs ih =>
    obtain ⟨hx, hcs⟩ := List.ne_and_not_mem_of_not_mem_cons hc
    cases p with
    | nil => cases hp
    | cons y p =>
      cases hp
      have hfirst : (c :: p).isPrefixOf (x :: (cs ++ ds)) = false := by
        show (c == x && p.isPrefixOf (cs ++ ds)) = false
        rw [beq_false_of_ne hx, Bool.false_and]
      rw [List.cons_append, occursIn, hfirst, ih hcs, Bool.or_self]

theorem after?_eq_none {p cs : List Char} (h : occursIn p cs = false) : after? p cs = none := by
  cases cs with
  | nil =>
    have hp : p.isEmpty = false := h
    cases p with
    | nil => cases hp
    | cons x p => rfl
  | cons c cs =>
    rw [occursIn, Bool.or_eq_false_iff] at h
    simp [after?, h.1]

theorem occursIn_iff_infix (p cs : List Char) : occursIn p cs = true ↔ p <:+: cs := by
  induction cs with
  | nil => simp [occursIn, List.isEmpty_iff]
  | cons c cs ih => rw [occursIn, Bool.or_eq_true, ih, List.isPrefixOf_iff_prefix, List.infix_cons_iff]

end Text

/-- **Without an opening nothing is replaced.** -/
theorem Reference.substitute_plain (value? : List Char → Option (List Char)) {cs : List Char}
    (h : Text.occursIn opening cs = false) : substitute value? cs = cs := by
  induction cs with
  | nil => rw [substitute]
  | cons c cs ih =>
    have hnone := Text.after?_eq_none h
    rw [Text.occursIn, Bool.or_eq_false_iff] at h
    rw [substitute]
    split
    next => rw [ih h.2]
    next inside hin =>
      rw [hnone] at hin
      cases hin

theorem substituteText_plain (values : Dict String) {s : String}
    (h : Text.occursIn Reference.opening s.toList = false) : substituteText values s = s := by
  rw [substituteText, Reference.substitute_plain _ h, String.ofList_toList]

/-- The same, where the opening is said to be no part of the text. -/
theorem substituteText_unopened (values : Dict String) {s : String} (h : ¬ Reference.opening <:+: s.toList) :
    substituteText values s = s := by
  rw [← Text.occursIn_iff_infix, Bool.not_eq_true] at h
  exact substituteText_plain values h

theorem Workflow.rewriteText_eq (w : Workflow) : w.rewriteText = substituteText w.bindings := by
  funext s
  unfold rewriteText
  split
  next => rfl
  next h => rw [substituteText_plain _ (by simpa using h)]

/-! ## 2. Parts of steps -/

section Parts

variable (f : String → String)

@[simp] theorem GuestOsFeature.mapTexts_toJson (g : GuestOsFeature) : g.toJson.mapTexts f = (g.mapText f).toJson := by
  simp [toJson, mapText]

theorem Disk.rewriteMembers_members (d : Disk) : rewriteMembers f d.members = (d.mapText f).members := by
  simp [members, mapText]

theorem Image.rewriteMembers_members (i : Image) : rewriteMembers f i.members = (i.mapText f).members := by
  simp [members, mapText]

@[simp] theorem WorkflowDisk.mapTexts_toJson (d : WorkflowDisk) : d.toJson.mapTexts f = (d.mapText f).toJson := by
  simp [toJson, mapText, Disk.rewriteMembers_members]

@[simp] theorem WorkflowImage.mapTexts_toJson (i : WorkflowImage) : i.toJson.mapTexts f = (i.mapText f).toJson := by
  simp [toJson, mapText, Image.rewriteMembers_members]

@[simp] theorem AttachedDisk.mapTexts_toJson (d : AttachedDisk) : d.toJson.mapTexts f = (d.mapText f).toJson := by
  simp [toJson, mapText]

@[simp] theorem WorkflowInstance.mapTexts_toJson (i : WorkflowInstance) :
    i.toJson.mapTexts f = (i.mapText f).toJson := by
  simp [toJson, mapText]

@[simp] theorem SerialOutputSignal.mapTexts_toJson (s : SerialOutputSignal) :
    s.toJson.mapTexts f = (s.mapText f).toJson := by
  simp [toJson, mapText]

@[simp] theorem InstanceSignal.mapTexts_toJson (s : InstanceSignal) : s.toJson.mapTexts f = (s.mapText f).toJson := by
  simp [toJson, mapText]

@[simp] theorem DeleteResources.mapTexts_toJson (r : DeleteResources) : r.toJson.mapTexts f = (r.mapText f).toJson := by
  simp [toJson, mapText]

@[simp] theorem IncludeWorkflow.mapTexts_toJson (i : IncludeWorkflow) : i.toJson.mapTexts f = (i.mapText f).toJson := by
  simp [toJson, mapText]

namespace WorkflowStep

@[simp] theorem kind_mapText (s : WorkflowStep) : (s.mapText f).kind = s.kind := by
  cases s <;> rfl

/-- **A step that is written and rewritten is the step with its texts rewritten.** -/
@[simp] theorem mapTexts_toJson (s : WorkflowStep) : s.toJson.mapTexts f = (s.mapText f).toJson := by
  have hcontent : s.content.mapTexts f = (s.mapText f).content := by
    cases s <;> simp [content, mapText]
  simp [toJson, hcontent]

/-- A step none of whose texts is changed stays what it is. -/
theorem mapText_eq_self {f : String → String} {s : WorkflowStep} (h : ∀ text ∈ s.toJson.texts, f text = text) :
    s.mapText f = s := by
  have hwritten : (s.mapText f).toJson = s.toJson := by rw [← mapTexts_toJson, mapTexts_eq_self _ h]
  have hread := congrArg (ofJson? 5) hwritten
  rw [ofJson?_toJson (Nat.le_refl 5), ofJson?_toJson (Nat.le_refl 5)] at hread
  exact Option.some.inj hread

end WorkflowStep

end Parts

/-! ## 3. What names stand for -/

namespace Dict

variable {α β : Type}

theorem find?_map (f : α → β) (d : Dict α) (key : String) : (d.map f).find? key = (d.find? key).map f := by
  simp [find?, map, List.find?_map, Function.comp_def]

/-- **What is put in is found**, and nothing else is found differently. -/
theorem find?_insert (d : Dict α) (key : String) (value : α) (name : String) :
    (d.insert key value).find? name = if name = key then some value else d.find? name := by
  have hentries : ∀ es : List (String × α), ((insertEntry key value es).find? fun e => e.1 == name) =
      if name = key then some (key, value) else es.find? fun e => e.1 == name := by
    intro es
    induction es with
    | nil =>
      by_cases h : name = key
      · simp [insertEntry, h]
      · simp [insertEntry, h, Ne.symm h]
    | cons e es ih =>
      obtain ⟨k, v⟩ := e
      rw [insertEntry]
      split
      next hlt =>
        by_cases h : name = key
        · simp [h]
        · simp [h, Ne.symm h]
      next hnlt =>
        split
        next hlt =>
          have hne : k ≠ key := String.ne_of_lt hlt
          by_cases h : k = name
          · subst h
            simp [hne]
          · simp [h, ih]
        next hnlt' =>
          obtain rfl := eq_of_not_lt hnlt hnlt'
          by_cases h : name = key
          · simp [h]
          · simp [h, Ne.symm h]
  rw [find?, insert, hentries]
  split <;> rfl

theorem map_eq_self {f : α → α} {d : Dict α} (h : ∀ e ∈ d.entries, f e.2 = e.2) : d.map f = d := by
  have hentries : d.entries.map (fun e => (e.1, f e.2)) = d.entries := calc
    d.entries.map (fun e => (e.1, f e.2)) = d.entries.map id := List.map_congr_left fun e he => Prod.ext rfl (h e he)
    _ = d.entries := List.map_id _
  simp [map, hentries]

end Dict

namespace Workflow

/-- **What a name stands for** in a workflow: its own name, project or zone, or else a variable. -/
inductive Resolves (w : Workflow) : String → String → Prop where
  | name : Resolves w "NAME" w.name
  | project {project : String} (h : w.project = some project) : Resolves w "PROJECT" project
  | zone {zone : String} (h : w.zone = some zone) : Resolves w "ZONE" zone
  | variable {name : String} {spec : VarSpec} (h : w.vars.find? name = some spec) (hname : name ≠ "NAME")
      (hproject : name = "PROJECT" → w.project = none) (hzone : name = "ZONE" → w.zone = none) :
      Resolves w name spec.text

theorem find?_bindings_iff (w : Workflow) (name value : String) :
    w.bindings.find? name = some value ↔ w.Resolves name value := by
  have hfound : w.bindings.find? name =
      if name = "ZONE" ∧ w.zone.isSome then w.zone
      else if name = "PROJECT" ∧ w.project.isSome then w.project
      else if name = "NAME" then some w.name
      else (w.vars.find? name).map VarSpec.text := by
    unfold bindings
    cases w.zone <;> cases w.project <;> simp [Dict.find?_insert, Dict.find?_map]
  rw [hfound]
  constructor
  · intro h
    split at h
    next hzone =>
      rw [hzone.1]
      exact .zone h
    next hzone =>
      split at h
      next hproject =>
        rw [hproject.1]
        exact .project h
      next hproject =>
        split at h
        next hname =>
          rw [hname, ← Option.some.inj h]
          exact .name
        next hname =>
          obtain ⟨spec, hspec, rfl⟩ := Option.map_eq_some_iff.mp h
          refine .variable hspec hname (fun hn => ?_) fun hn => ?_
          · simpa [hn] using hproject
          · simpa [hn] using hzone
  · rintro (_ | h | h | ⟨h, hname, hproject, hzone⟩)
    · simp
    · simp [h]
    · simp [h]
    · have hnozone : ¬ (name = "ZONE" ∧ w.zone.isSome = true) := by
        rintro ⟨hn, hsome⟩
        simp [hzone hn] at hsome
      have hnoproject : ¬ (name = "PROJECT" ∧ w.project.isSome = true) := by
        rintro ⟨hn, hsome⟩
        simp [hproject hn] at hsome
      rw [if_neg hnozone, if_neg hnoproject, if_neg hname, h]
      rfl

end Workflow

/-! ## 4. Workflows -/

namespace Workflow

variable {w w' : Workflow}

/-- **Replacing the references never fails**, and it is done text by text. -/
theorem rewrite_eq (w : Workflow) : w.rewrite = .ok w.substitute := by
  have hstep : ∀ s : WorkflowStep, WorkflowStep.ofJson? documentRoom s.toJson = some s :=
    WorkflowStep.ofJson?_toJson (by decide)
  have hsteps : (dict WorkflowStep.toJson w.steps).mapTexts w.rewriteText =
      dict WorkflowStep.toJson (w.steps.map (·.mapText (substituteText w.bindings))) := by
    rw [rewriteText_eq]
    simp
  rw [rewrite, hsteps, toDict?_dict hstep]
  rfl

theorem build_eq (w : Workflow) : w.build = w.substitute.validate.map fun () => w.substitute := by
  rw [build, rewrite_eq]

/-- **A workflow with its references replaced.** -/
structure Substituted (w w' : Workflow) : Prop where
  /-- Nothing but the steps changes. -/
  others : w' = { w with steps := w'.steps }
  /-- The steps have the names they had. -/
  names : w'.steps.keys = w.steps.keys
  /-- A step is of the kind it was, and every text in it is substituted with what names stand for: the document it makes
  up keeps its shape. -/
  leaves : ∃ values : Dict String, (∀ name value, values.find? name = some value ↔ Resolves w name value) ∧
    ∀ name step', w'.steps.find? name = some step' → ∃ step, w.steps.find? name = some step ∧
      step'.kind = step.kind ∧ step' = step.mapText (substituteText values) ∧
      Leafwise (substituteText values) step.toJson step'.toJson
  /-- Without an opening in any of its texts a workflow stays what it is. -/
  plain : (∀ name step, w.steps.find? name = some step → ∀ text ∈ step.toJson.texts,
    ¬ Reference.opening <:+: text.toList) → w' = w

theorem substitute_plain (h : ∀ e ∈ w.steps.entries, ∀ text ∈ e.2.toJson.texts, ¬ Reference.opening <:+: text.toList) :
    w.substitute = w := by
  have hstep : ∀ e ∈ w.steps.entries, e.2.mapText (substituteText w.bindings) = e.2 := by
    intro e he
    exact WorkflowStep.mapText_eq_self fun text htext => substituteText_unopened _ (h e he text htext)
  rw [substitute, Dict.map_eq_self hstep]

/-- **The references of a workflow are replaced text by text**: this never fails, each text in the document of a step is
substituted, and nothing else in the workflow is touched. -/
theorem rewrite_leafwise (w : Workflow) : ∃ w', w.rewrite = .ok w' ∧ Substituted w w' := by
  refine ⟨w.substitute, rewrite_eq w, rfl, Dict.keys_map _ _, ⟨w.bindings, find?_bindings_iff w, ?_⟩, fun h => ?_⟩
  · intro name step' hstep'
    have hfound : (w.steps.find? name).map (·.mapText (substituteText w.bindings)) = some step' := by
      rw [← Dict.find?_map]
      exact hstep'
    obtain ⟨step, hstep, rfl⟩ := Option.map_eq_some_iff.mp hfound
    refine ⟨step, hstep, WorkflowStep.kind_mapText _ step, rfl, ?_⟩
    rw [← WorkflowStep.mapTexts_toJson]
    exact leafwise_mapTexts _ _
  · exact substitute_plain fun e he => h e.1 e.2 (Dict.find?_eq_some_iff.mpr he)

end Workflow

end ImageImport
