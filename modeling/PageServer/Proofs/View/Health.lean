import PageServer.Health.Check
import PageServer.Proofs.Files.Text
import PageServer.Proofs.Template.Cache
import PageServer.Proofs.View.Markup
/-! The health check as a whole: what it says once every view is known to have a template or none,
and how it fails otherwise. -/
namespace PageServer

open Files Template

/-! Templates that are texts -/

section Texts

variable {tree : Tree}

/-- Where all files are texts, a template without a source is one that is not there. -/
theorem Template.sourceOf_of_text (text : tree.IsText) (directory name : String) :
    (∃ source, sourceOf tree directory name = .ok source) ∨
      ∃ message, sourceOf tree directory name = .error (.notFound message) := by
  unfold sourceOf fileOf
  cases nameParts? name.toList with
  | none => exact .inr ⟨_, rfl⟩
  | some parts =>
      cases found : tree.fileBytes? (filePath directory.toList parts) with
      | none => exact .inr ⟨_, by simp only [found]; rfl⟩
      | some bytes =>
          have file : tree.find (filePath directory.toList parts) = .ok (.file bytes) := by
            unfold Tree.fileBytes? at found
            split at found
            · cases found
              assumption
            · cases found
          obtain ⟨s, decodes⟩ := text.node (Tree.find_ok_iff.mp file).2
          refine .inl ⟨Text.unifyLineEnds s, ?_⟩
          simp only [found, bind, Except.bind, decodes]
          rfl

theorem Resolver.hasView_of_text (r : Resolver) (text : tree.IsText) (view : String) :
    ∃ found, r.hasView tree view = .ok found := by
  rcases sourceOf_of_text text r.templatesDir (r.templateName view) with
    ⟨source, read⟩ | ⟨message, absent⟩
  · exact ⟨true, by simp only [hasView, read]⟩
  · exact ⟨false, by simp only [hasView, absent]⟩

end Texts

namespace Health

variable (r : Resolver) (tree : Tree) (views : List String)

/-- A survey of views that can all be looked for tells which of them are there, and has an entry for
each of the others, both in their order. -/
theorem survey_of_found (found : String → Bool)
    (looked : ∀ view ∈ views, r.hasView tree view = .ok (found view)) :
    survey r tree views = ⟨.ok (views.map fun view => (view, found view)),
      (views.filter fun view => !found view).map missingEntry⟩ := by
  induction views with
  | nil => rfl
  | cons view rest ih =>
      have others := ih fun other member => looked other (List.mem_cons_of_mem view member)
      have here := looked view List.mem_cons_self
      unfold survey
      rw [here, others]
      cases there : found view <;> simp [Except.map, there]

theorem hasView_error {view : String} {failure : Failure}
    (failed : r.hasView tree view = .error failure) : ∃ kind text, failure = .other kind text := by
  unfold Resolver.hasView at failed
  split at failed
  · cases failed
  · cases failed
  · rename_i fault _ _
    cases failed
    exact ⟨fault.kind, fault.message, rfl⟩

theorem survey_error {failure : Failure} (failed : (survey r tree views).result = .error failure) :
    ∃ kind text, failure = .other kind text := by
  induction views with
  | nil => cases failed
  | cons view rest ih =>
      unfold survey at failed
      cases here : r.hasView tree view with
      | error fault =>
          simp only [here, Except.error.injEq] at failed
          subst failed
          exact hasView_error r tree here
      | ok found =>
          rw [here] at failed
          apply ih
          cases others : (survey r tree rest).result with
          | ok states => simp [others, Except.map] at failed
          | error reason => simpa [others, Except.map] using failed

variable {τ : Type} [Clock τ] (start now : τ)

/-- A health check answers with a report, or fails in a way that no handler knows. -/
theorem answer_cases :
    (∃ kind text, (answer r tree views start now).result = .error (.other kind text)) ∨
      ∃ document, (answer r tree views start now).result =
        .ok (Http.jsonResponse 200 [] document) := by
  unfold answer
  dsimp only
  cases surveyed : (survey r tree views).result with
  | error failure =>
      obtain ⟨kind, text, rfl⟩ := survey_error r tree views surveyed
      exact .inl ⟨kind, text, rfl⟩
  | ok states =>
      cases Clock.elapsed now start with
      | error fault => cases fault <;> exact .inl ⟨_, _, rfl⟩
      | ok uptime =>
          dsimp only [bind, Except.bind, mapError_ok, respond]
          split
          · exact .inr ⟨_, rfl⟩
          · exact .inl ⟨_, _, rfl⟩

/-! Reports -/

section Reports

variable (found : String → Bool) (uptime : Float)

theorem stateOf_eq_missing (there : Bool) : stateOf there = "missing" ↔ there = false := by
  cases there <;> decide

theorem stateOf_eq_available (there : Bool) : stateOf there = "available" ↔ there = true := by
  cases there <;> decide

/-- The report on views of which it is known whether they are there. -/
def reportOf (views : List String) (found : String → Bool) (uptime : Float) : HealthReport :=
  report (views.map fun view => (view, found view)) uptime

theorem views_reportOf :
    (reportOf views found uptime).views = views.map fun view => (view, stateOf (found view)) := by
  simp only [reportOf, report, List.map_map]
  rfl

theorem mem_views_reportOf (view state : String) :
    (view, state) ∈ (reportOf views found uptime).views ↔
      view ∈ views ∧ stateOf (found view) = state := by
  rw [views_reportOf, List.mem_map]
  constructor
  · rintro ⟨other, member, same⟩
    cases same
    exact ⟨member, rfl⟩
  · rintro ⟨member, rfl⟩
    exact ⟨view, member, rfl⟩

theorem healthy_reportOf :
    (reportOf views found uptime).status = "healthy" ↔
      ∀ view, (view, "missing") ∉ (reportOf views found uptime).views := by
  have word (all : Bool) : (if all then "healthy" else "degraded") = "healthy" ↔ all = true := by
    cases all <;> decide
  simp only [mem_views_reportOf, stateOf_eq_missing]
  unfold reportOf report
  dsimp only
  rw [word, List.all_eq_true]
  constructor
  · rintro all view ⟨member, gone⟩
    have there := all (view, found view) (List.mem_map.mpr ⟨view, member, rfl⟩)
    rw [gone] at there
    cases there
  · intro none_gone entry member
    obtain ⟨view, listed, rfl⟩ := List.mem_map.mp member
    by_contra gone
    exact none_gone view ⟨listed, by simpa using gone⟩

theorem status_reportOf : (reportOf views found uptime).status = "healthy" ∨
    (reportOf views found uptime).status = "degraded" := by
  unfold reportOf report
  dsimp only
  split
  · exact .inl rfl
  · exact .inr rfl

end Reports

/-- Where every view can be looked for and the time can be stated, the check answers with its
report. -/
theorem answer_of_found {found : String → Bool}
    (looked : ∀ view ∈ views, r.hasView tree view = .ok (found view)) {uptime : Float}
    {finite : Numeral.Binary} (elapsed : Clock.elapsed now start = .ok uptime)
    (stated : Numeral.valueOf uptime = .finite finite) :
    (answer r tree views start now).result =
      .ok (Http.jsonResponse 200 [] (reportOf views found uptime).document) := by
  have surveyed := survey_of_found r tree views found looked
  simp only [answer, surveyed, elapsed, bind, Except.bind, mapError_ok, respond]
  split
  · rfl
  · rename_i infinite
    exact absurd stated (infinite finite)

end Health

end PageServer
