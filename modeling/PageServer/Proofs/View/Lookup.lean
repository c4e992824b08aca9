import PageServer.Proofs.Files.Text
import PageServer.Proofs.View.StartupCheck
/-! The view's own template. Looking a view up comes down to the file at the template's path: there
is none, or it holds a text, or it holds bytes that are no text. -/
namespace PageServer.Resolver

open Files Template Text

variable {r : Resolver} {tree : Tree} {view : String} {bytes : List UInt8}

/-- The view's own template is a file with these bytes: its name stays below the directory, and its
path leads to the file. -/
structure Holds (r : Resolver) (tree : Tree) (view : String) (bytes : List UInt8) : Prop where
  straight : dotDot ∉ components (r.templateName view).toList
  file : tree.find (r.templatePath view) = .ok (.file bytes)

/-- The view has a template, whatever bytes it has. -/
def Has (r : Resolver) (tree : Tree) (view : String) : Prop :=
  ∃ bytes, r.Holds tree view bytes

theorem Holds.unique {others : List UInt8} (holds : r.Holds tree view bytes)
    (again : r.Holds tree view others) : bytes = others := by
  have same := holds.file.symm.trans again.file
  cases same
  rfl

theorem nameParts_of_straight (straight : dotDot ∉ components (r.templateName view).toList) :
    nameParts? (r.templateName view).toList = some (properParts (r.templateName view).toList) := by
  unfold nameParts?
  rw [if_neg (by simpa using straight)]
  rfl

theorem sourceOf_of_holds (holds : r.Holds tree view bytes) :
    sourceOf tree r.templatesDir (r.templateName view) =
      ((decodeUtf8 bytes).mapError .undecodable).map unifyLineEnds := by
  have file : tree.fileBytes? (filePath r.templatesDir.toList
      (properParts (r.templateName view).toList)) = some bytes := by
    have found := holds.file
    unfold templatePath at found
    simp only [Tree.fileBytes?, found]
  unfold sourceOf fileOf
  rw [nameParts_of_straight holds.straight]
  simp only [file, bind, Except.bind]

theorem sourceOf_of_lacking (lacking : ¬ r.Has tree view) :
    ∃ message, sourceOf tree r.templatesDir (r.templateName view) = .error (.notFound message) := by
  unfold sourceOf fileOf
  by_cases straight : dotDot ∈ components (r.templateName view).toList
  · have refused : nameParts? (r.templateName view).toList = none := by
      unfold nameParts?
      rw [if_pos (by simpa using straight)]
    rw [refused]
    exact ⟨_, rfl⟩
  · rw [nameParts_of_straight straight]
    dsimp only
    cases found : tree.fileBytes? (filePath r.templatesDir.toList
        (properParts (r.templateName view).toList)) with
    | none => exact ⟨_, rfl⟩
    | some bytes =>
        unfold Tree.fileBytes? at found
        split at found
        · rename_i there
          exact absurd ⟨_, straight, there⟩ lacking
        · cases found

/-! Whether a view is there -/

theorem hasView_of_lacking (lacking : ¬ r.Has tree view) : r.hasView tree view = .ok false := by
  obtain ⟨message, missing⟩ := sourceOf_of_lacking lacking
  simp only [hasView, missing]

theorem hasView_of_holds (holds : r.Holds tree view bytes) (text : (Node.file bytes).IsText) :
    r.hasView tree view = .ok true := by
  obtain ⟨s, decoded⟩ := text
  have source := sourceOf_of_holds holds
  rw [decoded] at source
  simp only [hasView, source, Except.mapError, Except.map]

theorem hasView_of_unreadable (holds : r.Holds tree view bytes)
    (bare : ¬ (Node.file bytes).IsText) :
    ∃ fault, decodeUtf8 bytes = .error fault ∧
      r.hasView tree view = .error (.other "UnicodeDecodeError" fault.message) := by
  cases decoded : decodeUtf8 bytes with
  | ok s => exact absurd ⟨s, decoded⟩ bare
  | error fault =>
      have source := sourceOf_of_holds holds
      rw [decoded] at source
      refine ⟨fault, rfl, ?_⟩
      simp only [hasView, source, Except.mapError, Except.map]
      rfl

end PageServer.Resolver
