import PageServer.Files.Change
/-! Trees whose files are texts. Changes that write only texts keep them so, whether they succeed or
stop on the way. -/
namespace PageServer.Files

open Text

/-- A file is a text if its bytes are UTF-8; a directory has no bytes. -/
def Node.IsText : Node → Prop
  | .file bytes => ∃ s, decodeUtf8 bytes = .ok s
  | .directory => True

def Tree.IsText (tree : Tree) : Prop :=
  ∀ entry ∈ tree.nodes, entry.2.IsText

namespace Tree.IsText

variable {tree : Tree}

theorem node (text : tree.IsText) {place : Place} {node : Node}
    (found : tree.node? place = some node) : node.IsText := by
  unfold node? at found
  split at found
  · cases found
    trivial
  · rw [List.lookup_eq_some_iff] at found
    obtain ⟨front, back, nodes, _⟩ := found
    exact text (place, node) (nodes ▸ List.mem_append_right front List.mem_cons_self)

theorem set (text : tree.IsText) (place : Place) {node : Node} (written : node.IsText) :
    (tree.set place node).IsText := by
  intro entry member
  rcases List.mem_cons.mp member with rfl | kept
  · exact written
  · exact text entry (List.mem_filter.mp kept).1

theorem unset (text : tree.IsText) (place : Place) : (tree.unset place).IsText := by
  intro entry member
  exact text entry (List.mem_filter.mp member).1

theorem makeDirectory (text : tree.IsText) {path : PathName} {next : Tree}
    (made : tree.makeDirectory path = .ok next) : next.IsText := by
  unfold Tree.makeDirectory at made
  split at made
  · cases made
    exact text.set _ trivial
  · cases made
    exact text
  · cases made
  · cases made

theorem makeDirectories (depth : Nat) (text : tree.IsText) (path : PathName) :
    (tree.makeDirectories depth path).1.IsText := by
  -- By the number of directories that may be missing: those above are made first, and the last one
  -- is then made in the tree that they leave.
  induction depth generalizing tree path with
  | zero => exact text
  | succ depth ih =>
      unfold Tree.makeDirectories
      dsimp only
      split
      · have above := ih text ⟨path.slashes, path.parts.dropLast⟩
        split
        · rename_i stopped
          rw [stopped] at above
          split
          · rename_i made
            exact above.makeDirectory made
          · exact above
        · exact above
      · split
        · rename_i made
          exact text.makeDirectory made
        · exact text

theorem writeFile (text : tree.IsText) (path : PathName) {bytes : List UInt8}
    (written : (Node.file bytes).IsText) : (tree.writeFile path bytes).1.IsText := by
  have above := text.makeDirectories
    ((⟨path.slashes, path.parts.dropLast⟩ : PathName).parts.length + 1)
    ⟨path.slashes, path.parts.dropLast⟩
  unfold Tree.writeFile Tree.addDirectory
  split
  · rename_i made
    rw [made] at above
    split
    · exact above.set _ written
    · exact above.set _ written
    · exact above
    · exact above
  · exact above

theorem write (text : tree.IsText) (path : PathName) {node : Node} (written : node.IsText) :
    (tree.write path node).1.IsText := by
  cases node with
  | file bytes => exact text.writeFile path written
  | directory => exact text.makeDirectories _ path

theorem removeFile (text : tree.IsText) (path : PathName) : (tree.removeFile path).1.IsText := by
  unfold Tree.removeFile
  split
  · exact text.unset _
  · exact text
  · exact text
  · exact text

end Tree.IsText

end PageServer.Files
