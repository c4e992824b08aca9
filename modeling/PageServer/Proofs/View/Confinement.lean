import PageServer.Proofs.Files.Lookup
import PageServer.Proofs.View.Templates
/-! Nothing outside the directory of templates is read. A template's name either is refused or leads
downwards, so trees in which the same lies below the directory have the same templates, whatever
else they hold. -/
namespace PageServer

open Files Template

namespace Files.Tree

variable {tree tree' : Tree}

/-! Ways down -/

/-- Components that each lead one step down. -/
def Downward (names : List Name) : Prop :=
  ∀ name ∈ names, isProper name ∧ name ≠ dotDot

theorem follow_down {names : List Name} (down : Downward names) (place : Place) :
    follow place names = place ++ names := by
  induction names generalizing place with
  | nil => exact (List.append_nil place).symm
  | cons name rest ih =>
      obtain ⟨proper, straight⟩ := down name List.mem_cons_self
      have others : Downward rest := fun other member => down other (.tail _ member)
      have deeper := ih others (place ++ [name])
      rw [List.append_assoc, List.singleton_append] at deeper
      unfold follow
      rwa [proper, Bool.not_true, if_neg Bool.false_ne_true, if_neg straight]

/-- The same lies at and below a place. -/
def SameFrom (place : Place) (tree tree' : Tree) : Prop :=
  ∀ below, tree.node? (place ++ below) = tree'.node? (place ++ below)

theorem SameFrom.deeper {place : Place} (same : SameFrom place tree tree') (name : Name) :
    SameFrom (place ++ [name]) tree tree' := by
  intro below
  rw [List.append_assoc]
  exact same ([name] ++ below)

theorem SameFrom.here {place : Place} (same : SameFrom place tree tree') :
    tree.node? place = tree'.node? place := by
  have itself := same []
  rwa [List.append_nil] at itself

theorem enter_same {place : Place} {name : Name} (same : SameFrom place tree tree') :
    tree.enter place name = tree'.enter place name := by
  unfold enter
  rw [same.here, same [name]]

-- By the components: each one leads to a place from which the same lies.
theorem walk_down {names : List Name} (down : Downward names) {place : Place}
    (same : SameFrom place tree tree') : tree.walk place names = tree'.walk place names := by
  induction names generalizing place with
  | nil => rfl
  | cons name rest ih =>
      obtain ⟨proper, straight⟩ := down name List.mem_cons_self
      have others : Downward rest := fun other member => down other (.tail _ member)
      rw [walk_cons, walk_cons, enter_same same]
      cases entered : tree'.enter place name with
      | error fault => rfl
      | ok next =>
          have below := enter_ok entered
          rw [proper, Bool.not_true, if_neg Bool.false_ne_true, if_neg straight] at below
          rw [below]
          exact ih others (same.deeper name)

/-! Directories -/

/-- What lies at a place below the directory that a path leads to, if it leads to one. -/
def below (tree : Tree) (path : List Char) (place : Place) : Option Node :=
  match tree.find path with
  | .ok .directory => tree.node? (target path ++ place)
  | _ => none

/-- The same lies below the directory that a path leads to. Where the path leads to a file, it is
the same file. What lies elsewhere does not matter, nor does it matter how the path gets there. -/
structure SameBelow (path : List Char) (tree tree' : Tree) : Prop where
  below : ∀ place, place ≠ [] → tree.below path place = tree'.below path place
  itself : ∀ bytes, tree.find path = .ok (.file bytes) ↔ tree'.find path = .ok (.file bytes)

theorem SameBelow.symm {path : List Char} (same : SameBelow path tree tree') :
    SameBelow path tree' tree where
  below place inside := (same.below place inside).symm
  itself bytes := (same.itself bytes).symm

theorem find_ok_iff_target {path : List Char} {node : Node} :
    tree.find path = .ok node ↔ Usable path ∧
      tree.walk (startOf path) (components path) = .ok (target path) ∧
      tree.node? (target path) = some node := by
  rw [find_ok_iff_walk]
  constructor
  · rintro ⟨usable, place, walked, there⟩
    have reached : place = target path := walk_ok walked
    subst reached
    exact ⟨usable, walked, there⟩
  · rintro ⟨usable, walked, there⟩
    exact ⟨usable, _, walked, there⟩

section Below

variable {path : List Char} {parts : List Name} (filled : path ≠ []) (goes : parts ≠ [])
  (down : Downward parts) (whole : ∀ part ∈ parts, '/' ∉ part)
include filled goes down whole

/-- What is found below a path is found on the way down from the directory it leads to. -/
theorem find_filePath_iff (node : Node) :
    tree.find (filePath path parts) = .ok node ↔ Usable (filePath path parts) ∧
      tree.find path = .ok .directory ∧
      tree.walk (target path) parts = .ok (target path ++ parts) ∧
      tree.node? (target path ++ parts) = some node := by
  have proper : ∀ part ∈ parts, isProper part := fun part member => (down part member).1
  have starts : startOf (filePath path parts) = startOf path := by
    obtain ⟨rest, both⟩ := prefix_filePath path parts
    cases path with
    | nil => exact absurd rfl filled
    | cons c others => rw [← both]; rfl
  have named : properParts (filePath path parts) = properParts path ++ parts :=
    congrArg PathName.parts (PathName.ofPath_filePath filled proper whole)
  constructor
  · intro found
    have above := directory_of_below filled goes proper whole found
    obtain ⟨usable, place, walked, there⟩ := find_ok_iff_walk.mp found
    have both := walk_proper walked
    rw [← properParts, named, starts] at both
    obtain ⟨between, first, last⟩ := walk_append_ok.mp both
    -- Both ways to the directory lead to the same place.
    have root : between = target path := by
      have direct := walk_proper (find_ok_iff_target.mp above).2.1
      rw [← properParts, first] at direct
      exact Except.ok.inj direct
    subst root
    have place_below := walk_ok last
    rw [follow_down down] at place_below
    subst place_below
    exact ⟨usable, above, last, there⟩
  · rintro ⟨usable, above, last, there⟩
    have first := walk_proper (find_ok_iff_target.mp above).2.1
    obtain ⟨front, name, split, ends⟩ := endsProper_filePath path goes proper whole
    have both : tree.walk (startOf (filePath path parts)) (properParts (filePath path parts)) =
        .ok (target path ++ parts) := by
      rw [named, starts]
      exact walk_append_ok.mpr ⟨_, first, last⟩
    rw [properParts, split] at both
    have walked := walk_of_proper_last ends both
    rw [← split] at walked
    exact find_ok_iff_walk.mpr ⟨usable, _, walked, there⟩

theorem SameBelow.find_filePath (same : SameBelow path tree tree') {node : Node}
    (found : tree.find (filePath path parts) = .ok node) :
    tree'.find (filePath path parts) = .ok node := by
  obtain ⟨usable, above, walked, there⟩ :=
    (find_filePath_iff filled goes down whole _).mp found
  have inside := same.below parts goes
  have above' : tree'.find path = .ok .directory := by
    -- Something lies below it there as well.
    simp only [Tree.below, above, there] at inside
    split at inside
    · assumption
    · cases inside
  have root : SameFrom (target path) tree tree' := by
    intro below
    by_cases itself : below = []
    · rw [itself, List.append_nil, (find_ok_iff_target.mp above).2.2,
        (find_ok_iff_target.mp above').2.2]
    · have deeper := same.below below itself
      simpa only [Tree.below, above, above'] using deeper
  refine (find_filePath_iff filled goes down whole _).mpr ⟨usable, above', ?_, ?_⟩
  · rw [← walk_down down root, walked]
  · rw [← root parts, there]

end Below

theorem SameBelow.fileBytes? {path : List Char} {parts : List Name} (filled : path ≠ [])
    (down : Downward parts) (whole : ∀ part ∈ parts, '/' ∉ part)
    (same : SameBelow path tree tree') :
    tree.fileBytes? (filePath path parts) = tree'.fileBytes? (filePath path parts) := by
  have found (bytes : List UInt8) : tree.find (filePath path parts) = .ok (.file bytes) ↔
      tree'.find (filePath path parts) = .ok (.file bytes) := by
    by_cases goes : parts = []
    · -- The name leads to the directory itself, which may be a file.
      rw [goes]
      exact same.itself bytes
    · constructor
      · exact same.find_filePath filled goes down whole
      · exact same.symm.find_filePath filled goes down whole
  have held (tree : Tree) (bytes : List UInt8) :
      tree.fileBytes? (filePath path parts) = some bytes ↔
      tree.find (filePath path parts) = .ok (.file bytes) := by
    unfold Tree.fileBytes?
    split
    · simp [*]
    · rename_i other
      simpa using other bytes
  ext bytes
  rw [held, held, found]

end Files.Tree

/-! Templates -/

section Templates

variable {directory : String} {tree tree' : Tree}

theorem down_of_nameParts {name : List Char} {parts : List Name}
    (named : nameParts? name = some parts) :
    Tree.Downward parts ∧ ∀ part ∈ parts, '/' ∉ part := by
  unfold nameParts? at named
  dsimp only at named
  split at named
  · cases named
  · rename_i straight
    cases named
    constructor
    · intro part member
      obtain ⟨among, proper⟩ := List.mem_filter.mp member
      refine ⟨proper, ?_⟩
      rintro rfl
      exact straight (List.contains_iff_mem.mpr among)
    · intro part member
      exact slash_not_mem_of_mem member

theorem sameTemplates_of_sameBelow (filled : directory ≠ "")
    (same : Tree.SameBelow directory.toList tree tree') : SameTemplates directory tree tree' := by
  intro name
  have some_path : directory.toList ≠ [] := mt String.toList_eq_nil_iff.mp filled
  have file : fileOf tree directory name = fileOf tree' directory name := by
    unfold fileOf
    cases named : nameParts? name.toList with
    | none => rfl
    | some parts =>
        obtain ⟨down, whole⟩ := down_of_nameParts named
        dsimp only
        rw [same.fileBytes? some_path down whole]
  unfold sourceOf
  rw [file]

/-- The sources that are kept were read in a directory. -/
def Template.Cache.Within (directory : String) (cache : Cache) : Prop :=
  ∀ entry ∈ cache, pathOf? directory entry.1 = some entry.2.path

/-- Where a directory is there in both trees and the same lies below it, its templates bear the same
marks if all places do. -/
theorem markAt?_same {files files' : MarkedTree} (filled : directory ≠ "")
    (same : Tree.SameBelow directory.toList files.tree files'.tree)
    (above : files.tree.find directory.toList = .ok .directory)
    (above' : files'.tree.find directory.toList = .ok .directory)
    (marks : files.mark = files'.mark) {name : String} {path : List Char}
    (known : pathOf? directory name = some path) : files.markAt? path = files'.markAt? path := by
  obtain ⟨parts, named, rfl⟩ := Option.map_eq_some_iff.mp known
  obtain ⟨down, whole⟩ := down_of_nameParts named
  have some_path : directory.toList ≠ [] := mt String.toList_eq_nil_iff.mp filled
  have found : (files.tree.find (filePath directory.toList parts)).toOption =
      (files'.tree.find (filePath directory.toList parts)).toOption := by
    by_cases goes : parts = []
    · subst goes
      rw [show filePath directory.toList [] = directory.toList from rfl, above, above']
    · ext node
      rw [toOption_eq_some_iff, toOption_eq_some_iff]
      exact ⟨same.find_filePath some_path goes down whole,
        same.symm.find_filePath some_path goes down whole⟩
  rw [markAt?_eq, markAt?_eq, found, marks]

/-- The same lies below a directory, with the same marks on the files of templates, and the same
sources are kept, which were read there. -/
structure Store.SameBelow (directory : String) (store store' : Store) : Prop where
  files : Tree.SameBelow directory.toList store.tree store'.tree
  marks : ∀ name path, pathOf? directory name = some path →
    store.files.markAt? path = store'.files.markAt? path
  cache : store.cache = store'.cache
  kept : store.cache.Within directory

section Kept

variable {files files' : MarkedTree} {language : Language}
  (templates : SameTemplates directory files.tree files'.tree)
  (marks : ∀ name path, pathOf? directory name = some path →
    files.markAt? path = files'.markAt? path)

include templates marks in
theorem reload_same (cache : Cache) (name : String) :
    cache.reload language files directory name = cache.reload language files' directory name := by
  have kept (source : List Char) :
      cache.keep files directory name source = cache.keep files' directory name source := by
    unfold Cache.keep
    cases known : pathOf? directory name with
    | none => rfl
    | some path => simp only [Option.bind_some, marks name path known]
  simp only [Cache.reload, load_congr templates language, kept]

include templates marks in
/-- With the same sources kept, a template is fetched alike, and the same is kept afterwards. -/
theorem fetch_same {cache : Cache} (within : cache.Within directory) (name : String) :
    cache.fetch language files directory name = cache.fetch language files' directory name := by
  unfold Cache.fetch
  cases found : cache.lookup name with
  | none => exact reload_same templates marks cache name
  | some kept =>
      have current : kept.isCurrent files = kept.isCurrent files' := by
        simp only [Kept.isCurrent, marks _ _ (within _ (Cache.mem_of_lookup found))]
      simp only [current, reload_same templates marks]

theorem within_fetch {cache : Cache} (within : cache.Within directory) (name : String) :
    (cache.fetch language files directory name).2.Within directory := by
  intro entry member
  rcases Cache.mem_fetch member with isNew | old
  · exact isNew.known
  · exact within entry old

end Kept

end Templates

/-- Whether a view is there depends on nothing but what lies below the resolver's directory. Nor
does what rendering it comes to, for any view, request and model, in any language of templates and
with whatever sources are kept, as long as no template looks outside by itself: then the same is
answered, logged and kept, and the model is the same afterwards. -/
theorem views_confined_to_directory {language : Language} {directory suffix : String} {r : Resolver}
    (made : Resolver.make? language directory suffix = some r) {store store' : Store}
    (same : Store.SameBelow directory store store') (view : String) :
    r.hasView store.tree view = r.hasView store'.tree view ∧
      ∀ (facts : RequestFacts) (model : Entries), r.Inward store facts view model →
        r.present store facts view model = r.present store' facts view model := by
  have settled : directory ≠ "" ∧ r.templatesDir = directory := by
    unfold Resolver.make? at made
    split at made
    · cases made
    · rename_i filled
      cases made
      exact ⟨by simpa using filled, rfl⟩
  obtain ⟨filled, rfl⟩ := settled
  have templates : SameTemplates r.templatesDir store.tree store'.tree :=
    sameTemplates_of_sameBelow filled same.files
  constructor
  · exact Resolver.hasView_congr templates view
  intro facts model inward
  have alike {cache : Cache} (within : cache.Within r.templatesDir) (name : String) :
      r.fetch store.files cache name = r.fetch store'.files cache name :=
    fetch_same templates same.marks within name
  have fetched := alike same.kept (r.templateName view)
  rw [same.cache] at fetched
  have lacking : r.Lacks store view ↔ r.Lacks store' view := by
    simp only [Resolver.Lacks, ← fetched, same.cache]
  have rendered : r.rendered store facts view model = r.rendered store' facts view model := by
    unfold Resolver.rendered
    rw [← fetched, ← same.cache]
    rcases found : r.fetch store.files store.cache (r.templateName view) with ⟨source, cache⟩
    cases source with
    | error fault => rfl
    | ok source =>
        have kept : cache.Within r.templatesDir := by
          have within : (r.fetch store.files store.cache (r.templateName view)).2.Within _ :=
            within_fetch same.kept _
          rwa [found] at within
        exact (inward source cache found).run_eq (fun _ => alike)
          (fun _ within => within_fetch within) kept store.outside store'.outside
  have composed : r.compose store facts view model = r.compose store' facts view model := by
    by_cases lacks : r.Lacks store view
    · rw [Resolver.compose_of_lacks _ _ lacks, Resolver.compose_of_lacks _ _ (lacking.mp lacks),
        rendered]
    · rw [Resolver.compose_of_found _ _ lacks,
        Resolver.compose_of_found _ _ (mt lacking.mpr lacks), rendered]
  simp only [Resolver.present, composed]

/-- A directory with a page in it, and a file beside the directory if there is one. -/
def beside (page : String) (secret : Option String) : Tree :=
  let file (s : String) : Files.Node := .file (Text.encodeUtf8 s.toList)
  ⟨[([['@']], .directory), ([['@'], "pages".toList], .directory),
    ([['@'], "pages".toList, "index.html".toList], file page)] ++
      (secret.map fun s => ([['@'], "secret.html".toList], file s)).toList⟩

theorem sameBelow_beside (page : String) (secret secret' : Option String) :
    Store.SameBelow "/@/pages" (.ofTree (beside page secret)) (.ofTree (beside page secret')) := by
  have directory (secret : Option String) :
      (beside page secret).find "/@/pages".toList = .ok .directory := by
    cases secret <;> rfl
  have below (place : Files.Place) (secret : Option String) :
      (beside page secret).below "/@/pages".toList place =
        (beside page none).below "/@/pages".toList place := by
    have place_of_directory : Tree.target "/@/pages".toList = [['@'], "pages".toList] := rfl
    simp only [Tree.below, directory, place_of_directory]
    cases secret with
    | none => rfl
    | some s => simp [Tree.node?, beside, List.lookup_cons]
  have files : Tree.SameBelow "/@/pages".toList (beside page secret) (beside page secret') := by
    constructor
    · intro place _
      rw [below place secret, below place secret']
    · intro bytes
      rw [directory, directory]
  exact ⟨files, fun name path known => markAt?_same (by decide) files (directory secret)
    (directory secret') (by rfl) known, rfl, fun _ member => nomatch member⟩

/-- A page that tries to include what lies beside its directory. -/
def reaching : String :=
  "\x7b% include '../secret.html' %\x7d"

theorem views_confined_beside_secret :
    Resolver.make? .standard "/@/pages" ".html" = some (.standard "/@/pages" ".html") ∧
      (beside reaching (some "x")).find "/@/secret.html".toList ≠
        (beside reaching (some "y")).find "/@/secret.html".toList ∧
      (Resolver.standard "/@/pages" ".html").present (.ofTree (beside reaching (some "x")))
          ⟨"", [], []⟩ "index" [] =
        (Resolver.standard "/@/pages" ".html").present (.ofTree (beside reaching (some "y")))
          ⟨"", [], []⟩ "index" [] := by
  refine ⟨rfl, by decide +kernel, ?_⟩
  have same := sameBelow_beside reaching (some "x") (some "y")
  refine (views_confined_to_directory rfl same "index").2 _ _ ?_
  apply Resolver.inward_of_plainText rfl (Store.sound_ofTree _ _)
  have missing : (Resolver.standard "/@/pages" ".html").plainText
      (Store.ofTree (beside reaching (some "x"))).tree ⟨"", [], []⟩ "index" [] =
        .error (.notFound "../secret.html") := by
    decide +kernel
  intro what beyond
  cases missing.symm.trans beyond

/-- A page that looks outside by itself. -/
def looking : String :=
  "\x7b\x7b lipsum.__globals__.os.path.exists('secret.html') \x7d\x7d"

/-- What lies beside the directory shows in a page that looks there. -/
theorem view_tells_of_file_beside :
    let shown (tree : Tree) := ((Resolver.standard "/@/pages" ".html").markup (.ofTree tree)
      ⟨"", [], []⟩ "index" []).toOption
    Store.SameBelow "/@/pages" (.ofTree (beside looking (some "x")))
      (.ofTree (beside looking none)) ∧
      shown (beside looking (some "x")) = some "True" ∧
      shown (beside looking none) = some "False" :=
  ⟨sameBelow_beside looking _ _, by decide +kernel, by decide +kernel⟩

end PageServer
