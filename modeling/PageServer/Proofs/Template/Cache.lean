import Mathlib.Data.List.Basic
import PageServer.Template.Cache
import PageServer.Proofs.Template.Work
/-! Kept sources are as good as new ones where marks tell files apart: a path that leads anywhere
always leads to the same place, so a source that is current is that of the very file that is
there. -/
namespace PageServer

open Files Text

/-! Paths -/

namespace Files.Tree

/-- The place that components lead to, if they lead anywhere. -/
def follow : Place → List Name → Place
  | place, [] => place
  | place, name :: rest =>
      follow (if !isProper name then place
        else if name = dotDot then place.dropLast
        else place ++ [name]) rest

variable {tree : Tree}

theorem enter_ok {place next : Place} {name : Name} (entered : tree.enter place name = .ok next) :
    next = if !isProper name then place
      else if name = dotDot then place.dropLast
      else place ++ [name] := by
  unfold enter at entered
  split at entered
  · cases entered
  · cases entered
  · split at entered
    · rename_i improper
      cases entered
      rw [if_pos improper]
    · rename_i proper
      split at entered
      · rename_i up
        cases entered
        rw [if_neg proper, if_pos up]
      · rename_i down
        split at entered
        · cases entered
        · split at entered
          · cases entered
            rw [if_neg proper, if_neg down]
          · cases entered

theorem walk_ok {start place : Place} {names : List Name}
    (walked : tree.walk start names = .ok place) : place = follow start names := by
  induction names generalizing start with
  | nil =>
      cases walked
      rfl
  | cons name rest ih =>
      unfold walk at walked
      cases entered : tree.enter start name with
      | error fault => simp [entered, bind, Except.bind] at walked
      | ok next =>
          simp only [entered, bind, Except.bind] at walked
          rw [ih walked, enter_ok entered]
          rfl

/-- The place that a path leads to, if it leads anywhere. -/
def target (path : List Char) : Place :=
  follow (if path.head? == some '/' then [] else workingPlace) (components path)

theorem locate_ok {path : List Char} {place : Place} (located : tree.locate path = .ok place) :
    place = target path := by
  unfold locate at located
  split at located
  · cases located
  · split at located
    · cases located
    · exact walk_ok located

theorem find_of_locate (tree : Tree) (path : List Char) :
    tree.find path = (tree.locate path).bind fun place =>
      match tree.node? place with
      | some node => .ok node
      | none => .error .absent := by
  unfold find locate
  split
  · rfl
  · split <;> rfl

theorem find_ok_iff {path : List Char} {node : Node} :
    tree.find path = .ok node ↔
      tree.locate path = .ok (target path) ∧ tree.node? (target path) = some node := by
  rw [find_of_locate]
  cases located : tree.locate path with
  | error fault => simp [Except.bind]
  | ok place =>
      have place := locate_ok located
      subst place
      simp only [Except.bind, true_and]
      cases tree.node? (target path) <;> simp

end Files.Tree

/-- What a place holds can be told from its mark: where it bears the same mark later, it holds the
same. -/
def Files.MarkedTree.Tells (files later : MarkedTree) : Prop :=
  ∀ place, later.mark place = files.mark place → later.tree.node? place = files.tree.node? place

theorem Files.MarkedTree.tells_self (files : MarkedTree) : files.Tells files :=
  fun _ _ => rfl

namespace Template

/-! Sources of files -/

/-- The source in a file, which has to be sound. -/
def sourceFrom (language : Language) (name : String) (bytes : List UInt8) :
    Except RenderFault (List Char) := do
  let source ← (decodeUtf8 bytes).mapError .undecodable |>.map unifyLineEnds
  match language.fault? name source with
  | some fault => throw (.ofSource fault)
  | none => return source

variable {language : Language} {directory name : String} {path source : List Char}

theorem load_of_file {tree : Tree} {bytes : List UInt8}
    (known : pathOf? directory name = some path) (file : tree.find path = .ok (.file bytes)) :
    load language tree directory name = sourceFrom language name bytes := by
  obtain ⟨parts, split, rfl⟩ := Option.map_eq_some_iff.mp known
  have read : fileOf tree directory name = .ok bytes := by
    simp only [fileOf, split, Tree.fileBytes?, file]
  unfold load sourceOf sourceFrom
  rw [read]
  rfl

/-- A template that is read has a file, and its source is that of the file. -/
theorem load_ok {tree : Tree} (made : load language tree directory name = .ok source) :
    ∃ path bytes, pathOf? directory name = some path ∧ tree.find path = .ok (.file bytes) ∧
      sourceFrom language name bytes = .ok source := by
  have read : ∃ bytes, fileOf tree directory name = .ok bytes := by
    cases file : fileOf tree directory name with
    | ok bytes => exact ⟨bytes, rfl⟩
    | error fault => simp [load, sourceOf, file, bind, Except.bind] at made
  obtain ⟨bytes, file⟩ := read
  unfold fileOf at file
  cases split : nameParts? name.toList with
  | none => simp [split] at file
  | some parts =>
      simp only [split] at file
      cases found : tree.fileBytes? (filePath directory.toList parts) with
      | none => simp [found] at file
      | some held =>
          unfold Tree.fileBytes? at found
          split at found
          · rename_i there
            have known : pathOf? directory name = some (filePath directory.toList parts) := by
              simp only [pathOf?, split, Option.map_some]
            have from_file : load language tree directory name = _ := load_of_file known there
            exact ⟨_, _, known, there, from_file.symm.trans made⟩
          · cases found

/-! Kept sources -/

/-- A kept source is that of a file, and as long as the file's place bears the mark that it had, the
file is there. -/
def Kept.Sound (language : Language) (directory : String) (files : MarkedTree) (name : String)
    (kept : Kept) : Prop :=
  pathOf? directory name = some kept.path ∧
    ∃ bytes, sourceFrom language name bytes = .ok kept.source ∧
      (files.mark (Tree.target kept.path) = kept.mark →
        files.tree.node? (Tree.target kept.path) = some (.file bytes))

/-- All kept sources are sound. -/
def Cache.Sound (language : Language) (directory : String) (files : MarkedTree) (cache : Cache) :
    Prop :=
  ∀ entry ∈ cache, entry.2.Sound language directory files entry.1

variable {files next : MarkedTree} {cache : Cache}

theorem Cache.sound_nil : Cache.Sound language directory files [] :=
  fun _ member => nomatch member

theorem toOption_eq_some_iff {ε α : Type} {x : Except ε α} {a : α} :
    x.toOption = some a ↔ x = .ok a := by
  cases x <;> simp [Except.toOption]

/-- The mark of what a path leads to is that of its place. -/
theorem markAt?_eq (files : MarkedTree) (path : List Char) :
    files.markAt? path =
      (files.tree.find path).toOption.map fun _ => files.mark (Tree.target path) := by
  rw [MarkedTree.markAt?, Tree.find_of_locate]
  cases located : files.tree.locate path with
  | error fault => rfl
  | ok place =>
      have same := Tree.locate_ok located
      subst same
      simp only [Except.bind]
      cases files.tree.node? (Tree.target path) <;> rfl

theorem markAt?_eq_some {mark : Nat} (marked : files.markAt? path = some mark) :
    files.tree.locate path = .ok (Tree.target path) ∧
      files.mark (Tree.target path) = mark := by
  unfold MarkedTree.markAt? at marked
  split at marked
  · rename_i place located
    have same := Tree.locate_ok located
    subst same
    obtain ⟨node, _, bears⟩ := Option.map_eq_some_iff.mp marked
    exact ⟨located, bears⟩
  · cases marked

/-- A kept source that is current is the one that reading its template again would give. -/
theorem Kept.Sound.current {kept : Kept} (sound : kept.Sound language directory files name)
    (current : kept.isCurrent files = true) :
    load language files.tree directory name = .ok kept.source := by
  obtain ⟨known, bytes, made, held⟩ := sound
  obtain ⟨located, bears⟩ := markAt?_eq_some (beq_iff_eq.mp current)
  have file : files.tree.find kept.path = .ok (.file bytes) :=
    Tree.find_ok_iff.mpr ⟨located, held bears⟩
  rw [load_of_file known file, made]

/-- A source was read just now, and kept with the mark that its file bears now. -/
structure Kept.IsNew (language : Language) (directory : String) (files : MarkedTree) (name : String)
    (kept : Kept) : Prop where
  made : load language files.tree directory name = .ok kept.source
  known : pathOf? directory name = some kept.path
  marked : files.markAt? kept.path = some kept.mark

/-- A source that was read just now is sound, and stays so wherever a place that bears the mark it
bears now holds what it holds now. -/
theorem Kept.IsNew.sound {kept : Kept} (isNew : kept.IsNew language directory files name)
    (tells : files.Tells next) : kept.Sound language directory next name := by
  obtain ⟨path, bytes, known, file, from_bytes⟩ := load_ok isNew.made
  rw [isNew.known] at known
  cases known
  obtain ⟨_, there⟩ := Tree.find_ok_iff.mp file
  obtain ⟨_, bears⟩ := markAt?_eq_some isNew.marked
  refine ⟨isNew.known, bytes, from_bytes, fun again => ?_⟩
  rw [tells _ (again.trans bears.symm)]
  exact there

theorem Cache.mem_put {kept : Kept} {entry : String × Kept}
    (member : entry ∈ cache.put name kept) : entry = (name, kept) ∨ entry ∈ cache := by
  rcases List.mem_cons.mp (List.mem_of_mem_take member) with same | old
  · exact .inl same
  · exact .inr (List.mem_filter.mp old).1

theorem Cache.mem_of_lookup {kept : Kept} (found : cache.lookup name = some kept) :
    (name, kept) ∈ cache := by
  obtain ⟨front, back, entries, _⟩ := List.lookup_eq_some_iff.mp found
  rw [entries]
  exact List.mem_append_right front List.mem_cons_self

theorem Cache.mem_reload {entry : String × Kept}
    (member : entry ∈ (cache.reload language files directory name).2) :
    entry.2.IsNew language directory files entry.1 ∨ entry ∈ cache := by
  unfold Cache.reload at member
  cases made : load language files.tree directory name with
  | error fault =>
      rw [made] at member
      exact .inr member
  | ok source =>
      rw [made] at member
      simp only [Cache.keep] at member
      split at member
      · rename_i path mark kept
        obtain ⟨found, known, marked⟩ := Option.bind_eq_some_iff.mp kept
        obtain ⟨_, bears, same⟩ := Option.map_eq_some_iff.mp marked
        cases same
        rcases Cache.mem_put member with rfl | old
        · exact .inl ⟨made, known, bears⟩
        · exact .inr old
      · exact .inr member

/-- What is kept after a template was fetched was kept before, but for a source read just now. -/
theorem Cache.mem_fetch {entry : String × Kept}
    (member : entry ∈ (cache.fetch language files directory name).2) :
    entry.2.IsNew language directory files entry.1 ∨ entry ∈ cache := by
  unfold Cache.fetch at member
  cases found : cache.lookup name with
  | none =>
      rw [found] at member
      exact Cache.mem_reload member
  | some kept =>
      have used (there : entry ∈ cache.put name kept) : entry ∈ cache := by
        rcases Cache.mem_put there with rfl | old
        · exact Cache.mem_of_lookup found
        · exact old
      rw [found] at member
      dsimp only at member
      split at member
      · exact .inr (used member)
      · exact (Cache.mem_reload member).imp_right used

/-- What is kept after a template was fetched is sound now, and later on if marks tell now from
then. -/
theorem Cache.Sound.fetch_later (sound : cache.Sound language directory next)
    (tells : files.Tells next) (name : String) :
    (cache.fetch language files directory name).2.Sound language directory next := by
  intro entry member
  rcases Cache.mem_fetch member with isNew | old
  · exact isNew.sound tells
  · exact sound entry old

/-- Whatever is kept, a template that is fetched is the one that its file makes now. -/
theorem Cache.Sound.fetch_eq (sound : cache.Sound language directory files) (name : String) :
    (cache.fetch language files directory name).1 = load language files.tree directory name := by
  have reloaded (cache : Cache) : (cache.reload language files directory name).1 =
      load language files.tree directory name := by
    unfold Cache.reload
    cases load language files.tree directory name <;> rfl
  unfold Cache.fetch
  cases found : cache.lookup name with
  | none => exact reloaded cache
  | some kept =>
      dsimp only
      split
      · rename_i current
        exact ((sound _ (Cache.mem_of_lookup found)).current current).symm
      · exact reloaded _

theorem Cache.serves_load (language : Language) (directory : String) (files : MarkedTree) :
    Work.Serves (fun cache name => Cache.fetch cache language files directory name)
      (Cache.Sound language directory files) (load language files.tree directory) :=
  fun _ sound name => ⟨sound.fetch_eq name, sound.fetch_later files.tells_self name⟩

end Template

end PageServer
