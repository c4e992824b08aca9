import PageServer.Template.Directory
import PageServer.Files.Marks
/-! Sources kept between uses. Reading a template takes time, so its source is kept with the path of
its file and the mark that the file bore. The source serves again as long as what is at that path
bears the same mark. Only so many sources are kept, those used last. -/
namespace PageServer.Template

open Files

/-- The path of the file of a template's name, unless the name is refused. -/
def pathOf? (directory name : String) : Option (List Char) :=
  (nameParts? name.toList).map (filePath directory.toList)

/-- A source that is kept. -/
structure Kept where
  source : List Char
  path : List Char
  mark : Nat

def Kept.isCurrent (kept : Kept) (files : MarkedTree) : Bool :=
  files.markAt? kept.path == some kept.mark

/-- The sources that are kept, by the names of their templates, the one used last in front. -/
abbrev Cache := List (String × Kept)

def mostKept : Nat := 400

namespace Cache

def put (cache : Cache) (name : String) (kept : Kept) : Cache :=
  ((name, kept) :: cache.filter (·.1 != name)).take mostKept

def keep (cache : Cache) (files : MarkedTree) (directory name : String) (source : List Char) :
    Cache :=
  match (pathOf? directory name).bind fun path => (files.markAt? path).map (path, ·) with
  | some (path, mark) => cache.put name ⟨source, path, mark⟩
  | none => cache

/-- The source of a name, read anew, and the cache afterwards. -/
def reload (cache : Cache) (language : Language) (files : MarkedTree) (directory name : String) :
    Except RenderFault (List Char) × Cache :=
  match load language files.tree directory name with
  | .ok source => (.ok source, cache.keep files directory name source)
  | .error fault => (.error fault, cache)

/-- The source of a name, and the cache afterwards. A source that is no longer current stays until
its template can be read again. -/
def fetch (cache : Cache) (language : Language) (files : MarkedTree) (directory name : String) :
    Except RenderFault (List Char) × Cache :=
  match cache.lookup name with
  | some kept =>
      let cache := cache.put name kept
      if kept.isCurrent files then (.ok kept.source, cache)
      else cache.reload language files directory name
  | none => cache.reload language files directory name

end Cache

end PageServer.Template
