import PageServer.Proofs.Http.Host
import Mathlib.Data.Bool.AllAny
import Mathlib.Tactic.Push
/-! The path that is read in the URL of a request. Behind a host it is the request's own path, but
for a slash in front, escapes, and the characters that URLs drop. Without a host the request's path
is itself read as a URL. -/
namespace PageServer.Http

open Text

/-! Characters -/

section Characters

theorem small_of_isAlphanum {c : Char} (letter : c.isAlphanum) : c.toNat < 128 := by
  have cases := isAlphanum_iff.mp letter
  have digits : 'Z'.val.toNat = 90 ∧ 'z'.val.toNat = 122 ∧ '9'.val.toNat = 57 := by decide
  have value : c.toNat = c.val.toNat := rfl
  omega

theorem small_of_isNameChar {c : Char} (name : isNameChar c) : c.toNat < 128 := by
  simp only [isNameChar, isHostChar, Bool.or_eq_true, List.contains_eq_mem, decide_eq_true_eq,
    beq_iff_eq] at name
  rcases name with (letter | sign) | rfl
  · exact small_of_isAlphanum letter
  · have signs : ∀ c ∈ "-._~!$&'()*+,;=%".toList, c.toNat < 128 :=
      List.all_iff_forall_prop.mp (by decide)
    exact signs c sign
  · decide

/-- A character of a host part is in no way special to a reader of URLs. -/
theorem Names.plain {authority : List Char} (names : Names authority) {c : Char}
    (member : c ∈ authority) :
    endsAuthority c = false ∧ isDropped c = false ∧ ambiguousCodes.contains c.toNat = false := by
  have differs {d : Char} (other : isNameChar d = false) (opening : d ≠ '[') (closing : d ≠ ']') :
      c ≠ d := by
    rintro rfl
    rcases names.chars _ member with name | rfl | rfl
    · simp [name] at other
    · exact opening rfl
    · exact closing rfl
  have small : c.toNat < 128 := by
    rcases names.chars c member with name | rfl | rfl
    · exact small_of_isNameChar name
    · decide
    · decide
  have large : ∀ code ∈ ambiguousCodes, 128 ≤ code := List.all_iff_forall_prop.mp (by decide)
  refine ⟨?_, ?_, ?_⟩
  · simp [endsAuthority, differs (d := '/') (by decide) (by decide) (by decide),
      differs (d := '?') (by decide) (by decide) (by decide),
      differs (d := '#') (by decide) (by decide) (by decide)]
  · simp [isDropped, differs (d := '\t') (by decide) (by decide) (by decide),
      differs (d := '\n') (by decide) (by decide) (by decide),
      differs (d := '\r') (by decide) (by decide) (by decide)]
  · by_contra ambiguous
    have code := large c.toNat (by simpa using ambiguous)
    omega

end Characters

/-! Escapes -/

section Escapes

/-- A path as a URL is read to have it behind a slash. -/
def clean (path : List Char) : List Char :=
  (path.flatMap escapePathChar).filter (!isDropped ·)

theorem escapePathChar_cases (c : Char) :
    escapePathChar c = [c] ∧ c ≠ '?' ∧ c ≠ '#' ∨
      (∃ rest, escapePathChar c = '%' :: rest ∧ '?' ∉ rest ∧ '#' ∉ rest) ∧ isDropped c = false ∧
        c ≠ '/' := by
  -- Three characters are escaped; none of them is dropped, and none is a slash.
  unfold escapePathChar
  by_cases question : c = '?'
  · subst question
    exact .inr ⟨⟨['3', 'F'], rfl, by decide, by decide⟩, by decide, by decide⟩
  · by_cases number : c = '#'
    · subst number
      exact .inr ⟨⟨['2', '3'], rfl, by decide, by decide⟩, by decide, by decide⟩
    · by_cases reverse : c = '\\'
      · subst reverse
        exact .inr ⟨⟨['5', 'C'], rfl, by decide, by decide⟩, by decide, by decide⟩
      · exact .inl ⟨by simp [question, number, reverse], question, number⟩

/-- Nothing in an escaped path ends it. -/
theorem not_mem_escaped (path : List Char) {c : Char} (ends : c = '?' ∨ c = '#') :
    c ∉ path.flatMap escapePathChar := by
  intro member
  obtain ⟨d, _, inside⟩ := List.mem_flatMap.mp member
  rcases escapePathChar_cases d with ⟨same, question, number⟩ | ⟨⟨rest, same, question, number⟩, _⟩
  · rw [same, List.mem_singleton] at inside
    rcases ends with rfl | rfl
    · exact question inside.symm
    · exact number inside.symm
  · rw [same] at inside
    rcases ends with rfl | rfl
    · simp [question] at inside
    · simp [number] at inside

theorem not_mem_clean (path : List Char) {c : Char} (ends : c = '?' ∨ c = '#') :
    c ∉ clean path :=
  fun member => not_mem_escaped path ends (List.mem_filter.mp member).1

theorem flatMap_escapePathChar {path : List Char} (inert : ∀ c ∈ path, escapePathChar c = [c]) :
    path.flatMap escapePathChar = path := by
  induction path with
  | nil => rfl
  | cons c rest ih =>
      have others := ih fun d member => inert d (List.mem_cons_of_mem c member)
      rw [List.flatMap_cons, inert c List.mem_cons_self, others]
      rfl

/-- A text without escapes is read exactly where it is left over when characters are dropped. -/
theorem clean_eq_iff {path text : List Char}
    (inert : ∀ c ∈ text, escapePathChar c = [c] ∧ c ≠ '%') :
    clean path = text ↔ path.filter (!isDropped ·) = text := by
  by_cases plain : ∀ c ∈ path, escapePathChar c = [c]
  · rw [clean, flatMap_escapePathChar plain]
  -- What is escaped shows on both sides: as a percent sign there, and as itself here.
  · push Not at plain
    obtain ⟨c, member, escaped⟩ := plain
    rcases escapePathChar_cases c with ⟨same, _⟩ | ⟨⟨rest, same, _⟩, kept, _⟩
    · exact absurd same escaped
    · constructor
      · rintro rfl
        have sign : '%' ∈ clean path := by
          refine List.mem_filter.mpr ⟨List.mem_flatMap.mpr ⟨c, member, ?_⟩, by decide⟩
          rw [same]
          exact List.mem_cons_self
        exact absurd rfl (inert '%' sign).2
      · rintro rfl
        have left : c ∈ path.filter (!isDropped ·) := by
          simp [member, kept]
        exact absurd (inert c left).1 escaped

end Escapes

/-! Behind a host -/

section Hosts

def withoutSlash : List Char → List Char
  | '/' :: rest => rest
  | s => s

/-- A path as it is read behind a host. -/
def behindHost (path : List Char) : List Char :=
  if path.isEmpty then [] else '/' :: clean (withoutSlash path)

theorem behindHost_cases (path : List Char) :
    behindHost path = [] ∨ behindHost path = '/' :: clean (withoutSlash path) := by
  unfold behindHost
  split
  · exact .inl rfl
  · exact .inr rfl

theorem not_mem_behindHost (path : List Char) {c : Char} (ends : c = '?' ∨ c = '#') :
    c ∉ behindHost path := by
  rcases behindHost_cases path with empty | slash
  · simp [empty]
  · rw [slash, List.mem_cons, not_or]
    refine ⟨?_, not_mem_clean _ ends⟩
    rcases ends with rfl | rfl <;> decide

/-- An escape does not start with a slash, and is not dropped. -/
theorem exists_of_escaped {c : Char} (other : c ≠ '/') (rest : List Char) :
    ∃ d more, (c :: rest).flatMap escapePathChar = d :: more ∧ d ≠ '/' ∧
      isDropped d = isDropped c := by
  rw [List.flatMap_cons]
  rcases escapePathChar_cases c with ⟨same, _⟩ | ⟨⟨escape, same, _⟩, kept, _⟩
  · exact ⟨c, rest.flatMap escapePathChar, by rw [same]; rfl, other, rfl⟩
  · exact ⟨'%', escape ++ rest.flatMap escapePathChar, by rw [same]; rfl, by decide,
      by rw [kept]; decide⟩

/-- What a URL has behind its host, and how it is read. -/
theorem hierarchy_of_host (scheme host : String) (path : List Char) :
    ∃ tail, hierarchy scheme (some host) path = hierarchy.start scheme ++ host.toList ++ tail ∧
      tail.filter (!isDropped ·) = behindHost path := by
  have slash : isDropped '/' = false := by decide
  cases path with
  | nil => exact ⟨[], by simp [hierarchy], rfl⟩
  | cons c rest =>
      by_cases first : c = '/'
      · subst first
        have escaped : escapePathChar '/' = ['/'] := by decide
        refine ⟨'/' :: rest.flatMap escapePathChar, ?_, ?_⟩
        · simp [hierarchy, escaped]
        · simp [behindHost, withoutSlash, clean, slash]
      · refine ⟨'/' :: (c :: rest).flatMap escapePathChar, ?_, ?_⟩
        · obtain ⟨d, more, escaped, other, _⟩ := exists_of_escaped first rest
          simp [hierarchy, escaped, other]
        · simp [behindHost, withoutSlash, clean, slash, first]

/-- Where a path has ended in a URL, the query follows. -/
theorem partsAfter_path (scheme authority : List Char) {path query : List Char}
    (question : '?' ∉ path) (number : '#' ∉ path)
    (follows : query = [] ∨ ∃ rest, query = '?' :: rest) :
    (partsAfter scheme authority (path ++ query)).path = path := by
  have open_question : ∀ c ∈ path, (c != '?') = true := fun c member => by
    simpa using ne_of_mem_of_not_mem member question
  have open_number : ∀ c ∈ path, (c != '#') = true := fun c member => by
    simpa using ne_of_mem_of_not_mem member number
  simp only [partsAfter]
  rw [List.takeWhile_append_of_pos open_number, List.takeWhile_append_of_pos open_question]
  rcases follows with rfl | ⟨rest, rfl⟩ <;> simp

theorem partsAfter_path_of_open (scheme authority : List Char) {path : List Char}
    (question : '?' ∉ path) (number : '#' ∉ path) :
    (partsAfter scheme authority path).path = path := by
  have alone := partsAfter_path scheme authority question number (.inl rfl)
  rwa [List.append_nil] at alone

theorem splitScheme_of_standard {scheme : String} (standard : scheme = "http" ∨ scheme = "https")
    (rest : List Char) : splitScheme (scheme.toList ++ ':' :: rest) = (scheme.toList, rest) := by
  rcases standard with rfl | rfl <;> rfl

/-- What is left of the start of a URL when characters are dropped. -/
theorem filter_start {scheme : String} (standard : scheme = "http" ∨ scheme = "https")
    (rest : List Char) :
    ((hierarchy.start scheme ++ rest).dropWhile isIgnorable).filter (!isDropped ·) =
      scheme.toList ++ ':' :: '/' :: '/' :: rest.filter (!isDropped ·) := by
  rcases standard with rfl | rfl <;> rfl

/-- A URL with a host is read up to the host, whatever ends it. -/
theorem partsOfUrl_of_host {scheme : String} (standard : scheme = "http" ∨ scheme = "https")
    {authority tail : List Char} (names : Names authority)
    (ends : ∀ c ∈ (tail.filter (!isDropped ·)).head?, endsAuthority c) :
    partsOfUrl (hierarchy.start scheme ++ (authority ++ tail)) =
      .ok (partsAfter scheme.toList authority (tail.filter (!isDropped ·))) := by
  have kept : authority.filter (!isDropped ·) = authority := by
    rw [List.filter_eq_self]
    intro c member
    simp [(names.plain member).2.1]
  have inside : ∀ c ∈ authority, (!endsAuthority c) = true := fun c member => by
    simp [(names.plain member).1]
  have unambiguous : (authority.any fun c => ambiguousCodes.contains c.toNat) = false := by
    rw [List.any_eq_false]
    intro c member
    simp only [(names.plain member).2.2, Bool.false_eq_true, not_false_eq_true]
  have taken : (authority ++ tail.filter (!isDropped ·)).takeWhile (!endsAuthority ·) =
      authority := by
    rw [List.takeWhile_append_of_pos inside]
    cases rest : tail.filter (!isDropped ·) with
    | nil => simp
    | cons c more => simp [ends c (by simp [rest])]
  have dropped : (authority ++ tail.filter (!isDropped ·)).dropWhile (!endsAuthority ·) =
      tail.filter (!isDropped ·) := by
    rw [List.dropWhile_append_of_pos inside]
    cases rest : tail.filter (!isDropped ·) with
    | nil => simp
    | cons c more => simp [ends c (by simp [rest])]
  simp only [partsOfUrl, filter_start standard, splitScheme_of_standard standard, partsBehind,
    List.filter_append, kept, taken, dropped, names.brackets, unambiguous, Bool.false_eq_true,
    ↓reduceIte]

end Hosts

/-! Queries -/

section Queries

theorem takeWhile_query {p : Char → Bool} (stops : p '?' = false) (s query : List Char) :
    (s ++ '?' :: query).takeWhile p = s.takeWhile p := by
  induction s with
  | nil => simp [stops]
  | cons c rest ih =>
      by_cases goes : p c
      · simp [goes, ih]
      · simp [goes]

theorem dropWhile_query {p : Char → Bool} (stops : p '?' = false) (s query : List Char) :
    (s ++ '?' :: query).dropWhile p = s.dropWhile p ++ '?' :: query := by
  induction s with
  | nil => simp [stops]
  | cons c rest ih =>
      by_cases goes : p c
      · simp [goes, ih]
      · simp [goes]

theorem splitScheme_query (s query : List Char) :
    splitScheme (s ++ '?' :: query) = ((splitScheme s).1, (splitScheme s).2 ++ '?' :: query) := by
  have stops : isSchemeChar '?' = false := by decide
  unfold splitScheme
  rw [takeWhile_query stops, dropWhile_query stops]
  cases s with
  | nil =>
      have mark : '?'.isAlpha = false := by decide
      simp [mark]
  | cons c rest =>
      cases letter : c.isAlpha
      · simp [letter]
      · cases left : (c :: rest).dropWhile isSchemeChar with
        | nil => simp [letter]
        | cons d more =>
            by_cases colon : d = ':'
            · simp [letter, colon]
            · simp [letter, colon]

theorem mem_of_mem_splitScheme {s : List Char} {c : Char} (member : c ∈ (splitScheme s).2) :
    c ∈ s := by
  unfold splitScheme at member
  split at member
  · rename_i rest _ left
    apply (List.dropWhile_sublist isSchemeChar).mem
    rw [left]
    exact List.mem_cons_of_mem _ member
  · exact member

theorem partsBehind_of_no_host (scheme : List Char) {s : List Char}
    (bare : ∀ rest, s ≠ '/' :: '/' :: rest) :
    partsBehind scheme s = .ok (partsAfter scheme [] s) := by
  unfold partsBehind
  split
  · exact absurd rfl (bare _)
  · rfl

theorem partsBehind_query (scheme : List Char) {s : List Char} (query : List Char)
    (question : '?' ∉ s) (number : '#' ∉ s) :
    (partsBehind scheme (s ++ '?' :: query)).map (·.path) =
      (partsBehind scheme s).map (·.path) := by
  have same (authority : List Char) {left : List Char} (question : '?' ∉ left)
      (number : '#' ∉ left) : (partsAfter scheme authority (left ++ '?' :: query)).path =
        (partsAfter scheme authority left).path := by
    rw [partsAfter_path_of_open scheme authority question number,
      partsAfter_path scheme authority question number (.inr ⟨query, rfl⟩)]
  have stops : (!endsAuthority '?') = false := by decide
  -- The query may end the host part, but it adds nothing to it.
  by_cases host : ∃ rest, s = '/' :: '/' :: rest
  · obtain ⟨rest, rfl⟩ := host
    simp only [List.mem_cons, not_or] at question number
    have left {c : Char} (outside : c ∉ rest) : c ∉ rest.dropWhile (!endsAuthority ·) :=
      fun member => outside ((List.dropWhile_sublist _).mem member)
    have taken := takeWhile_query (p := fun c => !endsAuthority c) stops rest query
    have dropped := dropWhile_query (p := fun c => !endsAuthority c) stops rest query
    simp only [partsBehind, List.cons_append, taken, dropped]
    cases bracketFault? (rest.takeWhile (!endsAuthority ·)) with
    | some fault => rfl
    | none =>
        dsimp only
        split
        · rfl
        · exact congrArg Except.ok (same _ (left question.2.2) (left number.2.2))
  · rw [partsBehind_of_no_host scheme (not_exists.mp host), partsBehind_of_no_host]
    · exact congrArg Except.ok (same [] question number)
    · intro rest whole
      match s, whole with
      | [], whole => simp at whole
      | [_], whole => simp at whole
      | _ :: _ :: more, whole =>
          simp only [List.cons_append, List.cons.injEq] at whole
          obtain ⟨rfl, rfl, _⟩ := whole
          exact host ⟨more, rfl⟩

/-- A query changes nothing in front of it. -/
theorem partsOfUrl_query {s : List Char} (query : List Char) (question : '?' ∉ s)
    (number : '#' ∉ s) :
    (partsOfUrl (s ++ '?' :: query)).map (·.path) = (partsOfUrl s).map (·.path) := by
  have mark : isIgnorable '?' = false ∧ isDropped '?' = false := by decide
  have absent {c : Char} (outside : c ∉ s) :
      c ∉ (splitScheme ((s.dropWhile isIgnorable).filter (!isDropped ·))).2 := by
    intro member
    have kept := (List.mem_filter.mp (mem_of_mem_splitScheme member)).1
    exact outside ((List.dropWhile_sublist isIgnorable).mem kept)
  rw [partsOfUrl, partsOfUrl, dropWhile_query mark.1, List.filter_append,
    List.filter_cons_of_pos (by simp [mark.2]), splitScheme_query]
  exact partsBehind_query _ _ (absent question) (absent number)

end Queries

/-! Requests -/

section Requests

variable {r : Request}

/-- What servers promise of requests: the scheme is one of two, and the name of the server is that
of a host. -/
structure Request.Standard (r : Request) : Prop where
  scheme : r.scheme = "http" ∨ r.scheme = "https"
  server : ∀ name port, r.server = some (name, port) → ∀ c ∈ name.toList, isNameChar c

/-- The text of a query, if its bytes are those of one. -/
def Request.queryText (r : Request) : Except Utf8Fault (List Char) :=
  decodeUtf8 (r.query.toList.map fun c => .ofNat c.toNat)

/-- The query of a request is a text. -/
def Request.Decodes (r : Request) : Prop :=
  ∃ text, r.queryText = .ok text

/-- A query as it stands in a URL. -/
def queryPart (text : List Char) : List Char :=
  if text.isEmpty then [] else '?' :: text

theorem isNameChar_of_toString (n : Nat) : ∀ c ∈ (toString n).toList, isNameChar c := by
  intro c member
  apply isNameChar_of_isDigit
  rw [Nat.toString_eq_repr, Nat.repr, String.toList_ofList] at member
  exact Nat.isDigit_of_mem_toDigits (by decide) (by decide) member

/-- The host part of a request, if it has one, can be read. -/
theorem Request.Standard.authority (standard : r.Standard) :
    ∃ authority, authority? r = .ok authority ∧ ∀ host ∈ authority, Names host.toList := by
  unfold authority?
  split
  · rename_i host given
    exact ⟨some host, rfl, fun other same => by
      cases same
      exact Names.of_isSoundHost (Option.filter_eq_some_iff.mp given).2⟩
  · exact ⟨none, rfl, by simp⟩
  · rename_i name port _ server
    have plain := standard.server name port server
    obtain ⟨usual, implied⟩ : ∃ usual, defaultPort? r.scheme = some usual := by
      rcases standard.scheme with same | same
      · exact ⟨80, by rw [same]; rfl⟩
      · exact ⟨443, by rw [same]; rfl⟩
    simp only [implied]
    refine ⟨_, rfl, fun host same => ?_⟩
    cases same
    apply Names.of_isNameChar
    intro c member
    split at member
    · exact plain c member
    · simp only [String.toList_append, List.mem_append] at member
      rcases member with (early | colon) | late
      · exact plain c early
      · rw [List.mem_singleton.mp colon]
        decide
      · exact isNameChar_of_toString port c late

theorem url_of_decodes {authority : Option String} {text : List Char}
    (named : authority? r = .ok authority) (decoded : r.queryText = .ok text) :
    url r = .ok (hierarchy r.scheme authority r.path.toList ++ queryPart text) := by
  unfold Request.queryText at decoded
  simp only [url, named, decoded]
  rfl

/-- A query that is no text leaves a request without a URL. -/
theorem urlPath_of_not_decodes (standard : r.Standard) (undecoded : ¬ r.Decodes) :
    ∃ fault, urlPath r = .error fault := by
  obtain ⟨authority, named, _⟩ := standard.authority
  cases decoded : r.queryText with
  | ok text => exact absurd ⟨text, decoded⟩ undecoded
  | error fault =>
      refine ⟨.badQuery fault, ?_⟩
      unfold Request.queryText at decoded
      simp only [urlPath, url, named, decoded]
      rfl

theorem queryPart_cases (text : List Char) :
    (queryPart text).filter (!isDropped ·) = [] ∨
      ∃ rest, (queryPart text).filter (!isDropped ·) = '?' :: rest := by
  have kept : isDropped '?' = false := by decide
  cases text with
  | nil => exact .inl rfl
  | cons c rest =>
      exact .inr ⟨(c :: rest).filter (!isDropped ·), by simp [queryPart, kept]⟩

/-- Behind a host the path is read as it is, whatever the query is. -/
theorem urlPath_of_host (standard : r.Standard) (decodes : r.Decodes) {host : String}
    (named : authority? r = .ok (some host)) :
    urlPath r = .ok (String.ofList (behindHost r.path.toList)) := by
  obtain ⟨text, decoded⟩ := decodes
  obtain ⟨authority, same, names⟩ := standard.authority
  rw [named] at same
  cases same
  obtain ⟨tail, whole, read⟩ := hierarchy_of_host r.scheme host r.path.toList
  have left : (tail ++ queryPart text).filter (!isDropped ·) =
      behindHost r.path.toList ++ (queryPart text).filter (!isDropped ·) := by
    rw [List.filter_append, read]
  have ends : ∀ c ∈ ((tail ++ queryPart text).filter (!isDropped ·)).head?, endsAuthority c := by
    rw [left]
    rcases behindHost_cases r.path.toList with empty | slash
    · rcases queryPart_cases text with none | ⟨rest, question⟩
      · simp [empty, none]
      · simp [empty, question, endsAuthority]
    · simp [slash, endsAuthority]
  have parts := partsOfUrl_of_host standard.scheme (names host rfl) ends
  simp only [urlPath, url_of_decodes named decoded]
  rw [whole, List.append_assoc, List.append_assoc]
  change (partsOfUrl (hierarchy.start r.scheme ++ (host.toList ++ (tail ++ queryPart text))) >>=
    fun parts => pure (String.ofList parts.path)) = _
  rw [parts, left]
  exact congrArg (Except.ok ∘ String.ofList)
    (partsAfter_path _ _ (not_mem_behindHost _ (.inl rfl)) (not_mem_behindHost _ (.inr rfl))
      (queryPart_cases text))

/-- A path that is a URL by itself. -/
def bareUrl (path : List Char) : List Char :=
  match path.flatMap escapePathChar with
  | '/' :: '/' :: rest => '/' :: '/' :: '/' :: '/' :: rest
  | escaped => escaped

theorem hierarchy_of_none (scheme : String) (path : List Char) :
    hierarchy scheme none path = bareUrl path := by
  unfold hierarchy bareUrl
  rcases path.flatMap escapePathChar with _ | ⟨c, _ | ⟨d, rest⟩⟩
  · rfl
  · by_cases first : c = '/' <;> simp [first]
  · by_cases first : c = '/' <;> by_cases second : d = '/' <;> simp [first, second]

/-- A URL without a host has no end in front of its query. -/
theorem not_mem_bareUrl (path : List Char) {c : Char} (ends : c = '?' ∨ c = '#') :
    c ∉ bareUrl path := by
  have absent := not_mem_escaped path ends
  unfold bareUrl
  split
  · rename_i escaped
    rw [escaped] at absent
    simpa using absent
  · exact absent

/-- Without a host the path is read by itself, whatever the query is. -/
theorem urlPath_of_no_host (decodes : r.Decodes) (named : authority? r = .ok none) :
    urlPath r = ((partsOfUrl (bareUrl r.path.toList)).map (·.path)).map String.ofList := by
  obtain ⟨text, decoded⟩ := decodes
  have parts : urlPath r = ((partsOfUrl (bareUrl r.path.toList ++
      queryPart text)).map (·.path)).map String.ofList := by
    simp only [urlPath, url_of_decodes named decoded, hierarchy_of_none]
    cases result : partsOfUrl (bareUrl r.path.toList ++ queryPart text) <;>
      simp [result, bind, Except.bind, Except.map, pure, Except.pure]
  rw [parts]
  cases text with
  | nil => rw [queryPart, List.isEmpty_nil, if_pos rfl, List.append_nil]
  | cons c rest =>
      have query : queryPart (c :: rest) = '?' :: c :: rest := rfl
      rw [query, partsOfUrl_query (c :: rest) (not_mem_bareUrl _ (.inl rfl))
        (not_mem_bareUrl _ (.inr rfl))]

end Requests

/-! Readings -/

section Readings

variable {r : Request} {path : String}

/-- A path with one slash in front and without the characters that URLs drop. -/
def lenient (path : String) : String :=
  String.ofList ('/' :: (withoutSlash path.toList).filter (!isDropped ·))

/-- What the path of a request is taken for in its URL: behind a host the path is read leniently,
and without one it is a URL by itself. -/
def Request.ReadsAs (r : Request) (path : String) : Prop :=
  match authority? r with
  | .ok (some _) => lenient r.path = path
  | _ => (partsOfUrl (bareUrl r.path.toList)).map (·.path) = .ok path.toList

/-- A path that is read as it is, but for escapes. -/
def Regular (path : String) : Prop :=
  ∃ text, path.toList = '/' :: text ∧ ∀ c ∈ text, isDropped c = false

/-- A path of which nothing is escaped or dropped, with more than a slash. -/
def Inert (path : String) : Prop :=
  ∃ text, path.toList = '/' :: text ∧ text ≠ [] ∧
    ∀ c ∈ text, (escapePathChar c = [c] ∧ c ≠ '%') ∧ isDropped c = false

theorem Inert.regular (inert : Inert path) : Regular path := by
  obtain ⟨text, same, _, plain⟩ := inert
  exact ⟨text, same, fun c member => (plain c member).2⟩

theorem lenient_of_regular (regular : Regular path) : lenient path = path := by
  obtain ⟨text, same, kept⟩ := regular
  have whole : text.filter (!isDropped ·) = text := by
    rw [List.filter_eq_self]
    intro c member
    simp [kept c member]
  rw [lenient, same, withoutSlash, whole, ← same, String.ofList_toList]

/-- Behind a host an inert path is read exactly where it is read leniently. -/
theorem behindHost_eq_iff (inert : Inert path) (given : String) :
    behindHost given.toList = path.toList ↔ lenient given = path := by
  obtain ⟨text, same, more, plain⟩ := inert
  rw [lenient, ← String.toList_inj, String.toList_ofList, same]
  cases empty : given.toList.isEmpty
  · simp only [behindHost, empty, Bool.false_eq_true, ↓reduceIte, List.cons.injEq, true_and]
    exact clean_eq_iff fun c member => (plain c member).1
  · rw [List.isEmpty_iff.mp empty]
    simp [behindHost, withoutSlash, Ne.symm more]

/-- The path of a URL is an inert one exactly if the query is a text and the path reads as it. -/
theorem urlPath_eq_iff (standard : r.Standard) (inert : Inert path) :
    urlPath r = .ok path ↔ r.Decodes ∧ r.ReadsAs path := by
  by_cases decodes : r.Decodes
  · obtain ⟨authority, named, names⟩ := standard.authority
    simp only [decodes, true_and, Request.ReadsAs, named]
    cases authority with
    | some host =>
        rw [urlPath_of_host standard decodes named, ← behindHost_eq_iff inert, Except.ok.injEq,
          ← String.toList_inj, String.toList_ofList]
    | none =>
        rw [urlPath_of_no_host decodes named]
        cases (partsOfUrl (bareUrl r.path.toList)).map (·.path) with
        | error fault => simp [Except.map]
        | ok read => simp [Except.map, ← String.toList_inj]
  · obtain ⟨fault, faulty⟩ := urlPath_of_not_decodes standard decodes
    simp [decodes, faulty]

theorem partsOfUrl_of_slash (s : List Char) :
    partsOfUrl ('/' :: s) = partsBehind [] ('/' :: s.filter (!isDropped ·)) := rfl

/-- Without a host a regular path is read as it is behind one. If it starts with two slashes, so
does the URL, in front of an empty host. -/
theorem partsOfUrl_of_regular (regular : Regular path) :
    (partsOfUrl (bareUrl path.toList)).map (·.path) = .ok (behindHost path.toList) := by
  obtain ⟨text, same, kept⟩ := regular
  have slash : isDropped '/' = false := by decide
  have escaped : escapePathChar '/' = ['/'] := by decide
  have behind : behindHost ('/' :: text) = '/' :: clean text := rfl
  have path := partsAfter_path_of_open [] [] (not_mem_behindHost ('/' :: text) (.inl rfl))
    (not_mem_behindHost ('/' :: text) (.inr rfl))
  rw [behind] at path
  rw [same, behind]
  cases text with
  | nil => rfl
  | cons c rest =>
      by_cases second : c = '/'
      · subst second
        have url : bareUrl ('/' :: '/' :: rest) =
            '/' :: '/' :: '/' :: ('/' :: rest).flatMap escapePathChar := by
          simp [bareUrl, escaped]
        have filtered : ('/' :: '/' :: ('/' :: rest).flatMap escapePathChar).filter
            (!isDropped ·) = '/' :: '/' :: clean ('/' :: rest) := by
          rw [List.filter_cons_of_pos (by simp [slash]), List.filter_cons_of_pos (by simp [slash])]
          rfl
        have noHost (s : List Char) : partsBehind [] ('/' :: '/' :: '/' :: s) =
            .ok (partsAfter [] [] ('/' :: s)) := rfl
        rw [url, partsOfUrl_of_slash, filtered, noHost]
        exact congrArg Except.ok path
      · obtain ⟨d, more, first, other, sameFate⟩ := exists_of_escaped second rest
        have url : bareUrl ('/' :: c :: rest) = '/' :: d :: more := by
          rw [bareUrl, List.flatMap_cons, escaped, first]
          simp [other]
        have filtered : (d :: more).filter (!isDropped ·) = d :: more.filter (!isDropped ·) := by
          rw [List.filter_cons_of_pos]
          simp [sameFate, kept c List.mem_cons_self]
        have noHost (s : List Char) : ∀ host, '/' :: d :: s ≠ '/' :: '/' :: host := by
          intro host same
          simp only [List.cons.injEq, true_and] at same
          exact other same.1
        rw [clean, first, filtered] at path
        rw [url, partsOfUrl_of_slash, clean, first, filtered, partsBehind_of_no_host _ (noHost _)]
        exact congrArg Except.ok path

theorem urlPath_of_regular (standard : r.Standard) (decodes : r.Decodes)
    (regular : Regular r.path) : urlPath r = .ok (String.ofList (behindHost r.path.toList)) := by
  obtain ⟨authority, named, _⟩ := standard.authority
  cases authority with
  | some host => exact urlPath_of_host standard decodes named
  | none =>
      rw [urlPath_of_no_host decodes named, partsOfUrl_of_regular regular]
      rfl

theorem readsAs_iff_of_regular (regular : Regular r.path) (inert : Inert path) :
    r.ReadsAs path ↔ r.path = path := by
  have behind : r.ReadsAs path ↔ lenient r.path = path := by
    unfold Request.ReadsAs
    split
    · rfl
    · rw [partsOfUrl_of_regular regular, Except.ok.injEq]
      exact behindHost_eq_iff inert r.path
  rw [behind, lenient_of_regular regular]

end Readings

end PageServer.Http
