import PageServer.Service.Startup
import PageServer.Proofs.Service.HealthReport
import PageServer.Proofs.View.StartupCheck
/-! The start of the service and the health of the service. Both look for the same templates, one
with the check and one with the resolver, so a service starts with a configuration error exactly
where its first health check, before any change of the files, would call it degraded. -/
namespace PageServer

open Files Template Text

/-! Entries of the start -/

namespace Service

variable {τ : Type} {service : Service τ} {tree : Tree}

/-- The entries about a faulty configuration. -/
def configurationErrors (entries : List LogEntry) : List LogEntry :=
  entries.filter fun entry => "Configuration error: ".toList.isPrefixOf entry.message.toList

theorem configurationErrors_append (front back : List LogEntry) :
    configurationErrors (front ++ back) = configurationErrors front ++ configurationErrors back :=
  List.filter_append ..

theorem configurationErrors_of_head (entries : List LogEntry)
    (others : ∀ entry ∈ entries, entry.message.toList.head? ≠ some 'C') :
    configurationErrors entries = [] := by
  refine List.filter_eq_nil_iff.mpr fun entry member => ?_
  have other := others entry member
  have start : "Configuration error: ".toList = 'C' :: "onfiguration error: ".toList := by decide
  rw [start]
  cases letters : entry.message.toList with
  | nil => simp [List.isPrefixOf]
  | cons c rest =>
      have different : 'C' ≠ c := fun same => other (by rw [letters, same]; rfl)
      simp [List.isPrefixOf, different]

theorem configurationErrors_startupEntries {checked : List LogEntry}
    (check : service.checkEntries tree = .ok checked) :
    ∃ entries, service.startupEntries tree = .ok entries ∧
      configurationErrors entries = configurationErrors checked := by
  have starting := configurationErrors_of_head
    [ruler, note ("pagedemo " ++ Health.version ++ " starting up...")] (by decide +kernel)
  have templates : configurationErrors
      [note ("Templates: " ++ service.resolver.templatesDir)] = [] :=
    configurationErrors_of_head _ (by simp [note])
  have pages := configurationErrors_of_head (Pages.table.map pageEntry) (by decide +kernel)
  have ready : configurationErrors [note ("Server ready at http://" ++
      service.settings.backendHost ++ ":" ++ toString service.settings.backendPort), ruler] =
        [] := by
    have line : ruler.message.toList.head? = some '=' := by decide
    exact configurationErrors_of_head _ (by simp [note, line])
  refine ⟨[ruler, note ("pagedemo " ++ Health.version ++ " starting up...")] ++ checked ++
    [note ("Templates: " ++ service.resolver.templatesDir)] ++ Pages.table.map pageEntry ++
    [note ("Server ready at http://" ++ service.settings.backendHost ++ ":" ++
      toString service.settings.backendPort), ruler], ?_, ?_⟩
  · rw [startupEntries, check]
    rfl
  · simp only [configurationErrors_append, starting, templates, pages, ready, List.nil_append,
      List.append_nil]

theorem configurationErrors_of_problems (problems : List SetupProblem) :
    (configurationErrors [⟨startupLogger, .error,
      "Configuration error: " ++ (SetupFault.invalid problems).message, none, none⟩]).length =
        1 := by
  have told : "Configuration error: ".toList.isPrefixOf ("Configuration error: " ++
      (SetupFault.invalid problems).message).toList = true := by
    rw [String.toList_append]
    exact List.isPrefixOf_iff_prefix.mpr (List.prefix_append _ _)
  simp only [configurationErrors, List.filter_cons, told, ↓reduceIte, List.filter_nil,
    List.length_singleton]

end Service

/-! The start and the health check -/

section Agreement

theorem Health.degraded_reportOf (views : List String) (found : String → Bool) (uptime : Float) :
    (reportOf views found uptime).status = "degraded" ↔ ∃ view ∈ views, found view = false := by
  have word (all : Bool) : (if all then "healthy" else "degraded") = "degraded" ↔ all = false := by
    cases all <;> decide
  unfold reportOf report
  dsimp only
  rw [word, List.all_eq_false]
  simp only [List.mem_map, Bool.not_eq_true]
  constructor
  · rintro ⟨_, ⟨view, member, rfl⟩, gone⟩
    exact ⟨view, member, gone⟩
  · rintro ⟨view, member, gone⟩
    exact ⟨_, ⟨view, member, rfl⟩, gone⟩

/-- Views of pages go below the directory, whatever their templates' names end with. -/
theorem Resolver.properParts_of_page (r : Resolver) :
    ∃ view ∈ Pages.viewNames, properParts (r.templateName view).toList ≠ [] := by
  refine ⟨"index", by decide, ?_⟩
  have first : 'i' ∈ (r.templateName "index").toList := by
    rw [templateName, String.toList_append]
    exact List.mem_append_left _ (by decide)
  exact properParts_ne_nil (by decide) (by decide) first

variable {r : Resolver} {tree : Tree} {views : List String}

/-- The check of ordinary views passes, or it names problems because a view is missed. -/
theorem Resolver.Ordinary.checkViews_cases (ordinary : r.Ordinary views) (tree : Tree)
    (some_view : views ≠ [])
    (below : (∃ bytes, tree.find r.templatesDir.toList = .ok (.file bytes)) →
      ∃ view ∈ views, properParts (r.templateName view).toList ≠ []) :
    (checkViews tree r.templatesDir r.suffix views = .ok () ∧
        ∀ view ∈ views, r.hasView tree view ≠ .ok false) ∨
      ∃ problems, checkViews tree r.templatesDir r.suffix views = .error (.invalid problems) ∧
        ∃ view ∈ views, r.hasView tree view = .ok false := by
  by_cases root : tree.find r.templatesDir.toList = .ok .directory
  · rw [ordinary.checkViews_of_directory some_view root]
    by_cases complete : views.filter (r.misses tree) = []
    · left
      refine ⟨if_pos (by rw [complete]; rfl), fun view member missed => ?_⟩
      exact List.filter_eq_nil_iff.mp complete view member (Resolver.misses_iff.mpr missed)
    · right
      obtain ⟨view, missing⟩ := List.exists_mem_of_ne_nil _ complete
      obtain ⟨member, missed⟩ := List.mem_filter.mp missing
      exact ⟨_, if_neg (by simpa using complete), view, member, Resolver.misses_iff.mp missed⟩
  · right
    obtain ⟨view, member, missed⟩ := ordinary.misses_of_no_directory some_view below root
    exact ⟨_, ordinary.checkViews_of_no_directory some_view root, view, member,
      Resolver.misses_iff.mp missed⟩

theorem Service.configurationErrors_of_views {τ : Type} {service : Service τ}
    (ordinary : service.resolver.Ordinary Pages.viewNames) :
    ∃ entries, service.startupEntries tree = .ok entries ∧
      ((∃ view ∈ Pages.viewNames, service.resolver.hasView tree view = .ok false) →
        (configurationErrors entries).length = 1) ∧
      ((∀ view ∈ Pages.viewNames, service.resolver.hasView tree view ≠ .ok false) →
        configurationErrors entries = []) := by
  rcases ordinary.checkViews_cases tree (List.cons_ne_nil _ _)
      fun _ => service.resolver.properParts_of_page with
    ⟨passes, found⟩ | ⟨problems, fails, missed⟩
  · have check : service.checkEntries tree = .ok [] := by
      simp only [checkEntries, passes]
    obtain ⟨entries, started, errors⟩ := configurationErrors_startupEntries check
    refine ⟨entries, started, ?_, fun _ => errors⟩
    rintro ⟨view, member, missed⟩
    exact absurd missed (found view member)
  · have check : service.checkEntries tree = .ok [⟨startupLogger, .error,
        "Configuration error: " ++ (SetupFault.invalid problems).message, none, none⟩] := by
      simp only [checkEntries, fails]
    obtain ⟨entries, started, errors⟩ := configurationErrors_startupEntries check
    refine ⟨entries, started, ?_, ?_⟩
    · intro _
      rw [errors]
      exact configurationErrors_of_problems problems
    · intro found
      obtain ⟨view, member, missed⟩ := missed
      exact absurd missed (found view member)

/-- The check at the start and the resolver agree: ordinary views pass the check, or it fails with a
list of problems, and that exactly if the resolver misses one of them. Where the directory is there,
the problems are the views that are missed, as often and in the order in which they are given;
otherwise the only problem is the directory. A file in the directory's place has to be told from a
directory by some view's name. So a service, wherever its resolver comes from, starts with exactly
one entry about its configuration if the health check calls it degraded at these files, and with
none otherwise. -/
theorem startup_check_agrees_with_resolver {τ : Type} [Clock τ] (tree : Tree) :
    (∀ (r : Resolver) (views : List String), views ≠ [] → r.Ordinary views →
      ((∃ bytes, tree.find r.templatesDir.toList = .ok (.file bytes)) →
        ∃ view ∈ views, properParts (r.templateName view).toList ≠ []) →
      let check := checkViews tree r.templatesDir r.suffix views
      ((∃ problems, check = .error (.invalid problems)) ↔
          ∃ view ∈ views, r.hasView tree view = .ok false) ∧
        ((∀ problems, check ≠ .error (.invalid problems)) → check = .ok ()) ∧
        ∀ problems, check = .error (.invalid problems) →
          (tree.find r.templatesDir.toList = .ok .directory →
            problems = (views.filter (r.misses tree)).map r.missingProblem) ∧
          (tree.find r.templatesDir.toList ≠ .ok .directory →
            problems = [.notDirectory
              (String.ofList (PathName.ofPath r.templatesDir.toList).text)])) ∧
    ∀ service : Service τ, tree.IsText → service.resolver.Ordinary Pages.viewNames →
      ∃ entries, service.startupEntries tree = .ok entries ∧
        ∀ store m v uptime finite, store.tree = tree → service.AsksHealth m.limiter v →
          Clock.elapsed v.now service.start = .ok uptime →
          Numeral.valueOf uptime = .finite finite →
          let answer := (service.serve store m v).response
          ∃ (status : String) (states : List (String × String)), answer.status = 200 ∧
            answer.body = .text (Value.dict [("status", .text status), ("version", .text "1.0.0"),
              ("views", .dict (states.map fun (view, state) => (view, .text state))),
              ("uptime_seconds", .number (.real uptime))]).json ∧
            (status = "degraded" → (Service.configurationErrors entries).length = 1) ∧
            (status ≠ "degraded" → Service.configurationErrors entries = []) := by
  constructor
  · intro r views some_view ordinary below check
    have cases := ordinary.checkViews_cases tree some_view below
    refine ⟨?_, ?_, ?_⟩
    · rcases cases with ⟨passes, found⟩ | ⟨problems, fails, view, member, missed⟩
      · constructor
        · rintro ⟨problems, fails⟩
          exact nomatch fails.symm.trans passes
        · rintro ⟨view, member, missed⟩
          exact absurd missed (found view member)
      · exact ⟨fun _ => ⟨view, member, missed⟩, fun _ => ⟨problems, fails⟩⟩
    · intro other
      rcases cases with ⟨passes, _⟩ | ⟨problems, fails, _⟩
      · exact passes
      · exact absurd fails (other problems)
    · intro problems fails
      constructor
      · intro root
        have whole := (ordinary.checkViews_of_directory some_view root).symm.trans fails
        split at whole
        · cases whole
        · exact (SetupFault.invalid.inj (Except.error.inj whole)).symm
      · intro root
        have whole := (ordinary.checkViews_of_no_directory some_view root).symm.trans fails
        exact (SetupFault.invalid.inj (Except.error.inj whole)).symm
  · intro service text ordinary
    obtain ⟨entries, started, one, none⟩ := Service.configurationErrors_of_views ordinary
    refine ⟨entries, started, fun store m v uptime finite same asks elapsed stated => ?_⟩
    -- What the resolver finds decides what the check reports and what the health check answers.
    choose found looked using service.resolver.hasView_of_text text
    have missed (view : String) : found view = false ↔
        service.resolver.hasView tree view = .ok false := by
      rw [looked view, Except.ok.injEq]
    have answered := Service.serve_health asks (fun view _ => same ▸ looked view) elapsed stated
    refine ⟨_, (Health.reportOf Pages.viewNames found uptime).views, answered.1, answered.2.1,
      fun degraded => one ?_, fun healthy => none ?_⟩
    · simpa only [Health.degraded_reportOf, missed] using degraded
    · simpa only [ne_eq, Health.degraded_reportOf, missed, not_exists, not_and] using healthy

theorem greeting_text : greeting.IsText := by
  intro entry member
  simp only [greeting, List.mem_cons, List.not_mem_nil, or_false] at member
  rcases member with rfl | rfl | rfl
  · trivial
  · trivial
  · exact ⟨"Hi \x7b\x7b view_name \x7d\x7d".toList, by decide +kernel⟩

theorem startup_check_of_greeting :
    (checkViews greeting "/@/templates" ".html" ["login", "index", "login"] =
      .error (.invalid [.missingTemplate "login" "/@/templates/login.html",
        .missingTemplate "login" "/@/templates/login.html"])) ∧
    ∃ (entries : List LogEntry) (status : String) (states : List (String × String)),
      greeter.startupEntries greeting = .ok entries ∧
      (greeter.serve (.ofTree greeting) {} (visitTo "/health")).response.body =
        .text (Value.dict [("status", .text status), ("version", .text "1.0.0"),
          ("views", .dict (states.map fun (view, state) => (view, .text state))),
          ("uptime_seconds", .number (.real (ExactClock.hundredths 0)))]).json ∧
      (status = "degraded" → (Service.configurationErrors entries).length = 1) := by
  have agreement := startup_check_agrees_with_resolver (τ := Rat) greeting
  constructor
  · have ordinary : greeter.resolver.Ordinary ["login", "index", "login"] := by
      constructor <;> decide +kernel
    have root : greeting.find greeter.resolver.templatesDir.toList = .ok .directory := by
      decide +kernel
    obtain ⟨fails, _, problems⟩ := agreement.1 greeter.resolver ["login", "index", "login"]
      (by decide) ordinary (fun _ => ⟨"index", by decide, by decide +kernel⟩)
    obtain ⟨found, failed⟩ := fails.mpr ⟨"login", by decide, rfl⟩
    have listed : found = [.missingTemplate "login" "/@/templates/login.html",
        .missingTemplate "login" "/@/templates/login.html"] :=
      ((problems found failed).1 root).trans rfl
    rw [listed] at failed
    exact failed
  · have ordinary : greeter.resolver.Ordinary Pages.viewNames := by
      constructor <;> decide +kernel
    obtain ⟨entries, started, reports⟩ := agreement.2 greeter greeting_text ordinary
    obtain ⟨asks, elapsed, finite⟩ := greeter_asks_health {}
    obtain ⟨status, states, _, body, degraded, _⟩ :=
      reports (.ofTree greeting) {} (visitTo "/health") _ _ rfl asks elapsed finite
    exact ⟨entries, status, states, started, body, degraded⟩

/-- A resolver whose directory is a file. -/
def misplaced : Resolver :=
  .standard "/@/templates/index.html" ""

def wideName : Name :=
  List.replicate 255 'a'

/-- A resolver with a suffix of many components, none of them too long. -/
def endless : Resolver :=
  .standard "/@/templates" (String.ofList ('/' :: joinWith ['/'] (List.replicate 17 wideName)))

theorem components_endless : components (endless.templateName "index").toList =
    "index".toList :: List.replicate 17 wideName := by
  have name : (endless.templateName "index").toList = "index".toList ++
      '/' :: joinWith ['/'] (List.replicate 17 wideName) := by
    simp only [Resolver.templateName, Resolver.standard, endless, String.toList_append,
      String.toList_ofList]
  have whole : ∀ part ∈ List.replicate 17 wideName, '/' ∉ part := by
    intro part member
    rw [List.eq_of_mem_replicate member]
    exact fun slash => absurd (List.eq_of_mem_replicate slash) (by decide)
  rw [name, components, splitAt_append_sep, splitAt_joinWith (by simp) whole]
  rfl

theorem relative_endless : (endless.templateName "index").toList.head? ≠ some '/' := by
  simp only [Resolver.templateName, String.toList_append]
  decide

theorem ordinary_of_mem_endless {part : Name}
    (member : part ∈ components (endless.templateName "index").toList) :
    isProper part ∧ part ≠ dotDot ∧ (encodeUtf8 part).length ≤ mostNameBytes := by
  rw [components_endless] at member
  rcases List.mem_cons.mp member with rfl | wide
  · decide +kernel
  · rw [List.eq_of_mem_replicate wide]
    decide +kernel

theorem properParts_endless : properParts (endless.templatePath "index") =
    ["@".toList, "templates".toList, "index".toList] ++ List.replicate 17 wideName := by
  have below : properParts (endless.templateName "index").toList =
      "index".toList :: List.replicate 17 wideName := by
    rw [properParts, List.filter_eq_self.mpr fun part member => (ordinary_of_mem_endless member).1,
      components_endless]
  rw [Resolver.properParts_templatePath (by decide), below]
  rfl

theorem long_of_properParts {path : List Char} {front : List Name}
    (parts : properParts path = front ++ List.replicate 17 wideName) :
    tooManyPathBytes ≤ (encodeUtf8 path).length := by
  have bytes := PathName.utf8_properParts_le path
  have wide (count width : Nat) : (List.flatMap utf8Bytes
      (List.replicate count (List.replicate width 'a')).flatten).length = count * width := by
    have one : (utf8Bytes 'a').length = 1 := by decide
    rw [List.flatten_replicate_replicate, List.length_flatMap, List.map_replicate,
      List.sum_replicate_nat, one, Nat.mul_one]
  rw [parts, List.flatten_append, encodeUtf8, List.flatMap_append, List.length_append,
    wideName, wide] at bytes
  unfold tooManyPathBytes
  omega

theorem checkViews_endless : checkViews greeting endless.templatesDir endless.suffix ["index"] =
    .error (.inaccessible ⟨.nameTooLong, .ofPath (endless.templatePath "index")⟩) := by
  have noNul : '\x00' ∉ endless.templatePath "index" := by
    rw [mem_iff_mem_properParts (by decide) (by decide), properParts_endless]
    rintro ⟨part, member, nul⟩
    rcases List.mem_append.mp member with front | wide
    · revert part
      decide
    · rw [List.eq_of_mem_replicate wide] at nul
      exact absurd (List.eq_of_mem_replicate nul) (by decide)
  have long := long_of_properParts
    ((PathName.properParts_text (endless.templatePath "index")).trans properParts_endless)
  exact Resolver.checkViews_of_long (by decide) relative_endless noNul long rfl []

/-- Where a file stands in the directory's place, a name that stays there leads the resolver to the
file, and the check refuses the file nonetheless. Where a path is too long as a whole, the resolver
finds nothing, and the check ends without naming a problem. -/
theorem startup_check_of_file_and_of_long_path :
    (misplaced.Ordinary ["."] ∧ misplaced.hasView greeting "." = .ok true ∧
      checkViews greeting misplaced.templatesDir misplaced.suffix ["."] =
        .error (.invalid [.notDirectory "/@/templates/index.html"])) ∧
    ((endless.templateName "index").toList.head? ≠ some '/' ∧
      (∀ part ∈ components (endless.templateName "index").toList,
        part ≠ dotDot ∧ (encodeUtf8 part).length ≤ mostNameBytes) ∧
      endless.hasView greeting "index" = .ok false ∧
      ∀ problems, checkViews greeting endless.templatesDir endless.suffix ["index"] ≠
        .error (.invalid problems)) := by
  have straight : dotDot ∉ components (endless.templateName "index").toList :=
    fun member => (ordinary_of_mem_endless member).2.1 rfl
  refine ⟨⟨?_, rfl, rfl⟩, relative_endless, fun part member => (ordinary_of_mem_endless member).2,
    ?_, fun problems named => nomatch checkViews_endless.symm.trans named⟩
  · constructor <;> decide +kernel
  · refine Resolver.misses_iff.mp ((Resolver.misses_iff_no_file straight).mpr fun bytes found => ?_)
    have fits := (Tree.find_ok_iff_walk.mp found).1.fits
    have long := long_of_properParts properParts_endless
    omega

end Agreement

end PageServer
