import PageServer.Proofs.Settings.Sources
/-! Settings come about if the values that decide their fields are all accepted and no name is left
over. Otherwise there is a fault for each refused field, in the order of the fields, and then one
for each name left over. -/
namespace PageServer.Settings

namespace Sources

variable (s : Sources) (f : Field)

/-! Fields -/

/-- What the field says about the value that some source gives it. -/
def complaint? : Option Complaint :=
  match s.winner? f with
  | none => none
  | some v =>
      match f.store v {} with
      | .ok _ => none
      | .error c => some c

def complaints (fields : List Field) : List (Field × Complaint) :=
  fields.filterMap fun f => (s.complaint? f).map (f, ·)

def faultOf (refusal : Field × Complaint) : FieldFault :=
  ⟨[refusal.1.name], refusal.2⟩

theorem complaint?_eq_some_iff (c : Complaint) :
    s.complaint? f = some c ↔ ∃ v, s.Decides f v ∧ f.Refuses v c := by
  simp only [s.decides_iff, exists_eq_left', complaint?]
  cases s.winner? f with
  | none =>
      -- A default is never refused.
      refine iff_of_false nofun fun refuses => ?_
      exact (f.not_accepts_iff _).mpr ⟨c, refuses⟩ ⟨_, f.converts_default⟩
  | some v =>
      simp only [Option.getD_some]
      rcases f.decided v with ⟨_, complaint, refuses⟩ | ⟨put, stores⟩
      · simp only [refuses {}, Option.some.injEq]
        constructor
        · rintro rfl
          exact refuses
        · intro refuses'
          have same := (refuses {}).symm.trans (refuses' {})
          exact Except.error.inj same
      · simp only [(stores {}).1]
        refine iff_of_false nofun fun refuses => ?_
        have same := (stores {}).1.symm.trans (refuses {})
        cases same

theorem decideField_error (faults : List FieldFault) :
    decideField s (.error faults) f = .error (faults ++ (s.complaints [f]).map faultOf) := by
  cases won : s.winner? f with
  | none => simp [decideField, complaints, complaint?, won]
  | some v =>
      cases kept : f.store v {} <;>
        simp [decideField, complaints, complaint?, won, kept, faultOf]

theorem decideField_of_refused {c : Complaint} (refused : s.complaint? f = some c) (t : Settings) :
    decideField s (.ok t) f = .error [faultOf (f, c)] := by
  unfold complaint? at refused
  unfold decideField
  cases won : s.winner? f with
  | none => simp [won] at refused
  | some v =>
      simp only [won] at refused ⊢
      rcases f.decided v with ⟨_, complaint, refuses⟩ | ⟨put, stores⟩
      · rw [refuses {}, Option.some.injEq] at refused
        rw [refuses t, ← refused]
        rfl
      · rw [(stores {}).1] at refused
        cases refused

theorem decideField_of_accepted (accepted : s.complaint? f = none) (t : Settings)
    (fresh : f.slot t = f.slot {}) :
    ∃ t', decideField s (.ok t) f = .ok t' ∧ (∀ v, s.Decides f v → f.Converts v (f.slot t')) ∧
      ∀ g, g ≠ f → g.slot t' = g.slot t := by
  simp only [s.decides_iff, forall_eq']
  unfold complaint? at accepted
  unfold decideField
  cases won : s.winner? f with
  | none =>
      refine ⟨t, rfl, ?_, fun _ _ => rfl⟩
      rw [Option.getD_none, fresh]
      exact f.converts_default
  | some v =>
      simp only [won] at accepted
      rcases f.decided v with ⟨_, complaint, refuses⟩ | ⟨put, stores⟩
      · rw [refuses {}] at accepted
        cases accepted
      · obtain ⟨stored, converted, frame⟩ := stores t
        exact ⟨put t, by simp only [stored, Except.mapError], converted, frame⟩

theorem foldl_error (fields : List Field) (faults : List FieldFault) :
    fields.foldl (decideField s) (.error faults) =
      .error (faults ++ (s.complaints fields).map faultOf) := by
  induction fields generalizing faults with
  | nil => simp [complaints]
  | cons f rest ih =>
      have first : s.complaints (f :: rest) = s.complaints [f] ++ s.complaints rest := by
        simp [complaints, List.filterMap_append.symm]
      rw [List.foldl_cons, decideField_error, ih, first, List.map_append, List.append_assoc]

/-- The fields in any order, each once, while those to come keep their defaults. -/
theorem foldl_ok (fields : List Field) (unique : fields.Nodup) (t : Settings)
    (fresh : ∀ f ∈ fields, f.slot t = f.slot {}) :
    (s.complaints fields = [] ∧ ∃ t', fields.foldl (decideField s) (.ok t) = .ok t' ∧
        (∀ f ∈ fields, ∀ v, s.Decides f v → f.Converts v (f.slot t')) ∧
        ∀ g, g ∉ fields → g.slot t' = g.slot t) ∨
      s.complaints fields ≠ [] ∧ fields.foldl (decideField s) (.ok t) =
        .error ((s.complaints fields).map faultOf) := by
  induction fields generalizing t with
  | nil => exact .inl ⟨rfl, t, rfl, nofun, fun _ _ => rfl⟩
  | cons f rest ih =>
      obtain ⟨once, unique⟩ := List.nodup_cons.mp unique
      cases complaint : s.complaint? f with
      | some c =>
          have first : s.complaints (f :: rest) = (f, c) :: s.complaints rest := by
            simp [complaints, complaint]
          refine .inr ⟨by simp [first], ?_⟩
          rw [List.foldl_cons, s.decideField_of_refused f complaint, foldl_error, first]
          rfl
      | none =>
          have first : s.complaints (f :: rest) = s.complaints rest := by
            simp [complaints, complaint]
          obtain ⟨t', decided, converted, frame⟩ :=
            s.decideField_of_accepted f complaint t (fresh f List.mem_cons_self)
          have still_fresh : ∀ g ∈ rest, g.slot t' = g.slot {} := by
            intro g member
            have other : g ≠ f := fun same => once (same ▸ member)
            rw [frame g other, fresh g (.tail _ member)]
          rw [List.foldl_cons, decided, first]
          rcases ih unique t' still_fresh with
            ⟨none_refused, t'', folded, conversions, frame'⟩ | refused
          · refine .inl ⟨none_refused, t'', folded, ?_, ?_⟩
            · intro g member v decides
              rcases List.mem_cons.mp member with rfl | later
              · rw [frame' g once]
                exact converted v decides
              · exact conversions g later v decides
            · intro g outside
              rw [List.mem_cons, not_or] at outside
              rw [frame' g outside.2, frame g outside.1]
          · exact .inr refused

theorem mem_complaints_iff (c : Complaint) :
    (f, c) ∈ s.complaints Field.all ↔ ∃ v, s.Decides f v ∧ f.Refuses v c := by
  rw [← s.complaint?_eq_some_iff, complaints, List.mem_filterMap]
  constructor
  · rintro ⟨g, _, complaint⟩
    obtain ⟨_, found, same⟩ := Option.map_eq_some_iff.mp complaint
    cases same
    exact found
  · intro complaint
    exact ⟨f, f.mem_all, by rw [complaint]; rfl⟩

theorem fields_of_complaints (fields : List Field) :
    ((s.complaints fields).map Prod.fst).Sublist fields := by
  induction fields with
  | nil => exact .slnil
  | cons f rest ih =>
      unfold complaints at ih ⊢
      cases complaint : s.complaint? f with
      | none => simpa [complaint] using ih.cons f
      | some c => simpa [complaint] using ih.cons_cons f

theorem complaints_eq_nil_iff :
    s.complaints Field.all = [] ↔ ∀ f v, s.Decides f v → f.Accepts v := by
  rw [List.eq_nil_iff_forall_not_mem]
  constructor
  · intro none_refused f v decides
    by_contra refused
    obtain ⟨c, refuses⟩ := (f.not_accepts_iff v).mp refused
    exact none_refused (f, c) ((s.mem_complaints_iff f c).mpr ⟨v, decides, refuses⟩)
  · rintro accepted ⟨f, c⟩ member
    obtain ⟨v, decides, refuses⟩ := (s.mem_complaints_iff f c).mp member
    exact (f.not_accepts_iff v).mpr ⟨c, refuses⟩ (accepted f v decides)

theorem unknownNames_eq_nil_iff : s.unknownNames = [] ↔ ∀ name, ¬ s.Strays name := by
  simp only [List.eq_nil_iff_forall_not_mem, s.mem_unknownNames_iff]

theorem mem_fields_of_complaints_iff {v : Value} (decides : s.Decides f v) :
    f ∈ (s.complaints Field.all).map Prod.fst ↔ ¬ f.Accepts v := by
  rw [f.not_accepts_iff, List.mem_map]
  constructor
  · rintro ⟨⟨_, c⟩, member, rfl⟩
    obtain ⟨w, decides', refuses⟩ := (s.mem_complaints_iff _ c).mp member
    have same := (s.decides_unique _ decides decides')
    exact ⟨c, same ▸ refuses⟩
  · rintro ⟨c, refuses⟩
    exact ⟨(f, c), (s.mem_complaints_iff f c).mpr ⟨v, decides, refuses⟩, rfl⟩

/-! Outcomes -/

theorem resolve_cases :
    (s.complaints Field.all = [] ∧ s.unknownNames = [] ∧ ∃ r, resolve s = .ok r ∧
        ∀ f v, s.Decides f v → f.Converts v (f.slot r.settings)) ∨
      ¬ (s.complaints Field.all = [] ∧ s.unknownNames = []) ∧ resolve s =
        .error ⟨"Settings", (s.complaints Field.all).map faultOf ++
          s.unknownNames.map fun name => ⟨[name], .unknownName⟩⟩ := by
  unfold resolve
  rcases s.foldl_ok Field.all (by decide) {} (fun _ _ => rfl) with
    ⟨none_refused, t, folded, converted, _⟩ | ⟨refused, folded⟩
  · rw [folded]
    cases unknown : s.unknownNames with
    | nil => exact .inl ⟨none_refused, rfl, _, rfl, fun f => converted f f.mem_all⟩
    | cons name rest =>
        rw [none_refused]
        exact .inr ⟨nofun, rfl⟩
  · rw [folded]
    exact .inr ⟨fun accepted => refused accepted.1, rfl⟩

variable {s} {s' : Sources}

theorem Agrees.resolve (agrees : s.Agrees s') : Settings.resolve s' = Settings.resolve s := by
  have fields : decideField s' = decideField s := by
    funext soFar f
    simp only [decideField, agrees.winner? f]
  simp only [Settings.resolve, fields, agrees.unknownNames, agrees.winner?]

end Sources

/-- Settings from any arguments with different names, any environment and any file. Exactly one
value decides each field. Settings come about if and only if every field accepts the value that
decides it and no name is left over, and then each field keeps just what becomes of that value.
Otherwise there is exactly one fault for each field that refuses its value, in the order of the
fields, and then one for each name left over. A value in one source has no effect where a source
before it names the same field: sources that agree but for such values lead to the same outcome. -/
theorem resolution_by_deciding_values (s : Sources)
    (distinct : (s.arguments.map Prod.fst).Nodup) :
    (∀ f, ∃! v, s.Decides f v) ∧
      ((∃ r, resolve s = .ok r) ↔
        (∀ f v, s.Decides f v → f.Accepts v) ∧ ∀ name, ¬ s.Strays name) ∧
      (∀ r, resolve s = .ok r → ∀ f v, s.Decides f v →
        ∀ kept, f.Converts v kept ↔ kept = f.slot r.settings) ∧
      (∀ rejection, resolve s = .error rejection →
        ∃ (refusals : List (Field × Complaint)) (unknown : List String),
          rejection = ⟨"Settings", (refusals.map fun e => ⟨[e.1.name], e.2⟩) ++
            unknown.map fun name => ⟨[name], .unknownName⟩⟩ ∧
          (refusals.map Prod.fst).Sublist Field.all ∧
          (∀ f c, (f, c) ∈ refusals ↔ ∃ v, s.Decides f v ∧ f.Refuses v c) ∧
          (∀ f v, s.Decides f v → (f ∈ refusals.map Prod.fst ↔ ¬ f.Accepts v)) ∧
          unknown.Nodup ∧ ∀ name, name ∈ unknown ↔ s.Strays name) ∧
      ∀ s', s.Agrees s' → resolve s' = resolve s := by
  have settled : (∃ r, resolve s = .ok r) ↔
      s.complaints Field.all = [] ∧ s.unknownNames = [] := by
    rcases s.resolve_cases with ⟨none_refused, none_left, r, resolved, _⟩ | ⟨faulty, rejected⟩
    · exact iff_of_true ⟨r, resolved⟩ ⟨none_refused, none_left⟩
    · refine iff_of_false ?_ faulty
      rintro ⟨r, resolved⟩
      rw [rejected] at resolved
      cases resolved
  refine ⟨?_, ?_, ?_, ?_, fun s' agrees => agrees.resolve⟩
  · intro f
    exact ⟨_, s.decides_winner? f,
      fun w decides => (s.decides_unique f (s.decides_winner? f) decides).symm⟩
  · rw [settled, s.complaints_eq_nil_iff, s.unknownNames_eq_nil_iff]
  · intro r resolved f v decides kept
    rcases s.resolve_cases with ⟨_, _, r', resolved', converted⟩ | ⟨_, rejected⟩
    · rw [resolved] at resolved'
      cases resolved'
      have converts := converted f v decides
      exact ⟨fun other => Field.converts_unique other converts, fun same => same ▸ converts⟩
    · rw [rejected] at resolved
      cases resolved
  · intro rejection rejected
    rcases s.resolve_cases with ⟨_, _, r, resolved, _⟩ | ⟨_, rejected'⟩
    · rw [rejected] at resolved
      cases resolved
    · rw [rejected] at rejected'
      cases rejected'
      exact ⟨s.complaints Field.all, s.unknownNames, rfl, s.fields_of_complaints Field.all,
        s.mem_complaints_iff, fun f v => s.mem_fields_of_complaints_iff f,
        s.nodup_unknownNames distinct, s.mem_unknownNames_iff⟩

/-- Sources in which what decides hides values that no field would accept. -/
def layered : Sources :=
  { arguments := [("backend_port", .number (.whole 2000))]
    environment := [("BACKEND_PORT", "80"), ("Log_Level", "debug")]
    file := [⟨"log_level".toList, some "loud".toList⟩,
      ⟨"template_suffix".toList, some "txt".toList⟩] }

theorem resolution_of_layered : ∃ r, resolve layered = .ok r ∧ r.settings.backendPort = 2000 := by
  have settled : (resolve layered).toOption.isSome = true := by decide +kernel
  obtain ⟨r, resolved⟩ : ∃ r, resolve layered = .ok r := by
    cases outcome : resolve layered with
    | ok r => exact ⟨r, rfl⟩
    | error rejection => simp [outcome, Except.toOption] at settled
  have argued : layered.Argues .backendPort (.number (.whole 2000)) :=
    ⟨[], "backend_port", [], rfl, by decide +kernel, nofun⟩
  have converts : Field.backendPort.Converts (.number (.whole 2000)) (.number (.whole 2000)) :=
    ⟨2000, rfl, by decide, by decide, rfl⟩
  have kept := ((resolution_by_deciding_values layered (by decide)).2.2.1 r resolved .backendPort _
    (.argument argued) _).mp converts
  have same : (2000 : Int) = r.settings.backendPort := by
    simpa [Field.slot] using kept
  exact ⟨r, resolved, Int.ofNat_inj.mp same.symm⟩

/-- Arguments name fields in letters of any case as well, and a name that is assigned again keeps
the place at which it came first. -/
theorem letter_case_of_arguments_and_order_of_names :
    ("Log_Level" ∉ Field.all.map Field.name ∧
      (resolve { arguments := [("Log_Level", .text "INFO")] }).toOption.isSome = true) ∧
    (resolve { environment :=
        [("BACKEND_PORT", "2001"), ("backend_port", "2002"), ("BACKEND_PORT", "2003")]
          }).toOption.map
      (fun r => r.settings.backendPort) = some 2002 := by
  decide +kernel

end PageServer.Settings
