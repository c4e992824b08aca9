import Mathlib.Data.List.Induction
import Mathlib.Data.List.Nodup
import PageServer.Settings.Sources
/-! Assignments that are made one after the other, first under their own names and then under the
names by which these are compared. A name has the value that it got last, but it stands where it
came first: among names that are equal but for letter case, the one that came first latest wins. -/
namespace PageServer.Settings

section Latest

variable {κ α : Type} [BEq κ]

theorem latest_concat (assignments : List (κ × α)) (name : κ) (value : α) :
    latest (assignments ++ [(name, value)]) =
      if (latest assignments).any (·.1 == name) then
        (latest assignments).map fun e => if e.1 == name then (name, value) else e
      else latest assignments ++ [(name, value)] := by
  unfold latest
  rw [List.foldl_append]
  rfl

variable [LawfulBEq κ]

theorem names_replaced (entries : List (κ × α)) (name : κ) (value : α) :
    (entries.map fun e => if e.1 == name then (name, value) else e).map Prod.fst =
      entries.map Prod.fst := by
  rw [List.map_map]
  apply List.map_congr_left
  intro e _
  by_cases same : e.1 = name <;> simp [same]

theorem mem_names_latest (assignments : List (κ × α)) (name : κ) :
    name ∈ (latest assignments).map Prod.fst ↔ name ∈ assignments.map Prod.fst := by
  induction assignments using List.reverseRecOn with
  | nil => rfl
  | append_singleton front e ih =>
      obtain ⟨last, value⟩ := e
      rw [latest_concat, List.map_append, List.mem_append, ← ih]
      split
      · rename_i found
        have again : last ∈ (latest front).map Prod.fst := by simpa using found
        rw [names_replaced]
        constructor
        · exact .inl
        · rintro (before | here)
          · exact before
          · have same : name = last := by simpa using here
            exact same ▸ again
      · rw [List.map_append, List.mem_append]

theorem any_latest (assignments : List (κ × α)) (name : κ) :
    (latest assignments).any (·.1 == name) = true ↔ name ∈ assignments.map Prod.fst := by
  rw [← mem_names_latest]
  simp

-- Names stand in the order in which they came first.
theorem names_latest_ordered (assignments : List (κ × α)) :
    ((latest assignments).map Prod.fst).Pairwise fun name name' =>
      (assignments.map Prod.fst).idxOf name < (assignments.map Prod.fst).idxOf name' := by
  induction assignments using List.reverseRecOn with
  | nil => exact .nil
  | append_singleton front e ih =>
      obtain ⟨last, value⟩ := e
      have old (name : κ) (member : name ∈ (latest front).map Prod.fst) :
          ((front ++ [(last, value)]).map Prod.fst).idxOf name =
            (front.map Prod.fst).idxOf name := by
        rw [List.map_append, List.idxOf_append_of_mem ((mem_names_latest front name).mp member)]
      have kept : ((latest front).map Prod.fst).Pairwise fun name name' =>
          ((front ++ [(last, value)]).map Prod.fst).idxOf name <
            ((front ++ [(last, value)]).map Prod.fst).idxOf name' := by
        refine ih.imp_of_mem ?_
        intro name name' member member' before
        rwa [old name member, old name' member']
      rw [latest_concat]
      split
      · rwa [names_replaced]
      · rename_i fresh
        rw [any_latest] at fresh
        have end_of_names : ((front ++ [(last, value)]).map Prod.fst).idxOf last =
            (front.map Prod.fst).length := by
          rw [List.map_append, List.idxOf_append_of_notMem fresh]
          simp
        have names : (latest front ++ [(last, value)]).map Prod.fst =
            (latest front).map Prod.fst ++ [last] := List.map_append ..
        rw [names, List.pairwise_append]
        refine ⟨kept, List.pairwise_singleton _ _, ?_⟩
        intro name member name' here
        have same : name' = last := by simpa using here
        rw [same, end_of_names, old name member]
        exact List.idxOf_lt_length_of_mem ((mem_names_latest front name).mp member)

theorem nodup_names_latest (assignments : List (κ × α)) :
    ((latest assignments).map Prod.fst).Nodup := by
  refine (names_latest_ordered assignments).imp ?_
  intro name name' before same
  rw [same] at before
  exact Nat.lt_irrefl _ before

theorem lookup_replaced_of_ne (entries : List (κ × α)) {last name : κ} (value : α)
    (differ : name ≠ last) :
    (entries.map fun e => if e.1 == last then (last, value) else e).lookup name =
      entries.lookup name := by
  induction entries with
  | nil => rfl
  | cons e rest ih =>
      obtain ⟨first, kept⟩ := e
      have apart : (name == last) = false := beq_false_of_ne differ
      by_cases same : first = last
      · simp [same, List.lookup_cons, apart, ih]
      · simp [same, List.lookup_cons, ih]

theorem lookup_replaced_self (entries : List (κ × α)) (last : κ) (value : α)
    (found : last ∈ entries.map Prod.fst) :
    (entries.map fun e => if e.1 == last then (last, value) else e).lookup last = some value := by
  induction entries with
  | nil => simp at found
  | cons e rest ih =>
      obtain ⟨first, kept⟩ := e
      by_cases same : first = last
      · simp [same]
      · have later : last ∈ rest.map Prod.fst := by simpa [Ne.symm same] using found
        have apart : (last == first) = false := beq_false_of_ne (Ne.symm same)
        simp [same, List.lookup_cons, apart, ih later]

-- The value of a name is the first one from the end.
theorem lookup_latest (assignments : List (κ × α)) (name : κ) :
    (latest assignments).lookup name = assignments.reverse.lookup name := by
  induction assignments using List.reverseRecOn with
  | nil => rfl
  | append_singleton front e ih =>
      obtain ⟨last, value⟩ := e
      rw [latest_concat, List.reverse_append, List.reverse_singleton, List.singleton_append]
      by_cases same : name = last
      · subst same
        rw [List.lookup_cons_self]
        split
        · rename_i found
          exact lookup_replaced_self _ _ _ (by simpa using found)
        · rename_i fresh
          have absent : (latest front).lookup name = none := by
            rw [List.lookup_eq_none_iff]
            intro e member
            rw [bne_iff_ne]
            rintro rfl
            exact fresh (List.any_eq_true.mpr ⟨e, member, beq_self_eq_true _⟩)
          rw [List.lookup_append, absent, List.lookup_cons_self]
          rfl
      · have apart : (name == last) = false := beq_false_of_ne same
        rw [List.lookup_cons, apart, ← ih]
        split
        · exact lookup_replaced_of_ne _ _ same
        · rw [List.lookup_append, List.lookup_cons, apart]
          exact Option.or_none

theorem lookup_eq_some_iff_of_nodup {entries : List (κ × α)}
    (unique : (entries.map Prod.fst).Nodup) (name : κ) (value : α) :
    entries.lookup name = some value ↔ (name, value) ∈ entries := by
  induction entries with
  | nil => simp
  | cons e rest ih =>
      obtain ⟨first, kept⟩ := e
      rw [List.map_cons, List.nodup_cons] at unique
      obtain ⟨fresh, unique⟩ := unique
      by_cases same : name = first
      · subst same
        have once : (name, value) ∉ rest := by
          intro member
          have again : name ∈ rest.map Prod.fst := List.mem_map_of_mem member
          exact fresh again
        simp [once, eq_comm]
      · have apart : (name == first) = false := beq_false_of_ne same
        simp [List.lookup_cons, apart, same, ih unique]

theorem mem_latest_iff (assignments : List (κ × α)) (name : κ) (value : α) :
    (name, value) ∈ latest assignments ↔ assignments.reverse.lookup name = some value := by
  rw [← lookup_eq_some_iff_of_nodup (nodup_names_latest assignments), lookup_latest]

-- What is left out by its name alone may as well never have been assigned.
theorem filter_latest (assignments : List (κ × α)) (keeps : κ → Bool) :
    (latest assignments).filter (fun e => keeps e.1) =
      latest (assignments.filter fun e => keeps e.1) := by
  induction assignments using List.reverseRecOn with
  | nil => rfl
  | append_singleton front e ih =>
      obtain ⟨last, value⟩ := e
      have replaced (entries : List (κ × α)) :
          (entries.map fun e => if e.1 == last then (last, value) else e).filter
              (fun e => keeps e.1) =
            (entries.filter fun e => keeps e.1).map fun e =>
              if e.1 == last then (last, value) else e := by
        rw [List.filter_map]
        congr 1
        apply List.filter_congr
        intro e _
        by_cases same : e.1 = last <;> simp [same]
      rw [List.filter_append, latest_concat]
      by_cases kept : keeps last
      · have among : last ∈ (front.filter fun e => keeps e.1).map Prod.fst ↔
            last ∈ front.map Prod.fst := by
          simp [kept]
        have single : [(last, value)].filter (fun e => keeps e.1) = [(last, value)] := by
          simp [kept]
        rw [single, latest_concat]
        simp only [any_latest, among]
        split
        · rw [replaced, ih]
        · rw [List.filter_append, single, ih]
      · have none_left : [(last, value)].filter (fun e => keeps e.1) = [] := by simp [kept]
        rw [none_left, List.append_nil, ← ih]
        split
        · rw [replaced]
          conv => rhs; rw [← List.map_id ((latest front).filter fun e => keeps e.1)]
          apply List.map_congr_left
          intro e member
          have apart : e.1 ≠ last := by
            rintro rfl
            exact kept (List.mem_filter.mp member).2
          simp [apart]
        · rw [List.filter_append, none_left, List.append_nil]

theorem map_latest {κ' β : Type} [BEq κ'] [LawfulBEq κ'] {rename : κ → κ'}
    (injective : Function.Injective rename) (change : α → β) (assignments : List (κ × α)) :
    (latest assignments).map (Prod.map rename change) =
      latest (assignments.map (Prod.map rename change)) := by
  induction assignments using List.reverseRecOn with
  | nil => rfl
  | append_singleton front e ih =>
      obtain ⟨last, value⟩ := e
      have among : rename last ∈ (front.map (Prod.map rename change)).map Prod.fst ↔
          last ∈ front.map Prod.fst := by
        simp [injective.eq_iff]
      rw [List.map_append, List.map_singleton, Prod.map_apply, latest_concat, latest_concat]
      simp only [any_latest, among]
      split
      · rw [← ih, List.map_map, List.map_map]
        apply List.map_congr_left
        intro e _
        by_cases same : e.1 = last
        · simp [same]
        · have apart : rename e.1 ≠ rename last := injective.ne same
          simp [same, apart]
      · rw [List.map_append, ih]
        rfl

end Latest

section Comparison

variable {κ κ' α : Type} [BEq κ'] [LawfulBEq κ']

-- By induction from the end: the last entry under a key hides those before it.
theorem lookup_reverse_map_iff {rank : κ → Nat} {entries : List (κ × α)}
    (ordered : (entries.map Prod.fst).Pairwise fun name name' => rank name < rank name')
    (compare : κ → κ') (key : κ') (value : α) :
    (entries.map fun e => (compare e.1, e.2)).reverse.lookup key = some value ↔
      ∃ name, compare name = key ∧ (name, value) ∈ entries ∧
        ∀ e ∈ entries, compare e.1 = key → rank e.1 ≤ rank name := by
  induction entries using List.reverseRecOn with
  | nil => simp
  | append_singleton front e ih =>
      obtain ⟨last, kept⟩ := e
      rw [List.map_append, List.pairwise_append] at ordered
      obtain ⟨before, _, behind⟩ := ordered
      have lower {name : κ} {value : α} (member : (name, value) ∈ front) : rank name < rank last :=
        behind name (List.mem_map_of_mem member) last (by simp)
      rw [List.map_append, List.reverse_append, List.map_singleton, List.reverse_singleton,
        List.singleton_append, List.lookup_cons]
      by_cases here : key = compare last
      · subst here
        rw [beq_self_eq_true]
        constructor
        · intro same
          cases same
          refine ⟨last, rfl, by simp, ?_⟩
          intro e member _
          rcases List.mem_append.mp member with old | new
          · exact Nat.le_of_lt (lower old)
          · have same : e = (last, kept) := by simpa using new
            subst same
            exact Nat.le_refl _
        · rintro ⟨name, _, member, highest⟩
          rcases List.mem_append.mp member with old | new
          · have bound := highest (last, kept) (by simp) rfl
            exact absurd (lower old) (Nat.not_lt.mpr bound)
          · have same : name = last ∧ value = kept := by simpa using new
            rw [same.2]
      · have apart : (key == compare last) = false := beq_false_of_ne here
        rw [apart]
        refine (ih before).trans ?_
        constructor
        · rintro ⟨name, rfl, member, highest⟩
          refine ⟨name, rfl, by simp [member], ?_⟩
          intro e among same
          rcases List.mem_append.mp among with old | new
          · exact highest e old same
          · have last_one : e = (last, kept) := by simpa using new
            rw [last_one] at same
            exact absurd same.symm here
        · rintro ⟨name, rfl, member, highest⟩
          rcases List.mem_append.mp member with old | new
          · exact ⟨name, rfl, old, fun e among => highest e (by simp [among])⟩
          · have same : name = last ∧ value = kept := by simpa using new
            exact absurd (congrArg compare same.1) here

end Comparison

/-! Names by which assignments are compared -/

section Names

/-- A name has a value at the end of all assignments, and the value is not passed over. -/
def Stands (o : Options) (assignments : List (String × Option String)) (name : String)
    (value : Option String) : Prop :=
  assignments.reverse.lookup name = some value ∧ ¬ (o.skipsEmpty = true ∧ value = some "")

/-- What assignments give under the name by which others are compared: of all names that are equal
in this way, the one that was first assigned latest has its say, with the value it got last. -/
def Gives (o : Options) (assignments : List (String × Option String)) (key : String)
    (value : Option String) : Prop :=
  ∃ name, o.normal name = key ∧ Stands o assignments name value ∧
    ∀ other value', o.normal other = key → Stands o assignments other value' →
      (assignments.map Prod.fst).idxOf other ≤ (assignments.map Prod.fst).idxOf name

variable (o : Options) (assignments : List (String × Option String))

theorem mem_standing_iff (name : String) (value : Option String) :
    (name, value) ∈ (latest assignments).filter (fun e => !(o.skipsEmpty && e.2 == some "")) ↔
      Stands o assignments name value := by
  rw [List.mem_filter, mem_latest_iff]
  refine and_congr_right fun _ => ?_
  cases o.skipsEmpty <;> simp

theorem lookup_normalized_iff (key : String) (value : Option String) :
    (Sources.normalized o (latest assignments)).lookup key = some value ↔
      Gives o assignments key value := by
  have ordered := (names_latest_ordered assignments).sublist
    (List.Sublist.map Prod.fst
      (List.filter_sublist (p := fun e => !(o.skipsEmpty && e.2 == some ""))))
  unfold Sources.normalized
  rw [lookup_latest, lookup_reverse_map_iff ordered o.normal]
  simp only [mem_standing_iff, Gives]
  refine exists_congr fun name => and_congr_right fun _ => and_congr_right fun _ => ?_
  constructor
  · intro highest other value' same stands
    exact highest (other, value') ((mem_standing_iff o assignments other value').mpr stands) same
  · rintro highest ⟨other, value'⟩ member same
    exact highest other value' same ((mem_standing_iff o assignments other value').mp member)

theorem mem_normalized_iff (key : String) (value : Option String) :
    (key, value) ∈ Sources.normalized o (latest assignments) ↔ Gives o assignments key value := by
  rw [← lookup_normalized_iff]
  exact (lookup_eq_some_iff_of_nodup (nodup_names_latest _) key value).symm

theorem filter_normalized (keeps : String → Bool) :
    (Sources.normalized o (latest assignments)).filter (fun e => keeps e.1) =
      Sources.normalized o (latest (assignments.filter fun e => keeps (o.normal e.1))) := by
  unfold Sources.normalized
  rw [filter_latest, ← filter_latest assignments (fun name => keeps (o.normal name)),
    List.filter_map, List.filter_filter, List.filter_filter]
  congr 2
  apply List.filter_congr
  intro e _
  exact Bool.and_comm _ _

end Names

end PageServer.Settings
