import PageServer.Value
/-! What stands under the names in a list of named things, of which the first of each name counts,
and what setting some of them does to that. -/
namespace PageServer

theorem lookup_row {α β : Type} [BEq α] [LawfulBEq α] [DecidableEq α] (key name : α) (value : β)
    (rest : List (α × β)) :
    ((key, value) :: rest).lookup name = if name = key then some value else rest.lookup name := by
  by_cases same : name = key
  · simp [same]
  · simp [List.lookup_cons, same, beq_false_of_ne same]

namespace Entries

theorem get?_cons (key name : String) (value : Value) (rest : Entries) :
    get? ((key, value) :: rest) name = if name = key then some value else get? rest name :=
  lookup_row key name value rest

theorem get?_set (entries : Entries) (key name : String) (value : Value) :
    (entries.set key value).get? name = if name = key then some value else entries.get? name := by
  induction entries with
  | nil => exact get?_cons key name value []
  | cons entry rest ih =>
      obtain ⟨k, v⟩ := entry
      by_cases here : k = key
      · subst here
        simp only [set, if_true, get?_cons]
        split <;> rfl
      · simp only [set, here, if_false, get?_cons, ih]
        by_cases found : name = k
        · subst found
          simp [here]
        · simp [found]

theorem set_of_get? {entries : Entries} {key : String} {value : Value}
    (there : entries.get? key = some value) : entries.set key value = entries := by
  induction entries with
  | nil => cases there
  | cons entry rest ih =>
      obtain ⟨k, v⟩ := entry
      rw [get?_cons] at there
      by_cases here : key = k
      · subst here
        simp only [if_true, Option.some.injEq] at there
        simp [set, there]
      · rw [if_neg here] at there
        simp [set, Ne.symm here, ih there]

/-- The entries with others set, one after the other. -/
def setAll (entries added : Entries) : Entries :=
  added.foldl (fun entries entry => entries.set entry.1 entry.2) entries

theorem get?_setAll_of_not_mem {added : Entries} {name : String}
    (other : name ∉ added.map Prod.fst) (entries : Entries) :
    (entries.setAll added).get? name = entries.get? name := by
  induction added generalizing entries with
  | nil => rfl
  | cons entry rest ih =>
      simp only [List.map_cons, List.mem_cons, not_or] at other
      change ((entries.set entry.1 entry.2).setAll rest).get? name = _
      rw [ih other.2, get?_set, if_neg other.1]

theorem get?_setAll_of_mem {added : Entries} (distinct : (added.map Prod.fst).Nodup)
    {entry : String × Value} (member : entry ∈ added) (entries : Entries) :
    (entries.setAll added).get? entry.1 = some entry.2 := by
  induction added generalizing entries with
  | nil => cases member
  | cons first rest ih =>
      obtain ⟨fresh, rest_distinct⟩ := List.nodup_cons.mp distinct
      change ((entries.set first.1 first.2).setAll rest).get? entry.1 = _
      rcases List.mem_cons.mp member with rfl | later
      · rw [get?_setAll_of_not_mem fresh, get?_set, if_pos rfl]
      · exact ih rest_distinct later _

theorem setAll_eq_self_iff {added : Entries} (distinct : (added.map Prod.fst).Nodup)
    (entries : Entries) :
    entries.setAll added = entries ↔ ∀ entry ∈ added, entries.get? entry.1 = some entry.2 := by
  constructor
  · intro unchanged entry member
    rw [← unchanged]
    exact get?_setAll_of_mem distinct member entries
  · intro there
    induction added with
    | nil => rfl
    | cons first rest ih =>
        change (entries.set first.1 first.2).setAll rest = entries
        rw [set_of_get? (there first List.mem_cons_self)]
        exact ih (List.nodup_cons.mp distinct).2
          fun entry member => there entry (List.mem_cons_of_mem first member)

end Entries

end PageServer
