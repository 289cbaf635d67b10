/-!
Named values in the order in which they were added. Setting a name that is present replaces its
value in place.
-/

namespace MessageFlow

abbrev Entries (α : Type) := List (String × α)

namespace Entries

variable {α : Type}

def get? (entries : Entries α) (name : String) : Option α := List.lookup name entries

/-- Replaces the value in place, or adds it at the end. -/
def set (entries : Entries α) (name : String) (value : α) : Entries α :=
  match entries with
  | [] => [(name, value)]
  | (n, v) :: rest => if n = name then (n, value) :: rest else (n, v) :: set rest name value

/-- Sets every one of `changes`. -/
def update (entries changes : Entries α) : Entries α :=
  changes.foldl (fun entries (name, value) => set entries name value) entries

@[simp] theorem get?_nil (name : String) : get? ([] : Entries α) name = none := rfl

theorem get?_cons_self (name : String) (value : α) (rest : Entries α) :
    get? ((name, value) :: rest) name = some value := by
  simp [get?]

theorem get?_cons_of_ne {name other : String} (different : other ≠ name) (value : α)
    (rest : Entries α) : get? ((name, value) :: rest) other = get? rest other := by
  simp [get?, List.lookup_cons, beq_false_of_ne different]

@[simp] theorem get?_set_self (entries : Entries α) (name : String) (value : α) :
    get? (set entries name value) name = some value := by
  induction entries with
  | nil => exact get?_cons_self name value []
  | cons entry rest ih =>
    obtain ⟨n, v⟩ := entry
    by_cases same : n = name
    · rw [set, if_pos same, same]
      exact get?_cons_self name value rest
    · rw [set, if_neg same, get?_cons_of_ne (Ne.symm same)]
      exact ih

theorem get?_set_of_ne (entries : Entries α) {name other : String} (different : other ≠ name)
    (value : α) : get? (set entries name value) other = get? entries other := by
  induction entries with
  | nil => exact get?_cons_of_ne different value []
  | cons entry rest ih =>
    obtain ⟨n, v⟩ := entry
    by_cases same : n = name
    · rw [set, if_pos same, same, get?_cons_of_ne different, get?_cons_of_ne different]
    · by_cases found : other = n
      · rw [set, if_neg same, found, get?_cons_self, get?_cons_self]
      · rw [set, if_neg same, get?_cons_of_ne found, get?_cons_of_ne found]
        exact ih

end Entries
end MessageFlow
