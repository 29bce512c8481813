/-! # Tables by name

A table keeps its entries in the order in which their names were first set.
-/

namespace Scholia

/-- A table from names to values. -/
abbrev Table (α : Type) := List (String × α)

namespace Table

variable {α : Type}

def get? (name : String) : Table α → Option α
  | [] => none
  | entry :: rest => if entry.1 = name then some entry.2 else get? name rest

/-- Set the value of a name, in its old place if it has one. -/
def set (name : String) (value : α) : Table α → Table α
  | [] => [(name, value)]
  | entry :: rest =>
    if entry.1 = name then (name, value) :: rest else entry :: set name value rest

def erase (name : String) : Table α → Table α
  | [] => []
  | entry :: rest => if entry.1 = name then erase name rest else entry :: erase name rest

/-- Set the entries of a second table one by one. -/
def update (table entries : Table α) : Table α :=
  entries.foldl (fun table entry => set entry.1 entry.2 table) table

def names (table : Table α) : List String :=
  table.map (·.1)

/-- A name has the value that it was set to. -/
@[simp] theorem get?_set_same (name : String) (value : α) (table : Table α) :
    get? name (set name value table) = some value := by
  induction table with
  | nil => simp [set, get?]
  | cons entry rest ih =>
    by_cases h : entry.1 = name <;> simp [set, get?, h, ih]

/-- Setting a name leaves the values of other names. -/
theorem get?_set_other {name other : String} (value : α) (table : Table α) (h : other ≠ name) :
    get? name (set other value table) = get? name table := by
  induction table with
  | nil => simp [set, get?, h]
  | cons entry rest ih =>
    by_cases same : entry.1 = other
    · subst same
      simp [set, get?, h]
    · by_cases here : entry.1 = name <;> simp [set, get?, same, here, ih, h.symm]

/-- An erased name has no value. -/
@[simp] theorem get?_erase_same (name : String) (table : Table α) :
    get? name (erase name table) = none := by
  induction table with
  | nil => rfl
  | cons entry rest ih =>
    by_cases h : entry.1 = name <;> simp [erase, get?, h, ih]

/-- Erasing a name leaves the values of other names. -/
theorem get?_erase_other {name other : String} (table : Table α) (h : other ≠ name) :
    get? name (erase other table) = get? name table := by
  induction table with
  | nil => rfl
  | cons entry rest ih =>
    by_cases same : entry.1 = other
    · subst same
      simp [erase, get?, h, ih]
    · by_cases here : entry.1 = name <;> simp [erase, get?, same, here, ih, h.symm]

end Table

end Scholia
