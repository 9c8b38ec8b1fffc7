set_option autoImplicit false

/-!
Values under names, in the order in which the names were first set. Setting a name again changes its
value and not its place.
-/

namespace JoinTrust

abbrev Assoc (α : Type) : Type := List (String × α)

namespace Assoc

variable {α : Type}

def get? (entries : Assoc α) (name : String) : Option α :=
  (entries.find? (·.1 == name)).map (·.2)

/-- Sets a name: in its place if it is present, else at the end. -/
def insert (entries : Assoc α) (name : String) (value : α) : Assoc α :=
  match entries with
  | [] => [(name, value)]
  | (present, held) :: rest =>
    if present = name then (name, value) :: rest else (present, held) :: insert rest name value

def insertAll (entries : Assoc α) (more : List (String × α)) : Assoc α :=
  more.foldl (fun entries entry => entries.insert entry.1 entry.2) entries

/-- The names and values of a list, a later one taking the place of an earlier one of its name. -/
def ofList (entries : List (String × α)) : Assoc α :=
  insertAll [] entries

end Assoc

end JoinTrust
