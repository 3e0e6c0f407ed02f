/-
# Tables in order of first arrival

A table binds names to values and remembers the order in which the names first arrived.  To
bind a name again changes its value and moves nothing.  Documents, sort orders and parameter
bindings are all tables of this kind.
-/

namespace DocSelect

/-- Bindings of names, in order of first arrival. -/
abbrev Entries (α : Type) := List (String × α)

namespace Entries

variable {α : Type}

/-- The names that are bound, in order. -/
def keys (t : Entries α) : List String :=
  t.map Prod.fst

/-- The value bound to a name. -/
def get? : Entries α → String → Option α
  | [], _ => none
  | entry :: t, key => if entry.1 = key then some entry.2 else get? t key

/-- Bind a name.  A bound name keeps its place and takes the new value; a new one goes to the
end. -/
def put : Entries α → String → α → Entries α
  | [], key, value => [(key, value)]
  | entry :: t, key, value =>
    if entry.1 = key then (key, value) :: t else entry :: put t key value

/-- The table that results from binding names one after the other. -/
def ofList (bindings : List (String × α)) : Entries α :=
  bindings.foldl (fun t binding => put t binding.1 binding.2) []

/-- A name that is bound keeps the order of all names as it is; a new one goes to the end. -/
theorem keys_put (t : Entries α) (key : String) (value : α) :
    keys (put t key value) = if key ∈ keys t then keys t else keys t ++ [key] := by
  induction t with
  | nil => simp [put, keys]
  | cons entry t ih =>
    by_cases h : entry.1 = key
    · simp [put, keys, h]
    · have hne : key ≠ entry.1 := fun heq => h heq.symm
      simp only [keys] at ih
      by_cases hmem : key ∈ t.map Prod.fst <;> simp [put, keys, h, hne, ih, hmem]

/-- The bound name has its new value, and every other name the value it had. -/
theorem get?_put (t : Entries α) (key key' : String) (value : α) :
    get? (put t key value) key' = if key = key' then some value else get? t key' := by
  induction t with
  | nil => simp [put, get?]
  | cons entry t ih =>
    by_cases h : entry.1 = key
    · by_cases hk : key = key' <;> simp [put, get?, h, hk]
    · by_cases hk : key = key'
      · subst hk
        simp [put, get?, h, ih]
      · simp [put, get?, h, hk, ih]

end Entries

end DocSelect
