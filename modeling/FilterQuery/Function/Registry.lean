import FilterQuery.Text.LowerCase
import FilterQuery.Traced

/-!
# Registries of functions

A `FunctionRegistry` holds the functions that filters can call, by name.  Names are compared in
lower case, and the last function registered under a name counts.  The entries are in ascending
order of their names.
-/

namespace FilterQuery

/-- A function of filters: it makes a query on a field from arguments. -/
abbrev Handler := (field : String) → (args : List Value) → Except FilterError Query

/-- The functions that filters can call. -/
structure FunctionRegistry where
  entries : List (String × Handler)

namespace FunctionRegistry

/-- The registry without functions. -/
def empty : FunctionRegistry := ⟨[]⟩

/-- Puts an entry into a list of entries, in place of the entry of that name if there is one. -/
def insert (name : String) (handler : Handler) :
    List (String × Handler) → List (String × Handler)
  | [] => [(name, handler)]
  | (key, other) :: rest =>
    if name < key then (name, handler) :: (key, other) :: rest
    else if name = key then (name, handler) :: rest
    else (key, other) :: insert name handler rest

/-- The function of a name in a list of entries. -/
def find? (name : String) : List (String × Handler) → Option Handler
  | [] => none
  | (key, handler) :: rest => if key = name then some handler else find? name rest

/-- Registers a function under a name. -/
def register (registry : FunctionRegistry) (name : String) (handler : Handler) :
    FunctionRegistry :=
  ⟨insert (Text.lowerCase name) handler registry.entries⟩

/-- The function of a name. -/
def get? (registry : FunctionRegistry) (name : String) : Option Handler :=
  find? (Text.lowerCase name) registry.entries

/-- Whether a name has a function. -/
def contains (registry : FunctionRegistry) (name : String) : Bool := (registry.get? name).isSome

/-- The names of the functions. -/
def names (registry : FunctionRegistry) : List String := registry.entries.map Prod.fst

/-- Calls the function of a name on a field. -/
def call (registry : FunctionRegistry) (name field : String) (args : List Value) :
    Traced Query :=
  match registry.get? name with
  | some handler => Traced.lift (handler field args)
  | none => do
    Traced.emit (.unsupportedFunction name)
    Traced.fail (.unsupportedFunction name)

/-- Under the name of an entry that was put in is its function, under other names what was there. -/
theorem find?_insert (name key : String) (handler : Handler)
    (entries : List (String × Handler)) :
  find? key (insert name handler entries) = if name = key then some handler else find? key entries
  := by
  induction entries with
  | nil => rfl
  | cons entry rest ih =>
    obtain ⟨other, function⟩ := entry
    rw [insert]
    split
    · rfl
    · split
      · next same =>
        subst same
        simp only [find?]
        split <;> rfl
      · next different =>
        simp only [find?, ih]
        split
        · next same =>
          subst same
          rw [if_neg different]
        · rfl

/-- The last function registered under a name counts. -/
theorem get?_register (registry : FunctionRegistry) (name key : String) (handler : Handler) :
  (registry.register name handler).get? key
    = if Text.lowerCase name = Text.lowerCase key then some handler else registry.get? key
  := find?_insert _ _ _ _

theorem mem_insert {name : String} {handler : Handler} {entries : List (String × Handler)}
    {entry : String × Handler} (h : entry ∈ insert name handler entries) :
  entry = (name, handler) ∨ entry ∈ entries
  := by
  induction entries with
  | nil =>
    left
    simpa [insert] using h
  | cons first rest ih =>
    rw [insert] at h
    split at h
    · apply List.mem_cons.1 h
    · split at h
      · rcases List.mem_cons.1 h with h | h
        · left
          apply h
        · right
          apply List.mem_cons_of_mem _ h
      · rcases List.mem_cons.1 h with rfl | h
        · right
          apply List.mem_cons_self
        · rcases ih h with h | h
          · left
            apply h
          · right
            apply List.mem_cons_of_mem _ h

/-- The entries stay in ascending order of their names. -/
theorem pairwise_insert {name : String} {handler : Handler} {entries : List (String × Handler)}
    (h : entries.Pairwise fun a b => a.1 < b.1) :
  (insert name handler entries).Pairwise fun a b => a.1 < b.1
  := by
  induction entries with
  | nil => simp [insert]
  | cons first rest ih =>
    obtain ⟨below, sorted⟩ := List.pairwise_cons.1 h
    rw [insert]
    split
    · next less =>
      apply List.Pairwise.cons _ h
      intro entry member
      rcases List.mem_cons.1 member with rfl | member
      · apply less
      · apply String.lt_trans less (below entry member)
    · next notLess =>
      split
      · next same =>
        subst same
        exact List.pairwise_cons.2 ⟨below, sorted⟩
      · next different =>
        apply List.Pairwise.cons _ (ih sorted)
        intro entry member
        rcases mem_insert member with rfl | member
        · apply Std.lt_of_le_of_ne (String.not_lt.1 notLess) (Ne.symm different)
        · apply below entry member

end FunctionRegistry

end FilterQuery
