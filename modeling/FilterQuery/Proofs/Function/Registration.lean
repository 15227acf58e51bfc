import FilterQuery.Function.Builtin
import FilterQuery.Proofs.Text.LowerCase
import Mathlib.Data.List.Induction

/-!
# Registering functions

A registry to which functions are added, one after the other and under any names, is a map from
names in lower case to the functions that were last registered under them.  `IsSorted` is what the
entries of a registry keep: they ascend, and their names are in lower case.  So the names of a
registry are found in it again, which needs that lower case is its own lower case.
-/

namespace FilterQuery

namespace FunctionRegistry

/-- The registry after functions are registered under names, one after the other. -/
def registerAll (registry : FunctionRegistry) (registrations : List (String × Handler)) :
    FunctionRegistry :=
  registrations.foldl (fun before entry => before.register entry.1 entry.2) registry

/-- The last function registered under a name, in any spelling of it. -/
def lastOf? (registrations : List (String × Handler)) (name : String) : Option Handler :=
  ((registrations.filter fun entry =>
    Text.lowerCase entry.1 = Text.lowerCase name).getLast?).map Prod.snd

section Runs

variable (registry : FunctionRegistry) (registrations : List (String × Handler))
  (entry : String × Handler) (name : String)

theorem registerAll_concat :
  registry.registerAll (registrations ++ [entry])
    = (registry.registerAll registrations).register entry.1 entry.2
  := by
  rw [registerAll, List.foldl_append]
  rfl

theorem lastOf?_concat :
  lastOf? (registrations ++ [entry]) name
    = if Text.lowerCase entry.1 = Text.lowerCase name then some entry.2
      else lastOf? registrations name
  := by
  rw [lastOf?, List.filter_append]
  by_cases same : Text.lowerCase entry.1 = Text.lowerCase name
  · simp [same]
  · simp [same, lastOf?]

/-- What is found after a run is what was last registered in it, or what was there before. -/
theorem get?_registerAll :
  (registry.registerAll registrations).get? name
    = (lastOf? registrations name).or (registry.get? name)
  := by
  -- From the end of the run, since the last registration is the one that counts.
  induction registrations using List.reverseRecOn with
  | nil => rfl
  | append_singleton registrations entry ih =>
    rw [registerAll_concat, get?_register, lastOf?_concat, ih]
    split <;> rfl

end Runs

/-! ### The entries of a registry -/

/-- The entries of a registry ascend, and their names are in lower case. -/
structure IsSorted (registry : FunctionRegistry) : Prop where
  ascending : registry.entries.Pairwise fun a b => a.1 < b.1
  lower : ∀ entry ∈ registry.entries, Text.lowerCase entry.1 = entry.1

namespace IsSorted

theorem empty :
  FunctionRegistry.empty.IsSorted
  := ⟨.nil, nofun⟩

/-- The entries stay sorted when a function is registered. -/
theorem register {registry : FunctionRegistry} (sorted : registry.IsSorted) (name : String)
    (handler : Handler) :
  (registry.register name handler).IsSorted
  := by
  constructor
  · apply pairwise_insert sorted.ascending
  · intro entry member
    rcases mem_insert member with rfl | member
    · apply Text.lowerCase_lowerCase
    · apply sorted.lower entry member

theorem registerAll {registry : FunctionRegistry} (sorted : registry.IsSorted)
    (registrations : List (String × Handler)) :
  (registry.registerAll registrations).IsSorted
  := by
  induction registrations using List.reverseRecOn with
  | nil => exact sorted
  | append_singleton registrations entry ih =>
    rw [registerAll_concat]
    apply ih.register

theorem builtin :
  FunctionRegistry.builtin.IsSorted
  := (((empty.register _ _).register _ _).register _ _).register _ _

end IsSorted

/-! ### The names of a registry -/

/-- An entry of ascending entries is found under its name. -/
theorem find?_of_mem {entries : List (String × Handler)}
    (ascending : entries.Pairwise fun a b => a.1 < b.1) {entry : String × Handler}
    (member : entry ∈ entries) :
  find? entry.1 entries = some entry.2
  := by
  induction ascending with
  | nil => cases member
  | @cons first rest below _ ih =>
    rw [find?]
    rcases List.mem_cons.1 member with rfl | member
    · apply if_pos rfl
    · rw [if_neg (Std.ne_of_lt (below entry member)), ih member]

/-- The names in entries are those under which something is found. -/
theorem mem_map_fst_iff (key : String) (entries : List (String × Handler)) :
  key ∈ entries.map Prod.fst ↔ (find? key entries).isSome
  := by
  induction entries with
  | nil => exact ⟨nofun, nofun⟩
  | cons entry rest ih =>
    rw [List.map_cons, List.mem_cons, ih, find?]
    by_cases same : entry.1 = key
    · simp [same]
    · simp [same, Ne.symm same]

theorem mem_names_register (registry : FunctionRegistry) (name key : String)
    (handler : Handler) :
  key ∈ (registry.register name handler).names
    ↔ key ∈ registry.names ∨ key = Text.lowerCase name
  := by
  rw [names, mem_map_fst_iff, register, find?_insert, names, mem_map_fst_iff]
  by_cases same : Text.lowerCase name = key
  · simp [same]
  · simp [same, Ne.symm same]

theorem mem_names_registerAll (registry : FunctionRegistry)
    (registrations : List (String × Handler)) (key : String) :
  key ∈ (registry.registerAll registrations).names
    ↔ key ∈ registry.names ++ (registrations.map Prod.fst).map Text.lowerCase
  := by
  induction registrations using List.reverseRecOn with
  | nil => simp [registerAll]
  | append_singleton registrations entry ih =>
    rw [registerAll_concat, mem_names_register, ih]
    simp [or_assoc]

/-- The names of a registry are in lower case. -/
theorem IsSorted.names_lower {registry : FunctionRegistry} (sorted : registry.IsSorted) :
  registry.names.map Text.lowerCase = registry.names
  := by
  rw [names, List.map_map]
  exact List.map_congr_left sorted.lower

/-! ### A run of registrations -/

/-- The registry that looks names up without regard to case, in a run of registrations from the end
and then in the registry before the run. -/
structure HoldsLast (base : FunctionRegistry) (registrations : List (String × Handler))
    (registry : FunctionRegistry) : Prop where
  /-- The last function registered under a name is found, or else what was there before. -/
  get? : ∀ name, registry.get? name = (lastOf? registrations name).or (base.get? name)
  contains : ∀ name, registry.contains name ↔ (registry.get? name).isSome
  /-- A name is refused by the registry itself, with a warning, when it has no function. -/
  unsupported : ∀ name field args,
    registry.call name field args
        = ⟨[.unsupportedFunction name], .error (.unsupportedFunction name)⟩
      ↔ registry.get? name = none
  /-- Otherwise the call is left to the function. -/
  supported : ∀ name field args handler, registry.get? name = some handler →
    registry.call name field args = Traced.lift (handler field args)
  ascending : registry.names.Pairwise (· < ·)
  names : ∀ key, key ∈ registry.names
    ↔ key ∈ (base.names ++ registrations.map Prod.fst).map Text.lowerCase
  /-- What is listed is found under its name. -/
  listed : ∀ entry ∈ registry.entries, registry.get? entry.1 = some entry.2
  /-- The name that is listed for a spelling stands for the same function. -/
  lower : ∀ name, registry.get? (Text.lowerCase name) = registry.get? name

section Calls

variable (registry : FunctionRegistry) (name field : String) (args : List Value)

theorem call_of_get? {handler : Handler} (found : registry.get? name = some handler) :
  registry.call name field args = Traced.lift (handler field args)
  := by
  rw [call, found]

/-- Only the registry itself warns of a name without a function. -/
theorem call_eq_unsupported_iff :
  registry.call name field args
      = ⟨[.unsupportedFunction name], .error (.unsupportedFunction name)⟩
    ↔ registry.get? name = none
  := by
  cases found : registry.get? name with
  | none =>
    rw [call, found]
    exact ⟨fun _ => rfl, fun _ => rfl⟩
  | some handler =>
    rw [call_of_get? _ _ _ _ found]
    constructor
    · intro same
      cases congrArg Traced.events same
    · nofun

end Calls

/-- Functions registered one after the other, in a registry that is empty or holds the pattern
functions, make a map of names in lower case to the functions last registered under them. -/
theorem holdsLast_registerAll (base : FunctionRegistry) (registrations : List (String × Handler))
    (start : base = .empty ∨ base = .builtin) :
  HoldsLast base registrations (base.registerAll registrations)
  := by
  have sortedBase : base.IsSorted := by
    rcases start with rfl | rfl
    · exact .empty
    · exact .builtin
  have sorted := sortedBase.registerAll registrations
  constructor
  case get? => apply get?_registerAll
  case contains => exact fun _ => Iff.rfl
  case unsupported => apply call_eq_unsupported_iff
  case supported => exact fun name field args _ => call_of_get? _ name field args
  case ascending => exact List.pairwise_map.2 sorted.ascending
  case names =>
    intro key
    rw [mem_names_registerAll, List.map_append, sortedBase.names_lower]
  case listed =>
    intro entry member
    rw [FunctionRegistry.get?, sorted.lower entry member]
    apply find?_of_mem sorted.ascending member
  case lower =>
    intro name
    rw [FunctionRegistry.get?, Text.lowerCase_lowerCase]
    rfl

/-- Two spellings of a name that begins and ends with a sigma, and another function for the name of
a pattern function. -/
theorem holdsLast_registerAll_sigma :
  let registrations :=
    [("LIKE", Handler.contains), ("ΣΟΣ", Handler.like), ("σος", Handler.endsWith)]
  let registry := builtin.registerAll registrations
  (builtin = .empty ∨ builtin = .builtin) ∧ HoldsLast builtin registrations registry
    ∧ registry.get? "Like" = some Handler.contains
    ∧ registry.get? "Σος" = some Handler.endsWith
    ∧ registry.names = ["contains", "endswith", "like", "startswith", "σος"]
  := by
  intro registrations registry
  have holds := holdsLast_registerAll builtin registrations (.inr rfl)
  have like : Text.lowerCase "LIKE" = "like" ∧ Text.lowerCase "Like" = "like" := by
    decide +kernel
  have sigma : Text.lowerCase "ΣΟΣ" = "σος" ∧ Text.lowerCase "σος" = "σος"
      ∧ Text.lowerCase "Σος" = "σος" := by
    decide +kernel
  refine ⟨.inr rfl, holds, ?_, ?_, by decide +kernel⟩
  · rw [holds.get?]
    simp [registrations, lastOf?, like, sigma]
  · rw [holds.get?]
    simp [registrations, lastOf?, like, sigma]

end FunctionRegistry

end FilterQuery
