import FilterQuery.Proofs.Compiler.Limit
import Mathlib.Data.List.Induction
import Mathlib.Data.List.Perm.Basic

/-!
# Configured compilers

A compiler is given options one after the other, and settings with a fault stop this.  What comes of
it is the compiler with the last encoder, the last registry and the last settings among the options.
So the order of options of different kinds does not matter, all compilers have settings without a
fault, and none of them refuses the root of a filter for its depth.
-/

namespace FilterQuery

/-- Settings have no fault when a depth is allowed and the identity has a name. -/
theorem Settings.validate_eq_ok_iff {s : Settings} :
  s.validate = .ok () ↔ 0 < s.maxDepth ∧ s.identityField ≠ ""
  := by
  rw [validate]
  split
  · next zero => simp [zero]
  · next positive =>
    have positive := Nat.pos_of_ne_zero positive
    split
    · next empty => simp [empty]
    · next named => exact iff_of_true rfl ⟨positive, named⟩

/-- What a compiler may be given. -/
inductive CompilerOption where
  | encoder (encoder : Encoder)
  | registry (registry : FunctionRegistry)
  | settings (settings : Settings)

namespace CompilerOption

/-- The encoder of an option that is one. -/
def encoder? : CompilerOption → Option Encoder
  | .encoder e => some e
  | _ => none

/-- The registry of an option that is one. -/
def registry? : CompilerOption → Option FunctionRegistry
  | .registry r => some r
  | _ => none

/-- The settings of an option that are some. -/
def settings? : CompilerOption → Option Settings
  | .settings s => some s
  | _ => none

/-- What is found in the last of the options in which it can be found. -/
def last? {α : Type} (find? : CompilerOption → Option α) (options : List CompilerOption) :
    Option α :=
  (options.filterMap find?).getLast?

/-- The last option of each kind. -/
def lastOfEach (options : List CompilerOption) : List CompilerOption :=
  ((last? encoder? options).map CompilerOption.encoder).toList
    ++ ((last? registry? options).map CompilerOption.registry).toList
    ++ ((last? settings? options).map CompilerOption.settings).toList

section Last

variable {α : Type} {find? : CompilerOption → Option α} {options given : List CompilerOption}

theorem last?_concat (option : CompilerOption) :
  last? find? (options ++ [option]) = (find? option).or (last? find? options)
  := by
  rw [last?, List.filterMap_append]
  cases found : find? option with
  | none => simp [found, last?]
  | some x => simp [found]

/-- What is found last is found in one of the options. -/
theorem exists_of_last? {x : α} (h : last? find? options = some x) :
  ∃ option ∈ options, find? option = some x
  := List.mem_filterMap.1 (List.mem_of_getLast? h)

/-- In the last options of each kind, in any order, the same is found last. -/
theorem last?_of_perm (only : (lastOfEach options).filterMap find? = (last? find? options).toList)
    (same : given.Perm (lastOfEach options)) :
  last? find? given = last? find? options
  := by
  have found := same.filterMap find?
  rw [only] at found
  rw [last?]
  cases last : last? find? options with
  | none =>
    rw [last] at found
    rw [List.perm_nil.1 found]
    rfl
  | some x =>
    rw [last] at found
    rw [List.perm_singleton.1 found]
    rfl

theorem filterMap_toList_map {β : Type} (option : β → CompilerOption) (x? : Option β) :
  (x?.map option).toList.filterMap find? = (x?.bind fun x => find? (option x)).toList
  := by
  cases x? with
  | none => rfl
  | some x =>
    change [option x].filterMap find? = (find? (option x)).toList
    rw [List.filterMap_cons]
    cases find? (option x) <;> rfl

variable (options)

theorem filterMap_encoder?_lastOfEach :
  (lastOfEach options).filterMap encoder? = (last? encoder? options).toList
  := by
  simp [lastOfEach, List.filterMap_append, filterMap_toList_map, encoder?]

theorem filterMap_registry?_lastOfEach :
  (lastOfEach options).filterMap registry? = (last? registry? options).toList
  := by
  simp [lastOfEach, List.filterMap_append, filterMap_toList_map, registry?]

theorem filterMap_settings?_lastOfEach :
  (lastOfEach options).filterMap settings? = (last? settings? options).toList
  := by
  simp [lastOfEach, List.filterMap_append, filterMap_toList_map, settings?]

end Last

theorem settings?_eq_some_iff {option : CompilerOption} {s : Settings} :
  option.settings? = some s ↔ option = .settings s
  := by
  cases option <;> simp [settings?]

theorem mem_filterMap_settings? {options : List CompilerOption} {s : Settings} :
  s ∈ options.filterMap settings? ↔ .settings s ∈ options
  := by
  simp [List.mem_filterMap, settings?_eq_some_iff]

/-! ### Settings without faults -/

/-- Whether no settings among options have a fault. -/
def AreValid (options : List CompilerOption) : Prop :=
  ∀ s, .settings s ∈ options → s.validate = .ok ()

section Valid

variable {options given : List CompilerOption} {option : CompilerOption}

theorem areValid_concat :
  AreValid (options ++ [option])
    ↔ AreValid options ∧ ∀ s, option = .settings s → s.validate = .ok ()
  := by
  simp only [AreValid, List.mem_append, List.mem_singleton]
  constructor
  · intro valid
    exact ⟨fun s listed => valid s (.inl listed), fun s same => valid s (.inr same.symm)⟩
  · rintro ⟨valid, also⟩ s (listed | same)
    · apply valid s listed
    · apply also s same.symm

/-- The last options of each kind are valid if all are. -/
theorem AreValid.of_perm (valid : AreValid options) (same : given.Perm (lastOfEach options)) :
  AreValid given
  := by
  intro s listed
  have found : s ∈ (last? settings? options).toList := by
    rw [← filterMap_settings?_lastOfEach]
    apply (same.filterMap settings?).subset
    apply mem_filterMap_settings?.2 listed
  apply valid
  apply mem_filterMap_settings?.1
  apply List.mem_of_getLast? (Option.mem_toList.1 found)

/-- Of options that are not valid, some settings are the first with a fault. -/
theorem exists_of_not_areValid (invalid : ¬ AreValid options) :
  ∃ before s after fault, options = before ++ .settings s :: after ∧ AreValid before
    ∧ s.validate = .error fault
  := by
  induction options using List.reverseRecOn with
  | nil =>
    exfalso
    apply invalid
    exact fun _ => nofun
  | append_singleton options option ih =>
    by_cases valid : AreValid options
    · rw [areValid_concat, and_iff_right valid] at invalid
      push Not at invalid
      obtain ⟨s, rfl, invalid⟩ := invalid
      cases checked : s.validate with
      | error fault => exact ⟨options, s, [], fault, rfl, valid, checked⟩
      | ok _ => exact absurd checked invalid
    · obtain ⟨before, s, after, fault, rfl, first⟩ := ih valid
      exact ⟨before, s, after ++ [option], fault, by simp, first⟩

end Valid

end CompilerOption

namespace Compiler

open CompilerOption

/-- The compiler with an option. -/
def configure (c : Compiler) : CompilerOption → Except SettingsFault Compiler
  | .encoder e => .ok (c.withEncoder e)
  | .registry r => .ok (c.withRegistry r)
  | .settings s => c.withSettings s

/-- The compiler with options that are given one after the other, if no settings have a fault. -/
def configureAll (c : Compiler) (options : List CompilerOption) :
    Except SettingsFault Compiler :=
  options.foldlM configure c

/-- The compiler with the last option of each kind. -/
def configured (c : Compiler) (options : List CompilerOption) : Compiler where
  encoder := (last? encoder? options).getD c.encoder
  registry := (last? registry? options).getD c.registry
  settings := (last? settings? options).getD c.settings

section Runs

variable {c d : Compiler} {options given : List CompilerOption} {option : CompilerOption}
  {fault : SettingsFault}

theorem configureAll_concat :
  c.configureAll (options ++ [option]) = (c.configureAll options).bind fun d => d.configure option
  := by
  rw [configureAll, List.foldlM_append]
  apply bind_congr
  intro d
  rw [List.foldlM_cons]
  cases d.configure option <;> rfl

theorem withSettings_of_ok {s : Settings} (valid : s.validate = .ok ()) :
  c.withSettings s = .ok { c with settings := s }
  := by
  rw [withSettings, valid]
  rfl

theorem withSettings_of_error {s : Settings} (invalid : s.validate = .error fault) :
  c.withSettings s = .error fault
  := by
  rw [withSettings, invalid]
  rfl

/-- One more option replaces that of its kind. -/
theorem configure_configured (valid : ∀ s, option = .settings s → s.validate = .ok ()) :
  (c.configured options).configure option = .ok (c.configured (options ++ [option]))
  := by
  simp only [configured, last?_concat]
  cases option with
  | encoder e => rfl
  | registry r => rfl
  | settings s =>
    rw [configure, withSettings_of_ok (valid s rfl)]
    rfl

/-- Options without faults make the compiler with the last option of each kind. -/
theorem configureAll_of_areValid (valid : AreValid options) :
  c.configureAll options = .ok (c.configured options)
  := by
  -- From the end, since the last option of a kind is the one that counts.
  induction options using List.reverseRecOn with
  | nil => rfl
  | append_singleton options option ih =>
    obtain ⟨valid, also⟩ := areValid_concat.1 valid
    rw [configureAll_concat, ih valid]
    apply configure_configured also

/-- Options are refused for the first settings with a fault. -/
theorem configureAll_of_error {before after : List CompilerOption} {s : Settings}
    (valid : AreValid before) (invalid : s.validate = .error fault) :
  c.configureAll (before ++ .settings s :: after) = .error fault
  := by
  have accepted : c.configureAll before = .ok (c.configured before) :=
    configureAll_of_areValid valid
  rw [configureAll] at accepted
  rw [configureAll, List.foldlM_append, accepted]
  change (configure _ (.settings s) >>= _) = _
  rw [configure, withSettings_of_error invalid]
  rfl

/-- Options make a compiler exactly when they are valid. -/
theorem configureAll_eq_ok_iff :
  c.configureAll options = .ok d ↔ AreValid options ∧ d = c.configured options
  := by
  by_cases valid : AreValid options
  · rw [configureAll_of_areValid valid, Except.ok.injEq, and_iff_right valid, eq_comm]
  · obtain ⟨before, s, after, fault, rfl, first, checked⟩ := exists_of_not_areValid valid
    rw [configureAll_of_error first checked]
    exact ⟨nofun, fun accepted => absurd accepted.1 valid⟩

theorem configureAll_eq_error_iff :
  c.configureAll options = .error fault
    ↔ ∃ before s after, options = before ++ .settings s :: after ∧ AreValid before
      ∧ s.validate = .error fault
  := by
  constructor
  · intro refused
    have invalid : ¬ AreValid options := by
      intro valid
      rw [configureAll_of_areValid valid] at refused
      cases refused
    obtain ⟨before, s, after, other, rfl, first, checked⟩ := exists_of_not_areValid invalid
    rw [configureAll_of_error first checked] at refused
    cases refused
    exact ⟨before, s, after, rfl, first, checked⟩
  · rintro ⟨before, s, after, rfl, first, checked⟩
    apply configureAll_of_error first checked

/-- The last option of each kind, in any order, makes the same compiler. -/
theorem configured_of_perm (same : given.Perm (lastOfEach options)) :
  c.configured given = c.configured options
  := by
  rw [configured, configured, last?_of_perm (filterMap_encoder?_lastOfEach options) same,
    last?_of_perm (filterMap_registry?_lastOfEach options) same,
    last?_of_perm (filterMap_settings?_lastOfEach options) same]

/-- The settings of a compiler that is given valid options have no fault. -/
theorem validate_configured (base : c.settings.validate = .ok ()) (valid : AreValid options) :
  (c.configured options).settings.validate = .ok ()
  := by
  change ((last? settings? options).getD c.settings).validate = .ok ()
  cases last : last? settings? options with
  | none => exact base
  | some s =>
    apply valid
    apply mem_filterMap_settings?.1
    apply List.mem_of_getLast? last

/-- What holds of the registry of a compiler and of those among the options holds of the registry
it has with them. -/
theorem neverTooDeep_configured (base : c.registry.NeverTooDeep)
    (never : ∀ registry, .registry registry ∈ options → registry.NeverTooDeep) :
  (c.configured options).registry.NeverTooDeep
  := by
  change ((last? registry? options).getD c.registry).NeverTooDeep
  cases last : last? registry? options with
  | none => exact base
  | some registry =>
    obtain ⟨option, listed, found⟩ := exists_of_last? last
    apply never
    cases option with
    | registry other =>
      cases found
      exact listed
    | _ => cases found

/-- The root of a filter is entered unless the limit is zero. -/
theorem events_compile_eq_cons (positive : 0 < c.settings.maxDepth) (filter : Filter) :
  ∃ events, (c.compile filter).events = .entered filter.root.kind 1 :: events
  := by
  rw [compile, expression, Expression.toOperand, operand_of_le _ _ _ _ _ _ positive, bind_assoc,
    Traced.events_emit_bind]
  exact ⟨_, rfl⟩

end Runs

/-- Options are refused for the first settings among them with a fault.  The compiler they make has
settings without a fault, and is the one that the last options of each kind make in any order.  It
enters the root of every filter; and if no function of a registry among the options fails because
something is too deep, a filter does only if it is higher than the limit in the last settings, or
than the default one, which is then in the error. -/
theorem configureAll_default (options : List CompilerOption) :
  (∀ fault, default.configureAll options = .error fault
      ↔ ∃ before s after, options = before ++ .settings s :: after ∧ AreValid before
        ∧ s.validate = .error fault)
    ∧ ∀ c, default.configureAll options = .ok c →
      (0 < c.settings.maxDepth ∧ c.settings.identityField ≠ "")
        ∧ (∀ given, given.Perm (lastOfEach options) → default.configureAll given = .ok c)
        ∧ (∀ filter, ∃ events, (c.compile filter).events = .entered filter.root.kind 1 :: events)
        ∧ ((∀ registry, .registry registry ∈ options → registry.NeverTooDeep) →
          ∀ filter limit, (c.compile filter).result = .error (.depthExceeded limit) →
            limit = ((last? settings? options).getD .default).maxDepth ∧ limit < filter.height)
  := by
  constructor
  · intro fault
    apply configureAll_eq_error_iff
  · intro c made
    obtain ⟨valid, rfl⟩ := configureAll_eq_ok_iff.1 made
    have sound := Settings.validate_eq_ok_iff.1 (validate_configured (c := default) rfl valid)
    refine ⟨sound, ?same, ?entered, ?limit⟩
    case same =>
      intro given same
      rw [configureAll_of_areValid (valid.of_perm same), configured_of_perm same]
    case entered =>
      apply events_compile_eq_cons sound.1
    case limit =>
      intro never filter limit failed
      have never : (default.configured options).registry.NeverTooDeep :=
        neverTooDeep_configured FunctionRegistry.neverTooDeep_builtin never
      obtain ⟨rfl, high⟩ := lt_height_of_depthExceeded never failed
      exact ⟨rfl, high⟩

/-- Settings that are replaced and a registry that is put back, and a filter of height three with a
limit of two. -/
theorem configureAll_default_replaced :
  let options : List CompilerOption :=
    [.settings ⟨1, "key"⟩, .registry .empty, .settings ⟨2, "id"⟩, .encoder .bson,
      .registry .builtin]
  let leaf : Expression := .eq ⟨0⟩ (.list [])
  let filter : Filter := ⟨⟨[⟨"a", none⟩]⟩, .or (.and leaf leaf) leaf⟩
  ∃ c, default.configureAll options = .ok c
    ∧ (∀ registry, .registry registry ∈ options → registry.NeverTooDeep)
    ∧ default.configureAll [.settings ⟨2, "id"⟩, .encoder .bson, .registry .builtin] = .ok c
    ∧ (c.compile filter).result = .error (.depthExceeded 2) ∧ 2 < filter.height
  := by
  intro options leaf filter
  obtain ⟨-, made⟩ := configureAll_default options
  obtain ⟨-, same, -, limit⟩ := made _ rfl
  have never : ∀ registry, .registry registry ∈ options → registry.NeverTooDeep := by
    intro registry listed
    have listed : registry = .empty ∨ registry = .builtin := by simpa [options] using listed
    rcases listed with rfl | rfl
    · exact fun _ _ => nofun
    · apply FunctionRegistry.neverTooDeep_builtin
  refine ⟨_, rfl, never, ?_, rfl, ?_⟩
  · apply same
    symm
    exact List.perm_append_singleton _ [CompilerOption.encoder .bson, .registry .builtin]
  · apply (limit never filter 2 rfl).2

end Compiler

end FilterQuery
