import FilterQuery.Proofs.Value.RoundTrip
import FilterQuery.Settings

/-!
# Settings and their texts

In the text of settings, members may be left out and others may stand among them.  What is read are
the settings with the defaults in the place of what was left out, if these have no fault, and else
their first fault.  Nothing that is read has a fault.
-/

namespace FilterQuery

namespace Json

variable {name : String} {value : Json} {members : List (String × Json)}

/-! ### Members that are looked up -/

/-- If all members of a name have the same value, it is found when there is one. -/
theorem lookup_eq_ite (same : ∀ j, (name, j) ∈ members → j = value) :
  lookup name members = if name ∈ members.map Prod.fst then some value else none
  := by
  induction members with
  | nil => rfl
  | cons member members ih =>
    obtain ⟨key, j⟩ := member
    have rest := ih fun j listed => same j (List.mem_cons_of_mem _ listed)
    rw [lookup, List.map_cons]
    by_cases here : key = name
    · cases here
      simp [same j List.mem_cons_self]
    · rw [if_neg here, rest]
      simp only [List.mem_cons, Ne.symm here, false_or]

/-- Members that are passed over do not matter to a name that is not. -/
theorem lookup_filter (keeps : String → Bool) (kept : keeps name) :
  lookup name (members.filter fun member => keeps member.1) = lookup name members
  := by
  induction members with
  | nil => rfl
  | cons member members ih =>
    obtain ⟨key, j⟩ := member
    rw [List.filter_cons, lookup]
    by_cases here : key = name
    · cases here
      rw [if_pos kept, lookup]
      simp
    · rw [if_neg here]
      split
      · rw [lookup, if_neg here, ih]
      · exact ih

/-! ### Members that are selected -/

/-- Whether a name is that of a field. -/
def Selector.selects (fields : List (String × Selector)) (name : String) : Bool :=
  name ∈ fields.map Prod.fst

/-- All is read of a name that is that of a field. -/
theorem find?_eq_ite {fields : List (String × Selector)}
    (all : ∀ field ∈ fields, field.2 = Selector.all) (name : String) :
  (fields.find? fun field => field.1 = name)
    = if Selector.selects fields name then some (name, Selector.all) else none
  := by
  induction fields with
  | nil => rfl
  | cons field fields ih =>
    obtain ⟨key, selector⟩ := field
    rw [List.forall_mem_cons] at all
    obtain ⟨rfl, all⟩ := all
    rw [List.find?_cons]
    by_cases here : key = name
    · cases here
      simp [Selector.selects]
    · have further : Selector.selects ((key, Selector.all) :: fields) name
          = Selector.selects fields name := by
        rw [Selector.selects, Selector.selects, decide_eq_decide, List.map_cons, List.mem_cons,
          or_iff_right (Ne.symm here)]
      rw [decide_eq_false here, further]
      apply ih all

/-- If all is read of each field, what is read of members are those that are fields, of which none
may be repeated. -/
theorem members_spelledMembers {fields : List (String × Selector)}
    (all : ∀ field ∈ fields, field.2 = Selector.all)
    (once : ((members.map Prod.fst).filter (Selector.selects fields)).Nodup)
    (readable : ∀ member ∈ members, Selector.selects fields member.1 → member.2.IsReadable) :
  Selector.members fields (spelledMembers members)
    = some (members.filter fun member => Selector.selects fields member.1)
  := by
  induction members with
  | nil => rfl
  | cons member members ih =>
    obtain ⟨key, j⟩ := member
    rw [List.forall_mem_cons] at readable
    rw [List.map_cons, List.filter_cons] at once
    rw [spelledMembers, Selector.members, string?_map_ofChar, List.filter_cons]
    by_cases selected : Selector.selects fields key
    · rw [if_pos selected, List.nodup_cons] at once
      have value : Selector.all j.spelled = some j := ofSpelled?_spelled (readable.1 selected)
      have notAgain : ¬ (members.filter fun member => Selector.selects fields member.1).any
          fun member => member.1 = key := by
        intro again
        obtain ⟨other, listed, same⟩ := List.any_eq_true.1 again
        apply once.1
        rw [List.mem_filter] at listed ⊢
        cases of_decide_eq_true same
        exact ⟨List.mem_map.2 ⟨other, listed.1, rfl⟩, listed.2⟩
      rw [ih once.2 readable.2]
      simp [find?_eq_ite all, selected, value, notAgain]
    · rw [if_neg selected] at once
      rw [ih once readable.2]
      simp [find?_eq_ite all, selected]

end Json

namespace Settings

/-- The members of settings. -/
def members (s : Settings) : List (String × Json) :=
  [("max_depth", .ofNat s.maxDepth), ("identity_field", .string s.identityField)]

/-- The names of the members of settings. -/
def fields : List String := ["max_depth", "identity_field"]

/-- Whether members are some of those of settings, none of them repeated, and any with other names
among them. -/
structure AreSomeOf (members : List (String × Json)) (s : Settings) : Prop where
  known : ∀ member ∈ members, member.1 ∈ fields → member ∈ s.members
  once : ((members.map Prod.fst).filter (· ∈ fields)).Nodup

/-- The settings with the defaults for the fields that are not named. -/
def orDefault (s : Settings) (names : List String) : Settings where
  maxDepth := if "max_depth" ∈ names then s.maxDepth else default.maxDepth
  identityField := if "identity_field" ∈ names then s.identityField else default.identityField

variable {s : Settings} {members : List (String × Json)}

/-- The members of settings are some of them. -/
theorem areSomeOf_members (s : Settings) :
  AreSomeOf s.members s
  where
  known _ listed _ := listed
  once := (by decide : (fields.filter (· ∈ fields)).Nodup)

/-- Nothing is left out of the members of settings. -/
theorem orDefault_members (s : Settings) :
  s.orDefault (s.members.map Prod.fst) = s
  := rfl

/-- The settings with defaults fit 64 bits if the settings do. -/
theorem maxDepth_orDefault_lt (small : s.maxDepth < UInt64.size) (names : List String) :
  (s.orDefault names).maxDepth < UInt64.size
  := by
  rw [orDefault]
  split
  · exact small
  · exact (by decide : (256 : Nat) < UInt64.size)

namespace AreSomeOf

/-- The greatest depth has one value among the members. -/
theorem eq_maxDepth (given : AreSomeOf members s) {j : Json} (listed : ("max_depth", j) ∈ members) :
  j = .ofNat s.maxDepth
  := by
  have := given.known _ listed List.mem_cons_self
  simpa [Settings.members] using this

/-- The name of the identity has one value among the members. -/
theorem eq_identityField (given : AreSomeOf members s) {j : Json}
    (listed : ("identity_field", j) ∈ members) :
  j = .string s.identityField
  := by
  have := given.known _ listed (List.mem_cons_of_mem _ List.mem_cons_self)
  simpa [Settings.members] using this

/-- Members with the name of a field are readable. -/
theorem isReadable (given : AreSomeOf members s) (small : s.maxDepth < UInt64.size)
    {member : String × Json} (listed : member ∈ members) (named : member.1 ∈ fields) :
  member.2.IsReadable
  := by
  have known := given.known member listed named
  rw [Settings.members, List.mem_pair] at known
  rcases known with rfl | rfl
  · apply Json.IsReadable.int
    · omega
    · exact_mod_cast small
  · apply Json.IsReadable.string

/-- The settings of an object with some of the members have defaults for the others. -/
theorem ofJson?_object (given : AreSomeOf members s) (small : s.maxDepth < UInt64.size) :
  ofJson? (.object members) = some (s.orDefault (members.map Prod.fst))
  := by
  have depth : depth? (.ofNat s.maxDepth) = some s.maxDepth := Json.natBelow?_ofNat small
  rw [ofJson?, Json.lookup_eq_ite fun _ => given.eq_maxDepth,
    Json.lookup_eq_ite fun _ => given.eq_identityField, orDefault]
  split <;> split <;> simp [fieldOr, depth, Json.string?]

/-- Of an object with some of the members, these are selected. -/
theorem selector_object (given : AreSomeOf members s) (small : s.maxDepth < UInt64.size) :
  selector (Json.object members).spelled
    = some (.object (members.filter fun member => member.1 ∈ fields))
  := by
  have all : ∀ field ∈ [("max_depth", Json.Selector.all), ("identity_field", Json.Selector.all)],
      field.2 = Json.Selector.all := by
    simp
  have readable : ∀ member ∈ members, decide (member.1 ∈ fields) → member.2.IsReadable :=
    fun _ listed named => given.isReadable small listed (of_decide_eq_true named)
  rw [selector, Json.spelled, Json.Selector.record,
    Json.members_spelledMembers all given.once readable]
  rfl

/-- The text of an object with some of the members is read as the settings with defaults for the
others, if they have no fault. -/
theorem read_object (given : AreSomeOf members s) (small : s.maxDepth < UInt64.size) :
  read (Json.object members).write
    = (s.orDefault (members.map Prod.fst)).validate.map
      fun _ => s.orDefault (members.map Prod.fst)
  := by
  have looked (name : String) (named : name ∈ fields) :
      Json.lookup name (members.filter fun member => member.1 ∈ fields)
        = Json.lookup name members :=
    Json.lookup_filter (fun name => name ∈ fields) (decide_eq_true named)
  have decoded : ofJson? (.object (members.filter fun member => member.1 ∈ fields))
      = some (s.orDefault (members.map Prod.fst)) := by
    rw [← given.ofJson?_object small, ofJson?, ofJson?, looked _ (by decide), looked _ (by decide)]
  rw [read, Json.Selector.read?, Json.readSpelled?_write, Option.bind_some,
    given.selector_object small, Option.bind_some, decoded]

end AreSomeOf

/-- The text of settings is read as the settings, if they have no fault. -/
theorem read_toJson (small : s.maxDepth < UInt64.size) :
  read s.toJson.write = s.validate.map fun _ => s
  := by
  have := (areSomeOf_members s).read_object small
  rwa [orDefault_members] at this

/-- Settings that are read have no fault. -/
theorem validate_of_read {text : String} (h : read text = .ok s) :
  s.validate = .ok ()
  := by
  rw [read] at h
  split at h
  · simp at h
  · rename_i settings _
    cases valid : settings.validate with
    | error fault => simp [valid, Except.map] at h
    | ok _ =>
      rw [valid] at h
      cases h
      exact valid

/-- The text of settings is read as the settings if they have no fault, and is else refused with the
message about the first fault.  If members are left out of the text, and if any others stand among
them, what is read is as for the settings with the defaults for what is left out.  Nothing that is
read has a fault. -/
theorem read_settings (s : Settings) (small : s.maxDepth < UInt64.size) :
  (0 < s.maxDepth → s.identityField ≠ "" → read s.toJson.write = .ok s)
    ∧ (s.maxDepth = 0 → ∃ fault, read s.toJson.write = .error fault
      ∧ (FilterError.settings fault).message
        = "Invalid filter settings: max_depth must be greater than zero")
    ∧ (0 < s.maxDepth → s.identityField = "" → ∃ fault, read s.toJson.write = .error fault
      ∧ (FilterError.settings fault).message
        = "Invalid filter settings: identity_field must not be empty")
    ∧ (∀ members, AreSomeOf members s →
      read (Json.object members).write
        = read (s.orDefault (members.map Prod.fst)).toJson.write)
    ∧ ∀ text t, read text = .ok t → t.validate = .ok ()
  := by
  refine ⟨?valid, ?shallow, ?nameless, ?partly, ?only⟩
  case valid =>
    intro positive named
    rw [read_toJson small, validate, if_neg (Nat.ne_of_gt positive), if_neg named]
    rfl
  case shallow =>
    intro zero
    rw [read_toJson small, validate, if_pos zero]
    exact ⟨_, rfl, rfl⟩
  case nameless =>
    intro positive empty
    rw [read_toJson small, validate, if_neg (Nat.ne_of_gt positive), if_pos empty]
    exact ⟨_, rfl, rfl⟩
  case partly =>
    intro members given
    rw [given.read_object small, read_toJson (maxDepth_orDefault_lt small _)]
  case only => exact fun text t => validate_of_read

/-- A depth of zero is left out, between members with other names. -/
theorem read_settings_partly :
  let s : Settings := ⟨0, "\u2028\"id\"\n"⟩
  let members :=
    [("depth", .null), ("identity_field", .string s.identityField), ("depth", .bool true)]
  s.maxDepth < UInt64.size ∧ AreSomeOf members s
    ∧ (∃ fault, read s.toJson.write = .error fault)
    ∧ read (Json.object members).write = .ok { s with maxDepth := 256 }
  := by
  intro s members
  have given : AreSomeOf members s := by
    constructor
    · intro member listed named
      simp only [members, List.mem_cons, List.not_mem_nil, or_false] at listed
      rcases listed with rfl | rfl | rfl
      · simp [fields] at named
      · simp [s, Settings.members]
      · simp [fields] at named
    · exact (by decide : (["depth", "identity_field", "depth"].filter (· ∈ fields)).Nodup)
  obtain ⟨-, refused, -, partly, -⟩ := read_settings s (by decide)
  obtain ⟨accepted, -⟩ := read_settings { s with maxDepth := 256 } (by decide)
  refine ⟨by decide, given, ?_, ?_⟩
  · obtain ⟨fault, refused, -⟩ := refused rfl
    exact ⟨fault, refused⟩
  · rw [partly members given]
    apply accepted
    · decide
    · decide

end Settings

end FilterQuery
