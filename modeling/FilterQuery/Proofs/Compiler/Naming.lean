import FilterQuery.Proofs.Compiler.Skeleton
import FilterQuery.Proofs.FieldArena.Growth

/-!
# What compiling sees of a field

Of the field on the left of an expression that joins no others, compiling sees the path it names and
nothing else.  `Compiler.NamesAlike` relates operands that have the same expressions and name the
same paths, over one arena and over another; they are compiled in the same way, to the same error or
query and with the same log.  So a filter is compiled as before when its arena grows, and when any
of its fields that are compared with something are replaced by strings, those of their paths.
-/

namespace FilterQuery

/-! ### Operands that name the same paths -/

/-- Operands that are the same to an expression that joins no others, which does not look into
expressions. -/
inductive Operand.LooksAs : Operand → Operand → Prop
  | same (o : Operand) : LooksAs o o
  | expressions {kind kind' : ExprKind} {left right left' right' : Operand} :
    LooksAs (.expression kind left right) (.expression kind' left' right')

namespace Compiler

/-- Operands with the same expressions, which name the same paths over one arena and over
another. -/
inductive NamesAlike (c : Compiler) (paths paths' : FieldArena) : Operand → Operand → Prop
  | joined {kind : ExprKind} {left right left' right' : Operand} (joins : kind.joins)
      (onLeft : NamesAlike c paths paths' left left')
      (onRight : NamesAlike c paths paths' right right') :
    NamesAlike c paths paths' (.expression kind left right) (.expression kind left' right')
  | leaf {kind : ExprKind} {left right left' right' : Operand} (leaf : ¬ kind.joins)
      (path : c.path paths kind left = c.path paths' kind left')
      (target : kind = .function → left.LooksAs left') (data : right.LooksAs right') :
    NamesAlike c paths paths' (.expression kind left right) (.expression kind left' right')
  | other {o : Operand} (shape : o.shape ≠ .expression) : NamesAlike c paths paths' o o

section Alike

variable {c : Compiler} {paths paths' : FieldArena} {kind : ExprKind}
  {left right left' right' o o' : Operand}

theorem equality_eq_of_path (path : c.path paths .equal left = c.path paths' .equal left')
    (data : right.LooksAs right') :
  c.equality paths left right = c.equality paths' left' right'
  := by
  rw [equality, equality, path]
  cases data <;> rfl

theorem inequality_eq_of_path (path : c.path paths .notEqual left = c.path paths' .notEqual left')
    (data : right.LooksAs right') :
  c.inequality paths left right = c.inequality paths' left' right'
  := by
  rw [inequality, inequality, path]
  cases data <;> rfl

theorem comparison_eq_of_path (operator : String → Bson → Query)
    (path : c.path paths kind left = c.path paths' kind left') (data : right.LooksAs right') :
  c.comparison paths kind operator left right = c.comparison paths' kind operator left' right'
  := by
  rw [comparison, comparison, path]
  cases data <;> rfl

theorem application_eq_of_path (path : c.path paths .function left = c.path paths' .function left')
    (target : left.LooksAs left') (data : right.LooksAs right') :
  c.application paths left right = c.application paths' left' right'
  := by
  cases data with
  | same right =>
    cases right with
    | call call =>
      cases target with
      | same left =>
        cases left with
        | field ref => simp only [application, path]
        | _ => rfl
      | expressions => rfl
    | _ => rfl
  | expressions => rfl

/-- An expression that joins no others is the same with an operand that names the same path. -/
theorem node_eq_of_path {sub sub' : Operand → Traced Query} (leaf : ¬ kind.joins)
    (path : c.path paths kind left = c.path paths' kind left')
    (target : kind = .function → left.LooksAs left') (data : right.LooksAs right') :
  c.node paths sub kind left right = c.node paths' sub' kind left' right'
  := by
  cases kind with
  | and => cases leaf rfl
  | or => cases leaf rfl
  | equal => apply congrArg Traced.lift (equality_eq_of_path path data)
  | notEqual => apply congrArg Traced.lift (inequality_eq_of_path path data)
  | function => apply application_eq_of_path path (target rfl) data
  | _ => apply congrArg Traced.lift (comparison_eq_of_path _ path data)

/-- Expressions are compiled in the same way when their nodes are the same. -/
theorem operand_eq_of_node (parent : ExprKind) (depth : Nat)
    (same : c.node paths (c.operand paths kind (depth + 1)) kind left right
      = c.node paths' (c.operand paths' kind (depth + 1)) kind left' right') :
  c.operand paths parent depth (.expression kind left right)
    = c.operand paths' parent depth (.expression kind left' right')
  := by
  by_cases within : depth ≤ c.settings.maxDepth
  · rw [operand_of_le _ _ _ _ _ _ within, operand_of_le _ _ _ _ _ _ within, same]
  · rw [operand_of_lt _ _ _ _ _ _ (Nat.lt_of_not_le within),
      operand_of_lt _ _ _ _ _ _ (Nat.lt_of_not_le within)]

/-- Operands that name the same paths are compiled in the same way. -/
theorem NamesAlike.operand_eq (alike : c.NamesAlike paths paths' o o') (parent : ExprKind)
    (depth : Nat) :
  c.operand paths parent depth o = c.operand paths' parent depth o'
  := by
  induction alike generalizing parent depth with
  | @joined kind _ _ _ _ joins onLeft onRight leftSame rightSame =>
    apply operand_eq_of_node
    rw [node_of_joins _ _ joins, node_of_joins _ _ joins, leftSame kind, rightSame kind]
  | leaf leaf path target data =>
    apply operand_eq_of_node
    apply node_eq_of_path leaf path target data
  | @other o shape =>
    cases o with
    | expression => cases shape rfl
    | _ => rfl

/-- Filters that name the same paths are compiled in the same way. -/
theorem NamesAlike.compile_eq {filter filter' : Filter}
    (alike : c.NamesAlike filter.paths filter'.paths filter.root.toOperand filter'.root.toOperand)
    (kind : filter.root.kind = filter'.root.kind) :
  c.compile filter = c.compile filter'
  := by
  rw [compile, compile, expression, expression, alike.operand_eq, kind]

end Alike

end Compiler

/-! ### Arenas that grow -/

/-- The fields in an operand, in order. -/
def Operand.fields : Operand → List FieldRef
  | .expression _ left right => left.fields ++ right.fields
  | .field ref => [ref]
  | _ => []

section Growth

variable (c : Compiler) {arena grown : FieldArena} {o : Operand}

/-- An operand names the same path when the arena grows. -/
theorem path_eq_of_growsTo (grows : arena.GrowsTo grown)
    (inside : ∀ field ∈ o.fields, field.index < arena.size) (kind : ExprKind) :
  c.path grown kind o = c.path arena kind o
  := by
  cases o with
  | field ref =>
    have kept := grows.segments?_eq (inside ref List.mem_cons_self)
    simp only [Compiler.path, Compiler.resolve?, kept]
  | literal value => cases value <;> rfl
  | _ => rfl

/-- Operands name the same paths when the arena grows. -/
theorem namesAlike_of_growsTo (grows : arena.GrowsTo grown)
    (inside : ∀ field ∈ o.fields, field.index < arena.size) :
  c.NamesAlike grown arena o o
  := by
  induction o with
  | expression kind left right onLeft onRight =>
    obtain ⟨leftInside, rightInside⟩ := List.forall_mem_append.1 inside
    by_cases joins : kind.joins
    · apply Compiler.NamesAlike.joined joins (onLeft leftInside) (onRight rightInside)
    · apply Compiler.NamesAlike.leaf joins (path_eq_of_growsTo c grows leftInside kind)
      · exact fun _ => .same left
      · exact .same right
  | _ => exact .other nofun

end Growth

/-- A filter whose fields are all in its arena is compiled in the same way, to the same error or
query and with the same log, when more nodes are added to the arena, of any names and owners. -/
theorem compile_append (c : Compiler) (arena : FieldArena) (more : List FieldNode)
    (root : Expression) (inside : ∀ field ∈ root.toOperand.fields, field.index < arena.size) :
  c.compile ⟨⟨arena.nodes ++ more⟩, root⟩ = c.compile ⟨arena, root⟩
  := by
  have grows : arena.GrowsTo ⟨arena.nodes ++ more⟩ := List.prefix_append _ _
  exact (namesAlike_of_growsTo c grows inside).compile_eq rfl

/-- A field without a way up to a root has none either when its missing owner is added. -/
theorem compile_append_forward :
  let arena : FieldArena := ⟨[⟨"a", none⟩, ⟨"b", some ⟨2⟩⟩]⟩
  let root : Expression := .or (.eq ⟨0⟩ (.literal .null)) (.ne ⟨1⟩ (.list []))
  (∀ field ∈ root.toOperand.fields, field.index < arena.size)
    ∧ Compiler.default.compile ⟨⟨arena.nodes ++ [⟨"c", none⟩]⟩, root⟩
      = Compiler.default.compile ⟨arena, root⟩
    ∧ (Compiler.default.compile ⟨⟨arena.nodes ++ [⟨"c", none⟩]⟩, root⟩).result
      = .error (.invalidOperand .notEqual (.dangling ⟨1⟩))
  := by
  intro arena root
  have inside : ∀ field ∈ root.toOperand.fields, field.index < arena.size := by decide
  have same := compile_append .default arena [⟨"c", none⟩] root inside
  refine ⟨inside, same, ?_⟩
  have child : arena.get? ⟨1⟩ = some ⟨"b", some ⟨2⟩⟩ := rfl
  have above : arena.segments? ⟨0⟩ = some ["a"] := FieldArena.segments?_of_root _ rfl
  have missing : arena.segments? ⟨1⟩ = none := FieldArena.segments?_of_child _ child
  rw [same, Compiler.result_compile]
  simp only [root, Compiler.operand, Expression.or, Expression.eq, Expression.ne,
    Expression.toOperand, Compiler.equality, Compiler.inequality, Compiler.path,
    Compiler.resolve?, above, missing]
  rfl

/-! ### Fields that are spelled out -/

/-- Whether expressions of a kind compare a field with data. -/
def ExprKind.compares : ExprKind → Bool
  | .and | .or | .function => false
  | _ => true

theorem ExprKind.not_compares_of_joins {kind : ExprKind} (joins : kind.joins) :
  ¬ kind.compares
  := by
  cases kind with
  | and | or => exact Bool.false_ne_true
  | _ => cases joins

namespace Compiler

/-- The string of the path of a field that has one, and any other operand as it is. -/
def spell (c : Compiler) (paths : FieldArena) : Operand → Operand
  | .field ref =>
    match c.resolve? paths ref with
    | some path => .literal (.string path)
    | none => .field ref
  | other => other

/-- The left operand of an expression, spelled out if the expression compares and is chosen. -/
def spellIf (c : Compiler) (paths : FieldArena) (kind : ExprKind) (chosen : Bool)
    (left : Operand) : Operand :=
  if kind.compares ∧ chosen then c.spell paths left else left

end Compiler

/-- An operand with the fields spelled out that chosen expressions in it compare.  An expression is
chosen by the way down to it. -/
def Operand.spelled (c : Compiler) (paths : FieldArena) : Operand → (List Side → Bool) → Operand
  | .expression kind left right, chosen =>
    .expression kind
      (c.spellIf paths kind (chosen []) (left.spelled c paths fun way => chosen (.left :: way)))
      (right.spelled c paths fun way => chosen (.right :: way))
  | other, _ => other

/-- An expression with the fields spelled out that it and chosen expressions in it compare. -/
def Expression.spelled (c : Compiler) (paths : FieldArena) (e : Expression)
    (chosen : List Side → Bool) : Expression where
  kind := e.kind
  left := c.spellIf paths e.kind (chosen [])
    (e.left.spelled c paths fun way => chosen (.left :: way))
  right := e.right.spelled c paths fun way => chosen (.right :: way)

/-- A filter with the fields spelled out that chosen expressions compare. -/
def Filter.spelled (c : Compiler) (filter : Filter) (chosen : List Side → Bool) : Filter :=
  ⟨filter.paths, filter.root.spelled c filter.paths chosen⟩

section Spelled

variable (c : Compiler) (paths : FieldArena)

/-- A field and the string of its path name the same path. -/
theorem path_spell (kind : ExprKind) (o : Operand) :
  c.path paths kind (c.spell paths o) = c.path paths kind o
  := by
  cases o with
  | field ref =>
    cases found : c.resolve? paths ref with
    | none => simp only [Compiler.spell, found]
    | some path => simp only [Compiler.spell, Compiler.path, found]
  | _ => rfl

theorem path_spellIf (kind : ExprKind) (chosen : Bool) (o : Operand) :
  c.path paths kind (c.spellIf paths kind chosen o) = c.path paths kind o
  := by
  rw [Compiler.spellIf]
  split
  · apply path_spell
  · rfl

theorem spellIf_of_not_compares {kind : ExprKind} (h : ¬ kind.compares) (chosen : Bool)
    (o : Operand) :
  c.spellIf paths kind chosen o = o
  := if_neg fun both => h both.1

/-- What is spelled out in the expressions of an operand is not seen from outside. -/
theorem looksAs_spelled (o : Operand) (chosen : List Side → Bool) :
  (o.spelled c paths chosen).LooksAs o
  := by
  cases o with
  | expression => exact .expressions
  | _ => exact .same _

theorem path_spelled (kind : ExprKind) (o : Operand) (chosen : List Side → Bool) :
  c.path paths kind (o.spelled c paths chosen) = c.path paths kind o
  := by
  cases o <;> rfl

/-- An operand names the same paths when fields in it are spelled out. -/
theorem namesAlike_spelled (o : Operand) (chosen : List Side → Bool) :
  c.NamesAlike paths paths (o.spelled c paths chosen) o
  := by
  induction o generalizing chosen with
  | expression kind left right onLeft onRight =>
    rw [Operand.spelled]
    by_cases joins : kind.joins
    · rw [spellIf_of_not_compares c paths (ExprKind.not_compares_of_joins joins)]
      exact .joined joins (onLeft _) (onRight _)
    · apply Compiler.NamesAlike.leaf joins
      · rw [path_spellIf, path_spelled]
      · rintro rfl
        have notCompared : ¬ ExprKind.function.compares := Bool.false_ne_true
        rw [spellIf_of_not_compares c paths notCompared]
        apply looksAs_spelled
      · apply looksAs_spelled
  | _ => exact .other nofun

end Spelled

/-- A filter is compiled in the same way, to the same error or query and with the same log, when the
fields that any of its expressions compare are replaced by the strings of their paths. -/
theorem compile_spelled (c : Compiler) (filter : Filter) (chosen : List Side → Bool) :
  c.compile (filter.spelled c chosen) = c.compile filter
  := (namesAlike_spelled c filter.paths filter.root.toOperand chosen).compile_eq rfl

/-- The field on the right is chosen and has a path, but not the one in it is chosen. -/
example :
    Filter.spelled .default ⟨⟨[⟨"a", none⟩, ⟨"Id", some ⟨0⟩⟩]⟩,
        .and (.gt ⟨1⟩ .null) (.eq ⟨1⟩ (.literal .null))⟩ (fun way => way matches [.right])
      = ⟨⟨[⟨"a", none⟩, ⟨"Id", some ⟨0⟩⟩]⟩,
        .and (.gt ⟨1⟩ .null) ⟨.equal, .literal (.string "a._id"), .literal .null⟩⟩ := by
  decide +kernel

end FilterQuery
