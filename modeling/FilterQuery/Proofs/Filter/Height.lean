import FilterQuery.Proofs.Compiler.Limit
import FilterQuery.Proofs.Compiler.Log
import FilterQuery.Proofs.Filter.Canonical

/-!
# The height of filters that are read

Each expression of a filter is nested two deeper in its JSON value than the one above it, as the
operand puts an object around it.  So the limit on the nesting of texts is one on the height of the
filters that are read, and compilers whose own limits are not below that do the same with every
text.  A tower of conjunctions is as high as a text allows, and every lower limit stops it.
-/

namespace FilterQuery

/-! ### Height and nesting -/

/-- The operands of an expression are nested two deeper than the operand it is. -/
theorem Operand.nesting_expression (kind : ExprKind) (left right : Operand) :
  (Operand.expression kind left right).toJson.nesting
    = max left.toJson.nesting right.toJson.nesting + 2
  := by
  simp only [toJson, ExprKind.toJson, Json.nesting, Json.membersNesting, Nat.zero_max,
    Nat.max_zero]

/-- An operand is nested twice as deep as it is high, and once more. -/
theorem Operand.height_le_nesting (o : Operand) :
  2 * o.height + 1 ≤ o.toJson.nesting
  := by
  induction o with
  | expression kind left right leftNesting rightNesting =>
    rw [nesting_expression, height]
    split <;> omega
  | _ =>
    rw [toJson, Json.nesting_singleton]
    apply Nat.succ_le_succ (Nat.zero_le _)

/-- A filter is an object around its root, as an operand that is an expression is. -/
theorem Filter.nesting_toJson (f : Filter) :
  f.toJson.nesting = max (f.paths.toJson.nesting + 1) f.root.toOperand.toJson.nesting
  := by
  have root : f.root.toOperand.toJson.nesting = f.root.toJson.nesting + 1 :=
    Json.nesting_singleton _ _
  rw [root, toJson, Json.nesting, Json.membersNesting, Json.membersNesting, Json.membersNesting,
    Nat.max_zero]
  omega

theorem Filter.height_le_nesting (f : Filter) :
  2 * f.height + 1 ≤ f.toJson.nesting
  := by
  apply f.root.toOperand.height_le_nesting.trans
  rw [nesting_toJson]
  apply Nat.le_max_right

/-- A filter that is read is less than half as high as texts may be nested. -/
theorem Filter.height_le_of_read {s : String} {f : Filter} (h : (read s).result = .ok f) :
  f.height ≤ 63
  := by
  obtain ⟨-, j, text, decoded⟩ := exists_of_read h
  obtain ⟨readable, within⟩ := Json.isReadable_of_read? text
  obtain ⟨-, flat⟩ := isWritable_of_ofJson? readable decoded
  have nested := (f.height_le_nesting.trans flat).trans within
  rw [Json.maxNesting] at nested
  omega

/-- Reading a filter does not fail because something is too deep. -/
theorem Filter.not_isTooDeep_read (s : String) :
  ¬ (read s).IsTooDeep
  := by
  rintro ⟨limit, stopped⟩
  unfold read ofJson at stopped
  repeat' split at stopped
  all_goals cases stopped

namespace Compiler

section Texts

variable (c : Compiler) {n m : Nat}

/-- Limits of 63 and more are all the same to texts. -/
theorem compileText_withMaxDepth_of_le (hn : 63 ≤ n) (hm : 63 ≤ m) (s : String) :
  (c.withMaxDepth n).compileText s = (c.withMaxDepth m).compileText s
  := by
  apply Traced.bind_congr_of_ok
  intro f made
  have low := Filter.height_le_of_read made
  apply c.compile_withMaxDepth_of_height (low.trans hm) (low.trans hn)

/-- No text is too deep for a limit of 63 or more. -/
theorem not_isTooDeep_compileText {c : Compiler} (never : c.registry.NeverTooDeep)
    (high : 63 ≤ c.settings.maxDepth) (s : String) :
  ¬ (c.compileText s).IsTooDeep
  := by
  rintro ⟨limit, stopped⟩
  rw [compileText] at stopped
  cases made : (Filter.read s).result with
  | error error =>
    rw [Traced.bind_of_error made] at stopped
    cases stopped
    exact Filter.not_isTooDeep_read s ⟨limit, made⟩
  | ok f =>
    rw [Traced.bind_of_ok made] at stopped
    have high' := (lt_height_of_depthExceeded never stopped).2
    have low := Filter.height_le_of_read made
    omega

end Texts

end Compiler

/-! ### Towers -/

/-- A comparison of the first field. -/
def Expression.base : Expression := .eq ⟨0⟩ (.literal .null)

/-- Conjunctions on top of each other, all of them the left operand of the next. -/
def Expression.tower : Nat → Expression
  | 0 => base
  | n + 1 => .and (tower n) base

/-- A tower on a field. -/
def Filter.tower (n : Nat) : Filter := ⟨⟨[⟨"a", none⟩]⟩, .tower n⟩

section Tower

variable (n : Nat)

theorem Expression.isWritable_tower :
  (tower n).IsWritable
  := by
  have base : base.IsWritable := by decide
  induction n with
  | zero => exact base
  | succ n ih => exact ⟨ih, base⟩

theorem Expression.nesting_tower :
  (tower n).toOperand.toJson.nesting = 2 * n + 3
  := by
  have base : base.toOperand.toJson.nesting = 3 := rfl
  induction n with
  | zero => exact base
  | succ n ih =>
    rw [tower, Expression.and, toOperand, Operand.nesting_expression, ih, base]
    omega

theorem Filter.nesting_tower :
  (tower n).toJson.nesting = max 4 (2 * n + 3)
  := by
  have paths : (tower n).paths.toJson.nesting = 3 := rfl
  rw [nesting_toJson, paths, tower, Expression.nesting_tower]

/-- The text of a tower is read if its operands are not nested too deep. -/
theorem Filter.read_write_tower {n : Nat} (low : n ≤ 62) :
  read (tower n).write = pure (tower n)
  := by
  have paths : (⟨[⟨"a", none⟩]⟩ : FieldArena).IsWritable := by decide
  have writable : (tower n).IsWritable := ⟨paths, Expression.isWritable_tower n⟩
  have nested : (tower n).toJson.nesting ≤ Json.maxNesting := by
    rw [nesting_tower, Json.maxNesting]
    omega
  have text : Json.read? (tower n).write = some (tower n).toJson :=
    (Json.read?_write (isReadable_toJson writable)).trans (if_pos nested)
  rw [read, text]
  apply ofJson_toJson writable

/-- A tower is stopped by every limit that is above its base. -/
theorem Compiler.result_operand_tower (c : Compiler) (paths : FieldArena) (parent : ExprKind)
    {depth : Nat} (low : c.settings.maxDepth < depth + n) :
  (c.operand paths parent depth (Expression.tower n).toOperand).result
    = .error (.depthExceeded c.settings.maxDepth)
  := by
  induction n generalizing parent depth with
  | zero =>
    have deep : c.settings.maxDepth < depth := low
    rw [Expression.toOperand, operand_of_lt _ _ _ _ _ _ deep]
    rfl
  | succ n ih =>
    rw [Expression.toOperand]
    by_cases within : depth ≤ c.settings.maxDepth
    · have below := ih .and (by omega : c.settings.maxDepth < depth + 1 + n)
      rw [result_operand_of_le _ _ _ _ _ _ within, Expression.tower, Expression.and,
        node_of_joins _ _ rfl, Traced.bind_of_error below]
    · rw [operand_of_lt _ _ _ _ _ _ (Nat.lt_of_not_le within)]
      rfl

theorem Compiler.result_compile_tower (c : Compiler) (low : c.settings.maxDepth ≤ n) :
  (c.compile (Filter.tower n)).result = .error (.depthExceeded c.settings.maxDepth)
  := by
  rw [result_compile]
  apply result_operand_tower
  rw [Nat.add_comm]
  apply Nat.lt_succ_of_le low

end Tower

/-- Texts are nested up to 127 deep, and filters that are read are at most 63 high.  So two
compilers whose limits are 63 or more, and which differ in nothing else, do the same with every
text, and if no function fails because something is too deep, no text is too deep for them.  There is
a text that is too deep for every limit of less than 63. -/
theorem compileText_withMaxDepth (c : Compiler) :
  (∀ s j, Json.read? s = some j → j.nesting ≤ 127)
    ∧ (∀ s f, (Filter.read s).result = .ok f → f.height ≤ 63)
    ∧ (∀ n m, 63 ≤ n → 63 ≤ m →
        ∀ s, (c.withMaxDepth n).compileText s = (c.withMaxDepth m).compileText s)
    ∧ (c.registry.NeverTooDeep →
        ∀ n, 63 ≤ n → ∀ s, ¬ ((c.withMaxDepth n).compileText s).IsTooDeep)
    ∧ ∃ s, ∀ n < 63, ((c.withMaxDepth n).compileText s).result = .error (.depthExceeded n)
  := by
  refine ⟨?nested, ?low, ?same, ?never, (Filter.tower 62).write, ?deep⟩
  case nested =>
    intro s j text
    apply (Json.isReadable_of_read? text).2
  case low =>
    intro s f made
    apply Filter.height_le_of_read made
  case same =>
    intro n m hn hm s
    apply c.compileText_withMaxDepth_of_le hn hm
  case never =>
    intro never n hn s
    have unchanged : (c.withMaxDepth n).registry.NeverTooDeep := never
    apply Compiler.not_isTooDeep_compileText unchanged hn
  case deep =>
    intro n low
    rw [Compiler.compileText, Filter.read_write_tower (Nat.le_refl _), pure_bind]
    apply Compiler.result_compile_tower
    apply Nat.le_of_lt_succ low

/-- The default limit is high enough for the highest tower that is read. -/
theorem compileText_withMaxDepth_default :
  Compiler.default.registry.NeverTooDeep
    ∧ ¬ (Compiler.default.compileText (Filter.tower 62).write).IsTooDeep
    ∧ Compiler.default.compileText (Filter.tower 62).write
      = (Compiler.default.withMaxDepth 63).compileText (Filter.tower 62).write
  := by
  obtain ⟨-, -, same, never, -⟩ := compileText_withMaxDepth Compiler.default
  have registry : Compiler.default.registry.NeverTooDeep := FunctionRegistry.neverTooDeep_builtin
  exact ⟨registry, never registry 256 (by decide) _, same 256 63 (by decide) (by decide) _⟩

end FilterQuery
