import FilterQuery.Proofs.Json.Numeral

/-!
# The tokens of a written value

`Json.spelled` is the spelling of a value in its compact text, and `Spelled.tokens` are the tokens
of a spelling.  A scan that comes to the text of a value between two tokens reads the tokens of its
spelling, if what follows the value ends a word.
-/

namespace FilterQuery.Json

/-! ### Spellings -/

/-- The piece that a character of a string is written as. -/
def Piece.ofChar (c : Char) : Piece :=
  if c < ' ' ∧ c ∉ ['\x08', '\t', '\n', '\x0c', '\r'] then .unit c.toNat else .char c

mutual

/-- The spelling of a value in its compact text. -/
def spelled : Json → Spelled
  | .null => .null
  | .bool b => .bool b
  | .int n => .numeral (.ofInt n)
  | .float x => if x.isFinite then .numeral (.ofFloat x) else .null
  | .string s => .string (s.toList.map .ofChar)
  | .array items => .array (spelledItems items)
  | .object members => .object (spelledMembers members)

def spelledItems : List Json → List Spelled
  | [] => []
  | item :: items => spelled item :: spelledItems items

def spelledMembers : List (String × Json) → List (List Piece × Spelled)
  | [] => []
  | (name, value) :: members =>
    (name.toList.map .ofChar, spelled value) :: spelledMembers members

end

mutual

/-- The tokens of a spelling. -/
def Spelled.tokens : Spelled → List Token
  | .null => [.null]
  | .bool b => [.bool b]
  | .numeral n => [.numeral n]
  | .string pieces => [.string pieces]
  | .array items => .openArray :: (itemTokens items ++ [.closeArray])
  | .object members => .openObject :: (memberTokens members ++ [.closeObject])

/-- The tokens of items with commas between them. -/
def itemTokens : List Spelled → List Token
  | [] => []
  | [item] => item.tokens
  | item :: next :: items => item.tokens ++ .comma :: itemTokens (next :: items)

/-- The tokens of members with commas between them. -/
def memberTokens : List (List Piece × Spelled) → List Token
  | [] => []
  | [(name, value)] => .string name :: .colon :: value.tokens
  | (name, value) :: next :: members =>
    .string name :: .colon :: (value.tokens ++ .comma :: memberTokens (next :: members))

end

/-! ### Runs of a scan -/

namespace Scan

/-- The tokens of a text that a scan goes on with. -/
def run (scan : Scan) (s : List Char) : Option (List Token) :=
  (s.foldlM step scan).bind finish?

theorem run_cons (scan : Scan) (c : Char) (s : List Char) :
  run scan (c :: s) = (step scan c).bind fun next => run next s
  := by
  unfold run
  rw [List.foldlM_cons]
  cases step scan c <;> rfl

/-- Whether a text is at its end or goes on with a character that ends a word. -/
def EndsWord (rest : List Char) : Prop := ∀ c ∈ rest.head?, endsWord c

theorem endsWord_eq_false {c : Char}
    (h : c ∉ [' ', '\t', '\n', '\r', '[', ']', '{', '}', ',', ':', '"']) :
  endsWord c = false
  := by
  unfold endsWord isSpace mark?
  simp at h
  simp [h]

theorem endsWord_of_isDigit {c : Char} (h : c.isDigit) :
  endsWord c = false
  := by
  apply endsWord_eq_false
  intro ends
  simp only [List.mem_cons, List.not_mem_nil, or_false] at ends
  rcases ends with rfl | rfl | rfl | rfl | rfl | rfl | rfl | rfl | rfl | rfl | rfl <;> cases h

theorem forall_endsWord_eq_false {word : List Char} (h : word.any endsWord = false) :
  ∀ c ∈ word, endsWord c = false
  := fun c hc => Bool.eq_false_iff.2 (List.any_eq_false.1 h c hc)

theorem run_mark {c : Char} {token : Token} (h : mark? c = some token) (tokens : List Token)
    (rest : List Char) :
  run ⟨tokens, .between⟩ (c :: rest) = run ⟨token :: tokens, .between⟩ rest
  := by
  have notSpace : isSpace c = false ∧ c ≠ '"' := by
    unfold mark? at h
    split at h <;> simp_all [isSpace]
  rw [run_cons]
  simp [step, stepBetween, notSpace, h]

/-- A scan reads a word up to the character that ends it. -/
theorem run_letters {word : List Char} (h : ∀ c ∈ word, endsWord c = false) (tokens : List Token)
    (letters rest : List Char) :
  run ⟨tokens, .word letters⟩ (word ++ rest)
    = run ⟨tokens, .word (word.reverse ++ letters)⟩ rest
  := by
  induction word generalizing letters with
  | nil => rfl
  | cons c word ih =>
    have inside := h c List.mem_cons_self
    rw [List.cons_append, run_cons]
    simp only [step, inside]
    rw [List.reverse_cons, List.append_assoc]
    apply ih fun c hc => h c (List.mem_cons_of_mem _ hc)

/-- A word is read as its token when it ends. -/
theorem run_endsWord {letters : List Char} {token : Token}
    (h : Token.ofWord? letters.reverse = some token) (tokens : List Token) {rest : List Char}
    (ends : EndsWord rest) :
  run ⟨tokens, .word letters⟩ rest = run ⟨token :: tokens, .between⟩ rest
  := by
  cases rest with
  | nil => simp [run, finish?, h]
  | cons c rest =>
    rw [run_cons, run_cons]
    simp [step, ends c rfl, h]

/-- A word before something that ends it is read as its token. -/
theorem run_word {word : List Char} {token : Token} (h : Token.ofWord? word = some token)
    (inside : ∀ c ∈ word, endsWord c = false) (nonempty : word ≠ []) (tokens : List Token)
    {rest : List Char} (ends : EndsWord rest) :
  run ⟨tokens, .between⟩ (word ++ rest) = run ⟨token :: tokens, .between⟩ rest
  := by
  obtain ⟨c, word, rfl⟩ := List.exists_cons_of_ne_nil nonempty
  have first := inside c List.mem_cons_self
  have others : ∀ c ∈ word, endsWord c = false := fun c hc => inside c (List.mem_cons_of_mem _ hc)
  have starts : stepBetween tokens c = ⟨tokens, .word [c]⟩ := by
    simp [endsWord] at first
    simp [stepBetween, first]
  rw [List.cons_append, run_cons]
  simp only [step, starts, Option.bind_some]
  rw [run_letters others]
  apply run_endsWord _ tokens ends
  simpa using h

/-! ### Strings -/

theorem toNat_lt_of_lt_space {c : Char} (h : c < ' ') :
  c.toNat < 32
  := h

/-- A code unit below 256 is read from its four digits. -/
theorem run_unit {n : Nat} (h : n < 256) (tokens : List Token) (pieces : List Piece)
    (rest : List Char) :
  run ⟨tokens, .string pieces⟩
      ('\\' :: 'u' :: '0' :: '0' :: Text.hexOfByte (UInt8.ofNat n) ++ rest)
    = run ⟨tokens, .string (.unit n :: pieces)⟩ rest
  := by
  have high : n / 16 < 16 := by omega
  have low : n % 16 < 16 := by omega
  have zero : Text.hexValue? '0' = some 0 := rfl
  have byte : (UInt8.ofNat n).toNat = n := UInt8.toNat_ofNat_of_lt' h
  rw [Text.hexOfByte, byte]
  simp only [List.cons_append, List.nil_append, run_cons]
  simp [step, Place.afterDigit, zero, Text.hexValue?_hexDigit high, Text.hexValue?_hexDigit low,
    Nat.div_add_mod]

theorem run_escapeChar (c : Char) (tokens : List Token) (pieces : List Piece) (rest : List Char) :
  run ⟨tokens, .string pieces⟩ (escapeChar c ++ rest)
    = run ⟨tokens, .string (.ofChar c :: pieces)⟩ rest
  := by
  unfold escapeChar
  split
  case h_1 | h_2 | h_3 | h_4 | h_5 | h_6 | h_7 => rfl
  case h_8 notQuote notBackslash notB notT notN notF notR =>
    have named : c ∉ ['\x08', '\t', '\n', '\x0c', '\r'] := by
      simp
      exact ⟨notB, notT, notN, notF, notR⟩
    by_cases control : c < ' '
    · rw [if_pos control, Piece.ofChar, if_pos ⟨control, named⟩]
      apply run_unit
      apply lt_trans (toNat_lt_of_lt_space control) (by decide)
    · rw [if_neg control, Piece.ofChar, if_neg fun h => control h.1, List.singleton_append,
        run_cons]
      simp only [step, if_neg notQuote, if_neg notBackslash, if_neg control]
      rfl

theorem run_escapeChars (s : List Char) (tokens : List Token) (pieces : List Piece)
    (rest : List Char) :
  run ⟨tokens, .string pieces⟩ (s.flatMap escapeChar ++ rest)
    = run ⟨tokens, .string ((s.map Piece.ofChar).reverse ++ pieces)⟩ rest
  := by
  induction s generalizing pieces with
  | nil => rfl
  | cons c s ih =>
    rw [List.flatMap_cons, List.append_assoc, run_escapeChar, ih, List.map_cons,
      List.reverse_cons, List.append_assoc]
    rfl

theorem run_writeString (s : String) (tokens : List Token) (rest : List Char) :
  run ⟨tokens, .between⟩ (writeString s ++ rest)
    = run ⟨.string (s.toList.map Piece.ofChar) :: tokens, .between⟩ rest
  := by
  have opened : stepBetween tokens '"' = ⟨tokens, .string []⟩ := rfl
  rw [writeString, List.append_assoc, List.cons_append, run_cons]
  simp only [step, opened, Option.bind_some]
  rw [run_escapeChars, List.append_nil, List.singleton_append, run_cons]
  simp [step]

/-! ### Literal names and numerals -/

theorem ofWord?_of_numeral {word : List Char} {n : Numeral} (h : Numeral.ofWord? word = some n) :
  Token.ofWord? word = some (.numeral n)
  := by
  have notNull : word ≠ "null".toList := by
    rintro rfl
    cases h
  have notTrue : word ≠ "true".toList := by
    rintro rfl
    cases h
  have notFalse : word ≠ "false".toList := by
    rintro rfl
    cases h
  rw [Token.ofWord?, if_neg notNull, if_neg notTrue, if_neg notFalse, h, Option.map_some]

/-- A numeral before something that ends a word is read as its token. -/
theorem run_numeral {word : List Char} {n : Numeral} (h : Numeral.ofWord? word = some n)
    (inside : ∀ c ∈ word, endsWord c = false) (tokens : List Token) {rest : List Char}
    (ends : EndsWord rest) :
  run ⟨tokens, .between⟩ (word ++ rest) = run ⟨.numeral n :: tokens, .between⟩ rest
  := by
  have nonempty : word ≠ [] := by
    rintro rfl
    cases h
  apply run_word (ofWord?_of_numeral h) inside nonempty tokens ends

theorem endsWord_of_mem_sign (negative : Bool) :
  ∀ c ∈ signText negative, endsWord c = false
  := by
  cases negative with
  | true => exact List.forall_mem_singleton.2 rfl
  | false => exact List.forall_mem_nil _

theorem endsWord_of_mem_toDigits (n : Nat) :
  ∀ c ∈ Nat.toDigits 10 n, endsWord c = false
  := fun c hc => endsWord_of_isDigit (Text.isDigit_toDigits n c hc)

theorem endsWord_of_mem_zeros (n : Nat) :
  ∀ c ∈ List.replicate n '0', endsWord c = false
  := fun c hc => endsWord_of_isDigit (Text.isDigit_zeros n c hc)

theorem endsWord_of_mem_digits (d : Decimal) :
  ∀ c ∈ d.digits, endsWord c = false
  := endsWord_of_mem_toDigits d.coefficient

theorem endsWord_of_mem_positional (d : Decimal) :
  ∀ c ∈ d.positional true, endsWord c = false
  := by
  have digits := endsWord_of_mem_digits d
  have point : endsWord '.' = false := rfl
  rw [Decimal.positional]
  split
  · rw [List.forall_mem_append, List.forall_mem_append]
    exact ⟨⟨digits, endsWord_of_mem_zeros _⟩, forall_endsWord_eq_false rfl⟩
  · split
    · rw [List.forall_mem_append, List.forall_mem_cons]
      constructor
      · exact fun c hc => digits c (List.mem_of_mem_take hc)
      · exact ⟨point, fun c hc => digits c (List.mem_of_mem_drop hc)⟩
    · rw [List.forall_mem_append, List.forall_mem_cons, List.forall_mem_cons]
      exact ⟨⟨rfl, point, endsWord_of_mem_zeros _⟩, digits⟩

theorem endsWord_of_mem_scientific (d : Decimal) :
  ∀ c ∈ d.scientific, endsWord c = false
  := by
  have digits := endsWord_of_mem_digits d
  rw [Decimal.scientific, List.forall_mem_append, List.forall_mem_cons, List.forall_mem_cons]
  constructor
  · split
    · next first second rest shape =>
      rw [shape, List.forall_mem_cons] at digits
      rw [List.forall_mem_cons, List.forall_mem_cons]
      exact ⟨digits.1, rfl, digits.2⟩
    · apply digits
  · constructor
    · rfl
    · constructor
      · split <;> rfl
      · apply endsWord_of_mem_toDigits

theorem endsWord_of_mem_write (d : Decimal) :
  ∀ c ∈ d.write floatStyle, endsWord c = false
  := by
  rw [Decimal.write]
  split
  · apply endsWord_of_mem_positional
  · apply endsWord_of_mem_scientific

theorem run_int (n : Int) (tokens : List Token) {rest : List Char} (ends : EndsWord rest) :
  run ⟨tokens, .between⟩ (writeInt n ++ rest)
    = run ⟨.numeral (.ofInt n) :: tokens, .between⟩ rest
  := by
  apply run_numeral (ofWord?_writeInt n) _ tokens ends
  intro c hc
  rcases List.mem_append.1 hc with sign | digit
  · apply endsWord_of_mem_sign (n < 0) c (by simpa [signText] using sign)
  · apply endsWord_of_mem_toDigits n.natAbs c digit

theorem run_float {x : Binary64} (finite : x.isFinite) (tokens : List Token) {rest : List Char}
    (ends : EndsWord rest) :
  run ⟨tokens, .between⟩ (writeFloat x ++ rest)
    = run ⟨.numeral (.ofFloat x) :: tokens, .between⟩ rest
  := by
  apply run_numeral (ofWord?_writeFloat finite) _ tokens ends
  rw [writeFloat, if_pos finite]
  apply List.forall_mem_append.2 ⟨endsWord_of_mem_sign _, endsWord_of_mem_write _⟩

theorem run_null (tokens : List Token) {rest : List Char} (ends : EndsWord rest) :
  run ⟨tokens, .between⟩ ("null".toList ++ rest) = run ⟨.null :: tokens, .between⟩ rest
  := run_word rfl (forall_endsWord_eq_false rfl) (by decide) tokens ends

theorem run_bool (b : Bool) (tokens : List Token) {rest : List Char} (ends : EndsWord rest) :
  run ⟨tokens, .between⟩ (writeBefore (.bool b) rest) = run ⟨.bool b :: tokens, .between⟩ rest
  := by
  cases b with
  | true => apply run_word rfl (forall_endsWord_eq_false rfl) (by decide) tokens ends
  | false => apply run_word rfl (forall_endsWord_eq_false rfl) (by decide) tokens ends

/-! ### Values -/

theorem endsWord_cons {c : Char} (h : endsWord c) (rest : List Char) :
  EndsWord (c :: rest)
  := by
  intro d hd
  rw [List.head?_cons, Option.mem_some_iff] at hd
  rw [← hd]
  apply h

mutual

/-- A scan reads the tokens of a value that it comes to. -/
theorem run_writeBefore (j : Json) (tokens : List Token) {rest : List Char} (ends : EndsWord rest) :
  run ⟨tokens, .between⟩ (writeBefore j rest)
    = run ⟨j.spelled.tokens.reverse ++ tokens, .between⟩ rest
  := by
  match j with
  | .null => apply run_null tokens ends
  | .bool b => apply run_bool b tokens ends
  | .int n => apply run_int n tokens ends
  | .float x =>
    rw [writeBefore, spelled]
    by_cases finite : x.isFinite
    · rw [if_pos finite]
      apply run_float finite tokens ends
    · rw [if_neg finite, writeFloat, if_neg finite]
      apply run_null tokens ends
  | .string s => apply run_writeString s tokens rest
  | .array items =>
    rw [writeBefore, run_mark rfl,
      run_writeItems items (.openArray :: tokens) (endsWord_cons (by decide) rest), run_mark rfl]
    simp [spelled, Spelled.tokens]
  | .object members =>
    rw [writeBefore, run_mark rfl,
      run_writeMembers members (.openObject :: tokens) (endsWord_cons (by decide) rest),
      run_mark rfl]
    simp [spelled, Spelled.tokens]

theorem run_writeItems (items : List Json) (tokens : List Token) {rest : List Char}
    (ends : EndsWord rest) :
  run ⟨tokens, .between⟩ (writeItems items rest)
    = run ⟨(itemTokens (spelledItems items)).reverse ++ tokens, .between⟩ rest
  := by
  match items with
  | [] => rfl
  | [j] => apply run_writeBefore j tokens ends
  | j :: k :: items =>
    rw [writeItems, run_writeBefore j tokens (endsWord_cons (by decide) _), run_mark rfl,
      run_writeItems (k :: items) _ ends]
    simp [spelledItems, itemTokens]

theorem run_writeMembers (members : List (String × Json)) (tokens : List Token) {rest : List Char}
    (ends : EndsWord rest) :
  run ⟨tokens, .between⟩ (writeMembers members rest)
    = run ⟨(memberTokens (spelledMembers members)).reverse ++ tokens, .between⟩ rest
  := by
  match members with
  | [] => rfl
  | [(name, j)] =>
    rw [writeMembers, run_writeString, run_mark rfl, run_writeBefore j _ ends]
    simp [spelledMembers, memberTokens]
  | (name, j) :: member :: members =>
    rw [writeMembers, run_writeString, run_mark rfl,
      run_writeBefore j _ (endsWord_cons (by decide) _), run_mark rfl,
      run_writeMembers (member :: members) _ ends]
    simp [spelledMembers, memberTokens]

end

end Scan

/-- The tokens of the text of a value are those of its spelling. -/
theorem scan?_writeBefore (j : Json) :
  Token.scan? (writeBefore j []) = some j.spelled.tokens
  := by
  have ends : Scan.EndsWord [] := by rintro c ⟨⟩
  have tokens := Scan.run_writeBefore j [] ends
  rw [Token.scan?]
  simpa [Scan.run, Scan.finish?] using tokens

end FilterQuery.Json
