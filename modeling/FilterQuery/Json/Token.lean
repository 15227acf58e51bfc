import FilterQuery.Decimal.Basic
import FilterQuery.Text.Hex

/-!
# The tokens of a JSON text

`Token.scan?` divides a text into tokens.  It goes through the characters one by one; `Scan` is what
it knows between two of them.  Strings are kept as spelled, in pieces, and numerals as the decimals
they name, so that a token says nothing yet about ranges or about surrogates.
-/

namespace FilterQuery.Json

/-- A piece of a string: a character, or a code unit by its number. -/
inductive Piece where
  | char (c : Char)
  | unit (n : Nat)
deriving DecidableEq

namespace Piece

/-- Whether a code unit is the first of a surrogate pair. -/
def isHigh (n : Nat) : Bool := 0xD800 ≤ n && n < 0xDC00

/-- Whether a code unit is the second of a surrogate pair. -/
def isLow (n : Nat) : Bool := 0xDC00 ≤ n && n < 0xE000

/-- The characters that pieces stand for, if every surrogate is one of a pair. -/
def join? : List Piece → Option (List Char)
  | [] => some []
  | .char c :: rest => (join? rest).map (c :: ·)
  | .unit high :: .unit low :: rest =>
    if isHigh high && isLow low then
      (join? rest).map (Char.ofNat (0x10000 + (high - 0xD800) * 0x400 + (low - 0xDC00)) :: ·)
    else if isHigh high || isLow high then none
    else (join? (.unit low :: rest)).map (Char.ofNat high :: ·)
  | .unit n :: rest =>
    if isHigh n || isLow n then none else (join? rest).map (Char.ofNat n :: ·)

/-- Pieces that are characters stand for them. -/
theorem join?_map_char (s : List Char) :
  join? (s.map .char) = some s
  := by
  induction s with
  | nil => rfl
  | cons c rest ih => simp [join?, ih]

/-- The string that pieces stand for. -/
def string? (pieces : List Piece) : Option String := (join? pieces).map String.ofList

end Piece

/-- A numeral: a decimal with a sign, and whether it is written as digits only. -/
structure Numeral where
  isNegative : Bool
  decimal : Decimal
  isWhole : Bool
deriving DecidableEq

namespace Numeral

/-- The exponent of a numeral: nothing, or `e` and a whole number that may have a sign. -/
def exponent? : List Char → Option (Option Int)
  | [] => some none
  | mark :: rest =>
    let (negative, digits) :=
      match rest with
      | '-' :: digits => (true, digits)
      | '+' :: digits => (false, digits)
      | digits => (false, digits)
    if (mark = 'e' ∨ mark = 'E') ∧ digits ≠ [] ∧ digits.all Char.isDigit then
      let n := Nat.ofDigitChars 10 digits 0
      some (some (if negative then -n else n))
    else none

/-- The decimals of a numeral, if a point follows, and what comes after them. -/
def decimals? : List Char → Option (List Char × List Char)
  | '.' :: rest =>
    let digits := rest.takeWhile Char.isDigit
    if digits = [] then none else some (digits, rest.drop digits.length)
  | rest => some ([], rest)

/-- The numeral a word spells.  Before the point there is no 0 in front of other digits. -/
def ofWord? (word : List Char) : Option Numeral := do
  let (negative, s) :=
    match word with
    | '-' :: s => (true, s)
    | s => (false, s)
  let whole := s.takeWhile Char.isDigit
  if whole = [] ∨ (whole.head? = some '0' ∧ whole ≠ ['0']) then none
  let (decimals, s) ← decimals? (s.drop whole.length)
  let exponent ← exponent? s
  let coefficient := Nat.ofDigitChars 10 (whole ++ decimals) 0
  some
    { isNegative := negative
      decimal := ⟨coefficient, exponent.getD 0 - decimals.length⟩
      isWhole := decimals.isEmpty && exponent.isNone }

end Numeral

/-- A token of a JSON text. -/
inductive Token where
  | openArray
  | closeArray
  | openObject
  | closeObject
  | comma
  | colon
  | null
  | bool (b : Bool)
  | numeral (n : Numeral)
  | string (pieces : List Piece)
deriving DecidableEq

/-- The token of a word. -/
def Token.ofWord? (word : List Char) : Option Token :=
  if word = "null".toList then some .null
  else if word = "true".toList then some (.bool true)
  else if word = "false".toList then some (.bool false)
  else (Numeral.ofWord? word).map .numeral

/-- Where in a token a scan stands.  Letters, digits and pieces that were read come last first. -/
inductive Place where
  /-- Between tokens. -/
  | between
  /-- In a literal name or a numeral. -/
  | word (letters : List Char)
  /-- In a string. -/
  | string (pieces : List Piece)
  /-- In a string, after a backslash. -/
  | escape (pieces : List Piece)
  /-- In a string, in a code unit, with a digit and `left` more to come. -/
  | unit (pieces : List Piece) (left value : Nat)

/-- The place after a digit of a code unit, with a number of digits to come. -/
def Place.afterDigit (pieces : List Piece) (value : Nat) : (left : Nat) → Place
  | 0 => .string (.unit value :: pieces)
  | left + 1 => .unit pieces left value

/-- The state of a scan: the tokens that were read, last first, and the place in the next one. -/
structure Scan where
  tokens : List Token
  place : Place

namespace Scan

/-- The characters between tokens. -/
def isSpace (c : Char) : Bool := c = ' ' || c = '\t' || c = '\n' || c = '\r'

/-- The token that is a single character. -/
def mark? (c : Char) : Option Token :=
  match c with
  | '[' => some .openArray
  | ']' => some .closeArray
  | '{' => some .openObject
  | '}' => some .closeObject
  | ',' => some .comma
  | ':' => some .colon
  | _ => none

/-- Whether a character ends a word. -/
def endsWord (c : Char) : Bool := isSpace c || (mark? c).isSome || c = '"'

/-- A character between two tokens. -/
def stepBetween (tokens : List Token) (c : Char) : Scan :=
  if isSpace c then ⟨tokens, .between⟩
  else if c = '"' then ⟨tokens, .string []⟩
  else
    match mark? c with
    | some token => ⟨token :: tokens, .between⟩
    | none => ⟨tokens, .word [c]⟩

/-- The character that a letter after a backslash stands for. -/
def escaped? (c : Char) : Option Char :=
  match c with
  | '"' => some '"'
  | '\\' => some '\\'
  | '/' => some '/'
  | 'b' => some '\x08'
  | 'f' => some '\x0c'
  | 'n' => some '\n'
  | 'r' => some '\r'
  | 't' => some '\t'
  | _ => none

/-- The next state of a scan, if the character may stand there. -/
def step (scan : Scan) (c : Char) : Option Scan :=
  match scan.place with
  | .between => some (stepBetween scan.tokens c)
  | .word letters =>
    if endsWord c then do
      let token ← Token.ofWord? letters.reverse
      some (stepBetween (token :: scan.tokens) c)
    else some { scan with place := .word (c :: letters) }
  | .string pieces =>
    if c = '"' then some ⟨.string pieces.reverse :: scan.tokens, .between⟩
    else if c = '\\' then some { scan with place := .escape pieces }
    else if c < ' ' then none
    else some { scan with place := .string (.char c :: pieces) }
  | .escape pieces =>
    if c = 'u' then some { scan with place := .unit pieces 3 0 }
    else (escaped? c).map fun e => { scan with place := .string (.char e :: pieces) }
  | .unit pieces left value => do
    let digit ← Text.hexValue? c
    some { scan with place := .afterDigit pieces (16 * value + digit) left }

/-- The tokens of a scan at the end of the text, if it does not stand in a string. -/
def finish? (scan : Scan) : Option (List Token) :=
  match scan.place with
  | .between => some scan.tokens.reverse
  | .word letters => do
    let token ← Token.ofWord? letters.reverse
    some (token :: scan.tokens).reverse
  | _ => none

end Scan

/-- The tokens of a text. -/
def Token.scan? (s : List Char) : Option (List Token) :=
  (s.foldlM Scan.step ⟨[], .between⟩).bind Scan.finish?

end FilterQuery.Json
