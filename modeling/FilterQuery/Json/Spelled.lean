import FilterQuery.Json.Token

/-!
# Spelled JSON values

A `Spelled` value has the shape of a JSON text, with the strings and numerals as they are spelled
and the repeated members of objects kept.  `Spelled.read?` finds it: a reader goes through the
tokens one by one, with the arrays and objects that are open on a stack, whose height may be
limited.
-/

namespace FilterQuery.Json

/-- A JSON value as it is spelled in a text. -/
inductive Spelled where
  | null
  | bool (b : Bool)
  | numeral (n : Numeral)
  | string (pieces : List Piece)
  | array (items : List Spelled)
  | object (members : List (List Piece × Spelled))

/-- An array or object that is open: what was read of it, last first. -/
inductive Frame where
  | array (items : List Spelled)
  | object (members : List (List Piece × Spelled)) (name : List Piece)

/-- What a reader expects, inside the open arrays and objects. -/
inductive Expecting where
  /-- A value. -/
  | value (stack : List Frame)
  /-- The first item of an array, or its end. -/
  | firstItem (stack : List Frame)
  /-- The first name of an object, or its end. -/
  | firstName (stack : List Frame)
  /-- The next name of an object. -/
  | name (stack : List Frame) (members : List (List Piece × Spelled))
  /-- The colon after a name. -/
  | colon (stack : List Frame) (members : List (List Piece × Spelled)) (name : List Piece)
  /-- What follows a value: a comma, the end of what is open, or the end of the text. -/
  | after (stack : List Frame) (result : Spelled)

namespace Expecting

/-- Whether another array or object may be opened. -/
def mayOpen (limit : Option Nat) (stack : List Frame) : Bool :=
  match limit with
  | some n => stack.length < n
  | none => true

/-- A token at the start of a value. -/
def stepValue (limit : Option Nat) (stack : List Frame) (token : Token) : Option Expecting :=
  match token with
  | .null => some (after stack .null)
  | .bool b => some (after stack (.bool b))
  | .numeral n => some (after stack (.numeral n))
  | .string pieces => some (after stack (.string pieces))
  | .openArray => if mayOpen limit stack then some (firstItem (.array [] :: stack)) else none
  | .openObject => if mayOpen limit stack then some (firstName stack) else none
  | _ => none

/-- A token after a value. -/
def stepAfter (stack : List Frame) (result : Spelled) (token : Token) : Option Expecting :=
  match stack, token with
  | .array items :: stack, .comma => some (value (.array (result :: items) :: stack))
  | .array items :: stack, .closeArray => some (after stack (.array (result :: items).reverse))
  | .object members key :: stack, .comma => some (name stack ((key, result) :: members))
  | .object members key :: stack, .closeObject =>
    some (after stack (.object ((key, result) :: members).reverse))
  | _, _ => none

/-- What is expected after a token, if the token may stand there. -/
def step (limit : Option Nat) (expecting : Expecting) (token : Token) : Option Expecting :=
  match expecting, token with
  | .firstItem (.array [] :: stack), .closeArray => some (after stack (.array []))
  | .firstItem stack, token => stepValue limit stack token
  | .value stack, token => stepValue limit stack token
  | .firstName stack, .closeObject => some (after stack (.object []))
  | .firstName stack, .string pieces => some (colon stack [] pieces)
  | .name stack members, .string pieces => some (colon stack members pieces)
  | .colon stack members key, .colon => some (value (.object members key :: stack))
  | .after stack result, token => stepAfter stack result token
  | _, _ => none

/-- The value that was read, if nothing is open. -/
def finish? : Expecting → Option Spelled
  | .after [] result => some result
  | _ => none

end Expecting

/-- The value that tokens spell, with at most `limit` arrays and objects inside each other. -/
def Spelled.ofTokens? (limit : Option Nat) (tokens : List Token) : Option Spelled :=
  (tokens.foldlM (Expecting.step limit) (.value [])).bind Expecting.finish?

/-- The value a text spells, with at most `limit` arrays and objects inside each other. -/
def Spelled.read? (limit : Option Nat) (s : List Char) : Option Spelled :=
  (Token.scan? s).bind (Spelled.ofTokens? limit)

end FilterQuery.Json
