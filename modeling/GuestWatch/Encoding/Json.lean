set_option relaxedAutoImplicit false
set_option autoImplicit false

/-!
# Reading JSON text

A text is read into a tree that keeps what the decoders of this library need: natural numbers as
they are, the members of an object in their order with repetitions, and strings as characters. Of
other numbers, and of strings whose escapes are half of a surrogate pair, the tree only says that
they are there.

## Main definitions

* `GuestWatch.Json` — the tree.
* `GuestWatch.Json.parse` — the tree of a whole text.
* `GuestWatch.Json.quote`, `GuestWatch.Json.writeRecord` — compact text.
-/

namespace GuestWatch

/-- A tree of JSON text. -/
inductive Json where
  /-- The literal `null`. -/
  | null
  /-- A literal truth value. -/
  | bool (b : Bool)
  /-- A number without sign, fraction and exponent. -/
  | natural (n : Nat)
  /-- Any other number. -/
  | number
  /-- A string; without text when an escape in it is half of a surrogate pair. -/
  | string (text : Option String)
  /-- An array. -/
  | array (items : List Json)
  /-- An object with its members in order. -/
  | object (members : List (Option String × Json))

namespace Json

/-! ## Characters -/

/-- The four blanks of the format. -/
def isBlank (c : Char) : Bool := c == ' ' || c == '\t' || c == '\n' || c == '\r'

/-- The text after its leading blanks. -/
def skip (cs : List Char) : List Char := cs.dropWhile isBlank

/-- The value of a hexadecimal digit. -/
def hexValue? (c : Char) : Option Nat :=
  if '0' ≤ c ∧ c ≤ '9' then some (c.toNat - '0'.toNat)
  else if 'a' ≤ c ∧ c ≤ 'f' then some (c.toNat - 'a'.toNat + 10)
  else if 'A' ≤ c ∧ c ≤ 'F' then some (c.toNat - 'A'.toNat + 10)
  else none

/-- The number written by four hexadecimal digits. -/
def hexUnit? (a b c d : Char) : Option Nat :=
  match hexValue? a, hexValue? b, hexValue? c, hexValue? d with
  | some a, some b, some c, some d => some (4096 * a + 256 * b + 16 * c + d)
  | _, _, _, _ => none

/-- The character of a one-letter escape. -/
def shortEscape? (c : Char) : Option Char :=
  if c = '"' ∨ c = '\\' ∨ c = '/' then some c
  else if c = 'b' then some (Char.ofNat 8)
  else if c = 'f' then some (Char.ofNat 12)
  else if c = 'n' then some '\n'
  else if c = 'r' then some '\r'
  else if c = 't' then some '\t'
  else none

/-! ## Strings -/

/-- A piece of a string: a character, or a 16-bit unit that an escape gives by number. -/
inductive Piece where
  /-- A character. -/
  | char (c : Char)
  /-- A 16-bit unit. -/
  | unit (n : Nat)

/-- The pieces of a string up to its closing quote, and the text after that. A control character
must be escaped. -/
def pieces : List Char → Option (List Piece × List Char)
  | [] => none
  | '"' :: rest => some ([], rest)
  | '\\' :: 'u' :: a :: b :: c :: d :: rest =>
    match hexUnit? a b c d, pieces rest with
    | some n, some (ps, rest) => some (.unit n :: ps, rest)
    | _, _ => none
  | '\\' :: e :: rest =>
    match shortEscape? e, pieces rest with
    | some c, some (ps, rest) => some (.char c :: ps, rest)
    | _, _ => none
  | c :: rest =>
    if c.toNat < 0x20 ∨ c = '\\' then none
    else match pieces rest with
      | some (ps, rest) => some (.char c :: ps, rest)
      | none => none

/-- Whether a 16-bit unit is the first half of a surrogate pair. -/
def isHigh (n : Nat) : Bool := 0xd800 ≤ n && n < 0xdc00

/-- Whether a 16-bit unit is the second half of a surrogate pair. -/
def isLow (n : Nat) : Bool := 0xdc00 ≤ n && n < 0xe000

/-- The characters of pieces: surrogate pairs are joined, and a half alone is no character. -/
def joinPieces : List Piece → Option (List Char)
  | [] => some []
  | .char c :: rest => (joinPieces rest).map (c :: ·)
  | .unit high :: .unit low :: rest =>
    if isHigh high then
      if isLow low then
        (joinPieces rest).map
          (Char.ofNat (0x10000 + (high - 0xd800) * 0x400 + (low - 0xdc00)) :: ·)
      else none
    else if isLow high then none
    else (joinPieces (.unit low :: rest)).map (Char.ofNat high :: ·)
  | .unit n :: rest =>
    if isHigh n || isLow n then none else (joinPieces rest).map (Char.ofNat n :: ·)

/-- A string up to its closing quote, and the text after that. -/
def stringTail (cs : List Char) : Option (Option String × List Char) :=
  (pieces cs).map fun read => ((joinPieces read.1).map String.ofList, read.2)

/-! ## Numbers -/

/-- The digits at the start of a text, and the text after them. -/
def digits (cs : List Char) : List Char × List Char :=
  (cs.takeWhile Char.isDigit, cs.dropWhile Char.isDigit)

/-- The value of decimal digits. -/
def decimalValue (cs : List Char) : Nat :=
  cs.foldl (fun n c => 10 * n + (c.toNat - '0'.toNat)) 0

/-- The integer part of a number: zero, or digits that do not start with zero. -/
def integerPart : List Char → Option (Nat × List Char)
  | '0' :: rest => some (0, rest)
  | cs =>
    match digits cs with
    | ([], _) => none
    | (ds, rest) => some (decimalValue ds, rest)

/-- Skips a fraction; the flag says whether there was one. -/
def fraction : List Char → Option (Bool × List Char)
  | '.' :: cs =>
    match digits cs with
    | ([], _) => none
    | (_, rest) => some (true, rest)
  | cs => some (false, cs)

/-- The text after a sign, if there is one. -/
def skipSign : List Char → List Char
  | '+' :: rest => rest
  | '-' :: rest => rest
  | cs => cs

/-- Skips an exponent; the flag says whether there was one. -/
def exponent : List Char → Option (Bool × List Char)
  | c :: cs =>
    if c = 'e' ∨ c = 'E' then
      match digits (skipSign cs) with
      | ([], _) => none
      | (_, rest) => some (true, rest)
    else some (false, c :: cs)
  | [] => some (false, [])

/-- A number without its sign, and the text after it. -/
def unsignedNumber (cs : List Char) : Option (Json × List Char) :=
  match integerPart cs with
  | none => none
  | some (n, cs) =>
    match fraction cs with
    | none => none
    | some (fractional, cs) =>
      match exponent cs with
      | none => none
      | some (scaled, rest) => some (if fractional || scaled then number else natural n, rest)

/-- A number, and the text after it. -/
def numberAt : List Char → Option (Json × List Char)
  | '-' :: cs => (unsignedNumber cs).map fun read => (number, read.2)
  | cs => unsignedNumber cs

/-! ## Trees -/

mutual

/-- A value at the start of a text without leading blanks, and the text after it. -/
def valueAt : Nat → List Char → Option (Json × List Char)
  | 0, _ => none
  | fuel + 1, cs =>
    match cs with
    | 'n' :: 'u' :: 'l' :: 'l' :: rest => some (null, rest)
    | 't' :: 'r' :: 'u' :: 'e' :: rest => some (bool true, rest)
    | 'f' :: 'a' :: 'l' :: 's' :: 'e' :: rest => some (bool false, rest)
    | '"' :: rest => (stringTail rest).map fun read => (string read.1, read.2)
    | '[' :: rest =>
      match skip rest with
      | ']' :: rest => some (array [], rest)
      | cs => (itemsAt fuel cs).map fun read => (array read.1, read.2)
    | '\x7b' :: rest =>
      match skip rest with
      | '\x7d' :: rest => some (object [], rest)
      | cs => (membersAt fuel cs).map fun read => (object read.1, read.2)
    | cs => numberAt cs

/-- The items of an array up to its closing bracket, and the text after that. -/
def itemsAt : Nat → List Char → Option (List Json × List Char)
  | 0, _ => none
  | fuel + 1, cs =>
    match valueAt fuel cs with
    | none => none
    | some (item, cs) =>
      match skip cs with
      | ']' :: rest => some ([item], rest)
      | ',' :: rest => (itemsAt fuel (skip rest)).map fun read => (item :: read.1, read.2)
      | _ => none

/-- The members of an object up to its closing brace, and the text after that. -/
def membersAt : Nat → List Char → Option (List (Option String × Json) × List Char)
  | 0, _ => none
  | fuel + 1, cs =>
    match cs with
    | '"' :: cs =>
      match stringTail cs with
      | none => none
      | some (key, cs) =>
        match skip cs with
        | ':' :: cs =>
          match valueAt fuel (skip cs) with
          | none => none
          | some (value, cs) =>
            match skip cs with
            | '\x7d' :: rest => some ([(key, value)], rest)
            | ',' :: rest =>
              (membersAt fuel (skip rest)).map fun read => ((key, value) :: read.1, read.2)
            | _ => none
        | _ => none
    | _ => none

end

/-- The tree of a whole text: one value with blanks around it. Each step of the reading takes a
character off the text, so twice as many steps as characters are enough. -/
def parse (text : String) : Option Json :=
  match valueAt (2 * text.length + 2) (skip text.toList) with
  | some (tree, rest) => if skip rest = [] then some tree else none
  | none => none

/-! ## Compact text -/

/-- A name in quotes. The names of this library are letters and need no escape. -/
def quote (name : String) : String := "\"" ++ name ++ "\""

/-- An object with the given members, each value already written. -/
def writeRecord (members : List (String × String)) : String :=
  "\x7b" ++ ",".intercalate (members.map fun member => quote member.1 ++ ":" ++ member.2) ++ "\x7d"

end Json

end GuestWatch
