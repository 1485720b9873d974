import GuestWatch.Text.Unprintable

set_option relaxedAutoImplicit false
set_option autoImplicit false

/-!
# One-line text of records, lists and options

Reports show a value on one line: `Name { field: value, .. }`, `[a, b]`, `Some(a)`, `None`. The
last field of a record is followed by `..` when fields are left out.

## Main definitions

* `GuestWatch.Text.record`, `GuestWatch.Text.openRecord` — a record with all its fields, and one
  that leaves fields out.
* `GuestWatch.Text.list`, `GuestWatch.Text.option`, `GuestWatch.Text.call` — lists, options, and a
  constructor applied to one value.
* `GuestWatch.Text.quoted` — a text in quotes.
-/

namespace GuestWatch.Text

/-- A flag in words. -/
def flag (b : Bool) : String := if b then "true" else "false"

/-- A 32-bit number in decimal. -/
def word (n : UInt32) : String := Nat.repr n.toNat

/-- The fields of a record, each with its name, separated by commas. -/
def fields (entries : List (String × String)) : String :=
  ", ".intercalate (entries.map fun entry => entry.1 ++ ": " ++ entry.2)

/-- A record with all its fields. -/
def record (name : String) (entries : List (String × String)) : String :=
  name ++ " \x7b " ++ fields entries ++ " \x7d"

/-- A record that shows some of its fields only. -/
def openRecord (name : String) (entries : List (String × String)) : String :=
  name ++ " \x7b " ++ fields entries ++ ", .. \x7d"

/-- A list of texts in brackets. -/
def list (items : List String) : String := "[" ++ ", ".intercalate items ++ "]"

/-- A constructor applied to one value. -/
def call (name argument : String) : String := name ++ "(" ++ argument ++ ")"

/-- A value that may be absent. -/
def option : Option String → String
  | none => "None"
  | some text => call "Some" text

/-- A character of a quoted text. Quotes and backslashes get a backslash, and so do the tab, the
carriage return, the line feed and the null, as letters; other characters without a shape of their
own are written by number. -/
def quotedChar (c : Char) : List Char :=
  if c = '"' then ['\\', '"']
  else if c = '\\' then ['\\', '\\']
  else if c = '\t' then ['\\', 't']
  else if c = '\r' then ['\\', 'r']
  else if c = '\n' then ['\\', 'n']
  else if c = '\x00' then ['\\', '0']
  else if isUnprintable c then ['\\', 'u', '\x7b'] ++ Nat.toDigits 16 c.toNat ++ ['\x7d']
  else [c]

/-- A text in quotes. -/
def quoted (text : String) : String :=
  "\"" ++ String.ofList (text.toList.flatMap quotedChar) ++ "\""

end GuestWatch.Text
