import LispHost.Word

/-!
JSON trees and their two printed forms, one line without blanks and indented by two spaces.

A number keeps the sign, digits and power of ten it was written with, and whether it was written as
an integer, so reading loses nothing. Strings escape the quote, the backslash and control characters
below U+0020, and nothing else.
-/

set_option autoImplicit false

namespace LispHost

structure Decimal where
  negative : Bool
  /-- All its digits, read as one number. -/
  digits : Nat
  /-- How many of the digits stand behind the point. -/
  places : Nat
  power : Int
  integral : Bool
  deriving DecidableEq, Repr

namespace Decimal

def ofNat (n : Nat) : Decimal :=
  ⟨false, n, 0, 0, true⟩

def ofInt (n : Int) : Decimal :=
  ⟨decide (n < 0), n.natAbs, 0, 0, true⟩

def exponent (d : Decimal) : Int :=
  d.power - d.places

def nat? (d : Decimal) : Option Nat :=
  if d.integral ∧ ¬ d.negative then some d.digits else none

def text (d : Decimal) : String :=
  (if d.negative then "-" else "") ++ decimalText d.digits ++
    (if d.integral then "" else "e" ++ toString d.exponent)

end Decimal

/-- A JSON tree; the fields of an object keep their order. -/
inductive Json where
  | null
  | bool (value : Bool)
  | number (value : Decimal)
  | string (value : String)
  | array (items : List Json)
  | object (fields : List (String × Json))
  deriving Repr

namespace Json

def nat (n : Nat) : Json :=
  number (.ofNat n)

def word (w : Word) : Json :=
  nat w.toNat

/-- The value of the last field of that name. -/
def field? (name : String) : Json → Option Json
  | object fields => (fields.reverse.find? fun entry => entry.1 = name).map Prod.snd
  | _ => none

private def unicodeEscape (c : Char) : List Char :=
  let digits := hexDigits c.toNat
  '\\' :: 'u' :: (List.replicate (4 - digits.length) '0' ++ digits)

def escapeChar (c : Char) : List Char :=
  if c = '"' then ['\\', '"']
  else if c = '\\' then ['\\', '\\']
  else if c = '\x08' then ['\\', 'b']
  else if c = '\x09' then ['\\', 't']
  else if c = '\x0a' then ['\\', 'n']
  else if c = '\x0c' then ['\\', 'f']
  else if c = '\x0d' then ['\\', 'r']
  else if c.toNat < 0x20 then unicodeEscape c
  else [c]

/-- A string with its quotes, in front of the rest of a text. -/
def quote (s : String) (rest : List Char) : List Char :=
  '"' :: (s.toList.flatMap escapeChar ++ '"' :: rest)

mutual

/-- The tree on one line without blanks, in front of the rest of a text. -/
def compactOnto : Json → List Char → List Char
  | null, rest => 'n' :: 'u' :: 'l' :: 'l' :: rest
  | bool true, rest => 't' :: 'r' :: 'u' :: 'e' :: rest
  | bool false, rest => 'f' :: 'a' :: 'l' :: 's' :: 'e' :: rest
  | number d, rest => d.text.toList ++ rest
  | string s, rest => quote s rest
  | array items, rest => '[' :: compactItems items (']' :: rest)
  | object fields, rest => '\x7b' :: compactFields fields ('\x7d' :: rest)

def compactItems : List Json → List Char → List Char
  | [], rest => rest
  | [item], rest => compactOnto item rest
  | item :: items, rest => compactOnto item (',' :: compactItems items rest)

def compactFields : List (String × Json) → List Char → List Char
  | [], rest => rest
  | [(name, value)], rest => quote name (':' :: compactOnto value rest)
  | (name, value) :: fields, rest =>
    quote name (':' :: compactOnto value (',' :: compactFields fields rest))

end

def compact (j : Json) : String :=
  String.ofList (j.compactOnto [])

/-- A line break and the blanks of an indentation level, in front of the rest of a text. -/
def newline (level : Nat) (rest : List Char) : List Char :=
  '\n' :: (List.replicate (2 * level) ' ' ++ rest)

mutual

/-- The tree indented from a level on, in front of the rest of a text. -/
def prettyOnto (level : Nat) : Json → List Char → List Char
  | null, rest => 'n' :: 'u' :: 'l' :: 'l' :: rest
  | bool true, rest => 't' :: 'r' :: 'u' :: 'e' :: rest
  | bool false, rest => 'f' :: 'a' :: 'l' :: 's' :: 'e' :: rest
  | number d, rest => d.text.toList ++ rest
  | string s, rest => quote s rest
  | array [], rest => '[' :: ']' :: rest
  | array (item :: items), rest =>
    '[' :: prettyItems (level + 1) (item :: items) (newline level (']' :: rest))
  | object [], rest => '\x7b' :: '\x7d' :: rest
  | object (entry :: fields), rest =>
    '\x7b' :: prettyFields (level + 1) (entry :: fields) (newline level ('\x7d' :: rest))

def prettyItems (level : Nat) : List Json → List Char → List Char
  | [], rest => rest
  | [item], rest => newline level (prettyOnto level item rest)
  | item :: items, rest =>
    newline level (prettyOnto level item (',' :: prettyItems level items rest))

def prettyFields (level : Nat) : List (String × Json) → List Char → List Char
  | [], rest => rest
  | [(name, value)], rest =>
    newline level (quote name (':' :: ' ' :: prettyOnto level value rest))
  | (name, value) :: fields, rest =>
    newline level (quote name (':' :: ' ' ::
      prettyOnto level value (',' :: prettyFields level fields rest)))

end

/-- The tree indented by two spaces a level. -/
def pretty (j : Json) : String :=
  String.ofList (j.prettyOnto 0 [])

end Json

end LispHost
