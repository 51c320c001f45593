/-!
Reading a text from the front.

A scan takes characters off the front of a text and answers a value and the rest, or fails. Scans are
joined in sequence; of two alternatives the second starts again where the first one did.
-/

set_option autoImplicit false

namespace LispHost.Text

abbrev Scan (α : Type) := StateT (List Char) Option α

namespace Scan

def all? {α : Type} (scan : Scan α) (text : String) : Option α :=
  match scan text.toList with
  | some (a, []) => some a
  | _ => none

def of {α : Type} (f : List Char → Option (α × List Char)) : Scan α :=
  f

/-- The next character, left in place; none at the end. -/
def peek? : Scan (Option Char) :=
  of fun s => some (s.head?, s)

def peekMany (count : Nat) : Scan (List Char) :=
  of fun s => some (s.take count, s)

def next : Scan Char :=
  of fun
    | [] => none
    | c :: rest => some (c, rest)

def skip (count : Nat) : Scan Unit :=
  of fun s => some ((), s.drop count)

def takeWhile (test : Char → Bool) : Scan (List Char) :=
  of fun s => some (s.span test)

/-- The characters up to the first that fails the test; at least one. -/
def takeWhile1 (test : Char → Bool) : Scan (List Char) := do
  let found ← takeWhile test
  if found.isEmpty then failure else return found

def skipWhile (test : Char → Bool) : Scan Unit :=
  of fun s => some ((), s.dropWhile test)

def char (c : Char) : Scan Unit :=
  of fun
    | [] => none
    | d :: rest => if c = d then some ((), rest) else none

def charIf (c : Char) : Scan Bool :=
  of fun s =>
    match s with
    | [] => some (false, s)
    | d :: rest => if c = d then some (true, rest) else some (false, s)

def textIf (text : List Char) : Scan Bool :=
  of fun s => if text.isPrefixOf s then some (true, s.drop text.length) else some (false, s)

def atEnd : Scan Bool :=
  of fun s => some (s.isEmpty, s)

/-- The length of the text, which bounds every loop over it. -/
def remaining : Scan Nat :=
  of fun s => some (s.length, s)

end Scan

end LispHost.Text
