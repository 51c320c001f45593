import LispHost.Projection

/-!
Projections on a terminal: list notation with coloured leaves.

A rendering is a list of spans, each with one style. Punctuation and integers are plain, so with
colours off the spans join to the text of the value.
-/

set_option autoImplicit false

namespace LispHost.Terminal

inductive Style where
  | plain
  | cyanBold
  | yellow
  | red
  | redBold
  | dimmed
  deriving DecidableEq, Repr

def Style.codes : Style → String
  | .plain => ""
  | .cyanBold => "1;36"
  | .yellow => "33"
  | .red => "31"
  | .redBold => "1;31"
  | .dimmed => "2"

def opening (style : Style) : List Char :=
  '\x1b' :: '[' :: (style.codes.toList ++ ['m'])

def closing : List Char :=
  ['\x1b', '[', '0', 'm']

/-- The text with the style put on again after every clearing sequence inside it. -/
def reopen (style : Style) : List Char → List Char
  | '\x1b' :: '[' :: '0' :: 'm' :: rest => closing ++ opening style ++ reopen style rest
  | c :: rest => c :: reopen style rest
  | [] => []

/-- The text in a style; plain text is left as it is. -/
def paint (style : Style) (text : String) : String :=
  if style = .plain then text
  else String.ofList (opening style ++ reopen style text.toList ++ closing)

structure Span where
  style : Style
  text : String
  deriving DecidableEq, Repr

def Span.render (colour : Bool) (span : Span) : String :=
  if colour then paint span.style span.text else span.text

end LispHost.Terminal

namespace LispHost.Projection

open Terminal (Style Span)

def style : Projection → Style
  | sym _ => .cyanBold
  | nil | true => .yellow
  | unknown .. | undecodable .. | cycle .. | elided .. => .red
  | int _ | duo .. => .plain

mutual

def spans : Projection → List Span
  | duo car cdr => ⟨.plain, "("⟩ :: (car.spans ++ cdr.tailSpans)
  | leaf => [⟨leaf.style, leaf.leafText⟩]

/-- The spans of the rest of a list whose tail is this value. -/
def tailSpans : Projection → List Span
  | nil => [⟨.plain, ")"⟩]
  | duo car cdr => ⟨.plain, " "⟩ :: (car.spans ++ cdr.tailSpans)
  | leaf => [⟨.plain, " . "⟩, ⟨leaf.style, leaf.leafText⟩, ⟨.plain, ")"⟩]

end

def render (colour : Bool) (value : Projection) : String :=
  String.join (value.spans.map (Span.render colour))

end LispHost.Projection
