import LispHost.Config.Yaml.Quoted

/-!
Scalars of YAML without quotes.

Such a scalar goes on over words, blanks and line breaks up to a colon that ends a key, a comment, the
mark of a document, a line that starts too far left, or, inside brackets, a character that separates
their parts.
-/

set_option autoImplicit false

namespace LispHost.Config.Yaml

def goesOnPlain (inFlow : Bool) : List Char → Bool
  | [] => false
  | c :: rest =>
    if isGap c || c = '\n' then false
    else if c = ':' then !(atGap rest || inFlow && atFlowMark rest)
    else !(inFlow && isFlowMark c)

inductive PlainPart where
  | start
  | word
  | gap
  | indentation
  | comment
  deriving DecidableEq, Repr

/-- What stands between two words, with one more line break. Of the breaks behind one only those count
that nothing but blanks stands in front of. -/
def Between.addPlainBreak (isFresh : Bool) : Between → Between
  | blanks _ => breaks 1
  | between => if isFresh then between.addBreak else between

def plain? (inFlow : Bool) (least : Nat) :
    PlainPart → Between → Place → List Char → Option (List Char × Cursor)
  | _, _, p, [] => some ([], ⟨p, []⟩)
  | part, between, p, c :: rest =>
    if c = '\n' then
      plain? inFlow least .gap (between.addPlainBreak p.isFresh) p.afterBreak rest
    else
      match part with
      | .comment => plain? inFlow least .comment between (p.after 1) rest
      | .indentation =>
        if isGap c then plain? inFlow least .indentation between (p.afterGap 1) rest
        else if c = '#' then plain? inFlow least .comment between (p.after 1) rest
        else none
      | part =>
        if isGap c then
          let isIndentation := p.isFresh && c = '\t' && decide (p.column < least)
          plain? inFlow least (if isIndentation then .indentation else .gap)
            (if p.isFresh then between else between.addBlank c) (p.afterGap 1) rest
        else
          let isOver := part ≠ .word &&
            (c = '#' || p.column = 0 && atDocumentMark (c :: rest)) ||
            part = .gap && !inFlow && decide (p.column < least)
          if isOver then some ([], ⟨p, c :: rest⟩)
          else if part ≠ .word && inFlow && c = '-' && atFlowMark rest then none
          else if goesOnPlain inFlow (c :: rest) then do
            let (more, cursor) ← plain? inFlow least .word .nothing (p.after 1) rest
            return (between.chars ++ c :: more, cursor)
          else some ([], ⟨p, c :: rest⟩)

end LispHost.Config.Yaml
