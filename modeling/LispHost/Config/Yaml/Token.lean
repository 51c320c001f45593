import LispHost.Config.Yaml.Block
import LispHost.Config.Yaml.Label
import LispHost.Config.Yaml.Plain

/-!
The tokens of a YAML text.

Collections by indentation have no brackets in the text, so their tokens come from columns: a dash, a
question mark or a key that stands deeper than what is around it starts one, and what stands further
left ends it. That a scalar was a key shows only when its colon comes; the tokens of the key and of its
table are then put in front of it.
-/

set_option autoImplicit false

namespace LispHost.Config.Yaml

inductive Token where
  | directive (d : Directive)
  | documentStart
  | documentEnd
  | listStart
  | tableStart
  | collectionEnd
  | openList
  | closeList
  | openTable
  | closeTable
  | comma
  | dash
  | key
  | value
  | anchor (name : String)
  | reference (name : String)
  | tag (t : Tag)
  | scalar (isPlain : Bool) (text : String)
  deriving DecidableEq, Repr

/-- A token that may turn out to be the first of a key. -/
structure KeyStart where
  isRequired : Bool
  /-- The number of tokens in front. -/
  number : Nat
  place : Place
  deriving DecidableEq, Repr

structure Indent where
  /-- The column of the indentation around it, below zero outside all. -/
  around : Int
  isCollection : Bool
  deriving DecidableEq, Repr

structure Lexer where
  cursor : Cursor
  tokens : List Token
  count : Nat
  /-- The last token is the name or tag of a node and starts its line. -/
  isLabelFirst : Bool
  allowsKey : Bool
  keyStart : Option KeyStart
  /-- What may be keys in the brackets around these, from the inside out. -/
  outerKeyStarts : List (Option KeyStart)
  /-- The column that things have to stand in, below zero outside all collections. -/
  indent : Int
  indents : List Indent
  /-- The index behind the last scalar in quotes or collection in brackets. -/
  closedAt : Nat
  /-- A table in braces has been opened, or a question mark has stood in brackets. -/
  inTable : Bool
  /-- A key in a list in brackets is open as a table of its own. -/
  inPair : Bool

abbrev Lexing (α : Type) := StateT Lexer Option α

namespace Lexer

def ofText (s : List Char) : Lexer :=
  ⟨⟨.start, s⟩, [], 0, false, true, none, [], -1, [], 0, false, false⟩

def inFlow (l : Lexer) : Bool :=
  !l.outerKeyStarts.isEmpty

def place (l : Lexer) : Place :=
  l.cursor.place

def push (token : Token) (l : Lexer) : Lexer :=
  { l with tokens := token :: l.tokens, count := l.count + 1, isLabelFirst := false }

def insert (number : Nat) (token : Token) (l : Lexer) : Lexer :=
  let later := l.count - number
  { l with tokens := l.tokens.take later ++ token :: l.tokens.drop later, count := l.count + 1 }

/-- One more token at a number if there is one, and else at the end. -/
def put (number : Option Nat) (token : Token) (l : Lexer) : Lexer :=
  match number with
  | some number => l.insert number token
  | none => l.push token

/-- The least column of a line of a scalar. -/
def least (l : Lexer) : Nat :=
  l.indent.toNat

/-! ### Indentation -/

/-- The indentation without those deeper than a column, and the number of collections that ended. -/
def unrolled (column : Int) : Int → List Indent → Nat → Int × List Indent × Nat
  | indent, [], ended => (indent, [], ended)
  | indent, first :: rest, ended =>
    if column < indent then
      unrolled column first.around rest (if first.isCollection then ended + 1 else ended)
    else (indent, first :: rest, ended)

def unroll (column : Int) (l : Lexer) : Lexer :=
  if l.inFlow then l
  else
    let (indent, indents, ended) := unrolled column l.indent l.indents 0
    ended.repeat (push .collectionEnd) { l with indent, indents }

/-- Start a collection in a column if it stands deeper than what is around it. -/
def roll (column : Int) (number : Option Nat) (token : Token) (l : Lexer) : Lexer :=
  if l.inFlow then l
  else
    let l := match l.indents with
      | first :: rest =>
        if !first.isCollection && decide (l.indent ≤ column) then
          { l with indent := first.around, indents := rest }
        else l
      | [] => l
    if l.indent < column then
      { l with indent := column, indents := ⟨l.indent, true⟩ :: l.indents }.put number token
    else l

/-- Ask for one column more than the collection around. -/
def rollOne (l : Lexer) : Lexer :=
  if !l.inFlow && l.indents.head?.any Indent.isCollection then
    { l with indent := l.indent + 1, indents := ⟨l.indent, false⟩ :: l.indents }
  else l

/-- Ask for no more columns than the collection around. -/
def unrollOnes (l : Lexer) : Lexer :=
  let ones := l.indents.takeWhile fun indent => !indent.isCollection
  match ones.getLast? with
  | some outermost => { l with indent := outermost.around, indents := l.indents.drop ones.length }
  | none => l

/-! ### Keys -/

/-- Note that the next token may start a key. -/
def saveKey (l : Lexer) : Lexer :=
  if l.allowsKey then
    let isRequired := !l.inFlow && l.indent = l.place.column && l.indents.head?.any Indent.isCollection
    { l with keyStart := some ⟨isRequired, l.count, l.place⟩ }
  else l

def dropKey : Lexing Unit := do
  let l ← get
  guard !(l.keyStart.any KeyStart.isRequired)
  set { l with keyStart := none }

/-- The greatest number of characters between the start of a key and its colon. -/
def keyLimit : Nat := 1024

/-- Outside brackets a key ends on its line, and it is not too long. -/
def dropStaleKey : Lexing Unit := do
  let l ← get
  let isStale := !l.inFlow && l.keyStart.any fun start =>
    decide (start.place.line < l.place.line) ||
      decide (start.place.index + keyLimit < l.place.index)
  if isStale then dropKey

def allowKey (allowsKey : Bool) : Lexing Unit :=
  modify fun l => { l with allowsKey }

/-! ### Moves -/

def moveTo (cursor : Cursor) : Lexing Unit :=
  modify fun l => { l with cursor }

def skip (count : Nat) : Lexing Unit :=
  modify fun l => { l with cursor := l.cursor.skip count }

def skipGaps : Lexing Unit := do
  match (← get).cursor.afterGaps? with
  | some cursor => moveTo cursor
  | none => failure

/-- Skip blanks, comments and line breaks. Outside brackets a key may start behind a break. -/
def skipToPart : Lexing Unit := do
  let l ← get
  let least := if l.indents.isEmpty then 0 else l.least
  match Cursor.toPart? least .blanks l.place l.cursor.rest with
  | some cursor =>
    moveTo cursor
    if !l.inFlow && decide (l.place.line < cursor.place.line) then allowKey true
  | none => failure

def isLineDone : Lexing Bool :=
  return atLineEnd (← get).cursor.rest

/-! ### Documents -/

def directive : Lexing Unit := do
  modify (unroll (-1))
  dropKey
  allowKey false
  let rest := (← get).cursor.rest
  match directive? (rest.drop 1) with
  | some (found, after) =>
    skip (rest.length - after.length)
    skipGaps
    guard (← isLineDone)
    modify (push (.directive found))
  | none => failure

def documentMark (token : Token) : Lexing Unit := do
  modify (unroll (-1))
  dropKey
  allowKey false
  skip 3
  modify (push token)

/-- The mark of the end of a document, behind which only a comment may stand. -/
def endMark : Lexing Unit := do
  documentMark .documentEnd
  skipGaps
  guard (← isLineDone)

def finish : Lexing Unit := do
  dropKey
  modify (unroll (-1))

/-! ### Collections -/

def bracketLimit : Nat := 255

def openBracket (token : Token) : Lexing Unit := do
  modify fun l => l.saveKey.rollOne
  guard (decide ((← get).outerKeyStarts.length < bracketLimit))
  modify fun l => { l with outerKeyStarts := l.keyStart :: l.outerKeyStarts, keyStart := none }
  allowKey true
  skip 1
  if token = .openTable then modify fun l => { l with inTable := true }
  skipGaps
  modify (push token)

def endPair (l : Lexer) : Lexer :=
  if l.inPair then { l with inPair := false, inTable := false }.push .closeTable else l

def closeBracket (token : Token) : Lexing Unit := do
  dropKey
  modify fun l =>
    match l.outerKeyStarts with
    | keyStart :: outerKeyStarts => { l with keyStart, outerKeyStarts }
    | [] => l
  allowKey false
  modify endPair
  skip 1
  skipGaps
  modify fun l => if l.inFlow then { l with closedAt := l.place.index } else l
  modify (push token)

def comma : Lexing Unit := do
  dropKey
  allowKey true
  modify endPair
  skip 1
  skipGaps
  modify (push .comma)

/-- The dash in front of an item. Behind it, a tab may not lead to another. -/
def dash : Lexing Unit := do
  let l ← get
  guard (!l.inFlow && l.allowsKey)
  guard !(l.isLabelFirst && l.place.column = 0 && decide (-1 < l.indent))
  skip 1
  modify (roll l.place.column none .listStart)
  let gaps := (← get).cursor.gaps
  skipGaps
  let rest := (← get).cursor.rest
  guard !(gaps.contains '\t' && rest.head? = some '-' && atGap (rest.drop 1))
  if rest.head? = some '\n' || atFlowMark rest then modify rollOne
  dropKey
  allowKey true
  modify (push .dash)

/-- The text behind the blanks, comments and line breaks after a question mark, which must not be empty
and have no tabs. -/
def afterQuestion : Bool → Bool → Place → List Char → Bool × Cursor
  | hasGap, _, p, [] => (hasGap, ⟨p, []⟩)
  | hasGap, inComment, p, c :: rest =>
    if c = '\n' then afterQuestion true false p.afterBreak rest
    else if inComment then afterQuestion hasGap true (p.after 1) rest
    else if c = ' ' then afterQuestion true false (p.afterGap 1) rest
    else if c = '#' then afterQuestion hasGap true (p.after 1) rest
    else (hasGap, ⟨p, c :: rest⟩)

def question : Lexing Unit := do
  let l ← get
  if l.inFlow then set { l with inTable := true }
  else
    guard l.allowsKey
    modify (roll l.place.column none .tableStart)
  dropKey
  allowKey !l.inFlow
  skip 1
  let cursor := (← get).cursor
  let (hasGap, cursor) := afterQuestion false false cursor.place cursor.rest
  guard (hasGap && cursor.rest.head? ≠ some '\t')
  moveTo cursor
  modify (push .key)

def colon : Lexing Unit := do
  let l ← get
  let isPair := l.inFlow && !l.inTable
  modify fun l => { l with inPair := isPair }
  skip 1
  if (← get).cursor.rest.head? = some '\t' then
    let gaps := (← get).cursor.gaps
    skipGaps
    guard (gaps.contains ' ' || !((← get).cursor.rest.head?.any isNameChar))
  match l.keyStart with
  | some start =>
    guard !(isPair && decide (start.place.line < l.place.line))
    modify (insert start.number .key)
    if isPair then modify (insert start.number .openTable)
    modify fun l => (l.roll start.place.column (some start.number) .tableStart).rollOne
    modify fun l => { l with keyStart := none }
    allowKey false
  | none =>
    if isPair then modify (push .openTable)
    guard (l.inFlow || l.allowsKey)
    modify fun l' => (l'.roll l.place.column none .tableStart).rollOne
    allowKey !l.inFlow
  modify (push .value)

/-! ### Names, tags and scalars -/

def label (token : String → Token) : Lexing Unit := do
  modify saveKey
  allowKey false
  let column := (← get).place.column
  let rest := (← get).cursor.rest
  match label? (rest.drop 1) with
  | some (name, after) =>
    skip (rest.length - after.length)
    modify fun l => { l.push (token name) with isLabelFirst := column = 0 }
  | none => failure

def tag : Lexing Unit := do
  modify saveKey
  allowKey false
  let l ← get
  match tag? l.cursor.rest with
  | some (found, after) =>
    guard (atGap after || l.inFlow && atFlowMark after)
    skip (l.cursor.rest.length - after.length)
    modify fun l' => { l'.push (.tag found) with isLabelFirst := l.place.column = 0 }
  | none => failure

def block : Lexing Unit := do
  modify saveKey
  allowKey true
  modify unrollOnes
  let l ← get
  match blockScalar? l.indent l.cursor with
  | some (text, cursor) =>
    moveTo cursor
    modify (push (.scalar false (String.ofList text)))
  | none => failure

/-- A scalar in quotes. On its last line nothing may follow it but what ends it. -/
def quoted : Lexing Unit := do
  modify saveKey
  allowKey false
  let l ← get
  match quoted? l.least l.cursor with
  | some (text, cursor) =>
    moveTo cursor
    skipGaps
    let after := (← get).cursor
    guard (after.rest.head?.all fun c =>
      c = '\n' || c = ':' && (l.inFlow || l.place.line = after.place.line) ||
        l.inFlow && (c = ',' || c = '\x7d' || c = ']'))
    skipToPart
    modify fun l => { l with closedAt := l.place.index }
    modify (push (.scalar false (String.ofList text)))
  | none => failure

def plain : Lexing Unit := do
  modify fun l => l.saveKey.unrollOnes
  allowKey false
  let l ← get
  let least := (l.indent + 1).toNat
  guard !(l.inFlow && decide (l.place.column < least))
  match plain? l.inFlow least .start .nothing l.place l.cursor.rest with
  | some (text, cursor) =>
    moveTo cursor
    if cursor.place.isFresh then allowKey true
    modify (push (.scalar true (String.ofList text)))
  | none => failure

/-! ### All tokens -/

/-- Read on, at least to the next token; answers whether the text went on. -/
def step : Lexing Bool := do
  skipToPart
  dropStaleKey
  let l ← get
  modify (unroll l.place.column)
  let l ← get
  match l.cursor.rest with
  | [] => do
    finish
    return false
  | c :: after => do
    if l.place.column = 0 && c = '%' then directive
    else if l.place.column = 0 && atDocumentStart l.cursor.rest then documentMark .documentStart
    else if l.place.column = 0 && atDocumentEnd l.cursor.rest then endMark
    else
      guard (decide (l.indent ≤ l.place.column))
      if c = '[' then openBracket .openList
      else if c = '\x7b' then openBracket .openTable
      else if c = ']' then closeBracket .closeList
      else if c = '\x7d' then closeBracket .closeTable
      else if c = ',' then comma
      else if c = '-' && atGap after then dash
      else if c = '?' && atGap after then question
      else if c = ':' && (atGap after ||
          l.inFlow && (atFlowMark after || l.place.index = l.closedAt)) then colon
      else if c = '*' then label .reference
      else if c = '&' then label .anchor
      else if c = '!' then tag
      else if (c = '|' || c = '>') && !l.inFlow then block
      else if c = '\'' || c = '"' then quoted
      else
        guard !(c = '%' || c = '@' || c = '\x60')
        plain
    return true

def run : Nat → Lexing Unit
  | 0 => failure
  | fuel + 1 => do
    if ← step then run fuel

end Lexer

/-- The tokens of a text. Every step but the last takes at least one character. -/
def Token.ofChars? (s : List Char) : Option (List Token) :=
  match Lexer.run (s.length + 1) (Lexer.ofText s) with
  | some (_, l) => some l.tokens.reverse
  | none => none

end LispHost.Config.Yaml
