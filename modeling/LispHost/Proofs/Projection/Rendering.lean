import LispHost.Proofs.Projection.Notation
import LispHost.Proofs.Terminal.Screen

/-!
Values on a terminal.

The text of a value consists of its parts, which are punctuation and leaves. The spans of a value are these
parts with their styles, so without colours they join to the text; with colours a terminal shows every part in
its own look. Both facts are by induction on the value, for a value and for the rest of a list at once, since a
pair is written in a different way in the two places.
-/

set_option autoImplicit false

namespace LispHost.Projection

open Terminal (Look Screen Span cellsOf)

def look : Projection → Look
  | sym _ => .strong .cyan
  | nil | true => .coloured .yellow
  | unknown .. | undecodable .. | cycle .. | elided .. => .coloured .red
  | int _ | duo .. => .plain

inductive Part where
  | opening
  | blank
  | dot
  | closing
  | leaf (p : Projection)
  deriving DecidableEq, Repr

namespace Part

def text : Part → String
  | opening => "("
  | blank => " "
  | dot => " . "
  | closing => ")"
  | leaf p => p.leafText

def leaf? : Part → Option Projection
  | leaf p => some p
  | _ => none

def look : Part → Look
  | leaf p => p.look
  | _ => .plain

def cells (part : Part) : List (Char × Look) :=
  cellsOf part.look part.text

private def span : Part → Span
  | leaf p => ⟨p.style, p.leafText⟩
  | part => ⟨.plain, part.text⟩

private theorem text_span (part : Part) : part.span.text = part.text := by
  cases part <;> rfl

private theorem cells_span (part : Part) :
    cellsOf part.span.style.look part.span.text = part.cells := by
  cases part with
  | leaf p => cases p <;> rfl
  | _ => rfl

end Part

mutual

def parts : Projection → List Part
  | duo car cdr => .opening :: (car.parts ++ cdr.tailParts)
  | p => [.leaf p]

/-- The parts of the rest of a list whose tail is this value. -/
def tailParts : Projection → List Part
  | nil => [.closing]
  | duo car cdr => .blank :: (car.parts ++ cdr.tailParts)
  | p => [.dot, .leaf p, .closing]

end

theorem parts_of_leaf {p : Projection} (leaf : p.IsLeaf) : p.parts = [.leaf p] := by
  cases p with
  | duo => exact leaf.elim
  | _ => simp [parts]

theorem tailParts_of_leaf {p : Projection} (leaf : p.IsLeaf) :
    p = nil ∨ p ≠ nil ∧ p.tailParts = [.dot, .leaf p, .closing] := by
  cases p with
  | duo => exact leaf.elim
  | nil => exact .inl rfl
  | _ => exact .inr (by simp [tailParts])

theorem join_parts (p : Projection) :
    String.join (p.parts.map Part.text) = p.text ∧
      String.join (p.tailParts.map Part.text) = p.tailText := by
  induction p with
  | duo car cdr first second =>
    have items : String.join ((car.parts ++ cdr.tailParts).map Part.text) =
        car.text ++ cdr.tailText := by
      rw [List.map_append, String.join_append, first.1, second.2]
    constructor
    · rw [parts, text, List.map_cons, String.join_cons, items]
      rfl
    · rw [tailParts, tailText, List.map_cons, String.join_cons, items]
      rfl
  | nil => exact ⟨by simp [parts, text, Part.text], by simp [tailParts, tailText, Part.text]⟩
  | _ =>
    constructor
    · simp [parts, text, Part.text]
    · simp [tailParts, tailText, Part.text, String.append_assoc]

/-- The leaves among the parts are all leaves but a `NIL` that is the tail of a pair. -/
theorem leaves_parts (p : Projection) :
    p.parts.filterMap Part.leaf? = p.writtenLeaves ∧
      p.tailParts.filterMap Part.leaf? = if p = nil then [] else p.writtenLeaves := by
  induction p using leaf_induction with
  | leaf p leaf =>
    rw [parts_of_leaf leaf, writtenLeaves_of_leaf leaf]
    refine ⟨rfl, ?_⟩
    rcases tailParts_of_leaf leaf with rfl | ⟨other, tail⟩
    · simp [tailParts, Part.leaf?]
    · rw [tail, if_neg other]
      rfl
  | duo car cdr first second =>
    have items : (car.parts ++ cdr.tailParts).filterMap Part.leaf? = (duo car cdr).writtenLeaves := by
      rw [List.filterMap_append, first.1, second.2, writtenLeaves]
    constructor
    · rw [parts, List.filterMap_cons_none rfl, items]
    · rw [tailParts, List.filterMap_cons_none rfl, items, if_neg (by simp)]

private theorem spans_eq (p : Projection) :
    p.spans = p.parts.map Part.span ∧ p.tailSpans = p.tailParts.map Part.span := by
  induction p with
  | duo car cdr first second =>
    have items : car.spans ++ cdr.tailSpans = (car.parts ++ cdr.tailParts).map Part.span := by
      rw [first.1, second.2, List.map_append]
    constructor
    · rw [spans, parts, items]
      rfl
    · rw [tailSpans, tailParts, items]
      rfl
  | nil => exact ⟨by simp [spans, parts, Part.span], by simp [tailSpans, tailParts, Part.span, Part.text]⟩
  | _ =>
    constructor
    · simp [spans, parts, Part.span]
    · simp [tailSpans, tailParts, Part.span, Part.text]

/-! ### The escape character -/

private theorem no_escape_toDigits {radix n : Nat} (large : 1 < radix) (small : radix ≤ 16) :
    '\x1b' ∉ Nat.toDigits radix n := by
  intro member
  have digits : ∀ d < 16, '\x1b' ≠ d.digitChar := by decide
  obtain ⟨d, digit, same⟩ := Text.exists_digit_of_mem_toDigits large member
  exact digits d (by omega) same

private theorem no_escape_decimal (w : Word) : '\x1b' ∉ (Word.decimal w).toList := by
  unfold Word.decimal decimalText
  rw [String.toList_ofList]
  exact no_escape_toDigits (by decide) (by decide)

private theorem no_escape_hex (w : Word) : '\x1b' ∉ (Word.hex w).toList := by
  unfold Word.hex hexDigits
  rw [String.toList_ofList]
  simp [no_escape_toDigits]

theorem no_escape_leafText {p : Projection} (named : ∀ name, p = sym name → '\x1b' ∉ name.toList) :
    '\x1b' ∉ p.leafText.toList := by
  cases p with
  | sym name => exact named name rfl
  | int value => exact no_escape_decimal value
  | unknown tag raw =>
    have label : '\x1b' ∉ tag.text.toList := by
      cases tag with
      | unknown code => simp [Tag.text, no_escape_decimal]
      | _ => decide
    simp [leafText, label, no_escape_hex]
  | undecodable raw len => simp [leafText, no_escape_decimal, no_escape_hex]
  | cycle raw => simp [leafText, no_escape_hex]
  | nil | true | duo car cdr | elided raw => simp [leafText]

theorem mem_leaves_of_mem_parts {p q : Projection} :
    (.leaf q ∈ p.parts → q ∈ p.leaves) ∧ (.leaf q ∈ p.tailParts → q ∈ p.leaves) := by
  induction p with
  | duo car cdr first second =>
    have items : .leaf q ∈ car.parts ++ cdr.tailParts → q ∈ (duo car cdr).leaves := by
      intro member
      rw [leaves, List.mem_append]
      rcases List.mem_append.mp member with car_part | cdr_part
      · exact .inl (first.1 car_part)
      · exact .inr (second.2 cdr_part)
    constructor
    · intro member
      rw [parts] at member
      exact items (List.mem_of_ne_of_mem (by simp) member)
    · intro member
      rw [tailParts] at member
      exact items (List.mem_of_ne_of_mem (by simp) member)
  | nil => simp [parts, tailParts, leaves]
  | _ => simp [parts, tailParts, leaves]

private theorem no_escape_part {p : Projection}
    (named : ∀ name, sym name ∈ p.leaves → '\x1b' ∉ name.toList) :
    ∀ part ∈ p.parts, '\x1b' ∉ part.text.toList := by
  intro part member
  cases part with
  | leaf q =>
    refine no_escape_leafText fun name same => ?_
    subst same
    exact named name (mem_leaves_of_mem_parts.1 member)
  | _ => decide

/-! ### Rendering -/

/-- A rendering shows the text of the value. Without colours it is this text. With colours, and without the
escape character in a name, a terminal shows the parts of the text one after the other, the leaves in their
looks and the punctuation in none, and in the end nothing is on. The leaves among the parts are those that are
written, in order. -/
theorem render_shows_text (p : Projection) :
    p.render false = p.text ∧
    String.join (p.parts.map Part.text) = p.text ∧
    p.parts.filterMap Part.leaf? = p.writtenLeaves ∧
    ((∀ name, sym name ∈ p.leaves → '\x1b' ∉ name.toList) →
      Terminal.shown (p.render Bool.true) = ⟨p.parts.flatMap Part.cells, .plain, .character⟩ ∧
      (Terminal.shown (p.render Bool.true)).cells.map Prod.fst = p.text.toList) := by
  have uncoloured : p.spans.map (Span.render false) = p.parts.map Part.text := by
    rw [p.spans_eq.1, List.map_map]
    exact List.map_congr_left fun part _ => part.text_span
  refine ⟨?_, p.join_parts.1, p.leaves_parts.1, fun named => ?_⟩
  · rw [render, uncoloured, p.join_parts.1]
  · have no_escape : ∀ span ∈ p.parts.map Part.span, '\x1b' ∉ span.text.toList := by
      intro span member
      obtain ⟨part, listed, rfl⟩ := List.mem_map.mp member
      rw [part.text_span]
      exact no_escape_part named part listed
    have painted : Terminal.shown (p.render Bool.true) =
        ⟨p.parts.flatMap Part.cells, .plain, .character⟩ := by
      unfold Terminal.shown render
      rw [p.spans_eq.1, Terminal.write_spans no_escape, List.flatMap_map, List.nil_append]
      simp only [Part.cells_span]
      rfl
    refine ⟨painted, ?_⟩
    have letters : (fun part : Part => part.cells.map Prod.fst) = fun part => part.text.toList :=
      funext fun part => Terminal.map_fst_cellsOf part.look part.text
    rw [painted, ← p.join_parts.1, String.toList_join, List.map_flatMap, List.flatMap_map, letters]

/-- A list with every kind of leaf and a dotted tail; one name is empty and one is a clearing sequence without
its first character. -/
def gaudy : Projection :=
  ofList (cycle 0x30000000) [sym "[0m", int 7, duo (sym "") nil, true, unknown .sys 0x20000002]

theorem render_shows_text_gaudy :
    (∀ name, sym name ∈ gaudy.leaves → '\x1b' ∉ name.toList) ∧
    gaudy.text = "([0m 7 () T #<sys 0x20000002> . #<cycle 0x30000000>)" ∧
    (Terminal.shown (gaudy.render Bool.true)).cells.map Prod.fst = gaudy.text.toList ∧
    (Terminal.shown (gaudy.render Bool.true)).cells.take 6 =
      [('(', .plain), ('[', .strong .cyan), ('0', .strong .cyan), ('m', .strong .cyan), (' ', .plain),
        ('7', .plain)] ∧
    (Terminal.shown (gaudy.render Bool.true)).look = .plain := by
  have named : ∀ name, sym name ∈ gaudy.leaves → '\x1b' ∉ name.toList := by
    intro name member
    have names : name = "[0m" ∨ name = "" := by simpa [gaudy, ofList, leaves] using member
    rcases names with rfl | rfl <;> decide
  obtain ⟨-, -, -, coloured⟩ := gaudy.render_shows_text
  obtain ⟨painted, letters⟩ := coloured named
  refine ⟨named, by decide +kernel, letters, ?_, ?_⟩
  · rw [painted]
    decide +kernel
  · rw [painted]

end LispHost.Projection
