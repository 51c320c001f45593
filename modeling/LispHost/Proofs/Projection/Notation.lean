import LispHost.Proofs.Projection.Reader

/-!
List notation is unambiguous.

A leaf is written by characters that form one piece of any text in which they stand between delimiters, and
this piece is read back as the leaf. A list is cut into its pieces and put together again by induction on the
value. Both inductions have two halves, for a value and for the rest of the list whose tail is the value, since
a pair is written in a different way in the two places.

Two things are not written: the word of a value beyond the depth bound, and a `NIL` that is the tail of a pair.
-/

set_option autoImplicit false

namespace LispHost

/-- A symbol name that cannot be taken for anything else. -/
structure PlainName (name : String) : Prop where
  ne_empty : name ≠ ""
  unbroken : ∀ c ∈ name.toList, Text.isBlank c = false ∧ c ≠ '(' ∧ c ≠ ')'
  no_hash : name.toList.head? ≠ some '#'
  no_number : name.toList.all Char.isDigit = false
  no_word : name ∉ ["NIL", "T", ".", "..."]

namespace Projection

def Plain : Projection → Prop
  | sym name => PlainName name
  | duo car cdr => car.Plain ∧ cdr.Plain
  | _ => True

/-- The value without the words of what lies beyond the depth bound. -/
def forgetElided : Projection → Projection
  | elided _ => elided 0
  | duo car cdr => duo car.forgetElided cdr.forgetElided
  | leaf => leaf

/-- The leaves that are written: all but a `NIL` that is the tail of a pair. -/
def writtenLeaves : Projection → List Projection
  | duo car cdr => car.writtenLeaves ++ if cdr = nil then [] else cdr.writtenLeaves
  | leaf => [leaf]

def IsLeaf : Projection → Prop
  | duo .. => False
  | _ => True

def piece (leaf : Projection) : List Char :=
  leaf.leafText.toList

mutual

def writtenPieces : Projection → List (List Char)
  | duo car cdr => ['('] :: (car.writtenPieces ++ cdr.tailPieces)
  | leaf => [leaf.piece]

def tailPieces : Projection → List (List Char)
  | nil => [[')']]
  | duo car cdr => car.writtenPieces ++ cdr.tailPieces
  | leaf => [['.'], leaf.piece, [')']]

end

@[elab_as_elim]
theorem leaf_induction {motive : Projection → Prop} (leaf : ∀ p : Projection, p.IsLeaf → motive p)
    (duo : ∀ car cdr, motive car → motive cdr → motive (.duo car cdr)) (p : Projection) :
    motive p := by
  induction p with
  | duo car cdr first second => exact duo car cdr first second
  | _ => exact leaf _ trivial

section Leaf

variable {p : Projection}

theorem text_of_leaf (leaf : p.IsLeaf) : p.text.toList = p.piece := by
  cases p with
  | duo => exact leaf.elim
  | _ => rw [text, piece]; intro _ _ same; cases same

theorem writtenPieces_of_leaf (leaf : p.IsLeaf) : p.writtenPieces = [p.piece] := by
  cases p with
  | duo => exact leaf.elim
  | _ => simp [writtenPieces]

theorem writtenLeaves_of_leaf (leaf : p.IsLeaf) : p.writtenLeaves = [p] := by
  cases p with
  | duo => exact leaf.elim
  | _ => rfl

theorem tail_of_leaf (leaf : p.IsLeaf) :
    p = nil ∨ p ≠ nil ∧ p.tailText.toList = ' ' :: '.' :: ' ' :: (p.piece ++ [')']) ∧
      p.tailPieces = [['.'], p.piece, [')']] := by
  cases p with
  | duo => exact leaf.elim
  | nil => exact .inl rfl
  | _ => exact .inr (by simp [tailText, tailPieces, piece])

end Leaf

end Projection

namespace Notation

/-! ### Cutting a text into pieces -/

/-- What can follow a value in list notation. -/
inductive Delimited : List Char → Prop
  | nil : Delimited []
  | blank (rest : List Char) : Delimited (' ' :: rest)
  | closing (rest : List Char) : Delimited (')' :: rest)

/-- Characters that are one piece of any text in which they stand between delimiters. -/
def Whole (piece : List Char) : Prop :=
  ∀ rest, Delimited rest → piecesFrom [] (piece ++ rest) = piece :: piecesFrom [] rest

private theorem piecesFrom_delimited {piece rest : List Char} (begun : piece ≠ [])
    (closed : isUnclosed piece = false) (delimited : Delimited rest) :
    piecesFrom piece rest = piece.reverse :: piecesFrom [] rest := by
  cases delimited with
  | nil => simp [piecesFrom, ended, begun]
  | blank rest =>
    have nothing : isUnclosed [] = false := rfl
    simp [piecesFrom, ended, begun, closed, nothing]
  | closing rest => simp [piecesFrom, ended, begun]

private theorem piecesFrom_unbroken {word : List Char}
    (unbroken : ∀ c ∈ word, c ≠ '(' ∧ c ≠ ')' ∧ c ≠ ' ') (piece rest : List Char) :
    piecesFrom piece (word ++ rest) = piecesFrom (word.reverse ++ piece) rest := by
  induction word generalizing piece with
  | nil => rfl
  | cons c word ih =>
    obtain ⟨⟨opening, closing, blank⟩, later⟩ := List.forall_mem_cons.mp unbroken
    rw [List.cons_append, piecesFrom, if_neg (by simp [opening, closing]),
      if_neg (by simp [blank]), ih later, List.reverse_cons, List.append_assoc,
      List.singleton_append]

private theorem piecesFrom_unclosed {word : List Char}
    (inner : ∀ c ∈ word, c ≠ '(' ∧ c ≠ ')' ∧ c ≠ '>') {piece : List Char}
    (unclosed : isUnclosed piece = true) (rest : List Char) :
    piecesFrom piece (word ++ rest) = piecesFrom (word.reverse ++ piece) rest := by
  induction word generalizing piece with
  | nil => rfl
  | cons c word ih =>
    obtain ⟨⟨opening, closing, last⟩, later⟩ := List.forall_mem_cons.mp inner
    have longer : isUnclosed (c :: piece) = true := by
      simp only [isUnclosed, Bool.and_eq_true, decide_eq_true_eq] at unclosed ⊢
      obtain ⟨first, -⟩ := unclosed
      refine ⟨?_, by simpa using last⟩
      rw [List.getLast?_cons, first]
      rfl
    rw [List.cons_append, piecesFrom, if_neg (by simp [opening, closing]),
      if_neg (by simp [unclosed]), ih later longer, List.reverse_cons, List.append_assoc,
      List.singleton_append]

theorem whole_of_unbroken {word : List Char} (begun : word ≠ []) (no_hash : word.head? ≠ some '#')
    (unbroken : ∀ c ∈ word, c ≠ '(' ∧ c ≠ ')' ∧ c ≠ ' ') : Whole word := by
  intro rest delimited
  have closed : isUnclosed word.reverse = false := by
    simp [isUnclosed, List.getLast?_reverse, no_hash]
  have cut := piecesFrom_delimited (by simpa using begun) closed delimited
  rw [piecesFrom_unbroken unbroken, List.append_nil, cut, List.reverse_reverse]

theorem whole_standIn {inside : List Char}
    (inner : ∀ c ∈ inside, c ≠ '(' ∧ c ≠ ')' ∧ c ≠ '>') :
    Whole ('#' :: '<' :: (inside ++ ['>'])) := by
  intro rest delimited
  have closed : isUnclosed ('>' :: (inside.reverse ++ ['<', '#'])) = false := by
    simp [isUnclosed]
  have cut := piecesFrom_delimited (List.cons_ne_nil _ _) closed delimited
  have opened : piecesFrom [] ('#' :: '<' :: (inside ++ ['>']) ++ rest) =
      piecesFrom ['<', '#'] (inside ++ ('>' :: rest)) := by
    simp [piecesFrom]
  have ending : piecesFrom (inside.reverse ++ ['<', '#']) ('>' :: rest) =
      piecesFrom ('>' :: (inside.reverse ++ ['<', '#'])) rest := by
    simp [piecesFrom]
  rw [opened, piecesFrom_unclosed inner (by decide), ending, cut]
  simp

/-! ### Leaves -/

def marks : List (List Char) :=
  [['('], [')'], ['.']]

/-- A piece that is written for a leaf: it is not cut, it is no punctuation, and it is read back. -/
structure Writes (piece : List Char) (leaf : Projection) : Prop where
  whole : Whole piece
  no_mark : piece ∉ marks
  read : leaf? piece = some leaf

/-- A character that neither ends a piece nor a stand-in. -/
def Inner (c : Char) : Prop :=
  c ≠ '(' ∧ c ≠ ')' ∧ c ≠ '>' ∧ c ≠ ' '

instance : DecidablePred Inner := fun _ =>
  inferInstanceAs (Decidable (_ ∧ _))

/-- A property of the characters of a word is decided by going through the word, not through all characters. -/
private theorem forall_mem_of_all {P : Char → Prop} [DecidablePred P] {word : List Char}
    (all : word.all (fun c => decide (P c)) = true) : ∀ c ∈ word, P c := by
  simpa using all

private theorem inner_of_mem_toDigits {radix n : Nat} (large : 1 < radix) (small : radix ≤ 16)
    {c : Char} (member : c ∈ Nat.toDigits radix n) : Inner c ∧ c ≠ ':' := by
  have digits : ∀ d < 16, Inner d.digitChar ∧ d.digitChar ≠ ':' := by decide
  obtain ⟨d, digit, rfl⟩ := Text.exists_digit_of_mem_toDigits large member
  exact digits d (by omega)

private theorem decimal_eq (w : Word) : (Word.decimal w).toList = Nat.toDigits 10 w.toNat := by
  rw [Word.decimal, decimalText, String.toList_ofList]

private theorem hex_eq (w : Word) :
    (Word.hex w).toList = '0' :: 'x' :: Nat.toDigits 16 w.toNat := by
  rw [Word.hex, hexDigits, String.toList_ofList]

private theorem inner_decimal (w : Word) : ∀ c ∈ (Word.decimal w).toList, Inner c ∧ c ≠ ':' := by
  intro c member
  rw [decimal_eq] at member
  exact inner_of_mem_toDigits (by decide) (by decide) member

private theorem inner_hex (w : Word) : ∀ c ∈ (Word.hex w).toList, Inner c := by
  intro c member
  rw [hex_eq, List.mem_cons, List.mem_cons] at member
  rcases member with rfl | rfl | digit
  · decide
  · decide
  · exact (inner_of_mem_toDigits (by decide) (by decide) digit).1

private theorem inner_tag (tag : Tag) : ∀ c ∈ tag.text.toList, Inner c := by
  cases tag with
  | int | sys | duo | sym => exact forall_mem_of_all (by decide)
  | unknown code =>
    intro c member
    rw [Tag.text, String.toList_append, List.mem_append] at member
    rcases member with label | digit
    · exact forall_mem_of_all (by decide) c label
    · exact (inner_decimal code c digit).1

theorem decimal?_decimal (w : Word) : decimal? (Word.decimal w).toList = some w := by
  rw [decimal?, decimal_eq, Text.radixNumber?_toDigits (by decide) (by decide), Option.map_some,
    UInt32.ofNat_toNat]

theorem hex?_hex (w : Word) : hex? (Word.hex w).toList = some w := by
  rw [hex_eq, hex?, Text.radixNumber?_toDigits (by decide) (by decide), Option.map_some,
    UInt32.ofNat_toNat]

theorem tag?_text (tag : Tag) : tag? tag.text.toList = some tag := by
  cases tag with
  | int | sys | duo | sym => decide +kernel
  | unknown code =>
    have label : ':' ∉ "unknown".toList := by decide
    have digits : ':' ∉ (Word.decimal code).toList :=
      fun member => (inner_decimal code _ member).2 rfl
    have cut : (Tag.unknown code).text.toList.splitOn ':' =
        ["unknown".toList, (Word.decimal code).toList] := by
      have written : (Tag.unknown code).text.toList =
          "unknown".toList ++ ':' :: (Word.decimal code).toList := by
        rw [Tag.text, String.toList_append]
        rfl
      rw [written, List.splitOn_append_cons_self_of_not_mem label, List.splitOn_eq_singleton digits]
    rw [tag?, cut]
    simp [decimal?_decimal]

/-- A word that is no stand-in is written for a number if it consists of digits, else for a symbol. -/
private theorem writes_word {word : List Char} {leaf : Projection} (begun : word ≠ [])
    (no_hash : word.head? ≠ some '#') (unbroken : ∀ c ∈ word, c ≠ '(' ∧ c ≠ ')' ∧ c ≠ ' ')
    (no_word : String.ofList word ∉ ["NIL", "T", ".", "..."])
    (read : (if word.all Char.isDigit then (decimal? word).map .int
      else some (.sym (String.ofList word))) = some leaf) : Writes word leaf where
  whole := whole_of_unbroken begun no_hash unbroken
  no_mark := by
    intro mark
    simp only [marks, List.mem_cons, List.not_mem_nil, or_false] at mark
    rcases mark with rfl | rfl | rfl
    · exact (unbroken _ (List.mem_singleton_self _)).1 rfl
    · exact (unbroken _ (List.mem_singleton_self _)).2.1 rfl
    · exact no_word (by decide)
  read := by
    have word_ne (other : String) (listed : other ∈ ["NIL", "T", ".", "..."]) :
        word ≠ other.toList := by
      rintro rfl
      exact no_word (by rwa [String.ofList_toList])
    rw [leaf?, if_neg (word_ne "NIL" (by decide)), if_neg (word_ne "T" (by decide)),
      if_neg (word_ne "..." (by decide))]
    · exact read
    · rintro rest rfl
      exact no_hash rfl

private theorem writes_standIn {inside : List Char} {leaf : Projection}
    (inner : ∀ c ∈ inside, Inner c ∨ c = ' ') (read : standIn? inside = some leaf) :
    Writes ('#' :: '<' :: (inside ++ ['>'])) leaf where
  whole := by
    refine whole_standIn fun c member => ?_
    rcases inner c member with ⟨opening, closing, last, -⟩ | rfl
    · exact ⟨opening, closing, last⟩
    · decide
  no_mark := by simp [marks]
  read := by
    rw [leaf?, if_neg (by simp), if_neg (by simp), if_neg (by simp)]
    simpa only [List.dropLast_concat] using read

private theorem writes_int (w : Word) : Writes (Word.decimal w).toList (.int w) := by
  have begun : (Word.decimal w).toList ≠ [] := by
    rw [decimal_eq]
    exact Nat.toDigits_ne_nil
  have digits : ∀ c ∈ (Word.decimal w).toList, c.isDigit = true := by
    intro c member
    rw [decimal_eq] at member
    exact Nat.isDigit_of_mem_toDigits (by decide) (by decide) member
  refine writes_word begun ?_ ?_ ?_ ?_
  · intro first
    exact absurd (digits _ (List.mem_of_head? first)) (by decide)
  · intro c member
    obtain ⟨⟨opening, closing, -, blank⟩, -⟩ := inner_decimal w c member
    exact ⟨opening, closing, blank⟩
  · intro word
    have others : ∀ other ∈ ["NIL", "T", ".", "..."], other.toList.all Char.isDigit = false := by
      decide
    have number := others _ word
    rw [String.toList_ofList, List.all_eq_true.mpr digits] at number
    cases number
  · rw [if_pos (List.all_eq_true.mpr digits), decimal?_decimal, Option.map_some]

private theorem writes_sym {name : String} (plain : PlainName name) :
    Writes name.toList (.sym name) := by
  refine writes_word (by simpa using plain.ne_empty) plain.no_hash ?_ ?_ ?_
  · intro c member
    obtain ⟨solid, opening, closing⟩ := plain.unbroken c member
    refine ⟨opening, closing, ?_⟩
    rintro rfl
    exact absurd solid (by decide)
  · rw [String.ofList_toList]
    exact plain.no_word
  · rw [plain.no_number, if_neg Bool.false_ne_true, String.ofList_toList]

section Words

variable {word : List Char} (inner : ∀ c ∈ word, Inner c)
include inner

private theorem inner_or_blank (rest : List Char) (later : ∀ c ∈ rest, Inner c ∨ c = ' ') :
    ∀ c ∈ word ++ ' ' :: rest, Inner c ∨ c = ' ' := by
  intro c member
  rcases List.mem_append.mp member with first | second
  · exact .inl (inner c first)
  · rcases List.mem_cons.mp second with blank | other
    · exact .inr blank
    · exact later c other

private theorem splitOn_blank (rest : List Char) :
    (word ++ ' ' :: rest).splitOn ' ' = word :: rest.splitOn ' ' :=
  List.splitOn_append_cons_self_of_not_mem (fun member => (inner _ member).2.2.2 rfl) rest

private theorem splitOn_last : word.splitOn ' ' = [word] :=
  List.splitOn_eq_singleton fun member => (inner _ member).2.2.2 rfl

end Words

private theorem writes_unknown (tag : Tag) (raw : Word) :
    Writes (Projection.unknown tag raw).piece (.unknown tag raw) := by
  have written : (Projection.unknown tag raw).piece =
      '#' :: '<' :: ((tag.text.toList ++ ' ' :: (Word.hex raw).toList) ++ ['>']) := by
    simp [Projection.piece, Projection.leafText]
  have no_cycle : tag.text.toList ≠ "cycle".toList := by
    intro same
    have unread : tag? "cycle".toList = none := by decide +kernel
    rw [← same, tag?_text] at unread
    cases unread
  rw [written]
  refine writes_standIn (inner_or_blank (inner_tag tag) _ fun c member => .inl (inner_hex raw c member)) ?_
  rw [standIn?, splitOn_blank (inner_tag tag), splitOn_last (inner_hex raw)]
  simp only [if_neg no_cycle, tag?_text, hex?_hex, Option.bind_some, Option.map_some]

private theorem writes_cycle (raw : Word) :
    Writes (Projection.cycle raw).piece (.cycle raw) := by
  have inner : ∀ c ∈ "cycle".toList, Inner c := forall_mem_of_all (by decide)
  have written : (Projection.cycle raw).piece =
      '#' :: '<' :: (("cycle".toList ++ ' ' :: (Word.hex raw).toList) ++ ['>']) := by
    simp [Projection.piece, Projection.leafText]
  rw [written]
  refine writes_standIn (inner_or_blank inner _ fun c member => .inl (inner_hex raw c member)) ?_
  rw [standIn?, splitOn_blank inner, splitOn_last (inner_hex raw)]
  simp [hex?_hex]

private theorem writes_undecodable (raw len : Word) :
    Writes (Projection.undecodable raw len).piece (.undecodable raw len) := by
  have first : ∀ c ∈ "undecodable".toList, Inner c := forall_mem_of_all (by decide)
  have third : ∀ c ∈ (Word.decimal len).toList, Inner c := fun c member => (inner_decimal len c member).1
  have last : ∀ c ∈ "bytes".toList, Inner c := forall_mem_of_all (by decide)
  have written : (Projection.undecodable raw len).piece =
      '#' :: '<' :: (("undecodable".toList ++ ' ' :: ((Word.hex raw).toList ++ ' ' ::
        ((Word.decimal len).toList ++ ' ' :: "bytes".toList))) ++ ['>']) := by
    simp [Projection.piece, Projection.leafText]
  rw [written]
  refine writes_standIn ?_ ?_
  · exact inner_or_blank first _ (inner_or_blank (inner_hex raw) _
      (inner_or_blank third _ fun c member => .inl (last c member)))
  · rw [standIn?, splitOn_blank first, splitOn_blank (inner_hex raw), splitOn_blank third,
      splitOn_last last]
    simp [hex?_hex, decimal?_decimal]

theorem writes_leaf {p : Projection} (leaf : p.IsLeaf) (plain : p.Plain) :
    Writes p.piece p.forgetElided := by
  cases p with
  | duo => exact leaf.elim
  | int w => exact writes_int w
  | nil | true =>
    exact ⟨whole_of_unbroken (by decide) (by decide) (forall_mem_of_all (by decide)), by decide,
      by decide⟩
  | sym name => exact writes_sym plain
  | unknown tag raw => exact writes_unknown tag raw
  | undecodable raw len => exact writes_undecodable raw len
  | cycle raw => exact writes_cycle raw
  | elided raw =>
    have dots : Writes "...".toList (.elided 0) :=
      ⟨whole_of_unbroken (by decide) (by decide) (forall_mem_of_all (by decide)), by decide, by decide⟩
    exact dots

/-! ### Lists -/

theorem piecesFrom_blank (rest : List Char) : piecesFrom [] (' ' :: rest) = piecesFrom [] rest := by
  simp [piecesFrom, ended, isUnclosed]

theorem piecesFrom_opening (rest : List Char) :
    piecesFrom [] ('(' :: rest) = ['('] :: piecesFrom [] rest := by
  simp [piecesFrom, ended]

theorem piecesFrom_closing (rest : List Char) :
    piecesFrom [] (')' :: rest) = [')'] :: piecesFrom [] rest := by
  simp [piecesFrom, ended]

theorem delimited_tailText (p : Projection) (rest : List Char) :
    Delimited (p.tailText.toList ++ rest) := by
  cases p with
  | nil => exact .closing rest
  | _ => simpa [Projection.tailText] using Delimited.blank _

theorem piecesFrom_text {p : Projection} (plain : p.Plain) :
    (∀ rest, Delimited rest →
      piecesFrom [] (p.text.toList ++ rest) = p.writtenPieces ++ piecesFrom [] rest) ∧
    ∀ rest, piecesFrom [] (p.tailText.toList ++ rest) = p.tailPieces ++ piecesFrom [] rest := by
  induction p using Projection.leaf_induction with
  | leaf p leaf =>
    have whole := (writes_leaf leaf plain).whole
    refine ⟨fun rest delimited => ?_, fun rest => ?_⟩
    · rw [Projection.text_of_leaf leaf, Projection.writtenPieces_of_leaf leaf, whole rest delimited]
      rfl
    · -- A `NIL` is written by the closing parenthesis alone, any other leaf after a dot.
      rcases Projection.tail_of_leaf leaf with rfl | ⟨-, text, pieces⟩
      · exact piecesFrom_closing rest
      · have dot : Whole ['.'] := whole_of_unbroken (by decide) (by decide) (forall_mem_of_all (by decide))
        have after := dot (' ' :: (p.piece ++ ')' :: rest)) (.blank _)
        have value := whole (')' :: rest) (.closing rest)
        rw [piecesFrom_blank, value, piecesFrom_closing] at after
        rw [text, pieces]
        simpa [piecesFrom_blank] using after
  | duo car cdr first second =>
    obtain ⟨value, -⟩ := first plain.1
    obtain ⟨-, tail⟩ := second plain.2
    have items (rest : List Char) :
        piecesFrom [] (car.text.toList ++ (cdr.tailText.toList ++ rest)) =
          car.writtenPieces ++ (cdr.tailPieces ++ piecesFrom [] rest) := by
      rw [value _ (delimited_tailText cdr rest), tail]
    refine ⟨fun rest _ => ?_, fun rest => ?_⟩
    · have opened := piecesFrom_opening (car.text.toList ++ (cdr.tailText.toList ++ rest))
      rw [items] at opened
      simpa [Projection.text, Projection.writtenPieces] using opened
    · have parted := piecesFrom_blank (car.text.toList ++ (cdr.tailText.toList ++ rest))
      rw [items] at parted
      simpa [Projection.tailText, Projection.tailPieces] using parted

theorem pieces_text {p : Projection} (plain : p.Plain) : pieces p.text = p.writtenPieces := by
  have cut := (piecesFrom_text plain).1 [] .nil
  rwa [List.append_nil, piecesFrom, ended, if_pos rfl, List.append_nil] at cut

theorem put_of_writes {piece : List Char} {leaf : Projection} (written : Writes piece leaf)
    (tail : Projection) (stack : List Projection) :
    put piece (tail :: stack) = some (.duo leaf tail :: stack) := by
  obtain ⟨no_opening, no_closing, no_dot⟩ : piece ≠ ['('] ∧ piece ≠ [')'] ∧ piece ≠ ['.'] := by
    simpa [marks] using written.no_mark
  unfold put
  rw [if_neg no_closing, if_neg no_opening, if_neg no_dot]
  simp only [written.read, Option.map_some]

/-- Read from the right, the pieces of a value put it before the tail that is there, and the pieces of the
rest of a list make the tail of a new one. -/
theorem foldrM_put {p : Projection} (plain : p.Plain) :
    (∀ tail stack,
      p.writtenPieces.foldrM put (tail :: stack) = some (.duo p.forgetElided tail :: stack)) ∧
    ∀ stack, p.tailPieces.foldrM put stack = some (p.forgetElided :: stack) := by
  induction p using Projection.leaf_induction with
  | leaf p leaf =>
    have placed := put_of_writes (writes_leaf leaf plain)
    refine ⟨fun tail stack => ?_, fun stack => ?_⟩
    · rw [Projection.writtenPieces_of_leaf leaf]
      simp [placed]
    · rcases Projection.tail_of_leaf leaf with rfl | ⟨-, -, pieces⟩
      · rfl
      · have closing : put [')'] stack = some (.nil :: stack) := rfl
        have dot : put ['.'] (.duo p.forgetElided .nil :: stack) = some (p.forgetElided :: stack) := rfl
        rw [pieces]
        simp [closing, placed, dot]
  | duo car cdr first second =>
    obtain ⟨value, -⟩ := first plain.1
    obtain ⟨-, tail⟩ := second plain.2
    -- The stack is built from the right: first the tail, then the value before it.
    have items (stack : List Projection) :
        (car.writtenPieces ++ cdr.tailPieces).foldrM put stack =
          some (.duo car.forgetElided cdr.forgetElided :: stack) := by
      rw [List.foldrM_append, tail, Option.bind_eq_bind, Option.bind_some, value]
    refine ⟨fun old stack => ?_, fun stack => ?_⟩
    · rw [Projection.writtenPieces, List.foldrM_cons, items]
      rfl
    · rw [Projection.tailPieces]
      exact items stack

theorem read?_text {p : Projection} (plain : p.Plain) : read? p.text = some p.forgetElided := by
  rw [read?, pieces_text plain, (foldrM_put plain).1 .nil []]

end Notation

namespace Projection

theorem text_forgetElided (p : Projection) :
    p.forgetElided.text = p.text ∧ p.forgetElided.tailText = p.tailText := by
  induction p with
  | duo car cdr first second =>
    rw [forgetElided]
    simp only [text, tailText, first.1, second.2, and_self]
  | elided => simp [forgetElided, text, tailText, leafText]
  | _ => exact ⟨rfl, rfl⟩

theorem filter_writtenPieces {p : Projection} (plain : p.Plain) :
    p.writtenPieces.filter (fun piece => piece ∉ Notation.marks) = p.writtenLeaves.map piece ∧
    p.tailPieces.filter (fun piece => piece ∉ Notation.marks) =
      (if p = nil then [] else p.writtenLeaves).map piece := by
  have opening : ['('] ∈ Notation.marks := by decide
  have closing : [')'] ∈ Notation.marks := by decide
  have dot : ['.'] ∈ Notation.marks := by decide
  induction p using leaf_induction with
  | leaf p leaf =>
    have no_mark := (Notation.writes_leaf leaf plain).no_mark
    have alone : p.writtenLeaves = [p] := writtenLeaves_of_leaf leaf
    refine ⟨?_, ?_⟩
    · simp [writtenPieces_of_leaf leaf, alone, no_mark]
    · rcases tail_of_leaf leaf with rfl | ⟨other, -, pieces⟩
      · simp [tailPieces, closing]
      · simp [pieces, other, alone, dot, no_mark, closing]
  | duo car cdr first second =>
    obtain ⟨value, -⟩ := first plain.1
    obtain ⟨-, tail⟩ := second plain.2
    have items : (car.writtenPieces ++ cdr.tailPieces).filter (fun piece => piece ∉ Notation.marks) =
        (duo car cdr).writtenLeaves.map piece := by
      rw [List.filter_append, value, tail, ← List.map_append, writtenLeaves]
    refine ⟨?_, ?_⟩
    · rw [writtenPieces, List.filter_cons_of_neg (by simpa using opening)]
      exact items
    · rw [tailPieces, if_neg (by simp)]
      exact items

/-- Two values have one text only if they are the same but for the words beyond the depth bound, every text is
read back, and all leaves but a `NIL` that is the tail of a pair are written. -/
theorem notation_unambiguous {p q : Projection} (plain : p.Plain) (other : q.Plain) :
    (p.text = q.text ↔ p.forgetElided = q.forgetElided) ∧
    Notation.read? p.text = some p.forgetElided ∧
    (Notation.pieces p.text).filter (fun piece => piece ∉ Notation.marks) =
      p.writtenLeaves.map piece := by
  refine ⟨⟨fun same => ?_, fun same => ?_⟩, Notation.read?_text plain, ?_⟩
  · have read := Notation.read?_text plain
    rw [same, Notation.read?_text other] at read
    exact (Option.some.inj read).symm
  · rw [← p.text_forgetElided.1, same, q.text_forgetElided.1]
  · rw [Notation.pieces_text plain]
    exact (filter_writtenPieces plain).1

def everyLeaf (hidden : Word) : Projection :=
  ofList (cycle 0x30000000) [sym "a.b", ofList nil [int 10, sym "-1", nil], true,
    duo (unknown (.unknown 7) 0x10) (undecodable 0x80000001 3), elided hidden]

theorem notation_unambiguous_everyLeaf :
    (everyLeaf 1).Plain ∧ (everyLeaf 2).Plain ∧ (everyLeaf 1).text = (everyLeaf 2).text ∧
    (everyLeaf 1).text =
      "(a.b (10 -1 NIL) T (#<unknown:7 0x10> . #<undecodable 0x80000001 3 bytes>) ... . #<cycle 0x30000000>)" ∧
    Notation.read? (everyLeaf 1).text = some (everyLeaf 0) := by
  have plain (hidden : Word) : (everyLeaf hidden).Plain := by
    have first : PlainName "a.b" :=
      ⟨by decide, Notation.forall_mem_of_all (by decide), by decide, by decide, by decide⟩
    have second : PlainName "-1" :=
      ⟨by decide, Notation.forall_mem_of_all (by decide), by decide, by decide, by decide⟩
    exact ⟨first, ⟨trivial, second, trivial, trivial⟩, trivial, ⟨trivial, trivial⟩, trivial, trivial⟩
  obtain ⟨same, read, -⟩ := notation_unambiguous (plain 1) (plain 2)
  exact ⟨plain 1, plain 2, same.mpr rfl, by decide +kernel, read⟩

end Projection

end LispHost
