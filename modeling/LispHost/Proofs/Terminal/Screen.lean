import LispHost.Projection.Terminal

/-!
What a terminal shows.

A terminal takes a text one character at a time. A sequence of graphic renditions changes the look of what
follows it and is not shown itself; any other character is shown in the look that is on. Renditions stay on
until they are cleared, so a text painted in a style is shown in that style only where nothing was on before it,
and it leaves nothing on.
-/

set_option autoImplicit false

namespace LispHost.Terminal

inductive Colour where
  | black | red | green | yellow | blue | magenta | cyan | white
  deriving DecidableEq, Repr

structure Look where
  bold : Bool
  faint : Bool
  colour : Option Colour
  deriving DecidableEq, Repr

namespace Look

def plain : Look :=
  ⟨false, false, none⟩

def coloured (colour : Colour) : Look :=
  ⟨false, false, some colour⟩

def strong (colour : Colour) : Look :=
  ⟨true, false, some colour⟩

def rendition (look : Look) (code : Nat) : Look :=
  match code with
  | 0 => plain
  | 1 => { look with bold := true }
  | 2 => { look with faint := true }
  | 22 => { look with bold := false, faint := false }
  | 30 => { look with colour := some .black }
  | 31 => { look with colour := some .red }
  | 32 => { look with colour := some .green }
  | 33 => { look with colour := some .yellow }
  | 34 => { look with colour := some .blue }
  | 35 => { look with colour := some .magenta }
  | 36 => { look with colour := some .cyan }
  | 37 => { look with colour := some .white }
  | 39 => { look with colour := none }
  | _ => look

end Look

inductive Awaiting where
  | character
  | bracket
  /-- Inside a sequence: the codes before, and the one that is being read. -/
  | code (before : List Nat) (current : Nat)
  deriving DecidableEq, Repr

/-- A terminal: the characters shown so far, each with its look, and the look of the next one. -/
structure Screen where
  cells : List (Char × Look)
  look : Look
  awaiting : Awaiting
  deriving DecidableEq, Repr

namespace Screen

def showing (cells : List (Char × Look)) : Screen :=
  ⟨cells, .plain, .character⟩

/-- One character taken by a terminal; a sequence that is no rendition is dropped. -/
def feed (screen : Screen) (c : Char) : Screen :=
  match screen.awaiting with
  | .character =>
    if c = '\x1b' then { screen with awaiting := .bracket }
    else { screen with cells := screen.cells ++ [(c, screen.look)] }
  | .bracket => { screen with awaiting := if c = '[' then .code [] 0 else .character }
  | .code before current =>
    if c.isDigit then { screen with awaiting := .code before (current * 10 + (c.toNat - 48)) }
    else if c = ';' then { screen with awaiting := .code (before ++ [current]) 0 }
    else if c = 'm' then
      { screen with look := (before ++ [current]).foldl .rendition screen.look, awaiting := .character }
    else { screen with awaiting := .character }

def write (screen : Screen) (text : List Char) : Screen :=
  text.foldl feed screen

theorem write_append (screen : Screen) (first second : List Char) :
    screen.write (first ++ second) = (screen.write first).write second := by
  unfold write
  rw [List.foldl_append]

end Screen

def shown (text : String) : Screen :=
  (Screen.showing []).write text.toList

def Style.look : Style → Look
  | .plain => .plain
  | .cyanBold => .strong .cyan
  | .yellow => .coloured .yellow
  | .red => .coloured .red
  | .redBold => .strong .red
  | .dimmed => ⟨false, true, none⟩

def cellsOf (look : Look) (text : String) : List (Char × Look) :=
  text.toList.map fun c => (c, look)

theorem map_fst_cellsOf (look : Look) (text : String) :
    (cellsOf look text).map Prod.fst = text.toList := by
  simp [cellsOf, Function.comp_def]

namespace Screen

variable {cells : List (Char × Look)}

theorem write_of_no_escape {text : List Char} (no_escape : '\x1b' ∉ text) (look : Look) :
    write ⟨cells, look, .character⟩ text =
      ⟨cells ++ text.map fun c => (c, look), look, .character⟩ := by
  induction text generalizing cells with
  | nil => simp [write]
  | cons c text ih =>
    have character : c ≠ '\x1b' := by
      rintro rfl
      exact no_escape List.mem_cons_self
    have later : '\x1b' ∉ text := fun member => no_escape (List.mem_cons_of_mem c member)
    have fed : feed ⟨cells, look, .character⟩ c = ⟨cells ++ [(c, look)], look, .character⟩ := by
      simp only [feed, if_neg character]
    have rest : write ⟨cells ++ [(c, look)], look, .character⟩ text = _ := ih later
    unfold write at rest ⊢
    rw [List.foldl_cons, fed, rest]
    simp

theorem write_opening (style : Style) :
    write (showing cells) (opening style) = ⟨cells, style.look, .character⟩ := by
  cases style <;> rfl

theorem write_closing (look : Look) :
    write ⟨cells, look, .character⟩ closing = showing cells := by
  rfl

end Screen

theorem reopen_of_no_escape (style : Style) {text : List Char} (no_escape : '\x1b' ∉ text) :
    reopen style text = text := by
  induction text with
  | nil => rfl
  | cons c text ih =>
    have later : '\x1b' ∉ text := fun member => no_escape (List.mem_cons_of_mem c member)
    rw [reopen, ih later]
    rintro rest rfl -
    exact no_escape List.mem_cons_self

/-- A painted text is shown in its style where nothing is on, and leaves nothing on. -/
theorem write_paint {style : Style} {text : String} (no_escape : '\x1b' ∉ text.toList)
    (cells : List (Char × Look)) :
    (Screen.showing cells).write (paint style text).toList =
      .showing (cells ++ cellsOf style.look text) := by
  unfold paint
  split
  · rename_i unstyled
    subst unstyled
    exact Screen.write_of_no_escape no_escape .plain
  · rw [String.toList_ofList, reopen_of_no_escape style no_escape, Screen.write_append,
      Screen.write_append, Screen.write_opening, Screen.write_of_no_escape no_escape,
      Screen.write_closing]
    rfl

theorem write_spans {spans : List Span} (no_escape : ∀ span ∈ spans, '\x1b' ∉ span.text.toList)
    (cells : List (Char × Look)) :
    (Screen.showing cells).write (String.join (spans.map (Span.render true))).toList =
      .showing (cells ++ spans.flatMap fun span => cellsOf span.style.look span.text) := by
  induction spans generalizing cells with
  | nil => simp [Screen.write]
  | cons span spans ih =>
    obtain ⟨first, later⟩ := List.forall_mem_cons.mp no_escape
    have painted : (span.render true).toList = (paint span.style span.text).toList := rfl
    rw [List.map_cons, String.join_cons, String.toList_append, Screen.write_append, painted,
      write_paint first, ih later, List.flatMap_cons, List.append_assoc]

end LispHost.Terminal
