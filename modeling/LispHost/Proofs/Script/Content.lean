import LispHost.Proofs.Script.Calls
import LispHost.Proofs.View.Content

/-!
Content of scripted guests.

The accessors of a scripted guest look a word up in its description and change nothing but the fuel. So
which words a decode meets, and what it reads of them, can be told from the description and the memory alone,
and two instances of a guest decode alike as soon as rows and records lie in both with the same words and
bytes.
-/

set_option autoImplicit false

namespace LispHost.Script

open Instance (spend?)

variable {d : Description} {ctx : DecodingContext Globals} {inst next : Instance Globals}

/-! ### Lookups -/

def lookedUp : Option Word → Ending Word
  | some word => .value word
  | none => .trap .unreachable

def tagCode? (d : Description) (raw : Word) : Option Word :=
  d.tagCodes[(raw >>> 28).toNat]?.join

/-- Where the row of a word lies under a tag code, by the description. -/
def rowPlace? (d : Description) (code raw : Word) : Option Word :=
  (d.rowRules.find? fun rule => rule.code = code).map fun rule =>
    rule.base + (raw &&& rule.mask) * rule.stride

theorem run_tagOf_eq (raw : Word) (inst : Instance Globals) :
    Instance.run (tagOf d raw) inst = (lookedUp (tagCode? d raw), inst) := by
  rw [tagOf, tagCode?]
  rcases d.tagCodes[(raw >>> 28).toNat]? with _ | _ | code <;> rfl

theorem run_row_eq (code raw : Word) (inst : Instance Globals) :
    Instance.run (row d code raw) inst = (lookedUp (rowPlace? d code raw), inst) := by
  rw [row, rowPlace?]
  cases d.rowRules.find? fun rule => rule.code = code <;> rfl

structure Scripted (d : Description) (ctx : DecodingContext Globals) : Prop where
  tagOf : ctx.tagOf = function 1 (one (tagOf d))
  row : ctx.row = function 2 (two (row d))
  string : ctx.string = function 1 (one str)

/-- The accessors of a guest are exported under the names that the host looks up. -/
structure OwnAccessors (d : Description) (abi : Abi) : Prop where
  tagOf : d.guest.func abi.tagOf = .ok (function 1 (one (tagOf d)))
  row : d.guest.func abi.row = .ok (function 2 (two (row d)))
  string : d.guest.func abi.string = .ok (function 1 (one str))

private theorem eq_of_wordFunc {guest : Guest Globals} {name : String} {arity : Nat}
    {f g : Func Globals} (exported : guest.func name = .ok f)
    (found : guest.wordFunc name arity = .ok g) : g = f := by
  rw [Guest.wordFunc, Guest.typedFunc, exported] at found
  simp only at found
  split at found
  · exact (Except.ok.inj found).symm
  · cases found

theorem OwnAccessors.scripted {abi : Abi} {ctx : DecodingContext Globals} (own : OwnAccessors d abi)
    (resolved : DecodingContext.resolve d.guest abi = .ok ctx) : Scripted d ctx := by
  obtain ⟨tagOf, tagOf_found, resolved⟩ := exists_of_bind_eq_ok resolved
  obtain ⟨row, row_found, resolved⟩ := exists_of_bind_eq_ok resolved
  obtain ⟨string, string_found, resolved⟩ := exists_of_bind_eq_ok resolved
  obtain ⟨tags, -, resolved⟩ := exists_of_bind_eq_ok resolved
  obtain ⟨nil, -, resolved⟩ := exists_of_bind_eq_ok resolved
  obtain ⟨t, -, resolved⟩ := exists_of_bind_eq_ok resolved
  cases resolved
  exact {
    tagOf := eq_of_wordFunc own.tagOf tagOf_found
    row := eq_of_wordFunc own.row row_found
    string := eq_of_wordFunc own.string string_found }

def tag? (d : Description) (ctx : DecodingContext Globals) (raw : Word) : Option Tag :=
  (tagCode? d raw).map ctx.tags.classify

def place? (d : Description) (ctx : DecodingContext Globals) (tag : Tag) (raw : Word) : Option Word :=
  (ctx.tags.codeOf tag).bind fun code => rowPlace? d code raw

/-! ### Two instances -/

/-- The two instances are these, up to their fuel. -/
def UpToFuel (first₀ second₀ : Instance Globals) (Fuel : Option Nat → Option Nat → Prop)
    (first second : Instance Globals) : Prop :=
  ∃ f g, first = first₀.withFuel f ∧ second = second₀.withFuel g ∧ Fuel f g

/-- When the first instance can pay for a call the second can, or it fails in a way that is allowed. -/
def Paying (second₀ : Instance Globals) (Fuel : Option Nat → Option Nat → Prop)
    (Failed : Error → Instance Globals → Prop) : Prop :=
  ∀ f g f', Fuel f g → spend? f = some f' →
    (∃ g', spend? g = some g' ∧ Fuel f' g') ∨
      spend? g = none ∧ Failed (.execution (.trap .outOfFuel)) (second₀.withFuel g)

variable {first₀ second₀ first second first' : Instance Globals}
  {Fuel : Option Nat → Option Nat → Prop} {Failed : Error → Instance Globals → Prop}

private theorem eq_value_of_toExcept {ending : Ending Word} {answer : Word}
    (ended : ending.toExcept = .ok answer) : ending = .value answer := by
  cases ending with
  | value w =>
    cases ended
    rfl
  | trap cause | exit code | unbound => cases ended

private theorem eq_some_of_lookedUp {found : Option Word} {answer : Word}
    (ended : lookedUp found = .value answer) : found = some answer := by
  cases found with
  | none => cases ended
  | some word =>
    cases ended
    rfl

section Calls

variable {arity : Nat} {body : List Word → Program Word} {args : List Word}
  {ending ending' : Ending Word} {answer : Word}

theorem exists_of_callWord {f : Option Nat}
    (steady : ∀ fuel, Instance.run (body args) (first₀.withFuel fuel) =
      (ending, first₀.withFuel fuel))
    (called : (first₀.withFuel f).callWord (function arity body) args = (.ok answer, first')) :
    ∃ f', spend? f = some f' ∧ ending = .value answer ∧ first' = first₀.withFuel f' := by
  cases spent : spend? (first₀.withFuel f).fuel with
  | none =>
    rw [Instance.callWord_of_empty spent] at called
    cases congrArg Prod.fst called
  | some f' =>
    rw [callWord_of_spend spent (steady f')] at called
    exact ⟨f', spent, eq_value_of_toExcept (congrArg Prod.fst called),
      (congrArg Prod.snd called).symm⟩

/-- A call that the first instance answers ends in the second as the body does there, or it is not paid
for. -/
private theorem callWord_cases (paying : Paying second₀ Fuel Failed)
    (related : UpToFuel first₀ second₀ Fuel first second)
    (steady : ∀ fuel, Instance.run (body args) (first₀.withFuel fuel) =
      (ending, first₀.withFuel fuel))
    (steady' : ∀ fuel, Instance.run (body args) (second₀.withFuel fuel) =
      (ending', second₀.withFuel fuel))
    (called : first.callWord (function arity body) args = (.ok answer, first')) :
    ending = .value answer ∧
      ((∃ second', UpToFuel first₀ second₀ Fuel first' second' ∧
          second.callWord (function arity body) args = (ending'.toExcept, second')) ∨
        second.callWord (function arity body) args =
            (.error (.execution (.trap .outOfFuel)), second) ∧
          Failed (.execution (.trap .outOfFuel)) second) := by
  obtain ⟨f, g, rfl, rfl, fuelled⟩ := related
  obtain ⟨f', spent, ended, rfl⟩ := exists_of_callWord steady called
  refine ⟨ended, ?_⟩
  -- The body runs the same with any fuel; only the payment can differ.
  rcases paying f g f' fuelled spent with ⟨g', spent', fuelled'⟩ | ⟨empty, failed⟩
  · have paid : spend? (second₀.withFuel g).fuel = some g' := spent'
    exact .inl ⟨second₀.withFuel g', ⟨f', g', rfl, rfl, fuelled'⟩,
      callWord_of_spend paid (steady' g')⟩
  · have unpaid : spend? (second₀.withFuel g).fuel = none := empty
    exact .inr ⟨Instance.callWord_of_empty unpaid _ _, failed⟩

end Calls

/-- The rows and records that a decode of the first instance meets lie in the second with the same words
and bytes. -/
structure Alike (d : Description) (ctx : DecodingContext Globals) (first₀ second₀ : Instance Globals)
    (Asked : Nat → Word → Prop) : Prop where
  row {levels width : Nat} {raw address : Word} {tag : Tag} {words : List Word} :
    Asked (levels + 1) raw → tag? d ctx raw = some tag → tag.rowWidth = some width →
    place? d ctx tag raw = some address → ctx.RowLies first₀ address width words →
    ctx.RowLies second₀ address width words
  parts {levels : Nat} {raw address : Word} {words : List Word} :
    Asked (levels + 1) raw → tag? d ctx raw = some .duo → place? d ctx .duo raw = some address →
    ctx.RowLies first₀ address 2 words → ∀ part ∈ words, Asked levels part
  record {levels : Nat} {raw address handle len : Word} {words : List Word} {data : List UInt8} :
    Asked (levels + 1) raw → tag? d ctx raw = some .sym → place? d ctx .sym raw = some address →
    ctx.RowLies first₀ address 1 words → handle ∈ words →
    (first₀.globals.strBase + handle).toNat + 4 < wordCount →
    ctx.RecordLies first₀ (first₀.globals.strBase + handle) len data →
    (second₀.globals.strBase + handle).toNat + 4 < wordCount ∧
      ctx.RecordLies second₀ (second₀.globals.strBase + handle) len data

section Alike

variable {Asked : Nat → Word → Prop}

theorem exists_of_tagOfValue (scripted : Scripted d ctx) {raw : Word} {tag : Tag}
    (tagged : ctx.tagOfValue raw first = (.ok tag, first')) :
    ∃ code, first.callWord (function 1 (one (tagOf d))) [raw] = (.ok code, first') ∧
      ctx.tags.classify code = tag := by
  rw [DecodingContext.tagOfValue, scripted.tagOf] at tagged
  cases called : first.callWord (function 1 (one (tagOf d))) [raw] with
  | mk answer after =>
  rw [called] at tagged
  cases answer with
  | error e => cases congrArg Prod.fst tagged
  | ok code =>
    obtain rfl : after = first' := congrArg Prod.snd tagged
    exact ⟨code, rfl, Except.ok.inj (congrArg Prod.fst tagged)⟩

private theorem tagOfValue_of_call (scripted : Scripted d ctx) {raw : Word}
    {answer : Except Error Word}
    (called : inst.callWord (function 1 (one (tagOf d))) [raw] = (answer, next)) :
    ctx.tagOfValue raw inst = (answer.map ctx.tags.classify, next) := by
  rw [DecodingContext.tagOfValue, scripted.tagOf, called]

private theorem tag?_of_tagOfValue (scripted : Scripted d ctx) {raw : Word} {tag : Tag}
    (related : UpToFuel first₀ second₀ Fuel first second)
    (tagged : ctx.tagOfValue raw first = (.ok tag, first')) :
    tag? d ctx raw = some tag ∧ ∃ f', first' = first₀.withFuel f' := by
  obtain ⟨code, called, rfl⟩ := exists_of_tagOfValue scripted tagged
  obtain ⟨f, g, rfl, -, -⟩ := related
  obtain ⟨f', -, ended, rfl⟩ := exists_of_callWord (fun fuel => run_tagOf_eq raw _) called
  rw [tag?, eq_some_of_lookedUp ended]
  exact ⟨rfl, f', rfl⟩

private theorem place?_of_callWord {code raw address : Word} {tag : Tag}
    (coded : ctx.tags.codeOf tag = some code)
    (ended : lookedUp (rowPlace? d code raw) = .value address) :
    place? d ctx tag raw = some address := by
  rw [place?, coded]
  exact eq_some_of_lookedUp ended

private theorem exists_of_rowOf (scripted : Scripted d ctx) {raw : Word} {tag : Tag} {row : Row}
    {f : Option Nat} (read : ctx.rowOf tag raw (first₀.withFuel f) = (.ok row, first')) :
    ∃ width address words, tag.rowWidth = some width ∧ place? d ctx tag raw = some address ∧
      ctx.RowLies first₀ address width words ∧ row = ⟨tag, words⟩ := by
  obtain ⟨width, code, address, words, wide, coded, called, lies, rfl⟩ :=
    DecodingContext.exists_of_rowOf read
  rw [scripted.row] at called
  obtain ⟨f', -, ended, rfl⟩ := exists_of_callWord (fun fuel => run_row_eq code raw _) called
  exact ⟨width, address, words, wide, place?_of_callWord coded ended, lies, rfl⟩

/-- A live heap follows another one of the same guest as long as what a decode meets in the first lies in
the second with the same words and bytes. -/
theorem Alike.following (alike : Alike d ctx first₀ second₀ Asked) (scripted : Scripted d ctx)
    (paying : Paying second₀ Fuel Failed) :
    HeapReader.Following ctx.reader ctx.reader Asked (UpToFuel first₀ second₀ Fuel) Failed where
  sentinels _ := rfl
  tagOf := by
    intro levels raw first second asked related
    refine .of_outcomes fun tag first' tagged => ?_
    obtain ⟨code, called, rfl⟩ := exists_of_tagOfValue scripted tagged
    obtain ⟨ended, outcome⟩ := callWord_cases paying related (fun fuel => run_tagOf_eq raw _)
      (fun fuel => run_tagOf_eq raw _) called
    rcases outcome with ⟨second', related', called'⟩ | ⟨called', failed⟩
    · rw [ended] at called'
      exact .inl ⟨second', tagOfValue_of_call scripted called', related'⟩
    · exact .inr ⟨_, second, tagOfValue_of_call scripted called', failed⟩
  row := by
    intro levels raw tag _ first _ second asked related tagged _ related'
    refine .of_outcomes fun row first' read => ?_
    obtain ⟨classified, -⟩ := tag?_of_tagOfValue scripted related tagged
    obtain ⟨width, code, address, words, wide, coded, called, lies, rfl⟩ :=
      DecodingContext.exists_of_rowOf read
    rw [scripted.row] at called
    obtain ⟨ended, outcome⟩ := callWord_cases paying related' (fun fuel => run_row_eq code raw _)
      (fun fuel => run_row_eq code raw _) called
    have placed := place?_of_callWord coded ended
    rw [ended, ← scripted.row] at outcome
    rcases outcome with ⟨second', ⟨f, g, rfl, rfl, fuelled⟩, called'⟩ | ⟨called', failed⟩
    · have lies' : ctx.RowLies (second₀.withFuel g) address width words :=
        alike.row asked classified wide placed lies
      exact .inl ⟨_, DecodingContext.rowOf_of_lies wide coded called' lies',
        f, g, rfl, rfl, fuelled⟩
    · exact .inr ⟨_, second, DecodingContext.rowOf_of_error wide coded called', failed⟩
  parts := by
    intro levels raw car cdr first first' _ second row asked related tagged read cells
    obtain ⟨classified, f', rfl⟩ := tag?_of_tagOfValue scripted related tagged
    obtain ⟨width, address, words, wide, placed, lies, rfl⟩ := exists_of_rowOf scripted read
    cases wide
    obtain ⟨car_in, cdr_in⟩ := Row.mem_of_duo cells
    exact ⟨alike.parts asked classified placed lies car car_in,
      alike.parts asked classified placed lies cdr cdr_in⟩
  name := by
    intro levels raw handle first first' first'' second _ second'' row asked related tagged _ read _
      cell related''
    obtain ⟨classified, f', rfl⟩ := tag?_of_tagOfValue scripted related tagged
    obtain ⟨width, place, words, wide, placed, row_lies, rfl⟩ := exists_of_rowOf scripted read
    cases wide
    have handle_in := Row.mem_of_sym cell
    refine .of_outcomes fun leaf last named => ?_
    obtain ⟨address, len, data, called, starts, lies, rfl⟩ := DecodingContext.exists_of_askName named
    rw [scripted.string] at called
    have steady (inst : Instance Globals) (fuel : Option Nat) :
        Instance.run (one str [handle]) (inst.withFuel fuel) =
          (.value (inst.globals.strBase + handle), inst.withFuel fuel) := run_str handle _
    obtain ⟨ended, outcome⟩ :=
      callWord_cases paying related'' (steady first₀) (steady second₀) called
    cases ended
    rw [← scripted.string] at outcome
    rcases outcome with ⟨after, ⟨f, g, rfl, rfl, fuelled⟩, called'⟩ | ⟨called', failed⟩
    · obtain ⟨unwrapped, lies'⟩ :=
        alike.record asked classified placed row_lies handle_in starts lies
      exact .inl ⟨_, DecodingContext.askName_of_lies called' unwrapped lies', f, g, rfl, rfl, fuelled⟩
    · exact .inr ⟨_, _, DecodingContext.askName_of_error called', failed⟩

end Alike

end LispHost.Script
