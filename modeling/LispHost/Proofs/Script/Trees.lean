import LispHost.Proofs.Bridge.Pages
import LispHost.Proofs.Script.Building
import LispHost.Proofs.Script.Metering

/-!
Trees shown by a bridge.

Whatever the order in which a tree was built and whichever of its parts are shared, projecting its word shows
the tree with its leaves decoded, or finds that the fuel has run out. Only so many words of pairs can be told
apart; after that many calls they start over, and a word may show an earlier tree.
-/

set_option autoImplicit false

namespace LispHost.Script

open Bridge (RanOut)

variable {pages : Nat} {data : List (Nat × List UInt8)} {inst : Instance Globals}

/-- The leaf that a word is decoded to, if symbols have these names. -/
def shownLeaf (names : Word → String) (raw : Word) : Projection :=
  match variant raw with
  | 0 => .int raw
  | 2 => if raw = nilWord then .nil else if raw = trueWord then .true else .unknown .sys raw
  | 4 => .sym (names raw)
  | _ => .unknown (.unknown 7) raw

def Tree.shown (names : Word → String) : Tree → Projection
  | leaf raw => shownLeaf names raw
  | pair car cdr => .duo (car.shown names) (cdr.shown names)

/-- No leaf of the tree is a pair, and each symbol among them has its name. -/
def Tree.Readable (memory : Memory) (names : Word → String) (tree : Tree) : Prop :=
  ∀ raw ∈ tree.leaves, variant raw ≠ 3 ∧ (variant raw = 4 → SymbolNamed memory raw (names raw))

/-- The rows and the records of the symbols in the tree have no byte in common with the cells that so
many calls write. -/
def Tree.Apart (memory : Memory) (calls : Nat) (tree : Tree) : Prop :=
  ∀ raw ∈ tree.leaves, variant raw = 4 → CellsApart calls (symbolRow raw) 4 ∧
    CellsApart calls (symbolRecord memory raw) (4 + symbolLength memory raw)

/-- A readable tree stays so while its cells are written, if it keeps apart from them. -/
theorem Tree.Readable.of_built {fresh memory : Memory} {trees : List Tree} {names : Word → String}
    {tree : Tree} (readable : tree.Readable fresh names) (apart : tree.Apart fresh trees.length)
    (built : Built fresh memory trees) : tree.Readable memory names := by
  intro raw member
  obtain ⟨plain, named⟩ := readable raw member
  refine ⟨plain, fun symbol => ?_⟩
  obtain ⟨row_apart, record_apart⟩ := apart raw member symbol
  refine (named symbol).congr built.size (fun x low high => ?_) fun x low high => ?_
  · refine built.byte x fun inside => ?_
    have outside := row_apart x inside.1 inside.2
    omega
  · refine built.byte x fun inside => ?_
    have outside := record_apart x inside.1 inside.2
    omega

theorem Settled.exists_surveyedLeaf (settled : Settled pages data inst) {names : Word → String}
    {raw : Word} (plain : variant raw ≠ 3)
    (named : variant raw = 4 → SymbolNamed inst.memory raw (names raw)) :
    ∃ found, HeapReader.SurveyedLeaf (usualContext pages data).reader raw inst found inst ∧
      found.shown = shownLeaf names raw := by
  have asked : (usualContext pages data).reader.tagOf raw inst = (.ok (tagOfVariant raw), inst) :=
    settled.tagOfValue raw
  rw [tagOfVariant] at asked
  unfold shownLeaf
  generalize variants : variant raw = n at asked plain named
  -- the variants from 0 to 4, then all others
  rcases n with _ | _ | _ | _ | _ | n
  · exact ⟨_, .int asked, rfl⟩
  · exact ⟨_, .unknown asked, rfl⟩
  · by_cases isNil : raw = nilWord
    · exact ⟨_, .nil asked isNil, (if_pos isNil).symm⟩
    · by_cases isTrue : raw = trueWord
      · refine ⟨_, .true asked isNil isTrue, ?_⟩
        simp only [if_neg isNil, if_pos isTrue]
        rfl
      · refine ⟨_, .stray asked isNil isTrue, ?_⟩
        simp only [if_neg isNil, if_neg isTrue]
        rfl
  · exact absurd rfl plain
  · have name := named rfl
    have handled : (usualContext pages data).reader.askHandle raw inst =
        (.ok (inst.memory.wordAt (symbolRow raw)), inst) := by
      simp only [HeapReader.askHandle, DecodingContext.reader, settled.rowOf_sym name.row_le]
      rfl
    exact ⟨_, .sym asked handled (settled.stringOf name), rfl⟩
  · exact ⟨_, .unknown asked, rfl⟩

theorem Settled.tagOf_pairWord (settled : Settled pages data inst) {k : Nat} (small : k < 2 ^ 28) :
    (usualContext pages data).reader.tagOf (pairWord k) inst = (.ok .duo, inst) := by
  have tagged := settled.tagOfValue (pairWord k)
  rw [tagOfVariant, variant_pairWord small] at tagged
  exact tagged

theorem Settled.askParts_pairWord (settled : Settled pages data inst) {k : Nat} (small : k < 2 ^ 28)
    (within : 0x100 + 8 * k + 8 ≤ inst.memory.size) :
    (usualContext pages data).reader.askParts (pairWord k) inst =
      (.ok (inst.memory.wordAt (0x100 + 8 * k), inst.memory.wordAt (0x100 + 8 * k + 4)), inst) := by
  have number : (pairWord k).toNat % 2 ^ 28 = k := by
    rw [toNat_pairWord small]
    omega
  simp only [HeapReader.askParts, DecodingContext.reader,
    settled.rowOf_duo (congrArg (0x100 + 8 * ·) number) within]
  rfl

/-- A word that holds a readable tree is surveyed as the tree. The pairs above it have greater numbers
than those in the tree, so no pair is its own ancestor and no cycle is cut. -/
theorem Settled.exists_surveyed (settled : Settled pages data inst) {names : Word → String}
    {count : Nat} (few : count ≤ 2 ^ 28) (inside : 0x100 + 8 * count ≤ inst.memory.size) {raw : Word}
    {tree : Tree} (holds : Holds inst.memory count raw tree)
    (readable : tree.Readable inst.memory names) (detectCycles : Bool) {levels : Nat}
    (shallow : tree.depth < levels) (path : List Word)
    (above : ∀ word ∈ path, ∃ k, count ≤ k ∧ k < 2 ^ 28 ∧ word = pairWord k) :
    ∃ found, HeapReader.Surveyed (usualContext pages data).reader detectCycles levels path raw inst
        found inst ∧ found.shown = tree.shown names := by
  obtain ⟨levels, rfl⟩ : ∃ fewer, levels = fewer + 1 := ⟨levels - 1, by omega⟩
  induction holds generalizing levels path with
  | leaf count raw =>
    obtain ⟨plain, named⟩ := readable raw (List.mem_singleton.mpr rfl)
    obtain ⟨found, leaf, shown⟩ := settled.exists_surveyedLeaf plain named
    exact ⟨found, .leaf path leaf, shown⟩
  | @pair count k car cdr k_lt _ _ car_ih cdr_ih =>
    have small : k < 2 ^ 28 := by omega
    have asked := settled.tagOf_pairWord small
    have parted := settled.askParts_pairWord small (by omega)
    have fresh : pairWord k ∉ path := by
      intro member
      obtain ⟨other, other_ge, other_small, same⟩ := above _ member
      have := pairWord_inj small other_small same
      omega
    have above_parts : ∀ word ∈ pairWord k :: path, ∃ other, k ≤ other ∧ other < 2 ^ 28 ∧
        word = pairWord other := by
      intro word member
      rcases List.mem_cons.mp member with rfl | member
      · exact ⟨k, Nat.le_refl k, small, rfl⟩
      · obtain ⟨other, other_ge, other_small, same⟩ := above word member
        exact ⟨other, by omega, other_small, same⟩
    have parts_readable : car.Readable inst.memory names ∧ cdr.Readable inst.memory names :=
      ⟨fun raw member => readable raw (List.mem_append_left _ member),
        fun raw member => readable raw (List.mem_append_right _ member)⟩
    have parts_shallow : car.depth < levels ∧ cdr.depth < levels := by
      simp only [Tree.depth] at shallow
      omega
    obtain ⟨levels, rfl⟩ : ∃ fewer, levels = fewer + 1 := ⟨levels - 1, by omega⟩
    have fewer : k ≤ 2 ^ 28 := small.le
    have cells_inside : 0x100 + 8 * k ≤ inst.memory.size := by omega
    obtain ⟨first, first_rules, first_shown⟩ :=
      car_ih fewer cells_inside parts_readable.1 _ above_parts levels parts_shallow.1
    obtain ⟨second, second_rules, second_shown⟩ :=
      cdr_ih fewer cells_inside parts_readable.2 _ above_parts levels parts_shallow.2
    refine ⟨.duo (pairWord k) first second, .duo asked (fun repeated => fresh repeated.2) parted
      first_rules second_rules, ?_⟩
    rw [Survey.shown, first_shown, second_shown, Tree.shown]

/-- Decoding a word that holds a readable tree shows the tree and leaves the instance as it is. -/
theorem Settled.decode_of_holds (settled : Settled pages data inst) {names : Word → String}
    {count : Nat} (few : count ≤ 2 ^ 28) (inside : 0x100 + 8 * count ≤ inst.memory.size) {raw : Word}
    {tree : Tree} (holds : Holds inst.memory count raw tree)
    (readable : tree.Readable inst.memory names) {options : DecodeOptions}
    (shallow : tree.depth ≤ options.clamped.maxDepth) :
    (usualContext pages data).decode options raw inst = (.ok (tree.shown names), inst) := by
  have above : ∀ word ∈ ([] : List Word), ∃ k, count ≤ k ∧ k < 2 ^ 28 ∧ word = pairWord k :=
    fun _ member => absurd member List.not_mem_nil
  obtain ⟨found, rules, shown⟩ := settled.exists_surveyed few inside holds readable
    options.detectCycles (Nat.lt_succ_of_le shallow) [] above
  rw [DecodingContext.decode, HeapReader.decode_eq_survey, HeapReader.survey, rules.surveyAt_eq,
    Except.map, shown]

/-- Projecting a word that holds a readable tree shows the tree, unless the fuel runs out. -/
theorem project_of_holds {bridge : Bridge Globals}
    (settled : Settled pages data (bridge.inst.withFuel none))
    (context : bridge.context = usualContext pages data) {names : Word → String} {count : Nat}
    (few : count ≤ 2 ^ 28) (inside : 0x100 + 8 * count ≤ bridge.inst.memory.size) {word : Word}
    {tree : Tree} (holds : Holds bridge.inst.memory count word tree)
    (readable : tree.Readable bridge.inst.memory names)
    (shallow : tree.depth ≤ bridge.options.clamped.maxDepth) :
    bridge.inst.fuel ≠ none ∧ RanOut (bridge.project word) ∨
      ∃ fuel, (bridge.inst.fuel = none ↔ fuel = none) ∧
        bridge.project word = (.ok (tree.shown names), bridge.withFuel fuel) := by
  have free : (usualContext pages data).decode bridge.options word (bridge.inst.withFuel none) =
      (.ok (tree.shown names), bridge.inst.withFuel none) :=
    settled.decode_of_holds few inside holds readable shallow
  have scripted : Scripted (.usual pages data) (usualContext pages data) := ⟨rfl, rfl, rfl⟩
  rcases scripted.decode_metered (congrArg Prod.fst free) with
    ⟨fuel, metering, decoded⟩ | ⟨metered, decoded⟩
  · rw [← context] at decoded
    exact .inr ⟨fuel, metering, Bridge.project_of_decode decoded⟩
  · rw [← context] at decoded
    rw [Bridge.project_of_decode decoded]
    exact .inl ⟨metered, rfl, rfl⟩

/-- The calls of a plan on a fresh bridge make its trees, unless the fuel runs out. -/
theorem build_of_start {config : Config} {bridge : Bridge Globals} (usual : config.abi = .default)
    (started : Bridge.start config (Description.usual pages data).guest = .ok bridge)
    {plan : List (Part × Part)} {trees : List Tree} (makes : treesOf [] plan = some trees)
    (inside : 0x100 + 8 * plan.length ≤ bridge.inst.memory.size) :
    ∃ answer built, build bridge [] plan = some (answer, built) ∧
      (bridge.inst.fuel ≠ none ∧ RanOut (answer, built) ∨
        ∃ later rest, answer = .ok (pairWords plan.length) ∧
          built = afterPairs bridge later plan.length rest ∧
          (bridge.inst.fuel = none ↔ rest = none) ∧ Built bridge.inst.memory later trees) := by
  obtain ⟨settled, countless, -⟩ := fresh_of_start usual started
  have addressed : bridge.inst.memory.size ≤ wordCount :=
    (Bridge.standing_of_start started).paged.size_le
  have nothing : Built bridge.inst.memory bridge.inst.memory [] :=
    ⟨rfl, fun _ _ => rfl, fun stands => by cases stands⟩
  have start : bridge = afterPairs bridge bridge.inst.memory 0 bridge.inst.fuel := by
    rw [afterPairs, show UInt32.ofNat 0 = 0 from rfl, ← countless]
  have built := build_afterPairs settled inside (inside.trans addressed) (Nat.zero_add _) Iff.rfl
    nothing makes
  rw [List.length_nil, ← start] at built
  exact built

/-- Projecting a word that holds a readable tree after calls that have made pairs. -/
theorem project_afterPairs {config : Config} {bridge : Bridge Globals} (usual : config.abi = .default)
    (started : Bridge.start config (Description.usual pages data).guest = .ok bridge)
    {later : Memory} {trees : List Tree} (after : Built bridge.inst.memory later trees) (calls : Nat)
    (rest : Option Nat) {names : Word → String} {count : Nat} (few : count ≤ 2 ^ 28)
    (inside : 0x100 + 8 * count ≤ bridge.inst.memory.size) {word : Word} {tree : Tree}
    (holds : Holds later count word tree) (readable : tree.Readable later names)
    (shallow : tree.depth ≤ bridge.options.maxDepth) :
    rest ≠ none ∧ RanOut ((afterPairs bridge later calls rest).project word) ∨
      ∃ fuel, (rest = none ↔ fuel = none) ∧ (afterPairs bridge later calls rest).project word =
        (.ok (tree.shown names), afterPairs bridge later calls fuel) := by
  obtain ⟨settled, -, context, -⟩ := fresh_of_start usual started
  have settled_after :
      Settled pages data ((afterPairs bridge later calls rest).inst.withFuel none) :=
    ⟨settled.guest, rfl, settled.strBase⟩
  have cells : 0x100 + 8 * count ≤ (afterPairs bridge later calls rest).inst.memory.size := by
    change _ ≤ later.size
    rw [after.size]
    exact inside
  have bound : bridge.options.clamped.maxDepth = bridge.options.maxDepth := by
    rw [Bridge.options_of_start started, DecodeOptions.clamped_clamped]
  exact project_of_holds settled_after context few cells holds readable (bound.symm ▸ shallow)

/-- Every tree can be built on a fresh bridge of a guest in the usual layout, and whatever the order of
the calls and whichever parts are shared, projecting the word of a tree then shows the tree with its
leaves decoded. The cells that the calls write have to lie within the memory and apart from the symbols
of the tree, the tree must not be deeper than the bound of the bridge, which may detect cycles or
not, and its word must be that of one of the first calls, as many as the index bits of a word tell apart. With
metering on, the fuel may run out at a call or in the projection; without, nothing but the pairs has changed. -/
theorem project_built {config : Config} {bridge : Bridge Globals} (usual : config.abi = .default)
    (started : Bridge.start config (Description.usual pages data).guest = .ok bridge) :
    (∀ tree, ∃ plan trees top, treesOf [] plan = some trees ∧
      Part.find? .leaf trees top = some tree) ∧
    ∀ plan trees, treesOf [] plan = some trees →
      0x100 + 8 * plan.length ≤ bridge.inst.memory.size →
      ∃ answer built, build bridge [] plan = some (answer, built) ∧
        (config.limits.maxFuel ≠ none ∧ RanOut (answer, built) ∨
          ∃ words, answer = .ok words ∧
            ∀ top tree names, Part.find? .leaf trees top = some tree →
              top.calls ≤ 2 ^ 28 →
              tree.depth ≤ bridge.options.maxDepth →
              tree.Readable bridge.inst.memory names →
              tree.Apart bridge.inst.memory plan.length →
              ∃ word, Part.find? id words top = some word ∧
                (config.limits.maxFuel ≠ none ∧ RanOut (built.project word) ∨
                  ∃ fuel, built.project word = (.ok (tree.shown names), built.withFuel fuel) ∧
                    (config.limits.maxFuel = none → built.withFuel fuel = built))) := by
  obtain ⟨-, -, -, metered⟩ := fresh_of_start usual started
  refine ⟨fun tree => ?_, fun plan trees makes inside => ?_⟩
  · obtain ⟨plan, more, top, made, stands⟩ := exists_treesOf tree []
    exact ⟨plan, more, top, made, stands⟩
  obtain ⟨answer, built, ran, outcome⟩ := build_of_start usual started makes inside
  refine ⟨answer, built, ran, ?_⟩
  rcases outcome with ⟨fuelled, out⟩ | ⟨later, rest, rfl, rfl, metering, after⟩
  · exact .inl ⟨mt metered.mp fuelled, out⟩
  refine .inr ⟨_, rfl, fun top tree names stands few shallow readable apart => ?_⟩
  have length : trees.length = plan.length := (length_treesOf makes).trans (Nat.zero_add _)
  obtain ⟨there, word, word_stands, holds⟩ := after.find? stands
  rw [length] at word_stands
  refine ⟨word, word_stands, ?_⟩
  have cells : 0x100 + 8 * top.calls ≤ bridge.inst.memory.size := by omega
  rw [← length] at apart
  rcases project_afterPairs usual started after plan.length rest few cells holds
    (readable.of_built apart after) shallow with ⟨fuelled, out⟩ | ⟨fuel, same, projected⟩
  · exact .inl ⟨fun free => fuelled (metering.mp (metered.mp free)), out⟩
  · refine .inr ⟨fuel, projected, fun free => ?_⟩
    have none_left : rest = none := metering.mp (metered.mp free)
    rw [same.mp none_left, none_left]
    rfl

def onePageMemory : Memory :=
  (Instance.writeSegments (.zeroed 65536) defaultSegments).getD (.zeroed 0)

/-- A fresh bridge of a guest with one page, with the usual settings. -/
def onePageBridge : Bridge Globals where
  inst :=
    { guest := (Description.usual 1 []).guest, limits := some .default, memory := onePageMemory
      table := 0, globals := ⟨0, 0x1000, 1, 0xffffffff⟩
      host := { SyscallHost.new .default with binding := some "memory" }, fuel := none }
  context := usualContext 1 []
  abi := .default
  options := .default

/-- Three pairs; the last one has the first as its first part and as the tail of its second part. -/
def sharingPlan : List (Part × Part) :=
  [(.word 1, .word trueWord), (.word 0x40000001, .made 0), (.made 0, .made 1)]

def sharingTrees : List Tree :=
  let shared : Tree := .pair (.leaf 1) (.leaf trueWord)
  [shared, .pair (.leaf 0x40000001) shared, .pair shared (.pair (.leaf 0x40000001) shared)]

def sharingTree : Tree :=
  .pair (.pair (.leaf 1) (.leaf trueWord))
    (.pair (.leaf 0x40000001) (.pair (.leaf 1) (.leaf trueWord)))

/-- A pair that is used twice is shown twice. -/
theorem project_built_sharing :
    Config.default.limits.maxFuel = none ∧ Config.default.abi = .default ∧
    Bridge.start Config.default (Description.usual 1 []).guest = .ok onePageBridge ∧
    treesOf [] sharingPlan = some sharingTrees ∧
    0x100 + 8 * sharingPlan.length ≤ onePageBridge.inst.memory.size ∧
    Part.find? .leaf sharingTrees (.made 2) = some sharingTree ∧
    sharingTree.depth ≤ onePageBridge.options.maxDepth ∧
    sharingTree.Readable onePageBridge.inst.memory (fun _ => "bar") ∧
    sharingTree.Apart onePageBridge.inst.memory sharingPlan.length ∧
    ∃ words built word, build onePageBridge [] sharingPlan = some (.ok words, built) ∧
      Part.find? id words (.made 2) = some word ∧
      built.project word = (.ok (.duo (.duo (.int 1) .true)
        (.duo (.sym "bar") (.duo (.int 1) .true))), built) := by
  have started : Bridge.start Config.default (Description.usual 1 []).guest = .ok onePageBridge :=
    rfl
  have makes : treesOf [] sharingPlan = some sharingTrees := rfl
  have size : onePageBridge.inst.memory.size = 65536 := rfl
  have inside : 0x100 + 8 * sharingPlan.length ≤ onePageBridge.inst.memory.size := by
    rw [size]
    decide
  have stands : Part.find? .leaf sharingTrees (.made 2) = some sharingTree := rfl
  have shallow : sharingTree.depth ≤ onePageBridge.options.maxDepth := by decide
  have bar : SymbolNamed onePageBridge.inst.memory 0x40000001 "bar" := by
    constructor <;> decide +kernel
  have leaves : ∀ raw ∈ sharingTree.leaves,
      raw = 0x40000001 ∨ variant raw = 0 ∨ variant raw = 2 := by
    have listed : sharingTree.leaves = [1, trueWord, 0x40000001, 1, trueWord] := rfl
    have int : variant 1 = 0 := rfl
    have sys : variant trueWord = 2 := rfl
    simp [listed, int, sys]
  have readable : sharingTree.Readable onePageBridge.inst.memory fun _ => "bar" := by
    intro raw member
    rcases leaves raw member with rfl | int | sys
    · exact ⟨by decide, fun _ => bar⟩
    · exact ⟨by omega, fun symbol => by omega⟩
    · exact ⟨by omega, fun symbol => by omega⟩
  have row : symbolRow 0x40000001 = 0x804 := rfl
  have record : symbolRecord onePageBridge.inst.memory 0x40000001 = 0x1008 := by decide +kernel
  have apart : sharingTree.Apart onePageBridge.inst.memory sharingPlan.length := by
    have three : sharingPlan.length = 3 := rfl
    intro raw member symbol
    obtain rfl : raw = 0x40000001 := by
      rcases leaves raw member with same | int | sys <;> omega
    rw [row, record, three]
    exact ⟨fun x low high => .inl (by omega), fun x low high => .inl (by omega)⟩
  obtain ⟨answer, built, ran, ⟨metered, -⟩ | ⟨words, rfl, shows⟩⟩ :=
    (project_built rfl started).2 sharingPlan sharingTrees makes inside
  · exact absurd rfl metered
  obtain ⟨word, found, ⟨metered, -⟩ | ⟨fuel, projected, unchanged⟩⟩ :=
    shows _ _ _ stands (by decide) shallow readable apart
  · exact absurd rfl metered
  rw [unchanged rfl] at projected
  exact ⟨rfl, rfl, started, makes, inside, stands, shallow, readable, apart, words, built, word, ran,
    found, projected⟩

/-! ### Where a tree is not shown -/

/-- Settings with a limit on pages that a great many cells need, and without metering. -/
def vastConfig : Config :=
  { Config.default with limits := { Limits.default with maxMemoryPages := 40000 } }

def crowdedPlan (count : Nat) : List (Part × Part) :=
  List.replicate count (.word 0, .word 0) ++ [(.word 1, .word 0)]

def crowdedTrees (count : Nat) : List Tree :=
  List.replicate count (.pair (.leaf 0) (.leaf 0)) ++ [.pair (.leaf 1) (.leaf 0)]

theorem treesOf_crowdedPlan (made : List Tree) (count : Nat) :
    treesOf made (crowdedPlan count) = some (made ++ crowdedTrees count) := by
  rw [crowdedPlan, crowdedTrees]
  induction count generalizing made with
  | zero => rfl
  | succ count ih =>
    have rest := ih (made ++ [.pair (.leaf 0) (.leaf 0)])
    rw [List.append_assoc] at rest
    exact rest

theorem length_crowdedPlan (count : Nat) : (crowdedPlan count).length = count + 1 := by
  rw [crowdedPlan, List.length_append, List.length_replicate, List.length_singleton]

def fuelled (fuel : Nat) : Config :=
  { Config.default with limits := { Limits.default with maxFuel := some fuel } }

/-- One pair after the other, each with the pair before it for both its parts. -/
def doublingPlan : List (Part × Part) :=
  (.word 1, .word 1) :: (List.range 8).map fun call => (.made call, .made call)

def doubled : Nat → Tree
  | 0 => .leaf 1
  | count + 1 => .pair (doubled count) (doubled count)

theorem eq_one_of_mem_leaves_doubled {count : Nat} {raw : Word}
    (member : raw ∈ (doubled count).leaves) : raw = 1 := by
  induction count with
  | zero => exact List.mem_singleton.mp member
  | succ count ih => exact (List.mem_append.mp member).elim ih ih

theorem classified_doubled (count : Nat) (names : Word → String) :
    classified ((doubled count).shown names) + 1 = 2 ^ (count + 1) := by
  induction count with
  | zero => rfl
  | succ count ih =>
    change 1 + classified ((doubled count).shown names) +
      classified ((doubled count).shown names) + 1 = _
    rw [Nat.pow_succ 2 (count + 1), ← ih]
    omega

/-- Trees of small integers are readable in any memory, and nothing of them can be written over. -/
theorem readable_of_ints {tree : Tree} (ints : ∀ raw ∈ tree.leaves, variant raw = 0) (memory : Memory)
    (names : Word → String) (calls : Nat) : tree.Readable memory names ∧ tree.Apart memory calls := by
  constructor
  · intro raw member
    have int := ints raw member
    exact ⟨by omega, fun symbol => by omega⟩
  · intro raw member symbol
    have int := ints raw member
    omega

private theorem crowded_shows_another {count : Nat} (many : count = 2 ^ 28) :
    ∃ bridge words built word,
      Bridge.start vastConfig (Description.usual 40000 []).guest = .ok bridge ∧
      treesOf [] (crowdedPlan count) = some (crowdedTrees count) ∧
      0x100 + 8 * (crowdedPlan count).length ≤ bridge.inst.memory.size ∧
      Part.find? .leaf (crowdedTrees count) (.made count) = some (.pair (.leaf 1) (.leaf 0)) ∧
      build bridge [] (crowdedPlan count) = some (.ok words, built) ∧
      Part.find? id words (.made count) = some word ∧
      built.project word = (.ok (.duo (.int 0) (.int 0)), built) := by
  obtain ⟨bridge, started, size, free, options⟩ :
      ∃ bridge, Bridge.start vastConfig (Description.usual 40000 []).guest = .ok bridge ∧
        bridge.inst.memory.size = 2621440000 ∧ bridge.inst.fuel = none ∧
        bridge.options = ⟨1024, true⟩ := ⟨_, rfl, rfl, rfl, rfl⟩
  have makes : treesOf [] (crowdedPlan count) = some (crowdedTrees count) :=
    treesOf_crowdedPlan [] count
  have calls : (crowdedPlan count).length = count + 1 := length_crowdedPlan count
  have inside : 0x100 + 8 * (crowdedPlan count).length ≤ bridge.inst.memory.size := by
    rw [calls, size]
    omega
  have last : (crowdedTrees count)[count]? = some (.pair (.leaf 1) (.leaf 0)) := by
    rw [crowdedTrees, List.getElem?_append_right (by simp)]
    simp
  have first : (crowdedTrees count)[0]? = some (.pair (.leaf 0) (.leaf 0)) := by
    rw [crowdedTrees, List.getElem?_append_left (by simp; omega), List.getElem?_replicate,
      if_pos (by omega)]
  obtain ⟨answer, built, ran, ⟨fuelled, -⟩ | ⟨later, rest, rfl, rfl, metering, after⟩⟩ :=
    build_of_start rfl started makes inside
  · exact absurd free fuelled
  -- The word of the last call is that of the first one.
  have word : pairWord count = pairWord 0 := by
    rw [many]
    exact pairWord_two_pow_add (k := 0) (Nat.two_pow_pos 28)
  have found : Part.find? id (pairWords (crowdedPlan count).length) (.made count) =
      some (pairWord 0) := by
    rw [calls, Part.find?, pairWords, List.getElem?_map, List.getElem?_range (Nat.lt_succ_self count),
      Option.map_some, word]
  have ints : ∀ raw ∈ (Tree.pair (.leaf 0) (.leaf 0)).leaves, variant raw = 0 := by
    have listed : (Tree.pair (.leaf 0) (.leaf 0)).leaves = [0, 0] := rfl
    have int : variant 0 = 0 := rfl
    simp [listed, int]
  have cells : 0x100 + 8 * 1 ≤ bridge.inst.memory.size := by omega
  have shallow : (Tree.pair (.leaf 0) (.leaf 0)).depth ≤ bridge.options.maxDepth := by
    rw [options]
    decide
  have none_left : rest = none := metering.mp free
  rcases project_afterPairs rfl started after (crowdedPlan count).length rest (by omega) cells
    (after.holds first) (readable_of_ints ints _ (fun _ => "") 0).1 shallow with
    ⟨fuelled, -⟩ | ⟨fuel, same, projected⟩
  · exact absurd none_left fuelled
  · rw [same.mp none_left] at projected
    refine ⟨bridge, _, _, pairWord 0, started, makes, inside, last, ran, found, ?_⟩
    rw [projected, none_left]
    rfl

/-- The projection of a doubled tree has too many words for the fuel that is left. -/
private theorem doubled_runs_out :
    ∃ bridge words built word,
      Bridge.start (fuelled 1000) (Description.usual 1 []).guest = .ok bridge ∧
      treesOf [] doublingPlan = some ((List.range 9).map fun call => doubled (call + 1)) ∧
      0x100 + 8 * doublingPlan.length ≤ bridge.inst.memory.size ∧
      build bridge [] doublingPlan = some (.ok words, built) ∧
      Part.find? id words (.made 8) = some word ∧ RanOut (built.project word) := by
  obtain ⟨bridge, started, size, options, answered⟩ :
      ∃ bridge, Bridge.start (fuelled 1000) (Description.usual 1 []).guest = .ok bridge ∧
        bridge.inst.memory.size = 65536 ∧ bridge.options = ⟨1024, true⟩ ∧
        (build bridge [] doublingPlan).map (fun outcome => (outcome.1, outcome.2.remainingFuel)) =
          some (.ok (pairWords 9), some 990) := ⟨_, rfl, rfl, rfl, rfl⟩
  obtain ⟨-, -, context, -⟩ := fresh_of_start rfl started
  have makes : treesOf [] doublingPlan =
      some ((List.range 9).map fun call => doubled (call + 1)) := rfl
  have inside : 0x100 + 8 * doublingPlan.length ≤ bridge.inst.memory.size := by
    rw [size]
    decide
  obtain ⟨answer, built, ran, outcome⟩ := build_of_start rfl started makes inside
  rw [ran, Option.map_some] at answered
  obtain ⟨rfl, left⟩ := Prod.mk.inj (Option.some.inj answered)
  obtain ⟨-, failed, -⟩ | ⟨later, rest, -, rfl, -, after⟩ := outcome
  · cases failed
  refine ⟨bridge, _, _, pairWord 8, started, makes, inside, ran, rfl, ?_⟩
  have ints : ∀ raw ∈ (doubled 9).leaves, variant raw = 0 := fun raw member =>
    eq_one_of_mem_leaves_doubled member ▸ rfl
  have stands : ((List.range 9).map fun call => doubled (call + 1))[8]? = some (doubled 9) := rfl
  have cells : 0x100 + 8 * 9 ≤ bridge.inst.memory.size := by
    rw [size]
    decide
  have shallow : (doubled 9).depth ≤ bridge.options.maxDepth := by
    rw [options]
    decide
  rcases project_afterPairs rfl started after doublingPlan.length rest (by decide) cells
    (after.holds stands) (readable_of_ints ints _ (fun _ => "") 0).1 shallow with
    ⟨-, out⟩ | ⟨fuel, -, projected⟩
  · exact out
  · -- A projection that succeeds has paid for each of its words.
    have scripted : Scripted (.usual 1 []) (usualContext 1 []) := ⟨rfl, rfl, rfl⟩
    have decoded := Bridge.decode_of_project projected
    change bridge.context.decode _ _ _ = _ at decoded
    rw [context] at decoded
    obtain ⟨g, -, price⟩ := scripted.exists_of_decode left decoded
    have words := classified_doubled 9 fun _ => ""
    omega

/-- Two ways in which a tree that is built is not shown. After two to the power of 28 pairs the words start over,
and the word of the next pair shows the first one. And with metering on, the projection of a tree whose pairs
are shared may take more fuel than their calls have left. -/
theorem exists_built_not_shown :
    (∃ bridge words built word,
      Bridge.start vastConfig (Description.usual 40000 []).guest = .ok bridge ∧
      treesOf [] (crowdedPlan (2 ^ 28)) = some (crowdedTrees (2 ^ 28)) ∧
      0x100 + 8 * (crowdedPlan (2 ^ 28)).length ≤ bridge.inst.memory.size ∧
      Part.find? .leaf (crowdedTrees (2 ^ 28)) (.made (2 ^ 28)) = some (.pair (.leaf 1) (.leaf 0)) ∧
      build bridge [] (crowdedPlan (2 ^ 28)) = some (.ok words, built) ∧
      Part.find? id words (.made (2 ^ 28)) = some word ∧
      built.project word = (.ok (.duo (.int 0) (.int 0)), built)) ∧
    ∃ bridge words built word,
      Bridge.start (fuelled 1000) (Description.usual 1 []).guest = .ok bridge ∧
      treesOf [] doublingPlan = some ((List.range 9).map fun call => doubled (call + 1)) ∧
      0x100 + 8 * doublingPlan.length ≤ bridge.inst.memory.size ∧
      build bridge [] doublingPlan = some (.ok words, built) ∧
      Part.find? id words (.made 8) = some word ∧ RanOut (built.project word) :=
  ⟨crowded_shows_another rfl, doubled_runs_out⟩

end LispHost.Script
