import LispHost.Proofs.Script.Layout

/-!
Trees in the cells of a scripted guest.

A tree is built from its leaves upward, one call for each pair, in any order that makes the parts of a
pair before the pair. Equal parts may be made once and used again. Every call writes a cell of its own,
so the cells of the pairs made before are not touched, and the word that a call answers holds its tree
for good.
-/

set_option autoImplicit false

namespace LispHost

variable {σ : Type}

def Bridge.withFuel (bridge : Bridge σ) (fuel : Option Nat) : Bridge σ :=
  { bridge with inst := bridge.inst.withFuel fuel }

/-- An operation has failed for want of fuel, and there is none left. -/
def Bridge.RanOut {α : Type} (outcome : Except Error α × Bridge σ) : Prop :=
  outcome.1 = .error (.execution (.trap .outOfFuel)) ∧ outcome.2.remainingFuel = some 0

namespace Script

open Bridge (RanOut)
open Instance (spend?)

variable {pages : Nat} {data : List (Nat × List UInt8)} {inst : Instance Globals}

inductive Tree where
  | leaf (raw : Word)
  | pair (car cdr : Tree)
  deriving DecidableEq, Repr

namespace Tree

/-- The nesting depth; leaves have depth 0. -/
def depth : Tree → Nat
  | leaf _ => 0
  | pair car cdr => 1 + max car.depth cdr.depth

def leaves : Tree → List Word
  | leaf raw => [raw]
  | pair car cdr => car.leaves ++ cdr.leaves

end Tree

/-! ### Building -/

/-- A part of a pair that is to be made: a word as it stands, or the pair that some earlier call made. -/
inductive Part where
  | word (raw : Word)
  | made (call : Nat)
  deriving DecidableEq, Repr

/-- What a part stands for, given what a word stands for and what the calls made so far. -/
def Part.find? {α : Type} (ofWord : Word → α) (made : List α) : Part → Option α
  | word raw => some (ofWord raw)
  | .made call => made[call]?

def Part.calls : Part → Nat
  | word _ => 0
  | made call => call + 1

def treesOf (made : List Tree) : List (Part × Part) → Option (List Tree)
  | [] => some made
  | (car, cdr) :: rest => do
    let first ← car.find? .leaf made
    let second ← cdr.find? .leaf made
    treesOf (made ++ [.pair first second]) rest

/-- Make pairs one call after the other, up to the first call that fails; answers the words of all pairs, if
each call answers one. -/
def build (bridge : Bridge σ) (made : List Word) :
    List (Part × Part) → Option (Except Error (List Word) × Bridge σ)
  | [] => some (.ok made, bridge)
  | (car, cdr) :: rest => do
    let first ← car.find? id made
    let second ← cdr.find? id made
    match bridge.call "wisp_cons" [first, second] with
    | (.ok [word], bridge) => build bridge (made ++ [word]) rest
    | (.ok _, _) => none
    | (.error e, bridge) => some (.error e, bridge)

theorem length_treesOf {made trees : List Tree} {plan : List (Part × Part)}
    (makes : treesOf made plan = some trees) : trees.length = made.length + plan.length := by
  induction plan generalizing made with
  | nil =>
    cases makes
    rfl
  | cons step rest ih =>
    obtain ⟨car, -, makes⟩ := Option.bind_eq_some_iff.mp makes
    obtain ⟨cdr, -, makes⟩ := Option.bind_eq_some_iff.mp makes
    rw [ih makes, List.length_append, List.length_singleton, List.length_cons]
    omega

theorem treesOf_append (made : List Tree) (plan rest : List (Part × Part)) :
    treesOf made (plan ++ rest) = (treesOf made plan).bind fun made => treesOf made rest := by
  induction plan generalizing made with
  | nil => rfl
  | cons step plan ih =>
    obtain ⟨car, cdr⟩ := step
    cases first : car.find? .leaf made with
    | none => simp [treesOf, first]
    | some first_tree =>
      cases second : cdr.find? .leaf made with
      | none => simp [treesOf, first, second]
      | some second_tree => simp [treesOf, first, second, ih]

theorem Part.find?_append {α : Type} {ofWord : Word → α} {made : List α} {part : Part} {found : α}
    (stands : part.find? ofWord made = some found) (more : List α) :
    part.find? ofWord (made ++ more) = some found := by
  cases part with
  | word raw => exact stands
  | made call =>
    rw [find?] at stands ⊢
    rw [List.getElem?_append_left (List.getElem?_eq_some_iff.mp stands).1, stands]

theorem exists_treesOf (tree : Tree) (made : List Tree) :
    ∃ plan more top, treesOf made plan = some (made ++ more) ∧
      Part.find? .leaf (made ++ more) top = some tree := by
  induction tree generalizing made with
  | leaf raw => exact ⟨[], [], .word raw, by rw [List.append_nil, treesOf], rfl⟩
  | pair car cdr car_ih cdr_ih =>
    obtain ⟨car_plan, car_more, first, car_made, first_stands⟩ := car_ih made
    obtain ⟨cdr_plan, cdr_more, second, cdr_made, second_stands⟩ := cdr_ih (made ++ car_more)
    have first_kept := Part.find?_append first_stands cdr_more
    refine ⟨car_plan ++ (cdr_plan ++ [(first, second)]), car_more ++ (cdr_more ++ [.pair car cdr]),
      .made (made ++ car_more ++ cdr_more).length, ?_, ?_⟩
    · simp only [treesOf_append, car_made, cdr_made, Option.bind_some, treesOf, first_kept,
        second_stands, bind]
      simp only [List.append_assoc]
    · rw [Part.find?, ← List.append_assoc, ← List.append_assoc]
      exact List.getElem?_concat_length

/-! ### Cells -/

/-- A range has no byte in common with the cells that so many calls write. -/
def CellsApart (calls address length : Nat) : Prop :=
  ∀ x, 0x100 ≤ x → x < 0x100 + 8 * calls → x < address ∨ address + length ≤ x

/-- The word holds the tree in the first cells: its leaves are the words at them, and the parts of a
pair are in cells before its own. -/
inductive Holds (memory : Memory) : Nat → Word → Tree → Prop
  | leaf (count : Nat) (raw : Word) : Holds memory count raw (.leaf raw)
  | pair {count k : Nat} {car cdr : Tree} : k < count →
      Holds memory k (memory.wordAt (0x100 + 8 * k)) car →
      Holds memory k (memory.wordAt (0x100 + 8 * k + 4)) cdr →
      Holds memory count (pairWord k) (.pair car cdr)

theorem Holds.mono {memory : Memory} {count more : Nat} {raw : Word} {tree : Tree}
    (holds : Holds memory count raw tree) (le : count ≤ more) : Holds memory more raw tree := by
  cases holds with
  | leaf raw => exact .leaf more _
  | pair k_lt first second => exact .pair (Nat.lt_of_lt_of_le k_lt le) first second

theorem Holds.congr {memory later : Memory} {count : Nat} {raw : Word} {tree : Tree}
    (holds : Holds memory count raw tree)
    (same : ∀ x, 0x100 ≤ x → x < 0x100 + 8 * count → later.byte x = memory.byte x) :
    Holds later count raw tree := by
  induction holds with
  | leaf count raw => exact .leaf count raw
  | @pair count k car cdr k_lt _ _ first second =>
    have car_same : later.wordAt (0x100 + 8 * k) = memory.wordAt (0x100 + 8 * k) :=
      Memory.wordAt_congr fun x low high => same x (by omega) (by omega)
    have cdr_same : later.wordAt (0x100 + 8 * k + 4) = memory.wordAt (0x100 + 8 * k + 4) :=
      Memory.wordAt_congr fun x low high => same x (by omega) (by omega)
    refine .pair k_lt ?_ ?_
    · rw [car_same]
      exact first fun x low high => same x low (by omega)
    · rw [cdr_same]
      exact second fun x low high => same x low (by omega)

def pairWords (count : Nat) : List Word :=
  (List.range count).map pairWord

theorem pairWords_succ (count : Nat) : pairWords (count + 1) = pairWords count ++ [pairWord count] := by
  rw [pairWords, List.range_succ, List.map_append]
  rfl

/-- A memory in which the trees have been made in the first cells: its size and the bytes outside the cells are
the fresh ones, and the word of each call holds its tree. -/
structure Built (fresh memory : Memory) (trees : List Tree) : Prop where
  size : memory.size = fresh.size
  byte (x : Nat) : ¬ (0x100 ≤ x ∧ x < 0x100 + 8 * trees.length) → memory.byte x = fresh.byte x
  holds {k : Nat} {tree : Tree} : trees[k]? = some tree → Holds memory (k + 1) (pairWord k) tree

theorem Built.find? {fresh memory : Memory} {trees : List Tree} (built : Built fresh memory trees)
    {part : Part} {tree : Tree} (stands : part.find? .leaf trees = some tree) :
    part.calls ≤ trees.length ∧
      ∃ word, part.find? id (pairWords trees.length) = some word ∧
        Holds memory part.calls word tree := by
  cases part with
  | word raw =>
    cases stands
    exact ⟨Nat.zero_le _, raw, rfl, .leaf 0 raw⟩
  | made call =>
    have call_lt : call < trees.length := (List.getElem?_eq_some_iff.mp stands).1
    refine ⟨call_lt, pairWord call, ?_, built.holds stands⟩
    simp only [Part.find?, pairWords, List.getElem?_map, List.getElem?_range call_lt, Option.map_some]

theorem Built.withPair {fresh memory : Memory} {trees : List Tree}
    (built : Built fresh memory trees) {first second : Word} {car cdr : Tree}
    (car_holds : Holds memory trees.length first car)
    (cdr_holds : Holds memory trees.length second cdr) :
    Built fresh (withPair memory (0x100 + 8 * trees.length) first second)
      (trees ++ [.pair car cdr]) where
  size := (size_withPair ..).trans built.size
  byte x outside := by
    rw [List.length_append, List.length_singleton] at outside
    rw [byte_withPair_of_outside memory first second (by omega)]
    exact built.byte x (by omega)
  holds := by
    have kept : ∀ x, 0x100 ≤ x → x < 0x100 + 8 * trees.length →
        (Script.withPair memory (0x100 + 8 * trees.length) first second).byte x = memory.byte x :=
      fun x _ high => byte_withPair_of_outside memory first second (.inl high)
    intro k tree stands
    rcases Nat.lt_or_ge k trees.length with earlier | last
    · rw [List.getElem?_append_left earlier] at stands
      exact (built.holds stands).congr fun x low high => kept x low (by omega)
    · obtain ⟨k_lt, rfl⟩ := List.getElem?_eq_some_iff.mp stands
      rw [List.length_append, List.length_singleton] at k_lt
      obtain rfl : k = trees.length := by omega
      rw [List.getElem_concat_length rfl]
      refine .pair (Nat.lt_succ_self _) ?_ ?_
      · rw [wordAt_withPair_car]
        exact car_holds.congr kept
      · rw [wordAt_withPair_cdr]
        exact cdr_holds.congr kept

/-! ### Calls -/

/-- A bridge with another memory and other fuel, in which so many pairs have been made. -/
def afterPairs (bridge : Bridge Globals) (memory : Memory) (count : Nat) (fuel : Option Nat) :
    Bridge Globals :=
  { bridge with
    inst := { bridge.inst with
      memory
      globals := { bridge.inst.globals with duoCount := UInt32.ofNat count }
      fuel } }

section Calls

variable {bridge : Bridge Globals} {memory : Memory} {fuel : Option Nat}

private theorem func_cons (settled : Settled pages data (bridge.inst.withFuel none)) (memory : Memory)
    (count : Nat) (fuel : Option Nat) :
    (afterPairs bridge memory count fuel).inst.guest.func "wisp_cons" =
      .ok (function 2 (two (cons (.usual pages data)))) := by
  have guest : bridge.inst.guest = (Description.usual pages data).guest := settled.guest
  change bridge.inst.guest.func "wisp_cons" = _
  rw [guest]
  rfl

private theorem run_cons_afterPairs {count : Nat} (inside : 0x100 + 8 * (count + 1) ≤ memory.size)
    (addressed : 0x100 + 8 * (count + 1) ≤ wordCount) (first second : Word) :
    Instance.run (cons (.usual pages data) first second) (afterPairs bridge memory count fuel).inst =
      (.value (pairWord count),
        (afterPairs bridge (withPair memory (0x100 + 8 * count) first second) (count + 1)
          fuel).inst) := by
  have placed : ((Description.usual pages data).duoBase +
      (afterPairs bridge memory count fuel).inst.globals.duoCount * 8).toNat = 0x100 + 8 * count :=
    toNat_nextCell (by omega)
  have within : 0x100 + 8 * count + 8 ≤ (afterPairs bridge memory count fuel).inst.memory.size := by
    change _ ≤ memory.size
    omega
  rw [run_cons placed within (by omega)]
  simp only [afterPairs, pairWord, UInt32.ofNat_add]
  rfl

/-- A call that makes a pair puts it in the next cell, if it is paid for. -/
theorem call_cons (settled : Settled pages data (bridge.inst.withFuel none)) {count : Nat}
    (inside : 0x100 + 8 * (count + 1) ≤ memory.size)
    (addressed : 0x100 + 8 * (count + 1) ≤ wordCount) {rest : Option Nat}
    (spent : spend? fuel = some rest) (first second : Word) :
    (afterPairs bridge memory count fuel).call "wisp_cons" [first, second] =
      (.ok [pairWord count],
        afterPairs bridge (withPair memory (0x100 + 8 * count) first second) (count + 1) rest) := by
  have found := func_cons settled memory count fuel
  have paid : spend? (afterPairs bridge memory count fuel).inst.fuel = some rest := spent
  have ran : Instance.run (two (cons (.usual pages data)) [first, second])
      ((afterPairs bridge memory count fuel).inst.withFuel rest) = (.value (pairWord count),
        (afterPairs bridge (withPair memory (0x100 + 8 * count) first second) (count + 1)
          rest).inst) :=
    run_cons_afterPairs inside addressed first second
  rw [Bridge.call, call_function paid found rfl ran]
  rfl

theorem call_cons_of_empty (settled : Settled pages data (bridge.inst.withFuel none)) {count : Nat}
    (empty : spend? fuel = none) (first second : Word) :
    (afterPairs bridge memory count fuel).call "wisp_cons" [first, second] =
      (.error (.execution (.trap .outOfFuel)), afterPairs bridge memory count fuel) := by
  have found := func_cons settled memory count fuel
  have unpaid : spend? (afterPairs bridge memory count fuel).inst.fuel = none := empty
  rw [Bridge.call, call_of_empty unpaid found rfl rfl]

/-- The calls of a plan make its trees, one after the other, unless the fuel runs out. -/
theorem build_afterPairs (settled : Settled pages data (bridge.inst.withFuel none)) {calls : Nat}
    (inside : 0x100 + 8 * calls ≤ bridge.inst.memory.size)
    (addressed : 0x100 + 8 * calls ≤ wordCount) {plan : List (Part × Part)}
    {made trees : List Tree} (steps : made.length + plan.length = calls)
    (metering : bridge.inst.fuel = none ↔ fuel = none) (before : Built bridge.inst.memory memory made)
    (makes : treesOf made plan = some trees) :
    ∃ answer last,
      build (afterPairs bridge memory made.length fuel) (pairWords made.length) plan =
        some (answer, last) ∧
      (bridge.inst.fuel ≠ none ∧ RanOut (answer, last) ∨
        ∃ later rest, answer = .ok (pairWords calls) ∧ last = afterPairs bridge later calls rest ∧
          (bridge.inst.fuel = none ↔ rest = none) ∧ Built bridge.inst.memory later trees) := by
  induction plan generalizing memory made fuel with
  | nil =>
    cases makes
    obtain rfl : trees.length = calls := steps
    exact ⟨_, _, rfl, .inr ⟨memory, fuel, rfl, rfl, metering, before⟩⟩
  | cons step rest ih =>
    obtain ⟨car, cdr⟩ := step
    rw [List.length_cons] at steps
    obtain ⟨car_tree, car_stands, makes⟩ := Option.bind_eq_some_iff.mp makes
    obtain ⟨cdr_tree, cdr_stands, makes⟩ := Option.bind_eq_some_iff.mp makes
    obtain ⟨car_there, first, first_stands, first_holds⟩ := before.find? car_stands
    obtain ⟨cdr_there, second, second_stands, second_holds⟩ := before.find? cdr_stands
    simp only [build, first_stands, second_stands, Option.bind_some, bind]
    cases spent : spend? fuel with
    | none =>
      obtain rfl := Instance.spend?_eq_none_iff.mp spent
      rw [call_cons_of_empty settled spent first second]
      exact ⟨_, _, rfl, .inl ⟨by simp [metering], rfl, rfl⟩⟩
    | some left =>
      have roomy : 0x100 + 8 * (made.length + 1) ≤ memory.size := by
        rw [before.size]
        omega
      rw [call_cons settled roomy (by omega) spent first second]
      have next := before.withPair (first_holds.mono car_there) (second_holds.mono cdr_there)
      have later := ih (by rw [List.length_append, List.length_singleton]; omega)
        (metering.trans (Instance.unmetered_iff_of_spend spent)) next makes
      rw [List.length_append, List.length_singleton, pairWords_succ] at later
      exact later

end Calls

end Script

end LispHost
