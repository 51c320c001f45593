import LispHost.Proofs.Bridge.Effects
import LispHost.Proofs.Guest.Minimal

/-!
Bootstrap of a guest that was created.

A start asks ten things of the exports of a guest, one after the other: its three accessors, its four tag
codes, its two sentinels and its initialiser. It succeeds exactly when all of them are met, and otherwise
it fails with the error of the first one that is not. An absent tag code is no fault, nor is one that
stands for something other than a global, and nothing else is looked at.
-/

set_option autoImplicit false

namespace LispHost

variable {σ α β : Type}

/-- What a start asks of the exports of a guest. -/
inductive Requirement where
  /-- A function from this many words to a word. -/
  | accessor (name : String) (arity : Nat)
  | tagCode (name : String)
  | sentinel (name : String)
  /-- Nothing, or a function without parameters that comes to its end and answers words. -/
  | initialiser (name : String)
  deriving DecidableEq, Repr

/-- What is asked of the names that are looked up, in this order. -/
def Abi.lookups (abi : Abi) : List Requirement :=
  [.accessor abi.tagOf 1, .accessor abi.row 2, .accessor abi.string 1,
    .tagCode abi.tagInt, .tagCode abi.tagSys, .tagCode abi.tagDuo, .tagCode abi.tagSym,
    .sentinel abi.sysNil, .sentinel abi.sysT]

def Abi.requirements (abi : Abi) : List Requirement :=
  abi.lookups ++ [.initialiser abi.start]

namespace Requirement

/-- Whether the guest of an instance does what is asked; an initialiser runs in that instance. -/
def Met (inst : Instance σ) : Requirement → Prop
  | accessor name arity =>
    ∃ f, inst.guest.export? name = some (.func f) ∧
      f.params = List.replicate arity .i32 ∧ f.results = [.i32]
  | tagCode name =>
    ∀ value, inst.guest.export? name = some (.global value) → value.type = .i32
  | sentinel name =>
    ∃ word, inst.guest.export? name = some (.global (.i32 word))
  | initialiser name =>
    inst.guest.export? name = none ∨
      ∃ f, inst.guest.export? name = some (.func f) ∧ f.params = [] ∧
        (∀ cause, (inst.enter (f.run [])).1 ≠ .trap cause) ∧
        (∀ code, (inst.enter (f.run [])).1 ≠ .exit code) ∧
        ∀ values, (inst.enter (f.run [])).1 = .value values → ∀ value ∈ values, value.type = .i32

/-- The ways in which the guest of an instance can fail to do what is asked, each with its error. -/
inductive Fails (inst : Instance σ) : Requirement → Error → Prop
  | noFunction {name : String} {arity : Nat}
      (absent : ∀ f, inst.guest.export? name ≠ some (.func f)) :
      Fails inst (.accessor name arity) (.exportNotFound name)
  | signature {name : String} {arity : Nat} {f : Func σ}
      (exported : inst.guest.export? name = some (.func f))
      (other : ¬ (f.params = List.replicate arity .i32 ∧ f.results = [.i32])) :
      Fails inst (.accessor name arity) (.signature name)
  | tagCodeType {name : String} {value : Value}
      (exported : inst.guest.export? name = some (.global value)) (other : value.type ≠ .i32) :
      Fails inst (.tagCode name) (.typeMismatch ("i32 global \x60" ++ name ++ "\x60") value.text)
  | noGlobal {name : String} (absent : ∀ value, inst.guest.export? name ≠ some (.global value)) :
      Fails inst (.sentinel name) (.exportNotFound name)
  | sentinelType {name : String} {value : Value}
      (exported : inst.guest.export? name = some (.global value)) (other : value.type ≠ .i32) :
      Fails inst (.sentinel name) (.typeMismatch ("i32 global \x60" ++ name ++ "\x60") value.text)
  | initialiserKind {name : String} {item : Export σ}
      (exported : inst.guest.export? name = some item) (other : ∀ f, item ≠ .func f) :
      Fails inst (.initialiser name) (.exportNotFound name)
  | initialiserParams {name : String} {f : Func σ}
      (exported : inst.guest.export? name = some (.func f)) (takes : f.params ≠ []) :
      Fails inst (.initialiser name) (.execution (.argumentCount f.params.length 0))
  | initialiserTrap {name : String} {f : Func σ} {cause : Trap}
      (exported : inst.guest.export? name = some (.func f)) (none : f.params = [])
      (trapped : (inst.enter (f.run [])).1 = .trap cause) :
      Fails inst (.initialiser name) (.execution (.trap cause))
  | initialiserExit {name : String} {f : Func σ} {code : Int32}
      (exported : inst.guest.export? name = some (.func f)) (none : f.params = [])
      (left : (inst.enter (f.run [])).1 = .exit code) :
      Fails inst (.initialiser name) (.guestExit code)
  | initialiserResult {name : String} {f : Func σ} {words rest : List Value} {value : Value}
      (exported : inst.guest.export? name = some (.func f)) (none : f.params = [])
      (answered : (inst.enter (f.run [])).1 = .value (words ++ value :: rest))
      (first : ∀ word ∈ words, word.type = .i32) (other : value.type ≠ .i32) :
      Fails inst (.initialiser name)
        (.typeMismatch ("i32 results from \x60" ++ name ++ "\x60") value.text)

theorem Fails.not_met {inst : Instance σ} {requirement : Requirement} {e : Error}
    (fails : requirement.Fails inst e) : ¬ requirement.Met inst := by
  cases fails with
  | noFunction absent =>
    rintro ⟨f, exported, -⟩
    exact absent f exported
  | signature exported other =>
    rintro ⟨f, same, params, results⟩
    cases exported.symm.trans same
    exact other ⟨params, results⟩
  | tagCodeType exported other => exact fun met => other (met _ exported)
  | noGlobal absent =>
    rintro ⟨word, exported⟩
    exact absent _ exported
  | sentinelType exported other =>
    rintro ⟨word, same⟩
    cases exported.symm.trans same
    exact other rfl
  | initialiserKind exported other =>
    rintro (absent | ⟨f, same, -⟩)
    · cases exported.symm.trans absent
    · cases exported.symm.trans same
      exact other f rfl
  | initialiserParams exported takes =>
    rintro (absent | ⟨f, same, none, -⟩)
    · cases exported.symm.trans absent
    · cases exported.symm.trans same
      exact takes none
  | initialiserTrap exported none trapped =>
    rintro (absent | ⟨f, same, -, traps, -⟩)
    · cases exported.symm.trans absent
    · cases exported.symm.trans same
      exact traps _ trapped
  | initialiserExit exported none left =>
    rintro (absent | ⟨f, same, -, -, exits, -⟩)
    · cases exported.symm.trans absent
    · cases exported.symm.trans same
      exact exits _ left
  | initialiserResult exported none answered first other =>
    rintro (absent | ⟨f, same, -, -, -, words⟩)
    · cases exported.symm.trans absent
    · cases exported.symm.trans same
      exact other (words _ answered _ (by simp))

theorem Fails.missing {inst : Instance σ} {requirement : Requirement} {e : Error} {name : String}
    (fails : requirement.Fails inst e) (missing : e = .exportNotFound name) :
    (∃ arity, requirement = accessor name arity) ∨ requirement = sentinel name ∨
      requirement = initialiser name := by
  cases fails with
  | noFunction absent =>
    cases missing
    exact .inl ⟨_, rfl⟩
  | noGlobal absent =>
    cases missing
    exact .inr (.inl rfl)
  | initialiserKind exported other =>
    cases missing
    exact .inr (.inr rfl)
  | signature | tagCodeType | sentinelType | initialiserParams | initialiserTrap | initialiserExit
  | initialiserResult => simp [Error.signature] at missing

/-- An answer that stands for a list of requirements: it is there when all of them are met, and otherwise
it is the error of the first that is not. -/
def Judges (inst : Instance σ) (asked : List Requirement) : Except Error α → Prop
  | .ok _ => ∀ r ∈ asked, r.Met inst
  | .error e => ∃ met r rest, asked = met ++ r :: rest ∧ (∀ q ∈ met, q.Met inst) ∧ r.Fails inst e

namespace Judges

variable {inst : Instance σ} {first second : List Requirement}

theorem of_fails {r : Requirement} {e : Error} (fails : r.Fails inst e) :
    Judges inst [r] (.error e : Except Error α) :=
  ⟨[], r, [], rfl, by simp, fails⟩

theorem of_met {r : Requirement} (met : r.Met inst) (a : α) :
    Judges inst [r] (.ok a : Except Error α) := by
  simpa [Judges] using met

theorem append_error {e : Error} (judged : Judges inst first (.error e : Except Error α))
    (second : List Requirement) : Judges inst (first ++ second) (.error e : Except Error β) := by
  obtain ⟨met, r, rest, rfl, all_met, fails⟩ := judged
  exact ⟨met, r, rest ++ second, by simp, all_met, fails⟩

theorem append_ok {answer : Except Error β} (met : ∀ r ∈ first, r.Met inst)
    (judged : Judges inst second answer) : Judges inst (first ++ second) answer := by
  cases answer with
  | ok b => exact List.forall_mem_append.mpr ⟨met, judged⟩
  | error e =>
    obtain ⟨met', r, rest, rfl, all_met, fails⟩ := judged
    exact ⟨first ++ met', r, rest, by simp, List.forall_mem_append.mpr ⟨met, all_met⟩, fails⟩

theorem bind_ok {answer : Except Error α} (judged : Judges inst first answer) (f : α → β) :
    Judges inst first (answer >>= fun a => .ok (f a)) := by
  cases answer with
  | error e => exact judged
  | ok a => exact judged

theorem bind {answer : Except Error α} {f : α → Except Error β}
    (judged : Judges inst first answer) (rest : ∀ a, Judges inst second (f a)) :
    Judges inst (first ++ second) (answer >>= f) := by
  cases answer with
  | error e => exact judged.append_error second
  | ok a => exact append_ok judged (rest a)

end Judges

/-! ### The answers of a start -/

variable {inst : Instance σ}

private theorem judges_wordFunc (name : String) (arity : Nat) :
    Judges inst [.accessor name arity] (inst.guest.wordFunc name arity) := by
  rw [Guest.wordFunc, Guest.typedFunc, Guest.func]
  split
  · rename_i e missing
    split at missing
    · cases missing
    · rename_i other
      cases missing
      exact .of_fails (.noFunction other)
  · rename_i f found
    split at found
    · rename_i exported
      cases found
      split
      · rename_i signature
        have met : (accessor name arity).Met inst := ⟨f, exported, signature⟩
        exact .of_met met f
      · rename_i signature
        exact .of_fails (.signature exported signature)
    · cases found

private theorem globalWord_cases (guest : Guest σ) (name : String) :
    (∃ word, guest.export? name = some (.global (.i32 word)) ∧ guest.globalWord name = .ok word) ∨
    (∃ value, guest.export? name = some (.global value) ∧ value.type ≠ .i32 ∧
      guest.globalWord name =
        .error (.typeMismatch ("i32 global \x60" ++ name ++ "\x60") value.text)) ∨
    ((∀ value, guest.export? name ≠ some (.global value)) ∧
      guest.globalWord name = .error (.exportNotFound name)) := by
  rw [Guest.globalWord]
  split
  · rename_i word exported
    exact .inl ⟨word, exported, rfl⟩
  · rename_i value other exported
    refine .inr (.inl ⟨value, exported, ?_, rfl⟩)
    cases value with
    | i32 word => exact absurd rfl (other word)
    | i64 | f32 | f64 => simp [Value.type]
  · rename_i _ other
    exact .inr (.inr ⟨other, rfl⟩)

private theorem judges_globalWord (name : String) :
    Judges inst [.sentinel name] (inst.guest.globalWord name) := by
  rcases globalWord_cases inst.guest name with
    ⟨word, exported, read⟩ | ⟨value, exported, other, read⟩ | ⟨absent, read⟩ <;> rw [read]
  · have met : (sentinel name).Met inst := ⟨word, exported⟩
    exact .of_met met word
  · exact .of_fails (.sentinelType exported other)
  · exact .of_fails (.noGlobal absent)

/-- A tag code that is absent is passed over; only a global of another type is a fault. -/
private theorem judges_resolveTags (table : TagTable) (names : List (Tag × String)) :
    Judges inst (names.map fun entry => .tagCode entry.2)
      (DecodingContext.resolveTags inst.guest table names) := by
  induction names generalizing table with
  | nil => exact fun r member => absurd member List.not_mem_nil
  | cons entry rest ih =>
    obtain ⟨tag, name⟩ := entry
    have later : ∀ table', (tagCode name).Met inst →
        Judges inst ([tagCode name] ++ rest.map fun entry => tagCode entry.2)
          (DecodingContext.resolveTags inst.guest table' rest) := by
      intro table' met
      have all_met : ∀ r ∈ [tagCode name], r.Met inst := by simpa using met
      exact Judges.append_ok all_met (ih table')
    rw [DecodingContext.resolveTags]
    rcases globalWord_cases inst.guest name with
      ⟨word, exported, read⟩ | ⟨value, exported, other, read⟩ | ⟨absent, read⟩ <;> rw [read]
    · refine later _ fun value same => ?_
      cases exported.symm.trans same
      rfl
    · have judged : Judges inst [tagCode name] (.error _ : Except Error Unit) :=
        .of_fails (.tagCodeType exported other)
      exact judged.append_error _
    · exact later _ fun value same => absurd same (absent value)

private theorem judges_resolve (abi : Abi) :
    Judges inst abi.lookups (DecodingContext.resolve inst.guest abi) := by
  have split : abi.lookups = [accessor abi.tagOf 1] ++ ([accessor abi.row 2] ++
      ([accessor abi.string 1] ++ (abi.tagNames.map (fun entry => tagCode entry.2) ++
        ([sentinel abi.sysNil] ++ [sentinel abi.sysT])))) := rfl
  rw [split, DecodingContext.resolve]
  refine (judges_wordFunc _ _).bind fun tagOf => ?_
  refine (judges_wordFunc _ _).bind fun row => ?_
  refine (judges_wordFunc _ _).bind fun string => ?_
  refine (judges_resolveTags _ abi.tagNames).bind fun tags => ?_
  refine (judges_globalWord _).bind fun nil => ?_
  exact (judges_globalWord _).bind_ok _

private theorem wordsOf_cases (name : String) (values : List Value) :
    ((∀ value ∈ values, value.type = .i32) ∧
      ∃ words, Instance.wordsOf name values = .ok words) ∨
    ∃ words value rest, values = words ++ value :: rest ∧
      (∀ word ∈ words, word.type = .i32) ∧ value.type ≠ .i32 ∧
      Instance.wordsOf name values =
        .error (.typeMismatch ("i32 results from `" ++ name ++ "`") value.text) := by
  induction values with
  | nil => exact .inl ⟨by simp, [], rfl⟩
  | cons value rest ih =>
    cases value with
    | i64 | f32 | f64 => exact .inr ⟨[], _, rest, rfl, by simp, by simp [Value.type], rfl⟩
    | i32 word =>
      rcases ih with ⟨all, words, read⟩ | ⟨words, other, after, rfl, first, type, read⟩
      · refine .inl ⟨List.forall_mem_cons.mpr ⟨rfl, all⟩, word :: words, ?_⟩
        rw [Instance.wordsOf, read]
      · refine .inr ⟨.i32 word :: words, other, after, rfl, ?_, type, ?_⟩
        · exact List.forall_mem_cons.mpr ⟨rfl, first⟩
        · rw [Instance.wordsOf, read]

private theorem judges_call {memory : String} (bound : inst.host.binding = some memory)
    {name : String} {item : Export σ} (exported : inst.guest.export? name = some item) :
    Judges inst [.initialiser name] (inst.call name []).1 := by
  by_cases function : ∃ f, item = .func f
  · obtain ⟨f, rfl⟩ := function
    have found : inst.guest.func name = .ok f := by rw [Guest.func, exported]
    by_cases none : f.params = []
    · have late := Instance.enter_ne_unbound (f.run []) bound
      have words : Instance.foreignParam? f = Option.none := by
        rw [Instance.foreignParam?, none]
        rfl
      rw [Instance.call, found]
      simp only [none, List.length_nil, ne_eq, not_true_eq_false, if_false, words,
        Instance.callFunc]
      cases entered : inst.enter (f.run []) with
      | mk ending next =>
      have first : (inst.enter (f.run [])).1 = ending := by rw [entered]
      rw [entered] at late
      cases ending with
      | trap cause => exact .of_fails (.initialiserTrap exported none first)
      | exit code => exact .of_fails (.initialiserExit exported none first)
      | unbound => exact absurd rfl late
      | value values =>
        simp only [Ending.toExcept]
        rcases wordsOf_cases name values with ⟨all, words, read⟩ | ⟨words, value, rest, rfl, all, other, read⟩
        · rw [read]
          have met : (initialiser name).Met inst := by
            refine .inr ⟨f, exported, none, ?_, ?_, ?_⟩
            · simp [first]
            · simp [first]
            · intro answered same
              rw [first] at same
              cases same
              exact all
          exact .of_met met words
        · rw [read]
          exact .of_fails (.initialiserResult exported none first all other)
    · rw [Instance.call, found]
      have count : f.params.length ≠ ([] : List Word).length := by simpa using none
      simp only [if_pos count]
      exact .of_fails (.initialiserParams exported none)
  · have missing : inst.guest.func name = .error (.exportNotFound name) := by
      rw [Guest.func, exported]
      cases item with
      | func f => exact absurd ⟨f, rfl⟩ function
      | global | memory | table => rfl
    rw [Instance.call, missing]
    exact .of_fails (.initialiserKind exported fun f same => function ⟨f, same⟩)

theorem judges_start {config : Config} {guest : Guest σ}
    (ok : Bridge.createBound config guest = .ok inst) :
    Judges inst config.abi.requirements
      ((Bridge.start config guest).mapError StartFailure.error) := by
  obtain ⟨-, before, made, rfl⟩ := Bridge.created_of_createBound ok
  have same : (before.boundTo config.abi.memory).guest = guest :=
    (Instance.eq_of_create made rfl).1
  have resolves : Judges (before.boundTo config.abi.memory) config.abi.lookups
      (DecodingContext.resolve guest config.abi) := same ▸ judges_resolve config.abi
  rw [Abi.requirements, Bridge.start_of_createBound ok]
  cases resolved : DecodingContext.resolve guest config.abi with
  | error e =>
    rw [resolved] at resolves
    exact resolves.append_error [initialiser config.abi.start]
  | ok context =>
    rw [resolved] at resolves
    refine Judges.append_ok resolves ?_
    simp only
    cases exported : guest.export? config.abi.start with
    | none =>
      have met : (initialiser config.abi.start).Met (before.boundTo config.abi.memory) :=
        .inl (by rw [same, exported])
      exact .of_met met _
    | some item =>
      have bound : (before.boundTo config.abi.memory).host.binding = some config.abi.memory := rfl
      have called := judges_call bound (same.symm ▸ exported)
      simp only [Option.isSome_some, if_true]
      cases answered : (before.boundTo config.abi.memory).call config.abi.start [] with
      | mk answer next =>
      rw [answered] at called
      cases answer <;> exact called

end Requirement

namespace Bridge

/-- Where a module compiles and is created, its start succeeds exactly when every requirement is met;
otherwise it fails with the error of the first one that is not. What is exported as memory, or for
allocating, reading and evaluating, never matters, and neither does a tag code that is absent or a
function. -/
theorem start_ok_iff_requirements (config : Config) (guest : Guest σ)
    (compiles : guest.wellFormed = true) (inst : Instance σ)
    (ok : created config guest = .ok inst) :
    ((∃ bridge, start config guest = .ok bridge) ↔
      ∀ r ∈ config.abi.requirements, r.Met (inst.boundTo config.abi.memory)) ∧
    (∀ failure, start config guest = .error failure →
      ∃ met r rest, config.abi.requirements = met ++ r :: rest ∧
        (∀ q ∈ met, q.Met (inst.boundTo config.abi.memory)) ∧
        ¬ r.Met (inst.boundTo config.abi.memory) ∧
        r.Fails (inst.boundTo config.abi.memory) failure.error) ∧
    ((∀ r ∈ config.abi.requirements, (∀ name, r ≠ .tagCode name) →
        r.Met (inst.boundTo config.abi.memory)) →
      (∀ entry ∈ config.abi.tagNames, guest.export? entry.2 = none ∨
        (∃ f, guest.export? entry.2 = some (.func f)) ∨
        ∃ word, guest.export? entry.2 = some (.global (.i32 word))) →
      ∃ bridge, start config guest = .ok bridge) ∧
    (∀ failure name, start config guest = .error failure → failure.error = .exportNotFound name →
      name ∈ [config.abi.tagOf, config.abi.row, config.abi.string, config.abi.sysNil,
        config.abi.sysT, config.abi.start]) := by
  have judged := Requirement.judges_start (createBound_of_created compiles ok)
  have same : (inst.boundTo config.abi.memory).guest = guest := (Instance.eq_of_create ok rfl).1
  have failing : ∀ failure, start config guest = .error failure →
      ∃ met r rest, config.abi.requirements = met ++ r :: rest ∧
        (∀ q ∈ met, q.Met (inst.boundTo config.abi.memory)) ∧
        ¬ r.Met (inst.boundTo config.abi.memory) ∧
        r.Fails (inst.boundTo config.abi.memory) failure.error := by
    intro failure failed
    rw [failed] at judged
    obtain ⟨met, r, rest, split, all_met, fails⟩ := judged
    exact ⟨met, r, rest, split, all_met, fails.not_met, fails⟩
  have succeeds : (∀ r ∈ config.abi.requirements, r.Met (inst.boundTo config.abi.memory)) →
      ∃ bridge, start config guest = .ok bridge := by
    intro all_met
    cases started : start config guest with
    | ok bridge => exact ⟨bridge, rfl⟩
    | error failure =>
      obtain ⟨met, r, rest, split, -, unmet, -⟩ := failing failure started
      exact absurd (all_met r (split ▸ by simp)) unmet
  refine ⟨⟨?_, succeeds⟩, failing, ?_, ?_⟩
  · rintro ⟨bridge, started⟩
    rw [started] at judged
    exact judged
  · intro others codes
    refine succeeds fun r member => ?_
    by_cases code : ∃ name, r = .tagCode name
    · obtain ⟨name, rfl⟩ := code
      obtain ⟨entry, entered, rfl⟩ : ∃ entry ∈ config.abi.tagNames, entry.2 = name := by
        simpa [Abi.requirements, Abi.lookups, Abi.tagNames, eq_comm] using member
      intro value exported
      rw [same] at exported
      rcases codes entry entered with absent | ⟨f, function⟩ | ⟨word, global⟩
      · cases exported.symm.trans absent
      · cases exported.symm.trans function
      · cases exported.symm.trans global
        rfl
    · exact others r member fun name same => code ⟨name, same⟩
  · intro failure name failed missing
    obtain ⟨met, r, rest, split, -, -, fails⟩ := failing failure failed
    have member : r ∈ config.abi.requirements := by simp [split]
    rcases fails.missing missing with ⟨arity, rfl⟩ | rfl | rfl
    · have named : name = config.abi.tagOf ∨ name = config.abi.row ∨ name = config.abi.string := by
        grind [Abi.requirements, Abi.lookups]
      rcases named with rfl | rfl | rfl <;> simp
    · have named : name = config.abi.sysNil ∨ name = config.abi.sysT := by
        simpa [Abi.requirements, Abi.lookups] using member
      rcases named with rfl | rfl <;> simp
    · have named : name = config.abi.start := by
        simpa [Abi.requirements, Abi.lookups] using member
      simp [named]

/-- A guest that exports three accessors, two sentinels, a function in place of a tag code, and an
initialiser that answers two words, and nothing else. -/
def bareGuest : Guest Unit :=
  { Guest.exporting [] with
    pages := 0
    exports := Guest.accessors 0 0 0 ++ Guest.sentinels ++
      [("wisp_tag_duo", .func ⟨[], [], fun _ => .done []⟩),
        ("_initialize", .func ⟨[], [.i32, .i32], fun _ => .done [1, 2]⟩)] }

/-- The same guest with a row accessor of another signature, a sentinel of another type, and an
initialiser that traps. -/
def faultyGuest : Guest Unit :=
  { bareGuest with exports :=
    [("wisp_tag_of", .func (Guest.constant 1 0)), ("wisp_row", .func (Guest.constant 1 0)),
      ("wisp_str", .func (Guest.constant 1 0)), ("wisp_sys_nil", .global (.i64 0)),
      ("wisp_sys_t", .global (.i32 1)),
      ("_initialize", .func ⟨[], [], fun _ => .trap .unreachable⟩)] }

/-- The first guest is started, and of the faults of the second one the first is reported. -/
theorem start_ok_iff_requirements_bareGuest :
    (bareGuest.wellFormed = true ∧ ∃ inst, created Config.default bareGuest = .ok inst ∧
      (∃ bridge, start Config.default bareGuest = .ok bridge) ∧
      ∀ r ∈ Abi.default.requirements, r.Met (inst.boundTo "memory")) ∧
    (faultyGuest.wellFormed = true ∧ ∃ inst, created Config.default faultyGuest = .ok inst ∧
      start Config.default faultyGuest = .error ⟨.signature "wisp_row", .empty⟩ ∧
      ∃ met r rest, Abi.default.requirements = met ++ r :: rest ∧
        (∀ q ∈ met, q.Met (inst.boundTo "memory")) ∧ ¬ r.Met (inst.boundTo "memory") ∧
        r.Fails (inst.boundTo "memory") (.signature "wisp_row")) := by
  obtain ⟨succeeds, -⟩ := start_ok_iff_requirements Config.default bareGuest rfl _ rfl
  obtain ⟨-, fails, -⟩ := start_ok_iff_requirements Config.default faultyGuest rfl _ rfl
  have failed : start Config.default faultyGuest = .error ⟨.signature "wisp_row", .empty⟩ := rfl
  exact ⟨⟨rfl, _, rfl, ⟨_, rfl⟩, succeeds.mp ⟨_, rfl⟩⟩, ⟨rfl, _, rfl, failed, fails _ failed⟩⟩

end Bridge

end LispHost
