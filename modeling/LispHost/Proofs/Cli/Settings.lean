import LispHost.Proofs.Config.Layering
import LispHost.Proofs.Config.Written
import LispHost.Proofs.Text.Utf8
import LispHost.Cli.Run

/-!
The settings of a run.

Without a file a run has the usual settings, and with one it has those of the file and of the variables over
it. The guest is asked for in up to three ways: by the option, by the variable for guests, and by the settings;
the first of them that is there counts.
-/

set_option autoImplicit false

namespace LispHost.Cli

open Config (Environment Format Setting Proper Tree)

/-- Of the guests that are asked for, the one behind the command counts, then the one in front of it, then the
one of the variable. -/
theorem eq_of_chooseGuest {env : Environment} {outer inner : Level} {guest : Option String}
    (chosen : chooseGuest env outer inner = .ok guest) :
    guest = (inner.guest.or outer.guest).or (env.value? guestVariable) := by
  unfold chooseGuest at chosen
  split at chosen
  · rename_i behind front
    cases chosen
    rw [behind, Option.some_or, Option.some_or]
  · cases chosen
  · rename_i behind front _
    cases chosen
    rw [behind, Option.some_or, Option.some_or]
  · rename_i behind front _
    cases chosen
    rw [behind, front, Option.none_or, Option.some_or]
  · rename_i behind front _
    cases chosen
    rw [behind, front, Option.none_or, Option.none_or]

theorem guest_of_parse {env : Environment} {args : List String} {outer inner : Level}
    {command : Command} {invocation : Invocation}
    (levels : readLevels none .empty args = .ok (outer, inner, command))
    (valid : Invocation.parse env args = .ok invocation) :
    invocation.guest = (inner.guest.or outer.guest).or (env.value? guestVariable) := by
  rw [Invocation.parse, levels] at valid
  change (chooseGuest env outer inner >>= fun guest => _) = _ at valid
  cases chosen : chooseGuest env outer inner with
  | error stop =>
    rw [chosen] at valid
    cases valid
  | ok guest =>
    rw [chosen] at valid
    cases valid
    exact eq_of_chooseGuest chosen

/-- Arguments that can be read ask for a run, unless the variable for guests is there and empty. -/
theorem exists_parse {env : Environment} {args : List String} {outer inner : Level}
    {command : Command} (levels : readLevels none .empty args = .ok (outer, inner, command))
    (named : env.value? guestVariable ≠ some "") :
    ∃ invocation, Invocation.parse env args = .ok invocation := by
  obtain ⟨guest, chosen⟩ : ∃ guest, chooseGuest env outer inner = .ok guest := by
    unfold chooseGuest
    split
    · exact ⟨_, rfl⟩
    · rename_i empty _
      exact absurd empty named
    all_goals exact ⟨_, rfl⟩
  rw [Invocation.parse, levels]
  change ∃ invocation, (chooseGuest env outer inner >>= fun guest => _) = _
  rw [chosen]
  exact ⟨_, rfl⟩

/-- Settings in layers, for every environment.

A configuration is read from a file, in any of the formats and after the references in its text have been
replaced, with the variables over it. If both hold nothing but settings, the configuration exists, and each
setting in it is by itself the value of its variable, or else what stands in the file, or else its usual value;
the bound of decoding alone is pulled down to its ceiling. Without a file the same holds of a text, and no
variable counts. What stands in a file whose root has plain names, none of them twice in one table, stands
where the file has it. The guest of a run is the one of the option, or else of the variable for guests, or else
of the configuration that the command line names, or else the usual one; only an empty variable is refused. -/
theorem settings_layered :
    (∀ env read path format bytes text fields,
      Format.ofPath path = .ok format → read path = .ok bytes →
      Text.Utf8.decode? bytes = some text →
      format.parse? (Config.substitute env text) = some fields →
      let written := Config.layer [] (Config.Tree.lowerFields fields)
      Proper env written →
      ∃ config, Config.load env read path = .ok config ∧
        ∀ {α : Type} (s : Setting α), ∃ a, s.Given env written a ∧ s.get config = s.bounded a) ∧
    (∀ env (format : Format) text fields,
      format.parse? (Config.substitute env text) = some fields →
      let written := Config.layer [] (Config.Tree.lowerFields fields)
      Proper [] written →
      ∃ config, Config.ofText env format text = .ok config ∧
        ∀ {α : Type} (s : Setting α), ∃ a, s.Given [] written a ∧ s.get config = s.bounded a) ∧
    (∀ fields, Config.Tree.TidyFields (Config.Tree.lowerFields fields) →
      (∀ entry ∈ Config.Tree.lowerFields fields, Config.Place.ofName entry.1 = ⟨entry.1, []⟩) →
      Config.layer [] (Config.Tree.lowerFields fields) = Config.Tree.lowerFields fields) ∧
    ∀ env read args outer inner command,
      readLevels none .empty args = .ok (outer, inner, command) →
      (env.value? guestVariable ≠ some "" →
        ∃ invocation, Invocation.parse env args = .ok invocation) ∧
      ∀ invocation, Invocation.parse env args = .ok invocation →
        let asked := (inner.guest.or outer.guest).or (env.value? guestVariable)
        (invocation.config = none → settings env read invocation =
          .ok { Config.default with guest := asked.getD Config.default.guest }) ∧
        ∀ path config, invocation.config = some path → Config.load env read path = .ok config →
          settings env read invocation = .ok { config with guest := asked.getD config.guest } := by
  refine ⟨?_, ?_, ?_, ?_⟩
  · intro env read path format bytes text fields named found decoded parsed written proper
    obtain ⟨config, loaded, given⟩ := Config.ofLayers_given (.path path) env parsed proper
    refine ⟨config, ?_, given⟩
    simp only [Config.load, named, found, decoded, loaded]
  · intro env format text fields parsed written proper
    have layered := Config.ofLayers_given .inline env parsed proper
    exact layered
  · intro fields tidy plain
    exact Config.layer_of_plain tidy plain
  · intro env read args outer inner command levels
    refine ⟨fun named => exists_parse levels named, ?_⟩
    intro invocation valid asked
    have guest : invocation.guest = asked := guest_of_parse levels valid
    constructor
    · intro absent
      simp only [settings, absent, guest]
      rfl
    · intro path config given loaded
      simp only [settings, given, loaded, guest]
      rfl

/-! ### A run with every layer -/

/-- A file that gives four settings, one of them by a reference and one by a name. -/
def layeredText : String :=
  "[shim]\nstub_policy=Not-Implemented\n[limits]\nmax_memory_pages=$PAGES\nmax_fuel=3\n" ++
    "[decode]\nmax_depth=5000\n"

def layeredFields : List (String × Tree) :=
  [("shim", .table [("stub_policy", .text .file "Not-Implemented")]),
    ("limits", .table [("max_memory_pages", .text .file "7"), ("max_fuel", .text .file "3")]),
    ("decode", .table [("max_depth", .text .file "5000")])]

def layeredEnv : Environment :=
  [("WISP__LIMITS__MAX_FUEL", "9"), ("Wisp__Abi__Tag_Of", "tag"), ("PAGES", "7"),
    ("WISP_GUEST", "other.wasm")]

def layeredRead (path : String) : Except FileFault (List UInt8) :=
  if path = "wisp.ini" then .ok (Text.Utf8.encode layeredText) else .error .notFound

def layeredArgs : List String :=
  ["-c", "wisp.ini", "eval", "1"]

/-- The configuration of the file, with an export and an amount of fuel. -/
def layeredConfig (tagOf : String) (fuel : Nat) : Config :=
  { Config.default with
    abi := { Config.default.abi with tagOf }
    syscalls := { Config.default.syscalls with stubPolicy := .notImplemented }
    decode := { Config.default.decode with maxDepth := 2048 }
    limits := { Config.default.limits with maxMemoryPages := 7, maxFuel := some fuel } }

theorem substitute_layeredText : Config.substitute layeredEnv layeredText =
    "[shim]\nstub_policy=Not-Implemented\n[limits]\nmax_memory_pages=7\nmax_fuel=3\n" ++
      "[decode]\nmax_depth=5000\n" := by
  set_option maxRecDepth 4000 in decide +kernel

theorem parse?_layeredText :
    Format.parse? .ini (Config.substitute layeredEnv layeredText) = some layeredFields := by
  rw [substitute_layeredText]
  rfl

theorem sectionsAreTables_layeredFields : Config.SectionsAreTables layeredFields := by
  intro sec member tree found
  rw [Config.sectionNames] at member
  fin_cases member <;> cases found <;> exact ⟨_, rfl⟩

theorem value_notImplemented :
    Setting.stubPolicy.value (.text .file "Not-Implemented") = .ok .notImplemented := by
  have small : Text.lowercase "Not-Implemented" = StubPolicy.notImplemented.name := by
    decide +kernel
  exact (Setting.value_text_eq_ok_iff .stubPolicy).mpr small

theorem exists_value_layeredFields {α : Type} (s : Setting α) (tree : Tree)
    (found : (Tree.table layeredFields).within? s.path = some tree) :
    ∃ a, s.value tree = .ok a := by
  cases s with
  | stubPolicy =>
    cases found
    exact ⟨_, value_notImplemented⟩
  | _ => cases found <;> exact ⟨_, rfl⟩

theorem proper_nil_layeredFields : Proper [] layeredFields where
  tables := sectionsAreTables_layeredFields
  named := List.forall_mem_nil _
  once := .nil
  readable := List.forall_mem_nil _
  written := exists_value_layeredFields

theorem proper_layeredFields : Proper layeredEnv layeredFields where
  tables := sectionsAreTables_layeredFields
  named := by
    simp only [layeredEnv, List.forall_mem_cons]
    exact ⟨fun _ => ⟨_, .maxFuel, by decide +kernel⟩, fun _ => ⟨_, .tagOf, by decide +kernel⟩,
      fun marked => absurd marked (by decide +kernel),
      fun marked => absurd marked (by decide +kernel), List.forall_mem_nil _⟩
  once := by
    have fuel : Setting.maxFuel.Names "WISP__LIMITS__MAX_FUEL" := by decide +kernel
    have tagOf : Setting.tagOf.Names "Wisp__Abi__Tag_Of" := by decide +kernel
    have apart {α : Type} (s : Setting α) (first : s.Names "WISP__LIMITS__MAX_FUEL") :
        ¬ s.Names "Wisp__Abi__Tag_Of" := by
      intro second
      have same := (Setting.path_eq_of_names fuel first).trans
        (Setting.path_eq_of_names second tagOf)
      exact absurd same (by decide)
    have pages {α : Type} (s : Setting α) : ¬ s.Names "PAGES" :=
      mt Setting.marked_of_names (by decide +kernel)
    have guest {α : Type} (s : Setting α) : ¬ s.Names "WISP_GUEST" :=
      mt Setting.marked_of_names (by decide +kernel)
    simp only [layeredEnv, List.pairwise_cons, List.forall_mem_cons]
    exact ⟨⟨apart, fun s _ => pages s, fun s _ => guest s, List.forall_mem_nil _⟩,
      ⟨fun s _ => pages s, fun s _ => guest s, List.forall_mem_nil _⟩,
      ⟨fun s _ => guest s, List.forall_mem_nil _⟩, List.forall_mem_nil _, .nil⟩
  readable := by
    simp only [layeredEnv, List.forall_mem_cons]
    refine ⟨?_, ?_, ?_, ?_, List.forall_mem_nil _⟩
    all_goals
      intro α s names
      cases s <;> first | exact ⟨_, rfl⟩ | exact absurd names (by decide +kernel)
  written := exists_value_layeredFields

theorem eq_layeredConfig_of_given {config : Config}
    (given : ∀ {α : Type} (s : Setting α), ∃ a,
      s.Given layeredEnv layeredFields a ∧ s.get config = s.bounded a) :
    config = layeredConfig "tag" 9 := by
  apply Config.ext_get
  intro α s
  obtain ⟨a, given, value⟩ := given s
  rw [value]
  cases given with
  | overridden member names read =>
    simp only [layeredEnv, List.mem_cons, List.not_mem_nil, or_false] at member
    rcases member with rfl | rfl | rfl | rfl <;> cases s <;>
      first | exact absurd names (by decide +kernel) | (cases read; rfl)
  | written nobody found read =>
    simp only [layeredEnv, List.forall_mem_cons] at nobody
    obtain ⟨fuel, -⟩ := nobody
    cases s <;> cases found <;>
      first | (cases read; rfl) | exact absurd (by decide +kernel) fuel
  | usual nobody absent =>
    simp only [layeredEnv, List.forall_mem_cons] at nobody
    obtain ⟨-, tagOf, -⟩ := nobody
    cases s <;> first | rfl | exact absurd (by decide +kernel) tagOf | cases absent

theorem eq_layeredConfig_of_given_nil {config : Config}
    (given : ∀ {α : Type} (s : Setting α), ∃ a,
      s.Given [] layeredFields a ∧ s.get config = s.bounded a) :
    config = layeredConfig Config.default.abi.tagOf 3 := by
  apply Config.ext_get
  intro α s
  obtain ⟨a, given, value⟩ := given s
  rw [value]
  cases given with
  | overridden member names read => exact absurd member List.not_mem_nil
  | written nobody found read => cases s <;> cases found <;> cases read <;> rfl
  | usual nobody absent => cases s <;> first | rfl | cases absent

/-- One of two limits in the file is overridden, so is a name that the file does not give, and the depth that the
file asks for is pulled down. Without variables the file has the other limit too. The guest is that of its
variable. -/
theorem settings_layered_wispIni :
    Config.load layeredEnv layeredRead "wisp.ini" = .ok (layeredConfig "tag" 9) ∧
      Config.ofText layeredEnv .ini layeredText =
        .ok (layeredConfig Config.default.abi.tagOf 3) ∧
      Config.layer [] layeredFields = layeredFields ∧
      ∃ invocation, Invocation.parse layeredEnv layeredArgs = .ok invocation ∧
        settings layeredEnv layeredRead invocation =
          .ok { layeredConfig "tag" 9 with guest := "other.wasm" } := by
  obtain ⟨file, text, plain, guest⟩ := settings_layered
  have loaded : Config.load layeredEnv layeredRead "wisp.ini" = .ok (layeredConfig "tag" 9) := by
    obtain ⟨config, loaded, given⟩ := file layeredEnv layeredRead "wisp.ini" .ini _ _ _ rfl rfl
      (Text.Utf8.decode?_encode layeredText) parse?_layeredText proper_layeredFields
    rw [loaded, eq_layeredConfig_of_given given]
  refine ⟨loaded, ?_, ?_, ?_⟩
  · obtain ⟨config, read, given⟩ :=
      text layeredEnv .ini layeredText _ parse?_layeredText proper_nil_layeredFields
    rw [read, eq_layeredConfig_of_given_nil given]
  · have tidy : Tree.TidyFields layeredFields :=
      ⟨rfl, ⟨rfl, trivial, trivial⟩, rfl, ⟨rfl, trivial, rfl, trivial, trivial⟩, rfl,
        ⟨rfl, trivial, trivial⟩, trivial⟩
    have roots : ∀ entry ∈ layeredFields, Config.Place.ofName entry.1 = ⟨entry.1, []⟩ := by
      simp only [layeredFields, List.forall_mem_cons]
      exact ⟨by decide +kernel, by decide +kernel, by decide +kernel, List.forall_mem_nil _⟩
    exact plain layeredFields tidy roots
  · have levels : readLevels none .empty layeredArgs =
        .ok ({ Level.empty with config := some "wisp.ini" },
          { Level.empty with operands := ["1"] }, .eval "1") := rfl
    obtain ⟨parses, settles⟩ := guest layeredEnv layeredRead layeredArgs _ _ _ levels
    obtain ⟨invocation, valid⟩ := parses (by decide +kernel)
    have named : invocation.config = some "wisp.ini" := by
      cases valid
      rfl
    exact ⟨invocation, valid, (settles invocation valid).2 _ _ named loaded⟩

end LispHost.Cli
