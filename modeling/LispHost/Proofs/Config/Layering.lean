import LispHost.Proofs.Config.Settings
import Mathlib.Data.List.Basic
import Mathlib.Data.List.Pairwise
import Mathlib.Tactic.ByContra
import Mathlib.Tactic.Choose

/-!
Layers of settings.

A variable names a setting by its path, in any case, with two underscores between the names; a single one is
part of a name. It puts its value at that path and changes no other setting, those of the same section
included. So each setting by itself has the value of its variable, or else what stands in the file, or else its
usual value.
-/

set_option autoImplicit false

namespace LispHost.Config

namespace Setting

variable {α β : Type}

/-- A variable names a setting: the mark comes first, and two underscores part the names of the path. -/
def Names (s : Setting α) (name : String) : Prop :=
  Text.lowercase name = overrideMark ++ "__".intercalate s.path

instance (s : Setting α) (name : String) : Decidable (s.Names name) :=
  inferInstanceAs (Decidable (_ = _))

/-- The value of a setting, pulled down to its ceiling if it has one. -/
def bounded : {α : Type} → Setting α → α → α
  | _, maxDepth, depth => min depth 2048
  | _, _, value => value

theorem get_clamped (s : Setting α) (config : Config) :
    s.get config.clamped = s.bounded (s.get config) := by
  cases s <;> rfl

theorem marked_of_names {s : Setting α} {name : String} (names : s.Names name) :
    overrideMark.toList.isPrefixOf (Text.lowercase name).toList = true := by
  rw [Setting.Names] at names
  rw [names]
  cases s <;> decide +kernel

theorem override?_of_names {s : Setting α} (entry : String × String) (names : s.Names entry.1) :
    override? entry = some (".".intercalate s.path, .text .environment entry.2) := by
  have marked := marked_of_names names
  have dotted : String.ofList (settingName
      ((overrideMark ++ "__".intercalate s.path).toList.drop overrideMark.toList.length)) =
      ".".intercalate s.path := by
    cases s <;> decide +kernel
  have lower : Text.lowercase entry.1 = overrideMark ++ "__".intercalate s.path := names
  simp only [override?, marked, if_true]
  rw [lower, dotted]

theorem ofName_path (s : Setting α) :
    Place.ofName (".".intercalate s.path) = Place.ofPath s.path := by
  cases s <;> decide +kernel

theorem exists_path (s : Setting α) : ∃ name rest, s.path = name :: rest := by
  cases s <;> exact ⟨_, _, rfl⟩

theorem path_eq_of_names {s : Setting α} {t : Setting β} {name : String} (first : s.Names name)
    (second : t.Names name) : s.path = t.path := by
  have one := override?_of_names (name, "") first
  have two := override?_of_names (name, "") second
  have same : ".".intercalate s.path = ".".intercalate t.path :=
    congrArg Prod.fst (Option.some.inj (one.symm.trans two))
  have places : Place.ofPath s.path = Place.ofPath t.path := by
    rw [← s.ofName_path, ← t.ofName_path, same]
  obtain ⟨n, rest, path⟩ := s.exists_path
  obtain ⟨m, rest', path'⟩ := t.exists_path
  rw [path, path'] at places ⊢
  obtain ⟨rfl, steps⟩ := Place.mk.inj places
  rw [List.map_injective_iff.mpr (fun _ _ => Step.name.inj) steps]

/-- What a setting is given by some variables over some fields. -/
inductive Given (env : Environment) (fields : List (String × Tree)) (s : Setting α) : α → Prop
  | overridden {entry : String × String} {a : α} :
      entry ∈ env → s.Names entry.1 → s.value (.text .environment entry.2) = .ok a →
      Given env fields s a
  | written {tree : Tree} {a : α} :
      (∀ entry ∈ env, ¬ s.Names entry.1) → (Tree.table fields).within? s.path = some tree →
      s.value tree = .ok a → Given env fields s a
  | usual :
      (∀ entry ∈ env, ¬ s.Names entry.1) → (Tree.table fields).within? s.path = none →
      Given env fields s (s.get default)

end Setting

/-- Variables and fields that hold nothing but settings: the sections are tables, every variable with the mark
names a setting and no other variable names the same one, and all values can be read. -/
structure Proper (env : Environment) (fields : List (String × Tree)) : Prop where
  tables : SectionsAreTables fields
  named : ∀ entry ∈ env, overrideMark.toList.isPrefixOf (Text.lowercase entry.1).toList = true →
    ∃ (α : Type) (s : Setting α), s.Names entry.1
  once : env.Pairwise fun first second =>
    ∀ {α : Type} (s : Setting α), s.Names first.1 → ¬ s.Names second.1
  readable : ∀ entry ∈ env, ∀ {α : Type} (s : Setting α), s.Names entry.1 →
    ∃ a, s.value (.text .environment entry.2) = .ok a
  written : ∀ {α : Type} (s : Setting α) (tree : Tree),
    (Tree.table fields).within? s.path = some tree → ∃ a, s.value tree = .ok a

theorem Setting.Given.unique {α : Type} {env : Environment} {fields : List (String × Tree)}
    {s : Setting α} {a b : α} (proper : Proper env fields) (first : s.Given env fields a)
    (second : s.Given env fields b) : a = b := by
  cases first with
  | @overridden entry _ member names read =>
    cases second with
    | @overridden other _ member' names' read' =>
      have same : entry = other := by
        by_contra differ
        have symmetric : Std.Symm fun first second : String × String =>
            ∀ {α : Type} (s : Setting α), s.Names first.1 → ¬ s.Names second.1 :=
          ⟨fun _ _ apart _ s one two => apart s two one⟩
        exact proper.once.forall member member' differ s names names'
      rw [same, read'] at read
      exact (Except.ok.inj read).symm
    | written nobody | usual nobody => exact absurd names (nobody _ member)
  | written nobody found read =>
    cases second with
    | overridden member names => exact absurd names (nobody _ member)
    | written _ found' read' =>
      rw [found] at found'
      cases found'
      exact Except.ok.inj (read.symm.trans read')
    | usual _ absent => exact absurd (absent.symm.trans found) (by simp)
  | usual nobody absent =>
    cases second with
    | overridden member names => exact absurd names (nobody _ member)
    | written _ found => exact absurd (absent.symm.trans found) (by simp)
    | usual => rfl

/-! ### One variable -/

section One

variable {α β : Type} {entry : String × String} {fields : List (String × Tree)}

theorem exists_layer_cons {t : Setting β} (names : t.Names entry.1) (env : Environment)
    (tidy : Tree.TidyFields fields) :
    ∃ next, layer fields (overrides (entry :: env)) = layer next (overrides env) ∧
      Tree.TidyFields next ∧
      Tree.table next = Place.put .environment entry.2 t.path (.table fields) := by
  have entered := Setting.override?_of_names entry names
  obtain ⟨name, rest, path⟩ := t.exists_path
  refine ⟨(Place.ofPath t.path).set (.text .environment entry.2) fields, ?_,
    Place.tidy_set _ _ tidy, ?_⟩
  · rw [overrides, List.filterMap_cons_some entered, layer, List.foldl_cons, t.ofName_path]
    rfl
  · rw [path]
    exact Place.set_text .environment entry.2 name rest fields

theorem layer_cons_of_unmarked (unmarked : override? entry = none) (env : Environment)
    (fields : List (String × Tree)) :
    layer fields (overrides (entry :: env)) = layer fields (overrides env) := by
  rw [overrides, List.filterMap_cons_none unmarked]
  rfl

theorem tables_of_put {next : List (String × Tree)} (tidy : Tree.TidyFields fields)
    (tables : SectionsAreTables fields) (t : Setting β) {source : Source} {value : String}
    (put : Tree.table next = Place.put source value t.path (.table fields)) :
    SectionsAreTables next := by
  intro sec member tree found
  rcases t.path_cases with path | ⟨sec', -, name, path⟩
  · rw [path, Place.put] at put
    cases put
    rw [Place.fieldsOf, Tree.field?_setField tidy] at found
    split at found
    · rename_i same
      subst same
      simp [sectionNames] at member
    · exact tables sec member tree found
  · rw [path, Place.put] at put
    cases put
    rw [Place.fieldsOf, Tree.field?_setField tidy] at found
    split at found
    · cases found
      exact ⟨_, rfl⟩
    · exact tables sec member tree found

end One

/-! ### All variables -/

section All

variable {α : Type} {env : Environment} {fields : List (String × Tree)}

theorem isPrefixOf_of_override? {entry : String × String} {setting : String × Tree}
    (entered : override? entry = some setting) :
    overrideMark.toList.isPrefixOf (Text.lowercase entry.1).toList = true := by
  simp only [override?] at entered
  split at entered
  · assumption
  · cases entered

/-- A variable is found at the path that it names, and the other settings stay as they are. -/
theorem within?_layer (tidy : Tree.TidyFields fields)
    (named : ∀ entry ∈ env, overrideMark.toList.isPrefixOf (Text.lowercase entry.1).toList = true →
      ∃ (α : Type) (s : Setting α), s.Names entry.1)
    (once : env.Pairwise fun first second =>
      ∀ {α : Type} (s : Setting α), s.Names first.1 → ¬ s.Names second.1)
    (tables : SectionsAreTables fields) :
    SectionsAreTables (layer fields (overrides env)) ∧ ∀ s : Setting α,
    (∀ entry ∈ env, s.Names entry.1 →
      (Tree.table (layer fields (overrides env))).within? s.path =
        some (.text .environment entry.2)) ∧
    ((∀ entry ∈ env, ¬ s.Names entry.1) →
      (Tree.table (layer fields (overrides env))).within? s.path =
        (Tree.table fields).within? s.path) := by
  induction env generalizing fields with
  | nil => exact ⟨tables, fun s => ⟨fun _ member => absurd member List.not_mem_nil, fun _ => rfl⟩⟩
  | cons first env ih =>
    obtain ⟨named_first, named_rest⟩ := List.forall_mem_cons.mp named
    obtain ⟨alone, once_rest⟩ := List.pairwise_cons.mp once
    cases entered : override? first with
    | none =>
      have unnamed (s : Setting α) : ¬ s.Names first.1 := by
        intro names
        rw [Setting.override?_of_names first names] at entered
        cases entered
      rw [layer_cons_of_unmarked entered]
      obtain ⟨tables, settings⟩ := ih tidy named_rest once_rest tables
      refine ⟨tables, fun s => ⟨?_, ?_⟩⟩
      · exact List.forall_mem_cons.mpr
          ⟨fun names => absurd names (unnamed s), (settings s).1⟩
      · exact fun nobody => (settings s).2 (List.forall_mem_cons.mp nobody).2
    | some setting =>
      obtain ⟨β, t, names⟩ := named_first (isPrefixOf_of_override? entered)
      obtain ⟨next, layered, next_tidy, put⟩ := exists_layer_cons names env tidy
      obtain ⟨tables, settings⟩ :=
        ih next_tidy named_rest once_rest (tables_of_put tidy tables t put)
      rw [layered]
      refine ⟨tables, fun s => ⟨?_, ?_⟩⟩
      · refine List.forall_mem_cons.mpr ⟨fun here => ?_, (settings s).1⟩
        have same := Setting.path_eq_of_names here names
        -- No later variable names this setting, so what the first one puts there stays.
        rw [(settings s).2 fun entry member => alone entry member s here, put, same]
        exact Place.within?_put_self .environment first.2 t.path tidy
      · intro nobody
        obtain ⟨elsewhere, later⟩ := List.forall_mem_cons.mp nobody
        have differ : s.path ≠ t.path := by
          intro same
          rw [Setting.Names, same] at elsewhere
          exact elsewhere names
        rw [(settings s).2 later, put]
        exact Place.within?_put_of_apart .environment first.2 tidy
          (t.apart_of_ne s differ.symm) (s.apart_of_ne t differ)

/-- With variables and fields that hold nothing but settings, each setting is given a value, and the layered
fields are read as just these values. -/
theorem exists_given (tidy : Tree.TidyFields fields) (proper : Proper env fields) :
    ∃ config, ofFields (layer fields (overrides env)) = .ok config ∧
      ∀ {α : Type} (s : Setting α), s.Given env fields (s.get config) := by
  have layered {α : Type} := within?_layer (α := α) tidy proper.named proper.once proper.tables
  have each (α : Type) (s : Setting α) :
      ∃ a, s.valueIn (layer fields (overrides env)) = .ok a ∧ s.Given env fields a := by
    obtain ⟨overridden, kept⟩ := layered.2 s
    by_cases named : ∃ entry ∈ env, s.Names entry.1
    · obtain ⟨entry, member, names⟩ := named
      obtain ⟨a, read⟩ := proper.readable entry member s names
      refine ⟨a, ?_, .overridden member names read⟩
      rw [Setting.valueIn, overridden entry member names]
      exact read
    · have nobody : ∀ entry ∈ env, ¬ s.Names entry.1 :=
        fun entry member names => named ⟨entry, member, names⟩
      cases found : (Tree.table fields).within? s.path with
      | none =>
        refine ⟨s.get default, ?_, .usual nobody found⟩
        rw [Setting.valueIn, kept nobody, found]
        rfl
      | some tree =>
        obtain ⟨a, read⟩ := proper.written s tree found
        refine ⟨a, ?_, .written nobody found read⟩
        rw [Setting.valueIn, kept nobody, found]
        exact read
  -- Each setting is read by itself, so together the values are a whole configuration.
  choose value read given using each
  have whole := ofFields_of_values (fun {α} s => value α s) (fun s => read _ s)
    (layered (α := String)).1
  refine ⟨_, whole, fun s => ?_⟩
  rw [get_ofValues]
  exact given _ s

/-- The settings in a text with a layer of variables over them: every setting by itself has the value it is
given, with the bound of decoding pulled down, and no other is altered. -/
theorem ofLayers_given {format : Format} {text : String} {fields : List (String × Tree)}
    (origin : Origin) (source : Environment)
    (parsed : format.parse? (substitute source text) = some fields)
    (proper : Proper env (layer [] (Tree.lowerFields fields))) :
    ∃ config, ofLayers source origin format text (overrides env) = .ok config ∧
      ∀ {α : Type} (s : Setting α), ∃ a,
        s.Given env (layer [] (Tree.lowerFields fields)) a ∧ s.get config = s.bounded a := by
  have tidy : Tree.TidyFields (layer [] (Tree.lowerFields fields)) := tidy_layer _ trivial
  obtain ⟨config, read, given⟩ := exists_given tidy proper
  refine ⟨config.clamped, ?_, fun s => ⟨_, given s, s.get_clamped config⟩⟩
  simp only [ofLayers, parsed, read]

end All

end LispHost.Config
