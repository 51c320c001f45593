import LispHost.Proofs.Config.Places

/-!
Settings one by one.

A configuration is nothing but its settings. Each has a path of names, a value in use when nothing is given,
and a reader for what stands at its path; a whole configuration is read from a tree by reading each of them.
So it is known as soon as every setting is, and no setting depends on another one.
-/

set_option autoImplicit false

namespace LispHost.Config

inductive Setting : Type → Type
  | guest : Setting String
  | memory : Setting String
  | tagOf : Setting String
  | row : Setting String
  | string : Setting String
  | tagInt : Setting String
  | tagSys : Setting String
  | tagDuo : Setting String
  | tagSym : Setting String
  | sysNil : Setting String
  | sysT : Setting String
  | alloc : Setting String
  | read : Setting String
  | eval : Setting String
  | start : Setting String
  | stubPolicy : Setting StubPolicy
  | consoleEncoding : Setting TextDecoding
  | maxDepth : Setting Nat
  | detectCycles : Setting Bool
  | maxMemoryPages : Setting Nat
  | maxTableElements : Setting Nat
  | maxFuel : Setting (Option Nat)

namespace Setting

variable {α β : Type}

def path : {α : Type} → Setting α → List String
  | _, guest => ["guest"]
  | _, memory => ["abi", "memory"]
  | _, tagOf => ["abi", "tag_of"]
  | _, row => ["abi", "row"]
  | _, string => ["abi", "string"]
  | _, tagInt => ["abi", "tag_int"]
  | _, tagSys => ["abi", "tag_sys"]
  | _, tagDuo => ["abi", "tag_duo"]
  | _, tagSym => ["abi", "tag_sym"]
  | _, sysNil => ["abi", "sys_nil"]
  | _, sysT => ["abi", "sys_t"]
  | _, alloc => ["abi", "alloc"]
  | _, read => ["abi", "read"]
  | _, eval => ["abi", "eval"]
  | _, start => ["abi", "initialize"]
  | _, stubPolicy => ["shim", "stub_policy"]
  | _, consoleEncoding => ["shim", "console_encoding"]
  | _, maxDepth => ["decode", "max_depth"]
  | _, detectCycles => ["decode", "detect_cycles"]
  | _, maxMemoryPages => ["limits", "max_memory_pages"]
  | _, maxTableElements => ["limits", "max_table_elements"]
  | _, maxFuel => ["limits", "max_fuel"]

def get : {α : Type} → Setting α → Config → α
  | _, guest, config => config.guest
  | _, memory, config => config.abi.memory
  | _, tagOf, config => config.abi.tagOf
  | _, row, config => config.abi.row
  | _, string, config => config.abi.string
  | _, tagInt, config => config.abi.tagInt
  | _, tagSys, config => config.abi.tagSys
  | _, tagDuo, config => config.abi.tagDuo
  | _, tagSym, config => config.abi.tagSym
  | _, sysNil, config => config.abi.sysNil
  | _, sysT, config => config.abi.sysT
  | _, alloc, config => config.abi.alloc
  | _, read, config => config.abi.read
  | _, eval, config => config.abi.eval
  | _, start, config => config.abi.start
  | _, stubPolicy, config => config.syscalls.stubPolicy
  | _, consoleEncoding, config => config.syscalls.consoleEncoding
  | _, maxDepth, config => config.decode.maxDepth
  | _, detectCycles, config => config.decode.detectCycles
  | _, maxMemoryPages, config => config.limits.maxMemoryPages
  | _, maxTableElements, config => config.limits.maxTableElements
  | _, maxFuel, config => config.limits.maxFuel

def reader : {α : Type} → Setting α → FieldReader α
  | _, guest | _, memory | _, tagOf | _, row | _, string | _, tagInt | _, tagSys | _, tagDuo
  | _, tagSym | _, sysNil | _, sysT | _, alloc | _, read | _, eval | _, start => .text
  | _, stubPolicy => StubPolicy.ofTree
  | _, consoleEncoding => TextDecoding.ofTree
  | _, maxDepth => .long
  | _, detectCycles => .bool
  | _, maxMemoryPages | _, maxTableElements => .short
  | _, maxFuel => .optional .long

def value (s : Setting α) (tree : Tree) : Except Problem α :=
  s.reader (s.path.map .field) tree

def valueOr (s : Setting α) : Option Tree → Except Problem α
  | some tree => s.value tree
  | none => .ok (s.get default)

def valueIn (s : Setting α) (fields : List (String × Tree)) : Except Problem α :=
  s.valueOr ((Tree.table fields).within? s.path)

/-- The paths of the settings: one at the root, and the others in four sections. -/
theorem path_cases (s : Setting α) : s.path = ["guest"] ∨
    ∃ sec ∈ ["abi", "shim", "decode", "limits"], ∃ name, s.path = [sec, name] := by
  cases s <;> simp [path]

theorem apart_of_ne (s : Setting α) (t : Setting β) (differ : s.path ≠ t.path) :
    ¬ s.path <+: t.path := by
  intro inside
  rcases s.path_cases with root | ⟨sec, member, name, nested⟩ <;>
    rcases t.path_cases with root' | ⟨sec', member', name', nested'⟩
  · exact differ (root.trans root'.symm)
  · rw [root, nested', List.cons_prefix_cons] at inside
    rw [← inside.1] at member'
    simp at member'
  · rw [nested, root'] at inside
    exact absurd inside.length_le (by simp)
  · refine differ (inside.eq_of_length ?_)
    rw [nested, nested']
    rfl

end Setting

def ofValues (value : ∀ {α : Type}, Setting α → α) : Config where
  guest := value .guest
  abi :=
    { memory := value .memory, tagOf := value .tagOf, row := value .row, string := value .string
      tagInt := value .tagInt, tagSys := value .tagSys, tagDuo := value .tagDuo
      tagSym := value .tagSym, sysNil := value .sysNil, sysT := value .sysT, alloc := value .alloc
      read := value .read, eval := value .eval, start := value .start }
  syscalls := ⟨value .stubPolicy, value .consoleEncoding⟩
  decode := ⟨value .maxDepth, value .detectCycles⟩
  limits := ⟨value .maxMemoryPages, value .maxTableElements, value .maxFuel⟩

theorem get_ofValues {α : Type} (value : ∀ {α : Type}, Setting α → α) (s : Setting α) :
    s.get (ofValues value) = value s := by
  cases s <;> rfl

theorem ofValues_get (config : Config) : ofValues (fun s => s.get config) = config :=
  rfl

theorem ext_get {first second : Config}
    (same : ∀ {α : Type} (s : Setting α), s.get first = s.get second) : first = second := by
  rw [← ofValues_get first, ← ofValues_get second]
  congr 1
  funext α s
  exact same s

/-! ### Reading a whole configuration -/

def sectionNames : List String := ["abi", "shim", "decode", "limits"]

def SectionsAreTables (fields : List (String × Tree)) : Prop :=
  ∀ sec ∈ sectionNames, ∀ tree, Tree.field? sec fields = some tree → ∃ inner, tree = .table inner

def tableSection (key : Key) (fields : List (String × Tree)) : Section :=
  ⟨key, fun _ name => (Tree.field? name fields).map fun tree => (.field name, tree)⟩

theorem ofTree_table (record : String) (key : Key) (fields : List (String × Tree)) :
    Section.ofTree record key (.table fields) = .ok (tableSection key fields) :=
  rfl

theorem within?_one (name : String) (fields : List (String × Tree)) :
    (Tree.table fields).within? [name] = Tree.field? name fields :=
  Option.bind_fun_some _

theorem within?_two (sec name : String) (fields : List (String × Tree)) :
    (Tree.table fields).within? [sec, name] =
      (Tree.field? sec fields).bind fun tree => Tree.field? name (Place.fieldsOf tree) := by
  have below (tree : Tree) : tree.within? [name] = Tree.field? name (Place.fieldsOf tree) :=
    Option.bind_fun_some _
  exact congrArg (Option.bind (Tree.field? sec fields)) (funext below)

theorem ok_bind {α β : Type} {answer : Except Problem α} {a : α} {next : α → Except Problem β}
    {result : Except Problem β} (ok : answer = .ok a) (rest : next a = result) :
    (answer >>= next) = result := by
  rw [ok]
  exact rest

section Values

variable {α : Type} {fields inner : List (String × Tree)}

theorem field_eq_valueOr (s : Setting α) (key : Key) (index : Nat) {name : String}
    (path : s.path.map .field = key ++ [.field name]) :
    (tableSection key inner).field index name (s.get default) s.reader =
      s.valueOr (Tree.field? name inner) := by
  cases found : Tree.field? name inner with
  | none => simp only [Section.field, tableSection, found, Option.map_none, Setting.valueOr]
  | some tree =>
    simp only [Section.field, tableSection, found, Option.map_some, Setting.valueOr, Setting.value,
      path]

theorem field_of_section (tables : SectionsAreTables fields) {sec : String}
    (named : sec ∈ sectionNames) (index : Nat) {usual whole : α} {ofTree : FieldReader α}
    (absent : Tree.field? sec fields = none → usual = whole)
    (present : ∀ inner, Tree.field? sec fields = some (.table inner) →
      ofTree [.field sec] (.table inner) = .ok whole) :
    (tableSection [] fields).field index sec usual ofTree = .ok whole := by
  cases found : Tree.field? sec fields with
  | none =>
    simp only [Section.field, tableSection, found, Option.map_none]
    rw [absent found]
  | some tree =>
    obtain ⟨inner, rfl⟩ := tables sec named tree found
    simp only [Section.field, tableSection, found, Option.map_some]
    exact present inner found

variable {value : ∀ {α : Type}, Setting α → α}
variable (read : ∀ {α : Type} (s : Setting α), s.valueIn fields = .ok (value s))

include read

theorem field_of_values (s : Setting α) {sec name : String} (path : s.path = [sec, name])
    (found : Tree.field? sec fields = some (.table inner)) (index : Nat) :
    (tableSection [.field sec] inner).field index name (s.get default) s.reader =
      .ok (value s) := by
  rw [field_eq_valueOr s [.field sec] index (by rw [path]; rfl), ← read s, Setting.valueIn, path,
    within?_two, found]
  rfl

theorem usual_of_absent (s : Setting α) {sec name : String} (path : s.path = [sec, name])
    (absent : Tree.field? sec fields = none) : s.get default = value s := by
  have given := read s
  rw [Setting.valueIn, path, within?_two, absent] at given
  exact Except.ok.inj given

theorem abi_of_values (tables : SectionsAreTables fields) :
    (tableSection [] fields).field 1 "abi" default.abi Abi.ofTree =
      .ok (ofValues value).abi := by
  apply field_of_section tables (by simp [sectionNames])
  · intro absent
    have usual (s : Setting String) {name : String} (path : s.path = ["abi", name]) :=
      usual_of_absent read s path absent
    simp only [ofValues, ← usual .memory rfl, ← usual .tagOf rfl, ← usual .row rfl,
      ← usual .string rfl, ← usual .tagInt rfl, ← usual .tagSys rfl, ← usual .tagDuo rfl,
      ← usual .tagSym rfl, ← usual .sysNil rfl, ← usual .sysT rfl, ← usual .alloc rfl,
      ← usual .read rfl, ← usual .eval rfl, ← usual .start rfl]
    rfl
  · intro inner found
    have field (s : Setting String) {name : String} (path : s.path = ["abi", name]) :=
      field_of_values read s path found
    exact ok_bind (ofTree_table _ _ _) <|
      ok_bind (field .memory rfl 0) <| ok_bind (field .tagOf rfl 1) <|
      ok_bind (field .row rfl 2) <| ok_bind (field .string rfl 3) <|
      ok_bind (field .tagInt rfl 4) <| ok_bind (field .tagSys rfl 5) <|
      ok_bind (field .tagDuo rfl 6) <| ok_bind (field .tagSym rfl 7) <|
      ok_bind (field .sysNil rfl 8) <| ok_bind (field .sysT rfl 9) <|
      ok_bind (field .alloc rfl 10) <| ok_bind (field .read rfl 11) <|
      ok_bind (field .eval rfl 12) <| ok_bind (field .start rfl 13) rfl

theorem syscalls_of_values (tables : SectionsAreTables fields) :
    (tableSection [] fields).field 2 "shim" default.syscalls SyscallConfig.ofTree =
      .ok (ofValues value).syscalls := by
  apply field_of_section tables (by simp [sectionNames])
  · intro absent
    simp only [ofValues, ← usual_of_absent read .stubPolicy rfl absent,
      ← usual_of_absent read .consoleEncoding rfl absent]
    rfl
  · intro inner found
    exact ok_bind (ofTree_table _ _ _) <|
      ok_bind (field_of_values read .stubPolicy rfl found 0) <|
      ok_bind (field_of_values read .consoleEncoding rfl found 1) rfl

theorem decode_of_values (tables : SectionsAreTables fields) :
    (tableSection [] fields).field 3 "decode" default.decode DecodeOptions.ofTree =
      .ok (ofValues value).decode := by
  apply field_of_section tables (by simp [sectionNames])
  · intro absent
    simp only [ofValues, ← usual_of_absent read .maxDepth rfl absent,
      ← usual_of_absent read .detectCycles rfl absent]
    rfl
  · intro inner found
    exact ok_bind (ofTree_table _ _ _) <|
      ok_bind (field_of_values read .maxDepth rfl found 0) <|
      ok_bind (field_of_values read .detectCycles rfl found 1) rfl

theorem limits_of_values (tables : SectionsAreTables fields) :
    (tableSection [] fields).field 4 "limits" default.limits Limits.ofTree =
      .ok (ofValues value).limits := by
  apply field_of_section tables (by simp [sectionNames])
  · intro absent
    simp only [ofValues, ← usual_of_absent read .maxMemoryPages rfl absent,
      ← usual_of_absent read .maxTableElements rfl absent,
      ← usual_of_absent read .maxFuel rfl absent]
    rfl
  · intro inner found
    exact ok_bind (ofTree_table _ _ _) <|
      ok_bind (field_of_values read .maxMemoryPages rfl found 0) <|
      ok_bind (field_of_values read .maxTableElements rfl found 1) <|
      ok_bind (field_of_values read .maxFuel rfl found 2) rfl

variable (value) in
theorem ofFields_of_values (tables : SectionsAreTables fields) :
    ofFields fields = .ok (ofValues value) := by
  have guest : (tableSection [] fields).field 0 "guest" default.guest .text =
      .ok (value .guest) := by
    rw [← read .guest, Setting.valueIn, Setting.path, within?_one]
    exact field_eq_valueOr .guest [] 0 rfl
  exact ok_bind (ofTree_table _ _ _) <| ok_bind guest <|
    ok_bind (abi_of_values read tables) <| ok_bind (syscalls_of_values read tables) <|
    ok_bind (decode_of_values read tables) <| ok_bind (limits_of_values read tables) rfl

end Values

end LispHost.Config
