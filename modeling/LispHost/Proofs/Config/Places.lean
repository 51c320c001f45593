import LispHost.Config.Load

/-!
What stands where in a tree of settings.

A tree of settings is built by setting one place after the other, and no name ever stands twice in one of its
tables. In such a tree a text put at the end of a path of names is found there, and everything that lies
neither above nor below it stays as it was. A layer whose names are plain and whose tables repeat no name is
its own tree.
-/

set_option autoImplicit false

namespace LispHost.Config

namespace Tree

/-- What stands at the end of a path of names in a tree. -/
def within? : List String → Tree → Option Tree
  | [], tree => some tree
  | name :: path, tree => (field? name (Place.fieldsOf tree)).bind (within? path)

mutual

/-- No name stands twice in a table of the tree, those inside lists left aside. -/
def Tidy : Tree → Prop
  | table fields => TidyFields fields
  | _ => True

/-- No name stands twice among the fields, nor in a table among them. -/
def TidyFields : List (String × Tree) → Prop
  | [] => True
  | (name, value) :: fields => field? name fields = none ∧ value.Tidy ∧ TidyFields fields

end

theorem field?_cons (name : String) (entry : String × Tree) (fields : List (String × Tree)) :
    field? name (entry :: fields) =
      (field? name fields).or (if entry.1 = name then some entry.2 else none) := by
  simp only [field?, List.reverse_cons, List.find?_append, List.find?_singleton]
  cases List.find? (fun e => decide (e.1 = name)) fields.reverse with
  | some found => rfl
  | none => by_cases same : entry.1 = name <;> simp [same]

theorem field?_append (name : String) (first second : List (String × Tree)) :
    field? name (first ++ second) = (field? name second).or (field? name first) := by
  simp only [field?, List.reverse_append, List.find?_append]
  cases List.find? (fun e => decide (e.1 = name)) second.reverse <;> rfl

theorem field?_eq_none_iff {name : String} {fields : List (String × Tree)} :
    field? name fields = none ↔ ∀ entry ∈ fields, entry.1 ≠ name := by
  simp [field?]

theorem field?_setField {fields : List (String × Tree)} (tidy : TidyFields fields) (m n : String)
    (value : Tree) :
    field? m (setField n value fields) = if m = n then some value else field? m fields := by
  induction fields with
  | nil =>
    rw [setField, field?_cons]
    by_cases same : m = n
    · simp [same, field?]
    · simp [same, Ne.symm same, field?]
  | cons entry fields ih =>
    obtain ⟨name, old⟩ := entry
    obtain ⟨once, -, rest⟩ := tidy
    rw [setField]
    by_cases here : name = n
    · subst here
      rw [if_pos rfl, field?_cons, field?_cons]
      by_cases same : m = name
      · subst same
        simp [once]
      · simp [same, Ne.symm same]
    · rw [if_neg here, field?_cons, field?_cons, ih rest]
      by_cases same : m = n
      · subst same
        simp
      · simp [same]

theorem tidyFields_setField {fields : List (String × Tree)} (tidy : TidyFields fields)
    (name : String) {value : Tree} (inner : value.Tidy) :
    TidyFields (setField name value fields) := by
  induction fields with
  | nil => exact ⟨rfl, inner, trivial⟩
  | cons entry fields ih =>
    obtain ⟨other, old⟩ := entry
    obtain ⟨once, old_tidy, rest⟩ := tidy
    rw [setField]
    by_cases here : other = name
    · subst here
      rw [if_pos rfl]
      exact ⟨once, inner, rest⟩
    · rw [if_neg here]
      refine ⟨?_, old_tidy, ih rest⟩
      rw [field?_setField rest, if_neg here]
      exact once

theorem setField_of_absent {name : String} {fields : List (String × Tree)}
    (absent : field? name fields = none) (value : Tree) :
    setField name value fields = fields ++ [(name, value)] := by
  induction fields with
  | nil => rfl
  | cons entry fields ih =>
    rw [field?_cons, Option.or_eq_none_iff] at absent
    obtain ⟨later, other⟩ := absent
    rw [setField, if_neg, ih later]
    · rfl
    · intro same
      simp [same] at other

theorem tidy_of_field? {name : String} {fields : List (String × Tree)} {value : Tree}
    (tidy : TidyFields fields) (found : field? name fields = some value) : value.Tidy := by
  induction fields with
  | nil => cases found
  | cons entry fields ih =>
    obtain ⟨-, inner, rest⟩ := tidy
    rw [field?_cons, Option.or_eq_some_iff] at found
    rcases found with found | ⟨-, found⟩
    · exact ih rest found
    · split at found
      · cases found
        exact inner
      · cases found

theorem tidyFields_fieldsOf {tree : Tree} (tidy : tree.Tidy) :
    TidyFields (Place.fieldsOf tree) := by
  cases tree with
  | table fields => exact tidy
  | _ => trivial

theorem tidy_inner {fields : List (String × Tree)} (tidy : TidyFields fields) (name : String) :
    ((field? name fields).getD .nil).Tidy := by
  cases found : field? name fields with
  | none => trivial
  | some value => exact tidy_of_field? tidy found

end Tree

namespace Place

open Config.Tree

mutual

theorem tidy_overlayFields : ∀ (fields : List (String × Tree)) {old : List (String × Tree)},
    TidyFields old → TidyFields (overlayFields fields old)
  | [], _, tidy => tidy
  | (name, value) :: fields, _, tidy =>
    tidy_overlayFields fields (tidy_overlayField name value tidy)

theorem tidy_overlayField (name : String) : ∀ (value : Tree) {old : List (String × Tree)},
    TidyFields old → TidyFields (overlayField name value old)
  | .table [], old, tidy => by
    rw [overlayField]
    split
    · exact tidy
    · exact tidyFields_setField tidy name trivial
  | .table (field :: fields), old, tidy => by
    rw [overlayField]
    exact tidyFields_setField tidy name
      (tidy_overlayFields (field :: fields) (tidyFields_fieldsOf (tidy_inner tidy name)))
  | .nil, _, tidy | .bool _, _, tidy | .int _, _, tidy | .float _, _, tidy | .text _ _, _, tidy
  | .list _, _, tidy => tidyFields_setField tidy name trivial

end

theorem tidy_setSteps (value : Tree) (steps : List Step) {old : Tree} (tidy : old.Tidy) :
    (setSteps value steps old).Tidy := by
  induction steps generalizing old with
  | nil => exact tidy
  | cons step steps ih =>
    cases step with
    | index index => cases steps <;> trivial
    | name name =>
      have fields := tidyFields_fieldsOf tidy
      cases steps with
      | nil => exact tidy_overlayField name value fields
      | cons next steps => exact tidyFields_setField fields name (ih (tidy_inner fields name))

theorem tidy_set (place : Place) (value : Tree) {fields : List (String × Tree)}
    (tidy : TidyFields fields) : TidyFields (place.set value fields) :=
  tidyFields_fieldsOf (tidy_setSteps value (.name place.start :: place.steps) tidy)

def ofPath : List String → Place
  | [] => ⟨"", []⟩
  | name :: path => ⟨name, path.map .name⟩

/-- A tree with a text put at the end of a path of names. -/
def put (source : Source) (value : String) : List String → Tree → Tree
  | [], _ => .text source value
  | name :: path, tree =>
    .table (setField name (put source value path ((field? name (fieldsOf tree)).getD .nil))
      (fieldsOf tree))

theorem setSteps_text (source : Source) (value : String) (name : String) (path : List String)
    (tree : Tree) :
    setSteps (.text source value) ((name :: path).map .name) tree =
      put source value (name :: path) tree := by
  induction path generalizing name tree with
  | nil => rfl
  | cons next path ih =>
    rw [put, ← ih next]
    rfl

theorem within?_put_self (source : Source) (value : String) (path : List String) {tree : Tree}
    (tidy : tree.Tidy) : (put source value path tree).within? path = some (.text source value) := by
  induction path generalizing tree with
  | nil => rfl
  | cons name path ih =>
    have fields := tidyFields_fieldsOf tidy
    rw [put, within?]
    change (field? name (setField name _ (fieldsOf tree))).bind _ = _
    rw [field?_setField fields, if_pos rfl]
    exact ih (tidy_inner fields name)

/-- What lies neither above nor below the path of a text that is put somewhere stays as it was. -/
theorem within?_put_of_apart (source : Source) (value : String) {path other : List String}
    {tree : Tree} (tidy : tree.Tidy) (above : ¬ path <+: other) (below : ¬ other <+: path) :
    (put source value path tree).within? other = tree.within? other := by
  induction path generalizing tree other with
  | nil => exact absurd List.nil_prefix above
  | cons name path ih =>
    cases other with
    | nil => exact absurd List.nil_prefix below
    | cons first other =>
      have fields := tidyFields_fieldsOf tidy
      rw [put, within?, within?]
      change (field? first (setField name _ (fieldsOf tree))).bind _ = _
      rw [field?_setField fields]
      by_cases same : first = name
      · subst same
        have apart := ih (tidy_inner fields first)
          (fun inside => above (List.cons_prefix_cons.mpr ⟨rfl, inside⟩))
          (fun inside => below (List.cons_prefix_cons.mpr ⟨rfl, inside⟩))
        rw [if_pos rfl, Option.bind_some, apart]
        cases found : field? first (fieldsOf tree) with
        | some inner => rfl
        | none =>
          -- Nothing stands below a name that is not there, and the path goes on below it.
          cases other with
          | nil => exact absurd (List.cons_prefix_cons.mpr ⟨rfl, List.nil_prefix⟩) below
          | cons second other => rfl
      · rw [if_neg same]

theorem set_text (source : Source) (value : String) (name : String) (path : List String)
    (fields : List (String × Tree)) :
    Tree.table ((ofPath (name :: path)).set (.text source value) fields) =
      put source value (name :: path) (.table fields) := by
  have steps := setSteps_text source value name path (.table fields)
  rw [ofPath, set]
  change Tree.table (fieldsOf (setSteps _ ((name :: path).map .name) _)) = _
  rw [steps]
  rfl

/-! ### Fields without repeated names -/

mutual

theorem overlayFields_of_tidy : ∀ fields old : List (String × Tree),
    TidyFields fields → (∀ entry ∈ fields, field? entry.1 old = none) →
    overlayFields fields old = old ++ fields
  | [], old, _, _ => by rw [overlayFields, List.append_nil]
  | (name, value) :: fields, old, ⟨once, inner, rest⟩, apart => by
    have added := overlayField_of_tidy name value old inner
      (apart (name, value) List.mem_cons_self)
    rw [overlayFields, added, overlayFields_of_tidy fields _ rest, List.append_assoc]
    · rfl
    · intro entry member
      have other : name ≠ entry.1 := (field?_eq_none_iff.mp once entry member).symm
      rw [field?_append, apart entry (List.mem_cons_of_mem _ member), field?_cons, if_neg other]
      rfl

theorem overlayField_of_tidy (name : String) : ∀ (value : Tree) (old : List (String × Tree)),
    value.Tidy → field? name old = none → overlayField name value old = old ++ [(name, value)]
  | .table [], old, _, absent => by
    rw [overlayField, absent]
    exact setField_of_absent absent _
  | .table (field :: fields), old, inner, absent => by
    have whole := overlayFields_of_tidy (field :: fields) [] inner (fun _ _ => rfl)
    rw [overlayField, absent]
    change setField name (.table (overlayFields (field :: fields) [])) old = _
    rw [whole]
    exact setField_of_absent absent _
  | .nil, _, _, absent | .bool _, _, _, absent | .int _, _, _, absent | .float _, _, _, absent
  | .text _ _, _, _, absent | .list _, _, _, absent => setField_of_absent absent _

end

end Place

theorem tidy_layer (settings : List (String × Tree)) {fields : List (String × Tree)}
    (tidy : Tree.TidyFields fields) : Tree.TidyFields (layer fields settings) := by
  induction settings generalizing fields with
  | nil => exact tidy
  | cons setting settings ih => exact ih (Place.tidy_set (Place.ofName setting.1) setting.2 tidy)

/-- Tidy fields with plain names, which lead to no place but themselves, are a tree as they stand. -/
theorem layer_of_plain {fields : List (String × Tree)} (tidy : Tree.TidyFields fields)
    (plain : ∀ entry ∈ fields, Place.ofName entry.1 = ⟨entry.1, []⟩) :
    layer [] fields = fields := by
  have overlaid (old : List (String × Tree)) :
      layer old fields = Place.overlayFields fields old := by
    clear tidy
    induction fields generalizing old with
    | nil =>
      rw [Place.overlayFields]
      rfl
    | cons entry fields ih =>
      obtain ⟨here, later⟩ := List.forall_mem_cons.mp plain
      rw [Place.overlayFields, ← ih later, layer, List.foldl_cons, here]
      rfl
  rw [overlaid, Place.overlayFields_of_tidy fields [] tidy fun _ _ => rfl, List.nil_append]

end LispHost.Config
