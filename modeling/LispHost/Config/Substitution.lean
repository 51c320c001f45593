import LispHost.Text.WordChar

/-!
References to environment variables in a text.

A reference is a name in braces after a dollar sign, or a bare name after it that no word character
follows. One pass from left to right replaces each reference whose variable is set by the value as it
stands; all other characters stay.
-/

set_option autoImplicit false

namespace LispHost.Config

/-- The variables that are set, each once. -/
abbrev Environment := List (String × String)

def Environment.value? (env : Environment) (name : String) : Option String :=
  env.lookup name

namespace Substitution

def startsName (c : Char) : Bool :=
  c.isAlpha || c = '_'

def continuesName (c : Char) : Bool :=
  c.isAlphanum || c = '_'

def name? : List Char → Option (List Char × List Char)
  | [] => none
  | c :: rest =>
    if startsName c then some (c :: rest.takeWhile continuesName, rest.dropWhile continuesName)
    else none

/-- The name in the braces opened at the front of a text, and the rest. -/
def braced? (s : List Char) : Option (List Char × List Char) :=
  match name? s with
  | some (name, '\x7d' :: rest) => some (name, rest)
  | _ => none

/-- The bare name at the front of a text, and the rest; no word character may follow. -/
def bare? (s : List Char) : Option (List Char × List Char) :=
  match name? s with
  | some (name, rest) => if rest.head?.any Text.isWordChar then none else some (name, rest)
  | none => none

/-- The name of the reference whose dollar sign has been read, and the rest. -/
def reference? : List Char → Option (List Char × List Char)
  | '\x7b' :: rest => braced? rest
  | s => bare? s

theorem length_lt_of_name? {s name rest : List Char} (h : name? s = some (name, rest)) :
    rest.length < s.length := by
  cases s with
  | nil => simp [name?] at h
  | cons c s =>
    simp only [name?] at h
    split at h
    · obtain ⟨rfl, rfl⟩ := Prod.mk.inj (Option.some.inj h)
      have := (List.dropWhile_suffix continuesName (l := s)).length_le
      simp only [List.length_cons]
      omega
    · simp at h

theorem length_lt_of_reference? {s name rest : List Char} (h : reference? s = some (name, rest)) :
    rest.length < s.length := by
  unfold reference? at h
  split at h
  · rename_i s
    unfold braced? at h
    split at h
    · rename_i found rest' hname
      obtain ⟨rfl, rfl⟩ := Prod.mk.inj (Option.some.inj h)
      have := length_lt_of_name? hname
      simp only [List.length_cons] at this ⊢
      omega
    · simp at h
  · unfold bare? at h
    split at h
    · rename_i found rest' hname
      split at h
      · simp at h
      · obtain ⟨rfl, rfl⟩ := Prod.mk.inj (Option.some.inj h)
        exact length_lt_of_name? hname
    · simp at h

def replace (value? : String → Option String) : List Char → List Char
  | [] => []
  | '$' :: rest =>
    match h : reference? rest with
    | some (name, after) =>
      have _shorter : after.length < rest.length := length_lt_of_reference? h
      match value? (String.ofList name) with
      | some value => value.toList ++ replace value? after
      | none => '$' :: replace value? rest
    | none => '$' :: replace value? rest
  | c :: rest => c :: replace value? rest
termination_by s => s.length
decreasing_by all_goals simp only [List.length_cons]; omega

end Substitution

/-- A text with its references to set variables replaced by their values. -/
def substitute (env : Environment) (text : String) : String :=
  String.ofList (Substitution.replace env.value? text.toList)

end LispHost.Config
