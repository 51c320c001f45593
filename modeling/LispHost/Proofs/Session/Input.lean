import LispHost.Cli.Run
import LispHost.Proofs.Text.Utf8

/-!
Sources on input lines.

A source is found again on the line that it is typed on: its bytes hold no line break but the one that ends
the line, the line is read back as text, and the white space around the source does not count. What is found
is a source and no command, unless it is one of the few words that are commands.
-/

set_option autoImplicit false

namespace LispHost

namespace Text

theorem length_trimRight_le (s : List Char) : (trimRight s).length ≤ s.length := by
  have suffix : s.reverse.dropWhile isBlank <:+ s.reverse := List.dropWhile_suffix isBlank
  calc (trimRight s).length = (s.reverse.dropWhile isBlank).length := List.length_reverse
    _ ≤ s.reverse.length := suffix.length_le
    _ = s.length := List.length_reverse

theorem ends_of_trimmed {s : String} (trimmed : trim s = s) :
    trimLeft s.toList = s.toList ∧ trimRight s.toList = s.toList := by
  have chars : trimRight (trimLeft s.toList) = s.toList := by
    rw [← String.toList_ofList (l := trimRight (trimLeft s.toList))]
    exact congrArg String.toList trimmed
  have suffix : trimLeft s.toList <:+ s.toList := List.dropWhile_suffix isBlank
  have left : trimLeft s.toList = s.toList := by
    apply suffix.eq_of_length
    apply Nat.le_antisymm suffix.length_le
    calc s.toList.length = (trimRight (trimLeft s.toList)).length := by rw [chars]
      _ ≤ (trimLeft s.toList).length := length_trimRight_le _
  rw [left] at chars
  exact ⟨left, chars⟩

theorem trim_append_break {s : String} (trimmed : trim s = s) (nonempty : s ≠ "") :
    trim (s ++ "\n") = s := by
  obtain ⟨left, right⟩ := ends_of_trimmed trimmed
  have before : trimLeft (s.toList ++ ['\n']) = s.toList ++ ['\n'] := by
    unfold trimLeft at left ⊢
    rw [List.dropWhile_append, left, if_neg]
    simpa using nonempty
  have after : trimRight (s.toList ++ ['\n']) = s.toList := by
    have blank : isBlank '\n' = true := by decide
    unfold trimRight at right ⊢
    rw [List.reverse_append, List.reverse_singleton, List.singleton_append,
      List.dropWhile_cons_of_pos blank, right]
  have chars : (s ++ "\n").toList = s.toList ++ ['\n'] := String.toList_append
  unfold trim
  rw [chars, before, after, String.ofList_toList]

end Text

namespace Cli

theorem inputLines_of_last {data : List UInt8} (single : 10 ∉ data) (nonempty : data ≠ []) :
    inputLines data = [data] := by
  induction data with
  | nil => exact absurd rfl nonempty
  | cons b rest ih =>
    have other : b ≠ 10 := fun same => single (same ▸ List.mem_cons_self)
    have later : 10 ∉ rest := fun member => single (List.mem_cons_of_mem b member)
    unfold inputLines
    rw [if_neg other]
    by_cases last : rest = []
    · rw [last]
      rfl
    · rw [ih later last]

theorem inputLines_append_break {data : List UInt8} (single : 10 ∉ data) (rest : List UInt8) :
    inputLines (data ++ 10 :: rest) = (data ++ [10]) :: inputLines rest := by
  induction data with
  | nil => rfl
  | cons b data ih =>
    have other : b ≠ 10 := fun same => single (same ▸ List.mem_cons_self)
    have later : 10 ∉ data := fun member => single (List.mem_cons_of_mem b member)
    rw [List.cons_append, inputLines, if_neg other, ih later]
    rfl

theorem ofLine_of_trim {line source : String} (trimmed : Text.trim line = source)
    (nonempty : source ≠ "") (plain : source ∉ [":q", ":quit", ":history"]) :
    Request.ofLine line = .source source := by
  simp only [List.mem_cons, List.not_mem_nil, or_false, not_or] at plain
  unfold Request.ofLine
  rw [trimmed]
  split
  · exact absurd rfl nonempty
  · exact absurd rfl plain.2.1
  · exact absurd rfl plain.1
  · exact absurd rfl plain.2.2
  · rfl

theorem request_of_source {source : String} {after : List UInt8}
    (single : '\n' ∉ source.toList) (trimmed : Text.trim source = source)
    (nonempty : source ≠ "") (plain : source ∉ [":q", ":quit", ":history"])
    (ending : after = [] ∨ after.head? = some 10) :
    ∃ line later text, inputLines (Text.Utf8.encode source ++ after) = line :: later ∧
      Text.Utf8.decode? line = some text ∧ Request.ofLine text = .source source := by
  have unbroken := Text.Utf8.not_mem_encode single
  rcases ending with rfl | starts
  · have some_bytes : Text.Utf8.encode source ≠ [] := by
      intro none
      have read := Text.Utf8.decode?_encode source
      rw [none] at read
      exact nonempty (Option.some.inj read).symm
    refine ⟨Text.Utf8.encode source, [], source, ?_, Text.Utf8.decode?_encode source,
      ofLine_of_trim trimmed nonempty plain⟩
    rw [List.append_nil, inputLines_of_last unbroken some_bytes]
  · obtain ⟨rest, rfl⟩ := List.head?_eq_some_iff.mp starts
    have decoded : Text.Utf8.decode? (Text.Utf8.encode source ++ [10]) =
        some (source ++ "\n") := by
      rw [← Text.Utf8.decode?_encode (source ++ "\n"), Text.Utf8.encode_append]
      rfl
    exact ⟨_, _, source ++ "\n", inputLines_append_break unbroken rest, decoded,
      ofLine_of_trim (Text.trim_append_break trimmed nonempty) nonempty plain⟩

end Cli

end LispHost
