import Mathlib.Data.List.Basic
import Mathlib.Data.List.TakeWhile
import TabularQuery.Proofs.StageErrors

/-! A parsed expression written out again. The text is that which was parsed, up to one line feed at its end. -/

namespace TabularQuery

/-- An expression in the words of a text without line feeds, and perhaps one line feed after them. -/
structure Worded (text expression : String) : Prop where
  unbroken : '\n' ∉ text.toList
  ended : expression = text ∨ expression = text ++ "\n"

namespace Condition

theorem dropFinalLineFeed_cases (text : List Char) :
    text = dropFinalLineFeed text ∨ text = dropFinalLineFeed text ++ ['\n'] := by
  unfold dropFinalLineFeed
  split
  next last => exact Or.inr (List.dropLast_append_getLast? _ last).symm
  next => exact Or.inl rfl

theorem worded_of_body {text expression : String} (unbroken : '\n' ∉ text.toList)
    (body : dropFinalLineFeed expression.toList = text.toList) : Worded text expression := by
  refine ⟨unbroken, ?_⟩
  rcases dropFinalLineFeed_cases expression.toList with same | same
  · left
    apply String.toList_inj.mp
    rw [same, body]
  · right
    apply String.toList_inj.mp
    rw [same, body, String.toList_append]
    rfl

theorem body_of_worded {text expression : String} (worded : Worded text expression) :
    dropFinalLineFeed expression.toList = text.toList := by
  obtain ⟨unbroken, rfl | rfl⟩ := worded
  · rw [dropFinalLineFeed, if_neg]
    exact fun last => unbroken (List.mem_of_mem_getLast? last)
  · have feed : "\n".toList = ['\n'] := rfl
    rw [dropFinalLineFeed, String.toList_append, feed, if_pos List.getLast?_concat, List.dropLast_concat]

theorem not_mem_of_class {letter : Char → Bool} {text : List Char} (refused : letter '\n' = false)
    (letters : ∀ c ∈ text, letter c = true) : '\n' ∉ text := by
  intro member
  rw [letters _ member] at refused
  cases refused

theorem symbol_of_ofChar? {c : Char} {comparison : Comparison} (read : Comparison.ofChar? c = some comparison) :
    comparison.symbol = c := by
  unfold Comparison.ofChar? at read
  split at read
  all_goals cases read
  all_goals rfl

theorem parse_eq_ok_iff {expression : String} {condition : Condition} :
    parse expression = .ok condition ↔ parse? expression = some condition := by
  unfold parse
  split
  next found => rw [found, Except.ok.injEq, Option.some.injEq]
  next refused => simp [refused]

theorem letters_of_parse {expression : String} {condition : Condition} (parsed : parse expression = .ok condition) :
    (condition.column ≠ "" ∧ ∀ c ∈ condition.column.toList, isColumnChar c = true) ∧
      (condition.value ≠ "" ∧ ∀ c ∈ condition.value.toList, isValueChar c = true) ∧
      dropFinalLineFeed expression.toList = condition.text.toList := by
  have read := parse_eq_ok_iff.mp parsed
  simp only [parse?] at read
  split at read
  next => cases read
  next symbol value rest =>
    split at read
    next allowed =>
      obtain ⟨comparison, shown, rfl⟩ := Option.map_eq_some_iff.mp read
      obtain rfl := symbol_of_ofChar? shown
      obtain ⟨named, valued, letters⟩ := allowed
      simp only [Condition.text, String.toList_append, String.toList_ofList, String.toList_singleton, List.append_assoc,
        List.singleton_append]
      refine ⟨⟨?_, fun c member => List.mem_takeWhile_imp member⟩, ⟨?_, List.all_eq_true.mp letters⟩, ?_⟩
      · exact fun empty => named (String.ofList_eq_empty_iff.mp empty)
      · exact fun empty => valued (String.ofList_eq_empty_iff.mp empty)
      · rw [← rest, List.takeWhile_append_dropWhile]
    next => cases read

theorem unbroken_text {condition : Condition} (name : ∀ c ∈ condition.column.toList, isColumnChar c = true)
    (value : ∀ c ∈ condition.value.toList, isValueChar c = true) : '\n' ∉ condition.text.toList := by
  have symbol : '\n' ∉ (String.singleton condition.comparison.symbol).toList := by
    cases condition.comparison <;> decide
  simp only [Condition.text, String.toList_append, List.mem_append, not_or]
  exact ⟨⟨not_mem_of_class (by decide) name, symbol⟩, not_mem_of_class (by decide) value⟩

theorem parse_worded {expression : String} {condition : Condition} (parsed : parse expression = .ok condition) :
    Worded condition.text expression := by
  obtain ⟨⟨-, name⟩, ⟨-, value⟩, body⟩ := letters_of_parse parsed
  exact worded_of_body (unbroken_text name value) body

end Condition

namespace Summary
open Condition

theorem keyword_of_ofKeyword? {text : String} {statistic : Statistic} (read : Statistic.ofKeyword? text = some statistic) :
    statistic.keyword = text := by
  unfold Statistic.ofKeyword? at read
  split at read
  all_goals cases read
  all_goals rfl

theorem parse_eq_ok_iff {expression : String} {summary : Summary} :
    parse expression = .ok summary ↔ parse? expression = some summary := by
  unfold parse
  split
  next found => rw [found, Except.ok.injEq, Option.some.injEq]
  next refused => simp [refused]

theorem letters_of_parse {expression : String} {summary : Summary} (parsed : parse expression = .ok summary) :
    (∀ c ∈ summary.column.toList, isColumnChar c = true) ∧ dropFinalLineFeed expression.toList = summary.text.toList := by
  have read := parse_eq_ok_iff.mp parsed
  simp only [parse?] at read
  split at read
  next => cases read
  next mark keyword rest =>
    split at read
    next allowed =>
      obtain ⟨statistic, shown, rfl⟩ := Option.map_eq_some_iff.mp read
      have equals : mark = '=' := by
        have first := List.head?_dropWhile_not (· != '=') (dropFinalLineFeed expression.toList)
        rw [rest] at first
        simpa using first
      subst equals
      simp only [Summary.text, keyword_of_ofKeyword? shown, String.toList_append, String.toList_ofList]
      refine ⟨List.all_eq_true.mp allowed.2, ?_⟩
      rw [List.append_assoc]
      exact (rest ▸ List.takeWhile_append_dropWhile).symm
    next => cases read

theorem parse_worded {expression : String} {summary : Summary} (parsed : parse expression = .ok summary) :
    Worded summary.text expression := by
  obtain ⟨column, body⟩ := letters_of_parse parsed
  apply worded_of_body _ body
  have keyword : '\n' ∉ summary.statistic.keyword.toList := by
    cases summary.statistic <;> decide
  have equals : '\n' ∉ "=".toList := by decide
  simp only [Summary.text, String.toList_append, List.mem_append, not_or]
  exact ⟨⟨not_mem_of_class (by decide) column, equals⟩, keyword⟩

end Summary
end TabularQuery
