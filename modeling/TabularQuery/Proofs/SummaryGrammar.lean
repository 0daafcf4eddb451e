import TabularQuery.Proofs.ConditionGrammar

/-! The language of summaries, a part of that of conditions. A text is a summary exactly if it is a condition that asks
for equality with a keyword. The two are parsed in different ways, though. A condition ends its name at the first letter that
is none of a name, and a summary at the first equals sign, so the letters before it are looked at afterwards. -/

namespace TabularQuery.Summary
open Condition

/-- A text of a summary. -/
structure Written (summary : Summary) (raw : String) : Prop where
  named : summary.column ≠ ""
  name : ∀ c ∈ summary.column.toList, NameLetter c
  text : raw = summary.column ++ "=" ++ summary.statistic.keyword ∨
    raw = summary.column ++ "=" ++ summary.statistic.keyword ++ "\n"

/-- The condition with the text of a summary. -/
def asCondition (summary : Summary) : Condition := ⟨summary.column, .equal, summary.statistic.keyword⟩

theorem asCondition_text (summary : Summary) : summary.asCondition.text = summary.text := rfl

theorem keyword_value (statistic : Statistic) :
    statistic.keyword ≠ "" ∧ ∀ c ∈ statistic.keyword.toList, isValueChar c = true := by
  have named : statistic.keyword ≠ "" := by
    cases statistic <;> decide
  have lettered : statistic.keyword.toList.all isValueChar = true := by
    cases statistic <;> rfl
  exact ⟨named, List.all_eq_true.mp lettered⟩

theorem ofKeyword?_keyword (statistic : Statistic) : Statistic.ofKeyword? statistic.keyword = some statistic := by
  cases statistic <;> rfl

theorem written_asCondition_iff {summary : Summary} {raw : String} :
    Condition.Written summary.asCondition raw ↔ Written summary raw := by
  constructor
  · rintro ⟨named, name, -, -, text⟩
    exact ⟨named, name, text⟩
  · rintro ⟨named, name, text⟩
    obtain ⟨valued, value⟩ := keyword_value summary.statistic
    exact ⟨named, name, valued, fun c member => isValueChar_iff.mp (value c member), text⟩

theorem parse_of_written {summary : Summary} {raw : String} (written : Written summary raw) :
    parse raw = .ok summary := by
  obtain ⟨named, name, text⟩ := written
  have letters : ∀ c ∈ summary.column.toList, isColumnChar c = true :=
    fun c member => isColumnChar_iff.mpr (name c member)
  have worded : Worded summary.text raw := by
    refine ⟨?_, text⟩
    rw [← asCondition_text]
    exact unbroken_text letters (keyword_value summary.statistic).2
  have body : dropFinalLineFeed raw.toList = summary.column.toList ++ '=' :: summary.statistic.keyword.toList := by
    rw [body_of_worded worded]
    simp [Summary.text]
  have before : ∀ c ∈ summary.column.toList, (c != '=') = true := by
    intro c member
    rw [bne_iff_ne]
    rintro rfl
    cases letters _ member
  have taken : (dropFinalLineFeed raw.toList).takeWhile (· != '=') = summary.column.toList := by
    rw [body, List.takeWhile_append_of_pos before]
    simp
  have dropped : (dropFinalLineFeed raw.toList).dropWhile (· != '=') = '=' :: summary.statistic.keyword.toList := by
    rw [body, List.dropWhile_append_of_pos before]
    simp
  apply parse_eq_ok_iff.mpr
  rw [parse?, taken, dropped]
  simp only [String.ofList_toList, ofKeyword?_keyword]
  rw [if_pos]
  · rfl
  · refine ⟨?_, List.all_eq_true.mpr letters⟩
    exact fun empty => named (String.toList_eq_nil_iff.mp empty)

theorem named_of_parse {summary : Summary} {raw : String} (parsed : parse raw = .ok summary) : summary.column ≠ "" := by
  have read := parse_eq_ok_iff.mp parsed
  simp only [parse?] at read
  split at read
  next => cases read
  next =>
    split at read
    next allowed =>
      obtain ⟨statistic, -, rfl⟩ := Option.map_eq_some_iff.mp read
      exact fun empty => allowed.1 (String.ofList_eq_empty_iff.mp empty)
    next => cases read

theorem parse_eq_ok_iff_written {summary : Summary} {raw : String} :
    parse raw = .ok summary ↔ Written summary raw := by
  refine ⟨?_, parse_of_written⟩
  intro parsed
  obtain ⟨name, -⟩ := letters_of_parse parsed
  exact ⟨named_of_parse parsed, fun c member => isColumnChar_iff.mp (name c member), (parse_worded parsed).ended⟩

/-! Parsing in two steps. -/

/-- The parts of a text around its first equals sign, if they are a name and a keyword. -/
def split? (raw : String) : Option (String × String) :=
  let body := dropFinalLineFeed raw.toList
  let column := body.takeWhile (· != '=')
  match body.dropWhile (· != '=') with
  | [] => none
  | _ :: rest =>
    if column = [] ∨ ¬ column.all isColumnChar then none
    else if String.ofList rest ∈ ["min", "avg", "max"] then some (String.ofList column, String.ofList rest)
    else none

/-- The text is split first. Then the keyword is looked up again, as if it could be another. -/
def parseParts (raw : String) : Except QueryError Summary :=
  match split? raw with
  | none => .error (.malformed .summary raw)
  | some (column, keyword) =>
    match Statistic.ofKeyword? keyword with
    | none => .error (.unsupportedOperation keyword)
    | some statistic => .ok ⟨column, statistic⟩

theorem ofKeyword?_cases (text : String) :
    (text ∈ ["min", "avg", "max"] ∧ ∃ statistic, Statistic.ofKeyword? text = some statistic) ∨
      text ∉ ["min", "avg", "max"] ∧ Statistic.ofKeyword? text = none := by
  unfold Statistic.ofKeyword?
  split
  · exact Or.inl ⟨by decide, _, rfl⟩
  · exact Or.inl ⟨by decide, _, rfl⟩
  · exact Or.inl ⟨by decide, _, rfl⟩
  next notMinimum notAverage notMaximum =>
    right
    refine ⟨?_, rfl⟩
    simp only [List.mem_cons, List.not_mem_nil, or_false, not_or]
    exact ⟨notMinimum, notAverage, notMaximum⟩

theorem parseParts_eq (raw : String) : parseParts raw = parse raw := by
  rw [parseParts, split?, parse, parse?]
  generalize (dropFinalLineFeed raw.toList).takeWhile (· != '=') = column
  cases (dropFinalLineFeed raw.toList).dropWhile (· != '=') with
  | nil => rfl
  | cons mark rest =>
    dsimp only
    by_cases allowed : column ≠ [] ∧ column.all isColumnChar = true
    · rw [if_pos allowed, if_neg (not_or.mpr ⟨allowed.1, not_not.mpr allowed.2⟩)]
      rcases ofKeyword?_cases (String.ofList rest) with ⟨listed, statistic, read⟩ | ⟨unlisted, read⟩
      · simp only [if_pos listed, read, Option.map_some]
      · simp only [if_neg unlisted, read, Option.map_none]
    · have refused : column = [] ∨ ¬ column.all isColumnChar = true := by
        by_contra others
        push Not at others
        exact allowed others
      rw [if_neg allowed, if_pos refused]

/-- The language of summaries is that of the conditions that ask for equality with a keyword. All other texts are reported
whole as malformed, and no keyword is ever refused on its own. A parsed summary is displayed as its text without the line
feed, which is parsed as the same summary. -/
theorem parse_like_condition (raw : String) :
    (∀ summary, parse raw = .ok summary ↔ Condition.parse raw = .ok summary.asCondition) ∧
    (∀ summary, parse raw = .ok summary ↔ Written summary raw) ∧
    ((¬ ∃ summary, Written summary raw) → parse raw = .error (.malformed .summary raw)) ∧
    parseParts raw = parse raw ∧
    (∀ operation, parse raw ≠ .error (.unsupportedOperation operation)) ∧
    ∀ summary, parse raw = .ok summary →
      '\n' ∉ summary.text.toList ∧ (raw = summary.text ∨ raw = summary.text ++ "\n") ∧
        parse summary.text = .ok summary := by
  refine ⟨?_, fun _ => parse_eq_ok_iff_written, ?_, parseParts_eq raw, ?_, ?_⟩
  · intro summary
    rw [parse_eq_ok_iff_written, Condition.parse_eq_ok_iff_written, written_asCondition_iff]
  · intro unwritten
    cases parsed : parse raw with
    | error error => rw [parse_error parsed]
    | ok summary => exact absurd ⟨summary, parse_eq_ok_iff_written.mp parsed⟩ unwritten
  · intro operation refused
    cases parse_error refused
  · intro summary parsed
    obtain ⟨unbroken, ended⟩ := parse_worded parsed
    obtain ⟨named, name, -⟩ := parse_eq_ok_iff_written.mp parsed
    exact ⟨unbroken, ended, parse_of_written ⟨named, name, Or.inl rfl⟩⟩

end TabularQuery.Summary
