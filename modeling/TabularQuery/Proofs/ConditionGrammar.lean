import TabularQuery.Proofs.ExpressionText

/-! The language of conditions. A text is a condition exactly if it is a name, a comparison and a value in the letters of
each, and perhaps a line feed. Parsing can also go by the bytes of the text. It then cuts at positions that could be out of
range or inside a letter, and it looks the comparison up twice. None of this ever fails. -/

namespace TabularQuery.Condition

/-! The letters and the texts. -/

/-- A letter or a digit of ASCII, an underscore or a space. -/
def NameLetter (c : Char) : Prop :=
  'a' ≤ c ∧ c ≤ 'z' ∨ 'A' ≤ c ∧ c ≤ 'Z' ∨ '0' ≤ c ∧ c ≤ '9' ∨ c = '_' ∨ c = ' '

def ValueLetter (c : Char) : Prop := NameLetter c ∨ c = '.'

/-- A text of a condition. -/
structure Written (condition : Condition) (raw : String) : Prop where
  named : condition.column ≠ ""
  name : ∀ c ∈ condition.column.toList, NameLetter c
  valued : condition.value ≠ ""
  value : ∀ c ∈ condition.value.toList, ValueLetter c
  text : raw = condition.column ++ String.singleton condition.comparison.symbol ++ condition.value ∨
    raw = condition.column ++ String.singleton condition.comparison.symbol ++ condition.value ++ "\n"

theorem isColumnChar_iff {c : Char} : isColumnChar c = true ↔ NameLetter c := by
  have upper : c.isUpper = decide ('A' ≤ c ∧ c ≤ 'Z') := rfl
  have lower : c.isLower = decide ('a' ≤ c ∧ c ≤ 'z') := (Bool.decide_and ..).symm
  have digit : c.isDigit = decide ('0' ≤ c ∧ c ≤ '9') := (Bool.decide_and ..).symm
  have letter : c.isAlphanum = (c.isUpper || c.isLower || c.isDigit) := rfl
  rw [isColumnChar, letter, upper, lower, digit, NameLetter]
  simp only [Bool.or_eq_true, decide_eq_true_eq, beq_iff_eq]
  tauto

theorem isValueChar_iff {c : Char} : isValueChar c = true ↔ ValueLetter c := by
  rw [isValueChar, Bool.or_eq_true, isColumnChar_iff, beq_iff_eq, ValueLetter]

theorem symbol_refused (comparison : Comparison) : isColumnChar comparison.symbol = false := by
  cases comparison <;> rfl

theorem ofChar?_symbol (comparison : Comparison) : Comparison.ofChar? comparison.symbol = some comparison := by
  cases comparison <;> rfl

theorem parse_of_written {condition : Condition} {raw : String} (written : Written condition raw) :
    parse raw = .ok condition := by
  obtain ⟨named, name, valued, value, text⟩ := written
  have columnLetters : ∀ c ∈ condition.column.toList, isColumnChar c = true :=
    fun c member => isColumnChar_iff.mpr (name c member)
  have valueLetters : ∀ c ∈ condition.value.toList, isValueChar c = true :=
    fun c member => isValueChar_iff.mpr (value c member)
  have body : dropFinalLineFeed raw.toList =
      condition.column.toList ++ condition.comparison.symbol :: condition.value.toList := by
    rw [body_of_worded ⟨unbroken_text columnLetters valueLetters, text⟩]
    simp [Condition.text]
  have stop := symbol_refused condition.comparison
  have taken : (dropFinalLineFeed raw.toList).takeWhile isColumnChar = condition.column.toList := by
    rw [body, List.takeWhile_append_of_pos columnLetters]
    simp [stop]
  have dropped : (dropFinalLineFeed raw.toList).dropWhile isColumnChar =
      condition.comparison.symbol :: condition.value.toList := by
    rw [body, List.dropWhile_append_of_pos columnLetters]
    simp [stop]
  apply parse_eq_ok_iff.mpr
  rw [parse?, taken, dropped]
  simp only [ofChar?_symbol, String.ofList_toList]
  rw [if_pos]
  · rfl
  · refine ⟨?_, ?_, List.all_eq_true.mpr valueLetters⟩
    · exact fun empty => named (String.toList_eq_nil_iff.mp empty)
    · exact fun empty => valued (String.toList_eq_nil_iff.mp empty)

theorem parse_eq_ok_iff_written {condition : Condition} {raw : String} :
    parse raw = .ok condition ↔ Written condition raw := by
  refine ⟨?_, parse_of_written⟩
  intro parsed
  obtain ⟨⟨named, name⟩, ⟨valued, value⟩, -⟩ := letters_of_parse parsed
  exact ⟨named, fun c member => isColumnChar_iff.mp (name c member), valued,
    fun c member => isValueChar_iff.mp (value c member), (parse_worded parsed).ended⟩

/-! Parsing by bytes. -/

def bytes : List Char → ℕ
  | [] => 0
  | c :: rest => c.utf8Size + bytes rest

/-- The two parts of a text around a byte. There are none inside a letter or beyond the end. -/
def cut? : ℕ → List Char → Option (List Char × List Char)
  | 0, text => some ([], text)
  | _ + 1, [] => none
  | byte + 1, c :: rest =>
    if c.utf8Size ≤ byte + 1 then (cut? (byte + 1 - c.utf8Size) rest).map fun (before, after) => (c :: before, after)
    else none

/-- The byte at which the first letter stands that a class refuses. -/
def find? (letter : Char → Bool) : List Char → Option ℕ
  | [] => none
  | c :: rest => if letter c then (find? letter rest).map (c.utf8Size + ·) else some 0

/-- Parsing by bytes. There is no result if the text is cut at a byte where it has no two parts. -/
def parseBytes (raw : String) : Option (Except QueryError Condition) :=
  let malformed : Except QueryError Condition := .error (.malformed .condition raw)
  let body := dropFinalLineFeed raw.toList
  match find? isColumnChar body with
  | none => some malformed
  | some byte =>
    (cut? byte body).bind fun (column, rest) =>
      match cut? 1 rest with
      | none => some malformed
      | some (symbol, _) =>
        if symbol = ['<'] ∨ symbol = ['>'] ∨ symbol = ['='] then
          (cut? 1 rest).bind fun (_, value) =>
            if column = [] ∨ value = [] ∨ ¬ value.all isValueChar then some malformed
            else match Comparison.ofSymbol? (String.ofList symbol) with
              | none => some (.error (.unsupportedOperator (String.ofList symbol)))
              | some comparison => some (.ok ⟨String.ofList column, comparison, String.ofList value⟩)
        else some malformed

theorem cut?_bytes (before after : List Char) : cut? (bytes before) (before ++ after) = some (before, after) := by
  induction before with
  | nil => simp [bytes, cut?]
  | cons c before ih =>
    obtain ⟨size, same⟩ := Nat.exists_eq_succ_of_ne_zero c.utf8Size_pos.ne'
    have total : bytes (c :: before) = size + bytes before + 1 := by
      rw [bytes, same]
      omega
    have left : size + bytes before + 1 - c.utf8Size = bytes before := by omega
    rw [total, List.cons_append, cut?, if_pos (by omega), left, ih]
    rfl

theorem cut?_one (c : Char) (rest : List Char) :
    cut? 1 (c :: rest) = if c.utf8Size = 1 then some ([c], rest) else none := by
  have positive := c.utf8Size_pos
  rw [cut?]
  split
  next small =>
    have single : c.utf8Size = 1 := by omega
    simp [single, cut?]
  next large => rw [if_neg (by omega)]

theorem find?_eq (letter : Char → Bool) (text : List Char) : find? letter text =
    if text.dropWhile letter = [] then none else some (bytes (text.takeWhile letter)) := by
  induction text with
  | nil => rfl
  | cons c rest ih =>
    rw [find?]
    split
    next passes =>
      rw [ih, List.dropWhile_cons_of_pos passes, List.takeWhile_cons_of_pos passes]
      split
      · rfl
      · rfl
    next refused =>
      rw [List.dropWhile_cons_of_neg refused, List.takeWhile_cons_of_neg refused, if_neg (List.cons_ne_nil c rest)]
      rfl

theorem ofSymbol?_singleton (c : Char) : Comparison.ofSymbol? (String.ofList [c]) = Comparison.ofChar? c := by
  rw [Comparison.ofSymbol?, String.toList_ofList]

theorem ofChar?_cases (c : Char) :
    (c.utf8Size = 1 ∧ (c = '<' ∨ c = '>' ∨ c = '=') ∧ ∃ comparison, Comparison.ofChar? c = some comparison) ∨
      ¬ (c = '<' ∨ c = '>' ∨ c = '=') ∧ Comparison.ofChar? c = none := by
  unfold Comparison.ofChar?
  split
  · exact Or.inl ⟨rfl, Or.inl rfl, _, rfl⟩
  · exact Or.inl ⟨rfl, Or.inr (Or.inl rfl), _, rfl⟩
  · exact Or.inl ⟨rfl, Or.inr (Or.inr rfl), _, rfl⟩
  next notLess notGreater notEqual =>
    right
    refine ⟨?_, rfl⟩
    rintro (less | greater | equal)
    exacts [notLess less, notGreater greater, notEqual equal]

theorem parseBytes_eq (raw : String) : parseBytes raw = some (parse raw) := by
  rw [parseBytes, parse, parse?, find?_eq]
  dsimp only
  have joined := List.takeWhile_append_dropWhile (p := isColumnChar) (l := dropFinalLineFeed raw.toList)
  generalize (dropFinalLineFeed raw.toList).takeWhile isColumnChar = column at *
  generalize (dropFinalLineFeed raw.toList).dropWhile isColumnChar = rest at *
  rw [← joined]
  cases rest with
  | nil => rfl
  | cons c value =>
    rw [if_neg (List.cons_ne_nil c value)]
    dsimp only
    rw [cut?_bytes]
    simp only [Option.bind_some, cut?_one]
    rcases ofChar?_cases c with ⟨single, listed, comparison, read⟩ | ⟨unlisted, read⟩
    · simp only [single, if_true, Option.bind_some, List.cons.injEq, and_true, listed, ofSymbol?_singleton, read]
      by_cases allowed : column ≠ [] ∧ value ≠ [] ∧ value.all isValueChar = true
      · rw [if_pos allowed, if_neg]
        · rfl
        · rintro (unnamed | unvalued | refused)
          exacts [allowed.1 unnamed, allowed.2.1 unvalued, refused allowed.2.2]
      · rw [if_neg allowed, if_pos]
        by_contra others
        push Not at others
        exact allowed others
    · simp only [read, Option.map_none, ite_self]
      by_cases single : c.utf8Size = 1
      · simp only [single, if_true, List.cons.injEq, and_true, unlisted, if_false]
      · simp only [single, if_false]

/-- The language of conditions is decided exactly: each text of a condition is parsed as this condition and no other, and
all other texts are reported whole as malformed. Neither a cut nor the comparison ever fails. A parsed condition is
displayed as its text without the line feed, which is parsed as the same condition. -/
theorem parse_exact (raw : String) :
    (∀ condition, parse raw = .ok condition ↔ Written condition raw) ∧
    (∀ first second, Written first raw → Written second raw → first = second) ∧
    ((¬ ∃ condition, Written condition raw) → parse raw = .error (.malformed .condition raw)) ∧
    parseBytes raw = some (parse raw) ∧
    (∀ operator, parse raw ≠ .error (.unsupportedOperator operator)) ∧
    ∀ condition, parse raw = .ok condition →
      '\n' ∉ condition.text.toList ∧ (raw = condition.text ∨ raw = condition.text ++ "\n") ∧
        parse condition.text = .ok condition := by
  refine ⟨fun _ => parse_eq_ok_iff_written, ?_, ?_, parseBytes_eq raw, ?_, ?_⟩
  · intro first second written other
    have same := (parse_of_written written).symm.trans (parse_of_written other)
    exact Except.ok.inj same
  · intro unwritten
    cases parsed : parse raw with
    | error error => rw [parse_error parsed]
    | ok condition => exact absurd ⟨condition, parse_eq_ok_iff_written.mp parsed⟩ unwritten
  · intro operator refused
    cases parse_error refused
  · intro condition parsed
    obtain ⟨unbroken, ended⟩ := parse_worded parsed
    refine ⟨unbroken, ended, ?_⟩
    obtain ⟨named, name, valued, value, -⟩ := parse_eq_ok_iff_written.mp parsed
    exact parse_of_written ⟨named, name, valued, value, Or.inl rfl⟩

end TabularQuery.Condition
