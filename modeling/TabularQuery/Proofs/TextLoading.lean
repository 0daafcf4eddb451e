import TabularQuery.CommandLine.Arguments
import TabularQuery.Proofs.QueryHistory
import TabularQuery.Proofs.TextScan

/-! Text always loads. Where the delimiter is one of the first 128 bytes, each field of a text
is text again, whatever quotes, line ends and delimiters stand in it, and the command line
takes no other delimiter. So a query from the command line never finds fault with a text. -/

namespace TabularQuery

namespace Text

theorem encoded_iff {bytes : List UInt8} : Encoded bytes ↔ bytes.toByteArray.IsValidUTF8 := by
  constructor
  · rintro ⟨text, rfl⟩
    rw [toByteArray_encode]
    exact text.isValidUTF8
  · rintro ⟨characters, same⟩
    refine ⟨String.ofList characters, ?_⟩
    rw [encode, String.toUTF8_eq_toByteArray, String.toByteArray_ofList, ← same, List.toList_data_toByteArray]

theorem Encoded.behind {first second : List UInt8} (whole : Encoded first) (both : Encoded (first ++ second)) :
    Encoded second := by
  obtain ⟨text, rfl⟩ := whole
  rw [encode_eq] at both
  generalize text.toList = characters at both
  induction characters with
  | nil => exact both
  | cons c characters ih =>
    apply ih
    rw [List.flatMap_cons, List.append_assoc, encoded_iff, List.toByteArray_append, ← List.utf8Encode_singleton] at both
    rw [encoded_iff]
    exact ByteArray.isValidUTF8_utf8Encode_singleton_append_iff.mp both

theorem exists_row {fields : List (List UInt8)} (textual : ∀ field ∈ fields, Encoded field) :
    ∃ row : Row, row.map encode = fields := by
  have written : fields ∈ Set.range (List.map encode) := by
    rw [Set.range_list_map]
    exact textual
  exact written

end Text

namespace Delimited
open Text

/-- The mark is a character itself, so what follows it in a text is text. -/
theorem encoded_of_marked {rest : List UInt8} (marked : Encoded (byteOrderMark ++ rest)) : Encoded rest := by
  have mark : Encoded byteOrderMark := ⟨"\uFEFF", by decide⟩
  exact mark.behind marked

theorem records_textual {delimiter : UInt8} {bytes : List UInt8} (ascii : delimiter < 128) (encoded : Encoded bytes) :
    ∀ record ∈ records delimiter bytes, ∀ field ∈ record.fields, Encoded field := by
  have scanned : ∀ here {rest : List UInt8}, Encoded rest →
      ∀ record ∈ (rest.foldl (Scan.feed delimiter) (Scan.begin here)).finish, ∀ field ∈ record.fields, Encoded field := by
    rintro here rest ⟨text, rfl⟩
    rw [encode_eq]
    exact ((Scan.textual_start here).scan_text ascii text.toList).finish
  unfold records
  split
  next rest => exact scanned _ (encoded_of_marked encoded)
  next => exact scanned _ encoded

theorem load_of_textual {delimiter : UInt8} {bytes : List UInt8}
    (textual : ∀ record ∈ records delimiter bytes, ∀ field ∈ record.fields, Encoded field) :
    ∃ dataset, (load ⟨delimiter, false⟩ bytes).dataset = .ok dataset := by
  have written : (records delimiter bytes).map Record.fields ∈ Set.range (List.map (List.map encode)) := by
    rw [Set.range_list_map]
    intro fields listed
    obtain ⟨record, member, rfl⟩ := List.mem_map.mp listed
    exact exists_row (textual record member)
  obtain ⟨rows, same⟩ := written
  cases rows with
  | nil =>
    have none : records delimiter bytes = [] := List.map_eq_nil_iff.mp same.symm
    exact ⟨⟨[], []⟩, by rw [load, none]⟩
  | cons header rows => exact ⟨⟨header, rows⟩, load_of_encoded same.symm⟩

end Delimited

namespace CommandLine

theorem readDelimiter_lt {value : String} {byte : UInt8} (read : Values.readDelimiter value = .ok byte) : byte < 128 := by
  unfold Values.readDelimiter at read
  split at read
  next c _ =>
    split at read
    next small =>
      obtain rfl := Except.ok.inj read
      rw [UInt8.lt_iff_toNat_lt, UInt8.toNat_ofNat', Nat.mod_eq_of_lt (by omega)]
      exact small
    next => cases read
  next => cases read

theorem Values.give_delimiter {values next : Values} {name : Name} {value : String}
    (ascii : ∀ byte ∈ values.delimiter, byte < 128) (given : values.give name value = .ok next) :
    ∀ byte ∈ next.delimiter, byte < 128 := by
  cases name with
  | delimiter =>
    simp only [give] at given
    split at given
    next => cases given
    next =>
      obtain ⟨read, valid, rfl⟩ := Except.map_eq_ok_iff.mp given
      rintro byte ⟨⟩
      exact readDelimiter_lt valid
  | file | condition | summary =>
    have kept : next.delimiter = values.delimiter := by
      simp only [give] at given
      grind
    rwa [kept]

theorem Values.request_delimiter {values : Values} {options : Options} (ascii : ∀ byte ∈ values.delimiter, byte < 128)
    (requested : values.request = .ok (.query options)) : options.delimiter < 128 := by
  unfold request at requested
  split at requested
  next => cases requested
  next path _ =>
    cases requested
    cases given : values.delimiter with
    | none => exact (by decide : (44 : UInt8) < 128)
    | some byte => exact ascii byte given

theorem readArguments_delimiter {values : Values} {arguments : List String} {options : Options}
    (ascii : ∀ byte ∈ values.delimiter, byte < 128) (read : readArguments values arguments = .ok (.query options)) :
    options.delimiter < 128 := by
  fun_induction readArguments values arguments with
  | case1 values => exact Values.request_delimiter ascii read
  | case4 values => exact Values.request_delimiter ascii read
  | case2 _ _ _ chosen => cases chosen <;> cases read
  | case7 _ _ _ _ _ _ _ given ih => exact ih (Values.give_delimiter ascii given) read
  | case10 _ _ _ _ _ _ _ _ given ih => exact ih (Values.give_delimiter ascii given) read
  | case3 | case5 | case6 | case8 | case9 | case11 => cases read

end CommandLine

namespace Query

theorem whenGiven_error {stage : Stage} {report : String → Dataset → Report Dataset} {expression : Option String}
    {dataset : Dataset} {error : QueryError}
    (follows : ∀ expression, (report expression dataset).Follows [stage] (some dataset.rows.length))
    (failed : (whenGiven report expression dataset).result = .error error) : stage.mayRaise error = true := by
  obtain ⟨failing, planned, raised⟩ := ((whenGiven_follows expression dataset follows).stops error failed).raised
  obtain rfl := Stage.mem_planned planned
  exact raised

theorem load_of_faultyText {printer : Grid.Printer} {options : Options} {source : Source} {fault : Delimited.Fault}
    (failed : (run printer options source).result = .error (.faultyText fault)) :
    (load options source).result = .error (.faultyText fault) := by
  rcases Report.andThen_failed failed with gathered | ⟨dataset, -, undrawn⟩
  · rcases Report.andThen_failed gathered with earlier | ⟨dataset, -, aggregated⟩
    · rcases Report.andThen_failed earlier with loaded | ⟨dataset, -, filtered⟩
      · exact loaded
      · cases whenGiven_error (fun expression => filter_follows expression dataset) filtered
    · cases whenGiven_error (fun expression => aggregate_follows expression dataset) aggregated
  · rcases draw_cases printer dataset with ⟨table, -, drawn⟩ | ⟨reason, -, drawn⟩
    all_goals
      rw [drawn] at undrawn
      cases undrawn

theorem load_content (options : Options) (bytes : List UInt8) :
    (load options (.content bytes)).result =
      (Delimited.load ⟨options.delimiter, false⟩ bytes).dataset.mapError .faultyText := by
  unfold load read
  dsimp only
  cases (Delimited.load ⟨options.delimiter, false⟩ bytes).dataset with
  | ok dataset => rfl
  | error fault => rfl

end Query

/-- Text loads under each of the first 128 delimiters, and every field that is cut from it is text. A query from the command
line on text does not fail because of the text. -/
theorem load_of_valid {bytes : List UInt8} (valid : bytes.toByteArray.IsValidUTF8) :
    (∀ delimiter < 128, (∃ dataset, (Delimited.load ⟨delimiter, false⟩ bytes).dataset = .ok dataset) ∧
      ∀ record ∈ Delimited.records delimiter bytes, ∀ field ∈ record.fields, field.toByteArray.IsValidUTF8) ∧
    ∀ arguments options, CommandLine.parse arguments = .ok (.query options) →
      ∀ printer fault, (Query.run printer options (.content bytes)).result ≠ .error (.faultyText fault) := by
  have encoded : Text.Encoded bytes := Text.encoded_iff.mpr valid
  have loads : ∀ delimiter < 128, ∃ dataset, (Delimited.load ⟨delimiter, false⟩ bytes).dataset = .ok dataset :=
    fun delimiter ascii => Delimited.load_of_textual (Delimited.records_textual ascii encoded)
  constructor
  · intro delimiter ascii
    refine ⟨loads delimiter ascii, fun record member field inside => ?_⟩
    exact Text.encoded_iff.mp (Delimited.records_textual ascii encoded record member field inside)
  · intro arguments options parsed printer fault failed
    have ascii : options.delimiter < 128 := CommandLine.readArguments_delimiter (by simp) parsed
    obtain ⟨dataset, loaded⟩ := loads options.delimiter ascii
    have found := Query.load_of_faultyText failed
    rw [Query.load_content, loaded] at found
    cases found

/-- A byte order mark, then quotes and a lone carriage return among characters of one, two and three bytes. -/
def quotesAndMark : List UInt8 := [0xEF, 0xBB, 0xBF, 34, 0xC3, 0xA9, 34, 34, 13, 97, 34, 0xE2, 0x82, 0xAC]

/-- The delimiter is itself a quote. -/
theorem load_of_valid_quote : quotesAndMark.toByteArray.IsValidUTF8 ∧
    (∃ dataset, (Delimited.load ⟨34, false⟩ quotesAndMark).dataset = .ok dataset) ∧
    CommandLine.parse ["-f", "x.csv", "-d", "\""] = .ok (.query ⟨"x.csv", none, none, 34⟩) ∧
    ∀ printer fault,
      (Query.run printer ⟨"x.csv", none, none, 34⟩ (.content quotesAndMark)).result ≠ .error (.faultyText fault) := by
  have valid : quotesAndMark.toByteArray.IsValidUTF8 := by decide
  have parsed : CommandLine.parse ["-f", "x.csv", "-d", "\""] = .ok (.query ⟨"x.csv", none, none, 34⟩) := by decide +kernel
  obtain ⟨loads, reads⟩ := load_of_valid valid
  exact ⟨valid, (loads 34 (by decide)).1, parsed, reads _ _ parsed⟩

end TabularQuery
