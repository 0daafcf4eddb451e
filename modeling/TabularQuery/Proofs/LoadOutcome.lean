import TabularQuery.Proofs.TextPrefix

/-! What a load makes of the records that are cut from the bytes. Records are read in order up to the first that cannot be
read, and each of the others that is not as long as the header is warned of. A strict load refuses such a record before its
text is looked at, so it succeeds where nothing is refused and nothing is warned of. -/

namespace TabularQuery.Delimited
open Text

/-! Warnings. -/

/-- What is told of the records that were read: behind the first there is one warning for each record of another length, in
order. -/
structure Warned (read : List Record) (warnings : List Ragged) : Prop where
  ordered : warnings.Pairwise fun earlier later => earlier.row < later.row
  listed : ∀ warning, warning ∈ warnings ↔ ∃ header index record, read[0]? = some header ∧ read[index + 1]? = some record ∧
    record.fields.length ≠ header.fields.length ∧ warning = ⟨index + 2, record.fields.length, header.fields.length⟩

def warnings (columns : Nat) (records : List Record) : List Ragged :=
  (records.mapIdx fun index record => ⟨index + 2, record.fields.length, columns⟩).filter fun row => row.fields ≠ row.expected

theorem mem_warnings {columns : Nat} {records : List Record} {warning : Ragged} : warning ∈ warnings columns records ↔
    ∃ index record, records[index]? = some record ∧ record.fields.length ≠ columns ∧
      warning = ⟨index + 2, record.fields.length, columns⟩ := by
  simp only [warnings, List.mem_filter, List.mem_mapIdx, decide_eq_true_eq]
  constructor
  · rintro ⟨⟨index, inside, rfl⟩, other⟩
    exact ⟨index, records[index], List.getElem?_eq_getElem inside, other, rfl⟩
  · rintro ⟨index, record, found, other, rfl⟩
    obtain ⟨inside, rfl⟩ := List.getElem?_eq_some_iff.mp found
    exact ⟨⟨index, inside, rfl⟩, other⟩

theorem warnings_ordered (columns : Nat) (records : List Record) :
    (warnings columns records).Pairwise fun earlier later => earlier.row < later.row := by
  apply List.Pairwise.filter
  rw [List.pairwise_iff_getElem]
  intro first second _ _ before
  rw [List.getElem_mapIdx, List.getElem_mapIdx]
  exact Nat.add_lt_add_right before 2

theorem warnings_eq_nil_iff {columns : Nat} {records : List Record} :
    warnings columns records = [] ↔ ∀ record ∈ records, record.fields.length = columns := by
  rw [List.eq_nil_iff_forall_not_mem]
  constructor
  · intro none record member
    obtain ⟨index, found⟩ := List.getElem?_of_mem member
    by_contra other
    exact none _ (mem_warnings.mpr ⟨index, record, found, other, rfl⟩)
  · intro level warning warned
    obtain ⟨index, record, found, other, -⟩ := mem_warnings.mp warned
    exact other (level record (List.mem_of_getElem? found))

theorem warned_nil : Warned [] [] := by
  refine ⟨.nil, fun warning => ?_⟩
  simp

theorem warned_warnings (header : Record) (read : List Record) :
    Warned (header :: read) (warnings header.fields.length read) := by
  refine ⟨warnings_ordered _ _, fun warning => ?_⟩
  rw [mem_warnings]
  constructor
  · rintro ⟨index, record, found, other, rfl⟩
    exact ⟨header, index, record, rfl, found, other, rfl⟩
  · rintro ⟨_, index, record, ⟨⟩, found, other, rfl⟩
    exact ⟨index, record, found, other, rfl⟩

/-! Reading all records. -/

/-- A fault at the first field of some records that is no text, behind the records that could be read. It tells which field
of which record this is, where the reading of the record began and how much of the field is text. -/
inductive FirstFault : List Record → List Record → Fault → Prop
  | field {before after : List Record} {record : Record} {fields rest : List (List UInt8)} {bytes : List UInt8} {length : Nat}
      (earlier : ∀ other ∈ before, ∀ field ∈ other.fields, field.toByteArray.IsValidUTF8)
      (cut : record.fields = fields ++ bytes :: rest) (texts : ∀ field ∈ fields, field.toByteArray.IsValidUTF8)
      (other : ¬ bytes.toByteArray.IsValidUTF8)
      (longest : IsGreatest {n | (bytes.take n).toByteArray.IsValidUTF8} length) :
      FirstFault (before ++ record :: after) before (.notText before.length record.start fields.length length)

theorem Record.texts_eq_error {record : Record} {before after : List (List UInt8)} {bytes : List UInt8}
    (cut : record.fields = before ++ bytes :: after) (earlier : ∀ field ∈ before, Encoded field) (other : ¬ Encoded bytes)
    (index : Nat) : record.texts index =
      .error (.notText index record.start before.length (wholeCharacters bytes.toByteArray 0)) := by
  rw [texts_eq, cut]
  apply List.mapM_mapIdx_eq_error
  · intro field member position
    obtain ⟨text, rfl⟩ := earlier field member
    exact ⟨text, by rw [decode_encode]⟩
  · rw [decode_of_not_encoded other]

section
variable {format : Format} {header : List String} {before after scanned : List Record} {record : Record}
  {dataset : Dataset} {fault : Fault}

theorem loadRows_ragged (read : ∀ other ∈ before, ∃ row, other.Reads format header.length row)
    (failed : ∀ record ∈ after.head?, ∃ fault, record.row format header.length (before.length + 1) = .error fault) :
    (loadRows format header (before ++ after)).ragged = warnings header.length before := by
  have succeed : ∀ other ∈ before, ∀ index, ∃ row, other.row format header.length (index + 1) = .ok row := by
    intro other member index
    obtain ⟨row, reads⟩ := read other member
    exact ⟨row, Record.row_eq_ok_iff.mpr reads⟩
  have readable := List.takeWhile_isOk_mapIdx succeed failed
  simp only [loadRows, readable, List.length_mapIdx, List.take_left]
  rfl

theorem load_ragged {bytes : List UInt8} (loaded : (load format bytes).dataset = .ok dataset) :
    Warned (records format.delimiter bytes) (load format bytes).ragged ∧
      ((load format bytes).ragged = [] ↔
        ∀ record ∈ records format.delimiter bytes, record.fields.length = dataset.header.length) := by
  cases cut : records format.delimiter bytes with
  | nil =>
    rw [load, cut]
    exact ⟨warned_nil, by simp⟩
  | cons first rest =>
    rw [load, cut] at loaded ⊢
    dsimp only at loaded ⊢
    cases read : first.texts 0 with
    | error fault =>
      rw [read] at loaded
      cases loaded
    | ok header =>
      rw [read] at loaded
      obtain ⟨rfl, reads⟩ := loadRows_eq_ok_iff.mp loaded
      have level : first.fields.length = dataset.header.length := by
        rw [Record.texts_eq_ok_iff.mp read, List.length_map]
      have ragged : (loadRows format dataset.header (rest ++ [])).ragged = warnings dataset.header.length rest :=
        loadRows_ragged reads.exists_right fun _ member => absurd member (Option.not_mem_none _)
      rw [List.append_nil] at ragged
      dsimp only
      rw [ragged, warnings_eq_nil_iff, List.forall_mem_cons, ← level]
      exact ⟨warned_warnings first rest, by simp⟩

theorem loadRows_faulty {delimiter : UInt8} (read : ∀ other ∈ before, ∀ field ∈ other.fields, Encoded field)
    (failed : record.texts (before.length + 1) = .error fault) :
    (loadRows ⟨delimiter, false⟩ header (before ++ record :: after)).dataset = .error fault ∧
      (loadRows ⟨delimiter, false⟩ header (before ++ record :: after)).ragged = warnings header.length before := by
  have flexible : ∀ (other : Record) (index : Nat), other.row ⟨delimiter, false⟩ header.length index = other.texts index := by
    intro other index
    simp [Record.row]
  have reads : ∀ other ∈ before, ∃ row, other.Reads ⟨delimiter, false⟩ header.length row := by
    intro other member
    obtain ⟨row, written⟩ := exists_row (read other member)
    exact ⟨row, fun strict => absurd strict Bool.false_ne_true, written.symm⟩
  constructor
  · apply Except.map_eq_error_iff.mpr
    apply List.mapM_mapIdx_eq_error
    · intro other member index
      obtain ⟨row, reads⟩ := reads other member
      exact ⟨row, Record.row_eq_ok_iff.mpr reads⟩
    · rw [flexible]
      exact failed
  · apply loadRows_ragged reads
    rintro _ ⟨⟩
    exact ⟨fault, by rw [flexible, failed]⟩

theorem exists_firstFault (faulty : ¬ ∀ record ∈ scanned, ∀ field ∈ record.fields, Encoded field) :
    ∃ before record after fault, scanned = before ++ record :: after ∧
      (∀ other ∈ before, ∀ field ∈ other.fields, Encoded field) ∧ record.texts before.length = .error fault ∧
      FirstFault scanned before fault := by
  obtain ⟨before, record, after, rfl, earlier, fails⟩ := List.exists_first_failing faulty
  obtain ⟨fields, bytes, rest, cut, texts, other⟩ := List.exists_first_failing fails
  refine ⟨before, record, after, _, rfl, earlier, Record.texts_eq_error cut texts other _, ?_⟩
  have longest := wholeCharacters_isGreatest other
  simp only [encoded_iff] at earlier texts other longest
  exact .field earlier cut texts other longest

theorem load_faulty {delimiter : UInt8} {bytes : List UInt8}
    (faulty : ¬ ∀ record ∈ records delimiter bytes, ∀ field ∈ record.fields, Encoded field) :
    ∃ read fault, FirstFault (records delimiter bytes) read fault ∧ (load ⟨delimiter, false⟩ bytes).dataset = .error fault ∧
      Warned read (load ⟨delimiter, false⟩ bytes).ragged := by
  obtain ⟨before, record, after, fault, cut, earlier, failed, found⟩ := exists_firstFault faulty
  refine ⟨before, fault, found, ?_⟩
  rw [load, cut]
  cases before with
  | nil =>
    have header : record.texts 0 = .error fault := failed
    rw [List.nil_append]
    dsimp only
    rw [header]
    exact ⟨rfl, warned_nil⟩
  | cons first read =>
    rw [List.forall_mem_cons] at earlier
    obtain ⟨header, written⟩ := exists_row earlier.1
    have rows : (loadRows ⟨delimiter, false⟩ header (read ++ record :: after)).dataset = .error fault ∧
        (loadRows ⟨delimiter, false⟩ header (read ++ record :: after)).ragged = warnings header.length read :=
      loadRows_faulty earlier.2 failed
    obtain ⟨stopped, ragged⟩ := rows
    have level : first.fields.length = header.length := by
      rw [← written, List.length_map]
    rw [List.cons_append]
    dsimp only
    rw [Record.texts_eq_ok_iff.mpr written.symm]
    dsimp only
    rw [stopped, ragged, ← level]
    exact ⟨rfl, warned_warnings first read⟩

theorem Stands.filled (stands : Stands scanned dataset) (filled : ∀ record ∈ scanned, record.fields ≠ []) :
    (dataset.header = [] ↔ scanned = []) ∧ (scanned = [] → dataset.rows = []) ∧ ∀ row ∈ dataset.rows, row ≠ [] := by
  rcases stands with ⟨rfl, rfl⟩ | written
  · simp
  · cases scanned with
    | nil => cases written
    | cons first rest =>
      rw [List.map_cons, List.map_cons, List.cons.injEq] at written
      rw [List.forall_mem_cons] at filled
      have named : dataset.header ≠ [] := by
        intro empty
        rw [empty] at written
        exact filled.1 written.1
      refine ⟨⟨fun empty => absurd empty named, nofun⟩, nofun, ?_⟩
      rintro _ member rfl
      have listed : ([] : List (List UInt8)) ∈ rest.map Record.fields := by
        rw [written.2]
        exact List.mem_map_of_mem member
      obtain ⟨record, inside, empty⟩ := List.mem_map.mp listed
      exact filled.2 record inside empty

end

/-- A load that keeps rows of any length fails exactly if a field is no text, and it is the first such field that it
reports. Otherwise the first record is the header and the others are the rows, each with a field at least. Either way there is
a warning for each row of another length than the header that was read, and no other. -/
theorem load_outcome (delimiter : UInt8) (bytes : List UInt8) :
    let scanned := records delimiter bytes
    let loaded := load ⟨delimiter, false⟩ bytes
    ((∃ fault, loaded.dataset = .error fault) ↔
      ∃ record ∈ scanned, ∃ field ∈ record.fields, ¬ field.toByteArray.IsValidUTF8) ∧
    (∀ fault, loaded.dataset = .error fault → ∃ read, FirstFault scanned read fault ∧ Warned read loaded.ragged) ∧
    ∀ dataset, loaded.dataset = .ok dataset →
      Stands scanned dataset ∧ (dataset.header = [] ↔ scanned = []) ∧ (scanned = [] → dataset.rows = []) ∧
        (∀ row ∈ dataset.rows, row ≠ []) ∧ Warned scanned loaded.ragged := by
  intro scanned loaded
  have stops : (∃ fault, loaded.dataset = .error fault) →
      ¬ ∀ record ∈ scanned, ∀ field ∈ record.fields, Encoded field := by
    rintro ⟨fault, failed⟩ textual
    obtain ⟨dataset, succeeded⟩ := load_of_textual textual
    cases failed.symm.trans succeeded
  refine ⟨?_, ?_, ?_⟩
  · constructor
    · intro failed
      have faulty := stops failed
      push Not at faulty
      simpa only [encoded_iff] using faulty
    · rintro ⟨record, member, field, inside, other⟩
      rw [← encoded_iff] at other
      obtain ⟨-, fault, -, failed, -⟩ := load_faulty fun textual => other (textual record member field inside)
      exact ⟨fault, failed⟩
  · intro fault failed
    obtain ⟨read, found, first, stopped, warned⟩ := load_faulty (stops ⟨fault, failed⟩)
    obtain rfl := Except.error.inj (stopped.symm.trans failed)
    exact ⟨read, first, warned⟩
  · intro dataset succeeded
    obtain ⟨stands, -⟩ := load_eq_ok_iff.mp succeeded
    obtain ⟨warned, -⟩ := load_ragged succeeded
    obtain ⟨named, rowless, filled⟩ := stands.filled (records_filled delimiter bytes)
    exact ⟨stands, named, rowless, filled, warned⟩

/-- Strict loading succeeds exactly where loading of rows of any length succeeds without a warning, and with the same
dataset. -/
theorem load_strict (delimiter : UInt8) (bytes : List UInt8) :
    let strict := load ⟨delimiter, true⟩ bytes
    let flexible := load ⟨delimiter, false⟩ bytes
    ((∃ dataset, strict.dataset = .ok dataset) ↔ (∃ dataset, flexible.dataset = .ok dataset) ∧ flexible.ragged = []) ∧
    ∀ dataset, strict.dataset = .ok dataset →
      flexible.dataset = .ok dataset ∧ strict.ragged = [] ∧ flexible.ragged = [] := by
  intro strict flexible
  have agree : ∀ dataset, strict.dataset = .ok dataset ↔ flexible.dataset = .ok dataset ∧ flexible.ragged = [] := by
    intro dataset
    constructor
    · intro succeeded
      obtain ⟨stands, level⟩ := load_eq_ok_iff.mp succeeded
      have loaded : flexible.dataset = .ok dataset := load_eq_ok_iff.mpr ⟨stands, nofun⟩
      exact ⟨loaded, (load_ragged loaded).2.mpr (level rfl)⟩
    · rintro ⟨loaded, silent⟩
      obtain ⟨stands, -⟩ := load_eq_ok_iff.mp loaded
      exact load_eq_ok_iff.mpr ⟨stands, fun _ => (load_ragged loaded).2.mp silent⟩
  constructor
  · simp only [agree, exists_and_right]
  · intro dataset succeeded
    obtain ⟨loaded, silent⟩ := (agree dataset).mp succeeded
    obtain ⟨-, level⟩ := load_eq_ok_iff.mp succeeded
    exact ⟨loaded, (load_ragged succeeded).2.mpr (level rfl), silent⟩

end TabularQuery.Delimited
