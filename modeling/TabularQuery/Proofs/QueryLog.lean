import TabularQuery.Proofs.ColumnNumbers
import TabularQuery.Proofs.ExpressionText
import TabularQuery.Proofs.QueryHistory

/-! The log of a query beside the events that its observer sees. Loading, filtering and aggregating write a note of their
own, and the event of the stage adds a line right after it; both count the same rows. The lines of a stage are said here
from what the stage does to the dataset, not from the entries of the journal. -/

namespace TabularQuery

/-- The rows of a source that loading warns of. -/
def Source.ragged (delimiter : UInt8) : Source → List Delimited.Ragged
  | .content bytes => (Delimited.load ⟨delimiter, false⟩ bytes).ragged
  | _ => []

/-- The lines of a dataset that was loaded. -/
def Dataset.loadLines (path : String) (dataset : Dataset) : List String :=
  [s!"DEBUG loaded {dataset.rows.length} rows x {dataset.header.length} columns from {path}",
    s!"INFO [load] path={path} rows={dataset.rows.length} columns={dataset.header.length}"]

namespace Stage

/-- The last line of a query that a stage has ended. -/
def failureLine (stage : Stage) (path : String) (error : QueryError) : String :=
  s!"WARN [{stage.name}] path={path} err={error.message}"

/-- What a stage with an expression does that succeeds or is left out: the dataset before and after it, what the observer
is told, and the lines of the log. Without rows an aggregate has nothing to note. -/
inductive Passes (path : String) : Stage → Option String → Dataset → Dataset → List Event → List String → Prop
  | absent {stage : Stage} {expression : Option String} {dataset : Dataset} (empty : expression.getD "" = "") :
      Passes path stage expression dataset dataset [] []
  | filtered {expression : String} {condition : Condition} {dataset result : Dataset} (given : expression ≠ "")
      (parsed : Condition.parse expression = .ok condition) (worded : Worded condition.text expression)
      (selected : condition.select dataset = .ok result) :
      Passes path .filter (some expression) dataset result
        [.filtered dataset.rows.length result.rows.length]
        [s!"DEBUG filter {condition.text}: {dataset.rows.length} -> {result.rows.length} rows",
          s!"INFO [filter] path={path} rows={dataset.rows.length}->{result.rows.length}"]
  | aggregated {expression : String} {summary : Summary} {dataset : Dataset} {value : Binary64} (given : expression ≠ "")
      (parsed : Summary.parse expression = .ok summary) (worded : Worded summary.text expression)
      (measured : summary.measure dataset = .ok (.number value)) (rows : dataset.rows ≠ []) :
      Passes path .aggregate (some expression) dataset { dataset with rows := [[value.display]] }
        [.aggregated summary.column summary.statistic dataset.rows.length]
        [s!"DEBUG aggregate {summary.text} over {dataset.rows.length} rows = {value.plain}",
          s!"INFO [aggregate] path={path} column={summary.column} op={summary.statistic.keyword} rows={dataset.rows.length}"]
  | nothing {expression : String} {summary : Summary} {dataset : Dataset} (given : expression ≠ "")
      (parsed : Summary.parse expression = .ok summary) (worded : Worded summary.text expression)
      (measured : summary.measure dataset = .ok .noData) (rows : dataset.rows = []) :
      Passes path .aggregate (some expression) dataset { dataset with rows := [["No data"]] }
        [.aggregated summary.column summary.statistic dataset.rows.length]
        [s!"INFO [aggregate] path={path} column={summary.column} op={summary.statistic.keyword} rows={dataset.rows.length}"]

/-- An expression that is given and that a stage refuses, or cannot apply to a dataset. -/
inductive Fails : Stage → Option String → Dataset → QueryError → Prop
  | filter {expression : String} {dataset : Dataset} {error : QueryError} (given : expression ≠ "")
      (refused : (Condition.parse expression).bind (·.select dataset) = .error error) :
      Fails .filter (some expression) dataset error
  | aggregate {expression : String} {dataset : Dataset} {error : QueryError} (given : expression ≠ "")
      (refused : (Summary.parse expression).bind (·.summarise dataset) = .error error) :
      Fails .aggregate (some expression) dataset error

end Stage

/-- How the stages up to drawing end, what the observer is told and what is in the log. The warnings of the load come first;
every stage that succeeds adds its lines, and the first that fails ends the log with its failure. -/
inductive Gathers (options : Options) (source : Source) : Except QueryError Dataset → List Event → List String → Prop
  | unloaded {error : QueryError} (read : (Query.read options source).1 = .error error) :
      Gathers options source (.error error) [.failed .load error]
        ((source.ragged options.delimiter).map (·.line) ++ [Stage.load.failureLine options.path error])
  | unfiltered {loaded : Dataset} {error : QueryError} (read : (Query.read options source).1 = .ok loaded)
      (filter : Stage.filter.Fails options.condition loaded error) :
      Gathers options source (.error error) [.loaded loaded.rows.length loaded.header.length, .failed .filter error]
        ((source.ragged options.delimiter).map (·.line) ++ loaded.loadLines options.path ++
          [Stage.filter.failureLine options.path error])
  | unaggregated {loaded filtered : Dataset} {events : List Event} {lines : List String} {error : QueryError}
      (read : (Query.read options source).1 = .ok loaded)
      (filter : Stage.filter.Passes options.path options.condition loaded filtered events lines)
      (aggregate : Stage.aggregate.Fails options.summary filtered error) :
      Gathers options source (.error error)
        (.loaded loaded.rows.length loaded.header.length :: events ++ [.failed .aggregate error])
        ((source.ragged options.delimiter).map (·.line) ++ loaded.loadLines options.path ++ lines ++
          [Stage.aggregate.failureLine options.path error])
  | completed {loaded filtered result : Dataset} {events later : List Event} {lines following : List String}
      (read : (Query.read options source).1 = .ok loaded)
      (filter : Stage.filter.Passes options.path options.condition loaded filtered events lines)
      (aggregate : Stage.aggregate.Passes options.path options.summary filtered result later following) :
      Gathers options source (.ok result) (.loaded loaded.rows.length loaded.header.length :: events ++ later)
        ((source.ragged options.delimiter).map (·.line) ++ loaded.loadLines options.path ++ lines ++ following)

/-- How a query ends, what its observer is told and what is in its log. Drawing adds nothing to either unless it fails. -/
inductive Told (printer : Grid.Printer) (options : Options) (source : Source) :
    Except QueryError String → List Event → List String → Prop
  | stopped {error : QueryError} {events : List Event} {lines : List String}
      (gathers : Gathers options source (.error error) events lines) : Told printer options source (.error error) events lines
  | undrawn {dataset : Dataset} {error : QueryError} {events : List Event} {lines : List String}
      (gathers : Gathers options source (.ok dataset) events lines) (failed : Grid.render printer dataset = .error error) :
      Told printer options source (.error error) (events ++ [.failed .render error])
        (lines ++ [Stage.render.failureLine options.path error])
  | drawn {dataset : Dataset} {table : String} {events : List Event} {lines : List String}
      (gathers : Gathers options source (.ok dataset) events lines) (shown : Grid.render printer dataset = .ok table) :
      Told printer options source (.ok table) events lines

namespace Report

section
variable {α β : Type} {report : Report α} {value : α}

theorem andThen_journal (next : α → Report β) (succeeded : report.result = .ok value) :
    (report.andThen next).journal = report.journal ++ (next value).journal := by
  rw [andThen, succeeded]

theorem andThen_stopped {error : QueryError} (next : α → Report β) (failed : report.result = .error error) (path : String) :
    (report.andThen next).result = .error error ∧ (report.andThen next).events = report.events ∧
      (report.andThen next).log path = report.log path := by
  rw [andThen_error next failed]
  exact ⟨rfl, rfl, rfl⟩

theorem andThen_log (next : α → Report β) (succeeded : report.result = .ok value) (path : String) :
    (report.andThen next).log path = report.log path ++ (next value).log path := by
  rw [log, andThen_journal next succeeded, List.map_append]
  rfl

end

/-- A report of one stage with an expression, as the stage has gone. -/
def Tells (report : Report Dataset) (path : String) (stage : Stage) (expression : Option String) (dataset : Dataset) : Prop :=
  (∃ error, stage.Fails expression dataset error ∧ report = .failure stage error) ∨
    ∃ result, report.result = .ok result ∧ stage.Passes path expression dataset result report.events (report.log path)

end Report

namespace Query

theorem read_notes (options : Options) (source : Source) :
    (read options source).2 = (source.ragged options.delimiter).map .ragged ++
      match (read options source).1 with
      | .ok dataset => [.loaded dataset.rows.length dataset.header.length]
      | .error _ => [] := by
  cases source with
  | missing => rfl
  | unreadable reason => rfl
  | content bytes =>
    simp only [read, Source.ragged]
    split
    next => simp
    next => simp

theorem filter_tells {expression : String} (given : expression ≠ "") (path : String) (dataset : Dataset) :
    (filter expression dataset).Tells path .filter (some expression) dataset := by
  unfold filter
  split
  next error refused => exact Or.inl ⟨error, .filter given (by rw [refused]; rfl), rfl⟩
  next condition parsed =>
    split
    next error refused => exact Or.inl ⟨error, .filter given (by rw [parsed]; exact refused), rfl⟩
    next result selected =>
      exact Or.inr ⟨result, rfl, .filtered given parsed (Condition.parse_worded parsed) selected⟩

theorem aggregate_tells {expression : String} (given : expression ≠ "") (path : String) (dataset : Dataset) :
    (aggregate expression dataset).Tells path .aggregate (some expression) dataset := by
  unfold aggregate
  split
  next error refused => exact Or.inl ⟨error, .aggregate given (by rw [refused]; rfl), rfl⟩
  next summary parsed =>
    split
    next error refused =>
      refine Or.inl ⟨error, .aggregate given ?_, rfl⟩
      rw [parsed]
      exact Except.map_eq_error_iff.mpr refused
    next measure measured =>
      have worded := Summary.parse_worded parsed
      obtain ⟨index, values, -, numbers, same⟩ := Summary.measure_eq_ok_iff.mp measured
      cases values with
      | nil =>
        obtain rfl := same
        have none := numbers.rows_eq_nil_iff.mpr rfl
        exact Or.inr ⟨_, rfl, .nothing given parsed worded measured none⟩
      | cons first rest =>
        obtain rfl := same
        have rows : dataset.rows ≠ [] := fun none => List.cons_ne_nil _ _ (numbers.rows_eq_nil_iff.mp none)
        exact Or.inr ⟨_, rfl, .aggregated given parsed worded measured rows⟩

theorem whenGiven_tells {stage : Stage} {report : String → Dataset → Report Dataset} {path : String} {dataset : Dataset}
    (tells : ∀ {expression}, expression ≠ "" → (report expression dataset).Tells path stage (some expression) dataset)
    (expression : Option String) : (whenGiven report expression dataset).Tells path stage expression dataset := by
  cases expression with
  | none => exact Or.inr ⟨dataset, rfl, .absent rfl⟩
  | some text =>
    by_cases empty : text = ""
    · subst empty
      exact Or.inr ⟨dataset, rfl, .absent rfl⟩
    · simp only [whenGiven, if_neg empty]
      exact tells empty

theorem load_tells (options : Options) (source : Source) :
    (∃ error, (read options source).1 = .error error ∧ (load options source).result = .error error ∧
      (load options source).events = [.failed .load error] ∧
      (load options source).log options.path =
        (source.ragged options.delimiter).map (·.line) ++ [Stage.load.failureLine options.path error]) ∨
    ∃ loaded, (read options source).1 = .ok loaded ∧ (load options source).result = .ok loaded ∧
      (load options source).events = [.loaded loaded.rows.length loaded.header.length] ∧
      (load options source).log options.path =
        (source.ragged options.delimiter).map (·.line) ++ loaded.loadLines options.path := by
  have notes := read_notes options source
  obtain ⟨quiet, -⟩ := read_quiet options source
  have warned : ((source.ragged options.delimiter).map Entry.ragged).map (Entry.line options.path) =
      (source.ragged options.delimiter).map (·.line) := List.map_map
  unfold load
  split
  next error warnings reading =>
    rw [reading] at notes quiet ⊢
    replace notes : warnings = (source.ragged options.delimiter).map .ragged ++ [] := notes
    refine Or.inl ⟨error, rfl, rfl, ?_, ?_⟩
    · rw [Report.events, List.filterMap_append, quiet]
      rfl
    · rw [Report.log, notes, List.append_nil, List.map_append, warned]
      rfl
  next loaded warnings reading =>
    rw [reading] at notes quiet ⊢
    replace notes : warnings = (source.ragged options.delimiter).map .ragged ++
      [.loaded loaded.rows.length loaded.header.length] := notes
    refine Or.inr ⟨loaded, rfl, rfl, ?_, ?_⟩
    · rw [Report.events, List.filterMap_append, quiet]
      rfl
    · rw [Report.log, notes, List.map_append, List.map_append, warned, List.append_assoc]
      rfl

theorem gather_told (options : Options) (source : Source) :
    Gathers options source (gather options source).result (gather options source).events
      ((gather options source).log options.path) := by
  have filters := fun dataset : Dataset => whenGiven_tells (fun {expression} (given : expression ≠ "") =>
    filter_tells given options.path dataset) options.condition
  have aggregates := fun dataset : Dataset => whenGiven_tells (fun {expression} (given : expression ≠ "") =>
    aggregate_tells given options.path dataset) options.summary
  unfold gather
  rcases load_tells options source with ⟨error, read, failed, events, log⟩ | ⟨loaded, read, succeeded, events, log⟩
  · obtain ⟨stopped, before, written⟩ := Report.andThen_stopped (whenGiven filter options.condition) failed options.path
    obtain ⟨last, after, closed⟩ := Report.andThen_stopped (whenGiven aggregate options.summary) stopped options.path
    rw [last, after, closed, before, written, events, log]
    exact .unloaded read
  · obtain ⟨reached, before⟩ := Report.andThen_ok (whenGiven filter options.condition) succeeded
    have written := Report.andThen_log (whenGiven filter options.condition) succeeded options.path
    rcases filters loaded with ⟨error, fails, same⟩ | ⟨filtered, kept, passes⟩
    · rw [same] at reached before written
      obtain ⟨last, after, closed⟩ := Report.andThen_stopped (whenGiven aggregate options.summary) reached options.path
      rw [last, after, closed, before, written, events, log]
      exact .unfiltered read fails
    · rw [kept] at reached
      obtain ⟨last, after⟩ := Report.andThen_ok (whenGiven aggregate options.summary) reached
      have closed := Report.andThen_log (whenGiven aggregate options.summary) reached options.path
      rw [last, after, closed, before, written, events, log]
      rcases aggregates filtered with ⟨error, fails, same⟩ | ⟨result, found, finishes⟩
      · rw [same]
        exact .unaggregated read passes fails
      · rw [found]
        exact .completed read passes finishes

/-- The log of a query tells what its observer is told. After the warnings of the load there are, for every stage that ran
and succeeded, the note of its operation and the line of its event, with the same counts and with the expression as it was
parsed; only an aggregate without rows has no note. A query that fails, and no other, ends its log with one more warning,
which names the stage that failed and gives the error that is returned. -/
theorem run_told (printer : Grid.Printer) (options : Options) (source : Source) :
    Told printer options source (run printer options source).result (run printer options source).events
      ((run printer options source).log options.path) := by
  have told := gather_told options source
  unfold run
  cases gathered : (gather options source).result with
  | error error =>
    obtain ⟨result, events, log⟩ := Report.andThen_stopped (draw printer) gathered options.path
    rw [gathered] at told
    rw [result, events, log]
    exact .stopped told
  | ok dataset =>
    rw [gathered] at told
    obtain ⟨result, events⟩ := Report.andThen_ok (draw printer) gathered
    rw [result, events, Report.andThen_log (draw printer) gathered]
    rcases draw_cases printer dataset with ⟨table, shown, drawn⟩ | ⟨reason, failed, drawn⟩
    · rw [drawn]
      simp only [Report.events, Report.log, List.filterMap_nil, List.map_nil, List.append_nil]
      exact .drawn told shown
    · rw [drawn]
      exact .undrawn told failed

/-- The line feed of the expression is not in the log, and the row that is too short is warned of first. -/
example : (run Grid.boxes ⟨"input.csv", some "price>500\n", some "name=max", 44⟩
    (.content "name,price\na\nb,600\n".toUTF8.data.toList)).log "input.csv" =
      ["WARN row 2 has 1 fields, header has 2", "DEBUG loaded 2 rows x 2 columns from input.csv",
        "INFO [load] path=input.csv rows=2 columns=2", "DEBUG filter price>500: 2 -> 1 rows",
        "INFO [filter] path=input.csv rows=2->1",
        "WARN [Aggregate] path=input.csv err=aggregation is supported only for numbers: column 'name' has value 'b'"] := by
  decide +kernel

end Query
end TabularQuery
