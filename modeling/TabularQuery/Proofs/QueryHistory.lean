import TabularQuery.Proofs.GridBatch
import TabularQuery.Proofs.StageErrors

/-! What an observer of a query sees. The stages that a query is asked for report one after
the other; the first that fails reports its error and is the last to report. Between the
events the number of rows is handed on. Drawing comes last and has nothing to report, unless
the printer fails; a printer that accepts columns of equal length never does. -/

namespace TabularQuery

/-- The stage that an event reports as done. A failure completes nothing. -/
def Event.completes? : Event → Option Stage
  | .loaded _ _ => some .load
  | .filtered _ _ => some .filter
  | .aggregated _ _ _ => some .aggregate
  | .failed _ _ => none

/-- A stage that needs an expression is planned where one is given that is not empty. -/
def Stage.planned (stage : Stage) (expression : Option String) : List Stage :=
  if expression.getD "" = "" then [] else [stage]

def Options.plan (options : Options) : List Stage :=
  .load :: (Stage.filter.planned options.condition ++ Stage.aggregate.planned options.summary)

theorem Stage.mem_planned {stage other : Stage} {expression : Option String} (member : other ∈ stage.planned expression) :
    other = stage := by
  unfold planned at member
  split at member
  next => cases member
  next => exact List.mem_singleton.mp member

theorem Options.render_notMem_plan (options : Options) : .render ∉ options.plan := by
  rw [plan, List.mem_cons, List.mem_append]
  rintro (same | member | member)
  · cases same
  · cases Stage.mem_planned member
  · cases Stage.mem_planned member

/-- The rows in hand before and after some events; before loading there are none to count. A filter begins with the rows
in hand and keeps no more than these, an aggregate counts them and leaves one row, and a failure changes nothing. -/
inductive RowFlow : Option Nat → List Event → Option Nat → Prop
  | done {rows : Option Nat} : RowFlow rows [] rows
  | loaded {rows columns : Nat} {rest : List Event} {last : Option Nat} (following : RowFlow (some rows) rest last) :
      RowFlow none (.loaded rows columns :: rest) last
  | filtered {before after : Nat} {rest : List Event} {last : Option Nat} (fewer : after ≤ before)
      (following : RowFlow (some after) rest last) : RowFlow (some before) (.filtered before after :: rest) last
  | aggregated {column : String} {statistic : Statistic} {rows : Nat} {rest : List Event} {last : Option Nat}
      (following : RowFlow (some 1) rest last) : RowFlow (some rows) (.aggregated column statistic rows :: rest) last
  | failed {stage : Stage} {error : QueryError} {rows : Option Nat} {rest : List Event} {last : Option Nat}
      (following : RowFlow rows rest last) : RowFlow rows (.failed stage error :: rest) last

theorem RowFlow.append {first second : List Event} {start middle last : Option Nat} (flow : RowFlow start first middle)
    (later : RowFlow middle second last) : RowFlow start (first ++ second) last := by
  induction flow with
  | done => exact later
  | loaded _ ih => exact .loaded (ih later)
  | filtered fewer _ ih => exact .filtered fewer (ih later)
  | aggregated _ ih => exact .aggregated (ih later)
  | failed _ ih => exact .failed (ih later)

/-- Events that complete stages of a plan in their order, with no failure among them. -/
def Completes (events : List Event) (plan : List Stage) : Prop :=
  events.map Event.completes? = plan.map some

theorem Completes.append {first second : List Event} {plan later : List Stage} (before : Completes first plan)
    (after : Completes second later) : Completes (first ++ second) (plan ++ later) := by
  unfold Completes at *
  rw [List.map_append, List.map_append, before, after]

/-- Events that complete the first stages of a plan, but not all, and end with the failure of the next one. -/
def StopsWith (events : List Event) (plan : List Stage) (error : QueryError) : Prop :=
  ∃ done stage rest completed, plan = done ++ stage :: rest ∧ Completes completed done ∧
    events = completed ++ [.failed stage error] ∧ stage.mayRaise error = true

theorem StopsWith.extend {events : List Event} {plan : List Stage} {error : QueryError} (later : List Stage)
    (stops : StopsWith events plan error) : StopsWith events (plan ++ later) error := by
  obtain ⟨done, stage, rest, completed, rfl, before, same, raised⟩ := stops
  exact ⟨done, stage, rest ++ later, completed, by simp, before, same, raised⟩

theorem Completes.append_stops {first second : List Event} {plan later : List Stage} {error : QueryError}
    (before : Completes first plan) (stops : StopsWith second later error) :
    StopsWith (first ++ second) (plan ++ later) error := by
  obtain ⟨done, stage, rest, completed, rfl, after, rfl, raised⟩ := stops
  exact ⟨plan ++ done, stage, rest, first ++ completed, by simp, before.append after, by simp, raised⟩

theorem Completes.no_failure {events : List Event} {plan : List Stage} (completes : Completes events plan) (stage : Stage)
    (error : QueryError) : .failed stage error ∉ events := by
  intro member
  have reported := List.mem_map_of_mem (f := Event.completes?) member
  rw [completes] at reported
  obtain ⟨_, -, same⟩ := List.mem_map.mp reported
  cases same

theorem StopsWith.failed_mem {events : List Event} {plan : List Stage} {error reason : QueryError} {stage : Stage}
    (stops : StopsWith events plan error) (member : .failed stage reason ∈ events) : stage ∈ plan := by
  obtain ⟨done, failing, rest, completed, rfl, completes, rfl, -⟩ := stops
  rcases List.mem_append.mp member with before | last
  · exact absurd before (completes.no_failure stage reason)
  · obtain ⟨rfl, -⟩ := Event.failed.inj (List.mem_singleton.mp last)
    simp

theorem StopsWith.raised {events : List Event} {plan : List Stage} {error : QueryError} (stops : StopsWith events plan error) :
    ∃ stage ∈ plan, stage.mayRaise error = true := by
  obtain ⟨done, stage, rest, -, rfl, -, -, raised⟩ := stops
  exact ⟨stage, by simp, raised⟩

/-- A planned stage refuses no operator and no operation on its own, and none of them draws. -/
theorem StopsWith.supported {events : List Event} {options : Options} {error : QueryError}
    (stops : StopsWith events options.plan error) (text : String) :
    error ≠ .unsupportedOperator text ∧ error ≠ .unsupportedOperation text ∧ error ≠ .undrawable text := by
  obtain ⟨stage, member, raised⟩ := stops.raised
  refine ⟨?_, ?_, ?_⟩
  · rintro rfl
    cases stage <;> cases raised
  · rintro rfl
    cases stage <;> cases raised
  · rintro rfl
    cases stage with
    | render => exact options.render_notMem_plan member
    | _ => cases raised

namespace Report

/-- A report of the stages of a plan, begun with some number of rows in hand. -/
structure Follows (report : Report Dataset) (plan : List Stage) (start : Option Nat) : Prop where
  completes : ∀ dataset, report.result = .ok dataset → Completes report.events plan
  stops : ∀ error, report.result = .error error → StopsWith report.events plan error
  flow : ∃ last, RowFlow start report.events last ∧ ∀ dataset, report.result = .ok dataset → last = some dataset.rows.length

theorem follows_ok {dataset : Dataset} {journal : List Entry} {plan : List Stage} {start : Option Nat}
    (completes : Completes (journal.filterMap Entry.event?) plan)
    (flow : RowFlow start (journal.filterMap Entry.event?) (some dataset.rows.length)) :
    (Report.mk (.ok dataset) journal).Follows plan start where
  completes _ _ := completes
  stops _ failed := by cases failed
  flow := ⟨_, flow, fun _ same => by rw [Except.ok.inj same]⟩

theorem follows_error {stage : Stage} {error : QueryError} {journal : List Entry} (start : Option Nat)
    (raised : stage.mayRaise error = true) (only : journal.filterMap Entry.event? = [.failed stage error]) :
    (Report.mk (.error error) journal).Follows [stage] start where
  completes _ succeeded := by cases succeeded
  stops _ same := by
    obtain rfl := Except.error.inj same
    exact ⟨[], stage, [], [], rfl, rfl, only, raised⟩
  flow := by
    rw [events, only]
    exact ⟨start, .failed .done, fun _ succeeded => by cases succeeded⟩

section
variable {α β : Type} {report : Report α} {error : QueryError}

theorem andThen_error (next : α → Report β) (failed : report.result = .error error) :
    report.andThen next = ⟨.error error, report.journal⟩ := by
  rw [andThen, failed]

theorem andThen_ok {value : α} (next : α → Report β) (succeeded : report.result = .ok value) :
    (report.andThen next).result = (next value).result ∧
      (report.andThen next).events = report.events ++ (next value).events := by
  rw [andThen, succeeded]
  exact ⟨rfl, List.filterMap_append⟩

theorem andThen_failed {next : α → Report β} (failed : (report.andThen next).result = .error error) :
    report.result = .error error ∨ ∃ value, report.result = .ok value ∧ (next value).result = .error error := by
  cases outcome : report.result with
  | error reason =>
    rw [andThen_error next outcome] at failed
    exact Or.inl (congrArg _ (Except.error.inj failed))
  | ok value =>
    rw [(andThen_ok next outcome).1] at failed
    exact Or.inr ⟨value, rfl, failed⟩

end

/-- The plan of two stages is that of the first and then that of the second, which finds the rows that the first has left. -/
theorem Follows.andThen {report : Report Dataset} {next : Dataset → Report Dataset} {plan later : List Stage} {start : Option Nat}
    (first : report.Follows plan start) (second : ∀ dataset, (next dataset).Follows later (some dataset.rows.length)) :
    (report.andThen next).Follows (plan ++ later) start := by
  cases outcome : report.result with
  | error error =>
    rw [andThen_error next outcome]
    obtain ⟨last, flow, -⟩ := first.flow
    constructor
    · exact nofun
    · exact fun reason failed => (first.stops reason (outcome.trans failed)).extend later
    · exact ⟨last, flow, nofun⟩
  | ok dataset =>
    obtain ⟨result, events⟩ := andThen_ok next outcome
    obtain ⟨middle, before, counted⟩ := first.flow
    obtain rfl := counted dataset outcome
    obtain ⟨last, after, recounted⟩ := (second dataset).flow
    have completed := first.completes dataset outcome
    constructor
    · intro final succeeded
      rw [events]
      exact completed.append ((second dataset).completes final (result.symm.trans succeeded))
    · intro error failed
      rw [events]
      exact completed.append_stops ((second dataset).stops error (result.symm.trans failed))
    · rw [events, result]
      exact ⟨last, before.append after, recounted⟩

end Report

namespace Query

theorem read_quiet (options : Options) (source : Source) :
    (read options source).2.filterMap Entry.event? = [] ∧
      ∀ error, (read options source).1 = .error error → Stage.load.mayRaise error = true := by
  have quiet : ∀ rows : List Delimited.Ragged, (rows.map Entry.ragged).filterMap Entry.event? = [] := by
    intro rows
    rw [List.filterMap_map]
    exact List.filterMap_eq_nil_iff.mpr fun _ _ => rfl
  unfold read
  split
  next => exact ⟨rfl, fun _ same => by cases same; rfl⟩
  next => exact ⟨rfl, fun _ same => by cases same; rfl⟩
  next =>
    dsimp only
    split
    next => exact ⟨quiet _, fun _ same => by cases same; rfl⟩
    next => exact ⟨by rw [List.filterMap_append, quiet]; rfl, fun _ same => by cases same⟩

theorem load_follows (options : Options) (source : Source) : (load options source).Follows [.load] none := by
  obtain ⟨quiet, raised⟩ := read_quiet options source
  unfold load
  split
  next error notes reading =>
    rw [reading] at quiet raised
    exact Report.follows_error none (raised error rfl) (by rw [List.filterMap_append, quiet]; rfl)
  next dataset notes reading =>
    rw [reading] at quiet
    apply Report.follows_ok
    · rw [List.filterMap_append, quiet]
      rfl
    · rw [List.filterMap_append, quiet]
      exact .loaded .done

theorem filter_follows (expression : String) (dataset : Dataset) :
    (filter expression dataset).Follows [.filter] (some dataset.rows.length) := by
  unfold filter
  split
  next error failed =>
    obtain rfl := Condition.parse_error failed
    exact Report.follows_error _ rfl rfl
  next condition _ =>
    split
    next error failed =>
      obtain rfl := Condition.select_error failed
      exact Report.follows_error _ rfl rfl
    next result selected => exact Report.follows_ok rfl (.filtered (Condition.select_rows selected) .done)

theorem aggregate_follows (expression : String) (dataset : Dataset) :
    (aggregate expression dataset).Follows [.aggregate] (some dataset.rows.length) := by
  unfold aggregate
  split
  next error failed =>
    obtain rfl := Summary.parse_error failed
    exact Report.follows_error _ rfl rfl
  next summary _ =>
    split
    next error failed =>
      rcases Summary.measure_error failed with rfl | ⟨field, rfl⟩
      · exact Report.follows_error _ rfl rfl
      · exact Report.follows_error _ rfl rfl
    next measure _ =>
      cases measure with
      | noData => exact Report.follows_ok rfl (.aggregated .done)
      | number value => exact Report.follows_ok rfl (.aggregated .done)

theorem whenGiven_follows {stage : Stage} {report : String → Dataset → Report Dataset} (expression : Option String)
    (dataset : Dataset) (follows : ∀ expression, (report expression dataset).Follows [stage] (some dataset.rows.length)) :
    (whenGiven report expression dataset).Follows (stage.planned expression) (some dataset.rows.length) := by
  cases expression with
  | none => exact Report.follows_ok rfl .done
  | some text =>
    by_cases empty : text = ""
    · subst empty
      exact Report.follows_ok rfl .done
    · simp only [whenGiven, Stage.planned, Option.getD_some, if_neg empty]
      exact follows text

theorem gather_follows (options : Options) (source : Source) : (gather options source).Follows options.plan none :=
  ((load_follows options source).andThen fun dataset =>
    whenGiven_follows options.condition dataset fun expression => filter_follows expression dataset).andThen fun dataset =>
      whenGiven_follows options.summary dataset fun expression => aggregate_follows expression dataset

theorem draw_cases (printer : Grid.Printer) (dataset : Dataset) :
    (∃ table, Grid.render printer dataset = .ok table ∧ draw printer dataset = ⟨.ok table, []⟩) ∨
      ∃ reason, Grid.render printer dataset = .error (.undrawable reason) ∧
        draw printer dataset = .failure .render (.undrawable reason) := by
  unfold draw
  split
  next error failed =>
    obtain ⟨reason, rfl⟩ := Grid.render_error failed
    exact Or.inr ⟨reason, failed, rfl⟩
  next table drawn => exact Or.inl ⟨table, drawn, rfl⟩

section
variable {printer : Grid.Printer} {options : Options} {source : Source}

theorem run_of_gathered {dataset : Dataset} {table : String} (gathered : (gather options source).result = .ok dataset)
    (drawn : Grid.render printer dataset = .ok table) :
    (run printer options source).result = .ok table ∧ (run printer options source).events = (gather options source).events := by
  have shown : draw printer dataset = ⟨.ok table, []⟩ := by rw [draw, drawn]
  obtain ⟨result, events⟩ := Report.andThen_ok (draw printer) gathered
  rw [shown] at result events
  exact ⟨result, events.trans (List.append_nil _)⟩

theorem run_of_failed {error : QueryError} (failed : (gather options source).result = .error error) :
    (run printer options source).result = .error error ∧
      (run printer options source).events = (gather options source).events := by
  rw [run, Report.andThen_error _ failed]
  exact ⟨rfl, rfl⟩

/-- Whatever the printer does, a query that fails ends with the failure of the first stage that is not completed, where drawing
counts as the last stage. -/
theorem run_stops {error : QueryError} (failed : (run printer options source).result = .error error) :
    StopsWith (run printer options source).events (options.plan ++ [.render]) error := by
  have follows := gather_follows options source
  rcases Report.andThen_failed failed with early | ⟨dataset, gathered, undrawn⟩
  · rw [(run_of_failed early).2]
    exact (follows.stops error early).extend [.render]
  · have completed := follows.completes dataset gathered
    rcases draw_cases printer dataset with ⟨table, -, drawn⟩ | ⟨reason, -, drawn⟩
    · rw [drawn] at undrawn
      cases undrawn
    · rw [drawn] at undrawn
      obtain rfl := Except.error.inj undrawn
      rw [run, (Report.andThen_ok _ gathered).2, drawn]
      exact ⟨options.plan, .render, [], _, rfl, completed, rfl, rfl⟩

/-- A printer that accepts columns of equal length draws whatever is gathered, and adds nothing to the events. -/
theorem run_accepted (accepts : printer.Accepts) (options : Options) (source : Source) :
    (run printer options source).events = (gather options source).events ∧
      ((∃ dataset table, (gather options source).result = .ok dataset ∧ Grid.render printer dataset = .ok table ∧
        (run printer options source).result = .ok table) ∨
      ∃ error, (gather options source).result = .error error ∧ (run printer options source).result = .error error) := by
  cases gathered : (gather options source).result with
  | error error =>
    obtain ⟨result, events⟩ := run_of_failed gathered
    exact ⟨events, Or.inr ⟨error, rfl, result⟩⟩
  | ok dataset =>
    obtain ⟨table, drawn⟩ := Grid.render_ok accepts dataset
    obtain ⟨result, events⟩ := run_of_gathered gathered drawn
    exact ⟨events, Or.inl ⟨dataset, table, rfl, drawn, result⟩⟩

end

/-- A query that draws a table has seen every planned stage completed, in order and without a failure. One that ends with
an error has seen the first stages completed, but not all, and then the failure of the next one with this error, which is
an error of that stage. Columns of equal length are all that the printer is asked to draw, so a dataset that is reached is
always drawn. The events hand on the number of rows, and the rows of the dataset are those in hand at the end. -/
theorem run_history {printer : Grid.Printer} (accepts : printer.Accepts) (options : Options) (source : Source) :
    (∀ table, (run printer options source).result = .ok table → Completes (run printer options source).events options.plan) ∧
    (∀ error, (run printer options source).result = .error error →
      StopsWith (run printer options source).events options.plan error ∧
        ∀ text, error ≠ .unsupportedOperator text ∧ error ≠ .unsupportedOperation text ∧ error ≠ .undrawable text) ∧
    (∀ error, .failed .render error ∉ (run printer options source).events) ∧
    (∀ dataset, (gather options source).result = .ok dataset →
      ∃ table, Grid.render printer dataset = .ok table ∧ (run printer options source).result = .ok table) ∧
    ∃ last, RowFlow none (run printer options source).events last ∧
      ∀ dataset, (gather options source).result = .ok dataset → last = some dataset.rows.length := by
  have follows := gather_follows options source
  obtain ⟨events, outcome⟩ := run_accepted accepts options source
  have early : ∀ error, (run printer options source).result = .error error → (gather options source).result = .error error := by
    intro error failed
    rcases outcome with ⟨_, _, -, -, succeeded⟩ | ⟨_, gathered, same⟩
    · cases succeeded.symm.trans failed
    · exact gathered.trans (congrArg _ (Except.error.inj (same.symm.trans failed)))
  rw [events]
  refine ⟨?_, ?_, ?_, ?_, follows.flow⟩
  · intro table succeeded
    rcases outcome with ⟨dataset, _, gathered, -, -⟩ | ⟨_, -, failed⟩
    · exact follows.completes dataset gathered
    · cases failed.symm.trans succeeded
  · intro error failed
    have stops := follows.stops error (early error failed)
    exact ⟨stops, stops.supported⟩
  · intro error member
    rcases outcome with ⟨dataset, _, gathered, -, -⟩ | ⟨reason, gathered, -⟩
    · exact (follows.completes dataset gathered).no_failure .render error member
    · exact options.render_notMem_plan ((follows.stops reason gathered).failed_mem member)
  · intro dataset reached
    rcases outcome with ⟨other, table, gathered, drawn, result⟩ | ⟨_, gathered, -⟩
    · obtain rfl := Except.ok.inj (gathered.symm.trans reached)
      exact ⟨table, drawn, result⟩
    · cases gathered.symm.trans reached

/-- The filter has reported before the aggregate meets a name where a number should be. -/
theorem run_history_name : Grid.boxes.Accepts ∧
    (run Grid.boxes ⟨"input.csv", some "price>500", some "name=max", 44⟩
      (.content "name,price\na,100\nb,600\n".toUTF8.data.toList)).events =
        [.loaded 2 2, .filtered 2 1, .failed .aggregate (.notNumeric "name" "b")] ∧
    StopsWith [.loaded 2 2, .filtered 2 1, .failed .aggregate (.notNumeric "name" "b")] [.load, .filter, .aggregate]
      (.notNumeric "name" "b") := by
  have events : (run Grid.boxes ⟨"input.csv", some "price>500", some "name=max", 44⟩
      (.content "name,price\na,100\nb,600\n".toUTF8.data.toList)).events =
        [.loaded 2 2, .filtered 2 1, .failed .aggregate (.notNumeric "name" "b")] := by decide +kernel
  have failed : (run Grid.boxes ⟨"input.csv", some "price>500", some "name=max", 44⟩
      (.content "name,price\na,100\nb,600\n".toUTF8.data.toList)).result = .error (.notNumeric "name" "b") := by decide +kernel
  have stops := ((run_history Grid.boxes_accepts _ _).2.1 _ failed).1
  rw [events] at stops
  exact ⟨Grid.boxes_accepts, events, stops⟩

end Query
end TabularQuery
