import Mathlib.Data.List.Nodup
import Mathlib.Data.List.Perm.Basic
import TabularQuery.CommandLine.Outcome
import TabularQuery.Grid.Boxes

/-! The spellings of an argument list. What a query is asked for can be given in any order, and every value after the short
or the long name of its option, in the same argument or in the next one. All of these lists have the outcome of one query.
Reading takes the arguments one after the other, so one spelling is one step that adds one value to those that are given. -/

namespace TabularQuery.CommandLine

def Name.short : Name → Char
  | .file => 'f'
  | .condition => 'w'
  | .summary => 'a'
  | .delimiter => 'd'

/-- The arguments that give a value to an option. A value in an argument of its own does not look like an option, and one
that follows the short name at once is not empty and has no equals sign in front. -/
inductive Spelling (name : Name) (value : String) : List String → Prop
  | short (apart : value = "-" ∨ value.toList.head? ≠ some '-') : Spelling name value [String.ofList ['-', name.short], value]
  | shortJoined (nonempty : value ≠ "") (plain : value.toList.head? ≠ some '=') :
      Spelling name value [String.ofList ('-' :: name.short :: value.toList)]
  | shortEquals : Spelling name value [String.ofList ('-' :: name.short :: '=' :: value.toList)]
  | long (apart : value = "-" ∨ value.toList.head? ≠ some '-') : Spelling name value [name.text, value]
  | longEquals : Spelling name value [name.text ++ "=" ++ value]

/-- One of the things that a query can be asked for. -/
inductive Setting
  | file (path : String)
  | condition (expression : String)
  | summary (expression : String)
  | delimiter (c : Char)
  deriving DecidableEq

namespace Setting

def name : Setting → Name
  | .file _ => .file
  | .condition _ => .condition
  | .summary _ => .summary
  | .delimiter _ => .delimiter

def value : Setting → String
  | .file path => path
  | .condition expression => expression
  | .summary expression => expression
  | .delimiter c => String.singleton c

/-- What its option can take. -/
def Allowed : Setting → Prop
  | .file path => path ≠ ""
  | .delimiter c => c.toNat < 128
  | _ => True

end Setting

/-- What a query is asked for, each thing once. -/
def settings (path : String) (condition summary : Option String) (delimiter : Option Char) : List Setting :=
  .file path :: ((condition.map Setting.condition).toList ++ (summary.map Setting.summary).toList ++
    (delimiter.map Setting.delimiter).toList)

/-- An argument list that gives some settings in this order, each in one of its spellings. Two hyphens may end it. -/
inductive Spelled : List Setting → List String → Prop
  | done : Spelled [] []
  | ended : Spelled [] ["--"]
  | next {setting : Setting} {settings : List Setting} {first arguments : List String}
      (spelling : Spelling setting.name setting.value first) (rest : Spelled settings arguments) :
      Spelled (setting :: settings) (first ++ arguments)

/-! How a spelling is read. -/

theorem isSeparateValue_of_apart {value : String} (apart : value = "-" ∨ value.toList.head? ≠ some '-') :
    isSeparateValue value = true := by
  rcases apart with rfl | plain
  · decide
  · simp [isSeparateValue, plain]

namespace Argument

theorem read_cluster (name : Name) (rest : List Char) :
    read (String.ofList ('-' :: name.short :: rest)) = ofCluster (name.short :: rest) := by
  rw [read, String.toList_ofList]
  cases name <;> rfl

theorem ofShort?_short (name : Name) : Flag.ofShort? name.short = some (.value name) := by
  cases name <;> rfl

theorem read_short (name : Name) : read (String.ofList ['-', name.short]) = .awaiting name := by
  rw [read_cluster]
  simp only [ofCluster, ofShort?_short]

theorem read_shortEquals (name : Name) (value : String) :
    read (String.ofList ('-' :: name.short :: '=' :: value.toList)) = .attached name value := by
  rw [read_cluster]
  simp only [ofCluster, ofShort?_short, String.ofList_toList]

theorem read_shortJoined (name : Name) {value : String} (nonempty : value ≠ "") (plain : value.toList.head? ≠ some '=') :
    read (String.ofList ('-' :: name.short :: value.toList)) = .attached name value := by
  rw [read_cluster]
  simp only [ofCluster, ofShort?_short]
  split
  next none => exact absurd (String.toList_eq_nil_iff.mp none) nonempty
  next equals =>
    rw [equals] at plain
    exact absurd rfl plain
  next => rw [String.ofList_toList]

/-- The letters of a long name, after the hyphens. -/
def longName (name : Name) : List Char := name.text.toList.drop 2

theorem toList_text (name : Name) : name.text.toList = '-' :: '-' :: longName name := by
  cases name <;> decide

theorem ofLong?_longName (name : Name) : Flag.ofLong? (String.ofList (longName name)) = some (.value name) := by
  cases name <;> decide

theorem longName_plain (name : Name) : ∀ c ∈ longName name, (c != '=') = true := by
  have absent : '=' ∉ longName name := by cases name <;> decide
  intro c member
  exact bne_iff_ne.mpr (ne_of_mem_of_not_mem member absent)

theorem read_long (name : Name) : read name.text = .awaiting name := by
  cases name <;> decide

theorem read_twoHyphens {letters : List Char} (nonempty : letters ≠ []) :
    read (String.ofList ('-' :: '-' :: letters)) = ofLong letters := by
  rw [read, String.toList_ofList]
  cases letters with
  | nil => exact absurd rfl nonempty
  | cons => rfl

theorem read_longEquals (name : Name) (value : String) : read (name.text ++ "=" ++ value) = .attached name value := by
  have text : name.text ++ "=" ++ value = String.ofList ('-' :: '-' :: (longName name ++ '=' :: value.toList)) := by
    apply String.toList_injective
    simp [toList_text]
  have before : (longName name ++ '=' :: value.toList).takeWhile (· != '=') = longName name := by
    rw [List.takeWhile_append_of_pos (longName_plain name)]
    simp
  have after : (longName name ++ '=' :: value.toList).dropWhile (· != '=') = '=' :: value.toList := by
    rw [List.dropWhile_append_of_pos (longName_plain name)]
    simp
  rw [text, read_twoHyphens (by simp), ofLong]
  simp only [before, after, ofLong?_longName, String.ofList_toList]

end Argument

/-! What is given so far. A setting that is still missing is added, and settings of different options can be added in any
order. -/

namespace Values

/-- An option that already has a value. -/
def Has (values : Values) : Name → Prop
  | .file => values.file.isSome
  | .condition => values.condition.isSome
  | .summary => values.summary.isSome
  | .delimiter => values.delimiter.isSome

def put (values : Values) : Setting → Values
  | .file path => { values with file := some path }
  | .condition expression => { values with condition := some expression }
  | .summary expression => { values with summary := some expression }
  | .delimiter c => { values with delimiter := some (UInt8.ofNat c.toNat) }

theorem readDelimiter_singleton {c : Char} (ascii : c.toNat < 128) :
    readDelimiter (String.singleton c) = .ok (UInt8.ofNat c.toNat) := by
  have letters : (String.singleton c).toList = [c] := String.toList_singleton c
  rw [readDelimiter, letters]
  exact if_pos ascii

theorem give_allowed {values : Values} {setting : Setting} (missing : ¬ values.Has setting.name) (allowed : setting.Allowed) :
    values.give setting.name setting.value = .ok (values.put setting) := by
  cases setting with
  | file path => exact (if_neg missing).trans (if_neg allowed)
  | condition expression => exact if_neg missing
  | summary expression => exact if_neg missing
  | delimiter c => exact (if_neg missing).trans (congrArg (Except.map _) (readDelimiter_singleton allowed))

theorem missing_put {values : Values} {setting : Setting} {name : Name} (missing : ¬ values.Has name)
    (different : setting.name ≠ name) : ¬ (values.put setting).Has name := by
  cases setting <;> cases name <;> first | exact missing | exact absurd rfl different

theorem put_comm {first second : Setting} (different : first.name ≠ second.name) (values : Values) :
    (values.put first).put second = (values.put second).put first := by
  cases first <;> cases second <;> first | rfl | exact absurd rfl different

end Values

/-! Reading a whole list. -/

theorem readArguments_attached {argument value : String} {name : Name} (read : Argument.read argument = .attached name value)
    {values following : Values} (given : values.give name value = .ok following) (rest : List String) :
    readArguments values (argument :: rest) = readArguments following rest := by
  rw [readArguments.eq_def]
  simp only [read, given]

theorem readArguments_awaiting {argument value : String} {name : Name} (read : Argument.read argument = .awaiting name)
    (apart : value = "-" ∨ value.toList.head? ≠ some '-') {values following : Values}
    (given : values.give name value = .ok following) (rest : List String) :
    readArguments values (argument :: value :: rest) = readArguments following rest := by
  rw [readArguments.eq_def]
  simp only [read, isSeparateValue_of_apart apart, given, if_true]

theorem readArguments_spelling {name : Name} {value : String} {first : List String} (spelling : Spelling name value first)
    {values following : Values} (given : values.give name value = .ok following) (rest : List String) :
    readArguments values (first ++ rest) = readArguments following rest := by
  cases spelling with
  | short apart => exact readArguments_awaiting (Argument.read_short name) apart given rest
  | shortJoined nonempty plain => exact readArguments_attached (Argument.read_shortJoined name nonempty plain) given rest
  | shortEquals => exact readArguments_attached (Argument.read_shortEquals name value) given rest
  | long apart => exact readArguments_awaiting (Argument.read_long name) apart given rest
  | longEquals => exact readArguments_attached (Argument.read_longEquals name value) given rest

theorem readArguments_spelled {given : List Setting} {arguments : List String} (spelled : Spelled given arguments)
    (different : (given.map Setting.name).Nodup) (allowed : ∀ setting ∈ given, setting.Allowed) {values : Values}
    (missing : ∀ setting ∈ given, ¬ values.Has setting.name) :
    readArguments values arguments = (given.foldl Values.put values).request := by
  induction spelled generalizing values with
  | done => rfl
  | ended =>
    have ends : Argument.read "--" = .endOfOptions := by decide
    rw [readArguments, ends]
    rfl
  | @next setting settings first arguments spelling rest ih =>
    obtain ⟨new, different⟩ := List.nodup_cons.mp different
    obtain ⟨absent, missing⟩ := List.forall_mem_cons.mp missing
    obtain ⟨permitted, allowed⟩ := List.forall_mem_cons.mp allowed
    rw [readArguments_spelling spelling (Values.give_allowed absent permitted)]
    apply ih different allowed
    intro later member
    apply Values.missing_put (missing later member)
    intro same
    exact new (same ▸ List.mem_map_of_mem member)

theorem foldl_put_perm {given others : List Setting} (same : given.Perm others) (different : (given.map Setting.name).Nodup)
    (values : Values) : given.foldl Values.put values = others.foldl Values.put values := by
  apply same.foldl_eq'
  intro first firstMember second secondMember current
  by_cases shared : first.name = second.name
  · rw [List.inj_on_of_nodup_map different firstMember secondMember shared]
  · exact Values.put_comm shared current

theorem nodup_settings (path : String) (condition summary : Option String) (delimiter : Option Char) :
    ((settings path condition summary delimiter).map Setting.name).Nodup := by
  cases condition <;> cases summary <;> cases delimiter <;> simp [settings, Setting.name]

theorem allowed_of_mem_settings {path : String} {condition summary : Option String} {delimiter : Option Char}
    (nonempty : path ≠ "") (ascii : ∀ c ∈ delimiter, c.toNat < 128) {setting : Setting}
    (member : setting ∈ settings path condition summary delimiter) : setting.Allowed := by
  cases setting with
  | file => simp_all [settings, Setting.Allowed]
  | condition => exact trivial
  | summary => exact trivial
  | delimiter c => simp_all [settings, Setting.Allowed]

theorem foldl_put_settings (path : String) (condition summary : Option String) (delimiter : Option Char) :
    (settings path condition summary delimiter).foldl Values.put {} =
      ⟨some path, condition, summary, delimiter.map fun c => UInt8.ofNat c.toNat⟩ := by
  cases condition <;> cases summary <;> cases delimiter <;> rfl

theorem parse_spelled {path : String} {condition summary : Option String} {delimiter : Option Char} (nonempty : path ≠ "")
    (ascii : ∀ c ∈ delimiter, c.toNat < 128) {given : List Setting}
    (ordered : given.Perm (settings path condition summary delimiter)) {arguments : List String}
    (spelled : Spelled given arguments) :
    parse arguments = .ok (.query ⟨path, condition, summary, UInt8.ofNat (delimiter.getD ',').toNat⟩) := by
  have different : (given.map Setting.name).Nodup :=
    (ordered.map Setting.name).nodup_iff.mpr (nodup_settings path condition summary delimiter)
  have allowed : ∀ setting ∈ given, setting.Allowed := by
    intro setting member
    exact allowed_of_mem_settings nonempty ascii (ordered.mem_iff.mp member)
  have missing : ∀ setting ∈ given, ¬ Values.Has {} setting.name := by
    intro setting _
    cases setting <;> exact Bool.false_ne_true
  rw [parse, readArguments_spelled spelled different allowed missing, foldl_put_perm ordered different, foldl_put_settings]
  cases delimiter <;> rfl

/-- The outcome of the command line is that of the query, with the table on the output or the error on the diagnostics. -/
theorem outcome_spelled {path : String} {condition summary : Option String} {delimiter : Option Char} (nonempty : path ≠ "")
    (ascii : ∀ c ∈ delimiter, c.toNat < 128) {given : List Setting}
    (ordered : given.Perm (settings path condition summary delimiter)) {arguments : List String}
    (spelled : Spelled given arguments) (printer : Grid.Printer) (source : String → Source) :
    outcome printer arguments source =
      match (Query.run printer ⟨path, condition, summary, UInt8.ofNat (delimiter.getD ',').toNat⟩ (source path)).result with
      | .ok table => ⟨0, table ++ "\n", ""⟩
      | .error error => ⟨1, "", s!"error: {error.message}\n"⟩ := by
  rw [outcome, parse_spelled nonempty ascii ordered spelled]
  simp only [Request.outcome, Outcome.ofTable]
  cases (Query.run printer ⟨path, condition, summary, UInt8.ofNat (delimiter.getD ',').toNat⟩ (source path)).result with
  | ok table => rfl
  | error error => rfl

/-- The value of an option can have an equals sign in it, and a single hyphen can be the delimiter. -/
theorem outcome_spelled_hyphen :
    "input.csv" ≠ "" ∧ (∀ c ∈ some '-', c.toNat < 128) ∧
    [.delimiter '-', .condition "q=x", .file "input.csv", .summary "p=max"].Perm
      (settings "input.csv" (some "q=x") (some "p=max") (some '-')) ∧
    Spelled [.delimiter '-', .condition "q=x", .file "input.csv", .summary "p=max"]
      ["-d", "-", "-w=q=x", "-finput.csv", "--aggregate=p=max", "--"] ∧
    outcome Grid.boxes ["-d", "-", "-w=q=x", "-finput.csv", "--aggregate=p=max", "--"]
      (fun _ => .content "p-q\n2-x\n10-x\n30-y\n".toUTF8.data.toList) =
        ⟨0, "+------+---+\n| p    | q |\n+------+---+\n| 10.0 |   |\n+------+---+\n", ""⟩ := by
  have nonempty : "input.csv" ≠ "" := by decide
  have ascii : ∀ c ∈ some '-', c.toNat < 128 := by
    intro c member
    obtain rfl := Option.some.inj member
    decide
  have ordered : [.delimiter '-', .condition "q=x", .file "input.csv", .summary "p=max"].Perm
      (settings "input.csv" (some "q=x") (some "p=max") (some '-')) := by
    decide
  have spelled : Spelled [.delimiter '-', .condition "q=x", .file "input.csv", .summary "p=max"]
      ["-d", "-", "-w=q=x", "-finput.csv", "--aggregate=p=max", "--"] :=
    .next (.short (Or.inl rfl)) (.next .shortEquals (.next (.shortJoined (by decide) (by decide)) (.next .longEquals .ended)))
  refine ⟨nonempty, ascii, ordered, spelled, ?_⟩
  rw [outcome_spelled nonempty ascii ordered spelled]
  decide +kernel

end TabularQuery.CommandLine
