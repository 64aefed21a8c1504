import IniSettings.Proofs.Manager.LoadLog
import IniSettings.Proofs.Text.Quoted

/-!
# Checking agrees with loading

A check goes through the pairs of the section and looks for the field of each, a load goes through
the fields and looks for the pair of each. Where no two fields share a key, both meet the same
pairs, so a check finds just what a load cannot take.
-/

namespace IniSettings
open Script

variable {schema : Schema}

namespace Schema

def reads (schema : Schema) (field : schema.Field) (written : String) : Bool :=
  ((schema.spec field).type.parse? written).isSome

def isUnknown (schema : Schema) (key : String) : Bool :=
  ∀ field, schema.key field ≠ key

end Schema

namespace Section

variable {content : Section}

theorem countP_pairs (distinct : Function.Injective schema.key) (keyed : content.Keyed)
    (P : schema.Field → String → Bool) :
    content.pairs.countP (fun pair => (schema.keyed? pair.1).any fun field => P field pair.2) =
      schema.fields.countP fun field => (content.get? (schema.key field)).any (P field) := by
  -- The keys of the pairs on the left are those of the fields on the right, in another order.
  have same : ((content.pairs.filter fun pair =>
        (schema.keyed? pair.1).any fun field => P field pair.2).map Prod.fst).Perm
      ((schema.fields.filter fun field =>
        (content.get? (schema.key field)).any (P field)).map schema.key) := by
    refine (List.perm_ext_iff_of_nodup ?_ ?_).2 fun key => ?_
    · exact (List.filter_sublist.map _).nodup keyed.distinct
    · exact (schema.nodup_fields.filter _).map distinct
    · simp only [List.mem_map, List.mem_filter, Option.any_eq_true]
      constructor
      · rintro ⟨⟨_, value⟩, ⟨member, field, named, holds⟩, rfl⟩
        have here := (Schema.keyed?_eq_some_iff distinct).1 named
        exact ⟨field, ⟨Schema.mem_fields field, value, here ▸ keyed.get?_of_mem member, holds⟩, here⟩
      · rintro ⟨field, ⟨-, value, got, holds⟩, rfl⟩
        exact ⟨(schema.key field, value), ⟨mem_of_lookup got, field,
          (Schema.keyed?_eq_some_iff distinct).2 rfl, holds⟩, rfl⟩
  rw [List.countP_eq_length_filter, List.countP_eq_length_filter]
  simpa using same.length_eq

theorem length_refusals (path : Path) (fields : List schema.Field) :
    (content.refusals path fields).length = fields.countP fun field =>
      (content.get? (schema.key field)).any fun written => !schema.reads field written := by
  rw [refusals, List.length_filterMap_eq_countP]
  congr 1
  funext field
  cases content.get? (schema.key field) with
  | none => rfl
  | some written =>
    rw [Option.bind_some, Option.any_some, Schema.refusal?, Schema.reads]
    cases (schema.spec field).type.parse? written <;> rfl

end Section

namespace Command

inductive Finding (schema : Schema) (pair : String × String) : Option Problem → Prop where
  | unknown (missing : schema.keyed? pair.1 = none) :
      Finding schema pair (some (.unknownKey schema.title pair.1))
  | refused {field : schema.Field} (here : schema.keyed? pair.1 = some field)
      (refused : schema.reads field pair.2 = false) :
      Finding schema pair (some (.invalidValue pair.2 (schema.nameText field)))
  | taken {field : schema.Field} (here : schema.keyed? pair.1 = some field)
      (reads : schema.reads field pair.2 = true) : Finding schema pair none

theorem finding (schema : Schema) (pair : String × String) :
    Finding schema pair (pairProblem schema pair) := by
  rw [pairProblem]
  cases keyed : schema.keyed? pair.1 with
  | none => exact .unknown keyed
  | some field =>
    dsimp only
    cases parsed : (schema.spec field).type.parse? pair.2 with
    | none => exact .refused keyed (by rw [Schema.reads, parsed]; rfl)
    | some value => exact .taken keyed (by rw [Schema.reads, parsed]; rfl)

theorem isUnknown_eq (schema : Schema) (key : String) :
    schema.isUnknown key = (schema.keyed? key).isNone := by
  rw [Schema.isUnknown, Bool.eq_iff_iff, decide_eq_true_iff, Option.isNone_iff_eq_none]
  exact Schema.keyed?_eq_none_iff.symm

theorem length_pairProblems (schema : Schema) (pairs : List (String × String)) :
    (pairs.filterMap (pairProblem schema)).length =
        pairs.countP (fun pair => schema.isUnknown pair.1) +
          pairs.countP (fun pair =>
            (schema.keyed? pair.1).any fun field => !schema.reads field pair.2) ∧
      pairs.length = (pairs.filterMap (pairProblem schema)).length +
        pairs.countP fun pair =>
          (schema.keyed? pair.1).any fun field => schema.reads field pair.2 := by
  induction pairs with
  | nil => exact ⟨rfl, rfl⟩
  | cons pair rest ih =>
    have found := finding schema pair
    simp only [List.filterMap_cons, List.countP_cons, List.length_cons, isUnknown_eq] at ih ⊢
    generalize pairProblem schema pair = problem at found ⊢
    cases found with
    | unknown missing =>
      simp [missing]
      omega
    | refused here refused =>
      simp [here, refused]
      omega
    | taken here reads =>
      simp [here, reads]
      omega

variable {content : Section} {reading : Reading}

theorem length_problems (distinct : Function.Injective schema.key) (keyed : content.Keyed)
    (found : reading.document.section? schema.title = some content) (path : Path) :
    (problems schema reading).length = reading.diagnostics.length +
        content.keys.countP schema.isUnknown +
        (content.refusals path schema.fields).length ∧
      content.size = content.keys.countP schema.isUnknown +
        (content.refusals path schema.fields).length + schema.fields.countP content.applies := by
  obtain ⟨wrong, all⟩ := length_pairProblems schema content.pairs
  have refused := Section.countP_pairs distinct keyed fun field written =>
    !schema.reads field written
  have applied : _ = schema.fields.countP content.applies :=
    Section.countP_pairs distinct keyed schema.reads
  have unknown : content.keys.countP schema.isUnknown =
      content.pairs.countP fun pair => schema.isUnknown pair.1 := List.countP_map
  rw [refused, ← Section.length_refusals path] at wrong
  rw [applied] at all
  rw [problems, found, List.length_append, List.length_map, Section.size, unknown]
  dsimp only
  constructor <;> omega

theorem problems_eq_nil_iff :
    problems schema reading = [] ↔ reading.isClean = true ∧
      ∃ content, reading.document.section? schema.title = some content ∧
        ∀ pair ∈ content.pairs, ∃ field, schema.keyed? pair.1 = some field ∧
          schema.reads field pair.2 = true := by
  rw [problems, List.append_eq_nil_iff, List.map_eq_nil_iff, Reading.isClean, List.isEmpty_iff]
  refine and_congr_right fun _ => ?_
  cases reading.document.section? schema.title with
  | none => simp
  | some content =>
    simp only [List.filterMap_eq_nil_iff, Option.some.injEq, exists_eq_left']
    refine forall₂_congr fun pair _ => ?_
    have found := finding schema pair
    generalize pairProblem schema pair = problem at found ⊢
    cases found with
    | unknown missing => simp [missing]
    | refused here refused => simp [here, refused]
    | taken here reads => simp [here, reads]

/-! ## What is printed -/

theorem mem_problems_cases {problem : Problem} (member : problem ∈ problems schema reading) :
    (∃ diagnostic, problem = .malformedLine diagnostic) ∨
      problem = .sectionMissing schema.title ∨
      (∃ key, problem = .unknownKey schema.title key) ∨
      ∃ text field, problem = .invalidValue text (schema.nameText field) := by
  rw [problems, List.mem_append, List.mem_map] at member
  rcases member with ⟨diagnostic, -, rfl⟩ | member
  · exact .inl ⟨diagnostic, rfl⟩
  · cases found : reading.document.section? schema.title with
    | none =>
      rw [found] at member
      exact .inr (.inl (List.mem_singleton.1 member))
    | some content =>
      rw [found] at member
      obtain ⟨pair, -, told⟩ := List.mem_filterMap.1 member
      have kind := finding schema pair
      rw [told] at kind
      cases kind with
      | unknown missing => exact .inr (.inr (.inl ⟨pair.1, rfl⟩))
      | refused here refused => exact .inr (.inr (.inr ⟨pair.2, _, rfl⟩))

theorem feed_not_mem_defect (defect : Defect) : '\n' ∉ defect.message.toList := by
  cases defect <;> decide

theorem feed_not_mem_digits (n : Nat) : '\n' ∉ Nat.toDigits 10 n := fun member =>
  absurd (Nat.isDigit_of_mem_toDigits (by decide) (by decide) member) (by decide)

theorem feed_not_mem_message {source : String} (sourceLine : '\n' ∉ source.toList)
    (titleLine : '\n' ∉ schema.title.toList)
    (nameLines : ∀ field, '\n' ∉ (schema.nameText field).toList) {problem : Problem}
    (member : problem ∈ problems schema reading) : '\n' ∉ (problem.message source).toList := by
  rcases mem_problems_cases member with ⟨diagnostic, rfl⟩ | rfl | ⟨key, rfl⟩ | ⟨text, field, rfl⟩
  · simp [Problem.message, sourceLine, feed_not_mem_defect, feed_not_mem_digits]
  · simp [Problem.message, sourceLine, titleLine]
  · simp [Problem.message, sourceLine, titleLine, Text.feed_not_mem_quoted]
  · simp [Problem.message, sourceLine, nameLines, Text.feed_not_mem_quoted]

theorem split_lines {texts : List String} (oneLine : ∀ text ∈ texts, '\n' ∉ text.toList) :
    Line.split (lines texts).toList = texts.map fun text => ⟨text.toList, true⟩ := by
  have closed : Line.split ((texts.map String.toList).flatMap (· ++ ['\n']) ++ []) = _ :=
    Line.split_flatMap_closed (by simpa using oneLine) []
  simpa [lines, String.toList_join, List.flatMap_map, Function.comp_def] using closed

/-! ## The two runs -/

variable {manager : Manager schema}

theorem takes_iff (distinct : Function.Injective schema.key) (keyed : content.Keyed)
    (found : reading.document.section? schema.title = some content) {pair : String × String}
    (member : pair ∈ content.pairs) :
    (∃ field, schema.keyed? pair.1 = some field ∧ schema.reads field pair.2 = true) ↔
      ∃ field value, schema.key field = pair.1 ∧
        (schema.spec field).type.parse? pair.2 = some value ∧
        (schema.Alone field → manager.valuesFrom reading.document field = value) := by
  refine exists_congr fun field => ?_
  rw [Schema.keyed?_eq_some_iff distinct, Schema.reads, Option.isSome_iff_exists,
    exists_and_left]
  refine and_congr_right fun here => exists_congr fun value => ?_
  refine (and_iff_left_of_imp fun read alone => ?_).symm
  have got : content.get? (schema.key field) = some pair.2 := by
    rw [here]
    exact keyed.get?_of_mem member
  rw [Manager.valuesFrom_of_section found alone, Document.value?, found, Option.bind_some, got,
    Option.bind_some, read, Option.getD_some]

theorem mem_loaded_iff {bytes : Bytes} {applied diagnostics : Nat}
    (found : (Document.scan (Text.Utf8.decode bytes)).document.section? schema.title =
      some content) :
    .loaded manager.path schema.title applied diagnostics ∈ manager.loadEntries (.ok bytes) ↔
      applied = schema.fields.countP content.applies ∧
        diagnostics = (Document.scan (Text.Utf8.decode bytes)).diagnostics.length := by
  have quiet : .loaded manager.path schema.title applied diagnostics ∉
      content.refusals manager.path schema.fields := fun member =>
    absurd (Section.isWarning_of_mem_refusals member) Bool.false_ne_true
  simp [Manager.loadEntries, Manager.entriesFrom, found, quiet]

variable {σ : Type} [Backend σ] {store : σ} {bytes : Bytes}

theorem run_check (readable : (Backend.answer (.read manager.path) store).1 = .ok bytes) :
    (check manager).run store =
      ⟨.ok (problems schema (Document.scan (Text.Utf8.decode bytes))),
        (Backend.answer (.read manager.path) store).2, [.called (.read manager.path)]⟩ := by
  rw [check, run_bind]
  simp only [ask, run, readable, run_pure, List.append_nil]

/-- A check makes one call, which reads the file, and finds the lines that cannot be read, that
the section is missing or, if it is there, the keys of no field and the values that a load warns of.
So it finds nothing exactly if a load takes all that is in the file. It prints a line for each
problem. -/
theorem check_agrees {checker loader : Manager schema} (distinct : Function.Injective schema.key)
    (samePath : loader.path = checker.path) (idle : loader.table.updating = false)
    (readable : (Backend.answer (.read checker.path) store).1 = .ok bytes) :
    let reading := Document.scan (Text.Utf8.decode bytes)
    let checked := (check checker).run store
    let loaded := loader.load.run store
    checked.trace = [.called (.read checker.path)] ∧
      checked.store = (Backend.answer (.read checker.path) store).2 ∧
      ∃ problems, checked.value = .ok problems ∧
        (reading.document.section? schema.title = none →
          problems.length = reading.diagnostics.length + 1) ∧
        (∀ content, reading.document.section? schema.title = some content →
          problems.length = reading.diagnostics.length + content.keys.countP schema.isUnknown +
            loaded.entries.countP LogEntry.isWarning) ∧
        (problems.length = 0 ↔ reading.isClean = true ∧
          ∃ content, reading.document.section? schema.title = some content ∧
            ∀ pair ∈ content.pairs, ∃ field value, schema.key field = pair.1 ∧
              (schema.spec field).type.parse? pair.2 = some value ∧
              (schema.Alone field → loaded.value.manager.values field = value)) ∧
        (problems.length = 0 ↔
          ∃ content, reading.document.section? schema.title = some content ∧
            .loaded loader.path schema.title content.size 0 ∈ loaded.entries) ∧
        ('\n' ∉ checker.path.text.toList → '\n' ∉ schema.title.toList →
          (∀ field, '\n' ∉ (schema.nameText field).toList) →
          Line.split (report checker problems).toList =
            problems.map fun problem => ⟨(problem.message checker.path.text).toList, true⟩) := by
  intro reading checked loaded
  have ran : checked = ⟨.ok (problems schema reading), _, _⟩ := run_check readable
  have entries : loaded.entries = loader.loadEntries (.ok bytes) := by
    rw [(Manager.load_tells idle store).2.2, samePath, readable]
  have values : loaded.value.manager.values = loader.valuesFrom reading.document := by
    rw [(Manager.load_eq loader idle store).1, samePath, readable]
    rfl
  have keyed {content : Section} (found : reading.document.section? schema.title = some content) :
      content.Keyed :=
    (Document.canonical_scan _).keyed.sections content (List.mem_of_find?_eq_some found)
  refine ⟨by rw [ran], by rw [ran], problems schema reading, by rw [ran], fun missing => ?_,
    fun content found => ?_, ?_, ?_, fun pathLine titleLine nameLines => ?_⟩
  · rw [problems, missing, List.length_append, List.length_map]
    rfl
  · have warned : loaded.entries.countP LogEntry.isWarning =
        (content.refusals loader.path schema.fields).length := by
      rw [entries, List.countP_eq_length_filter, Manager.warnings_loadEntries found]
    rw [warned]
    exact (length_problems distinct (keyed found) found loader.path).1
  · rw [List.length_eq_zero_iff, problems_eq_nil_iff, values]
    refine and_congr_right fun _ => exists_congr fun content => and_congr_right fun found => ?_
    exact forall₂_congr fun pair member => takes_iff distinct (keyed found) found member
  · cases found : reading.document.section? schema.title with
    | none => simp [problems, found]
    | some content =>
      obtain ⟨wrong, all⟩ := length_problems distinct (keyed found) found loader.path
      have told : .loaded loader.path schema.title content.size 0 ∈ loaded.entries ↔
          content.size = schema.fields.countP content.applies ∧
            0 = reading.diagnostics.length := by
        rw [entries]
        exact mem_loaded_iff found
      simp only [Option.some.injEq, exists_eq_left', told]
      omega
  · rw [report, split_lines, List.map_map]
    · rfl
    · rintro text listed
      obtain ⟨problem, member, rfl⟩ := List.mem_map.1 listed
      exact feed_not_mem_message pathLine titleLine nameLines member

end Command

theorem Command.check_agrees_patched :
    let device := Manager.new ⟨"device.ini"⟩ (Values.initial Device.schema)
    Function.Injective Device.schema.key ∧ device.table.updating = false ∧
      (Backend.answer (.read device.path) Device.patched).1 =
        .ok (Text.Utf8.encode Device.patch) ∧
      ∃ problems, ((check device).run Device.patched).value = .ok problems ∧
        problems.length =
          1 + 1 + (device.load.run Device.patched).entries.countP LogEntry.isWarning ∧
        (Line.split (report device problems).toList).length = problems.length := by
  intro device
  have distinct : Function.Injective Device.schema.key := Device.wellFormed.distinct
  have idle : device.table.updating = false := rfl
  have readable := congrArg Prod.fst Device.read_patched
  obtain ⟨-, -, problems, answered, -, counted, -, -, printed⟩ :=
    check_agrees distinct (rfl : device.path = device.path) idle readable
  rw [Text.Utf8.decode_encode] at counted
  have length := counted ⟨"device", [("port", "x"), ("lan", "1"), ("mtu", "9000")]⟩ (by decide)
  have malformed : (Document.scan Device.patch).diagnostics.length = 1 := by decide
  rw [malformed] at length
  have lines := printed (by decide) (by decide) (by decide)
  refine ⟨distinct, idle, readable, problems, answered, length, ?_⟩
  rw [lines, List.length_map]

end IniSettings
