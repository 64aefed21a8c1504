import IniSettings.Command.Basic
import IniSettings.Proofs.Schema
import IniSettings.Proofs.Storage.Script

/-!
# What loading does

Each field takes the value that the section gives it, and keeps its own where the section has none
or has a text that the type refuses. Of fields that share a member the last to be given a value
gives it to all of them. The log is all that a load leaves behind besides the values.
-/

namespace IniSettings
open Script

variable {schema : Schema}

def Schema.refusal? (schema : Schema) (path : Path) (field : schema.Field) (written : String) :
    Option LogEntry :=
  match (schema.spec field).type.parse? written with
  | none => some (.valueIgnored path (schema.nameText field) written)
  | some _ => none

namespace Section

variable (content : Section)

def refusals (path : Path) (fields : List schema.Field) : List LogEntry :=
  fields.filterMap fun field =>
    (content.get? (schema.key field)).bind (schema.refusal? path field)

def applies (field : schema.Field) : Bool :=
  (content.get? (schema.key field)).any fun written =>
    ((schema.spec field).type.parse? written).isSome

def given? (field : schema.Field) : Option (schema.spec field).type.Value :=
  (content.get? (schema.key field)).bind (schema.spec field).type.parse?

end Section

namespace Values

def take (content : Section) (values : Values schema) (field : schema.Field) : Values schema :=
  match content.given? field with
  | none => values
  | some value => values.set field value

def taking (values : Values schema) (content : Section) : Values schema :=
  schema.fields.foldl (take content) values

theorem foldl_take_cases (content : Section) (fields : List schema.Field) (field : schema.Field) :
    ((∀ other ∈ fields, schema.Shares other field → content.given? other = none) ∧
      ∀ values : Values schema, fields.foldl (take content) values field = values field) ∨
    ∃ other, schema.Shares other field ∧ ∀ values : Values schema,
      content.given? other = some (fields.foldl (take content) values other) := by
  induction fields using List.reverseRecOn with
  | nil => exact .inl ⟨fun _ member => absurd member List.not_mem_nil, fun _ => rfl⟩
  | append_singleton fields last ih =>
    simp only [List.foldl_concat, List.forall_mem_append, List.forall_mem_singleton, take]
    cases given : content.given? last with
    | none =>
      exact ih.imp_left fun ⟨nothing, kept⟩ => ⟨⟨nothing, fun _ => rfl⟩, kept⟩
    | some value =>
      by_cases shares : schema.Shares last field
      · refine .inr ⟨last, shares, fun values => ?_⟩
        rw [given, set_same]
      · -- The value of a field of another member is not touched here.
        rcases ih with ⟨nothing, kept⟩ | ⟨other, also, taken⟩
        · refine .inl ⟨⟨nothing, fun same => absurd same shares⟩, fun values => ?_⟩
          rw [set_other _ _ _ shares, kept]
        · refine .inr ⟨other, also, fun values => ?_⟩
          rw [set_other _ _ _ fun same => shares (same.trans also), taken]

/-- A field keeps its value if the section gives none to its member, and has else what the section
gives to one of the fields there, the same one whatever the values were. -/
theorem taking_cases (content : Section) (field : schema.Field) :
    ((∀ other, schema.Shares other field → content.given? other = none) ∧
      ∀ values : Values schema, values.taking content field = values field) ∨
    ∃ other, schema.Shares other field ∧ ∀ values : Values schema,
      content.given? other = some (values.taking content other) := by
  refine (foldl_take_cases content schema.fields field).imp_left fun ⟨nothing, kept⟩ => ⟨?_, kept⟩
  exact fun other => nothing other (Schema.mem_fields other)

variable {content : Section} {field : schema.Field}

theorem taking_eq_of_alone (alone : schema.Alone field) (values : Values schema) :
    values.taking content field = (content.given? field).getD (values field) := by
  rcases taking_cases content field with ⟨nothing, kept⟩ | ⟨other, shares, taken⟩
  · rw [nothing field (.refl field), kept, Option.getD_none]
  · obtain rfl := alone other shares
    rw [taken values, Option.getD_some]

theorem taking_taking (values : Values schema) (content : Section) :
    (values.taking content).taking content = values.taking content := by
  ext field
  rcases taking_cases content field with ⟨-, kept⟩ | ⟨other, shares, taken⟩
  · exact kept _
  · exact eq_of_shares shares (Option.some.inj ((taken _).symm.trans (taken values)))

end Values

theorem Document.scanLogged_logs (source text : String) :
    (scanLogged source text).Logs ((scan text).diagnostics.map (.malformedLine source))
      (scan text) := by
  rw [← List.append_nil (List.map _ _)]
  exact (logs_forM (.malformedLine source) (scan text).diagnostics).bind (.done (scan text))

namespace Manager

theorem readFields_logs (path : Path) (content : Section) (fields : List schema.Field)
    (values : Values schema) (applied : Nat) :
    (readFields path content fields values applied).Logs (content.refusals path fields)
      (fields.foldl (Values.take content) values, applied + fields.countP content.applies) := by
  induction fields generalizing values applied with
  | nil => exact .done _
  | cons field rest ih =>
    rw [Section.refusals, List.filterMap_cons, List.countP_cons, Section.applies, List.foldl_cons,
      Values.take, Section.given?, readFields]
    cases found : content.get? (schema.key field) with
    | none => exact ih values applied
    | some written =>
      rw [Option.bind_some, Option.bind_some, Schema.refusal?, Option.any_some]
      dsimp only
      cases parsed : (schema.spec field).type.parse? written with
      | none =>
        rw [Values.read?, parsed]
        exact .log (ih values applied)
      | some value =>
        rw [Values.read?, parsed]
        have logs := ih (values.set field value) (applied + 1)
        rw [Nat.add_right_comm] at logs
        exact logs

def valuesFrom (manager : Manager schema) (document : Document) : Values schema :=
  match document.section? schema.title with
  | none => manager.defaults
  | some content => manager.values.taking content

def loadedFrom (manager : Manager schema) : Except IoError Bytes → Values schema
  | .error _ => manager.defaults
  | .ok bytes => manager.valuesFrom (Document.scan (Text.Utf8.decode bytes)).document

def entriesFrom (manager : Manager schema) (reading : Reading) : List LogEntry :=
  match reading.document.section? schema.title with
  | none => [.sectionMissing manager.path schema.title]
  | some content =>
    content.refusals manager.path schema.fields ++
      [.loaded manager.path schema.title (schema.fields.countP content.applies)
        reading.diagnostics.length]

def loadEntries (manager : Manager schema) : Except IoError Bytes → List LogEntry
  | .error error => [.unreadable manager.path error]
  | .ok bytes =>
    let reading := Document.scan (Text.Utf8.decode bytes)
    reading.diagnostics.map (.malformedLine manager.path.text) ++ manager.entriesFrom reading

theorem loadBytes_logs (manager : Manager schema) (bytes : Bytes) :
    (manager.loadBytes bytes).Logs (manager.loadEntries (.ok bytes))
      (manager.put (manager.loadedFrom (.ok bytes))) := by
  refine (Document.scanLogged_logs manager.path.text (Text.Utf8.decode bytes)).bind ?_
  rw [entriesFrom, loadedFrom, valuesFrom]
  cases (Document.scan (Text.Utf8.decode bytes)).document.section? schema.title with
  | none => exact .log (.done _)
  | some content =>
    have logs := readFields_logs manager.path content schema.fields manager.values 0
    rw [Nat.zero_add] at logs
    exact logs.bind (.log (.done _))

theorem loadReply_logs (manager : Manager schema) (reply : Except IoError Bytes) :
    (manager.loadReply reply).Logs (manager.loadEntries reply)
      (manager.put (manager.loadedFrom reply)) := by
  cases reply with
  | error error => exact .log (.done _)
  | ok bytes => exact manager.loadBytes_logs bytes

theorem load_logs (manager : Manager schema) (reply : Except IoError Bytes) :
    (manager.loadReply reply >>= fun loaded =>
      (pure ⟨loaded, .ok loaded.table.valid⟩ : Script (Outcome schema Bool))).Logs
        (manager.loadEntries reply) ⟨manager.put (manager.loadedFrom reply), .ok true⟩ := by
  rw [← List.append_nil (manager.loadEntries reply)]
  exact (manager.loadReply_logs reply).bind (.done _)

variable {σ : Type} [Backend σ] {store : σ}

/-- Whatever the backend replies, loading puts some values into the table and changes nothing
else. -/
theorem run_load_eq {manager : Manager schema} (idle : manager.table.updating = false)
    (store : σ) :
    let asked := Backend.answer (.read manager.path) store
    manager.load.run store =
      ⟨⟨manager.put (manager.loadedFrom asked.1), .ok true⟩, asked.2,
        .called (.read manager.path) ::
          (manager.loadEntries asked.1).map LogEntry.occurrence⟩ := by
  intro asked
  have rest := (manager.load_logs asked.1).run asked.2
  rw [load, idle, if_neg (by decide)]
  exact congrArg (fun run => Run.mk run.value run.store (.called (.read manager.path) :: run.trace))
    rest

theorem load_eq (manager : Manager schema) (idle : manager.table.updating = false) (store : σ) :
    let asked := Backend.answer (.read manager.path) store
    (manager.load.run store).value = ⟨manager.put (manager.loadedFrom asked.1), .ok true⟩ ∧
      (manager.load.run store).store = asked.2 := by
  rw [run_load_eq idle]
  exact ⟨rfl, rfl⟩

theorem load_ensures (manager : Manager schema) (idle : manager.table.updating = false)
    {bytes : Bytes} (reply : Backend.answer (.read manager.path) store = (.ok bytes, store)) :
    manager.load.Ensures store (· = store) fun outcome _ =>
      outcome = ⟨manager.put
        (manager.valuesFrom (Document.scan (Text.Utf8.decode bytes)).document), .ok true⟩ := by
  rw [load, idle, if_neg (by decide)]
  refine ensures_ask_bind rfl ?_
  rw [reply]
  exact ((manager.load_logs (.ok bytes)).ensures store).imp (fun _ => id) fun _ _ _ => And.left

end Manager

variable {σ : Type} [Backend σ] {store : σ}

theorem Command.check_ensures (manager : Manager schema) {bytes : Bytes}
    (reply : Backend.answer (.read manager.path) store = (.ok bytes, store)) :
    (check manager).Ensures store (· = store) fun answer _ =>
      answer = .ok (problems schema (Document.scan (Text.Utf8.decode bytes))) := by
  refine ensures_ask_bind rfl ?_
  rw [reply]
  exact ensures_pure rfl rfl

end IniSettings
