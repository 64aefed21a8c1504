import IniSettings.Proofs.Manager.Remote
import IniSettings.Proofs.Manager.Unboxing

/-!
# Writing back what was read

The box that a field gives can be written to the field again, and nothing changes. A file may give
a text with a carriage return inside, though, and such a text is not taken from a box.
-/

namespace IniSettings
open Format Text

theorem Format.IsValue.unstorable_iff {text : String} (isValue : IsValue text) :
    Unstorable text ↔ '\r' ∈ text.toList := by
  obtain ⟨start, stop⟩ := isTrimmed_iff.1 isValue.trimmed
  rw [Unstorable, start, stop]
  simp [isValue.one_line]

namespace FieldType

variable {type : FieldType} {value : type.Value}

theorem kind_box (value : type.Value) : (type.box value).kind = type.kind := by
  cases type <;> rfl

theorem return_not_mem_toString (n : Nat) : '\r' ∉ (toString n).toList := fun member => by
  simpa [Decimal.isDigit] using Decimal.isDigit_of_mem_toString member

theorem Holdable.exceeded_box_iff (holdable : type.Holdable value) :
    type.Exceeded (type.box value) ↔ '\r' ∈ (type.format value).toList := by
  cases type with
  | unsigned width =>
    refine iff_of_false (fun exceeds => ?_) (return_not_mem_toString _)
    have below : Fin.val value < width.limit := Fin.isLt value
    have same : (UInt64.ofNat (Fin.val value)).toNat = Fin.val value :=
      UInt64.toNat_ofNat_of_lt' (Nat.lt_of_lt_of_le below (limit_le width))
    have above : 2 ^ width.bits ≤ (UInt64.ofNat (Fin.val value)).toNat := exceeds
    rw [same] at above
    exact absurd below (Nat.not_lt_of_le above)
  | bool => cases value <;> exact iff_of_false id (by decide)
  | text => exact IsValue.unstorable_iff holdable
  | bounded capacity =>
    have fits : ¬ capacity < byteLength (BoundedText.text value).toList :=
      Nat.not_lt_of_le (BoundedText.fits value)
    exact (or_iff_right fits).trans (IsValue.unstorable_iff holdable)

end FieldType

variable {schema : Schema}

/-- A field that is given its own value is left alone, whether the value is taken or refused. -/
theorem Table.unbox_own {table : Table schema} (opened : table.updating = true)
    {field : schema.Field} (writable : (schema.spec field).access = .readWrite)
    (holdable : (schema.spec field).type.Holdable (table.values field)) :
    table.unbox field (table.values.box field) =
      .ok (if '\r' ∈ (table.values.text field).toList then .valueInvalid else .unchanged,
        table) := by
  have exceeded : (schema.spec field).type.Exceeded (table.values.box field) ↔
      '\r' ∈ (table.values.text field).toList := holdable.exceeded_box_iff
  obtain ⟨result, later, unboxed, answer, left⟩ :=
    unbox_answer opened field (table.values.box field)
  rw [unboxed]
  cases answer with
  | permissionDenied readOnly => simp [writable] at readOnly
  | valueTypeInvalid _ other => exact absurd (FieldType.kind_box _) other
  | valueInvalid _ _ exceeds =>
    rw [if_pos (exceeded.1 exceeds)]
    cases left with
    | refused _ => rfl
  | unchanged _ _ fits _ =>
    rw [if_neg fun inside => fits (exceeded.2 inside)]
    cases left with
    | refused refused => cases refused
    | unchanged _ => rfl
  | updated _ _ _ differs => exact absurd rfl differs

namespace Manager

variable {σ : Type} [Backend σ] {manager : Manager schema}

theorem unbox_boxed_of_holdable (idle : manager.table.updating = false) {name : String}
    {field : schema.Field} (finds : schema.Finds name field)
    (writable : (schema.spec field).access = .readWrite)
    (holdable : (schema.spec field).type.Holdable (manager.values field)) (origin : Origin) :
    ∃ boxed scope, manager.boxed name = .ok boxed ∧ manager.beginUpdate origin = .ok scope ∧
      scope.unbox name boxed =
        (.ok (if '\r' ∈ (manager.values.text field).toList then .valueInvalid else .unchanged),
          scope) := by
  have named := Schema.named?_eq_some_iff.2 finds
  refine ⟨manager.values.box field, _, ?_, beginUpdate_eq idle origin, ?_⟩
  · rw [boxed, Manager.field, named]
    rfl
  · have unboxed : (manager.amid manager.values []).table.unbox field (manager.values.box field) =
        .ok (_, (manager.amid manager.values []).table) :=
      Table.unbox_own rfl writable holdable
    rw [Scope.unbox, named]
    dsimp only
    rw [unboxed]
    rfl

/-- Writing back what was read changes nothing. Whatever file was loaded, the box of a field that
is found by name and may be written is taken by the same name as the value that the field has; a
text with a carriage return inside is refused, and then nothing changes either. -/
theorem Remote.unbox_boxed {store : σ} {cut : Prop} (remote : manager.Remote store cut)
    {name : String} {field : schema.Field} (finds : schema.Finds name field)
    (writable : (schema.spec field).access = .readWrite) (origin : Origin)
    (whole : ¬ (schema.spec field).type.EndsInBlank
      ((manager.load.run store).value.manager.values field)) :
    let loaded := (manager.load.run store).value.manager
    ∃ boxed scope, loaded.boxed name = .ok boxed ∧ loaded.beginUpdate origin = .ok scope ∧
      scope.unbox name boxed =
        (.ok (if '\r' ∈ (loaded.values.text field).toList then .valueInvalid else .unchanged),
          scope) := by
  have fed := remote.load.fed
  exact unbox_boxed_of_holdable fed.idle finds writable
    ((fed.taken field).loadable.holdable_iff.2 whole) origin

end Manager

def Device.naming (hostname : String) : Memory :=
  Memory.empty.insert Device.factory.path
    (Utf8.encode ("[device]\nhostname = " ++ hostname ++ "\n"))

def Device.named (hostname : String) : Manager Device.schema :=
  (Device.factory.load.run (Device.naming hostname)).value.manager

theorem Device.remote_factory (store : Memory) : Device.factory.Remote store False :=
  .new _ (by decide) store

theorem Device.finds_hostname : Device.schema.Finds "@net:device:hostname" (0 : Fin 5) :=
  ⟨rfl, by decide⟩

theorem Manager.Remote.unbox_boxed_cellar :
    Device.factory.Remote (Device.naming "cellar") False ∧
      Device.schema.Finds "@net:device:hostname" (0 : Fin 5) ∧
      (Device.schema.spec (0 : Fin 5)).access = .readWrite ∧
      ¬ (Device.schema.spec (0 : Fin 5)).type.EndsInBlank
        ((Device.named "cellar").values (0 : Fin 5)) ∧
      ∃ scope, (Device.named "cellar").beginUpdate .here = .ok scope ∧
        scope.unbox "@net:device:hostname" (.text "cellar") = (.ok .unchanged, scope) := by
  have remote := Device.remote_factory (Device.naming "cellar")
  have text : (Device.named "cellar").values.text (0 : Fin 5) = "cellar" := rfl
  have whole : ¬ (Device.schema.spec (0 : Fin 5)).type.EndsInBlank
      ((Device.named "cellar").values (0 : Fin 5)) := by
    show ¬ "cellar".toList.getLast?.any isBlank = true
    decide
  obtain ⟨boxed, scope, read, begun, unboxed⟩ :=
    unbox_boxed remote Device.finds_hostname rfl .here whole
  obtain rfl : .text "cellar" = boxed := Except.ok.inj read
  change scope.unbox _ _ =
    (.ok (if '\r' ∈ ((Device.named "cellar").values.text (0 : Fin 5)).toList then _ else _), scope)
    at unboxed
  rw [text, if_neg (by decide)] at unboxed
  exact ⟨remote, Device.finds_hostname, rfl, whole, scope, begun, unboxed⟩

/-- A carriage return inside of a text is read from a file, but it is not taken back from the box
that the field gives. -/
theorem Manager.boxed_not_unchanged :
    Device.factory.defaults.Holdable ∧
      (∀ field, '\r' ∉ (Device.factory.defaults.text field).toList) ∧
      (∀ field, Device.schema.nameText field = "@net:device:hostname" ↔ field.val = 0) ∧
      (Device.schema.spec (0 : Fin 5)).access = .readWrite ∧
      ∃ boxed scope, (Device.named "a\rb").boxed "@net:device:hostname" = .ok boxed ∧
        (Device.named "a\rb").beginUpdate .here = .ok scope ∧
        scope.unbox "@net:device:hostname" boxed = (.ok .valueInvalid, scope) := by
  refine ⟨by decide, by decide, by decide, rfl, .text "a\rb", _, rfl, rfl, rfl⟩

end IniSettings
