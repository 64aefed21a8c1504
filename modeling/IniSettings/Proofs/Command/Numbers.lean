import IniSettings.Proofs.Command.SetGet
import IniSettings.Proofs.Field.Number
import IniSettings.Proofs.Manager.Reboxing

/-!
# Numbers that are typed

A number that is typed for a field is taken if the file could give it to the field, but for a plus
sign in front, which the file must not have. What is taken is the value that the file would give.
-/

namespace IniSettings
open Text

variable {schema : Schema}

namespace Argument

/-- What was typed, but for one plus sign in front. -/
def withoutPlus (typed : String) : String :=
  match typed.toList with
  | '+' :: text => String.ofList text
  | _ => typed

theorem readDigits_of_fits {value : Nat} {digits : List Char}
    (isDigits : digits.all Decimal.isDigit = true)
    (fits : Decimal.valueFrom value digits < UInt64.size) :
    readDigits value digits = .ok (Decimal.valueFrom value digits) := by
  induction digits generalizing value with
  | nil => rfl
  | cons c rest ih =>
    obtain ⟨digit, isDigits⟩ := Bool.and_eq_true_iff.1 isDigits
    rw [Decimal.valueFrom_cons] at fits
    -- The number only grows from here on.
    have small : value * 10 + Decimal.digitValue c < UInt64.size :=
      (Decimal.le_valueFrom _ rest).trans_lt fits
    rw [readDigits, digit, if_neg (by decide)]
    dsimp only
    rw [if_pos small, ih isDigits fits, Decimal.valueFrom_cons]

theorem readDigits_eq_ok_iff {digits : List Char} (nonempty : digits ≠ []) {n : Nat} :
    readDigits 0 digits = .ok n ↔ Decimal.Denotes digits n ∧ n < UInt64.size := by
  rw [← Decimal.parse?_eq_some_iff]
  constructor
  · exact parse?_of_readDigits nonempty
  · rintro ⟨parsed, fits⟩
    obtain ⟨-, isDigits, rfl⟩ := Decimal.parse?_eq_some_iff.1 parsed
    rw [← Decimal.valueFrom_eq] at fits ⊢
    refine readDigits_of_fits ?_ fits
    exact List.all_eq_true.2 fun c member => Decimal.isDigit_iff.2 (isDigits c member)

theorem readNumber_eq_ok_iff {typed : String} {n : Nat} :
    readNumber typed.toList = .ok n ↔
      Decimal.Denotes (withoutPlus typed).toList n ∧ n < UInt64.size := by
  have empty : ¬ Decimal.Denotes [] n := fun denotes => denotes.nonempty rfl
  unfold readNumber withoutPlus
  split
  next blank => simp [blank, empty]
  next plus => simp [plus, empty]
  next digits notAlone signed =>
    simp only [signed, String.toList_ofList]
    exact readDigits_eq_ok_iff notAlone
  next nonempty _ unsigned =>
    split
    next text signed => exact absurd signed (unsigned text)
    next => exact readDigits_eq_ok_iff nonempty

theorem withoutPlus_of_unsigned {typed : String} (unsigned : typed.toList.head? ≠ some '+') :
    withoutPlus typed = typed := by
  unfold withoutPlus
  split
  next text signed =>
    rw [signed] at unsigned
    exact absurd rfl unsigned
  next => rfl

theorem withoutPlus_append (text : String) : withoutPlus ("+" ++ text) = text := by
  have signed : ("+" ++ text).toList = '+' :: text.toList := String.toList_append
  rw [withoutPlus, signed]
  exact String.ofList_toList

end Argument

namespace FieldType

variable {type : FieldType} {width : Width} {typed : String}

theorem parse?_of_box_error (number : type = .unsigned width) {error : ArgumentError}
    (refused : Argument.box .unsigned typed = .error error) :
    type.parse? (Argument.withoutPlus typed) = none := by
  subst number
  rw [Option.eq_none_iff_forall_ne_some]
  intro value parsed
  have denotes := parse?_unsigned_iff.1 parsed
  have fits : Fin.val value < UInt64.size := (Fin.isLt value).trans_le (limit_le width)
  rw [Argument.box, Argument.readNumber_eq_ok_iff.2 ⟨denotes, fits⟩] at refused
  cases refused

theorem unbox_of_box (number : type = .unsigned width) {boxed : BoxedValue}
    (typedIn : Argument.box .unsigned typed = .ok boxed) :
    type.unbox boxed =
      (type.parse? (Argument.withoutPlus typed)).elim (.error .outOfRange) .ok := by
  subst number
  rw [Argument.box] at typedIn
  split at typedIn
  next n read =>
    obtain ⟨denotes, fits⟩ := Argument.readNumber_eq_ok_iff.1 read
    have same : (UInt64.ofNat n).toNat = n := UInt64.toNat_ofNat_of_lt' fits
    obtain rfl := Except.ok.inj typedIn
    rw [unbox_unsigned_eq, same]
    -- The digits of the number and the text that was typed stand for the same number.
    congr 1
    refine Option.ext fun value => parse?_unsigned_iff.trans (Iff.trans ?_ parse?_unsigned_iff.symm)
    have printed := Decimal.parse?_eq_some_iff.1 (Decimal.parse?_toString n)
    constructor
    · intro also
      rwa [← also.value, printed.value]
    · intro also
      rwa [← also.value, denotes.value]
  next => cases typedIn

theorem isSome_parse?_unsigned_iff (number : type = .unsigned width) (text : String) :
    (type.parse? text).isSome = true ↔
      text ≠ "" ∧ (∀ c ∈ text.toList, '0' ≤ c ∧ c ≤ '9') ∧
        Nat.ofDigitChars 10 text.toList 0 < 2 ^ width.bits := by
  subst number
  rw [Option.isSome_iff_exists]
  exact parse?_unsigned_accepts_iff

end FieldType

namespace Values

variable {values : Values schema} {field : schema.Field} {width : Width} {text typed : String}

theorem isSome_read?_iff (number : (schema.spec field).type = .unsigned width) :
    (values.read? field text).isSome = true ↔
      text ≠ "" ∧ (∀ c ∈ text.toList, '0' ≤ c ∧ c ≤ '9') ∧
        Nat.ofDigitChars 10 text.toList 0 < 2 ^ width.bits := by
  rw [read?, Option.isSome_map]
  exact FieldType.isSome_parse?_unsigned_iff number text

theorem read?_plus (number : (schema.spec field).type = .unsigned width) :
    values.read? field ("+" ++ text) = none := by
  rw [← Option.not_isSome_iff_eq_none, isSome_read?_iff number]
  rintro ⟨-, digits, -⟩
  have plus : '+' ∈ ("+" ++ text).toList := by simp
  exact absurd (digits '+' plus) (by decide)

theorem giveBoxed_of_box (number : (schema.spec field).type = .unsigned width)
    (writable : (schema.spec field).isReadOnly = false) {boxed : BoxedValue}
    (typedIn : Argument.box .unsigned typed = .ok boxed) (values : Values schema) :
    values.giveBoxed field boxed =
        (values.read? field (Argument.withoutPlus typed)).getD values ∧
      ((∃ value, (schema.spec field).type.unbox boxed = .ok value) ↔
        (values.read? field (Argument.withoutPlus typed)).isSome = true) := by
  rw [giveBoxed, writable, if_neg (by decide), FieldType.unbox_of_box number typedIn, read?]
  cases (schema.spec field).type.parse? (Argument.withoutPlus typed) with
  | none =>
    refine ⟨rfl, iff_of_false ?_ Bool.false_ne_true⟩
    rintro ⟨value, given⟩
    cases given
  | some value => exact ⟨rfl, iff_of_true ⟨value, rfl⟩ rfl⟩

end Values

namespace Command

variable {manager : Manager schema} {memory : Memory} {name : String} {field : schema.Field}
  {width : Width}

theorem run_set_number (idle : manager.table.updating = false) (faultless : memory.Faultless)
    (named : schema.named? name = some field)
    (writable : (schema.spec field).isReadOnly = false)
    (number : (schema.spec field).type = .unsigned width) (typed : String) :
    let done := (set manager name typed).run memory
    let taken := manager.values.read? field (Argument.withoutPlus typed)
    (∃ answer,
      (done.value.result = .ok answer ∨ done.value.result = manager.verdict.map fun _ => answer) ∧
      ((∃ result, answer = .ok result) ↔ taken.isSome = true)) ∧
    done.value.manager.values = taken.getD manager.values := by
  have kind : (manager.values.box field).kind = .unsigned := by
    rw [Values.box, FieldType.kind_box, number]
    rfl
  rw [set, Manager.boxed, Manager.field, named]
  dsimp only [Except.map]
  rw [kind]
  cases typedIn : Argument.box .unsigned typed with
  | error error =>
    have nothing : manager.values.read? field (Argument.withoutPlus typed) = none := by
      rw [Values.read?, FieldType.parse?_of_box_error number typedIn]
      rfl
    rw [nothing]
    refine ⟨⟨.error (.invalidValue name error), .inl rfl, iff_of_false ?_ Bool.false_ne_true⟩, rfl⟩
    rintro ⟨result, same⟩
    cases same
  | ok boxed =>
    obtain ⟨given, accepts⟩ :=
      Values.giveBoxed_of_box number writable typedIn manager.values
    obtain ⟨result, accepted, values, answered⟩ :=
      Manager.run_unbox_faultless idle faultless named writable boxed
    dsimp only
    rw [Script.run_bind]
    refine ⟨⟨setResult manager.path name (.ok result), ?_, ?_⟩, values.trans given⟩
    · rcases answered with quiet | told
      · left
        show Except.map (setResult manager.path name) _ = _
        rw [quiet]
        rfl
      · right
        show Except.map (setResult manager.path name) _ = _
        rw [told]
        cases manager.verdict <;> rfl
    · rw [← accepts, ← accepted, setResult]
      cases result.isAccepted with
      | true => exact iff_of_true ⟨result, rfl⟩ rfl
      | false =>
        refine iff_of_false ?_ Bool.false_ne_true
        rintro ⟨other, same⟩
        cases same

/-- Of a text that begins with a plus sign the rest counts, and of any other text all of it. An
observer that gives up cuts the command short, but only after the field got its value. -/
theorem set_number (idle : manager.table.updating = false)
    (faultless : memory.Faultless) (named : schema.named? name = some field)
    (writable : (schema.spec field).isReadOnly = false)
    (number : (schema.spec field).type = .unsigned width) (typed : String) :
    let done := (set manager name typed).run memory
    let onFile := manager.values.read? field
    let taken := onFile (Argument.withoutPlus typed)
    (∃ answer,
      (done.value.result = .ok answer ∨ done.value.result = manager.verdict.map fun _ => answer) ∧
      ((∃ result, answer = .ok result) ↔ taken.isSome = true)) ∧
    done.value.manager.values = taken.getD manager.values ∧
    (typed.toList.head? ≠ some '+' → taken = onFile typed) ∧
    (∀ text, typed = "+" ++ text → taken = onFile text ∧ onFile typed = none) ∧
    ∀ text, (onFile text).isSome = true ↔
      text ≠ "" ∧ (∀ c ∈ text.toList, '0' ≤ c ∧ c ≤ '9') ∧
        Nat.ofDigitChars 10 text.toList 0 < 2 ^ width.bits := by
  intro done onFile taken
  obtain ⟨answer, values⟩ := run_set_number idle faultless named writable number typed
  refine ⟨answer, values, ?unsigned, ?signed, fun text => Values.isSome_read?_iff number⟩
  case unsigned =>
    intro unsigned
    exact congrArg onFile (Argument.withoutPlus_of_unsigned unsigned)
  case signed =>
    rintro text rfl
    exact ⟨congrArg onFile (Argument.withoutPlus_append text), Values.read?_plus number⟩

end Command

theorem Command.set_number_port :
    Device.factory.table.updating = false ∧ Memory.empty.Faultless ∧
      Device.schema.named? "@net:device:port" = some Device.portPlace ∧
      (Device.schema.spec Device.portPlace).isReadOnly = false ∧
      (Device.schema.spec Device.portPlace).type = .unsigned .bits16 ∧
      ((set Device.factory "@net:device:port" "0081").run Memory.empty).value.manager.values =
        Device.factory.values.set Device.portPlace Device.otherPort := by
  have idle : Device.factory.table.updating = false := rfl
  have faultless : Memory.empty.Faultless := ⟨rfl, rfl, rfl⟩
  have named : Device.schema.named? "@net:device:port" = some Device.portPlace := rfl
  obtain ⟨-, values, -⟩ := Command.set_number idle faultless named rfl rfl "0081"
  exact ⟨idle, faultless, named, rfl, rfl, values⟩

theorem Command.set_port_signed :
    Device.factory.table.updating = false ∧ Memory.empty.Faultless ∧
      (∀ field, Device.schema.nameText field = "@net:device:port" ↔ field = Device.portPlace) ∧
      (Device.schema.spec Device.portPlace).isReadOnly = false ∧
      (Device.schema.spec Device.portPlace).type = .unsigned .bits16 ∧
      ¬ ((∃ result, ((set Device.factory "@net:device:port" "+81").run Memory.empty).value.result =
          .ok (.ok result)) ↔
        (Device.factory.values.read? Device.portPlace "+81").isSome = true) := by
  have accepted : ((set Device.factory "@net:device:port" "+81").run Memory.empty).value.result =
      .ok (.ok .updated) := by rfl
  have refused : Device.factory.values.read? Device.portPlace "+81" = none := by rfl
  refine ⟨rfl, ⟨rfl, rfl, rfl⟩, by decide, rfl, rfl, fun same => ?_⟩
  have reads := same.1 ⟨.updated, accepted⟩
  rw [refused] at reads
  cases reads

end IniSettings
