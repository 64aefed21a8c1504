import IniSettings.Proofs.Field.Accepted
import IniSettings.Proofs.Manager.Requests

/-!
# What requests leave alone

A request changes the field that its reply says was changed, with those that share its member, and
no other one. A boxed value never is given to a field that is read only, nor to any field unless the
file can hold it. So what holds of the values of all fields, and of each value that is given, holds
after any requests.
-/

namespace IniSettings

variable {schema : Schema}

inductive Request.Gives : Request schema → (field : schema.Field) →
    (schema.spec field).type.Value → Prop where
  | update (field : schema.Field) (value : (schema.spec field).type.Value) :
      Gives (.update field value) field value
  | unbox {name : String} {boxed : BoxedValue} {field : schema.Field}
      {value : (schema.spec field).type.Value} (named : schema.named? name = some field)
      (writable : (schema.spec field).isReadOnly = false)
      (opened : (schema.spec field).type.unbox boxed = .ok value) :
      Gives (.unbox name boxed) field value

namespace Values

theorem give_cases (values : Values schema) (request : Request schema) :
    values.give request = values ∨
      ∃ field value, request.Gives field value ∧ values.give request = values.set field value := by
  cases request with
  | update field value => exact .inr ⟨field, value, .update field value, rfl⟩
  | unbox name boxed =>
    rw [give]
    cases named : schema.named? name with
    | none => exact .inl rfl
    | some field =>
      dsimp only
      rw [giveBoxed]
      cases writable : (schema.spec field).isReadOnly with
      | true => exact .inl rfl
      | false =>
        rw [if_neg (by decide)]
        cases opened : (schema.spec field).type.unbox boxed with
        | error error => exact .inl rfl
        | ok value => exact .inr ⟨field, value, .unbox named writable opened, rfl⟩

variable {P : (type : FieldType) → type.Value → Prop}

theorem forall_foldl_give {requests : List (Request schema)}
    (given : ∀ request ∈ requests, ∀ field value,
      request.Gives field value → P (schema.spec field).type value)
    {values : Values schema} (kept : ∀ field, P (schema.spec field).type (values field)) :
    ∀ field, P (schema.spec field).type (requests.foldl give values field) := by
  induction requests generalizing values with
  | nil => exact kept
  | cons request rest ih =>
    refine ih (fun later member => given later (List.mem_cons_of_mem _ member)) ?_
    rcases values.give_cases request with same | ⟨field, value, gives, set⟩
    · rw [same]
      exact kept
    · rw [set]
      exact forall_set kept (given request List.mem_cons_self field value gives)

end Values

namespace Request

/-- The file can hold what the request would give. Of boxed values none but these are taken. -/
def Holdable : Request schema → Prop
  | .update field value => (schema.spec field).type.Holdable value
  | .unbox _ _ => True

theorem Holdable.of_gives {request : Request schema} (holdable : request.Holdable)
    {field : schema.Field} {value : (schema.spec field).type.Value}
    (gives : request.Gives field value) : (schema.spec field).type.Holdable value := by
  cases gives with
  | update => exact holdable
  | unbox named writable opened => exact FieldType.holdable_of_unbox opened

theorem holdable_of_mem_ofBox {writes : List (String × BoxedValue)} {request : Request schema}
    (member : request ∈ writes.map ofBox) : request.Holdable := by
  obtain ⟨write, -, rfl⟩ := List.mem_map.1 member
  trivial

end Request

theorem Values.Holdable.foldl_give {values : Values schema} (holdable : values.Holdable)
    {requests : List (Request schema)} (given : ∀ request ∈ requests, request.Holdable) :
    (requests.foldl Values.give values).Holdable :=
  Values.forall_foldl_give (fun request member _ _ gives => (given request member).of_gives gives)
    holdable

namespace Table

variable {table later : Table schema} {field other : schema.Field}

theorem update_cases {value : (schema.spec field).type.Value} {changed : Bool}
    (updated : table.update field value = .ok (changed, later)) :
    (changed = false ∧ table.values field = value ∧ later = table) ∨
      (changed = true ∧ table.values field ≠ value ∧
        later = table.marking (table.values.set field value) [field]) := by
  rw [update] at updated
  split at updated
  next => cases updated
  next =>
    split at updated
    next same =>
      obtain ⟨rfl, rfl⟩ := Prod.mk.inj (Except.ok.inj updated)
      exact .inl ⟨rfl, same, rfl⟩
    next different =>
      obtain ⟨rfl, rfl⟩ := Prod.mk.inj (Except.ok.inj updated)
      exact .inr ⟨rfl, different, rfl⟩

theorem unbox_cases {boxed : BoxedValue} {result : UnboxResult}
    (unboxed : table.unbox field boxed = .ok (result, later)) :
    (result.isAccepted = false ∧ later = table) ∨
      ∃ value, (schema.spec field).isReadOnly = false ∧
        (schema.spec field).type.unbox boxed = .ok value ∧
        ((result = .unchanged ∧ table.values field = value ∧ later = table) ∨
          (result = .updated ∧ table.values field ≠ value ∧
            later = table.marking (table.values.set field value) [field])) := by
  rw [unbox] at unboxed
  split at unboxed
  next =>
    obtain ⟨rfl, rfl⟩ := Prod.mk.inj (Except.ok.inj unboxed)
    exact .inl ⟨rfl, rfl⟩
  next writable =>
    rw [Bool.not_eq_true] at writable
    split at unboxed
    next error _ =>
      obtain ⟨rfl, rfl⟩ := Prod.mk.inj (Except.ok.inj unboxed)
      exact .inl ⟨by cases error <;> rfl, rfl⟩
    next value opened =>
      refine .inr ⟨value, writable, opened, ?_⟩
      cases updated : table.update field value with
      | error abort =>
        rw [updated] at unboxed
        cases unboxed
      | ok answer =>
        obtain ⟨changed, last⟩ := answer
        rw [updated] at unboxed
        obtain ⟨rfl, rfl⟩ := Prod.mk.inj (Except.ok.inj unboxed)
        rcases update_cases updated with ⟨rfl, same, rfl⟩ | ⟨rfl, different, marked⟩
        · exact .inl ⟨rfl, same, rfl⟩
        · exact .inr ⟨rfl, different, marked⟩

theorem update_kept {value : (schema.spec field).type.Value} {changed : Bool}
    (updated : table.update field value = .ok (changed, later))
    (apart : changed = true → ¬ schema.Shares field other) :
    later.values other = table.values other := by
  rcases update_cases updated with ⟨-, -, rfl⟩ | ⟨yes, -, rfl⟩
  · rfl
  · exact Values.set_other _ _ _ (apart yes)

theorem unbox_kept {boxed : BoxedValue} {result : UnboxResult}
    (unboxed : table.unbox field boxed = .ok (result, later))
    (apart : result = .updated → ¬ schema.Shares field other) :
    later.values other = table.values other := by
  rcases unbox_cases unboxed with ⟨-, rfl⟩ | ⟨value, -, -, ⟨-, -, rfl⟩ | ⟨yes, -, rfl⟩⟩
  · rfl
  · rfl
  · exact Values.set_other _ _ _ (apart yes)

theorem writable_of_unbox {boxed : BoxedValue}
    (unboxed : table.unbox field boxed = .ok (.updated, later)) :
    (schema.spec field).isReadOnly = false := by
  rcases unbox_cases unboxed with ⟨refused, -⟩ | ⟨value, writable, -⟩
  · cases refused
  · exact writable

end Table

namespace Scope

variable {scope next last : Scope schema} {request : Request schema} {field : schema.Field}

theorem answer_kept {reply : request.Reply} (answered : scope.answer request = (.ok reply, next))
    (apart : ∀ changed ∈ (Exchange.changed? ⟨request, reply⟩).toList,
      ¬ schema.Shares changed field) :
    next.manager.values field = scope.manager.values field := by
  cases request with
  | update given value =>
    rw [answer, update] at answered
    split at answered
    next => cases congrArg Prod.fst answered
    next changed later updated =>
      obtain ⟨same, rfl⟩ := Prod.mk.inj answered
      obtain rfl := Except.ok.inj same
      refine Table.update_kept updated fun yes => apart given ?_
      subst yes
      exact List.mem_singleton_self _
  | unbox name boxed =>
    rw [answer, unbox] at answered
    split at answered
    next =>
      obtain ⟨-, rfl⟩ := Prod.mk.inj answered
      rfl
    next given named =>
      split at answered
      next => cases congrArg Prod.fst answered
      next result later unboxed =>
        obtain ⟨same, rfl⟩ := Prod.mk.inj answered
        obtain rfl := Except.ok.inj same
        refine Table.unbox_kept unboxed fun yes => apart given ?_
        subst yes
        rw [Exchange.changed?, if_pos rfl, named]
        exact List.mem_singleton_self _

theorem answer_writable {name : String} {boxed : BoxedValue} {reply : UnboxResult}
    (answered : scope.answer (.unbox name boxed) = (.ok reply, next))
    (changed : Exchange.changed? ⟨.unbox name boxed, reply⟩ = some field) :
    (schema.spec field).isReadOnly = false := by
  rw [Exchange.changed?] at changed
  split at changed
  next updated =>
    rw [answer, unbox, changed] at answered
    dsimp only at answered
    split at answered
    next => cases congrArg Prod.fst answered
    next result later unboxed =>
      obtain ⟨same, -⟩ := Prod.mk.inj answered
      obtain rfl := Except.ok.inj same
      subst updated
      exact Table.writable_of_unbox unboxed
  next => cases changed

variable {rest : List (Request schema)} {exchanges : List (Exchange schema)}

theorem serve_cons (served : scope.serve (request :: rest) = (.ok exchanges, last)) :
    ∃ reply next later, scope.answer request = (.ok reply, next) ∧
      next.serve rest = (.ok later, last) ∧ exchanges = ⟨request, reply⟩ :: later := by
  rw [serve] at served
  split at served
  next => cases congrArg Prod.fst served
  next reply next answered =>
    obtain ⟨mapped, rfl⟩ := Prod.mk.inj served
    cases answers : (next.serve rest).1 with
    | error abort =>
      rw [answers] at mapped
      cases mapped
    | ok later =>
      rw [answers] at mapped
      exact ⟨reply, next, later, answered, Prod.ext answers rfl, (Except.ok.inj mapped).symm⟩

theorem serve_kept {requests : List (Request schema)}
    (served : scope.serve requests = (.ok exchanges, last))
    (apart : ∀ changed ∈ exchanges.filterMap Exchange.changed?, ¬ schema.Shares changed field) :
    last.manager.values field = scope.manager.values field := by
  induction requests generalizing scope exchanges with
  | nil =>
    obtain ⟨-, rfl⟩ := Prod.mk.inj served
    rfl
  | cons request rest ih =>
    obtain ⟨reply, next, later, answered, others, rfl⟩ := serve_cons served
    rw [Exchange.filterMap_changed?_cons, List.forall_mem_append] at apart
    rw [ih others apart.2, answer_kept answered apart.1]

theorem serve_writable {writes : List (String × BoxedValue)}
    (served : scope.serve (writes.map Request.ofBox) = (.ok exchanges, last))
    (changed : field ∈ exchanges.filterMap Exchange.changed?) :
    (schema.spec field).isReadOnly = false := by
  induction writes generalizing scope exchanges with
  | nil =>
    obtain ⟨answers, -⟩ := Prod.mk.inj served
    obtain rfl := Except.ok.inj answers
    cases changed
  | cons write rest ih =>
    obtain ⟨reply, next, later, answered, others, rfl⟩ := serve_cons served
    rw [Exchange.filterMap_changed?_cons, List.mem_append, Option.mem_toList] at changed
    rcases changed with first | later
    · exact answer_writable answered first
    · exact ih others later

end Scope

end IniSettings
