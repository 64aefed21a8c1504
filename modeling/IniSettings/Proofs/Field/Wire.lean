import IniSettings.Field.Boxed
import IniSettings.Proofs.Json.Reading
import IniSettings.Proofs.Json.Writing
import Mathlib.Data.List.Perm.Basic

/-!
# Boxed values on the wire

A boxed value is read from the texts of certain trees and from no other text: objects with one
member for the kind and one for the content, and arrays of the two. What the writer gives is the
text of such a tree, so it is read back, and no two boxed values are written alike.
-/

namespace IniSettings.BoxedValue

def content : BoxedValue → Json
  | .bool value => .bool value
  | .unsigned value => .natural value
  | .text value => .string (some value)

/-- How a kind is told: by its name, or by an object with its name as the only key, over null. -/
inductive Kind.Told (kind : Kind) : Json → Prop where
  | name : Told kind (.string (some kind.name))
  | alone : Told kind (.object [(some kind.name, .null)])

/-- One member tells the kind, one is the content, and the keys of all others are texts other than
theirs. The order is free. -/
def Carries (members : List (Option String × Json)) (boxed : BoxedValue) : Prop :=
  ∃ tag others, boxed.kind.Told tag ∧
    members.Perm ((some "type", tag) :: (some "value", boxed.content) :: others) ∧
    ∀ member ∈ others, ∃ key, member.1 = some key ∧ key ≠ "type" ∧ key ≠ "value"

/-- All values that stand for the boxed one. An array is read by the places of its items, and there
the kind is told by its name alone. -/
inductive Shows (boxed : BoxedValue) : Json → Prop where
  | object {members : List (Option String × Json)} (carries : Carries members boxed) :
    Shows boxed (.object members)
  | array : Shows boxed (.array [.string (some boxed.kind.name), boxed.content])

/-! ## Kinds and contents -/

theorem Kind.ofName?_eq_some_iff {name : String} {kind : Kind} :
    ofName? name = some kind ↔ name = kind.name := by
  cases kind <;> grind [ofName?, Kind.name]

theorem Kind.ofJson?_eq_some_iff {tag : Json} {kind : Kind} :
    ofJson? tag = some kind ↔ kind.Told tag := by
  constructor
  · intro found
    unfold ofJson? at found
    split at found
    next =>
      rw [ofName?_eq_some_iff.1 found]
      exact .name
    next =>
      rw [ofName?_eq_some_iff.1 found]
      exact .alone
    next => cases found
  · rintro (_ | _) <;> exact ofName?_eq_some_iff.2 rfl

theorem Kind.Told.kind_eq {tag : Json} {kind other : Kind} (told : kind.Told tag)
    (also : other.Told tag) : kind = other :=
  Option.some.inj ((ofJson?_eq_some_iff.2 told).symm.trans (ofJson?_eq_some_iff.2 also))

theorem ofContent?_eq_some_iff {kind : Kind} {given : Json} {boxed : BoxedValue} :
    ofContent? kind given = some boxed ↔ boxed.kind = kind ∧ boxed.content = given := by
  constructor
  · intro found
    unfold ofContent? at found
    split at found <;> cases found <;> exact ⟨rfl, rfl⟩
  · rintro ⟨rfl, rfl⟩
    cases boxed <;> rfl

theorem bind_ofContent?_eq_some_iff {found : Option Kind} {given : Json} {boxed : BoxedValue} :
    (found.bind fun kind => ofContent? kind given) = some boxed ↔
      found = some boxed.kind ∧ given = boxed.content := by
  rw [Option.bind_eq_some_iff]
  constructor
  · rintro ⟨kind, found, fits⟩
    obtain ⟨rfl, rfl⟩ := ofContent?_eq_some_iff.1 fits
    exact ⟨found, rfl⟩
  · rintro ⟨found, rfl⟩
    exact ⟨_, found, ofContent?_eq_some_iff.2 ⟨rfl, rfl⟩⟩

/-! ## Members under a key -/

section Members

variable {members others : List (Option String × Json)} {key : String}

theorem valuesAt_cons (key : String) (member : Option String × Json) :
    valuesAt key (member :: members) =
      if member.1 = some key then member.2 :: valuesAt key members else valuesAt key members := by
  by_cases same : member.1 = some key <;> simp [valuesAt, same]

theorem valuesAt_perm (key : String) (same : members.Perm others) :
    (valuesAt key members).Perm (valuesAt key others) :=
  (same.filter _).map _

theorem valuesAt_absent (absent : ∀ member ∈ members, member.1 ≠ some key) :
    valuesAt key members = [] := by
  rw [valuesAt, List.filter_eq_nil_iff.2 (by simpa using absent), List.map_nil]

theorem valuesAt_without {other : String} (apart : key ≠ other) :
    valuesAt key (members.filter (·.1 != some other)) = valuesAt key members := by
  rw [valuesAt, valuesAt, List.filter_filter]
  congr 1
  refine List.filter_congr fun member _ => ?_
  by_cases same : member.1 = some key <;> simp [same, apart]

theorem perm_valuesAt (key : String) (members : List (Option String × Json)) :
    members.Perm ((valuesAt key members).map (Prod.mk (some key)) ++
      members.filter (·.1 != some key)) := by
  have under : (valuesAt key members).map (Prod.mk (some key)) =
      members.filter (·.1 == some key) := by
    rw [valuesAt, List.map_map]
    refine (List.map_congr_left fun member inside => ?_).trans (List.map_id _)
    rw [Function.comp_apply, ← beq_iff_eq.1 (List.mem_filter.1 inside).2]
    rfl
  rw [under]
  exact (List.filter_append_perm _ members).symm

theorem mem_valuesAt {value : Json} (member : (some key, value) ∈ members) :
    value ∈ valuesAt key members :=
  List.mem_map.2 ⟨_, List.mem_filter.2 ⟨member, beq_self_eq_true _⟩, rfl⟩

theorem length_valuesAt (key : String) (members : List (Option String × Json)) :
    (valuesAt key members).length = (members.map Prod.fst).count (some key) := by
  rw [valuesAt, List.length_map, List.count, List.countP_map, List.countP_eq_length_filter]
  rfl

end Members

/-! ## Objects -/

section Objects

variable {members : List (Option String × Json)} {boxed : BoxedValue}

theorem Carries.of_ofValue? (read : ofValue? (.object members) = some boxed) :
    Carries members boxed := by
  rw [ofValue?] at read
  split at read
  next => cases read
  next named =>
    split at read
    next tag given kinds contents =>
      obtain ⟨told, rfl⟩ := bind_ofContent?_eq_some_iff.1 read
      -- The one member under `type` is put first, then the one under `value` before what is left.
      have first := perm_valuesAt "type" members
      have second := perm_valuesAt "value" (members.filter (·.1 != some "type"))
      rw [kinds] at first
      rw [valuesAt_without (by decide), contents] at second
      refine ⟨tag, _, Kind.ofJson?_eq_some_iff.1 told, first.trans (second.cons _), ?_⟩
      intro member inside
      obtain ⟨inside, noValue⟩ := List.mem_filter.1 inside
      obtain ⟨inside, noType⟩ := List.mem_filter.1 inside
      cases name : member.1 with
      | none => exact absurd (List.any_eq_true.2 ⟨member, inside, by simp [name]⟩) named
      | some key => exact ⟨key, rfl, by simpa [name] using noType, by simpa [name] using noValue⟩
    next => cases read

namespace Carries

theorem values (carries : Carries members boxed) :
    (∃ tag, boxed.kind.Told tag ∧ valuesAt "type" members = [tag]) ∧
      valuesAt "value" members = [boxed.content] ∧
      members.any (fun member => member.1.isNone) = false := by
  obtain ⟨tag, others, told, order, apart⟩ := carries
  have absent {key : String} (either : key = "type" ∨ key = "value") :
      valuesAt key others = [] := by
    refine valuesAt_absent fun member inside same => ?_
    obtain ⟨name, is, noType, noValue⟩ := apart member inside
    obtain rfl := Option.some.inj (is.symm.trans same)
    exact either.elim noType noValue
  refine ⟨⟨tag, told, List.perm_singleton.1 ?_⟩, List.perm_singleton.1 ?_, ?_⟩
  · simpa [valuesAt_cons, absent] using valuesAt_perm "type" order
  · simpa [valuesAt_cons, absent] using valuesAt_perm "value" order
  · rw [order.any_eq, List.any_cons, List.any_cons, Option.isNone_some, Option.isNone_some,
      Bool.false_or, Bool.false_or, List.any_eq_false]
    intro member inside
    obtain ⟨key, name, -⟩ := apart member inside
    simp [name]

theorem ofValue?_eq (carries : Carries members boxed) :
    ofValue? (.object members) = some boxed := by
  obtain ⟨⟨tag, told, kinds⟩, contents, named⟩ := carries.values
  rw [ofValue?, named, kinds, contents]
  exact bind_ofContent?_eq_some_iff.2 ⟨Kind.ofJson?_eq_some_iff.2 told, rfl⟩

theorem told (carries : Carries members boxed) {tag : Json}
    (member : (some "type", tag) ∈ members) : boxed.kind.Told tag := by
  obtain ⟨⟨only, told, kinds⟩, -⟩ := carries.values
  have inside := mem_valuesAt member
  rw [kinds, List.mem_singleton] at inside
  rwa [inside]

theorem content_eq (carries : Carries members boxed) {given : Json}
    (member : (some "value", given) ∈ members) : boxed.content = given := by
  obtain ⟨-, contents, -⟩ := carries.values
  have inside := mem_valuesAt member
  rw [contents, List.mem_singleton] at inside
  exact inside.symm

theorem count_eq_one (carries : Carries members boxed) {key : String}
    (either : key = "type" ∨ key = "value") : (members.map Prod.fst).count (some key) = 1 := by
  obtain ⟨⟨tag, -, kinds⟩, contents, -⟩ := carries.values
  rw [← length_valuesAt]
  rcases either with rfl | rfl
  · rw [kinds, List.length_singleton]
  · rw [contents, List.length_singleton]

end Carries

theorem ofValue?_object_iff :
    ofValue? (.object members) = some boxed ↔ Carries members boxed :=
  ⟨Carries.of_ofValue?, Carries.ofValue?_eq⟩

theorem ofValue?_array_iff {items : List Json} :
    ofValue? (.array items) = some boxed ↔
      items = [.string (some boxed.kind.name), boxed.content] := by
  constructor
  · intro read
    unfold ofValue? at read
    split at read
    next whole => cases whole
    next name given whole =>
      obtain ⟨kind, rfl⟩ := bind_ofContent?_eq_some_iff.1 read
      rw [← Kind.ofName?_eq_some_iff.1 kind]
      exact Json.array.inj whole
    next => cases read
  · rintro rfl
    exact bind_ofContent?_eq_some_iff.2 ⟨Kind.ofName?_eq_some_iff.2 rfl, rfl⟩

theorem ofValue?_eq_some_iff {value : Json} : ofValue? value = some boxed ↔ Shows boxed value := by
  constructor
  · intro read
    cases value with
    | object members => exact .object (ofValue?_object_iff.1 read)
    | array items =>
      rw [ofValue?_array_iff.1 read]
      exact .array
    | null => cases read
    | bool => cases read
    | natural => cases read
    | number => cases read
    | string => cases read
  · rintro (carries | _)
    · exact ofValue?_object_iff.2 carries
    · exact ofValue?_array_iff.2 rfl

end Objects

/-! ## Texts -/

theorem exists_content (boxed : BoxedValue) :
    ∃ scalar : Json.Scalar, String.ofList scalar.text = boxed.contentJson ∧
      scalar.value = boxed.content := by
  cases boxed with
  | bool value => cases value <;> exact ⟨.bool _, rfl, rfl⟩
  | unsigned value =>
    obtain ⟨numeral, text, same⟩ := Json.exists_natural value
    exact ⟨.number numeral, by rw [Json.Scalar.text, text, String.ofList_toList]; rfl, same⟩
  | text value =>
    obtain ⟨quoted, text, same⟩ := Json.exists_quoted value
    refine ⟨.string quoted, ?_, congrArg Json.string same⟩
    rw [Json.Scalar.text, text, String.ofList_toList]
    rfl

theorem exists_written (boxed : BoxedValue) :
    ∃ written : Json.Written, written.text = boxed.toJson ∧
      written.value = .object [(some "type", .string (some boxed.kind.name)),
        (some "value", boxed.content)] := by
  obtain ⟨quoted, kind, name⟩ := Json.exists_quoted boxed.kind.name
  obtain ⟨scalar, text, same⟩ := boxed.exists_content
  obtain ⟨written, whole, value⟩ :=
    Json.exists_compact ("type", .string quoted) [("value", scalar)]
  refine ⟨written, ?_, ?_⟩
  · rw [whole, toJson, members, ← text]
    simp [Json.Scalar.text, kind]
  · rw [value, ← name, ← same]
    rfl

theorem shows_members (boxed : BoxedValue) :
    Shows boxed (.object [(some "type", .string (some boxed.kind.name)),
      (some "value", boxed.content)]) :=
  .object ⟨_, [], .name, .refl _, nofun⟩

theorem ofJson?_text (written : Json.Written) :
    ofJson? written.text = ofValue? written.value := by
  rw [ofJson?, Json.parse?_eq_some_iff.2 ⟨written, rfl, rfl⟩, Option.bind_some]

theorem ofJson?_toJson (boxed : BoxedValue) : ofJson? boxed.toJson = some boxed := by
  obtain ⟨written, text, value⟩ := boxed.exists_written
  rw [← text, ofJson?_text, ofValue?_eq_some_iff, value]
  exact shows_members boxed

theorem ofJson?_eq_some_iff {text : String} {boxed : BoxedValue} :
    ofJson? text = some boxed ↔
      ∃ written : Json.Written, written.text = text ∧ Shows boxed written.value := by
  constructor
  · intro read
    obtain ⟨value, parsed, read⟩ := Option.bind_eq_some_iff.1 read
    obtain ⟨written, text, rfl⟩ := Json.parse?_eq_some_iff.1 parsed
    exact ⟨written, text, ofValue?_eq_some_iff.1 read⟩
  · rintro ⟨written, rfl, shown⟩
    rw [ofJson?_text, ofValue?_eq_some_iff]
    exact shown

/-- Boxed values survive the wire. An object is read exactly if it carries a boxed value, wherever
blanks stand and whichever way its strings and numbers are written; a key that is missing or
doubled, a tag that tells no kind and a content that is not of the kind make it fail. -/
theorem ofJson?_exact :
    (∀ boxed : BoxedValue, ofJson? boxed.toJson = some boxed) ∧ Function.Injective toJson ∧
    (∀ boxed : BoxedValue, ∃ written : Json.Written, written.text = boxed.toJson ∧
      written.value = .object [(some "type", .string (some boxed.kind.name)),
        (some "value", boxed.content)]) ∧
    (∀ text boxed, ofJson? text = some boxed ↔
      ∃ written : Json.Written, written.text = text ∧ Shows boxed written.value) ∧
    ∀ (written : Json.Written) (members : List (Option String × Json)),
      written.value = .object members →
      (∀ boxed, Carries members boxed → ofJson? written.text = some boxed) ∧
      (∀ key, key = "type" ∨ key = "value" → (members.map Prod.fst).count (some key) ≠ 1 →
        ofJson? written.text = none) ∧
      (∀ tag, (some "type", tag) ∈ members → (∀ kind, ¬ Kind.Told kind tag) →
        ofJson? written.text = none) ∧
      ∀ kind tag given, (some "type", tag) ∈ members → Kind.Told kind tag →
        (some "value", given) ∈ members →
        (∀ boxed : BoxedValue, boxed.kind = kind → boxed.content ≠ given) →
        ofJson? written.text = none := by
  refine ⟨ofJson?_toJson, ?injective, exists_written, fun _ _ => ofJson?_eq_some_iff, ?object⟩
  case injective =>
    intro boxed other same
    rw [← Option.some.injEq, ← ofJson?_toJson boxed, same, ofJson?_toJson]
  case object =>
    intro written members value
    rw [ofJson?_text, value]
    have fails (wrong : ∀ boxed, ¬ Carries members boxed) : ofValue? (.object members) = none :=
      Option.eq_none_iff_forall_ne_some.2 fun boxed read => wrong boxed (.of_ofValue? read)
    refine ⟨fun boxed => Carries.ofValue?_eq, ?count, ?tag, ?content⟩
    case count =>
      intro key either other
      exact fails fun boxed carries => other (carries.count_eq_one either)
    case tag =>
      intro tag member unknown
      exact fails fun boxed carries => unknown boxed.kind (carries.told member)
    case content =>
      intro kind tag given member told under unfit
      refine fails fun boxed carries => unfit boxed ?_ (carries.content_eq under)
      exact (carries.told member).kind_eq told

example : ofJson? " \x7b \"value\" : \"\\u0061\", \"\": [ 1e5 ] ,\"type\":\"text\"\n\x7d" =
    some (.text "a") := by
  decide +kernel

/-- A tag that is no string, a text without keys, and a further key that is half of a character. -/
theorem reads_other_forms :
    (Json.parse? "\x7b\"type\":\x7b\"unsigned\":null\x7d,\"value\":7\x7d" =
        some (.object [(some "type", .object [(some "unsigned", .null)]),
          (some "value", .natural 7)]) ∧
      (∀ kind : Kind, Json.object [(some "unsigned", .null)] ≠ .string (some kind.name)) ∧
      ofJson? "\x7b\"type\":\x7b\"unsigned\":null\x7d,\"value\":7\x7d" = some (.unsigned 7)) ∧
    (Json.parse? "[\"text\",\"x\"]" = some (.array [.string (some "text"), .string (some "x")]) ∧
      ofJson? "[\"text\",\"x\"]" = some (.text "x")) ∧
    Json.parse? "\x7b\"\\ud800\":1,\"type\":\"text\",\"value\":\"y\"\x7d" =
        some (.object [(none, .natural 1), (some "type", .string (some "text")),
          (some "value", .string (some "y"))]) ∧
      ofJson? "\x7b\"\\ud800\":1,\"type\":\"text\",\"value\":\"y\"\x7d" = none := by
  refine ⟨⟨by cbv, fun _ => nofun, by decide +kernel⟩, ⟨by cbv, by decide +kernel⟩, by cbv, ?_⟩
  decide +kernel

end IniSettings.BoxedValue
