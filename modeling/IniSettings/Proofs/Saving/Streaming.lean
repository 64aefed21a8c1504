import IniSettings.Proofs.Saving.Writing
import IniSettings.Storage.Writer

/-!
# Streaming to any writer

However a writer cuts what it is offered, it gets the bytes of the rendered document in their
order, each once, up to where it is full.
-/

namespace IniSettings

namespace Writer

variable {ι : Type} {habit : Habit ι} {writer middle later : Writer habit} {first second : Bytes}

theorem isPrefix_fitting (writer : Writer habit) (bytes : Bytes) :
    writer.fitting bytes <+: bytes := by
  unfold fitting
  split
  next => exact List.prefix_rfl
  next left _ => exact List.take_prefix left bytes

@[simp] theorem fitting_nil (writer : Writer habit) : writer.fitting [] = [] :=
  List.prefix_nil.1 (writer.isPrefix_fitting [])

theorem fitting_append (fits : writer.fitting first = first)
    (room : middle.room = writer.room.map fun left => left - first.length) (second : Bytes) :
    writer.fitting (first ++ second) = first ++ middle.fitting second := by
  unfold fitting at fits ⊢
  cases limit : writer.room with
  | none =>
    rw [limit, Option.map_none] at room
    rw [room]
  | some left =>
    rw [limit, Option.map_some] at room
    rw [limit] at fits
    rw [room]
    exact List.take_append.trans (congrArg (· ++ _) fits)

theorem fitting_append_of_ne (short : writer.fitting first ≠ first) (second : Bytes) :
    writer.fitting (first ++ second) = writer.fitting first := by
  unfold fitting at short ⊢
  cases limit : writer.room with
  | none => simp [limit] at short
  | some left =>
    rw [limit] at short
    have few : left ≤ first.length := by
      by_contra more
      exact short (List.take_of_length_le (by omega))
    exact List.take_append_of_le_length few

/-- What offering bytes until all are taken comes to. -/
inductive Delivery (writer : Writer habit) (bytes : Bytes) :
    Except IoError Unit → Writer habit → Prop
  | whole {later : Writer habit} (fits : writer.fitting bytes = bytes)
      (delivered : later.delivered = writer.delivered ++ bytes)
      (room : later.room = writer.room.map fun left => left - bytes.length) :
      Delivery writer bytes (.ok ()) later
  | cut {later : Writer habit} (short : writer.fitting bytes ≠ bytes)
      (delivered : later.delivered = writer.delivered ++ writer.fitting bytes) :
      Delivery writer bytes (.error (habit.refusal later.remembered)) later

theorem delivery_nil (writer : Writer habit) : Delivery writer [] (.ok ()) writer :=
  .whole writer.fitting_nil (List.append_nil _).symm (by simp)

theorem Delivery.resume {answer : Except IoError Unit}
    (taken : Delivery writer first (.ok ()) middle)
    (delivery : Delivery middle second answer later) :
    Delivery writer (first ++ second) answer later := by
  obtain ⟨fits, delivered, room⟩ := taken
  have joined := fitting_append fits room second
  cases delivery with
  | whole fitsToo deliveredToo roomToo =>
    refine .whole (by rw [joined, fitsToo]) ?_ ?_
    · rw [deliveredToo, delivered, List.append_assoc]
    · rw [roomToo, room, Option.map_map, List.length_append]
      exact Option.map_congr fun left _ => Nat.sub_sub left _ _
  | cut short deliveredToo =>
    refine .cut ?_ ?_
    · rwa [joined, Ne, List.append_cancel_left_eq]
    · rw [deliveredToo, delivered, List.append_assoc, joined]

theorem Delivery.stop {error : IoError} (refused : Delivery writer first (.error error) later)
    (second : Bytes) : Delivery writer (first ++ second) (.error error) later := by
  cases refused with
  | cut short delivered =>
    have joined := fitting_append_of_ne short second
    refine .cut (fun whole => ?_) (by rw [joined, delivered])
    have less := (writer.isPrefix_fitting first).length_le
    have lengths := congrArg List.length (joined.symm.trans whole)
    rw [List.length_append] at lengths
    exact short ((writer.isPrefix_fitting first).eq_of_length (by omega))

theorem fitting_take {bytes : Bytes} {count : Nat}
    (within : count ≤ (writer.fitting bytes).length) :
    writer.fitting (bytes.take count) = bytes.take count := by
  unfold fitting at within ⊢
  cases limit : writer.room with
  | none => rfl
  | some left =>
    simp only [limit, List.length_take] at within
    exact List.take_of_length_le (by rw [List.length_take]; omega)

theorem write_cases (writer : Writer habit) {offered : Bytes} (nonempty : offered ≠ []) :
    (writer.fitting offered = [] ∧
        writer.write offered = (.error (habit.refusal writer.remembered), writer)) ∨
      ∃ count later, writer.write offered = (.ok (count + 1), later) ∧
        Delivery writer (offered.take (count + 1)) (.ok ()) later := by
  by_cases full : writer.room = some 0
  · exact .inl ⟨by simp only [fitting, full, List.take_zero], by rw [write, if_pos full]⟩
  · right
    have fits : 0 < (writer.fitting offered).length := by
      have positive := List.length_pos_iff.2 nonempty
      unfold fitting
      cases limit : writer.room with
      | none => exact positive
      | some left =>
        have room : left ≠ 0 := fun spent => full (spent ▸ limit)
        rw [List.length_take]
        omega
    obtain ⟨count, taken⟩ : ∃ count,
        min (max 1 (habit.accept writer.remembered offered).1) (writer.fitting offered).length =
          count + 1 :=
      Nat.exists_eq_add_one.2 (by omega)
    have within : count + 1 ≤ (writer.fitting offered).length := taken ▸ Nat.min_le_right _ _
    refine ⟨count, _, by simp only [write, if_neg full, taken]; rfl,
      .whole (fitting_take within) rfl ?_⟩
    have less := Nat.le_trans within (writer.isPrefix_fitting offered).length_le
    rw [List.length_take, Nat.min_eq_left less]

end Writer

namespace Saving
open Script Writer

variable {ι : Type} {habit : Habit ι} {writer : Writer habit}

/-- Each call takes some of all that is left, so no byte comes twice. -/
theorem writeAll_delivers {fuel : Nat} {bytes : Bytes} (enough : bytes.length ≤ fuel) :
    (writeAll fuel bytes).Ensures writer (fun _ => True) (Delivery writer bytes) := by
  induction fuel generalizing writer bytes with
  | zero =>
    obtain rfl : bytes = [] := List.length_eq_zero_iff.1 (by omega)
    exact ensures_pure trivial writer.delivery_nil
  | succ fuel ih =>
    cases bytes with
    | nil => exact ensures_pure trivial writer.delivery_nil
    | cons byte rest =>
      refine ensures_ask_bind trivial ?_
      have answered : Backend.answer (.write (byte :: rest)) writer = writer.write (byte :: rest) :=
        rfl
      rw [answered]
      rcases writer.write_cases (List.cons_ne_nil byte rest) with
        ⟨nothing, wrote⟩ | ⟨count, later, wrote, taken⟩
      · rw [wrote]
        refine ensures_pure trivial (.cut ?_ ?_)
        · rw [nothing]
          exact (List.cons_ne_nil byte rest).symm
        · rw [nothing, List.append_nil]
      · rw [wrote]
        have left : ((byte :: rest).drop (count + 1)).length ≤ fuel := by
          rw [List.length_drop]
          omega
        refine (ih left).imp (fun _ => id) fun answer last _ delivery => ?_
        have whole := taken.resume delivery
        rwa [List.take_append_drop] at whole

theorem writePieces_delivers (pieces : List String) :
    (writePieces pieces).Ensures writer (fun _ => True)
      (Delivery writer (pieces.flatMap Text.Utf8.encode)) := by
  induction pieces generalizing writer with
  | nil => exact ensures_pure trivial writer.delivery_nil
  | cons piece rest ih =>
    refine (writeAll_delivers (Nat.le_refl _)).bind fun answer later _ delivery => ?_
    cases answer with
    | error error => exact ensures_pure trivial (delivery.stop _)
    | ok _ => exact ih.imp (fun _ => id) fun answer last _ more => delivery.resume more

theorem stream_delivers (document : Document) (writer : Writer habit) :
    Delivery writer (Text.Utf8.encode document.render) ((stream document).run writer).value
      ((stream document).run writer).store := by
  rw [← flatMap_encode_pieces]
  exact (writePieces_delivers document.pieces).after

/-- A writer that takes so many bytes in all gets so many of the rendered document, or all of it,
and the answer says which. -/
theorem stream_exact (document : Document) (habit : Habit ι) (remembered : ι) :
    (∀ room, let run := (stream document).run (Writer.limited habit room remembered)
      let text := Text.Utf8.encode document.render
      run.store.delivered = text.take (min room text.length) ∧
        run.value =
          if text.length ≤ room then .ok () else .error (habit.refusal run.store.remembered)) ∧
      let run := (stream document).run (Writer.unlimited habit remembered)
      run.store.delivered = Text.Utf8.encode document.render ∧ run.value = .ok () := by
  constructor
  · intro room run text
    have delivery : Delivery (Writer.limited habit room remembered) text run.value run.store :=
      stream_delivers document _
    generalize run.value = answer, run.store = later at delivery ⊢
    cases delivery with
    | whole fits delivered =>
      have enough : text.length ≤ room := (List.take_eq_self_iff text).1 fits
      rw [delivered, if_pos enough, Nat.min_eq_right enough, List.take_length]
      exact ⟨rfl, rfl⟩
    | cut short delivered =>
      have more : ¬ text.length ≤ room := fun enough =>
        short ((List.take_eq_self_iff text).2 enough)
      rw [delivered, if_neg more, Nat.min_eq_left (Nat.le_of_not_le more)]
      exact ⟨rfl, rfl⟩
  · intro run
    have delivery : Delivery (Writer.unlimited habit remembered) (Text.Utf8.encode document.render)
        run.value run.store := stream_delivers document _
    generalize run.value = answer, run.store = later at delivery ⊢
    cases delivery with
    | whole _ delivered => exact ⟨delivered, rfl⟩
    | cut short _ => exact absurd rfl short

example :
    let sipping : Habit Unit := ⟨fun _ _ => (1, ()), fun _ => .writeRefused⟩
    ((stream ⟨[⟨"é", []⟩]⟩).run (Writer.limited sipping 2 ())).store.delivered = [0x5B, 0xC3] := by
  decide

end Saving

end IniSettings
