import IniSettings.Proofs.Storage.Memory
import IniSettings.Saving

/-!
# Writing a file in memory

The pieces of a document reach the open file as one run of bytes, cut where the file takes no more.
From there on it is known what writing a whole file comes to, whatever fails on the way.
-/

namespace IniSettings.Saving
open Memory Script

/-- What writing those bytes to the open file comes to. -/
structure Written (path : Path) (file : OpenFile) (old bytes : Bytes)
    (answer : Except IoError Unit) (later : Memory) : Prop where
  contents : later.contents? path = some (old ++ file.taken bytes)
  complete : answer = .ok () ↔ file.taken bytes = bytes
  writing : answer = .ok () → later.writing = some (file.after bytes.length)

variable {memory : Memory} {path : Path} {file : OpenFile} {old bytes : Bytes}

theorem Written.opened {later : Memory} (written : Written path file old bytes (.ok ()) later)
    (place : file.place = path.components) :
    later.Opened path (file.after bytes.length) (old ++ bytes) :=
  ⟨written.writing rfl, place, (written.complete.1 rfl) ▸ written.contents⟩

theorem written_nil (opened : memory.Opened path file old) :
    Written path file old [] (.ok ()) memory :=
  ⟨by simpa using opened.contents, by simp, by simpa using opened.writing⟩

theorem written_of_nothing {error : IoError} {later : Memory}
    (contents : later.contents? path = some old) (nonempty : bytes ≠ [])
    (nothing : file.taken bytes = []) : Written path file old bytes (.error error) later := by
  refine ⟨?_, ?_, ?_⟩
  · rw [nothing, List.append_nil]
    exact contents
  · simp [nothing, Ne.symm nonempty]
  · intro complete
    cases complete

theorem Written.resume {first second : Bytes} {answer : Except IoError Unit} {later : Memory}
    (fits : file.taken first = first)
    (written : Written path (file.after first.length) (old ++ first) second answer later) :
    Written path file old (first ++ second) answer later := by
  refine ⟨?_, ?_, fun complete => ?_⟩
  · rw [OpenFile.taken_append _ fits, ← List.append_assoc]
    exact written.contents
  · rw [OpenFile.taken_append _ fits, List.append_cancel_left_eq]
    exact written.complete
  · rw [List.length_append, ← OpenFile.after_after]
    exact written.writing complete

theorem Written.stop {first : Bytes} {error : IoError} {later : Memory}
    (written : Written path file old first (.error error) later) (second : Bytes) :
    Written path file old (first ++ second) (.error error) later := by
  have refused : file.taken first ≠ first := fun fits => by
    simpa using written.complete.2 fits
  have taken := OpenFile.taken_append_of_ne second refused
  refine ⟨taken ▸ written.contents, ⟨fun complete => by simp at complete, fun fits => ?_⟩,
    fun complete => by simp at complete⟩
  have short := congrArg List.length (taken.symm.trans fits)
  have more := (file.isPrefix_taken first).length_le
  rw [List.length_append] at short
  exact absurd ((file.isPrefix_taken first).eq_of_length (by omega)) refused

theorem writeAll_ensures {fuel : Nat} (enough : bytes.length ≤ fuel)
    (opened : memory.Opened path file old) :
    (writeAll fuel bytes).Ensures memory (SameBut [path.components] memory)
      (Written path file old bytes) := by
  induction fuel generalizing memory file old bytes with
  | zero =>
    obtain rfl : bytes = [] := List.length_eq_zero_iff.1 (by omega)
    exact ensures_pure (SameBut.refl memory) (written_nil opened)
  | succ fuel ih =>
    cases bytes with
    | nil => exact ensures_pure (SameBut.refl memory) (written_nil opened)
    | cons byte rest =>
      refine ensures_ask_bind (SameBut.refl memory) ?_
      rw [answer_write]
      rcases write_cases opened (byte :: rest) with
        ⟨error, wrote, nothing⟩ | ⟨answered, reopened, same⟩
      · rw [wrote]
        exact ensures_pure (SameBut.refl memory)
          (written_of_nothing opened.contents (List.cons_ne_nil _ _) nothing)
      · rw [answered]
        generalize (memory.write (byte :: rest)).2 = later at reopened same
        cases count : (file.taken (byte :: rest)).length with
        | zero =>
          have nothing := List.length_eq_zero_iff.1 count
          rw [nothing, List.append_nil] at reopened
          exact ensures_pure same
            (written_of_nothing reopened.contents (List.cons_ne_nil _ _) nothing)
        | succ more =>
          change (writeAll fuel ((byte :: rest).drop (more + 1))).Ensures _ _ _
          rw [← count]
          have parts := List.take_append_drop (file.taken (byte :: rest)).length (byte :: rest)
          rw [OpenFile.take_length_taken] at parts
          have shorter :
              ((byte :: rest).drop (file.taken (byte :: rest)).length).length ≤ fuel := by
            rw [List.length_drop]
            omega
          refine (ih shorter reopened).imp (fun state unchanged => same.trans unchanged)
            fun answer last _ written => ?_
          have whole := written.resume (OpenFile.taken_taken file _)
          rwa [parts] at whole

theorem writePiece_ensures (piece : String) (opened : memory.Opened path file old) :
    (writePiece piece).Ensures memory (SameBut [path.components] memory)
      (Written path file old (Text.Utf8.encode piece)) :=
  writeAll_ensures (Nat.le_refl _) opened

theorem writePieces_ensures (pieces : List String) (opened : memory.Opened path file old) :
    (writePieces pieces).Ensures memory (SameBut [path.components] memory)
      (Written path file old (pieces.flatMap Text.Utf8.encode)) := by
  induction pieces generalizing memory file old with
  | nil => exact ensures_pure (SameBut.refl memory) (written_nil opened)
  | cons piece rest ih =>
    refine (writePiece_ensures piece opened).bind fun answer later same written => ?_
    cases answer with
    | error error => exact ensures_pure same (written.stop _)
    | ok _ =>
      refine (ih (written.opened opened.place)).imp (fun state unchanged => same.trans unchanged)
        fun answer last _ more => ?_
      exact more.resume (written.complete.1 rfl)

theorem flatMap_toList_pieces (document : Document) :
    document.pieces.flatMap String.toList = document.render.toList := by
  simp [Document.pieces, Document.render, Section.pieces, Section.render, Section.renderPair,
    String.toList_join, List.flatMap_map, List.flatMap_assoc]

theorem flatMap_encode_pieces (document : Document) :
    document.pieces.flatMap Text.Utf8.encode = Text.Utf8.encode document.render := by
  rw [Text.Utf8.encode, ← flatMap_toList_pieces]
  exact List.flatMap_assoc.symm

def Completes (file : OpenFile) (document : Document) : Prop :=
  file.taken (Text.Utf8.encode document.render) = Text.Utf8.encode document.render ∧
    file.flushFails = false

theorem streamAndFlush_ensures (document : Document) (opened : memory.Opened path file []) :
    (streamAndFlush document).Ensures memory (SameBut [path.components] memory)
      fun answer later =>
        later.contents? path = some (file.taken (Text.Utf8.encode document.render)) ∧
          (answer = .ok () ↔ Completes file document) := by
  have streamed := writePieces_ensures document.pieces opened
  rw [flatMap_encode_pieces] at streamed
  refine streamed.bind fun answer later same written => ?_
  cases answer with
  | error error =>
    refine ensures_pure same ⟨written.contents, fun complete => by simp at complete, ?_⟩
    intro all
    simpa using written.complete.2 all.1
  | ok _ =>
    refine ensures_ask same same ⟨written.contents, ?_⟩
    have fits := written.complete.1 rfl
    show later.flush = .ok () ↔ _
    rw [Memory.flush, written.writing rfl]
    cases flushFails : file.flushFails <;> simp [Completes, OpenFile.after, flushFails, fits]

theorem discard_ensures (memory : Memory) (path : Path) :
    (discard path).Ensures memory (SameBut [path.components] memory) fun _ later =>
      (memory.Removes ∧ later.contents? path = none) ∨
        (¬ memory.Removes ∧ later.contents? path = memory.contents? path) := by
  have removed : SameBut [path.components] memory (memory.remove path).2 ∧
      ((memory.Removes ∧ (memory.remove path).2.contents? path = none) ∨
        (¬ memory.Removes ∧ (memory.remove path).2.contents? path = memory.contents? path)) := by
    rcases remove_cases memory path with ⟨fails, unchanged⟩ | ⟨removes, gone, same⟩
    · rw [unchanged]
      exact ⟨SameBut.refl memory, .inr ⟨fails, rfl⟩⟩
    · exact ⟨same, .inl ⟨removes, gone⟩⟩
  refine ensures_ask_bind (SameBut.refl memory) ?_
  rw [answer_remove]
  cases (memory.remove path).1 with
  | ok _ => exact ensures_pure removed.1 removed.2
  | error error =>
    dsimp only
    split
    · exact ensures_pure removed.1 removed.2
    · exact ensures_log removed.1 removed.2

/-- What writing a file comes to: it could not be opened, it was not written to its end, or it
holds the document. -/
inductive FileOutcome (document : Document) (path : Path) (memory : Memory) :
    Except ConfigError Unit → Memory → Prop where
  | refused {later : Memory} (denied : memory.denyCreates = true)
      (files : later.files = memory.files) :
      FileOutcome document path memory (.error (.write path .createDenied)) later
  | failed {error : IoError} {later : Memory} (opened : memory.denyCreates = false)
      (incomplete : ¬ Completes (memory.opening path) document)
      (rest : (memory.Removes ∧ later.contents? path = none) ∨
        (¬ memory.Removes ∧ later.contents? path =
          some ((memory.opening path).taken (Text.Utf8.encode document.render)))) :
      FileOutcome document path memory (.error (.write path error)) later
  | written {later : Memory} (opened : memory.denyCreates = false)
      (complete : Completes (memory.opening path) document)
      (contents : later.contents? path = some (Text.Utf8.encode document.render)) :
      FileOutcome document path memory (.ok ()) later

theorem writeFile_ensures (document : Document) (path : Path) (memory : Memory) :
    (writeFile document path).Ensures memory
      (fun state => SameBut [path.components] memory state ∧
        (memory.denyCreates = true → state.files = memory.files))
      (FileOutcome document path memory) := by
  refine ensures_ask_bind ⟨SameBut.refl memory, fun _ => rfl⟩ ?_
  rw [answer_create]
  rcases create_cases memory path with ⟨denied, created⟩ | ⟨allowed, created, opened, same⟩
  · rw [created]
    exact ensures_log_bind
      (ensures_pure ⟨⟨fun _ _ => rfl, rfl, rfl, rfl⟩, fun _ => rfl⟩ (.refused denied rfl))
  · rw [created]
    have between : ∀ state, SameBut [path.components] (memory.create path).2 state →
        SameBut [path.components] memory state ∧
          (memory.denyCreates = true → state.files = memory.files) :=
      fun state more => ⟨same.trans more, fun denied => by simp [allowed] at denied⟩
    generalize (memory.create path).2 = created at opened same between
    refine ((streamAndFlush_ensures document opened).imp between fun _ _ _ => id).bind
      fun answer later within streamed => ?_
    obtain ⟨contents, complete⟩ := streamed
    refine ensures_ask_bind within ?_
    have closed : Backend.answer .close later = ((), { later with writing := none }) := rfl
    rw [closed]
    have unchanged : SameBut [path.components] memory { later with writing := none } :=
      { within.1 with }
    cases answer with
    | ok _ =>
      have complete := complete.1 rfl
      exact ensures_log_bind (ensures_pure ⟨unchanged, within.2⟩
        (.written allowed complete (contents.trans (congrArg some complete.1))))
    | error error =>
      have removes : ({ later with writing := none } : Memory).Removes ↔ memory.Removes := by
        rw [Removes, Removes, unchanged.faults]
      refine ((discard_ensures _ path).imp
        (fun state more => ⟨unchanged.trans more, fun denied => by simp [allowed] at denied⟩)
        fun _ _ _ => id).bind fun _ last there removed => ?_
      refine ensures_log_bind (ensures_pure there (.failed allowed ?_ ?_))
      · exact fun all => by simpa using complete.2 all
      · rw [removes] at removed
        exact removed.imp_right fun kept => ⟨kept.1, kept.2.trans contents⟩

end IniSettings.Saving
