import IniSettings.Document.ByteScanner
import IniSettings.Proofs.Document.Progress

/-!
# Progress over bytes

Wherever the cursor stands, a step that is not cut short and does not end the run moves it on, or
gives a bracket back and expects less. So the run is a recursion on the bytes left and the rank of
what is expected.
-/

namespace IniSettings

namespace Text.Utf8

variable {bytes : Bytes} {skipped : UInt8 → Bool} {place : Nat}

theorem le_skipWhile : place ≤ skipWhile bytes skipped place := by
  fun_induction skipWhile with
  | case1 place within found ih => exact (Nat.le_succ place).trans ih
  | case2 => exact le_rfl
  | case3 => exact le_rfl

theorem lt_skipWhile {byte : UInt8} (there : bytes[place]? = some byte)
    (found : skipped byte = true) : place < skipWhile bytes skipped place := by
  obtain ⟨within, rfl⟩ := List.getElem?_eq_some_iff.1 there
  rw [skipWhile, dif_pos within, if_pos found]
  exact le_skipWhile

end Text.Utf8

theorem bind_eq_ok {α β : Type} {first : Except Fault α} {rest : α → Except Fault β} {result : β}
    (succeeded : (first >>= rest) = .ok result) :
    ∃ value, first = .ok value ∧ rest value = .ok result := by
  cases first with
  | error fault => cases succeeded
  | ok value => exact ⟨value, rfl, succeeded⟩

theorem map_eq_ok {α β : Type} {change : α → β} {first : Except Fault α} {result : β}
    (succeeded : change <$> first = .ok result) :
    ∃ value, first = .ok value ∧ change value = result := by
  cases first with
  | error fault => cases succeeded
  | ok value => exact ⟨value, rfl, Except.ok.inj succeeded⟩

namespace ByteScanner
open Text.Utf8

variable {bytes : Bytes} {scanner next : ByteScanner}

@[simp] theorem place_report (scanner : ByteScanner) (defect : Defect) :
    (scanner.report defect).place = scanner.place := rfl

@[simp] theorem place_moveTo (scanner : ByteScanner) (place : Nat) :
    (scanner.moveTo place).place = place := rfl

theorem place_le_skipBlanks (bytes : Bytes) (scanner : ByteScanner) :
    scanner.place ≤ (scanner.skipBlanks bytes).place :=
  le_skipWhile

theorem place_le_scanUntil (bytes : Bytes) (mark : Char) (scanner : ByteScanner) :
    scanner.place ≤ (scanner.scanUntil bytes mark).place :=
  le_skipWhile

theorem place_lt_length {byte : UInt8} (there : scanner.peek bytes = some byte) :
    scanner.place < bytes.length :=
  (List.getElem?_eq_some_iff.1 there).1

theorem place_passFeed (passed : scanner.passFeed bytes = .ok next) :
    next.place = scanner.place + 1 := by
  unfold passFeed at passed
  split at passed
  next => rw [← Except.ok.inj passed]
  next => cases passed

theorem place_le_passLineEnd (passed : scanner.passLineEnd bytes = .ok next) :
    scanner.place ≤ next.place := by
  unfold passLineEnd at passed
  split at passed
  next => exact (Nat.le_succ _).trans (place_passFeed passed).ge
  next => exact (Except.ok.inj passed) ▸ le_rfl

theorem place_le_skipLine (skipped : scanner.skipLine bytes = .ok next) :
    scanner.place ≤ next.place :=
  (place_le_scanUntil bytes '\n' scanner).trans (place_le_passLineEnd skipped)

theorem place_lt_skipLine {byte : UInt8} (there : scanner.peek bytes = some byte)
    (skipped : scanner.skipLine bytes = .ok next) : scanner.place < next.place := by
  by_cases feed : isMark '\n' byte = true
  · have stays : scanner.scanUntil bytes '\n' = scanner := by
      obtain ⟨within, rfl⟩ := List.getElem?_eq_some_iff.1 there
      rw [scanUntil, skipWhile, dif_pos within, if_neg (by simp [feed])]
      rfl
    have atFeed : (scanner.peek bytes).any (isMark '\n') = true := by rw [there]; exact feed
    rw [skipLine, stays, passLineEnd, if_pos atFeed] at skipped
    exact (place_passFeed skipped).ge
  · have moved : scanner.place < (scanner.scanUntil bytes '\n').place :=
      lt_skipWhile there (by simp [feed])
    exact moved.trans_le (place_le_passLineEnd skipped)

theorem place_lt_reject {byte : UInt8} {defect : Defect} (there : scanner.peek bytes = some byte)
    (skipped : (scanner.report defect).skipLine bytes = .ok next) : scanner.place < next.place := by
  have still : (scanner.report defect).peek bytes = some byte := there
  have moved : (scanner.report defect).place < next.place := place_lt_skipLine still skipped
  rwa [place_report] at moved

theorem place_assign {index : Nat} {key value : String}
    (assigned : scanner.assign index key value = .ok next) : next.place = scanner.place := by
  unfold assign at assigned
  split at assigned
  next =>
    split at assigned
    next => cases assigned
    next => rw [← Except.ok.inj assigned]
  next => cases assigned

def measure (bytes : Bytes) (scanner : ByteScanner) : Nat × Nat :=
  (bytes.length - scanner.place, scanner.expectation.rank)

theorem measure_lt_of_place (within : scanner.place < bytes.length)
    (moved : scanner.place < next.place) :
    Prod.Lex (· < ·) (· < ·) (next.measure bytes) (scanner.measure bytes) :=
  Prod.Lex.left _ _ (Nat.sub_lt_sub_left within moved)

theorem measure_lt (ranked : 0 < scanner.expectation.rank)
    (progress : scanner.place < bytes.length ∧ scanner.place < next.place ∨
      scanner.place ≤ next.place ∧ next.expectation = .sectionBegin) :
    Prod.Lex (· < ·) (· < ·) (next.measure bytes) (scanner.measure bytes) := by
  rcases progress with ⟨within, moved⟩ | ⟨kept, lower⟩
  · exact measure_lt_of_place within moved
  · have lowered : next.expectation.rank < scanner.expectation.rank := by rwa [lower]
    exact Prod.Lex.right' _ (Nat.sub_le_sub_left kept _) lowered

theorem lineBegin_cases {other : ByteScanner → UInt8 → Except Fault ByteScanner}
    (stepped : scanner.lineBegin bytes other = .ok (.next next)) :
    ∃ place byte, scanner.place ≤ place ∧ bytes[place]? = some byte ∧
      (next.place = place + 1 ∨
        ¬ isMark '\n' byte = true ∧ other (scanner.moveTo place) byte = .ok next) := by
  simp only [lineBegin] at stepped
  split at stepped
  next => cases stepped
  next byte there =>
    refine ⟨(scanner.skipBlanks bytes).place, byte, place_le_skipBlanks bytes scanner, there, ?_⟩
    obtain ⟨reached, done, same⟩ := map_eq_ok stepped
    obtain rfl := Turn.next.inj same
    split at done
    next => exact .inl (place_passFeed done)
    next noFeed => exact .inr ⟨noFeed, done⟩

theorem sectionBegin_decreases (stepped : scanner.sectionBegin bytes = .ok (.next next)) :
    scanner.place < bytes.length ∧ scanner.place < next.place := by
  obtain ⟨place, byte, kept, there, passed | ⟨-, done⟩⟩ := lineBegin_cases stepped
  all_goals
    have within := (List.getElem?_eq_some_iff.1 there).1
    refine ⟨kept.trans_lt within, kept.trans_lt ?_⟩
  · exact passed.ge
  · split at done
    next => exact (Except.ok.inj done) ▸ Nat.lt_succ_self _
    next =>
      have found : (scanner.moveTo place).peek bytes = some byte := there
      exact place_lt_reject found done

theorem place_le_headerEnd {name : String} (stepped : scanner.headerEnd bytes name = .ok next) :
    scanner.place ≤ next.place := by
  refine (place_le_skipBlanks bytes scanner).trans ?_
  simp only [headerEnd] at stepped
  split at stepped
  next => exact (Except.ok.inj stepped) ▸ le_rfl
  next byte there =>
    split at stepped
    next =>
      obtain ⟨passed, done, same⟩ := bind_eq_ok stepped
      obtain rfl := Except.ok.inj same
      exact (Nat.le_succ _).trans (place_passFeed done).ge
    next =>
      exact (place_lt_reject there stepped).le

/-- A header that nothing closes may have been read to the end already. -/
theorem sectionName_decreases (stepped : scanner.sectionName bytes = .ok next) :
    scanner.place < bytes.length ∧ scanner.place < next.place ∨
      scanner.place ≤ next.place ∧ next.expectation = .sectionBegin := by
  have kept := place_le_scanUntil bytes ']' (scanner.expect .sectionBegin)
  simp only [sectionName] at stepped
  split at stepped
  next => exact .inr ((Except.ok.inj stepped) ▸ ⟨kept, rfl⟩)
  next byte there =>
    refine .inl ⟨kept.trans_lt (place_lt_length there), kept.trans_lt ?_⟩
    split at stepped
    next =>
      obtain ⟨stop, -, stepped⟩ := bind_eq_ok stepped
      obtain ⟨name, -, stepped⟩ := bind_eq_ok stepped
      split at stepped
      next => exact Nat.lt_of_succ_le (place_le_skipLine stepped)
      next => exact Nat.lt_of_succ_le (place_le_headerEnd stepped)
    next =>
      exact place_lt_reject there stepped

theorem place_le_value {index : Nat} {key : String}
    (stepped : scanner.value bytes index key = .ok next) : scanner.place ≤ next.place := by
  obtain ⟨stop, -, stepped⟩ := bind_eq_ok stepped
  obtain ⟨value, -, stepped⟩ := bind_eq_ok stepped
  obtain ⟨assigned, written, stepped⟩ := bind_eq_ok stepped
  calc scanner.place ≤ (scanner.skipBlanks bytes).place := place_le_skipBlanks bytes scanner
    _ ≤ ((scanner.skipBlanks bytes).scanUntil bytes '\n').place := place_le_scanUntil bytes '\n' _
    _ = assigned.place := (place_assign written).symm
    _ ≤ next.place := place_le_passLineEnd stepped

theorem place_lt_pair (scanner : ByteScanner) {index : Nat} {byte : UInt8}
    (there : scanner.peek bytes = some byte)
    (noFeed : ¬ isMark '\n' byte = true) (stepped : scanner.pair bytes index = .ok next) :
    scanner.place < next.place := by
  have kept := place_le_scanUntil bytes '=' scanner
  simp only [pair] at stepped
  split at stepped
  next marked =>
    refine kept.trans_lt ?_
    obtain ⟨mark, found, -⟩ := (Option.any_eq_true _ _).1 marked
    obtain ⟨stop, -, stepped⟩ := bind_eq_ok stepped
    split at stepped
    next => exact place_lt_reject found stepped
    next =>
      obtain ⟨key, -, stepped⟩ := bind_eq_ok stepped
      exact Nat.lt_of_succ_le (place_le_value stepped)
  next unmarked =>
    have noMark : ¬ isMark '=' byte = true := fun mark => by
      obtain ⟨within, rfl⟩ := List.getElem?_eq_some_iff.1 there
      have stays : (scanner.scanUntil bytes '=').place = scanner.place := by
        rw [scanUntil, skipWhile, dif_pos within, if_neg (by simp [mark]), place_moveTo]
      rw [peek, stays, ← peek, there] at unmarked
      exact unmarked mark
    have moved : scanner.place < (scanner.scanUntil bytes '=').place :=
      lt_skipWhile there (by simp [noMark, noFeed])
    have later := place_le_skipLine stepped
    exact moved.trans_le later

theorem assignment_decreases {index : Nat}
    (stepped : scanner.assignment bytes index = .ok (.next next)) :
    scanner.place < bytes.length ∧ scanner.place < next.place ∨
      scanner.place ≤ next.place ∧ next.expectation = .sectionBegin := by
  obtain ⟨place, byte, kept, there, passed | ⟨noFeed, done⟩⟩ := lineBegin_cases stepped
  all_goals have within := kept.trans_lt (List.getElem?_eq_some_iff.1 there).1
  · exact .inl ⟨within, kept.trans_lt passed.ge⟩
  · split at done
    next => exact .inr ((Except.ok.inj done) ▸ ⟨kept, rfl⟩)
    next =>
      have moved := place_lt_pair (scanner.moveTo place) there noFeed done
      exact .inl ⟨within, kept.trans_lt moved⟩

/-- A step that goes on leaves fewer bytes, or no more and a lower rank. -/
theorem step_decreases (stepped : scanner.step bytes = .ok (.next next)) :
    Prod.Lex (· < ·) (· < ·) (next.measure bytes) (scanner.measure bytes) := by
  unfold step at stepped
  cases expected : scanner.expectation with
  | sectionBegin =>
    rw [expected] at stepped
    obtain ⟨within, moved⟩ := sectionBegin_decreases stepped
    exact measure_lt_of_place within moved
  | sectionName =>
    rw [expected] at stepped
    obtain ⟨reached, done, same⟩ := map_eq_ok stepped
    obtain rfl := Turn.next.inj same
    exact measure_lt (by simp [expected, Expectation.rank]) (sectionName_decreases done)
  | assignment index =>
    rw [expected] at stepped
    exact measure_lt (by simp [expected, Expectation.rank]) (assignment_decreases stepped)

def run (bytes : Bytes) (scanner : ByteScanner) : Except Fault ByteScanner :=
  match _ : scanner.step bytes with
  | .error fault => .error fault
  | .ok (.last final) => .ok final
  | .ok (.next next) => run bytes next
termination_by scanner.measure bytes
decreasing_by exact step_decreases ‹_›

end ByteScanner

end IniSettings
