import IniSettings.Proofs.Document.ByteProgress
import IniSettings.Proofs.Text.Places

/-!
# The cursor of both scanners

The cursor of the scanner over bytes stands before what the scanner over characters has left, and
has counted the lines before it. Each move within a line and to the next one keeps it so.
-/

namespace IniSettings

namespace Text.Utf8

/-- The cursor of a scanner at that line stands before `rest`. -/
structure Tracks (text : List Char) (place line : Nat) (rest : List Char) : Prop where
  stands : StandsBefore text rest place
  lines : line + rest.count '\n' = 1 + text.count '\n'

theorem count_dropWhile {passed : Char → Bool} (noFeed : passed '\n' = false) (text : List Char) :
    (text.dropWhile passed).count '\n' = text.count '\n' := by
  have noneTaken : (text.takeWhile passed).count '\n' = 0 :=
    List.count_eq_zero.2 fun member => by
      rw [List.mem_takeWhile_imp member] at noFeed
      cases noFeed
  conv_rhs => rw [← List.takeWhile_append_dropWhile (p := passed) (l := text), List.count_append]
  rw [noneTaken, Nat.zero_add]

namespace Tracks

variable {text rest : List Char} {place line : Nat}

theorem start (text : List Char) : Tracks text 0 1 text :=
  ⟨.whole text, rfl⟩

theorem skipWhile {skipped : UInt8 → Bool} {passed : Char → Bool}
    (agree : ∀ c, ∀ byte ∈ encodeChar c, skipped byte = passed c) (noFeed : passed '\n' = false)
    (tracks : Tracks text place line rest) :
    Tracks text (skipWhile (encodeChars text) skipped place) line (rest.dropWhile passed) :=
  ⟨tracks.stands.skipWhile agree, by rw [count_dropWhile noFeed, tracks.lines]⟩

theorem pass {mark : Char} (ascii : mark.toNat < 0x80) (noFeed : mark ≠ '\n')
    (tracks : Tracks text place line (mark :: rest)) : Tracks text (place + 1) line rest :=
  ⟨tracks.stands.pass ascii, by rw [← tracks.lines, List.count_cons_of_ne noFeed]⟩

theorem feed (tracks : Tracks text place line ('\n' :: rest)) :
    Tracks text (place + 1) (line + 1) rest := by
  refine ⟨tracks.stands.pass (by decide), ?_⟩
  rw [← tracks.lines, List.count_cons_self]
  omega

theorem peek_nil (tracks : Tracks text place line []) : (encodeChars text)[place]? = none :=
  tracks.stands.peek_eq

theorem peek_cons {c : Char} (tracks : Tracks text place line (c :: rest)) :
    ∃ byte, (encodeChars text)[place]? = some byte ∧
      ∀ mark : Char, mark.toNat < 0x80 → isMark mark byte = (c == mark) := by
  obtain ⟨lead, tail, bytes, -⟩ := exists_lead c
  refine ⟨lead, ?_, fun mark ascii => isMark_of_mem ascii (by simp [bytes])⟩
  rw [tracks.stands.peek_eq, encodeChars_cons, bytes]
  rfl

end Tracks

end Text.Utf8

namespace Scanner
open Text Text.Utf8

def atPlace (scanner : Scanner) (place : Nat) : ByteScanner :=
  ⟨place, scanner.line, scanner.expectation, scanner.document, scanner.reported⟩

@[simp] theorem place_atPlace (scanner : Scanner) (place : Nat) :
    (scanner.atPlace place).place = place := rfl

@[simp] theorem peek_atPlace (bytes : Bytes) (scanner : Scanner) (place : Nat) :
    (scanner.atPlace place).peek bytes = bytes[place]? := rfl

@[simp] theorem expect_atPlace (scanner : Scanner) (expectation : Expectation) (place : Nat) :
    (scanner.atPlace place).expect expectation = (scanner.expect expectation).atPlace place := rfl

@[simp] theorem moveTo_atPlace (scanner : Scanner) (place next : Nat) :
    (scanner.atPlace place).moveTo next = scanner.atPlace next := rfl

def Reaches (text : List Char) (result : Except Fault ByteScanner) (next : Scanner) : Prop :=
  ∃ place, Tracks text place next.line next.rest ∧ result = .ok (next.atPlace place)

variable {text rest : List Char} {place : Nat} {scanner : Scanner}

theorem skipBlanks_atPlace (tracks : Tracks text place scanner.line rest) :
    ∃ next, (scanner.atPlace place).skipBlanks (encodeChars text) = scanner.atPlace next ∧
      Tracks text next scanner.line (skipBlanks rest) :=
  ⟨_, rfl, tracks.skipWhile (fun _ _ member => isBlankByte_of_mem member) (by decide)⟩

theorem scanUntil_atPlace (mark : Char) (ascii : mark.toNat < 0x80)
    (tracks : Tracks text place scanner.line rest) :
    ∃ next, (scanner.atPlace place).scanUntil (encodeChars text) mark = scanner.atPlace next ∧
      Tracks text next scanner.line (rest.dropWhile fun c => c != mark && c != '\n') := by
  refine ⟨_, rfl, tracks.skipWhile (fun c byte member => ?_) (by simp)⟩
  rw [isMark_of_mem ascii member, isMark_of_mem (by decide) member]
  rfl

theorem reaches_passFeed (tracks : Tracks text place scanner.line ('\n' :: rest)) :
    Reaches text ((scanner.atPlace place).passFeed (encodeChars text)) (scanner.nextLine rest) := by
  obtain ⟨byte, there, marks⟩ := tracks.peek_cons
  have atFeed : ((scanner.atPlace place).peek (encodeChars text)).any (isMark '\n') = true := by
    rw [peek_atPlace, there, Option.any_some, marks '\n' (by decide), beq_self_eq_true]
  exact ⟨place + 1, tracks.feed, by rw [ByteScanner.passFeed, if_pos atFeed]; rfl⟩

theorem reaches_passLineEnd (tracks : Tracks text place scanner.line (rest.dropWhile (· != '\n'))) :
    Reaches text ((scanner.atPlace place).passLineEnd (encodeChars text))
      (scanner.skipLine rest) := by
  have stop := List.head?_dropWhile_not (· != '\n') rest
  unfold skipLine
  cases left : rest.dropWhile (· != '\n') with
  | nil =>
    rw [left] at tracks
    refine ⟨place, tracks, ?_⟩
    rw [ByteScanner.passLineEnd, peek_atPlace, tracks.peek_nil]
    rfl
  | cons c after =>
    rw [left] at tracks stop
    obtain rfl : c = '\n' := by simpa using stop
    obtain ⟨byte, there, marks⟩ := tracks.peek_cons
    rw [ByteScanner.passLineEnd, peek_atPlace, there, Option.any_some, marks '\n' (by decide),
      beq_self_eq_true, if_pos rfl]
    exact reaches_passFeed tracks

theorem reaches_skipLine (tracks : Tracks text place scanner.line rest) :
    Reaches text ((scanner.atPlace place).skipLine (encodeChars text)) (scanner.skipLine rest) := by
  obtain ⟨next, moved, stops⟩ := scanUntil_atPlace '\n' (by decide) tracks
  rw [ByteScanner.skipLine, moved]
  refine reaches_passLineEnd ?_
  simpa using stops

theorem reaches_reject (defect : Defect) (tracks : Tracks text place scanner.line rest) :
    Reaches text (((scanner.atPlace place).report defect).skipLine (encodeChars text))
      (scanner.reject defect rest) := by
  have reported : Tracks text place (scanner.report defect).line rest := tracks
  exact reaches_skipLine reported

end Scanner

end IniSettings
