import IniSettings.Proofs.Document.ByteCursor
import IniSettings.Proofs.Document.OpenSection

/-!
# The scanner over bytes follows the scanner over characters

At each step both cursors stand at the same point of the text. So every text that is cut out of
the bytes lies between two characters, and one run ends where the other does.
-/

namespace IniSettings

namespace Scanner
open Text Text.Utf8

variable {text rest : List Char} {place : Nat} {scanner : Scanner}

/-! ## Headers -/

theorem reaches_headerEnd {name : List Char} (tracks : Tracks text place scanner.line rest) :
    Reaches text ((scanner.atPlace place).headerEnd (encodeChars text) (String.ofList name))
      (match skipBlanks rest with
      | [] => (scanner.moveTo []).enterSection name
      | '\n' :: rest => (scanner.nextLine rest).enterSection name
      | rest => scanner.reject .junkAfterHeader rest) := by
  obtain ⟨next, moved, stops⟩ := skipBlanks_atPlace tracks
  rw [ByteScanner.headerEnd, moved]
  cases left : skipBlanks rest with
  | nil =>
    rw [left] at stops
    refine ⟨next, stops, ?_⟩
    simp only [peek_atPlace, stops.peek_nil]
    rfl
  | cons c after =>
    rw [left] at stops
    obtain ⟨byte, there, marks⟩ := stops.peek_cons
    simp only [peek_atPlace, there]
    rw [marks '\n' (by decide)]
    by_cases feed : c = '\n'
    · subst feed
      obtain ⟨passed, standing, done⟩ : Reaches text _ (scanner.nextLine after) :=
        reaches_passFeed stops
      rw [beq_self_eq_true, if_pos rfl, done]
      exact ⟨passed, standing, rfl⟩
    · rw [if_neg (by simpa using feed)]
      split
      next same => cases same
      next same => exact absurd (List.cons.inj same).1 feed
      next => exact reaches_reject .junkAfterHeader stops

theorem reaches_sectionName (tracks : Tracks text place scanner.line scanner.rest) :
    Reaches text ((scanner.atPlace place).sectionName (encodeChars text)) scanner.sectionName := by
  have begun : Tracks text place (scanner.expect .sectionBegin).line scanner.rest := tracks
  obtain ⟨next, moved, stops⟩ := scanUntil_atPlace ']' (by decide) begun
  obtain ⟨stop, back, cut, -⟩ := tracks.stands.cut stops.stands
  simp only [ByteScanner.sectionName, expect_atPlace, moved, sectionName, rest_expect,
    List.span_eq_takeWhile_dropWhile]
  cases left : scanner.rest.dropWhile (fun c => c != ']' && c != '\n') with
  | nil =>
    rw [left] at stops
    refine ⟨next, stops, ?_⟩
    simp only [peek_atPlace, stops.peek_nil]
    rfl
  | cons c after =>
    rw [left] at stops
    obtain ⟨byte, there, marks⟩ := stops.peek_cons
    simp only [peek_atPlace, there]
    rw [marks ']' (by decide)]
    by_cases bracket : c = ']'
    · subst bracket
      have passed := stops.pass (by decide) (by decide)
      rw [beq_self_eq_true, if_pos rfl, place_atPlace, place_atPlace, back]
      show Reaches text (slice _ _ _ >>= _) _
      rw [cut]
      show Reaches text (if String.ofList _ = "" then _ else _) _
      simp only [String.ofList_eq_empty_iff, List.isEmpty_iff, moveTo_atPlace]
      split
      next => exact reaches_reject .emptySectionName passed
      next => exact reaches_headerEnd passed
    · rw [if_neg (by simpa using bracket)]
      split
      next same => cases same
      next same => exact absurd (List.cons.inj same).1 bracket
      next => exact reaches_reject .unterminatedHeaderAtLineEnd stops

/-! ## Pairs -/

def pair (scanner : Scanner) (index : Nat) (text : List Char) : Scanner :=
  match text.dropWhile fun c => c != '=' && c != '\n' with
  | '=' :: rest =>
    let key := trimEnd (text.takeWhile fun c => c != '=' && c != '\n')
    if key.isEmpty then scanner.reject .expectedKey rest
    else
      let value := trimEnd ((skipBlanks rest).takeWhile (· != '\n'))
      (scanner.assign index key value).skipLine rest
  | text => scanner.reject .expectedAssignment text

theorem assignment_eq_pair {index : Nat} {c : Char} {after : List Char}
    (skipped : skipBlanks scanner.rest = c :: after) (noFeed : c ≠ '\n') (noBracket : c ≠ '[') :
    scanner.assignment index = some (scanner.pair index (c :: after)) := by
  rw [assignment, skipped]
  split
  next same => cases same
  next same => exact absurd (List.cons.inj same).1 noFeed
  next same => exact absurd (List.cons.inj same).1 noBracket
  next =>
    simp only [pair, List.span_eq_takeWhile_dropWhile]
    cases (c :: after).dropWhile (fun c => c != '=' && c != '\n') with
    | nil => rfl
    | cons d rest =>
      by_cases sign : d = '='
      · subst sign
        exact (apply_ite some _ _ _).symm
      · simp [sign]

theorem dropWhile_ne_feed_skipBlanks (text : List Char) :
    (skipBlanks text).dropWhile (· != '\n') = text.dropWhile (· != '\n') := by
  induction text with
  | nil => rfl
  | cons c rest ih =>
    cases blank : isBlank c with
    | true =>
      have noFeed : c ≠ '\n' := fun same => by simp [same] at blank
      rw [skipBlanks_cons_of_blank blank, ih, List.dropWhile_cons_of_pos (by simpa using noFeed)]
    | false => rw [skipBlanks_eq_self (by simpa using blank)]

theorem skipLine_skipBlanks (scanner : Scanner) (text : List Char) :
    scanner.skipLine (skipBlanks text) = scanner.skipLine text := by
  rw [skipLine, dropWhile_ne_feed_skipBlanks, skipLine]

theorem assign_atPlace {index : Nat} {key : List Char} (opened : index < scanner.document.size)
    (nonempty : key ≠ []) (value : List Char) :
    (scanner.atPlace place).assign index (String.ofList key) (String.ofList value) =
      .ok ((scanner.assign index key value).atPlace place) := by
  have named : String.ofList key ≠ "" := by rwa [Ne, String.ofList_eq_empty_iff]
  have within : index < (scanner.atPlace place).document.size := opened
  rw [ByteScanner.assign, if_pos within, Document.setAt_eq _ _ named]
  rfl

theorem reaches_value {index : Nat} {key : List Char} (opened : index < scanner.document.size)
    (nonempty : key ≠ []) (tracks : Tracks text place scanner.line rest) :
    Reaches text ((scanner.atPlace place).value (encodeChars text) index (String.ofList key))
      ((scanner.assign index key (trimEnd ((skipBlanks rest).takeWhile (· != '\n')))).skipLine
        rest) := by
  obtain ⟨start, blanks, starts⟩ := skipBlanks_atPlace tracks
  obtain ⟨next, moved, stops⟩ := scanUntil_atPlace '\n' (by decide) starts
  simp only [Bool.and_self] at stops
  obtain ⟨stop, back, cut, -⟩ := starts.stands.cut stops.stands
  rw [ByteScanner.value, blanks, moved, place_atPlace, place_atPlace, back]
  show Reaches text (slice _ _ _ >>= _) _
  rw [cut]
  show Reaches text (ByteScanner.assign _ _ _ _ >>= _) _
  rw [assign_atPlace opened nonempty]
  rw [← skipLine_skipBlanks _ rest]
  exact reaches_passLineEnd stops

theorem reaches_pair {index : Nat} (opened : index < scanner.document.size)
    (tracks : Tracks text place scanner.line rest) :
    Reaches text ((scanner.atPlace place).pair (encodeChars text) index)
      (scanner.pair index rest) := by
  obtain ⟨next, moved, stops⟩ := scanUntil_atPlace '=' (by decide) tracks
  obtain ⟨stop, back, cut, empty⟩ := tracks.stands.cut stops.stands
  simp only [ByteScanner.pair, moved, pair, peek_atPlace, place_atPlace]
  cases left : rest.dropWhile (fun c => c != '=' && c != '\n') with
  | nil =>
    rw [left] at stops
    simp only [stops.peek_nil]
    exact reaches_reject .expectedAssignment stops
  | cons c after =>
    rw [left] at stops
    obtain ⟨byte, there, marks⟩ := stops.peek_cons
    rw [there, Option.any_some, marks '=' (by decide)]
    by_cases sign : c = '='
    · subst sign
      have passed := stops.pass (by decide) (by decide)
      rw [beq_self_eq_true, if_pos rfl, back]
      show Reaches text (if stop = place then _ else _) _
      simp only [empty, List.isEmpty_iff]
      split
      next =>
        -- The sign is no end of a line: it makes no difference whether it is read before.
        have skipped : scanner.reject .expectedKey after =
            scanner.reject .expectedKey ('=' :: after) := rfl
        rw [skipped]
        exact reaches_reject .expectedKey stops
      next nonempty =>
        rw [cut]
        exact reaches_value opened nonempty passed
    · rw [if_neg (by simpa using sign)]
      split
      next same => exact absurd (List.cons.inj same).1 sign
      next => exact reaches_reject .expectedAssignment stops

/-! ## One step -/

/-- What a step over bytes comes to, going by the scanner over characters. -/
inductive Follows (text : List Char) (scanner : Scanner) : Except Fault ByteScanner.Turn → Prop
  | next {next : Scanner} {place : Nat} (stepped : scanner.step = some next)
      (tracks : Tracks text place next.line next.rest) :
      Follows text scanner (.ok (.next (next.atPlace place)))
  /-- Nothing but blanks is left, which the cursor has passed. -/
  | last {place : Nat} (ended : scanner.final = scanner.moveTo [])
      (tracks : Tracks text place scanner.line []) :
      Follows text scanner (.ok (.last (scanner.atPlace place)))

theorem Reaches.follows {result : Except Fault ByteScanner} {next : Scanner}
    (reaches : Reaches text result next) (stepped : scanner.step = some next) :
    Follows text scanner (ByteScanner.Turn.next <$> result) := by
  obtain ⟨place, tracks, rfl⟩ := reaches
  exact .next stepped tracks

theorem step_of_blanks (blank : skipBlanks scanner.rest = [])
    (unnamed : scanner.expectation ≠ .sectionName) : scanner.step = scanner.finish := by
  unfold step
  cases expected : scanner.expectation with
  | sectionBegin => simp only [sectionBegin, blank]
  | sectionName => exact absurd expected unnamed
  | assignment index => simp only [assignment, blank]

theorem final_of_blanks (blank : skipBlanks scanner.rest = [])
    (unnamed : scanner.expectation ≠ .sectionName) : scanner.final = scanner.moveTo [] := by
  have steps := step_of_blanks blank unnamed
  by_cases empty : scanner.rest = []
  · rw [final_of_halt (by rw [steps, finish, empty]; rfl), moveTo, ← empty]
  · have halted : (scanner.moveTo []).step = none := step_of_blanks rfl unnamed
    rw [final_of_step (by rw [steps, finish, if_neg (by simpa using empty)]), final_of_halt halted]

theorem step_of_feed {after : List Char} (blank : skipBlanks scanner.rest = '\n' :: after)
    (unnamed : scanner.expectation ≠ .sectionName) :
    scanner.step = some (scanner.nextLine after) := by
  unfold step
  cases expected : scanner.expectation with
  | sectionBegin => simp only [sectionBegin, blank]
  | sectionName => exact absurd expected unnamed
  | assignment index => simp only [assignment, blank]

theorem follows_lineBegin {other : ByteScanner → UInt8 → Except Fault ByteScanner}
    (unnamed : scanner.expectation ≠ .sectionName)
    (tracks : Tracks text place scanner.line scanner.rest)
    (others : ∀ (c : Char) (after : List Char) (place : Nat) (byte : UInt8),
      skipBlanks scanner.rest = c :: after → c ≠ '\n' → isMark '[' byte = (c == '[') →
        Tracks text place scanner.line (c :: after) →
        ∃ next, scanner.step = some next ∧ Reaches text (other (scanner.atPlace place) byte) next) :
    Follows text scanner ((scanner.atPlace place).lineBegin (encodeChars text) other) := by
  obtain ⟨next, moved, stops⟩ := skipBlanks_atPlace tracks
  simp only [ByteScanner.lineBegin, moved, peek_atPlace]
  cases left : skipBlanks scanner.rest with
  | nil =>
    rw [left] at stops
    simp only [stops.peek_nil]
    exact .last (final_of_blanks left unnamed) stops
  | cons c after =>
    rw [left] at stops
    obtain ⟨byte, there, marks⟩ := stops.peek_cons
    simp only [there]
    rw [marks '\n' (by decide)]
    by_cases feed : c = '\n'
    · subst feed
      rw [beq_self_eq_true, if_pos rfl]
      exact (reaches_passFeed stops).follows (step_of_feed left unnamed)
    · rw [if_neg (by simpa using feed)]
      obtain ⟨reached, stepped, reaches⟩ :=
        others c after next byte left feed (marks '[' (by decide)) stops
      exact reaches.follows stepped

theorem follows_sectionBegin (expected : scanner.expectation = .sectionBegin)
    (tracks : Tracks text place scanner.line scanner.rest) :
    Follows text scanner ((scanner.atPlace place).sectionBegin (encodeChars text)) := by
  have stepped : scanner.step = scanner.sectionBegin := by rw [step, expected]
  refine follows_lineBegin (by rw [expected]; simp) tracks ?_
  intro c after next byte left feed mark stops
  rw [stepped, sectionBegin, left]
  simp only [mark]
  by_cases bracket : c = '['
  · subst bracket
    refine ⟨(scanner.moveTo after).expect .sectionName, rfl, ?_⟩
    exact ⟨next + 1, stops.pass (by decide) (by decide), rfl⟩
  · rw [if_neg (by simpa using bracket)]
    refine ⟨_, ?_, reaches_reject .expectedSectionBegin stops⟩
    split
    next same => cases same
    next same => exact absurd (List.cons.inj same).1 feed
    next same => exact absurd (List.cons.inj same).1 bracket
    next => rfl

theorem follows_assignment {index : Nat} (expected : scanner.expectation = .assignment index)
    (opened : index < scanner.document.size)
    (tracks : Tracks text place scanner.line scanner.rest) :
    Follows text scanner ((scanner.atPlace place).assignment (encodeChars text) index) := by
  have stepped : scanner.step = scanner.assignment index := by rw [step, expected]
  refine follows_lineBegin (by rw [expected]; simp) tracks ?_
  intro c after next byte left feed mark stops
  rw [stepped]
  simp only [mark]
  by_cases bracket : c = '['
  · subst bracket
    refine ⟨(scanner.moveTo ('[' :: after)).expect .sectionBegin, ?_, next, stops, rfl⟩
    rw [assignment, left]
    rfl
  · rw [if_neg (by simpa using bracket)]
    exact ⟨_, assignment_eq_pair left feed bracket, reaches_pair opened stops⟩

theorem follows (opened : scanner.Opened)
    (tracks : Tracks text place scanner.line scanner.rest) :
    Follows text scanner ((scanner.atPlace place).step (encodeChars text)) := by
  have same : (scanner.atPlace place).expectation = scanner.expectation := rfl
  rw [ByteScanner.step, same]
  cases expected : scanner.expectation with
  | sectionBegin => exact follows_sectionBegin expected tracks
  | sectionName => exact (reaches_sectionName tracks).follows (by rw [step, expected])
  | assignment index => exact follows_assignment expected (opened index expected) tracks

end Scanner

namespace ByteScanner
open Text.Utf8

/-! ## The whole run -/

inductive Reachable (bytes : Bytes) : ByteScanner → Prop
  | start : Reachable bytes .start
  | step {scanner next : ByteScanner} (before : Reachable bytes scanner)
      (stepped : scanner.step bytes = .ok (.next next)) : Reachable bytes next

def Tracked (text : List Char) (scanner : ByteScanner) : Prop :=
  ∃ (chars : Scanner) (place : Nat), scanner = chars.atPlace place ∧ chars.Opened ∧
    Tracks text place chars.line chars.rest ∧ chars.final = (Scanner.start text).final

theorem tracked_start (text : List Char) : Tracked text .start :=
  ⟨Scanner.start text, 0, rfl, fun _ other => (nomatch other), .start text, rfl⟩

/-- The cursor has read all of the text, and what was read is what the other scanner reads. -/
structure Complete (text : List Char) (final : ByteScanner) : Prop where
  place : final.place = (encodeChars text).length
  line : final.line = 1 + text.count '\n'
  reading : final.reading = (Scanner.start text).final.reading

variable {text : List Char} {scanner next final : ByteScanner}

theorem Tracked.step_ne_error (tracked : Tracked text scanner) (fault : Fault) :
    scanner.step (encodeChars text) ≠ .error fault := fun stepped => by
  obtain ⟨chars, place, rfl, opened, tracks, -⟩ := tracked
  have follows := Scanner.follows opened tracks
  rw [stepped] at follows
  cases follows

theorem Tracked.of_next (tracked : Tracked text scanner)
    (stepped : scanner.step (encodeChars text) = .ok (.next next)) : Tracked text next := by
  obtain ⟨chars, place, rfl, opened, tracks, same⟩ := tracked
  have follows := Scanner.follows opened tracks
  rw [stepped] at follows
  cases follows with
  | next charStepped later =>
    exact ⟨_, _, rfl, Scanner.opened_step opened charStepped, later,
      (Scanner.final_of_step charStepped).symm.trans same⟩

theorem Tracked.of_last (tracked : Tracked text scanner)
    (stepped : scanner.step (encodeChars text) = .ok (.last final)) : Complete text final := by
  obtain ⟨chars, place, rfl, opened, tracks, same⟩ := tracked
  have follows := Scanner.follows opened tracks
  rw [stepped] at follows
  cases follows with
  | last ended reached =>
    have reading : (chars.moveTo []).reading = (Scanner.start text).final.reading := by
      rw [← ended, same]
    exact ⟨reached.stands.place_add, reached.lines, reading⟩

theorem Reachable.tracked (reachable : Reachable (encodeChars text) scanner) :
    Tracked text scanner := by
  induction reachable with
  | start => exact tracked_start text
  | step before stepped ih => exact ih.of_next stepped

theorem Tracked.run (tracked : Tracked text scanner) :
    ∃ final, scanner.run (encodeChars text) = .ok final ∧ Complete text final := by
  fun_induction run with
  | case1 scanner fault stepped => exact absurd stepped (tracked.step_ne_error fault)
  | case2 scanner final stepped => exact ⟨final, rfl, tracked.of_last stepped⟩
  | case3 scanner next stepped ih => exact ih (tracked.of_next stepped)

end ByteScanner

open Text.Utf8 in
/-- Scanning the bytes of any text does nothing it must not do, gets on with each step, and ends at
the end of the text with what scanning its characters gives. -/
theorem Document.scan_bytes (text : String) :
    (∀ scanner, ByteScanner.Reachable (encode text) scanner →
      (scanner.place ≤ (encode text).length ∧ isBoundary (encode text) scanner.place = true) ∧
      (∀ index, scanner.expectation = .assignment index → index < scanner.document.size) ∧
      (∀ fault, scanner.step (encode text) ≠ .error fault) ∧
      (∀ next, scanner.step (encode text) = .ok (.next next) →
        Prod.Lex (· < ·) (· < ·) (next.measure (encode text)) (scanner.measure (encode text))) ∧
      ∀ final, scanner.step (encode text) = .ok (.last final) →
        final.place = (encode text).length ∧ final.line = 1 + text.toList.count '\n') ∧
    ∃ final, ByteScanner.start.run (encode text) = .ok final ∧
      final.place = (encode text).length ∧ final.line = 1 + text.toList.count '\n' ∧
      final.reading = Document.scan text := by
  constructor
  · intro scanner reachable
    have tracked := reachable.tracked
    obtain ⟨chars, place, rfl, opened, tracks, -⟩ := id tracked
    exact ⟨⟨tracks.stands.le_length, tracks.stands.isBoundary⟩, opened, tracked.step_ne_error,
      fun next stepped => ByteScanner.step_decreases stepped,
      fun final stepped => ⟨(tracked.of_last stepped).place, (tracked.of_last stepped).line⟩⟩
  · obtain ⟨final, ran, complete⟩ := (ByteScanner.tracked_start text.toList).run
    exact ⟨final, ran, complete.place, complete.line, complete.reading⟩

end IniSettings
