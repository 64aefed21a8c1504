import IniSettings.Document.Scanner
import IniSettings.Proofs.Text.Blank
import Mathlib.Data.List.TakeDrop

/-!
# Progress of the scanner

Each step reads something, or it reads nothing and expects the begin of a section afterwards, so
the pair of the text left and the rank of the expectation goes down. `Scanner.final` is where a
scanner ends; it is reached with the fuel that the length of the text allows for.
-/

namespace IniSettings

/-- A scanner that has to give a bracket back goes from the higher rank to the lower one. -/
def Expectation.rank : Expectation → Nat
  | .sectionBegin => 0
  | .sectionName => 1
  | .assignment _ => 1

namespace Scanner
open Text

@[simp] theorem rest_expect (scanner : Scanner) (expectation : Expectation) :
    (scanner.expect expectation).rest = scanner.rest := rfl

@[simp] theorem rest_moveTo (scanner : Scanner) (rest : List Char) :
    (scanner.moveTo rest).rest = rest := rfl

theorem length_rest_skipLine_le (scanner : Scanner) (text : List Char) :
    (scanner.skipLine text).rest.length ≤ text.length - 1 := by
  have shorter := List.length_dropWhile_le (· != '\n') text
  unfold skipLine
  split
  next => exact Nat.zero_le _
  next rest left =>
    rw [left, List.length_cons] at shorter
    exact Nat.le_sub_one_of_lt shorter

theorem length_rest_skipLine_lt (scanner : Scanner) {text whole : List Char}
    (part : text.length ≤ whole.length) (nonempty : whole ≠ []) :
    (scanner.skipLine text).rest.length < whole.length := by
  have skipped := scanner.length_rest_skipLine_le text
  have positive := List.length_pos_iff.2 nonempty
  omega

theorem length_rest_finish {scanner next : Scanner} (finished : scanner.finish = some next) :
    next.rest.length < scanner.rest.length := by
  simp only [finish, Option.ite_none_left_eq_some, Option.some.injEq] at finished
  obtain ⟨nonempty, rfl⟩ := finished
  exact List.length_pos_iff.2 (by simpa using nonempty)

theorem length_rest_sectionBegin {scanner next : Scanner}
    (stepped : scanner.sectionBegin = some next) :
    next.rest.length < scanner.rest.length := by
  have skipped := (skipBlanks_suffix scanner.rest).length_le
  unfold sectionBegin at stepped
  split at stepped
  next => exact length_rest_finish stepped
  next rest found =>
    rw [found, List.length_cons] at skipped
    obtain rfl := Option.some.inj stepped
    exact skipped
  next rest found =>
    rw [found, List.length_cons] at skipped
    obtain rfl := Option.some.inj stepped
    exact skipped
  next nonempty _ _ =>
    obtain rfl := Option.some.inj stepped
    exact (length_rest_skipLine_lt _ le_rfl nonempty).trans_le skipped

theorem length_rest_sectionName (scanner : Scanner) :
    scanner.sectionName.rest.length < scanner.rest.length ∨
      scanner.sectionName.rest.length = scanner.rest.length ∧
        scanner.sectionName.expectation = .sectionBegin := by
  have shorter := List.length_dropWhile_le (fun c => c != ']' && c != '\n') scanner.rest
  simp only [sectionName, rest_expect, List.span_eq_takeWhile_dropWhile]
  split
  next =>
    by_cases empty : scanner.rest = []
    · exact .inr ⟨by simp [empty], rfl⟩
    · exact .inl (List.length_pos_iff.2 empty)
  next rest left =>
    rw [left, List.length_cons] at shorter
    have skipped := (skipBlanks_suffix rest).length_le
    refine .inl (Nat.lt_of_le_of_lt ?_ shorter)
    split
    next => exact (length_rest_skipLine_le _ rest).trans (Nat.sub_le _ _)
    next =>
      split
      next => exact Nat.zero_le _
      next after found =>
        rw [found, List.length_cons] at skipped
        exact (Nat.le_succ _).trans skipped
      next => exact (length_rest_skipLine_le _ _).trans ((Nat.sub_le _ _).trans skipped)
  next nonempty _ => exact .inl ((length_rest_skipLine_lt _ le_rfl nonempty).trans_le shorter)

theorem length_rest_assignment {scanner next : Scanner} {index : Nat}
    (stepped : scanner.assignment index = some next) :
    next.rest.length < scanner.rest.length ∨
      next.rest.length = scanner.rest.length ∧ next.expectation = .sectionBegin := by
  have skipped := (skipBlanks_suffix scanner.rest).length_le
  unfold assignment at stepped
  split at stepped
  next => exact .inl (length_rest_finish stepped)
  next rest found =>
    rw [found, List.length_cons] at skipped
    obtain rfl := Option.some.inj stepped
    exact .inl skipped
  next rest found =>
    rw [found] at skipped
    obtain rfl := Option.some.inj stepped
    rcases skipped.lt_or_eq with less | same
    · exact .inl less
    · exact .inr ⟨same, rfl⟩
  next nonempty _ _ =>
    have shorter :=
      List.length_dropWhile_le (fun c => c != '=' && c != '\n') (skipBlanks scanner.rest)
    simp only [List.span_eq_takeWhile_dropWhile] at stepped
    refine .inl (Nat.lt_of_lt_of_le ?_ skipped)
    split at stepped
    next rest left =>
      rw [left] at shorter
      have part : rest.length ≤ (skipBlanks scanner.rest).length := (Nat.le_succ _).trans shorter
      split at stepped
      next =>
        obtain rfl := Option.some.inj stepped
        exact length_rest_skipLine_lt _ part nonempty
      next =>
        obtain rfl := Option.some.inj stepped
        exact length_rest_skipLine_lt _ part nonempty
    next =>
      obtain rfl := Option.some.inj stepped
      exact length_rest_skipLine_lt _ shorter nonempty

theorem step_decreases {scanner next : Scanner} (stepped : scanner.step = some next) :
    next.rest.length < scanner.rest.length ∨
      next.rest.length = scanner.rest.length ∧
        next.expectation.rank < scanner.expectation.rank := by
  unfold step at stepped
  cases expected : scanner.expectation with
  | sectionBegin =>
    rw [expected] at stepped
    exact .inl (length_rest_sectionBegin stepped)
  | sectionName =>
    rw [expected] at stepped
    obtain rfl := Option.some.inj stepped
    refine (length_rest_sectionName scanner).imp_right fun ⟨same, lower⟩ => ⟨same, ?_⟩
    simp [lower, Expectation.rank]
  | assignment index =>
    rw [expected] at stepped
    refine (length_rest_assignment stepped).imp_right fun ⟨same, lower⟩ => ⟨same, ?_⟩
    simp [lower, Expectation.rank]

def weight (scanner : Scanner) : Nat :=
  2 * scanner.rest.length + scanner.expectation.rank

theorem weight_lt_enough (scanner : Scanner) :
    scanner.weight < enough scanner.rest.length := by
  unfold weight enough
  cases scanner.expectation <;> simp [Expectation.rank]

theorem weight_step {scanner next : Scanner} (stepped : scanner.step = some next) :
    next.weight < scanner.weight := by
  have bounded (expectation : Expectation) : expectation.rank ≤ 1 := by
    cases expectation <;> simp [Expectation.rank]
  have := bounded next.expectation
  have := step_decreases stepped
  unfold weight
  omega

theorem run_eq_run {scanner : Scanner} {fuel more : Nat} (enoughFuel : scanner.weight < fuel)
    (enoughMore : scanner.weight < more) : run fuel scanner = run more scanner := by
  induction fuel generalizing scanner more with
  | zero => exact absurd enoughFuel (Nat.not_lt_zero _)
  | succ fuel ih =>
    cases more with
    | zero => exact absurd enoughMore (Nat.not_lt_zero _)
    | succ more =>
      unfold run
      split
      next => rfl
      next next stepped =>
        have := weight_step stepped
        exact ih (by omega) (by omega)

def final (scanner : Scanner) : Scanner :=
  run (enough scanner.rest.length) scanner

theorem final_of_step {scanner next : Scanner} (stepped : scanner.step = some next) :
    scanner.final = next.final := by
  have lighter := weight_step stepped
  have fuel := scanner.weight_lt_enough
  calc scanner.final = run (enough scanner.rest.length + 1) scanner :=
        run_eq_run fuel (Nat.lt_succ_of_lt fuel)
    _ = run (enough scanner.rest.length) next := by rw [run, stepped]
    _ = next.final := run_eq_run (lighter.trans fuel) next.weight_lt_enough

theorem final_of_halt {scanner : Scanner} (halted : scanner.step = none) :
    scanner.final = scanner := by
  rw [final, enough, run, halted]

end Scanner

end IniSettings
