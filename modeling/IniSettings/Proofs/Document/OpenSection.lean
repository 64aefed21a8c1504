import IniSettings.Proofs.Document.Assignments

/-!
# The section that is open

A scanner that reads pairs has opened the section they go to, and no step takes a section away.
-/

namespace IniSettings.Scanner

def Opened (scanner : Scanner) : Prop :=
  ∀ index, scanner.expectation = .assignment index → index < scanner.document.size

theorem Opened.skipLine {scanner : Scanner} (opened : scanner.Opened) (text : List Char) :
    (scanner.skipLine text).Opened := by
  unfold Scanner.skipLine
  split <;> exact opened

theorem Opened.reject {scanner : Scanner} (opened : scanner.Opened) (defect : Defect)
    (text : List Char) : (scanner.reject defect text).Opened := by
  have reported : (scanner.report defect).Opened := opened
  exact reported.skipLine text

theorem Opened.assign {scanner : Scanner} (opened : scanner.Opened) (index : Nat)
    (key value : List Char) : (scanner.assign index key value).Opened := fun other expected => by
  simpa [Scanner.assign, Document.size, Document.modifyAt] using opened other expected

theorem opened_enterSection (scanner : Scanner) (name : List Char) :
    (scanner.enterSection name).Opened := fun index expected => by
  obtain ⟨content, there, -⟩ := scanner.document.openSection_there (String.ofList name)
  obtain rfl := Expectation.assignment.inj expected
  exact (List.getElem?_eq_some_iff.1 there).1

theorem opened_sectionName (scanner : Scanner) : scanner.sectionName.Opened := by
  have begun : (scanner.expect .sectionBegin).Opened := fun _ other => (nomatch other)
  simp only [sectionName]
  split
  next => exact begun
  next =>
    split
    next => exact begun.reject _ _
    next =>
      split
      next => exact opened_enterSection _ _
      next => exact opened_enterSection _ _
      next => exact begun.reject _ _
  next => exact begun.reject _ _

theorem opened_finish {scanner next : Scanner} (opened : scanner.Opened)
    (finished : scanner.finish = some next) : next.Opened := by
  unfold finish at finished
  split at finished
  next => cases finished
  next => exact (Option.some.inj finished) ▸ opened

theorem opened_step {scanner next : Scanner} (opened : scanner.Opened)
    (stepped : scanner.step = some next) : next.Opened := by
  unfold step at stepped
  split at stepped
  next =>
    unfold sectionBegin at stepped
    split at stepped
    next => exact opened_finish opened stepped
    next => exact (Option.some.inj stepped) ▸ opened
    next => exact (Option.some.inj stepped) ▸ fun _ other => (nomatch other)
    next => exact (Option.some.inj stepped) ▸ opened.reject _ _
  next => exact (Option.some.inj stepped) ▸ opened_sectionName scanner
  next index _ =>
    unfold assignment at stepped
    split at stepped
    next => exact opened_finish opened stepped
    next => exact (Option.some.inj stepped) ▸ opened
    next => exact (Option.some.inj stepped) ▸ fun _ other => (nomatch other)
    next =>
      simp only at stepped
      split at stepped
      next =>
        split at stepped
        next => exact (Option.some.inj stepped) ▸ opened.reject _ _
        next => exact (Option.some.inj stepped) ▸ (opened.assign _ _ _).skipLine _
      next => exact (Option.some.inj stepped) ▸ opened.reject _ _

end IniSettings.Scanner
