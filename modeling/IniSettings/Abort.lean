/-!
# Aborted operations

An operation that its caller should not have asked for is cut short, and so is one in which code
that the caller supplied gives up. What was done before that stays done.
-/

namespace IniSettings

inductive Abort where
  /-- A pair of a section was to get an empty key. -/
  | emptyKey
  /-- A field was to get a name without a key at its end. -/
  | emptyFieldKey
  | updateOutsideTransaction
  | nothingPending
  | transactionOpen
  | noTransaction
  | loadInTransaction
  /-- Supplied code gave up with a message of its own. -/
  | raised (message : String)
  /-- Supplied code gave up while an aborted operation was being ended. The program ends there. -/
  | fatal
deriving DecidableEq, Repr

def Abort.message : Abort → String
  | .emptyKey => "section keys must not be empty"
  | .emptyFieldKey => "field name must end with a non-empty key"
  | .updateOutsideTransaction => "settings field updated outside of an update transaction"
  | .nothingPending => "change notification processed with no pending changes"
  | .transactionOpen => "an update transaction is already open"
  | .noTransaction => "no update transaction is open"
  | .loadInTransaction => "config loaded while an update transaction is open"
  | .raised message => message
  | .fatal => "aborted while an aborted operation was being ended"

/-- The abort that an aborted operation comes to, going by how its ending went. -/
def Abort.ending (abort : Abort) : Except Abort Unit → Abort
  | .ok () => abort
  | .error _ => .fatal

end IniSettings
