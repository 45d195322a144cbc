import WinWinCode.Foundation.Fallible

/-!
Errors of the SQLite storage adapter, from `lib.rs` of the storage crate, and the
range of its integer columns.
-/

namespace WinWinCode.Storage

def sqliteMax : Nat := 9223372036854775807

inductive StorageErrorKind where
  | invalidInput
  | revisionConflict
  | requestConflict
  | requestReplayMissing
  | journalAlreadyExists
  | journalNotFound
  | journalConflict
  | eventCursorExpired
  | adapter
  | closed
deriving DecidableEq

structure StorageError where
  kind : StorageErrorKind
  message : String
  stateGuardConflict : Bool
deriving DecidableEq

abbrev StorageResult := Except StorageError

abbrev StorageCheck := StorageResult Unit

namespace StorageError

def adapter (message : String) : StorageError := ⟨.adapter, message, false⟩

def invalidInput (message : String) : StorageError := ⟨.invalidInput, message, false⟩

def revisionConflict (expected actual : Nat) : StorageError :=
  ⟨.revisionConflict,
    "expected revision " ++ toString expected ++ ", but current revision is " ++ toString actual,
    false⟩

def requestConflict (requestId : String) : StorageError :=
  ⟨.requestConflict, "request id " ++ requestId ++
    " was already used for another command in this actor and scope", false⟩

def requestReplayMissing (requestId : String) : StorageError :=
  ⟨.requestReplayMissing, "request id " ++ requestId ++
    " exists in the aggregate journal without its scoped command receipt", false⟩

end StorageError

end WinWinCode.Storage
