import Terrasync.Observation

/-! Messages about single entries that a job broadcasts to its consumers. -/

set_option autoImplicit false

namespace Terrasync

inductive ErrorEvent where
  | scan
  | copy
  | copyAcl
  | copyXattr
  | delete
  | rename
  | symlinkOp
  | pack
  | integrityCheck
deriving DecidableEq, Repr

inductive ChangeKind where
  | directoryMarkerRemoved
  | dataOnly
  | metadataOnly
  | both
deriving DecidableEq, Repr

inductive StorageEntryMessage where
  | scanned (entry : ObservedEntry)
  | new (item : ObservedItem)
  | changed (item : ObservedItem) (kind : ChangeKind)
  | deleted (entry : ObservedEntry)
  | renamed (fromEntry toEntry : ObservedEntry)
  | integrityChecked (entry : ObservedEntry)
  | packaged (entry : ObservedEntry)
  | tarManifest (tarPath : RelativePath) (entries : List ObservedEntry)
  | error (event : ErrorEvent) (path : RelativePath) (entry : Option ObservedEntry)
      (reason : List Char)
deriving DecidableEq, Repr

namespace StorageEntryMessage

def isChanged : StorageEntryMessage → Bool
  | .changed _ _ => true
  | _ => false

end StorageEntryMessage

end Terrasync
