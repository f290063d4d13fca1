/-
**The audit log and the data governance.**

`dnc.enterprise.operations`: audit records and data assets by tenant and identifier. Snapshots are
copies of the dictionaries, and any such copy is restored as it is.
-/

import Dnc.PyLib.Data
import Dnc.PyLib.Dict

namespace Dnc.Enterprise

open PyLib

structure AuditRecord where
  recordId : String
  tenantId : String
  event : String
  payload : PyDict
  createdAtNs : Int
  retainUntilNs : Int
  legalHold : Bool := false

structure AuditLog where
  records : Dict (String × String) AuditRecord := ∅

/-- `AuditLog.snapshot`: a deep copy of the dictionary. -/
def AuditLog.snapshot (log : AuditLog) : Dict (String × String) AuditRecord := log.records

/-- `AuditLog.restore`. -/
def AuditLog.restore (state : Dict (String × String) AuditRecord) : AuditLog := ⟨state⟩

structure DataAsset where
  assetId : String
  tenantId : String
  residency : String
  keyVersion : String
  legalHold : Bool := false
  deleted : Bool := false

structure DataGovernance where
  assets : Dict (String × String) DataAsset := ∅

/-- `DataGovernance.snapshot`: a copy of the dictionary. -/
def DataGovernance.snapshot (governance : DataGovernance) : Dict (String × String) DataAsset :=
  governance.assets

/-- `DataGovernance.restore`. -/
def DataGovernance.restore (state : Dict (String × String) DataAsset) : DataGovernance := ⟨state⟩

end Dnc.Enterprise
