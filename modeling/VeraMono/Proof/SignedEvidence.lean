import VeraMono.Proof.CanonicalJson
import VeraMono.Model.SignedEvidence

/-!
# Signed evidence: reading a document back

A file with the text of a document is read back as the document (`loads_dumps`), and the
fields of an object are the ones under its keys.
-/

namespace VeraMono

open Framework

namespace SignedEvidence

variable {R : EvidenceRuntime}

theorem loads_dumps {invalid : Failure} {j : Json} (hj : j.Readable) :
    FileBytes.loads R invalid (.utf8 (String.ofList j.dumps)) = .ok j.toPy := by
  rw [FileBytes.loads, jsonLoads_dumps (defaultHooks_keepsEntries R.pyFloat) hj]

end SignedEvidence

end VeraMono
