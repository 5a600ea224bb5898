import Bacnet.EpicsReads

/-!
# Bacnet.ReportedLengths

The lengths a device reports of its arrays and of its object-list: for which of them the reads ask
for the elements they mean, and nothing panics.
-/

namespace Bacnet

open Scan

namespace Responses

variable (d : Responses) (object : UInt32 × UInt32)

end Responses

variable {d : Responses} {object : UInt32 × UInt32} {deviceId : UInt32}

section

variable {platform : Platform}

end

end Bacnet
