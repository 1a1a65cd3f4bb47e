/-!
# Binder status codes

The `ScopedAStatus` an AIDL method returns, by exception code.
-/

namespace OplusHardware.Base

inductive AStatus where
  | ok
  | exServiceSpecific
  | exUnsupportedOperation
  | exIllegalArgument
  deriving DecidableEq, Repr

end OplusHardware.Base
