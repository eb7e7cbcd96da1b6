/-!
Why a JSON text could not be read.  A text is read from left to right and the first fault decides.
-/

namespace TreeQuery.Json

inductive Fault where
  | ended
  /-- The text is not JSON, nests too deeply, or goes on after the value. -/
  | malformed
  /-- The text is JSON so far, but not of the shape that was asked for. -/
  | mismatched
  deriving DecidableEq, Repr

end TreeQuery.Json
