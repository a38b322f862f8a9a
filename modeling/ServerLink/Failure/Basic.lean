/-!
# Failures

Every failure of the program has a wording, and the failures beneath it have theirs.

* `Failure` — the class: short names from the outside in, the wording, and what lies beneath.
* `Failure.message`, `Failure.causes` — what is shown.
-/

namespace ServerLink

/-- What is known of a failure: the short names of its layers from the outside in, its wording, and
the wordings of the failures beneath it, outermost first. -/
structure Failure where
  names : List String
  message : String
  causes : List String
deriving DecidableEq, Repr

namespace Failure

/-- A failure with nothing beneath it. -/
def plain (name message : String) : Failure := ⟨[name], message, []⟩

/-- A failure that wraps another and shows it after a text of its own. -/
def wrap (name opening : String) (inner : Failure) : Failure :=
  ⟨name :: inner.names, opening ++ inner.message, inner.message :: inner.causes⟩

/-- The short name of a failure: its layers with slashes between them. -/
def name (f : Failure) : String := "/".intercalate f.names

end Failure

end ServerLink
