import RecordRules.Handler.Basic
import RecordRules.Memo
import RecordRules.Table

/-!
# Registries

A registry holds handlers by the name of the annotation that they handle, and the
arguments that they have read, by name and quoted text.  Whenever a name gets another
handler or none, the arguments read for that name are forgotten.
-/

namespace RecordRules

/-- Handlers by name, and the arguments they have read. -/
structure Registry where
  handlers : Table Handler := {}
  arguments : Memo (String × String) Prepared := {}

namespace Registry

/-- Forgets the arguments of a name. -/
def forget (r : Registry) (name : String) : Registry :=
  { r with arguments := r.arguments.keep fun key => key.1 ≠ name }

/-- Registers a handler, instead of one of the same name. -/
def register (r : Registry) (name : String) (h : Handler) : Registry :=
  { r with handlers := r.handlers.insert name h }.forget name

/-- Takes the handler of a name away. -/
def unregister (r : Registry) (name : String) : Registry :=
  { r with handlers := r.handlers.erase name }.forget name

/-- A short text for messages. -/
def describe (r : Registry) : String :=
  "Registry \x7b handlers: [" ++ ", ".intercalate (r.handlers.keys.map quoted) ++
    "], cached_args: " ++ toString r.arguments.size ++ " \x7d"

end Registry

end RecordRules
