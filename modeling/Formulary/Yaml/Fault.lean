/-!
# Why a settings file has no value

A settings file is refused where its text is not written in the language of settings files, and
where a scalar has the form of a value but denotes none.
-/

namespace Formulary.Yaml

inductive Fault where
  /-- The file is not written in the language of settings files. -/
  | unreadable
  /-- A scalar has the form of a character, a number or a date but denotes none. -/
  | badScalar (complaint : String)
  /-- A number is too great for what is done with it. -/
  | tooLarge (complaint : String)
  deriving DecidableEq, Repr

/-- What was found, or the fault that the file is unreadable. -/
def readable {α : Type} (found : Option α) : Except Fault α :=
  match found with
  | some value => .ok value
  | none => .error .unreadable

end Formulary.Yaml
