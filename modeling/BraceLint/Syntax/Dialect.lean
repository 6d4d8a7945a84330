/-!
The variants of the language a source file can be written in.
-/

namespace BraceLint

/-- What a source file may contain beyond plain scripts. -/
structure Dialect where
  /-- Type annotations and type declarations. -/
  typed : Bool
  /-- Markup elements as expressions. They take the place of type assertions in angle brackets. -/
  markup : Bool
  /-- `import` and `export` declarations. -/
  modules : Bool
  /-- Whether the file is a module even if it has no such declaration. -/
  isModule : Bool := false
  /-- Whether the file only declares what is defined elsewhere. -/
  declaresOnly : Bool := false
deriving DecidableEq, Repr

end BraceLint
