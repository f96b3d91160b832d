import NativeGlue.ConfigError
import NativeGlue.Properties.Basic
import NativeGlue.Signature.Check
import NativeGlue.Tool.Command

set_option autoImplicit false

/-! # Failures

A failure is a cause together with what was being done when it arose, outermost first. The causes
are the errors of this library's own stages, the errors of the file system, and texts that are not in
their format. -/

namespace NativeGlue

/-- The kinds of file system errors. -/
inductive IoKind where
  | notFound
  | isADirectory
  | notADirectory
  | alreadyExists
  | invalidData
  | invalidInput
  | invalidFilename
  | other
  deriving DecidableEq, Repr

/-- A file system error: its kind, and its text. -/
structure IoError where
  kind : IoKind
  text : String
  deriving DecidableEq, Repr

namespace IoError

/-- A name that is not there. -/
def notFound : IoError := ⟨.notFound, "No such file or directory (os error 2)"⟩

/-- A directory where a file was expected. -/
def isADirectory : IoError := ⟨.isADirectory, "Is a directory (os error 21)"⟩

/-- A file where a directory was expected. -/
def notADirectory : IoError := ⟨.notADirectory, "Not a directory (os error 20)"⟩

/-- A name that is taken. -/
def alreadyExists : IoError := ⟨.alreadyExists, "File exists (os error 17)"⟩

/-- A file that is not text. -/
def notText : IoError := ⟨.invalidData, "stream did not contain valid UTF-8"⟩

/-- The empty path, which has no absolute form. -/
def emptyPath : IoError := ⟨.invalidInput, "cannot make an empty path absolute"⟩

/-- A path with a null character. -/
def nullInPath : IoError := ⟨.invalidInput, "file name contained an unexpected NUL byte"⟩

/-- Something other than a file given to be copied. -/
def notAFile : IoError :=
  ⟨.invalidInput, "the source path is neither a regular file nor a symlink to a regular file"⟩

/-- Something that may not be done, such as executing what is no program. -/
def permissionDenied : IoError := ⟨.other, "Permission denied (os error 13)"⟩

/-- A name that is too long. -/
def nameTooLong : IoError := ⟨.invalidFilename, "File name too long (os error 36)"⟩

end IoError

/-- Why something failed. -/
inductive Cause where
  | config (e : ConfigError)
  | generation (e : GenerationError)
  | tool (e : ToolError)
  | io (e : IoError)
  /-- A text is not JSON, or not of the expected shape. -/
  | json
  /-- A text is not TOML, or not of the expected shape. -/
  | toml
  /-- A text is not a file name pattern. -/
  | pattern
  | property (e : PropertyError)
  deriving DecidableEq, Repr

/-- The text of a cause. -/
def Cause.message : Cause → String
  | config e => e.message
  | generation e => e.message
  | tool e => e.message
  | io e => e.text
  | json => "the text is not JSON of the expected shape"
  | toml => "the text is not TOML of the expected shape"
  | pattern => "the text is not a file name pattern"
  | property e => e.message

/-- A cause, and what was being done, outermost first. -/
structure Failure where
  contexts : List String
  cause : Cause
  deriving DecidableEq, Repr

namespace Failure

/-- A bare cause. -/
def of (cause : Cause) : Failure := ⟨[], cause⟩

/-- A failure while something was being done. -/
def during (f : Failure) (context : String) : Failure := { f with contexts := context :: f.contexts }

/-- The texts of a failure, outermost first. -/
def chain (f : Failure) : List String := f.contexts ++ [f.cause.message]

end Failure

/-- The result of a computation as part of a larger one that fails by `Failure`. -/
def orFail {ε α : Type} (cause : ε → Cause) (r : Except ε α) : Except Failure α :=
  r.mapError fun e => .of (cause e)

@[simp] theorem orFail_ok {ε α : Type} (cause : ε → Cause) (a : α) :
    orFail cause (.ok a) = .ok a := rfl

@[simp] theorem orFail_error {ε α : Type} (cause : ε → Cause) (e : ε) :
    orFail cause (.error e : Except ε α) = .error (.of (cause e)) := rfl

/-- The result of a computation, with what was being done in front of a failure. -/
def during {α : Type} (context : String) (r : Except Failure α) : Except Failure α :=
  r.mapError fun f => f.during context

@[simp] theorem during_ok {α : Type} (context : String) (a : α) :
    during context (.ok a) = .ok a := rfl

@[simp] theorem during_error {α : Type} (context : String) (f : Failure) :
    during context (.error f : Except Failure α) = .error (f.during context) := rfl

/-! ## Attempts in a row -/

section Row

variable {ε α β : Type} {x : Except ε α} {f : α → Except ε β}

/-- Two attempts in a row succeed when each of them does. -/
theorem bind_eq_ok {b : β} : (x >>= f) = .ok b ↔ ∃ a, x = .ok a ∧ f a = .ok b := by
  cases x <;> simp [bind, Except.bind]

/-- They fail when the first does, or the second after it. -/
theorem bind_eq_error {e : ε} :
    (x >>= f) = .error e ↔ x = .error e ∨ ∃ a, x = .ok a ∧ f a = .error e := by
  cases x <;> simp [bind, Except.bind]

theorem eq_ok_of_toOption_eq_some {a : α} (h : x.toOption = some a) : x = .ok a := by
  cases x with
  | error e => cases h
  | ok b => exact congrArg Except.ok (Option.some.inj h)

end Row

end NativeGlue
