import NativeGlue.Rehearsal.Process

set_option autoImplicit false

/-! # The shell language

What a script says once it has been read: words made of parts, redirections, and commands. All texts
in it are narrow. A script is read line by line, so the unit that is carried out is a `Command`. -/

namespace NativeGlue.Shell

/-- What becomes of the value of a name. Where it says `ofEmpty`, an empty value counts as none. -/
inductive Use where
  /-- The value as it is. -/
  | plain
  /-- The number of bytes in it. -/
  | length
  /-- The word, if there is no value. -/
  | orElse (ofEmpty : Bool)
  /-- The word, which becomes the value, if there is none. -/
  | orAssign (ofEmpty : Bool)
  /-- A failure with the word as its message, if there is no value. -/
  | orFail (ofEmpty : Bool)
  /-- The word, if there is a value. -/
  | ifSet (ofEmpty : Bool)
  /-- The value without the beginning that the word is a pattern of. -/
  | withoutStart (longest : Bool)
  /-- The value without the end that the word is a pattern of. -/
  | withoutEnd (longest : Bool)
  /-- No use that there is. -/
  | wrong
  deriving DecidableEq, Repr

mutual

/-- A part of a word. Quoted parts are neither cut into arguments nor taken as patterns. -/
inductive Part where
  /-- This text. -/
  | text (s : String) (quoted : Bool)
  /-- What the use of a name with a word gives. -/
  | value (name : String) (use : Use) (word : List Part) (quoted : Bool)
  /-- What a command prints. -/
  | output (body : Command) (quoted : Bool)
  /-- The value of an arithmetic expression. -/
  | sum (expression : List Part) (quoted : Bool)

/-- Where a stream leads. -/
inductive Redirection where
  /-- To a file. -/
  | file (stream : Nat) (access : Access) (target : List Part)
  /-- To where the stream leads whose number the word is, or nowhere after a hyphen. -/
  | copy (stream : Nat) (target : List Part)
  /-- From one of the documents in the script. -/
  | document (stream : Nat) (index : Nat)

/-- A command. The line is the one that it starts in. -/
inductive Command where
  | nothing
  | simple (line : Nat) (assignments : List (String × List Part)) (words : List (List Part))
      (redirections : List Redirection)
  /-- Commands each of which reads what the one before it prints. -/
  | pipeline (commands : List Command)
  | negation (c : Command)
  | both (a b : Command)
  | either (a b : Command)
  | sequence (a b : Command)
  | background (c : Command)
  | redirected (line : Nat) (c : Command) (redirections : List Redirection)
  | subshell (line : Nat) (c : Command) (redirections : List Redirection)
  | branch (test onSuccess onFailure : Command)
  /-- Carry out the body as long as the test succeeds, or fails if it is negated. -/
  | loop (negated : Bool) (test body : Command)
  | forEach (line : Nat) (name : String) (words : List (List Part)) (body : Command)
  /-- Carry out the first body with a pattern that fits. -/
  | choice (line : Nat) (subject : List Part) (cases : List (List (List Part) × Command))
  | define (name : String) (body : Command)

end

/-- A word is what is cut into arguments. -/
abbrev Word := List Part

namespace Part

/-- Whether a part is quoted. -/
def isQuoted : Part → Bool
  | text _ quoted => quoted
  | value _ _ _ quoted => quoted
  | output _ quoted => quoted
  | sum _ quoted => quoted

end Part

namespace Word

/-- The text of a word, if it has no quotes and no values in it. -/
def literal? : Word → Option String
  | [] => some ""
  | .text s false :: rest => (literal? rest).map (s ++ ·)
  | _ => none

/-- The text of a word that ends a document, and whether there are quotes in it. -/
def ending (w : Word) : String × Bool :=
  let texts := w.map fun p => match p with
    | .text s _ => s
    | _ => ""
  (String.join texts, w.any Part.isQuoted)

end Word

/-! ## Names -/

/-- Whether a name may start with a character. -/
def isNameStart (c : Char) : Bool := c.isAlpha || c == '_'

/-- Whether a name may go on with a character. -/
def isNameChar (c : Char) : Bool := c.isAlphanum || c == '_'

/-- Whether a character is the name of a value that the shell sets itself. -/
def isSpecialName (c : Char) : Bool := c.isDigit || "!#$*-?@".toList.contains c

/-- Whether a text is a name. -/
def isName (s : String) : Bool :=
  match s.toList with
  | [] => false
  | c :: cs => isNameStart c && cs.all isNameChar

end NativeGlue.Shell
