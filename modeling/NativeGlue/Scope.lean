import NativeGlue.Descriptor

set_option autoImplicit false

/-! # Scopes

A scope selects classes by name: one class, the members of one package, or everything within a
package and the packages below it. Several scopes select what any of them selects; no scopes at all
select everything. -/

namespace NativeGlue

/-- A selection of classes by name. -/
inductive Scope where
  /-- The class of this name. -/
  | exactly (name : String)
  /-- The classes in this package. -/
  | members (package : String)
  /-- The classes in this package and in the packages below it. -/
  | within (package : String)
  deriving DecidableEq, Repr

namespace Scope

/-! ## Spelling -/

/-- A text without the dots at its end. -/
def trimDots (s : String) : String := .ofList (s.toList.reverse.dropWhile (· == '.')).reverse

/-- The scope that a text writes: two stars at the end stand for everything within a package, one
star for its members. -/
def read (s : String) : Scope :=
  let name := Text.trim s
  match Text.dropStop? "**" name with
  | some package => .within (trimDots package)
  | none =>
    match Text.dropStop? "*" name with
    | some package => .members (trimDots package)
    | none => .exactly name

/-- How a scope is written. -/
def display : Scope → String
  | exactly name => name
  | members package => if package = "" then "*" else package ++ ".*"
  | within package => if package = "" then "**" else package ++ ".**"

/-! ## Selection -/

/-- Whether a package is another one or lies below it. -/
def isWithin (package outer : String) : Bool :=
  package == outer || (Text.dropStart? outer package).any (Text.startsWith ".")

/-- Whether a scope selects the class of this name. -/
def selects (className : String) : Scope → Bool
  | exactly name => name == className
  | members package => packageOf className == package
  | within package => package == "" || isWithin (packageOf className) package

/-- Whether any of the scopes selects the class of this name. No scopes select every class. -/
def anySelects (scopes : List Scope) (className : String) : Bool :=
  scopes.isEmpty || scopes.any (selects className)

/-- The classes that scopes select, in their order. -/
def select (scopes : List Scope) (classes : List ClassDecl) : List ClassDecl :=
  classes.filter fun c => anySelects scopes c.name

end Scope

end NativeGlue
