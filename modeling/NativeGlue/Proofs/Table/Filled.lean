import NativeGlue.Proofs.Table.Site
import NativeGlue.Proofs.Text.Template

set_option autoImplicit false

/-! # Filled adapter types

Adapter definitions come from users, with any text as their templates. The adapter of a site has the
templates of the definition that the site looks up, with the element type filled in.
`TypeTable.fills_of_resolve` says that no placeholder is left in them, provided that the element type
is fit for it. Every element type that a managed type has is (`ManagedType.isElement_of_element?`);
one that a definition brings along may be any text. -/

namespace NativeGlue

open Text (HasPlaceholder IsElement)

/-- The element types of managed types are fit for templates. -/
theorem ManagedType.isElement_of_element? {type : ManagedType} {element : NativeType}
    (h : type.element? = some element) : IsElement element.spelling := by
  have hnative (p : Primitive) : IsElement p.native.spelling := by
    cases p <;> decide
  cases type with
  | string =>
    obtain rfl := Option.some.inj h
    decide
  | array p => exact Option.some.inj h ▸ hnative p
  | pointer p? =>
    cases p? with
    | none => exact absurd h (by simp [element?])
    | some p => exact Option.some.inj h ▸ hnative p
  | void | primitive | object => exact absurd h (by simp [element?])

namespace TypeTable

/-! ## Filled templates -/

/-- An adapter bound at a site has the templates of its definition, filled. -/
structure Fills (definition : AdapterDefinition) (a : BoundAdapter) : Prop where
  /-- An element type that comes from the managed type is fit for templates. -/
  element_fits : definition.element = none → IsElement a.element.spelling
  instance_filled : IsElement a.element.spelling → ¬ HasPlaceholder a.instanceType
  counterpart_filled : IsElement a.element.spelling → ¬ HasPlaceholder a.counterpart.spelling
  instance_kept : ¬ HasPlaceholder definition.instanceTemplate →
    a.instanceType = definition.instanceTemplate
  counterpart_kept : ¬ HasPlaceholder definition.counterpartTemplate →
    a.counterpart.spelling = definition.counterpartTemplate

theorem fills_bind {definition : AdapterDefinition} {type : ManagedType} {element : NativeType}
    (h : definition.element.or type.element? = some element) (ref : AdapterRef) :
    Fills definition (definition.bind ref element) where
  element_fits hnone := by
    rw [hnone, Option.none_or] at h
    exact ManagedType.isElement_of_element? h
  instance_filled hfits := Text.not_hasPlaceholder_fill hfits definition.instanceTemplate
  counterpart_filled hfits := Text.not_hasPlaceholder_fill hfits definition.counterpartTemplate
  instance_kept hplain := Text.fill_eq_self hplain element.spelling
  counterpart_kept hplain := Text.fill_eq_self hplain element.spelling

/-- **Every placeholder of the adapter of a site is filled**, whatever the templates of its
definition are: none is left if the element type is fit for templates, as it always is when it comes
from the managed type, and templates without a placeholder are left as they are. -/
theorem fills_of_resolve {t : TypeTable} {type : ManagedType} {asked : Option AdapterRef}
    {method : String} {binding : TypeBinding} {a : BoundAdapter}
    (h : t.resolve type asked method = .ok binding) (ha : binding.adapter = some a) :
    ∃ definition, t.definition? type asked = some definition ∧ Fills definition a := by
  obtain ⟨definition, element, hfound, helement, rfl⟩ := exists_bind_of_resolve h ha
  exact ⟨definition, hfound, fills_bind helement _⟩

/-- Braces around and between placeholders, which overlap with them in every way. -/
theorem fills_of_resolve_braces :
    let config : TypeConfig :=
      { adapters := .ofList [("NestAdapter",
          { counterpart := some "\x7b\x7bE\x7dE\x7d",
            instanceTemplate := some "\x7b\x7bE\x7d\x7d\x7bE\x7bE\x7d\x7d" })]
        types := .ofList [(.array .byte, .adapter "NestAdapter")] }
    ∃ t, TableDraft.build (TableDraft.standardSteps ++ [.apply config]) = .ok t
      ∧ ∃ binding a, (t.resolve (.array .byte) none "a.B.f" = .ok binding
          ∧ binding.adapter = some a
          ∧ a.instanceType = "\x7bint8_t\x7d\x7bEint8_t\x7d"
          ∧ a.counterpart.spelling = "\x7bint8_tE\x7d")
        ∧ ∃ definition, t.definition? (.array .byte) none = some definition
          ∧ Fills definition a :=
  ⟨_, rfl, Exists.imp (fun _ => Exists.imp fun _ h => ⟨h, fills_of_resolve h.1 h.2.1⟩)
    ⟨_, _, rfl, rfl, by decide, by decide⟩⟩

end TypeTable

end NativeGlue
