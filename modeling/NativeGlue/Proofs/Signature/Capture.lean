import NativeGlue.Proofs.Signature.Faultless
import NativeGlue.Proofs.Signature.Scope
import NativeGlue.Source.Render

set_option autoImplicit false

/-! # Captured targets

The body of a glue function calls the native function by a name that the user chose, and declares
names of its own: those of its parameters and of its locals. A target that is one of these is
*captured*; the call in the body is then no call of the native function. Which names a glue function
declares depends on how the values of its method cross (`Signature.Declares`), and no check keeps
targets apart from them: a target is captured if and only if it is spelled as one of these names
(`Signature.capture_of_ofMethod`). A target that is no identifier, as a qualified name, never is. -/

namespace NativeGlue

/-! ## Spellings -/

namespace GlueName

/-- The names that glue functions declare are identifiers. -/
theorem isIdentifier_spelling (x : GlueName) :
    ManagedType.isIdentifier x.spelling.toList = true := by
  have hrest : ∀ c : Char, c.isDigit = true → ManagedType.isIdentifierRest c = true := by
    intro c hc
    rw [ManagedType.isIdentifierRest, hc, Bool.or_true]
  have hdigits (n : Nat) : ∀ c ∈ Nat.toDigits 10 n, ManagedType.isIdentifierRest c = true :=
    fun c hc => hrest c (Nat.isDigit_of_mem_toDigits (by decide) (by decide) hc)
  have hunderscore : ManagedType.isIdentifierRest '_' = true := by decide
  rw [toList_spelling]
  cases x with
  | direct i =>
    simp only [ManagedType.isIdentifier, List.all_cons, Bool.and_eq_true, List.all_eq_true]
    exact ⟨by decide, by decide, by decide, hdigits i⟩
  | pointer i g | size i g =>
    simp only [ManagedType.isIdentifier, List.all_append, List.all_cons, Bool.and_eq_true,
      List.all_eq_true]
    exact ⟨by decide, hdigits i, hunderscore, hdigits g⟩
  | returnPointer g | returnSize g =>
    simp only [ManagedType.isIdentifier, List.all_cons, Bool.and_eq_true, List.all_eq_true]
    exact ⟨by decide, by decide, hunderscore, hdigits g⟩
  | adapter i =>
    simp only [ManagedType.isIdentifier, Bool.and_eq_true, List.all_eq_true]
    exact ⟨by decide, hdigits i⟩
  | returnAdapter | returnValue => decide

end GlueName

/-! ## Declared names -/

namespace Signature

/-- The names that a glue function declares, by the ways in which values cross. -/
inductive Declares (s : Signature) : GlueName → Prop
  | direct {p : ParamSpec} (hp : p ∈ s.params) (h : p.binding.adapter = none) :
      Declares s (.direct p.index)
  | pointer {p : ParamSpec} {a : BoundAdapter} {k : Nat} (hp : p ∈ s.params)
      (h : p.binding.adapter = some a) (hk : k < a.ref.groups) : Declares s (.pointer p.index k)
  | size {p : ParamSpec} {a : BoundAdapter} {k : Nat} (hp : p ∈ s.params)
      (h : p.binding.adapter = some a) (hk : k < a.ref.groups) : Declares s (.size p.index k)
  | adapter {p : ParamSpec} {a : BoundAdapter} (hp : p ∈ s.params)
      (h : p.binding.adapter = some a) : Declares s (.adapter p.index)
  | returnPointer {a : BoundAdapter} {k : Nat} (h : s.ret.binding.adapter = some a)
      (hk : k < a.ref.groups) : Declares s (.returnPointer k)
  | returnSize {a : BoundAdapter} {k : Nat} (h : s.ret.binding.adapter = some a)
      (hk : k < a.ref.groups) : Declares s (.returnSize k)
  | returnAdapter {a : BoundAdapter} (h : s.ret.binding.adapter = some a) :
      Declares s .returnAdapter
  | returnValue (htype : s.ret.type.isVoid = false) (h : s.ret.binding.adapter = none) :
      Declares s .returnValue

/-! ## Capture -/

/-- The names of the parameters of a glue function are declared. -/
theorem declares_of_mem_glueNames {s : Signature} {x : GlueName} (h : x ∈ s.glueNames) :
    s.Declares x := by
  rcases List.mem_append.1 h with h | h
  · obtain ⟨p, hp, h⟩ := List.mem_flatMap.1 h
    rcases ParamSpec.mem_glueNames.1 h with ⟨hnone, rfl⟩ | ⟨a, ha, k, hk, rfl | rfl⟩
    · exact .direct hp hnone
    · exact .pointer hp ha hk
    · exact .size hp ha hk
  · obtain ⟨a, ha, k, hk, rfl | rfl⟩ := ReturnSpec.mem_glueNames.1 h
    · exact .returnPointer ha hk
    · exact .returnSize ha hk

/-- A name stands in the body for a parameter or a local of the glue function, and not for what is
declared by that name outside. -/
def Captures (s : Signature) (x : String) : Prop :=
  x ∈ s.glueParams.map (·.name) ∨ x ∈ s.steps.filterMap Step.introduced?

instance (s : Signature) (x : String) : Decidable (s.Captures x) :=
  inferInstanceAs (Decidable (_ ∨ _))

/-- A glue function captures the names it declares. -/
theorem captures_iff {target : String} {s : Signature} (h : s.Shape target) {x : String} :
    s.Captures x ↔ ∃ n, s.Declares n ∧ n.spelling = x := by
  rw [Captures, map_name_glueParams h, h.steps_eq, mem_introduced_body,
    ReturnSpec.exists_result?_iff, List.mem_map]
  constructor
  · rintro (⟨n, hn, rfl⟩ | ⟨p, hp, hsome, rfl⟩ | ⟨htype, ⟨hnone, rfl⟩ | ⟨⟨a, ha⟩, rfl⟩⟩)
    · exact ⟨n, declares_of_mem_glueNames hn, rfl⟩
    · obtain ⟨a, ha⟩ := Option.isSome_iff_exists.1 hsome
      exact ⟨.adapter p.index, .adapter hp ha, rfl⟩
    · exact ⟨.returnValue, .returnValue htype hnone, rfl⟩
    · exact ⟨.returnAdapter, .returnAdapter ha, rfl⟩
  · rintro ⟨n, hn, rfl⟩
    have hparam {p : ParamSpec} (hp : p ∈ s.params) {n : GlueName} (hn : n ∈ p.glueNames) :
        ∃ y ∈ s.glueNames, y.spelling = n.spelling :=
      ⟨n, List.mem_append_left _ (List.mem_flatMap.2 ⟨p, hp, hn⟩), rfl⟩
    have hreturn {n : GlueName} (hn : n ∈ s.ret.glueNames) :
        ∃ y ∈ s.glueNames, y.spelling = n.spelling := ⟨n, List.mem_append_right _ hn, rfl⟩
    cases hn with
    | direct hp hnone => exact .inl (hparam hp (ParamSpec.mem_glueNames.2 (.inl ⟨hnone, rfl⟩)))
    | pointer hp ha hk =>
      exact .inl (hparam hp (ParamSpec.mem_glueNames.2 (.inr ⟨_, ha, _, hk, .inl rfl⟩)))
    | size hp ha hk =>
      exact .inl (hparam hp (ParamSpec.mem_glueNames.2 (.inr ⟨_, ha, _, hk, .inr rfl⟩)))
    | adapter hp ha => exact .inr (.inl ⟨_, hp, by simp [ha], rfl⟩)
    | returnPointer ha hk =>
      exact .inl (hreturn (ReturnSpec.mem_glueNames.2 ⟨_, ha, _, hk, .inl rfl⟩))
    | returnSize ha hk =>
      exact .inl (hreturn (ReturnSpec.mem_glueNames.2 ⟨_, ha, _, hk, .inr rfl⟩))
    | returnAdapter ha => exact .inr (.inr ⟨h.ret.isVoid_eq_false ha, .inr ⟨⟨_, ha⟩, rfl⟩⟩)
    | returnValue htype hnone => exact .inr (.inr ⟨htype, .inl ⟨hnone, rfl⟩⟩)

/-- What the native call of a glue function refers to. -/
structure Capture (s : Signature) (target : String) : Prop where
  /-- There is one call in the body, by the name of the target. -/
  calls_eq : ∃ args result, s.steps.filter Step.isCall = [.call target args result]
  /-- The name stands for the native function unless the glue function declares it. -/
  captures_iff : s.Captures target ↔ ∃ n, s.Declares n ∧ n.spelling = target
  /-- What is no identifier is never captured. -/
  not_captures : ManagedType.isIdentifier target.toList = false → ¬ s.Captures target

/-- **A target is captured exactly when it is spelled as a name that the glue function declares.** -/
theorem capture_of_ofMethod {table : TypeTable} {c : ClassDecl} {m : MethodDecl} {ordinal : Nat}
    {overloaded : Bool} {s : Signature} (h : ofMethod table c m ordinal overloaded = .ok s) :
    s.Capture m.target := by
  have hshape := shape_of_ofMethod h
  refine ⟨?_, captures_iff hshape, fun hidentifier hcaptured => ?_⟩
  · rw [hshape.steps_eq, filter_isCall_body]
    exact ⟨_, _, rfl⟩
  · obtain ⟨n, _, hspelling⟩ := (captures_iff hshape).1 hcaptured
    have hname := n.isIdentifier_spelling
    rw [hspelling, hidentifier] at hname
    exact Bool.noConfusion hname

/-- A target that is spelled as the adapter of the second parameter would be, if that had one. -/
theorem capture_of_ofMethod_adapter :
    let m : MethodDecl :=
      { name := "f", nativeName := some "a1"
        params := [{ type := .string }, { type := .primitive .int }], returnType := .string }
    ∃ s, (ofMethod .standard { name := "a.B" } m 0 false = .ok s ∧ ¬ s.Captures "a1"
        ∧ s.Captures "a0" ∧ s.Captures "arg1" ∧ s.Captures "ra")
      ∧ s.Capture m.target :=
  Exists.imp (fun _ h => ⟨h, capture_of_ofMethod h.1⟩)
    ⟨_, rfl, by decide, by decide, by decide, by decide⟩

/-- A method named like the local that holds the value of the call: the local is declared from
itself, and the native function is not called. -/
theorem captures_rv :
    let m : MethodDecl := { name := "rv", returnType := .primitive .int }
    ∃ s, ofMethod .standard { name := "a.B", methods := [m] } m 0 false = .ok s
      ∧ ManagedType.isIdentifier m.target.toList = true
      ∧ m.target ∈ s.steps.filterMap Step.introduced?
      ∧ s.steps.flatMap Step.lines = ["int32_t rv = rv();", "return rv;"] :=
  ⟨_, rfl, by decide, by decide, by decide⟩

end Signature

end NativeGlue
