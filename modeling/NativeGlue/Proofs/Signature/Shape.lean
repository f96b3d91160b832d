import NativeGlue.Proofs.Attempt
import NativeGlue.Proofs.Signature.Builder
import NativeGlue.Signature.OfClass

set_option autoImplicit false

/-! # The shape of signatures

What it means that a method has a signature. `Signature.ofMethod_eq_ok_iff` takes the work apart:
the parameters and the return value cross one by one, and the rest is put together from them.
`Signature.shape_of_ofMethod` keeps what the facts about bodies need of it: the body is the one of
the sites, no two parameters have the same index, and every site has the glue parameters of its
binding. -/

namespace NativeGlue

/-! ## Parameters -/

namespace ParamSpec

/-- The parameter that a binding makes of a declaration. -/
def crossing (p : ParamDecl) (index : Nat) (binding : TypeBinding) : ParamSpec :=
  { index, binding, name := p.site index, type := p.type, direction := p.direction
    glueParams := paramGlueParams index p.direction binding }

theorem ofDecl_eq_ok_iff {table : TypeTable} {method : String} {index : Nat} {p : ParamDecl}
    {spec : ParamSpec} :
    ofDecl table method index p = .ok spec ↔
      p.type.isVoid = false ∧ ∃ asked binding,
        selectAdapter p.markers method (p.site index) = .ok asked
        ∧ table.resolve p.type asked method = .ok binding ∧ spec = crossing p index binding := by
  cases hvoid : p.type.isVoid with
  | true => simp [ofDecl, hvoid]
  | false =>
    simp only [ofDecl, hvoid, Bool.false_eq_true, if_false, bind_eq_ok, pure, Except.pure,
      Except.ok.injEq, true_and]
    constructor
    · rintro ⟨asked, hasked, binding, hbinding, rfl⟩
      exact ⟨asked, binding, hasked, hbinding, rfl⟩
    · rintro ⟨asked, binding, hasked, hbinding, rfl⟩
      exact ⟨asked, hasked, binding, hbinding, rfl⟩

/-- Parameters are a list of attempts, each under its index. -/
theorem ofDecls_eq_mapM (table : TypeTable) (method : String) (index : Nat)
    (decls : List ParamDecl) :
    ofDecls table method index decls
      = (decls.zipIdx index).mapM fun d => ofDecl table method d.2 d.1 := by
  induction decls generalizing index with
  | nil => rfl
  | cons p decls ih => rw [ofDecls, List.zipIdx_cons, List.mapM_cons, ← ih]

/-- Parameters cross one by one. -/
theorem ofDecls_eq_ok_iff {table : TypeTable} {method : String} {index : Nat}
    {decls : List ParamDecl} {specs : List ParamSpec} :
    ofDecls table method index decls = .ok specs ↔
      List.Forall₂ (fun d spec => ofDecl table method d.2 d.1 = .ok spec) (decls.zipIdx index)
        specs := by
  rw [ofDecls_eq_mapM, mapM_eq_ok_iff]

/-- A parameter is one of the declarations, under some index. -/
theorem exists_ofDecl_of_mem {table : TypeTable} {method : String} {index : Nat}
    {decls : List ParamDecl} {specs : List ParamSpec}
    (h : ofDecls table method index decls = .ok specs) {spec : ParamSpec} (hspec : spec ∈ specs) :
    ∃ p i, ofDecl table method i p = .ok spec := by
  obtain ⟨d, _, hd⟩ := exists_of_forall₂ (ofDecls_eq_ok_iff.1 h) hspec
  exact ⟨d.1, d.2, hd⟩

/-- The indices count on. -/
theorem index_of_ofDecls {table : TypeTable} {method : String} {index : Nat}
    {decls : List ParamDecl} {specs : List ParamSpec}
    (h : ofDecls table method index decls = .ok specs) :
    specs.map (·.index) = List.range' index decls.length := by
  have hindex : specs.map (·.index) = (decls.zipIdx index).map Prod.snd := by
    refine map_eq_of_forall₂ ?_ (ofDecls_eq_ok_iff.1 h)
    intro d spec hspec
    obtain ⟨_, _, _, _, _, rfl⟩ := ofDecl_eq_ok_iff.1 hspec
    rfl
  rw [hindex, List.zipIdx_map_snd]

/-- The glue parameters are those of the binding. -/
theorem glueParams_of_ofDecls {table : TypeTable} {method : String} {index : Nat}
    {decls : List ParamDecl} {specs : List ParamSpec}
    (h : ofDecls table method index decls = .ok specs) :
    ∀ p ∈ specs, p.glueParams = paramGlueParams p.index p.direction p.binding := by
  intro p hp
  obtain ⟨_, _, hp⟩ := exists_ofDecl_of_mem h hp
  obtain ⟨_, _, _, _, _, rfl⟩ := ofDecl_eq_ok_iff.1 hp
  rfl

end ParamSpec

/-! ## Return values -/

namespace ReturnSpec

theorem ofMethod_eq_ok_iff {table : TypeTable} {method : String} {m : MethodDecl}
    {r : ReturnSpec} :
    ofMethod table method m = .ok r ↔
      (m.returnType.isVoid = true ∧ r = .void) ∨
      (m.returnType.isVoid = false ∧ ∃ asked binding,
        selectAdapter m.returnMarkers method "return" = .ok asked
          ∧ table.resolve m.returnType asked method = .ok binding
          ∧ r = .of m.returnType binding) := by
  cases hvoid : m.returnType.isVoid with
  | true => simp [ofMethod, hvoid, eq_comm]
  | false =>
    simp only [ofMethod, hvoid, Bool.false_eq_true, if_false, bind_eq_ok, pure, Except.pure,
      Except.ok.injEq, true_and, false_and, false_or]
    constructor
    · rintro ⟨asked, hasked, binding, hbinding, rfl⟩
      exact ⟨asked, binding, hasked, hbinding, rfl⟩
    · rintro ⟨asked, binding, hasked, hbinding, rfl⟩
      exact ⟨asked, hasked, binding, hbinding, rfl⟩

/-- The three ways in which a return value crosses. -/
inductive Shape : ReturnSpec → Prop where
  /-- There is none. -/
  | void : Shape .void
  /-- It crosses as it is. -/
  | direct {type : ManagedType} {binding : TypeBinding} (htype : type.isVoid = false)
      (hbinding : binding.adapter = none) : Shape ⟨type, binding, binding.native, []⟩
  /-- It crosses through an adapter. -/
  | bridged {type : ManagedType} {binding : TypeBinding} {adapter : BoundAdapter}
      (htype : type.isVoid = false) (hbinding : binding.adapter = some adapter) :
      Shape ⟨type, binding, .void, groupParams (returnGroups adapter) adapter.element true⟩

/-- A return value that crosses through an adapter is a value. -/
theorem Shape.isVoid_eq_false {r : ReturnSpec} (h : r.Shape) {a : BoundAdapter}
    (ha : r.binding.adapter = some a) : r.type.isVoid = false := by
  cases h with
  | void => exact absurd ha (by simp [ReturnSpec.void, TypeBinding.direct])
  | direct htype => exact htype
  | bridged htype => exact htype

theorem shape_of {type : ManagedType} {binding : TypeBinding} (h : type.isVoid = false) :
    Shape (.of type binding) := by
  cases hbinding : binding.adapter with
  | none => simpa [of, hbinding] using Shape.direct h hbinding
  | some adapter => simpa [of, hbinding] using Shape.bridged h hbinding

theorem shape_of_ofMethod {table : TypeTable} {method : String} {m : MethodDecl} {r : ReturnSpec}
    (h : ofMethod table method m = .ok r) : Shape r := by
  rcases ofMethod_eq_ok_iff.1 h with ⟨_, rfl⟩ | ⟨hvoid, _, _, _, _, rfl⟩
  · exact .void
  · exact shape_of hvoid

end ReturnSpec

/-! ## Signatures -/

namespace Signature

theorem ofMethod_eq_ok_iff {table : TypeTable} {c : ClassDecl} {m : MethodDecl} {ordinal : Nat}
    {overloaded : Bool} {s : Signature} :
    ofMethod table c m ordinal overloaded = .ok s ↔
      ∃ params ret, ParamSpec.ofDecls table (c.name ++ "." ++ m.name) 0 m.params = .ok params
        ∧ ReturnSpec.ofMethod table (c.name ++ "." ++ m.name) m = .ok ret
        ∧ s = {
            className := c.name
            methodName := m.name
            ordinal, params, ret
            symbol := Symbol.glueSymbol c.name m.name (if overloaded then some m.paramTypes else none)
            steps := body m.target params ret } := by
  simp only [ofMethod, BodyBuilder.finish_ofSites, bind_eq_ok, pure, Except.pure, Except.ok.injEq]
  constructor
  · rintro ⟨params, hparams, ret, hret, rfl⟩
    exact ⟨params, ret, hparams, hret, rfl⟩
  · rintro ⟨params, ret, hparams, hret, rfl⟩
    exact ⟨params, hparams, ret, hret, rfl⟩

/-- The parts of a signature belong together. -/
structure Shape (target : String) (s : Signature) : Prop where
  /-- The steps are the body of the sites. -/
  steps_eq : s.steps = body target s.params s.ret
  /-- No two parameters have the same index. -/
  nodup_index : (s.params.map (·.index)).Nodup
  /-- Every parameter has the glue parameters of its binding. -/
  glueParams_eq : ∀ p ∈ s.params, p.glueParams = paramGlueParams p.index p.direction p.binding
  /-- So has the return value. -/
  ret : s.ret.Shape

theorem shape_of_ofMethod {table : TypeTable} {c : ClassDecl} {m : MethodDecl} {ordinal : Nat}
    {overloaded : Bool} {s : Signature} (h : ofMethod table c m ordinal overloaded = .ok s) :
    Shape m.target s := by
  obtain ⟨params, ret, hparams, hret, rfl⟩ := ofMethod_eq_ok_iff.1 h
  refine ⟨rfl, ?_, ParamSpec.glueParams_of_ofDecls hparams, ReturnSpec.shape_of_ofMethod hret⟩
  show (params.map (·.index)).Nodup
  rw [ParamSpec.index_of_ofDecls hparams]
  exact List.nodup_range'

end Signature

end NativeGlue
