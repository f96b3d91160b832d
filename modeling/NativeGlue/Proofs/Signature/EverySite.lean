import NativeGlue.Proofs.Signature.Faultless
import NativeGlue.Proofs.Signature.Methods
import NativeGlue.Proofs.Signature.DeclSite

set_option autoImplicit false

/-! # Every site of a class

The signatures of a class leave no site out and mix none up. If they can be made there is one for
each method in order, under its place, and it has a parameter for each declared one in order, with
the binding that the table gives for its type and markers, and one call with an argument for each
parameter (`Signature.Matches`). If they cannot, the error is that of the first site with a fault
and tells of its method. `Signature.followsSites_ofClass` states both. -/

namespace NativeGlue

/-! ## Parameters -/

namespace ParamSpec

/-- What the argument for a parameter does, and with which name. -/
def operand (p : ParamSpec) : Operand :=
  match p.binding.adapter with
  | none =>
    if p.direction.propagates then .deref (directName p.index) else .plain (directName p.index)
  | some _ => .cast (adapterName p.index)

theorem read_argument (p : ParamSpec) : Operand.read p.argument = p.operand := by
  cases hadapter : p.binding.adapter with
  | none => rw [read_argument_of_direct hadapter, operand, hadapter]
  | some a => rw [read_argument_of_bridged hadapter, operand, hadapter]

/-- A parameter is that of a declaration at an index: it has the type and direction declared, and
the binding that the table gives for the adapter its markers ask for. -/
structure Matches (table : TypeTable) (method : String) (d : ParamDecl) (index : Nat)
    (p : ParamSpec) : Prop where
  index_eq : p.index = index
  type_eq : p.type = d.type
  direction_eq : p.direction = d.direction
  resolved : ∃ asked, selectAdapter d.markers method (d.site index) = .ok asked
    ∧ table.resolve d.type asked method = .ok p.binding

theorem matches_of_ofDecl {table : TypeTable} {method : String} {index : Nat} {d : ParamDecl}
    {p : ParamSpec} (h : ofDecl table method index d = .ok p) : p.Matches table method d index := by
  obtain ⟨_, asked, binding, hasked, hbinding, rfl⟩ := ofDecl_eq_ok_iff.1 h
  exact ⟨rfl, rfl, rfl, asked, hasked, hbinding⟩

end ParamSpec

/-! ## Return values -/

/-- A return value is that of a method: there is none, or it has the type declared and the binding
that the table gives for the adapter its markers ask for. -/
inductive ReturnSpec.Matches (table : TypeTable) (method : String) (m : MethodDecl) :
    ReturnSpec → Prop
  | void (htype : m.returnType = .void) : Matches table method m .void
  | value {asked : Option AdapterRef} {binding : TypeBinding} (htype : m.returnType ≠ .void)
      (hasked : selectAdapter m.returnMarkers method "return" = .ok asked)
      (hbinding : table.resolve m.returnType asked method = .ok binding) :
      Matches table method m (.of m.returnType binding)

theorem ReturnSpec.matches_of_ofMethod {table : TypeTable} {method : String} {m : MethodDecl}
    {r : ReturnSpec} (h : ofMethod table method m = .ok r) : r.Matches table method m := by
  rcases ofMethod_eq_ok_iff.1 h with ⟨hvoid, rfl⟩ | ⟨hvoid, asked, binding, hasked, hbinding, rfl⟩
  · exact .void (ManagedType.isVoid_iff.1 hvoid)
  · refine .value ?_ hasked hbinding
    intro htype
    rw [htype] at hvoid
    exact absurd hvoid (by simp [ManagedType.isVoid])

/-! ## Methods and classes -/

namespace Signature

/-- A signature is that of the method at a place of a class. -/
structure Matches (table : TypeTable) (c : ClassDecl) (m : MethodDecl) (ordinal : Nat)
    (s : Signature) : Prop where
  className_eq : s.className = c.name
  methodName_eq : s.methodName = m.name
  ordinal_eq : s.ordinal = ordinal
  /-- Every declared parameter is at its index. -/
  params : List.Forall₂ (fun d p => p.Matches table (c.name ++ "." ++ m.name) d.1 d.2)
    m.params.zipIdx s.params
  ret : s.ret.Matches table (c.name ++ "." ++ m.name) m
  /-- There is one call, of the native function, and it has an argument for every parameter. -/
  one_call : ∃ args result,
    s.steps.filter Step.isCall = [.call (m.nativeName.getD m.name) args result]
      ∧ List.Forall₂ (fun p arg => Operand.read arg = p.operand) s.params args

theorem matches_of_ofMethod {table : TypeTable} {c : ClassDecl} {m : MethodDecl} {ordinal : Nat}
    {overloaded : Bool} {s : Signature} (h : ofMethod table c m ordinal overloaded = .ok s) :
    s.Matches table c m ordinal := by
  obtain ⟨params, ret, hparams, hret, rfl⟩ := ofMethod_eq_ok_iff.1 h
  refine ⟨rfl, rfl, rfl, ?params, ReturnSpec.matches_of_ofMethod hret,
    params.map ParamSpec.argument, ret.result?, filter_isCall_body m.target params ret, ?args⟩
  case params =>
    exact (ParamSpec.ofDecls_eq_ok_iff.1 hparams).imp fun d p hp => ParamSpec.matches_of_ofDecl hp
  case args =>
    rw [List.forall₂_map_right_iff]
    exact List.forall₂_same.2 fun p _ => p.read_argument

/-- The signatures of a class follow its sites. -/
structure FollowsSites (table : TypeTable) (c : ClassDecl) : Prop where
  /-- Every method has its signature, in order of declaration. -/
  signatures_match : ∀ signatures, ofClass table c = .ok signatures →
    List.Forall₂ (fun m s => s.Matches table c m.1 m.2) c.methods.zipIdx signatures
  /-- An error is that of the first site with a fault, and every such fault is an error. -/
  error_iff : ∀ e, ofClass table c = .error e ↔ FirstFault (DeclSite.Fails table) c.sites e
  /-- The error of a site tells of its method. -/
  method_eq : ∀ m ∈ c.methods, ∀ site ∈ m.sites c.name, ∀ e, site.Fails table e →
    e.method? = some (c.name ++ "." ++ m.name)

/-- **The signatures of every class follow its sites**, with any table. -/
theorem followsSites_ofClass (table : TypeTable) (c : ClassDecl) : FollowsSites table c where
  signatures_match signatures h :=
    (ofMethods_eq_ok_iff.1 h).imp fun _ _ hs => matches_of_ofMethod hs
  error_iff := reports_ofClass table c
  method_eq m _ site hsite e hfails := by
    rw [DeclSite.method?_of_fails hfails, DeclSite.method_of_mem_sites hsite]

/-- The return value of the first method comes before the parameter of the second, which has a fault
as well. -/
example :
    let c : ClassDecl :=
      { name := "a.B"
        methods := [
          { name := "f", params := [{ type := .string }], returnType := .object "a.C" },
          { name := "g", params := [{ type := .void }] }] }
    ofClass .standard c = .error (.unresolvedType (.object "a.C") "a.B.f") := rfl

end Signature

end NativeGlue
