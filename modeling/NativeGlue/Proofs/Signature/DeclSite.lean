import NativeGlue.Proofs.Signature.Markers
import NativeGlue.Proofs.Signature.Methods

set_option autoImplicit false

/-! # Sites and their faults

The values of a method cross at *sites*: one for each parameter in order, and one for the return
value if there is one. `DeclSite.Fails` says what can be wrong with a site and which error tells of
it; every such error names the method of the site (`DeclSite.method?_of_fails`).

Signatures are made site by site and stop at the first one with a fault: the signatures of a class
report all of its sites (`Signature.reports_ofClass`). -/

namespace NativeGlue

/-! ## Sites -/

/-- A place where a value of a method crosses. -/
structure DeclSite where
  /-- The qualified name of the method. -/
  method : String
  /-- The name that diagnostics use. -/
  name : String
  type : ManagedType
  markers : List Marker

namespace DeclSite

/-- The site of a parameter. -/
def param (method : String) (index : Nat) (p : ParamDecl) : DeclSite :=
  ⟨method, p.site index, p.type, p.markers⟩

/-- The site of a return value; a method without one has no such site. -/
def ofReturn (method : String) (m : MethodDecl) : List DeclSite :=
  if m.returnType.isVoid then [] else [⟨method, "return", m.returnType, m.returnMarkers⟩]

end DeclSite

/-- The sites of a method: the parameters in order, then the return value. -/
def MethodDecl.sites (className : String) (m : MethodDecl) : List DeclSite :=
  m.params.zipIdx.map (fun p => .param (className ++ "." ++ m.name) p.2 p.1)
    ++ DeclSite.ofReturn (className ++ "." ++ m.name) m

/-- The sites of a class, method by method. -/
def ClassDecl.sites (c : ClassDecl) : List DeclSite := c.methods.flatMap (·.sites c.name)

namespace DeclSite

/-- What can be wrong with a site: it has no value to cross, or its markers conflict, or the table
refuses its type with the adapter that the markers agree on. -/
inductive Fails (table : TypeTable) (s : DeclSite) : ConfigError → Prop
  | void (htype : s.type = .void) : Fails table s (.voidParameter s.method s.name)
  | conflict {first second : AdapterRef} (htype : s.type ≠ .void)
      (h : Marker.Conflict s.markers first second) :
      Fails table s (.ambiguousAdapter s.method s.name first second)
  | refused {asked : Option AdapterRef} {e : ConfigError} (htype : s.type ≠ .void)
      (hasked : Marker.Agree s.markers asked) (h : table.resolve s.type asked s.method = .error e) :
      Fails table s e

end DeclSite

/-- The method that an error tells of, if it tells of one. -/
def ConfigError.method? : ConfigError → Option String
  | ambiguousAdapter method .. => some method
  | unknownAdapter _ method => some method
  | unresolvedType _ method => some method
  | untypedBuffer _ _ method => some method
  | voidParameter method _ => some method
  | invalidArgCount .. | emptyAdapterName | invalidTypeName _ | missingCounterpart _ => none

namespace DeclSite

/-- The error of a site tells of its method. -/
theorem method?_of_fails {table : TypeTable} {s : DeclSite} {e : ConfigError}
    (h : s.Fails table e) : e.method? = some s.method := by
  cases h with
  | void | conflict => rfl
  | refused _ _ hresolve => cases TypeTable.refusal_of_resolve hresolve <;> rfl

theorem method_of_mem_sites {className : String} {m : MethodDecl} {s : DeclSite}
    (h : s ∈ m.sites className) : s.method = className ++ "." ++ m.name := by
  rcases List.mem_append.1 h with h | h
  · obtain ⟨p, _, rfl⟩ := List.mem_map.1 h
    rfl
  · unfold ofReturn at h
    split at h
    · exact absurd h (by simp)
    · rw [List.mem_singleton.1 h]

/-! ## How a site crosses -/

/-- How the value of a site crosses. -/
def cross (table : TypeTable) (s : DeclSite) : Except ConfigError TypeBinding :=
  if s.type.isVoid then .error (.voidParameter s.method s.name)
  else do
    let asked ← selectAdapter s.markers s.method s.name
    table.resolve s.type asked s.method

theorem cross_of_isVoid (table : TypeTable) {s : DeclSite} (h : s.type.isVoid = true) :
    s.cross table = .error (.voidParameter s.method s.name) := if_pos h

theorem cross_of_not_isVoid (table : TypeTable) {s : DeclSite} (h : ¬ s.type.isVoid = true) :
    s.cross table = selectAdapter s.markers s.method s.name >>= fun asked =>
      table.resolve s.type asked s.method := if_neg h

theorem cross_eq_error_iff {table : TypeTable} {s : DeclSite} {e : ConfigError} :
    s.cross table = .error e ↔ s.Fails table e := by
  by_cases hvoid : s.type.isVoid = true
  · have htype := ManagedType.isVoid_iff.1 hvoid
    rw [cross_of_isVoid table hvoid]
    constructor
    · intro h
      rw [← Except.error.inj h]
      exact .void htype
    · intro h
      cases h with
      | void => rfl
      | conflict hne | refused hne => exact absurd htype hne
  · have htype : s.type ≠ .void := fun h => hvoid (ManagedType.isVoid_iff.2 h)
    rw [cross_of_not_isVoid table hvoid, bind_eq_error, selectAdapter_eq_error_iff]
    simp only [selectAdapter_eq_ok_iff]
    constructor
    · rintro (⟨_, _, hconflict, rfl⟩ | ⟨_, hasked, hresolve⟩)
      · exact .conflict htype hconflict
      · exact .refused htype hasked hresolve
    · intro h
      cases h with
      | void h => exact absurd h htype
      | conflict _ hconflict => exact .inl ⟨_, _, hconflict, rfl⟩
      | refused _ hasked hresolve => exact .inr ⟨_, hasked, hresolve⟩

theorem reports_cross (table : TypeTable) (s : DeclSite) :
    Reports (Fails table) (s.cross table) [s] := Reports.single fun _ => cross_eq_error_iff

end DeclSite

/-! ## What signatures report -/

/-- A parameter crosses as its site does. -/
theorem ParamSpec.ofDecl_eq_cross (table : TypeTable) (method : String) (index : Nat)
    (p : ParamDecl) :
    ofDecl table method index p
      = (DeclSite.param method index p).cross table >>= fun b => pure (crossing p index b) := by
  by_cases hvoid : p.type.isVoid = true
  · have hcross := DeclSite.cross_of_isVoid table (s := .param method index p) hvoid
    rw [ofDecl, if_pos hvoid, hcross]
    rfl
  · have hcross := DeclSite.cross_of_not_isVoid table (s := .param method index p) hvoid
    rw [ofDecl, if_neg hvoid, hcross, bind_assoc]
    rfl

theorem ParamSpec.reports_ofDecls (table : TypeTable) (method : String) (index : Nat)
    (decls : List ParamDecl) :
    Reports (DeclSite.Fails table) (ofDecls table method index decls)
      ((decls.zipIdx index).map fun p => .param method p.2 p.1) := by
  rw [ofDecls_eq_mapM, List.map_eq_flatMap]
  refine Reports.mapM (fun p => ?_) _
  rw [ofDecl_eq_cross]
  exact (DeclSite.reports_cross table _).bind_pure _

theorem ReturnSpec.reports_ofMethod (table : TypeTable) (method : String) (m : MethodDecl) :
    Reports (DeclSite.Fails table) (ofMethod table method m) (DeclSite.ofReturn method m) := by
  unfold ofMethod DeclSite.ofReturn
  by_cases hvoid : m.returnType.isVoid = true
  · rw [if_pos hvoid, if_pos hvoid]
    exact .ok _
  · rw [if_neg hvoid, if_neg hvoid]
    have hcross := DeclSite.reports_cross table ⟨method, "return", m.returnType, m.returnMarkers⟩
    have h := hcross.bind_pure (ReturnSpec.of m.returnType)
    rwa [DeclSite.cross_of_not_isVoid table hvoid, bind_assoc] at h

namespace Signature

theorem reports_ofMethod (table : TypeTable) (c : ClassDecl) (m : MethodDecl) (ordinal : Nat)
    (overloaded : Bool) :
    Reports (DeclSite.Fails table) (ofMethod table c m ordinal overloaded) (m.sites c.name) := by
  have hparams := ParamSpec.reports_ofDecls table (c.name ++ "." ++ m.name) 0 m.params
  have hret := ReturnSpec.reports_ofMethod table (c.name ++ "." ++ m.name) m
  exact hparams.bind fun params => hret.bind_pure _

/-- The signatures of a class fail for the first site that has a fault. -/
theorem reports_ofClass (table : TypeTable) (c : ClassDecl) :
    Reports (DeclSite.Fails table) (ofClass table c) c.sites := by
  have h := Reports.mapM (fun m => reports_ofMethod table c m.1 m.2 (c.isOverloaded m.1.name))
    c.methods.zipIdx
  -- the place of a method does not matter for its sites
  have hsites : c.methods.zipIdx.flatMap (fun m => m.1.sites c.name) = c.sites := by
    rw [← List.flatMap_map, List.zipIdx_map_fst, ClassDecl.sites]
  rwa [← ofMethods_eq_mapM, hsites] at h

end Signature

end NativeGlue
