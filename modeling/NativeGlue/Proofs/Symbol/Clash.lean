import Mathlib.Data.List.Nodup
import NativeGlue.Proofs.Signature.Methods
import NativeGlue.Proofs.Symbol.Unique

set_option autoImplicit false

/-! # Clashes of symbols

All classes of a build may be linked into one library, and the managed runtime finds a function in
it by its symbol alone. Whether a method has the short or the long form depends on the other methods
of its class (`ClassDecl.overload`). Still no two methods have the same symbol, in one class or in
several, unless one class has two methods with the same name and the same types
(`Signature.nodup_symbols_iff`). -/

namespace NativeGlue

namespace ClassDecl

/-! ## Symbols of one class -/

/-- The types that the symbol of a method names. -/
def overload (c : ClassDecl) (m : MethodDecl) : Option (List ManagedType) :=
  if c.isOverloaded m.name then some m.paramTypes else none

/-- The symbol of a method of a class. -/
def symbol (c : ClassDecl) (m : MethodDecl) : String :=
  Symbol.glueSymbol c.name m.name (c.overload m)

/-- The names of class and methods are made of segments, and the types of parameters are ones that a
text can name. -/
structure IsWellNamed (c : ClassDecl) : Prop where
  name : Symbol.isSegmented c.name = true
  methods : ∀ m ∈ c.methods, Symbol.isSegment m.name.toList = true
  types : ∀ m ∈ c.methods, ∀ t ∈ m.paramTypes, t.IsNamed

/-- Methods of well named classes have the same symbol only if the classes have the same name, and
the methods the same name and overload. -/
theorem of_symbol_eq {c c' : ClassDecl} (hc : c.IsWellNamed) (hc' : c'.IsWellNamed)
    {m m' : MethodDecl} (hm : m ∈ c.methods) (hm' : m' ∈ c'.methods)
    (h : c.symbol m = c'.symbol m') :
    c.name = c'.name ∧ m.name = m'.name ∧ c.overload m = c'.overload m' := by
  have hnamed {c : ClassDecl} (hc : c.IsWellNamed) {m : MethodDecl} (hm : m ∈ c.methods) :
      ∀ types ∈ c.overload m, ∀ t ∈ types, t.IsNamed := by
    intro types htypes
    rw [overload, Option.mem_def, Option.ite_none_right_eq_some, Option.some.injEq] at htypes
    rw [← htypes.2]
    exact hc.types m hm
  have htext := Symbol.symbolText_of_glueSymbol_eq
    (Symbol.joinable_symbolText hc.name (hc.methods m hm) (hnamed hc hm))
    (Symbol.joinable_symbolText hc'.name (hc'.methods m' hm') (hnamed hc' hm')) h
  exact Symbol.symbolText_injective hc.name hc'.name (hc.methods m hm) (hc'.methods m' hm')
    (hnamed hc hm) (hnamed hc' hm') htext

/-- A name that two methods have is overloaded. -/
theorem isOverloaded_of_sublist {c : ClassDecl} {m m' : MethodDecl}
    (h : [m, m'].Sublist c.methods) (hname : m.name = m'.name) : c.isOverloaded m.name = true := by
  have hnames : [m.name, m'.name].Sublist c.methodNames := h.map MethodDecl.name
  have hcount := hnames.count_le m.name
  rw [← hname, List.count_cons_self, List.count_cons_self, List.count_nil] at hcount
  rw [isOverloaded, decide_eq_true_iff]
  omega

/-- Two methods of a class have the same symbol if and only if they have the same name and types. -/
theorem symbol_eq_iff {c : ClassDecl} (hc : c.IsWellNamed) {m m' : MethodDecl}
    (h : [m, m'].Sublist c.methods) :
    c.symbol m = c.symbol m' ↔ (m.name, m.paramTypes) = (m'.name, m'.paramTypes) := by
  rw [Prod.mk.injEq]
  constructor
  · intro hsymbol
    have hm : m ∈ c.methods := h.subset (List.mem_cons_self ..)
    have hm' : m' ∈ c.methods := h.subset (List.mem_cons_of_mem _ (List.mem_cons_self ..))
    obtain ⟨_, hname, htypes⟩ := of_symbol_eq hc hc hm hm' hsymbol
    -- both have the long form, so the overloads are the types
    have hlong := isOverloaded_of_sublist h hname
    rw [overload, overload, ← hname, if_pos hlong, if_pos hlong, Option.some.injEq] at htypes
    exact ⟨hname, htypes⟩
  · rintro ⟨hname, htypes⟩
    rw [symbol, symbol, overload, overload, hname, htypes]

/-- The symbols of a class are distinct if and only if no two methods have the same name and types.
-/
theorem nodup_symbol_iff {c : ClassDecl} (hc : c.IsWellNamed) :
    (c.methods.map c.symbol).Nodup ↔ (c.methods.map fun m => (m.name, m.paramTypes)).Nodup := by
  -- over pairs of methods in order of declaration, so that a method twice in the list counts as two
  rw [List.Nodup, List.Nodup, List.pairwise_map, List.pairwise_map,
    List.pairwise_iff_forall_sublist, List.pairwise_iff_forall_sublist]
  constructor
  · intro h m m' hsub hkey
    exact h hsub ((symbol_eq_iff hc hsub).2 hkey)
  · intro h m m' hsub hsymbol
    exact h hsub ((symbol_eq_iff hc hsub).1 hsymbol)

/-- Classes of different names have no symbol in common. -/
theorem pairwise_disjoint_symbol {classes : List ClassDecl} (hnames : (classes.map (·.name)).Nodup)
    (hwell : ∀ c ∈ classes, c.IsWellNamed) :
    classes.Pairwise (Function.onFun List.Disjoint fun c => c.methods.map c.symbol) := by
  refine (List.pairwise_map.1 hnames).imp_of_mem fun {c c'} hc hc' hne => ?_
  intro symbol hmem hmem'
  obtain ⟨m, hm, rfl⟩ := List.mem_map.1 hmem
  obtain ⟨m', hm', hsymbol⟩ := List.mem_map.1 hmem'
  exact hne (of_symbol_eq (hwell c hc) (hwell c' hc') hm hm' hsymbol.symm).1

end ClassDecl

/-! ## Symbols of signatures -/

namespace Signature

/-- The signatures of a class have the symbols of its methods. -/
theorem map_symbol_of_ofClass {table : TypeTable} {c : ClassDecl} {signatures : List Signature}
    (h : ofClass table c = .ok signatures) :
    signatures.map (·.symbol) = c.methods.map c.symbol := by
  have hsymbols : signatures.map (·.symbol) = c.methods.zipIdx.map (c.symbol ∘ Prod.fst) := by
    refine map_eq_of_forall₂ ?_ (ofMethods_eq_ok_iff.1 h)
    intro m s hs
    obtain ⟨_, _, _, _, rfl⟩ := ofMethod_eq_ok_iff.1 hs
    rfl
  rw [hsymbols, ← List.map_map, List.zipIdx_map_fst]

/-- The signatures of all classes have the symbols of all methods. -/
theorem map_symbol_of_classes {table : TypeTable} {classes : List ClassDecl}
    {signatures : List (List Signature)} (h : classes.mapM (ofClass table) = .ok signatures) :
    signatures.flatten.map (·.symbol) = classes.flatMap fun c => c.methods.map c.symbol := by
  have hsymbols := map_eq_of_forall₂ (fun _ _ hc => map_symbol_of_ofClass hc) (mapM_eq_ok_iff.1 h)
  rw [List.map_flatten, hsymbols, List.flatMap_def]

/-- **Symbols clash only where a class has the same method twice.** The classes have different
names, which are made of segments like those of their methods. -/
theorem nodup_symbols_iff {table : TypeTable} {classes : List ClassDecl}
    {signatures : List (List Signature)} (hnames : (classes.map (·.name)).Nodup)
    (hwell : ∀ c ∈ classes, c.IsWellNamed)
    (h : classes.mapM (ofClass table) = .ok signatures) :
    (signatures.flatten.map (·.symbol)).Nodup ↔
      ∀ c ∈ classes, (c.methods.map fun m => (m.name, m.paramTypes)).Nodup := by
  rw [map_symbol_of_classes h, List.nodup_flatMap,
    and_iff_left (ClassDecl.pairwise_disjoint_symbol hnames hwell)]
  constructor
  · exact fun hsymbols c hc => (ClassDecl.nodup_symbol_iff (hwell c hc)).1 (hsymbols c hc)
  · exact fun hmethods c hc => (ClassDecl.nodup_symbol_iff (hwell c hc)).2 (hmethods c hc)

/-- A class with an overloaded method, and a class whose name goes on like a symbol of the first. -/
theorem nodup_symbols_iff_open :
    let classes : List ClassDecl := [
      { name := "a.File"
        methods := [{ name := "open", params := [{ type := .string }] },
          { name := "open", params := [{ type := .primitive .int }] }, { name := "close" }] },
      { name := "a.File.open", methods := [{ name := "close" }] }]
    (classes.map (·.name)).Nodup ∧ (∀ c ∈ classes, c.IsWellNamed) ∧
      ∃ signatures, classes.mapM (ofClass .standard) = .ok signatures
        ∧ (signatures.flatten.map (·.symbol)).Nodup := by
  intro classes
  have hnames : (classes.map (·.name)).Nodup := by decide
  have hwell : ∀ c ∈ classes, c.IsWellNamed := by
    have htypes : ∀ c ∈ classes, ∀ m ∈ c.methods, ∀ t ∈ m.paramTypes,
        t = .string ∨ t = .primitive .int := by decide
    have hnamed {t : ManagedType} (ht : t = .string ∨ t = .primitive .int) : t.IsNamed := by
      rcases ht with rfl | rfl
      · exact ⟨"java.lang.String", by decide⟩
      · exact ⟨"int", by decide⟩
    have hclass : ∀ c ∈ classes, Symbol.isSegmented c.name = true := by decide
    have hmethods : ∀ c ∈ classes, ∀ m ∈ c.methods, Symbol.isSegment m.name.toList = true := by
      decide
    exact fun c hc => ⟨hclass c hc, hmethods c hc, fun m hm t ht => hnamed (htypes c hc m hm t ht)⟩
  exact ⟨hnames, hwell, Exists.imp
    (fun _ h => ⟨h, (nodup_symbols_iff hnames hwell h).2 (by decide)⟩) ⟨_, rfl⟩⟩

end Signature

end NativeGlue
