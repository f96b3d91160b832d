import NativeGlue.Proofs.Signature.Methods

set_option autoImplicit false

/-! # Methods added to a class

The methods of a class are translated one by one, and all that one of them is told of the others is
whether its name is overloaded. So a method that is added to a class leaves the earlier signatures
as they are, but for one symbol: a method that so far was alone with the name gets the long form
(`Signature.keeps_of_withMethod`). A name that was overloaded before stays so, and its symbols stay
too. -/

namespace NativeGlue

/-! ## Names -/

namespace ClassDecl

/-- The class with one more method, which is declared last. -/
def withMethod (c : ClassDecl) (m : MethodDecl) : ClassDecl := { c with methods := c.methods ++ [m] }

theorem count_methodNames_withMethod (c : ClassDecl) (m : MethodDecl) (name : String) :
    (c.withMethod m).methodNames.count name
      = c.methodNames.count name + if m.name = name then 1 else 0 := by
  simp [methodNames, withMethod, List.count_singleton]

/-- A method makes a name overloaded that one method has so far, and no other name. -/
theorem isOverloaded_withMethod_ne_iff {c : ClassDecl} {m : MethodDecl} {name : String} :
    (c.withMethod m).isOverloaded name ≠ c.isOverloaded name ↔
      name = m.name ∧ c.methodNames.count m.name = 1 := by
  rw [isOverloaded, isOverloaded, count_methodNames_withMethod, ne_eq, decide_eq_decide]
  by_cases h : m.name = name
  · subst h
    simp only [if_pos, true_and]
    omega
  · simp [h, Ne.symm h]

/-- No name ceases to be overloaded. -/
theorem isOverloaded_withMethod {c : ClassDecl} {m : MethodDecl} {name : String}
    (h : c.isOverloaded name = true) : (c.withMethod m).isOverloaded name = true := by
  rw [isOverloaded, decide_eq_true_iff] at h ⊢
  rw [count_methodNames_withMethod]
  omega

end ClassDecl

namespace Signature

/-! ## Symbols -/

/-- The symbol that names class and method. -/
def shortSymbol (s : Signature) : String := Symbol.glueSymbol s.className s.methodName none

/-- The symbol that names the types of the parameters, too. -/
def longSymbol (s : Signature) : String :=
  Symbol.glueSymbol s.className s.methodName (some (s.params.map (·.type)))

theorem longSymbol_ne_shortSymbol (s : Signature) : s.longSymbol ≠ s.shortSymbol := by
  intro h
  have hlength := congrArg (fun symbol => symbol.toList.length) h
  simp [longSymbol, shortSymbol, Symbol.glueSymbol] at hlength

section OfMethod

variable {table : TypeTable} {c : ClassDecl} {d : MethodDecl} {ordinal : Nat} {s : Signature}

/-- A signature has the types of its method. -/
theorem types_of_ofMethod {overloaded : Bool} (h : ofMethod table c d ordinal overloaded = .ok s) :
    s.params.map (·.type) = d.paramTypes := by
  obtain ⟨params, _, hparams, _, rfl⟩ := ofMethod_eq_ok_iff.1 h
  have hzip : params.map (·.type) = (d.params.zipIdx 0).map (ParamDecl.type ∘ Prod.fst) := by
    refine map_eq_of_forall₂ (fun d p hp => ?_) (ParamSpec.ofDecls_eq_ok_iff.1 hparams)
    obtain ⟨_, _, _, _, _, rfl⟩ := ParamSpec.ofDecl_eq_ok_iff.1 hp
    rfl
  rw [hzip, ← List.map_map, List.zipIdx_map_fst, MethodDecl.paramTypes]

/-- An overloaded method has the long symbol, any other the short one. -/
theorem symbol_of_ofMethod {overloaded : Bool} (h : ofMethod table c d ordinal overloaded = .ok s) :
    s.symbol = if overloaded then s.longSymbol else s.shortSymbol := by
  have htypes := types_of_ofMethod h
  obtain ⟨params, ret, _, _, rfl⟩ := ofMethod_eq_ok_iff.1 h
  cases overloaded with
  | false => rfl
  | true => simp only [longSymbol, htypes, if_true]

/-- Whether a method is overloaded shows in its symbol only. -/
theorem eq_of_ofMethod {t : Signature} {overloaded overloaded' : Bool}
    (hs : ofMethod table c d ordinal overloaded = .ok s)
    (ht : ofMethod table c d ordinal overloaded' = .ok t) : t = { s with symbol := t.symbol } := by
  obtain ⟨params, ret, hparams, hret, rfl⟩ := ofMethod_eq_ok_iff.1 hs
  obtain ⟨params', ret', hparams', hret', rfl⟩ := ofMethod_eq_ok_iff.1 ht
  obtain rfl : params' = params := Except.ok.inj (hparams'.symm.trans hparams)
  obtain rfl : ret' = ret := Except.ok.inj (hret'.symm.trans hret)
  rfl

end OfMethod

/-! ## Earlier signatures -/

/-- What is left of the signature of a method when another method `m` is added to the class. -/
structure Keeps (c : ClassDecl) (m : MethodDecl) (s t : Signature) : Prop where
  /-- Every field but the symbol is the same. -/
  others_eq : t = { s with symbol := t.symbol }
  /-- The symbol changes exactly for the name of the added method, if one method had it so far. -/
  symbol_ne_iff : t.symbol ≠ s.symbol ↔ s.methodName = m.name ∧ c.methodNames.count m.name = 1
  /-- If it changes, it was the short form and is the long one. -/
  lengthens : t.symbol ≠ s.symbol → s.symbol = s.shortSymbol ∧ t.symbol = s.longSymbol

/-- A method at its place in the class, and in the class with one more method. -/
theorem keeps_of_ofMethod {table : TypeTable} {c : ClassDecl} {m d : MethodDecl} {ordinal : Nat}
    {s t : Signature} (hs : ofMethod table c d ordinal (c.isOverloaded d.name) = .ok s)
    (ht : ofMethod table c d ordinal ((c.withMethod m).isOverloaded d.name) = .ok t) :
    Keeps c m s t := by
  have hothers := eq_of_ofMethod hs ht
  have hname : s.methodName = d.name := by
    obtain ⟨_, _, _, _, rfl⟩ := ofMethod_eq_ok_iff.1 hs
    rfl
  have hforms : t.longSymbol = s.longSymbol ∧ t.shortSymbol = s.shortSymbol := by
    rw [hothers]
    exact ⟨rfl, rfl⟩
  have hsymbol := symbol_of_ofMethod hs
  have hsymbol' := symbol_of_ofMethod ht
  rw [hforms.1, hforms.2] at hsymbol'
  have hchanges_iff : t.symbol ≠ s.symbol ↔
      (c.withMethod m).isOverloaded d.name ≠ c.isOverloaded d.name := by
    have hne := s.longSymbol_ne_shortSymbol
    rw [hsymbol, hsymbol']
    cases c.isOverloaded d.name <;> cases (c.withMethod m).isOverloaded d.name <;>
      simp [hne, hne.symm]
  refine ⟨hothers, ?_, fun hchanges => ?_⟩
  · rw [hchanges_iff, hname, ClassDecl.isOverloaded_withMethod_ne_iff]
  · cases hbefore : c.isOverloaded d.name with
    | true =>
      have hafter := ClassDecl.isOverloaded_withMethod (m := m) hbefore
      exact absurd (hafter.trans hbefore.symm) (hchanges_iff.1 hchanges)
    | false =>
      have hafter : (c.withMethod m).isOverloaded d.name = true := by
        simpa [hbefore] using hchanges_iff.1 hchanges
      rw [hsymbol, hsymbol', hbefore, hafter]
      exact ⟨rfl, rfl⟩

/-- **A method added to a class leaves the earlier signatures as they are**, with any table, but for
the symbol of a method that was alone with the name. -/
theorem keeps_of_withMethod {table : TypeTable} {c : ClassDecl} {m : MethodDecl}
    {before after : List Signature} (hbefore : ofClass table c = .ok before)
    (hafter : ofClass table (c.withMethod m) = .ok after) :
    ∃ kept last, after = kept ++ [last] ∧ last.methodName = m.name
      ∧ List.Forall₂ (Keeps c m) before kept := by
  have hmethods : (c.withMethod m).methods.zipIdx
      = c.methods.zipIdx ++ [(m, c.methods.length)] := by
    simp [ClassDecl.withMethod, List.zipIdx_append]
  have hsigned := ofMethods_eq_ok_iff.1 hafter
  rw [hmethods] at hsigned
  obtain ⟨kept, added, rfl, hkept, hadded⟩ := append_of_forall₂ hsigned
  obtain ⟨last, rfl, hlast⟩ : ∃ last, added = [last]
      ∧ ofMethod table c m c.methods.length ((c.withMethod m).isOverloaded m.name) = .ok last := by
    cases hadded with
    | cons hlast hnil =>
      cases hnil
      exact ⟨_, rfl, hlast⟩
  refine ⟨kept, last, rfl, ?_, ?_⟩
  · obtain ⟨_, _, _, _, rfl⟩ := ofMethod_eq_ok_iff.1 hlast
    rfl
  · -- a method is told the name of its class and no more of it
    refine forall₂_of_forall₂ ?_ (ofMethods_eq_ok_iff.1 hbefore) hkept
    intro d s t hs ht
    exact keeps_of_ofMethod hs ht

/-- A second `open` gives the first one its long symbol; `close` keeps the short one. -/
theorem keeps_of_withMethod_open :
    let c : ClassDecl :=
      { name := "io.File"
        methods := [{ name := "open", params := [{ type := .string }], returnType := .primitive .int },
          { name := "close" }] }
    let m : MethodDecl := { name := "open", params := [{ type := .primitive .int }] }
    ∃ before after, ofClass .standard c = .ok before ∧ ofClass .standard (c.withMethod m) = .ok after
      ∧ ∃ kept last, after = kept ++ [last] ∧ last.methodName = m.name
        ∧ List.Forall₂ (Keeps c m) before kept := by
  intro c m
  obtain ⟨before, after, hbefore, hafter⟩ : ∃ before after, ofClass .standard c = .ok before
      ∧ ofClass .standard (c.withMethod m) = .ok after := ⟨_, _, rfl, rfl⟩
  exact ⟨before, after, hbefore, hafter, keeps_of_withMethod hbefore hafter⟩

end Signature

end NativeGlue
