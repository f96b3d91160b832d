import NativeGlue.Datum.Basic

set_option autoImplicit false

/-! # Shapes

What the readers of `NativeGlue.Datum.Basic` do with data as a writer makes them: a record whose
fields are all known is its own list of entries, and a value that is written as its shape reads it is
read back. In the other direction, whatever a reader gives came through the shape, or is a default. -/

namespace NativeGlue.Datum

variable {α : Type} {shape : Datum → Option α}

/-! ## Written values -/

theorem asOptional?_ofOptional (s : Option String) :
    asOptional? asText? (ofOptional s) = some s := by
  cases s <;> rfl

theorem asList?_map {write : α → Datum} {l : List α} (h : ∀ a ∈ l, shape (write a) = some a) :
    asList? shape (.list (l.map write)) = some l :=
  readAll?_map h

theorem asList?_ofTexts (ss : List String) : asList? asText? (ofTexts ss) = some ss :=
  asList?_map fun _ _ => rfl

theorem asCount?_natCast {n : Nat} (h : n < 4294967296) :
    asCount? (.integer n) = some n := by
  have hrange : (0 : Int) ≤ n ∧ (n : Int) < 4294967296 := by omega
  rw [asCount?, if_pos hrange, Int.toNat_natCast]

/-- A record with nothing but known fields, each of them once. -/
theorem entries?_record {names : List String} {closed : Bool} {fields : List (String × Datum)}
    (hknown : ∀ name ∈ fields.map Prod.fst, name ∈ names)
    (hnodup : (fields.map Prod.fst).Nodup) : entries? names closed (.record fields) = some fields := by
  have hall : (fields.filter fun field => names.contains field.1) = fields := by
    refine List.filter_eq_self.2 fun field hfield => ?_
    rw [List.contains_iff_mem]
    exact hknown _ (List.mem_map_of_mem hfield)
  rw [entries?, hall]
  simp [hnodup]

theorem field?_cons (name n : String) (d : Datum) (rest : List (String × Datum)) :
    field? name ((n, d) :: rest) = if n = name then some d else field? name rest := by
  by_cases h : n = name <;> simp [field?, h]

theorem required?_cons (n : String) (d : Datum) (rest : List (String × Datum)) (name : String) :
    required? ((n, d) :: rest) name shape
      = if n = name then shape d else required? rest name shape := by
  by_cases h : n = name <;> simp [required?, field?_cons, h]

theorem defaulted?_cons (n : String) (d : Datum) (rest : List (String × Datum)) (name : String)
    (default : α) : defaulted? ((n, d) :: rest) name shape default
      = if n = name then shape d else defaulted? rest name shape default := by
  by_cases h : n = name <;> simp [defaulted?, field?_cons, h]

/-! ## Values that were read -/

theorem lt_of_asCount? {d : Datum} {n : Nat} (h : d.asCount? = some n) : n < 4294967296 := by
  cases d with
  | integer i =>
    rw [asCount?] at h
    split at h
    · next hi =>
      obtain rfl := Option.some.inj h
      omega
    · cases h
  | _ => cases h

theorem exists_of_mem_readAll? {items : List Datum} {l : List α}
    (h : readAll? shape items = some l) : ∀ a ∈ l, ∃ d, shape d = some a := by
  induction items generalizing l with
  | nil =>
    obtain rfl := Option.some.inj h
    exact nofun
  | cons d items ih =>
    simp only [readAll?, Option.bind_eq_bind, Option.bind_eq_some_iff, Option.pure_def,
      Option.some.injEq] at h
    obtain ⟨a, ha, rest, hrest, rfl⟩ := h
    exact List.forall_mem_cons.2 ⟨⟨d, ha⟩, ih hrest⟩

theorem exists_of_mem_asList? {d : Datum} {l : List α} (h : asList? shape d = some l) :
    ∀ a ∈ l, ∃ d, shape d = some a := by
  cases d with
  | list items => exact exists_of_mem_readAll? h
  | _ => cases h

theorem exists_of_required? {entries : List (String × Datum)} {name : String} {a : α}
    (h : required? entries name shape = some a) : ∃ d, shape d = some a := by
  obtain ⟨d, -, hd⟩ := Option.bind_eq_some_iff.1 h
  exact ⟨d, hd⟩

/-- A value with a default is the default, or came through its shape. -/
theorem eq_or_exists_of_defaulted? {entries : List (String × Datum)} {name : String}
    {default a : α} (h : defaulted? entries name shape default = some a) :
    a = default ∨ ∃ d, shape d = some a := by
  unfold defaulted? at h
  split at h
  · next d _ => exact .inr ⟨d, h⟩
  · exact .inl (Option.some.inj h).symm

/-- Every item of a list that may be left out came through the shape. -/
theorem exists_of_mem_defaulted? {entries : List (String × Datum)} {name : String} {l : List α}
    (h : defaulted? entries name (asList? shape) [] = some l) : ∀ a ∈ l, ∃ d, shape d = some a := by
  rcases eq_or_exists_of_defaulted? h with rfl | ⟨d, hd⟩
  · exact nofun
  · exact exists_of_mem_asList? hd

end NativeGlue.Datum
