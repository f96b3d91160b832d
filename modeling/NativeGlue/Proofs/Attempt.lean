import Mathlib.Data.List.Forall2
import NativeGlue.Failure

set_option autoImplicit false

/-! # Attempts

An attempt gives a result or an error. In a row the first error counts, and a list of attempts gives
a list of results, one for each (`mapM_eq_ok_iff`).

Work that is done item by item stops at the first fault. An attempt *reports* a list of items when
it fails exactly for the first of them that has a fault, with the error of that fault (`Reports`).
Attempts in a row report the items of both (`Reports.bind`), and a list of attempts reports the
items of all (`Reports.mapM`). -/

namespace NativeGlue

/-! ## In a row -/

section Row

variable {ε α β : Type} {x : Except ε α} {f : α → Except ε β}

/-- A list of attempts succeeds when each of them does. -/
theorem mapM_eq_ok_iff {items : List α} {results : List β} :
    items.mapM f = .ok results ↔ List.Forall₂ (fun a b => f a = .ok b) items results := by
  induction items generalizing results with
  | nil =>
    simp only [List.mapM_nil, pure, Except.pure, Except.ok.injEq, List.forall₂_nil_left_iff]
    exact eq_comm
  | cons a items ih =>
    simp only [List.mapM_cons, bind_eq_ok, pure, Except.pure, Except.ok.injEq]
    constructor
    · rintro ⟨b, hb, rest, hrest, rfl⟩
      exact .cons hb (ih.1 hrest)
    · intro h
      cases h with
      | cons hb hrest => exact ⟨_, hb, _, ih.2 hrest, rfl⟩

end Row

/-! ## One for each -/

section Each

variable {α β γ : Type} {R : α → β → Prop} {xs : List α} {ys : List β}

/-- Every result is that of some item. -/
theorem exists_of_forall₂ (h : List.Forall₂ R xs ys) {y : β} (hy : y ∈ ys) :
    ∃ x ∈ xs, R x y := by
  induction h with
  | nil => exact absurd hy (by simp)
  | @cons x _ _ _ hfirst _ ih =>
    rcases List.mem_cons.1 hy with rfl | hy
    · exact ⟨x, List.mem_cons_self .., hfirst⟩
    · obtain ⟨a, ha, hay⟩ := ih hy
      exact ⟨a, List.mem_cons_of_mem _ ha, hay⟩

/-- The results of two lists of items are those of the first, followed by those of the second. -/
theorem append_of_forall₂ {xs' : List α} (h : List.Forall₂ R (xs ++ xs') ys) :
    ∃ front back, ys = front ++ back ∧ List.Forall₂ R xs front ∧ List.Forall₂ R xs' back := by
  induction xs generalizing ys with
  | nil => exact ⟨[], ys, rfl, .nil, h⟩
  | cons x xs ih =>
    cases h with
    | cons hfirst hrest =>
      obtain ⟨front, back, rfl, hfront, hback⟩ := ih hrest
      exact ⟨_ :: front, back, rfl, .cons hfirst hfront, hback⟩

/-- Two results of one item are related, when all such results are. -/
theorem forall₂_of_forall₂ {R' : α → γ → Prop} {S : β → γ → Prop} {zs : List γ}
    (hrelated : ∀ x y z, R x y → R' x z → S y z) (h : List.Forall₂ R xs ys)
    (h' : List.Forall₂ R' xs zs) : List.Forall₂ S ys zs := by
  induction h generalizing zs with
  | nil =>
    cases h'
    exact .nil
  | cons hfirst _ ih =>
    cases h' with
    | cons hfirst' hrest' => exact .cons (hrelated _ _ _ hfirst hfirst') (ih hrest')

/-- What results take over from their items, they have in order. -/
theorem map_eq_of_forall₂ {ofItem : α → γ} {ofResult : β → γ}
    (heq : ∀ x y, R x y → ofResult y = ofItem x) (h : List.Forall₂ R xs ys) :
    ys.map ofResult = xs.map ofItem := by
  induction h with
  | nil => rfl
  | cons hfirst _ ih => rw [List.map_cons, List.map_cons, heq _ _ hfirst, ih]

end Each

/-! ## The first fault -/

/-- The fault of the first item that has one. -/
def FirstFault {α ε : Type} (fails : α → ε → Prop) (items : List α) (e : ε) : Prop :=
  ∃ before item after, items = before ++ item :: after
    ∧ (∀ a ∈ before, ∀ e, ¬ fails a e) ∧ fails item e

section FirstFault

variable {α ε : Type} {fails : α → ε → Prop}

theorem not_firstFault_nil {e : ε} : ¬ FirstFault fails [] e := by
  rintro ⟨before, item, after, heq, _⟩
  exact absurd heq (by simp)

theorem firstFault_cons_iff {a : α} {items : List α} {e : ε} :
    FirstFault fails (a :: items) e ↔
      fails a e ∨ (∀ e, ¬ fails a e) ∧ FirstFault fails items e := by
  constructor
  · rintro ⟨before, item, after, heq, hbefore, hitem⟩
    cases before with
    | nil =>
      obtain ⟨rfl, rfl⟩ := List.cons.inj heq
      exact .inl hitem
    | cons b before =>
      obtain ⟨rfl, rfl⟩ := List.cons.inj heq
      obtain ⟨hfirst, hrest⟩ := List.forall_mem_cons.1 hbefore
      exact .inr ⟨hfirst, before, item, after, rfl, hrest, hitem⟩
  · rintro (ha | ⟨ha, before, item, after, rfl, hbefore, hitem⟩)
    · exact ⟨[], a, items, rfl, by simp, ha⟩
    · exact ⟨a :: before, item, after, rfl, List.forall_mem_cons.2 ⟨ha, hbefore⟩, hitem⟩

/-- There is no first fault when there is none. -/
theorem forall_not_firstFault_iff {items : List α} :
    (∀ e, ¬ FirstFault fails items e) ↔ ∀ a ∈ items, ∀ e, ¬ fails a e := by
  induction items with
  | nil => simp [not_firstFault_nil]
  | cons a items ih =>
    simp only [firstFault_cons_iff, not_or, not_and, List.forall_mem_cons, ← ih]
    constructor
    · intro h
      exact ⟨fun e => (h e).1, fun e => (h e).2 fun e => (h e).1⟩
    · intro h e
      exact ⟨h.1 e, fun _ => h.2 e⟩

theorem firstFault_append_iff {xs ys : List α} {e : ε} :
    FirstFault fails (xs ++ ys) e ↔
      FirstFault fails xs e ∨ (∀ a ∈ xs, ∀ e, ¬ fails a e) ∧ FirstFault fails ys e := by
  induction xs with
  | nil => simp [not_firstFault_nil]
  | cons a xs ih =>
    rw [List.cons_append, firstFault_cons_iff, firstFault_cons_iff, ih, List.forall_mem_cons]
    tauto

end FirstFault

/-! ## Reports -/

/-- An attempt fails exactly for the first of some items that has a fault. -/
def Reports {α β ε : Type} (fails : α → ε → Prop) (x : Except ε β) (items : List α) : Prop :=
  ∀ e, x = .error e ↔ FirstFault fails items e

namespace Reports

variable {α β γ ε : Type} {fails : α → ε → Prop}

theorem ok (b : β) : Reports fails (.ok b) [] := by
  intro e
  simp [not_firstFault_nil]

theorem single {x : Except ε β} {a : α} (h : ∀ e, x = .error e ↔ fails a e) :
    Reports fails x [a] := by
  intro e
  rw [h, firstFault_cons_iff]
  simp [not_firstFault_nil]

/-- An attempt succeeds when no item that it reports has a fault. -/
theorem exists_ok_iff {x : Except ε β} {xs : List α} (h : Reports fails x xs) :
    (∃ b, x = .ok b) ↔ ∀ a ∈ xs, ∀ e, ¬ fails a e := by
  rw [← forall_not_firstFault_iff]
  cases x with
  | ok b => exact iff_of_true ⟨b, rfl⟩ fun e => by simp [← h e]
  | error e => exact iff_of_false (by simp) fun hnone => hnone e ((h e).1 rfl)

/-- Attempts in a row report the items of the first and then those of the second. -/
theorem bind {x : Except ε β} {f : β → Except ε γ} {xs ys : List α} (hx : Reports fails x xs)
    (hf : ∀ b, Reports fails (f b) ys) : Reports fails (x >>= f) (xs ++ ys) := by
  intro e
  have hsecond : (∃ b, x = .ok b ∧ f b = .error e) ↔
      (∀ a ∈ xs, ∀ e, ¬ fails a e) ∧ FirstFault fails ys e := by
    rw [← hx.exists_ok_iff, ← exists_and_right]
    exact exists_congr fun b => and_congr_right fun _ => hf b e
  rw [bind_eq_error, firstFault_append_iff, hx e, hsecond]

/-- What becomes of the result afterwards is of no matter. -/
theorem bind_pure {x : Except ε β} {xs : List α} (hx : Reports fails x xs) (g : β → γ) :
    Reports fails (x >>= fun b => pure (g b)) xs := by
  have hpure : ∀ b, Reports fails (pure (g b) : Except ε γ) ([] : List α) := fun b => ok (g b)
  have h := hx.bind hpure
  rwa [List.append_nil] at h

/-- A list of attempts reports the items of each in turn. -/
theorem mapM {δ : Type} {f : δ → Except ε β} {itemsOf : δ → List α}
    (h : ∀ d, Reports fails (f d) (itemsOf d)) (ds : List δ) :
    Reports fails (ds.mapM f) (ds.flatMap itemsOf) := by
  induction ds with
  | nil => exact ok []
  | cons d ds ih =>
    rw [List.mapM_cons, List.flatMap_cons]
    exact (h d).bind fun b => ih.bind_pure (b :: ·)

end Reports

end NativeGlue
