import Mathlib.Data.List.Forall2

/-!
# Traversals that may fail

A list is traversed by a function that may fail, and the first failure ends the traversal. If none
arises, results and elements correspond one to one and in order.
-/

namespace MapperGen

variable {ε ε' α β : Type}

/-! ### Results that are changed -/

theorem map_eq_ok_iff {g : α → β} {r : Except ε α} {b : β} :
    r.map g = .ok b ↔ ∃ a, r = .ok a ∧ g a = b := by
  cases r <;> simp [Except.map]

theorem map_eq_error_iff {g : α → β} {r : Except ε α} {e : ε} :
    r.map g = .error e ↔ r = .error e := by
  cases r <;> simp [Except.map]

theorem mapError_eq_ok_iff {g : ε → ε'} {r : Except ε α} {a : α} :
    r.mapError g = .ok a ↔ r = .ok a := by
  cases r <;> simp [Except.mapError]

theorem mapError_eq_error_iff {g : ε → ε'} {r : Except ε α} {e' : ε'} :
    r.mapError g = .error e' ↔ ∃ e, r = .error e ∧ g e = e' := by
  cases r <;> simp [Except.mapError]

theorem eq_ok_of_toOption {r : Except ε α} {a : α} (h : r.toOption = some a) : r = .ok a := by
  cases r with
  | error e => simp [Except.toOption] at h
  | ok b => simpa [Except.toOption] using h

theorem mapError_map (r : Except ε α) (g : α → β) (h : ε → ε') :
    (r.map g).mapError h = (r.mapError h).map g := by
  cases r <;> rfl

/-! ### Lists -/

variable {f : α → Except ε β}

theorem mapM_cons_eq_ok_iff {x : α} {xs : List α} {ys : List β} :
    (x :: xs).mapM f = .ok ys ↔
      ∃ y rest, f x = .ok y ∧ xs.mapM f = .ok rest ∧ ys = y :: rest := by
  rw [List.mapM_cons]
  cases hx : f x with
  | error e => simp [bind, Except.bind]
  | ok y =>
    cases hxs : xs.mapM f with
    | error e => simp [bind, Except.bind]
    | ok rest => simp [bind, Except.bind, pure, Except.pure, eq_comm]

theorem mapM_cons_eq_error_iff {x : α} {xs : List α} {e : ε} :
    (x :: xs).mapM f = .error e ↔
      f x = .error e ∨ ∃ y, f x = .ok y ∧ xs.mapM f = .error e := by
  rw [List.mapM_cons]
  cases hx : f x with
  | error e => simp [bind, Except.bind]
  | ok y =>
    cases hxs : xs.mapM f with
    | error e => simp [bind, Except.bind]
    | ok rest => simp [bind, Except.bind, pure, Except.pure]

/-- A traversal succeeds if each element has a result; the results stand in the same order. -/
theorem mapM_eq_ok_iff {xs : List α} {ys : List β} :
    xs.mapM f = .ok ys ↔ List.Forall₂ (fun x y => f x = .ok y) xs ys := by
  induction xs generalizing ys with
  | nil => simp [pure, Except.pure, eq_comm]
  | cons x xs ih =>
    rw [mapM_cons_eq_ok_iff, List.forall₂_cons_left_iff]
    constructor
    · rintro ⟨y, rest, hy, hrest, rfl⟩
      exact ⟨y, rest, hy, ih.mp hrest, rfl⟩
    · rintro ⟨y, rest, hy, hrest, rfl⟩
      exact ⟨y, rest, hy, ih.mpr hrest, rfl⟩

/-- What holds of an element and its result alike holds of all elements and all results alike. -/
theorem forall_mem_iff_of_mapM {P : α → Prop} {Q : β → Prop} {xs : List α} {ys : List β}
    (h : xs.mapM f = .ok ys) (hPQ : ∀ x ∈ xs, ∀ y, f x = .ok y → (P x ↔ Q y)) :
    (∀ x ∈ xs, P x) ↔ ∀ y ∈ ys, Q y := by
  rw [mapM_eq_ok_iff] at h
  induction h with
  | nil => simp
  | cons hy _ ih =>
    rw [List.forall_mem_cons] at hPQ
    rw [List.forall_mem_cons, List.forall_mem_cons, hPQ.1 _ hy, ih hPQ.2]

/-- A traversal succeeds exactly if no element fails. -/
theorem exists_mapM_eq_ok_iff {xs : List α} :
    (∃ ys, xs.mapM f = .ok ys) ↔ ∀ x ∈ xs, ∃ y, f x = .ok y := by
  induction xs with
  | nil => simp [pure, Except.pure]
  | cons x xs ih =>
    simp only [mapM_cons_eq_ok_iff, List.forall_mem_cons, ← ih]
    constructor
    · rintro ⟨_, y, rest, hy, hrest, -⟩
      exact ⟨⟨y, hy⟩, rest, hrest⟩
    · rintro ⟨⟨y, hy⟩, rest, hrest⟩
      exact ⟨_, y, rest, hy, hrest, rfl⟩

theorem exists_mem_of_forall₂ {R : α → β → Prop} {xs : List α} {ys : List β}
    (h : List.Forall₂ R xs ys) {y : β} (hy : y ∈ ys) : ∃ x ∈ xs, R x y := by
  induction h with
  | nil => cases hy
  | @cons x y' xs ys hR _ ih =>
    rcases List.mem_cons.mp hy with rfl | hy
    · exact ⟨x, List.mem_cons_self, hR⟩
    · obtain ⟨x', hx', hR'⟩ := ih hy
      exact ⟨x', List.mem_cons_of_mem x hx', hR'⟩

/-- Where related elements have related results, related lists have. -/
theorem exists_mapM_of_forall₂ {R : α → α → Prop} {S : β → β → Prop} {xs xs' : List α}
    {ys : List β} (hRS : ∀ x x' y, R x x' → f x = .ok y → ∃ y', f x' = .ok y' ∧ S y y')
    (h : List.Forall₂ R xs xs') (hys : xs.mapM f = .ok ys) :
    ∃ ys', xs'.mapM f = .ok ys' ∧ List.Forall₂ S ys ys' := by
  rw [mapM_eq_ok_iff] at hys
  induction h generalizing ys with
  | nil =>
    cases hys
    exact ⟨[], rfl, .nil⟩
  | cons hx _ ih =>
    cases hys with
    | cons hy hrest =>
      obtain ⟨y', hy', hS⟩ := hRS _ _ _ hx hy
      obtain ⟨rest', hrest', hSs⟩ := ih hrest
      exact ⟨y' :: rest', mapM_cons_eq_ok_iff.mpr ⟨y', rest', hy', hrest', rfl⟩, .cons hS hSs⟩

/-- The traversal of two lists in a row is the one of the first list and then of the second. -/
theorem mapM_append_eq_ok_iff {xs ys : List α} {zs : List β} :
    (xs ++ ys).mapM f = .ok zs ↔
      ∃ as bs, xs.mapM f = .ok as ∧ ys.mapM f = .ok bs ∧ zs = as ++ bs := by
  rw [List.mapM_append]
  cases hxs : xs.mapM f with
  | error e => simp [bind, Except.bind]
  | ok as =>
    cases hys : ys.mapM f with
    | error e => simp [bind, Except.bind]
    | ok bs => simp [bind, Except.bind, pure, Except.pure, eq_comm]

theorem mapM_append_eq_error_iff {xs ys : List α} {e : ε} :
    (xs ++ ys).mapM f = .error e ↔
      xs.mapM f = .error e ∨ (∃ as, xs.mapM f = .ok as) ∧ ys.mapM f = .error e := by
  rw [List.mapM_append]
  cases hxs : xs.mapM f with
  | error e => simp [bind, Except.bind]
  | ok as =>
    cases hys : ys.mapM f with
    | error e => simp [bind, Except.bind]
    | ok bs => simp [bind, Except.bind, pure, Except.pure]

/-- A traversal fails with the failure of the first element that has one. -/
theorem mapM_eq_error_iff {xs : List α} {e : ε} :
    xs.mapM f = .error e ↔ ∃ before x behind, xs = before ++ x :: behind ∧
      (∀ y ∈ before, ∃ z, f y = .ok z) ∧ f x = .error e := by
  constructor
  · intro h
    induction xs with
    | nil => cases h
    | cons x xs ih =>
      rcases mapM_cons_eq_error_iff.mp h with hx | ⟨z, hz, hxs⟩
      · exact ⟨[], x, xs, rfl, by simp, hx⟩
      · obtain ⟨before, y, behind, rfl, hbefore, hy⟩ := ih hxs
        exact ⟨x :: before, y, behind, rfl, List.forall_mem_cons.mpr ⟨⟨z, hz⟩, hbefore⟩, hy⟩
  · rintro ⟨before, x, behind, rfl, hbefore, hx⟩
    refine mapM_append_eq_error_iff.mpr (.inr ⟨exists_mapM_eq_ok_iff.mpr hbefore, ?_⟩)
    exact mapM_cons_eq_error_iff.mpr (.inl hx)

/-- The failure of a traversal may be changed element by element. -/
theorem mapError_mapM (g : ε → ε') (xs : List α) :
    (xs.mapM f).mapError g = xs.mapM fun x => (f x).mapError g := by
  induction xs with
  | nil => rfl
  | cons x xs ih =>
    rw [List.mapM_cons, List.mapM_cons, ← ih]
    cases f x with
    | error e => rfl
    | ok y => cases xs.mapM f <;> rfl

/-- So may its results. -/
theorem map_mapM {γ : Type} (g : β → γ) (xs : List α) :
    (xs.mapM f).map (List.map g) = xs.mapM fun x => (f x).map g := by
  induction xs with
  | nil => rfl
  | cons x xs ih =>
    rw [List.mapM_cons, List.mapM_cons, ← ih]
    cases f x with
    | error e => rfl
    | ok y => cases xs.mapM f <;> rfl

theorem mapM_eq_of_forall₂ {γ : Type} {f' : γ → Except ε β} {xs : List α} {zs : List γ}
    (h : List.Forall₂ (fun x z => f x = f' z) xs zs) : xs.mapM f = zs.mapM f' := by
  induction h with
  | nil => rfl
  | cons hx _ ih => rw [List.mapM_cons, List.mapM_cons, hx, ih]

/-! ### The first of several faults -/

section FirstFault

variable {γ : Type}

/-- The result is the first of the faults, or no failure if there are none. -/
def StopsAtFirst (r : Except ε β) (faults : List ε) : Prop :=
  ∀ e, r = .error e ↔ faults.head? = some e

theorem StopsAtFirst.ok (b : β) : StopsAtFirst (.ok b : Except ε β) [] := by
  intro e
  simp

theorem StopsAtFirst.error (e : ε) (later : List ε) :
    StopsAtFirst (.error e : Except ε β) (e :: later) := by
  intro e'
  simp

theorem StopsAtFirst.map {r : Except ε β} {faults : List ε} (h : StopsAtFirst r faults)
    (g : β → γ) : StopsAtFirst (r.map g) faults := by
  intro e
  rw [map_eq_error_iff]
  exact h e

theorem StopsAtFirst.mapError {r : Except ε β} {faults : List ε} (h : StopsAtFirst r faults)
    (g : ε → ε') : StopsAtFirst (r.mapError g) (faults.map g) := by
  intro e'
  rw [mapError_eq_error_iff, List.head?_map, Option.map_eq_some_iff]
  constructor
  · rintro ⟨e, he, rfl⟩
    exact ⟨e, (h e).mp he, rfl⟩
  · rintro ⟨e, he, rfl⟩
    exact ⟨e, (h e).mpr he, rfl⟩

/-- A traversal stops at the first fault of the first element that has any. -/
theorem StopsAtFirst.mapM {f : α → Except ε β} {faults : α → List ε} {xs : List α}
    (h : ∀ x ∈ xs, StopsAtFirst (f x) (faults x)) :
    StopsAtFirst (xs.mapM f) (xs.flatMap faults) := by
  induction xs with
  | nil => exact .ok []
  | cons x xs ih =>
    rw [List.forall_mem_cons] at h
    have hx := h.1
    have hxs := ih h.2
    intro e
    rw [mapM_cons_eq_error_iff, List.flatMap_cons, List.head?_append]
    cases hfx : f x with
    | error e₀ =>
      have hhead : (faults x).head? = some e₀ := (hx e₀).mp hfx
      simp [hhead]
    | ok y =>
      have hnone : (faults x).head? = none := by
        cases hhead : (faults x).head? with
        | none => rfl
        | some e₀ =>
          have herror := (hx e₀).mpr hhead
          rw [hfx] at herror
          cases herror
      simp [hnone, hxs e]

end FirstFault

end MapperGen
