import Mathlib.Data.List.Forall2

/-!
# Steps that may fail

A chain of steps succeeds if each of them does, one on the result of the other. Where the elements
of a list are taken through such steps, the results are related to them one by one.
-/

namespace Looplet

variable {ε α β : Type}

theorem bind_eq_ok {x : Except ε α} {f : α → Except ε β} {b : β} :
    (x >>= f) = .ok b ↔ ∃ a, x = .ok a ∧ f a = .ok b := by
  constructor
  · intro h
    cases x with
    | error e => cases h
    | ok a => exact ⟨a, rfl, h⟩
  · rintro ⟨a, rfl, h⟩
    exact h

theorem bind_eq_error {x : Except ε α} {f : α → Except ε β} {e : ε} :
    (x >>= f) = .error e ↔ x = .error e ∨ ∃ a, x = .ok a ∧ f a = .error e := by
  constructor
  · intro h
    cases x with
    | error e' =>
      cases h
      exact .inl rfl
    | ok a => exact .inr ⟨a, rfl, h⟩
  · rintro (rfl | ⟨a, rfl, h⟩)
    · rfl
    · exact h

theorem pure_eq_ok {a b : α} : (pure a : Except ε α) = .ok b ↔ b = a := by
  constructor
  · intro h
    cases h
    rfl
  · rintro rfl
    rfl

theorem exists_ok {x : Except ε α} (h : x.isOk = true) : ∃ a, x = .ok a := by
  cases x with
  | error e => cases h
  | ok a => exact ⟨a, rfl⟩

/-- The step with its error and its result changed. -/
def mapBoth {ε' : Type} (h : ε → ε') (g : α → β) : Except ε α → Except ε' β
  | .ok a => .ok (g a)
  | .error e => .error (h e)

/-- Steps that are the same when they are changed both succeed or both fail. -/
theorem mapBoth_eq_mapBoth {ε' : Type} {h : ε → ε'} {g : α → β} {x y : Except ε α}
    (heq : mapBoth h g x = mapBoth h g y) :
    (∃ a b, x = .ok a ∧ y = .ok b ∧ g a = g b) ∨
      ∃ d e, x = .error d ∧ y = .error e ∧ h d = h e := by
  cases x <;> cases y <;> simp_all [mapBoth]

/-- Changed steps one after the other are the changed steps in one. -/
theorem mapBoth_bind {ε' α' β' : Type} {h : ε → ε'} {g : α → α'} {k : β → β'} {x : Except ε α}
    {x' : Except ε' α'} {f : α → Except ε β} {f' : α' → Except ε' β'} (hx : x' = mapBoth h g x)
    (hf : ∀ a, x = .ok a → f' (g a) = mapBoth h k (f a)) :
    (x' >>= f') = mapBoth h k (x >>= f) := by
  subst hx
  cases x with
  | error e => rfl
  | ok a => exact hf a rfl

theorem mapError_bind {ε' : Type} (h : ε → ε') (x : Except ε α) (f : α → Except ε β) :
    (x >>= f).mapError h = x.mapError h >>= fun a => (f a).mapError h := by
  cases x <;> rfl

theorem mapError_eq_ok {ε' : Type} {h : ε → ε'} {x : Except ε α} {a : α} :
    x.mapError h = .ok a ↔ x = .ok a := by
  cases x <;> simp [Except.mapError]

@[simp] theorem ok_bind (a : α) (f : α → Except ε β) : (Except.ok a >>= f) = f a := rfl

/-- Steps that give the same if they both succeed. -/
def Concur (x y : Except ε α) : Prop :=
  ∀ a b, x = .ok a → y = .ok b → a = b

theorem Concur.refl (x : Except ε α) : Concur x x := by
  intro a b ha hb
  exact Except.ok.inj (ha.symm.trans hb)

theorem Concur.bind {x y : Except ε α} {f g : α → Except ε β} (h : Concur x y)
    (hfg : ∀ a, Concur (f a) (g a)) : Concur (x >>= f) (y >>= g) := by
  intro b b' hb hb'
  obtain ⟨a, hx, hf⟩ := bind_eq_ok.mp hb
  obtain ⟨a', hy, hg⟩ := bind_eq_ok.mp hb'
  obtain rfl := h a a' hx hy
  exact hfg a b b' hf hg

/-! ## Related lists -/

theorem exists_of_mem_right {R : α → β → Prop} {xs : List α} {ys : List β}
    (h : List.Forall₂ R xs ys) {y : β} (hy : y ∈ ys) : ∃ x ∈ xs, R x y := by
  induction h with
  | nil => cases hy
  | cons hr _ ih =>
    rcases List.mem_cons.mp hy with rfl | hy
    · exact ⟨_, List.mem_cons_self .., hr⟩
    · obtain ⟨x, hx, hr'⟩ := ih hy
      exact ⟨x, List.mem_cons_of_mem _ hx, hr'⟩

theorem exists_of_mem_left {R : α → β → Prop} {xs : List α} {ys : List β}
    (h : List.Forall₂ R xs ys) {x : α} (hx : x ∈ xs) : ∃ y ∈ ys, R x y :=
  exists_of_mem_right (R := flip R) h.flip hx

theorem exists_forall₂_iff {R : α → β → Prop} {xs : List α} :
    (∃ ys, List.Forall₂ R xs ys) ↔ ∀ x ∈ xs, ∃ y, R x y := by
  induction xs with
  | nil => simp
  | cons x xs ih =>
    rw [List.forall_mem_cons, ← ih]
    constructor
    · rintro ⟨ys, h⟩
      obtain ⟨y, ys', hy, hys, rfl⟩ := List.forall₂_cons_left_iff.mp h
      exact ⟨⟨y, hy⟩, ys', hys⟩
    · rintro ⟨⟨y, hy⟩, ys, hys⟩
      exact ⟨y :: ys, .cons hy hys⟩

theorem eq_map_of_forall₂ {R : α → β → Prop} {xs : List α} {ys : List β}
    (h : List.Forall₂ R xs ys) {f : α → β} (hf : ∀ x ∈ xs, ∀ y, R x y → y = f x) :
    ys = xs.map f := by
  induction h with
  | nil => rfl
  | cons hr _ ih =>
    rw [List.forall_mem_cons] at hf
    rw [List.map_cons, hf.1 _ hr, ih hf.2]

/-- Where two relations lead to the same, elements in two orders lead to the same in these
orders. -/
theorem exists_map_of_perm [Nonempty β] {R R' : α → β → Prop} {xs xs' : List α} {ys ys' : List β}
    (h : xs.Perm xs') (hys : List.Forall₂ R xs ys) (hys' : List.Forall₂ R' xs' ys')
    (hsame : ∀ x y y', R x y → R' x y' → y = y') :
    ∃ f : α → β, (∀ x ∈ xs, R x (f x)) ∧ ys = xs.map f ∧ ys' = xs'.map f := by
  have hleft : ∀ x ∈ xs, ∃ y, R x y := exists_forall₂_iff.mp ⟨ys, hys⟩
  have hright : ∀ x ∈ xs', ∃ y, R' x y := exists_forall₂_iff.mp ⟨ys', hys'⟩
  choose! f hf using hleft
  refine ⟨f, hf, eq_map_of_forall₂ hys fun x hx y hy => ?_,
    eq_map_of_forall₂ hys' fun x hx y hy => ?_⟩
  · obtain ⟨y', hy'⟩ := hright x (h.mem_iff.mp hx)
    rw [hsame x y y' hy hy', hsame x (f x) y' (hf x hx) hy']
  · exact (hsame x (f x) y (hf x (h.mem_iff.mpr hx)) hy).symm

/-- What is found does not depend on the order if there is at most one that fits. -/
theorem find?_perm {p : α → Bool} {xs ys : List α} (h : xs.Perm ys)
    (hone : ∀ x ∈ xs, ∀ y ∈ xs, p x = true → p y = true → x = y) : ys.find? p = xs.find? p := by
  cases hx : xs.find? p with
  | none =>
    rw [List.find?_eq_none] at hx ⊢
    exact fun y hy => hx y (h.mem_iff.mpr hy)
  | some x =>
    have hmem := List.mem_of_find?_eq_some hx
    have hp := List.find?_some hx
    cases hy : ys.find? p with
    | none => exact absurd hp (List.find?_eq_none.mp hy x (h.mem_iff.mp hmem))
    | some y =>
      have hmem' := h.mem_iff.mpr (List.mem_of_find?_eq_some hy)
      rw [hone x hmem y hmem' hp (List.find?_some hy)]

end Looplet
