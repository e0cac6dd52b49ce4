/-
Computations that can fail, taken apart: what a computation that succeeded is made of, and when two computations
that are built alike come to the same (`AgreeOn`).
-/
import Mathlib.Tactic

namespace ApiScaffold

theorem except_bind_ok {ε α β : Type} {x : Except ε α} {f : α → Except ε β} {b : β}
    (h : x.bind f = .ok b) : ∃ a, x = .ok a ∧ f a = .ok b := by
  rcases x with e | a
  · cases h
  · exact ⟨a, rfl, h⟩

theorem except_map_ok {ε α β : Type} {x : Except ε α} {f : α → β} {b : β}
    (h : x.map f = .ok b) : ∃ a, x = .ok a ∧ f a = b := by
  rcases x with e | a
  · cases h
  · exact ⟨a, rfl, by simpa [Except.map] using h⟩

theorem except_mapError_ok {ε ε' α : Type} {x : Except ε α} {f : ε → ε'} {a : α}
    (h : x.mapError f = .ok a) : x = .ok a := by
  rcases x with e | b
  · cases h
  · cases h
    rfl

theorem except_isOk {ε α : Type} {x : Except ε α} (h : x.isOk = true) : ∃ a, x = .ok a := by
  rcases x with e | a
  · cases h
  · exact ⟨a, rfl⟩

/-- A computation of whose result something is known has a result. -/
theorem except_toOption_map {ε α β : Type} {x : Except ε α} {f : α → β} {b : β} (h : x.toOption.map f = some b) :
    ∃ a, x = .ok a ∧ f a = b := by
  rcases x with e | a
  · cases h
  · exact ⟨a, rfl, Option.some.inj h⟩

/-- A traversal that succeeded succeeded on every element. -/
theorem except_mapM_ok {ε α β : Type} {f : α → Except ε β} :
    ∀ {xs : List α} {ys : List β}, xs.mapM f = .ok ys → List.Forall₂ (fun x y => f x = .ok y) xs ys
  | [], ys, h => by
    cases h
    exact .nil
  | x :: xs, ys, h => by
    rw [List.mapM_cons] at h
    obtain ⟨y, hy, h⟩ := except_bind_ok h
    obtain ⟨ys', hys, h⟩ := except_bind_ok h
    cases h
    exact .cons hy (except_mapM_ok hys)

/-- Every element of a list has its partner in a list that is related to it element by element. -/
theorem forall₂_exists {α β : Type} {R : α → β → Prop} {xs : List α} {ys : List β} (h : List.Forall₂ R xs ys) {x : α}
    (hx : x ∈ xs) : ∃ y ∈ ys, R x y := by
  induction h with
  | nil => cases hx
  | @cons z y xs ys hz _ ih =>
    rcases List.mem_cons.1 hx with rfl | hx
    · exact ⟨y, List.mem_cons_self .., hz⟩
    · obtain ⟨y', hy', hr⟩ := ih hx
      exact ⟨y', List.mem_cons_of_mem _ hy', hr⟩

theorem except_mapM_exists {ε α β : Type} {f : α → Except ε β} {xs : List α} {ys : List β} (h : xs.mapM f = .ok ys)
    {x : α} (hx : x ∈ xs) : ∃ y ∈ ys, f x = .ok y := forall₂_exists (except_mapM_ok h) hx

theorem except_mapM_mem {ε α β : Type} {f : α → Except ε β} {xs : List α} {ys : List β} (h : xs.mapM f = .ok ys)
    {y : β} : y ∈ ys ↔ ∃ x ∈ xs, f x = .ok y := by
  constructor
  · exact forall₂_exists (except_mapM_ok h).flip
  · rintro ⟨x, hx, hy⟩
    obtain ⟨y', hy', heq⟩ := except_mapM_exists h hx
    rw [hy] at heq
    cases heq
    exact hy'

/-- A traversal succeeds where every element has its result. -/
theorem except_mapM_of_forall₂ {ε α β : Type} {f : α → Except ε β} {xs : List α} {ys : List β}
    (h : List.Forall₂ (fun x y => f x = .ok y) xs ys) : xs.mapM f = .ok ys := by
  induction h with
  | nil => rfl
  | cons hx _ ih =>
    rw [List.mapM_cons, hx, ih]
    rfl

/-- Reordering a list on which a traversal succeeds reorders the results. -/
theorem except_mapM_perm {ε α β : Type} {f : α → Except ε β} {xs xs' : List α} {ys : List β} (h : xs.mapM f = .ok ys)
    (perm : xs.Perm xs') : ∃ ys', xs'.mapM f = .ok ys' ∧ ys.Perm ys' := by
  obtain ⟨ys', hys', hperm⟩ := List.perm_comp_forall₂ perm.symm (except_mapM_ok h)
  exact ⟨ys', except_mapM_of_forall₂ hys', hperm.symm⟩

/-! ## Two computations side by side -/

/-- Both computations fail with the same error, or both succeed with results that are the same through `f`. -/
def AgreeOn {ε α γ : Type} (f : α → γ) (x y : Except ε α) : Prop := x.map f = y.map f

section

variable {ε α β γ δ : Type} {f : α → γ} {g : β → δ}

theorem AgreeOn.refl (x : Except ε α) : AgreeOn f x x := rfl

theorem AgreeOn.ok {a b : α} (h : f a = f b) : AgreeOn f (.ok a : Except ε α) (.ok b) := congrArg Except.ok h

theorem AgreeOn.eq {f : α → α} {x y : Except ε α} (h : AgreeOn f x y) (hf : f = id) : x = y := by
  subst hf
  rcases x with e | a <;> rcases y with e' | b <;> cases h <;> rfl

theorem AgreeOn.cases {x y : Except ε α} (h : AgreeOn f x y) :
    (∃ e, x = .error e ∧ y = .error e) ∨ ∃ a b, x = .ok a ∧ y = .ok b ∧ f a = f b := by
  rcases x with e | a <;> rcases y with e' | b
  · cases h
    exact .inl ⟨e, rfl, rfl⟩
  · cases h
  · cases h
  · exact .inr ⟨a, b, rfl, rfl, Except.ok.inj h⟩

theorem AgreeOn.bind {x y : Except ε α} {k l : α → Except ε β} (h : AgreeOn f x y)
    (next : ∀ a b, f a = f b → AgreeOn g (k a) (l b)) : AgreeOn g (x >>= k) (y >>= l) := by
  obtain ⟨e, rfl, rfl⟩ | ⟨a, b, rfl, rfl, hab⟩ := h.cases
  · rfl
  · exact next a b hab

/-- Computations that begin with the same one. -/
theorem AgreeOn.bind_same {x : Except ε α} {k l : α → Except ε β} (next : ∀ a, AgreeOn g (k a) (l a)) :
    AgreeOn g (x >>= k) (x >>= l) :=
  AgreeOn.bind (f := id) (.refl x) fun a b hab => by cases hab; exact next a

theorem AgreeOn.map {x y : Except ε α} {k l : α → β} (h : AgreeOn f x y) (next : ∀ a b, f a = f b → g (k a) = g (l b)) :
    AgreeOn g (x.map k) (y.map l) := by
  obtain ⟨e, rfl, rfl⟩ | ⟨a, b, rfl, rfl, hab⟩ := h.cases
  · rfl
  · exact .ok (next a b hab)

theorem agreeOn_mapM {k l : α → Except ε β} (h : ∀ a, AgreeOn g (k a) (l a)) :
    ∀ xs : List α, AgreeOn (List.map g) (xs.mapM k) (xs.mapM l)
  | [] => rfl
  | x :: xs => by
    rw [List.mapM_cons, List.mapM_cons]
    refine (h x).bind fun a b hab => (agreeOn_mapM h xs).bind fun as bs habs => ?_
    exact .ok (by rw [List.map_cons, List.map_cons, hab, habs])

end

end ApiScaffold
