/-
Lists that are worked through item by item, each of which may fail.

The work succeeds exactly if it does for every item, and then the results stand in the order of the
items.
-/
import Exemplar.Failure
import Mathlib.Data.List.Forall2

namespace Exemplar

variable {ε α β γ : Type} {f : α → Except ε β} {xs : List α} {ys : List β}

theorem bind_eq_ok_iff {first : Except ε α} {next : α → Except ε β} {b : β} :
    first >>= next = .ok b ↔ ∃ a, first = .ok a ∧ next a = .ok b := by
  cases first with
  | error error => simp [bind, Except.bind]
  | ok a => simp [bind, Except.bind]

theorem map_eq_ok_iff {result : Except ε α} {g : α → β} {b : β} :
    result.map g = .ok b ↔ ∃ a, result = .ok a ∧ b = g a := by
  cases result with
  | error error => simp [Except.map]
  | ok a => simp [Except.map, eq_comm]

theorem map_eq_error_iff {result : Except ε α} {g : α → β} {error : ε} :
    result.map g = .error error ↔ result = .error error := by
  cases result <;> simp [Except.map]

theorem exists_ok_of_isSome {result : Except ε α} (h : result.toOption.isSome = true) :
    ∃ a, result = .ok a := by
  cases result with
  | error error => cases h
  | ok a => exact ⟨a, rfl⟩

theorem exists_ok_of_any {result : Except ε α} {p : α → Bool} (h : result.toOption.any p = true) :
    ∃ a, result = .ok a ∧ p a = true := by
  cases result with
  | error error => cases h
  | ok a => exact ⟨a, rfl, h⟩

theorem mapM_eq_ok_iff : xs.mapM f = .ok ys ↔ List.Forall₂ (fun x y => f x = .ok y) xs ys := by
  induction xs generalizing ys with
  | nil =>
    constructor
    · intro h
      cases h
      exact .nil
    · intro h
      cases h
      rfl
  | cons x xs ih =>
    simp only [List.mapM_cons, bind_eq_ok_iff, ih, List.forall₂_cons_left_iff]
    constructor
    · rintro ⟨y, hy, rest, hrest, heq⟩
      cases heq
      exact ⟨y, rest, hy, hrest, rfl⟩
    · rintro ⟨y, rest, hy, hrest, rfl⟩
      exact ⟨y, hy, rest, hrest, rfl⟩

theorem length_of_mapM (h : xs.mapM f = .ok ys) : ys.length = xs.length :=
  (mapM_eq_ok_iff.1 h).length_eq.symm

theorem mapM_ok_of_forall (h : ∀ x ∈ xs, ∃ y, f x = .ok y) : ∃ ys, xs.mapM f = .ok ys := by
  induction xs with
  | nil => exact ⟨[], rfl⟩
  | cons x xs ih =>
    obtain ⟨y, hy⟩ := h x List.mem_cons_self
    obtain ⟨ys, hys⟩ := ih fun x' hx' => h x' (List.mem_cons_of_mem _ hx')
    exact ⟨y :: ys, mapM_eq_ok_iff.2 (.cons hy (mapM_eq_ok_iff.1 hys))⟩

theorem exists_mapM_iff : (∃ ys, xs.mapM f = .ok ys) ↔ ∀ x ∈ xs, ∃ y, f x = .ok y := by
  refine ⟨?_, mapM_ok_of_forall⟩
  rintro ⟨ys, h⟩
  replace h := mapM_eq_ok_iff.1 h
  induction h with
  | nil => simp
  | cons hxy _ ih => exact List.forall_mem_cons.2 ⟨⟨_, hxy⟩, ih⟩

/-- What holds of each result holds of all. -/
theorem forall_of_mapM {p : β → Prop} (h : xs.mapM f = .ok ys)
    (hp : ∀ x ∈ xs, ∀ y, f x = .ok y → p y) : ∀ y ∈ ys, p y := by
  have hall := mapM_eq_ok_iff.1 h
  clear h
  induction hall with
  | nil => simp
  | cons hxy _ ih =>
    rw [List.forall_mem_cons]
    exact ⟨hp _ List.mem_cons_self _ hxy, ih fun x hx => hp x (List.mem_cons_of_mem _ hx)⟩

/-- The result of an item is one of the results. -/
theorem mem_of_mapM {x : α} {y : β} (h : xs.mapM f = .ok ys) (hx : x ∈ xs) (hy : f x = .ok y) :
    y ∈ ys := by
  have hall := mapM_eq_ok_iff.1 h
  clear h
  induction hall with
  | nil => cases hx
  | @cons x' y' _ _ hxy _ ih =>
    rcases List.mem_cons.1 hx with rfl | hx
    · rw [Except.ok.inj (hy.symm.trans hxy)]
      exact List.mem_cons_self
    · exact List.mem_cons_of_mem _ (ih hx)

/-- Two results of each item stand under each other. -/
theorem forall₂_of_mapM {g : α → Except ε γ} {zs : List γ} (hf : xs.mapM f = .ok ys)
    (hg : xs.mapM g = .ok zs) :
    List.Forall₂ (fun y z => ∃ x ∈ xs, f x = .ok y ∧ g x = .ok z) ys zs := by
  obtain ⟨hlength, hf⟩ := List.forall₂_iff_get.1 (mapM_eq_ok_iff.1 hf)
  obtain ⟨hlength', hg⟩ := List.forall₂_iff_get.1 (mapM_eq_ok_iff.1 hg)
  refine List.forall₂_iff_get.2 ⟨hlength.symm.trans hlength', fun i hi hi' => ?_⟩
  exact ⟨xs.get ⟨i, hlength ▸ hi⟩, List.get_mem .., hf i _ hi, hg i _ hi'⟩

theorem forall₂_zip {R : α → β → Prop} (h : List.Forall₂ R xs ys) :
    List.Forall₂ (fun pair y => pair.2 = y ∧ R pair.1 y) (xs.zip ys) ys := by
  induction h with
  | nil => exact .nil
  | cons hxy _ ih => exact .cons ⟨rfl, hxy⟩ ih

/-- The result for each item. -/
theorem getElem?_of_mapM (h : xs.mapM f = .ok ys) (i : Nat) :
    ys[i]? = xs[i]?.bind fun x => (f x).toOption := by
  have hall := mapM_eq_ok_iff.1 h
  clear h
  induction hall generalizing i with
  | nil => rfl
  | cons hxy _ ih =>
    cases i with
    | zero => simp [hxy, Except.toOption]
    | succ i => simpa using ih i

/-- The results for some of the rows, in any order and any number of times, are those of the
rows. -/
theorem mapM_select {n n' : Nat} {row row' : Nat → α} {s : Fin n' → Fin n}
    (h : ((List.range n).map row).mapM f = .ok ys) (hrow : ∀ j : Fin n', row' j = row (s j)) :
    ∃ ys', ((List.range n').map row').mapM f = .ok ys' ∧ ys'.length = n' ∧
      ∀ j : Fin n', ys'[(j : Nat)]? = ys[(s j : Nat)]? := by
  obtain ⟨hlength, hall⟩ := List.forall₂_iff_get.1 (mapM_eq_ok_iff.1 h)
  rw [List.length_map, List.length_range] at hlength
  have hresult (i : Fin n) : f (row i) = .ok (ys.get (i.cast hlength)) := by
    simpa using hall i (by simp) (hlength ▸ i.isLt)
  refine ⟨List.ofFn fun j => ys.get ((s j).cast hlength), ?_, by simp, fun j => ?_⟩
  · refine mapM_eq_ok_iff.2 (List.forall₂_iff_get.2 ⟨by simp, fun i h₁ h₂ => ?_⟩)
    have hi : i < n' := by simpa using h₁
    simp only [List.get_eq_getElem, List.getElem_map, List.getElem_range, List.getElem_ofFn]
    rw [hrow ⟨i, hi⟩]
    exact hresult (s ⟨i, hi⟩)
  · rw [List.getElem?_eq_getElem (by simp), List.getElem_ofFn]
    exact (List.getElem?_eq_getElem (hlength ▸ (s j).isLt)).symm

end Exemplar
