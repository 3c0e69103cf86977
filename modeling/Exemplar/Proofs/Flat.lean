/-
Weights in one list.

The weights of a layer can be kept row by row in one list, where the weight
between input `i` and output `o` stands at `i * outputs + o`.  Here every access
to such a list is checked.  A layer of its shape passes every check, and what
comes out is what comes of its rows.
-/
import Exemplar.Proofs.Logits

namespace Exemplar

variable {α : Type}

/-! ## Loops -/

/-- A loop all of whose steps succeed is the loop of what they come to. -/
theorem foldlM_eq_some {σ τ ε : Type} {step? : σ → ε → Option σ} {step : τ → ε → τ} {f : τ → σ}
    {P : τ → Prop} {xs : List ε} {t : τ} (h : P t)
    (hstep : ∀ t, P t → ∀ x ∈ xs, step? (f t) x = some (f (step t x)) ∧ P (step t x)) :
    xs.foldlM step? (f t) = some (f (xs.foldl step t)) ∧ P (xs.foldl step t) := by
  induction xs generalizing t with
  | nil => exact ⟨rfl, h⟩
  | cons x xs ih =>
    obtain ⟨hfirst, hkept⟩ := hstep t h x List.mem_cons_self
    rw [List.foldlM_cons, hfirst, List.foldl_cons]
    exact ih hkept fun t ht x' hx' => hstep t ht x' (List.mem_cons_of_mem _ hx')

/-- Takes a step that may fail a number of times. -/
def repeat? {σ : Type} (step? : σ → Option σ) : Nat → σ → Option σ
  | 0, s => some s
  | n + 1, s => repeat? step? n s >>= step?

theorem repeat?_eq_some {σ τ : Type} {step? : σ → Option σ} {step : τ → τ} {f : τ → σ}
    {P : τ → Prop} (hstep : ∀ t, P t → step? (f t) = some (f (step t)) ∧ P (step t))
    {t : τ} (h : P t) (n : Nat) :
    repeat? step? n (f t) = some (f (Nat.repeat step n t)) ∧ P (Nat.repeat step n t) := by
  induction n with
  | zero => exact ⟨rfl, h⟩
  | succ n ih =>
    obtain ⟨hsteps, hkept⟩ := ih
    rw [repeat?, hsteps]
    exact hstep _ hkept

/-! ## Lists -/

namespace Flat

variable {row : List α} {kernel : List (List α)} {i : Nat}

/-- The part of a list between two positions. -/
def slice? (xs : List α) (start stop : Nat) : Option (List α) :=
  if start ≤ stop ∧ stop ≤ xs.length then some ((xs.take stop).drop start) else none

/-- Adds numbers to those of a list from a position on. -/
def addAll? [Add α] (xs : List α) (start : Nat) : List α → Option (List α)
  | [] => some xs
  | y :: ys => do
    let x ← xs[start]?
    addAll? (xs.set start (x + y)) (start + 1) ys

/-- Adds a multiple of each weight from a position on to the outputs. -/
def multiply? [Add α] [Mul α] (weights : List α) (start : Nat) (value : α) :
    List α → Option (List α)
  | [] => some []
  | o :: out => do
    let w ← weights[start]?
    return (o + w * value) :: (← multiply? weights (start + 1) value out)

theorem slice?_append (before after : List α) : slice? (before ++ row ++ after) before.length
    (before.length + row.length) = some row := by
  have hstop : before.length + row.length ≤ (before ++ row ++ after).length := by simp
  unfold slice?
  rw [if_pos ⟨Nat.le_add_right _ _, hstop⟩, ← List.length_append, List.take_left, List.drop_left]

theorem addAll?_append [Add α] (before after ys : List α) (h : row.length = ys.length) :
    addAll? (before ++ row ++ after) before.length ys
      = some (before ++ List.zipWith (· + ·) row ys ++ after) := by
  induction ys generalizing before row with
  | nil =>
    rw [List.length_eq_zero_iff.1 h]
    rfl
  | cons y ys ih =>
    cases row with
    | nil => cases h
    | cons x row =>
      have hget : (before ++ x :: row ++ after)[before.length]? = some x := by simp
      have hset : (before ++ x :: row ++ after).set before.length (x + y)
          = (before ++ [x + y]) ++ row ++ after := by simp
      have hnext := ih (before ++ [x + y]) (Nat.succ.inj h)
      rw [List.length_append] at hnext
      rw [addAll?, hget]
      show addAll? _ (before.length + 1) ys = _
      rw [hset]
      refine hnext.trans ?_
      simp

theorem addAll?_zero [Add α] (ys : List α) (h : row.length = ys.length) :
    addAll? row 0 ys = some (List.zipWith (· + ·) row ys) := by
  have hall := addAll?_append [] [] ys h
  rwa [List.nil_append, List.append_nil, List.nil_append, List.append_nil] at hall

theorem multiply?_append [Add α] [Mul α] (before after : List α) (value : α) (out : List α)
    (h : row.length = out.length) :
    multiply? (before ++ row ++ after) before.length value out
      = some (List.zipWith (fun o w => o + w * value) out row) := by
  induction out generalizing before row with
  | nil => rfl
  | cons o out ih =>
    cases row with
    | nil => cases h
    | cons w row =>
      have hget : (before ++ w :: row ++ after)[before.length]? = some w := by simp
      have hnext := ih (before ++ [w]) (Nat.succ.inj h)
      rw [List.length_append, List.append_assoc before, List.singleton_append] at hnext
      rw [multiply?, hget]
      show (do return (o + w * value) :: (← multiply? _ (before.length + 1) value out)) = _
      rw [show before.length + 1 = before.length + [w].length from rfl, hnext]
      rfl

/-- Rows of weights, as many as there are inputs and each as long as there are outputs. -/
structure IsKernel (shape : Nat × Nat) (kernel : List (List α)) : Prop where
  length : kernel.length = shape.1
  row : ∀ row ∈ kernel, row.length = shape.2

variable {shape : Nat × Nat}

theorem IsKernel.modify (h : IsKernel shape kernel) (i : Nat) {f : List α → List α}
    (hf : ∀ row, row.length = shape.2 → (f row).length = shape.2) :
    IsKernel shape (kernel.modify i f) := by
  refine ⟨(List.length_modify ..).trans h.length, fun row hrow => ?_⟩
  obtain ⟨j, hj, rfl⟩ := List.mem_iff_getElem.1 hrow
  rw [List.length_modify] at hj
  have hlength := h.row kernel[j] (List.getElem_mem hj)
  rw [List.getElem_modify]
  split
  · exact hf _ hlength
  · exact hlength

/-- A row of a kernel within the list of all rows. -/
theorem IsKernel.exists_split (h : IsKernel shape kernel) (hi : i < kernel.length) :
    ∃ before after, before.length = i * shape.2 ∧
      kernel.flatten = before ++ kernel[i] ++ after ∧
      ∀ f, (kernel.modify i f).flatten = before ++ f kernel[i] ++ after := by
  obtain ⟨-, hrows⟩ := h
  induction kernel generalizing i with
  | nil => cases hi
  | cons first kernel ih =>
    cases i with
    | zero => exact ⟨[], kernel.flatten, (Nat.zero_mul _).symm, rfl, fun f => rfl⟩
    | succ i =>
      obtain ⟨before, after, hlength, hflatten, hmodify⟩ := ih (Nat.lt_of_succ_lt_succ hi)
        fun row hrow => hrows row (List.mem_cons_of_mem _ hrow)
      refine ⟨first ++ before, after, ?_, ?_, fun f => ?_⟩
      · rw [List.length_append, hlength, hrows first List.mem_cons_self, Nat.succ_mul,
          Nat.add_comm]
      · rw [List.flatten_cons, hflatten, List.getElem_cons_succ]
        simp only [List.append_assoc]
      · rw [List.modify_succ_cons, List.flatten_cons, hmodify, List.getElem_cons_succ]
        simp only [List.append_assoc]

section

variable (h : IsKernel shape kernel) (hi : i < kernel.length)
include h hi

theorem slice?_flatten :
    slice? kernel.flatten (i * shape.2) ((i + 1) * shape.2) = some kernel[i] := by
  obtain ⟨before, after, hlength, hflatten, -⟩ := h.exists_split hi
  have hrow : kernel[i].length = shape.2 := h.row _ (List.getElem_mem hi)
  rw [hflatten, ← hlength, Nat.succ_mul, ← hlength]
  conv_lhs => rw [← hrow]
  exact slice?_append before after

theorem addAll?_flatten [Add α] {ys : List α} (hys : ys.length = shape.2) :
    addAll? kernel.flatten (i * shape.2) ys
      = some (kernel.modify i fun row => List.zipWith (· + ·) row ys).flatten := by
  obtain ⟨before, after, hlength, hflatten, hmodify⟩ := h.exists_split hi
  have hrow : kernel[i].length = ys.length := by rw [hys, h.row _ (List.getElem_mem hi)]
  rw [hmodify, hflatten, ← hlength]
  exact addAll?_append before after ys hrow

theorem multiply?_flatten [Add α] [Mul α] (value : α) {out : List α} (hout : out.length = shape.2) :
    multiply? kernel.flatten (i * shape.2) value out
      = some (List.zipWith (fun o w => o + w * value) out kernel[i]) := by
  obtain ⟨before, after, hlength, hflatten, -⟩ := h.exists_split hi
  have hrow : kernel[i].length = out.length := by rw [hout, h.row _ (List.getElem_mem hi)]
  rw [hflatten, ← hlength]
  exact multiply?_append before after value out hrow

end

end Flat

/-! ## Layers -/

/-- A layer whose weights stand in one list. -/
structure FlatLayer (α : Type) where
  inputs : Nat
  outputs : Nat
  weights : List α
  bias : List α

def FlatLayer.fill (l : FlatLayer α) (value : α) : FlatLayer α :=
  { l with weights := l.weights.map fun _ => value, bias := l.bias.map fun _ => value }

namespace Layer

variable {l : Layer α} {shape : Nat × Nat}

def flat (l : Layer α) : FlatLayer α := ⟨l.inputs, l.outputs, l.weights, l.bias⟩

theorem HasShape.isKernel (h : l.HasShape shape) : Flat.IsKernel shape l.kernel :=
  ⟨h.inputs, fun _ => h.length_row⟩

theorem hasShape_of_isKernel (h : Flat.IsKernel shape l.kernel) (hbias : l.bias.length = shape.2) :
    l.HasShape shape :=
  ⟨List.eq_replicate_iff.2 ⟨(List.length_map _).trans h.length, List.forall_mem_map.2 h.row⟩, hbias⟩

theorem HasShape.flat_eq (h : l.HasShape shape) :
    l.flat = ⟨shape.1, shape.2, l.weights, l.bias⟩ := by
  unfold flat
  rw [h.inputs, h.outputs]

theorem flat_fill (l : Layer α) (value : α) : (l.fill value).flat = l.flat.fill value := by
  unfold flat FlatLayer.fill fill inputs outputs weights
  rw [List.length_map, List.length_map, List.map_flatten]

theorem HasShape.fill (h : l.HasShape shape) (value : α) : (l.fill value).HasShape shape := by
  refine ⟨?_, (List.length_map _).trans h.bias⟩
  show (l.kernel.map (·.map fun _ => value)).map List.length = _
  rw [List.map_map, ← h.kernel]
  exact List.map_congr_left fun row _ => List.length_map _

end Layer

namespace Network

theorem map_flat_fill (network : Network α) (value : α) :
    (network.map Layer.flat).map (·.fill value) = (network.map (·.fill value)).map Layer.flat := by
  rw [List.map_map, List.map_map]
  exact List.map_congr_left fun l _ => (l.flat_fill value).symm

theorem HasShapes.fill {network : Network α} {shapes : List (Nat × Nat)}
    (h : HasShapes shapes network) (value : α) :
    HasShapes shapes (network.map (·.fill value)) :=
  List.forall₂_map_right_iff.2 (h.imp fun _ _ hlayer => hlayer.fill value)

end Network

/-! ## Linear models -/

namespace Linear

variable [Scalar α] {layer : Layer α} {shape : Nat × Nat} {row : List (Nat × α)}

/-- The logits of a row, each weight of which is looked up. -/
def logits? (layer : FlatLayer α) (row : List (Nat × α)) : Option (List α) :=
  row.foldlM (fun out e => Flat.multiply? layer.weights (e.1 * layer.outputs) e.2 out) layer.bias

theorem logits?_eq (h : layer.HasShape shape) (hrow : ∀ e ∈ row, e.1 < shape.1) :
    logits? layer.flat row = some (logits layer row) := by
  have hkernel := h.isKernel
  rw [h.flat_eq]
  refine (foldlM_eq_some (f := id) (P := fun out => out.length = shape.2) h.bias ?_).1
  intro out hout e he
  have hslot : e.1 < layer.kernel.length := by
    rw [hkernel.length]
    exact hrow e he
  have hget : layer.kernel.getD e.1 [] = layer.kernel[e.1] := by
    rw [List.getD_eq_getElem?_getD, List.getElem?_eq_getElem hslot]
    rfl
  constructor
  · dsimp only [id]
    rw [hget]
    exact Flat.multiply?_flatten hkernel hslot e.2 hout
  · dsimp only
    rw [hget, List.length_zipWith, hout, hkernel.row _ (List.getElem_mem hslot), Nat.min_self]

/-- Adds what one row contributes to a gradient, each number of which is looked up. -/
def accumulate? (count : α) (gradient : FlatLayer α) (row : List (Nat × α)) (delta : List α) :
    Option (FlatLayer α) := do
  let bias ← Flat.addAll? gradient.bias 0 (delta.map (· / count))
  let weights ← row.foldlM (fun weights e =>
    Flat.addAll? weights (e.1 * gradient.outputs) (delta.map (· * e.2 / count))) gradient.weights
  return { gradient with weights, bias }

theorem accumulate?_eq {gradient : Layer α} (h : gradient.HasShape shape) (count : α)
    (hrow : ∀ e ∈ row, e.1 < shape.1) {delta : List α} (hdelta : delta.length = shape.2) :
    accumulate? count gradient.flat row delta = some (accumulate count gradient row delta).flat ∧
      (accumulate count gradient row delta).HasShape shape := by
  have hbias : Flat.addAll? gradient.bias 0 (delta.map (· / count))
      = some (accumulate count gradient row delta).bias := by
    rw [Flat.addAll?_zero _ (by rw [h.bias, List.length_map, hdelta]), List.zipWith_map_right]
    rfl
  obtain ⟨hweights, hkernel⟩ : row.foldlM (fun weights e =>
      Flat.addAll? weights (e.1 * shape.2) (delta.map (· * e.2 / count))) gradient.weights
        = some (accumulate count gradient row delta).weights ∧
      Flat.IsKernel shape (accumulate count gradient row delta).kernel := by
    refine foldlM_eq_some (f := List.flatten) h.isKernel ?_
    intro kernel hkernel e he
    constructor
    · have hslot : e.1 < kernel.length := by
        rw [hkernel.length]
        exact hrow e he
      have hadd (r : List α) : List.zipWith (· + ·) r (delta.map (· * e.2 / count))
          = List.zipWith (fun d g => g + d * e.2 / count) delta r := by
        rw [List.zipWith_map_right, List.zipWith_comm]
      rw [Flat.addAll?_flatten hkernel hslot (by rw [List.length_map, hdelta]), funext hadd]
    · exact hkernel.modify e.1 fun r hr => by rw [List.length_zipWith, hdelta, hr, Nat.min_self]
  have hshape : (accumulate count gradient row delta).HasShape shape := by
    refine Layer.hasShape_of_isKernel hkernel ?_
    show (List.zipWith _ gradient.bias delta).length = _
    rw [List.length_zipWith, h.bias, hdelta, Nat.min_self]
  refine ⟨?_, hshape⟩
  rw [h.flat_eq, hshape.flat_eq]
  unfold accumulate?
  dsimp only
  rw [hbias]
  dsimp only [Option.bind_eq_bind, Option.bind_some]
  rw [hweights]
  rfl

/-- The gradient over some rows, if each of them has a gradient of its loss. -/
def gradient? (lossGradient? : List α → α → Option (List α)) (count : α) (layer : FlatLayer α)
    (rows : List (List (Nat × α) × α)) : Option (FlatLayer α) :=
  rows.foldlM (fun total e => do
    let logits ← logits? layer e.1
    let delta ← lossGradient? logits e.2
    accumulate? count total e.1 delta) (layer.fill Scalar.zero)

theorem gradient?_eq {lossGradient? : List α → α → Option (List α)}
    {lossGradient : List α → α → List α} (h : layer.HasShape shape) (count : α)
    {rows : List (List (Nat × α) × α)} (hrows : ∀ e ∈ rows, ∀ slot ∈ e.1, slot.1 < shape.1)
    (hloss : ∀ logits, logits.length = shape.2 → ∀ e ∈ rows,
      lossGradient? logits e.2 = some (lossGradient logits e.2) ∧
        (lossGradient logits e.2).length = shape.2) :
    gradient? lossGradient? count layer.flat rows
      = some (gradient lossGradient count layer rows).flat ∧
      (gradient lossGradient count layer rows).HasShape shape := by
  unfold gradient?
  rw [← Layer.flat_fill]
  refine foldlM_eq_some (h.fill Scalar.zero) ?_
  intro total htotal e he
  obtain ⟨hdelta, hlength⟩ := hloss _ (length_logits h (hrows e he)) e he
  rw [logits?_eq h (hrows e he)]
  dsimp only [Option.bind_eq_bind, Option.bind_some]
  rw [hdelta]
  exact accumulate?_eq htotal count (hrows e he) hlength

end Linear

/-! ## Steps -/

namespace Adagrad

variable {ps gs as ps' gs' as' : List Float}

/-- A step on parameters each of which has its gradient and its accumulator. -/
def step? (rate : Float) (ps gs as : List Float) : Option (List Float × List Float) :=
  if gs.length = ps.length ∧ as.length = ps.length then some (step rate ps gs as) else none

theorem step_append (rate : Float) (hgs : gs.length = ps.length) (has : as.length = ps.length) :
    step rate (ps ++ ps') (gs ++ gs') (as ++ as')
      = ((step rate ps gs as).1 ++ (step rate ps' gs' as').1,
        (step rate ps gs as).2 ++ (step rate ps' gs' as').2) := by
  induction ps generalizing gs as with
  | nil =>
    rw [List.length_eq_zero_iff.1 hgs, List.length_eq_zero_iff.1 has]
    simp only [step, List.nil_append]
  | cons p ps ih =>
    obtain ⟨g, gs, rfl⟩ := List.exists_cons_of_length_eq_add_one hgs
    obtain ⟨a, as, rfl⟩ := List.exists_cons_of_length_eq_add_one has
    simp only [List.cons_append, step, ih (Nat.succ.inj hgs) (Nat.succ.inj has)]

theorem length_step_sums (rate : Float) (ps gs as : List Float) :
    (step rate ps gs as).2.length = as.length := by
  induction ps generalizing gs as with
  | nil => rfl
  | cons p ps ih =>
    unfold step
    split
    · rename_i heq
      cases heq
      exact congrArg (· + 1) (ih _ _)
    · rfl

theorem length_stepRows_sums (rate : Float) (ps gs as : List (List Float)) :
    (stepRows rate ps gs as).2.map List.length = as.map List.length := by
  induction ps generalizing gs as with
  | nil => rfl
  | cons p ps ih =>
    unfold stepRows
    split
    · rename_i heq
      cases heq
      show _ :: _ = _ :: _
      rw [length_step_sums, ih]
    · rfl

/-- A step row by row is a step on all rows at once. -/
theorem step_flatten (rate : Float) {ps gs as : List (List Float)}
    (hgs : gs.map List.length = ps.map List.length)
    (has : as.map List.length = ps.map List.length) :
    step rate ps.flatten gs.flatten as.flatten
      = ((stepRows rate ps gs as).1.flatten, (stepRows rate ps gs as).2.flatten) := by
  induction ps generalizing gs as with
  | nil =>
    rw [List.map_eq_nil_iff.1 hgs, List.map_eq_nil_iff.1 has]
    rfl
  | cons p ps ih =>
    cases gs with
    | nil => cases hgs
    | cons g gs =>
      cases as with
      | nil => cases has
      | cons a as =>
        obtain ⟨hg, hgs⟩ := List.cons.inj hgs
        obtain ⟨ha, has⟩ := List.cons.inj has
        rw [List.flatten_cons, List.flatten_cons, List.flatten_cons, step_append rate hg ha,
          ih hgs has]
        rfl

end Adagrad

section

variable {layer gradient sums : Layer Float} {shape : Nat × Nat}

/-- A step of a layer, each number of which has its gradient and its accumulator. -/
def FlatLayer.descend? (rate : Float) (layer gradient sums : FlatLayer Float) :
    Option (FlatLayer Float × FlatLayer Float) := do
  let weights ← Adagrad.step? rate layer.weights gradient.weights sums.weights
  let bias ← Adagrad.step? rate layer.bias gradient.bias sums.bias
  return ({ layer with weights := weights.1, bias := bias.1 },
    { sums with weights := weights.2, bias := bias.2 })

theorem Layer.HasShape.descend_sums (h : sums.HasShape shape) (rate : Float)
    (layer gradient : Layer Float) : (layer.descend rate gradient sums).2.HasShape shape :=
  ⟨(Adagrad.length_stepRows_sums ..).trans h.kernel, (Adagrad.length_step_sums ..).trans h.bias⟩

theorem Layer.HasShape.descend?_eq (h : layer.HasShape shape) (hgradient : gradient.HasShape shape)
    (hsums : sums.HasShape shape) (rate : Float) :
    layer.flat.descend? rate gradient.flat sums.flat
      = some ((layer.descend rate gradient sums).1.flat,
        (layer.descend rate gradient sums).2.flat) := by
  have hweights : Adagrad.step? rate layer.weights gradient.weights sums.weights
      = some ((layer.descend rate gradient sums).1.weights,
        (layer.descend rate gradient sums).2.weights) := by
    unfold Adagrad.step?
    rw [h.length_weights, hgradient.length_weights, hsums.length_weights, if_pos ⟨rfl, rfl⟩]
    exact congrArg some (Adagrad.step_flatten rate (hgradient.kernel.trans h.kernel.symm)
      (hsums.kernel.trans h.kernel.symm))
  have hbias : Adagrad.step? rate layer.bias gradient.bias sums.bias
      = some ((layer.descend rate gradient sums).1.bias,
        (layer.descend rate gradient sums).2.bias) := by
    unfold Adagrad.step?
    rw [h.bias, hgradient.bias, hsums.bias, if_pos ⟨rfl, rfl⟩]
    rfl
  rw [(h.descend rate gradient sums).flat_eq, (hsums.descend_sums rate layer gradient).flat_eq,
    h.flat_eq, hgradient.flat_eq, hsums.flat_eq]
  unfold FlatLayer.descend?
  dsimp only
  rw [hweights, hbias]
  rfl

end
end Exemplar
