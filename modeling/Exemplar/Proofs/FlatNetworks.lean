/-
Networks whose layers keep their weights in one list.

The layers, what goes into them and what their gradients come to are lists beside one another, and a
layer's number is its position in all of them.  Here every such position and every position of a
weight is checked, on the way forward, on the way back and in a step.  For a network of its shape
all of them are there.
-/
import Exemplar.Proofs.Flat

namespace Exemplar

variable {α : Type}

/-! ## Positions -/

theorem zip_eq_map_zipIdx {β : Type} (fallback : β) (xs : List α) {ys : List β}
    (h : xs.length = ys.length) :
    xs.zip ys = xs.zipIdx.map fun e => (e.1, ys.getD e.2 fallback) := by
  refine List.ext_getElem (by simp [h]) fun i hi hi' => ?_
  have hlt : i < ys.length := by
    rw [List.length_zip, h, Nat.min_self] at hi
    exact hi
  simp [List.getElem?_eq_getElem hlt]

theorem mapM_eq_some {β : Type} {f : α → Option β} {g : α → β} {xs : List α}
    (h : ∀ x ∈ xs, f x = some (g x)) : xs.mapM f = some (xs.map g) := by
  induction xs with
  | nil => rfl
  | cons x xs ih =>
    rw [List.mapM_cons, h x List.mem_cons_self, ih fun y hy => h y (List.mem_cons_of_mem _ hy)]
    rfl

/-- Changing each number of a list where it stands. -/
theorem foldl_modify {β : Type} (f : α → β → β) (xs : List α) (before : List β) {ys : List β}
    (h : xs.length = ys.length) :
    (xs.zipIdx before.length).foldl (fun rows e => rows.modify e.2 (f e.1)) (before ++ ys)
      = before ++ List.zipWith f xs ys := by
  induction xs generalizing before ys with
  | nil =>
    rw [List.length_eq_zero_iff.1 h.symm]
    rfl
  | cons x xs ih =>
    obtain ⟨y, ys, rfl⟩ := List.exists_cons_of_length_eq_add_one h.symm
    have hmodify : (before ++ y :: ys).modify before.length (f x)
        = (before ++ [f x y]) ++ ys := by
      rw [List.append_assoc, List.modify_eq_take_cons_drop (by simp)]
      simp
    have hrest := ih (before ++ [f x y]) (Nat.succ.inj h)
    rw [List.length_append] at hrest
    rw [List.zipIdx_cons, List.foldl_cons, hmodify]
    exact hrest.trans (by simp)

namespace Network

variable [Scalar α] {layer : Layer α} {shape : Nat × Nat} {x delta : List α}

/-! ## Forward -/

/-- The outputs of a layer, each row of which is cut out of its weights. -/
def forward? (layer : FlatLayer α) (x : List α) : Option (List α) :=
  x.zipIdx.foldlM (fun out e =>
    if Scalar.isZero e.1 then some out
    else do
      let row ← Flat.slice? layer.weights (e.2 * layer.outputs) ((e.2 + 1) * layer.outputs)
      return Layer.addRow out e.1 row) layer.bias

theorem forward?_eq (h : layer.HasShape shape) (hx : x.length = shape.1) :
    forward? layer.flat x = some (forward layer x) := by
  have hkernel := h.isKernel
  have hfold : forward layer x = x.zipIdx.foldl (fun out e =>
      if Scalar.isZero e.1 then out
      else Layer.addRow out e.1 (layer.kernel.getD e.2 [])) layer.bias := by
    unfold forward
    rw [zip_eq_map_zipIdx [] x (hx.trans hkernel.length.symm), List.foldl_map]
  rw [hfold, h.flat_eq]
  refine (foldlM_eq_some (f := id) (P := fun _ => True) trivial ?_).1
  intro out _ e he
  refine ⟨?_, trivial⟩
  have hi : e.2 < layer.kernel.length := by
    rw [hkernel.length, ← hx]
    exact List.snd_lt_of_mem_zipIdx he
  dsimp only [id]
  split
  · rfl
  · rw [show layer.weights = layer.kernel.flatten from rfl, Flat.slice?_flatten hkernel hi,
      List.getD_eq_getElem?_getD, List.getElem?_eq_getElem hi]
    rfl

/-- What goes into each layer, and last the logits. -/
def activations : Network α → List α → List (List α)
  | [], x => [x]
  | [last], x => [x, forward last x]
  | layer :: next :: rest, x =>
    x :: activations (next :: rest) ((forward layer x).map Scalar.rectify)

/-- Adds what comes of a layer, one of `count`, whose input is found under its number. -/
def activate? (count : Nat) (found : List (List α)) (e : FlatLayer α × Nat) :
    Option (List (List α)) := do
  let input ← found[e.2]?
  let z ← forward? e.1 input
  return found ++ [if e.2 + 1 < count then z.map Scalar.rectify else z]

def activations? (layers : List (FlatLayer α)) (x : List α) : Option (List (List α)) :=
  layers.zipIdx.foldlM (activate? layers.length) [x]

theorem getLast?_activations (network : Network α) (x : List α) :
    (activations network x).getLast? = some (logits network x) := by
  induction network generalizing x with
  | nil => rfl
  | cons layer rest ih =>
    cases rest with
    | nil => rfl
    | cons next rest =>
      rw [activations, logits, ← ih]
      cases h : activations (next :: rest) ((forward layer x).map Scalar.rectify) with
      | nil =>
        have hnone := ih ((forward layer x).map Scalar.rectify)
        rw [h] at hnone
        cases hnone
      | cons first others => rw [List.getLast?_cons_cons]

theorem activate?_eq (h : layer.HasShape shape) (hx : x.length = shape.1)
    {before : List (List α)} {count : Nat} :
    activate? count (before ++ [x]) (layer.flat, before.length)
      = some (before ++ [x] ++ [if before.length + 1 < count then
          (forward layer x).map Scalar.rectify else forward layer x]) := by
  have hget : (before ++ [x])[before.length]? = some x := by simp
  unfold activate?
  dsimp only
  rw [hget]
  dsimp only [Option.bind_eq_bind, Option.bind_some]
  rw [forward?_eq h hx]
  rfl

variable {network : Network α} {inputs : Nat} {sizes : List Nat}

theorem foldlM_activate? (h : HasShapes (NetworkModel.shapes inputs sizes) network)
    (hx : x.length = inputs) (before : List (List α)) {count : Nat}
    (hcount : before.length + network.length = count) :
    ((network.map Layer.flat).zipIdx before.length).foldlM (activate? count) (before ++ [x])
      = some (before ++ activations network x) := by
  induction sizes generalizing inputs network x before with
  | nil =>
    cases h
    rfl
  | cons size sizes ih =>
    cases h with
    | @cons _ layer _ rest hlayer hrest =>
      rw [List.map_cons, List.zipIdx_cons, List.foldlM_cons, activate?_eq hlayer hx]
      dsimp only [Option.bind_eq_bind, Option.bind_some]
      rw [List.length_cons] at hcount
      cases rest with
      | nil =>
        rw [if_neg (by simp at hcount; omega)]
        simp [activations]
      | cons next more =>
        rw [List.length_cons] at hcount
        have hactive : ((forward layer x).map Scalar.rectify).length = size :=
          (List.length_map _).trans (length_forward hlayer x)
        have hnext := ih hrest hactive (before ++ [x]) (by simp; omega)
        rw [List.length_append, List.length_singleton] at hnext
        rw [if_pos (by omega), hnext, activations, List.append_assoc, List.singleton_append]

theorem activations?_eq (h : HasShapes (NetworkModel.shapes inputs sizes) network)
    (hx : x.length = inputs) :
    activations? (network.map Layer.flat) x = some (activations network x) :=
  foldlM_activate? h hx [] (by simp)

/-! ## Backward -/

/-- Adds what one row contributes to a layer's gradient, each number of which is looked up. -/
def accumulate? (count : α) (gradient : FlatLayer α) (input delta : List α) :
    Option (FlatLayer α) := do
  let weights ← input.zipIdx.foldlM (fun weights e =>
    if Scalar.isZero e.1 then some weights
    else Flat.addAll? weights (e.2 * gradient.outputs) (delta.map (e.1 * · / count)))
    gradient.weights
  return { gradient with
    weights, bias := List.zipWith (fun g d => g + d / count) gradient.bias delta }

theorem accumulate?_eq {gradient : Layer α} (h : gradient.HasShape shape) (count : α)
    (hx : x.length = shape.1) (hdelta : delta.length = shape.2) :
    accumulate? count gradient.flat x delta = some (accumulate count gradient x delta).flat ∧
      (accumulate count gradient x delta).HasShape shape := by
  have hfold : (accumulate count gradient x delta).kernel
      = x.zipIdx.foldl (fun kernel e => kernel.modify e.2 fun row =>
          if Scalar.isZero e.1 then row
          else List.zipWith (fun g d => g + e.1 * d / count) row delta) gradient.kernel :=
    (foldl_modify _ x [] (hx.trans h.isKernel.length.symm)).symm
  obtain ⟨hweights, hkernel⟩ : x.zipIdx.foldlM (fun weights e =>
      if Scalar.isZero e.1 then some weights
      else Flat.addAll? weights (e.2 * shape.2) (delta.map (e.1 * · / count))) gradient.weights
        = some (accumulate count gradient x delta).weights ∧
      Flat.IsKernel shape (accumulate count gradient x delta).kernel := by
    unfold Layer.weights
    rw [hfold]
    refine foldlM_eq_some (f := List.flatten) h.isKernel ?_
    intro kernel hkernel e he
    have hi : e.2 < kernel.length := by
      rw [hkernel.length, ← hx]
      exact List.snd_lt_of_mem_zipIdx he
    by_cases hzero : Scalar.isZero e.1 = true
    · simp only [hzero, if_true]
      rw [show (fun row : List α => row) = id from rfl, List.modify_id]
      exact ⟨rfl, hkernel⟩
    · simp only [hzero, if_false, Bool.false_eq_true]
      constructor
      · rw [Flat.addAll?_flatten hkernel hi (by rw [List.length_map, hdelta])]
        simp only [List.zipWith_map_right]
      · exact hkernel.modify e.2 fun row hrow => by
          rw [List.length_zipWith, hdelta, hrow, Nat.min_self]
  have hshape : (accumulate count gradient x delta).HasShape shape := by
    refine Layer.hasShape_of_isKernel hkernel ?_
    show (List.zipWith _ gradient.bias delta).length = _
    rw [List.length_zipWith, h.bias, hdelta, Nat.min_self]
  refine ⟨?_, hshape⟩
  rw [h.flat_eq, hshape.flat_eq]
  unfold accumulate?
  dsimp only
  rw [hweights]
  rfl

/-- The gradient with respect to a layer's inputs, each of which is looked up. -/
def propagate? (layer : FlatLayer α) (input delta : List α) : Option (List α) :=
  (List.range layer.inputs).mapM fun i => do
    let xi ← input[i]?
    if Scalar.isPositive xi then
      let row ← Flat.slice? layer.weights (i * layer.outputs) ((i + 1) * layer.outputs)
      return Scalar.dot row delta
    else return Scalar.zero

theorem length_propagate (h : layer.HasShape shape) (hx : x.length = shape.1) :
    (propagate layer x delta).length = shape.1 := by
  unfold propagate
  rw [List.length_zipWith, hx, h.isKernel.length, Nat.min_self]

theorem propagate?_eq (h : layer.HasShape shape) (hx : x.length = shape.1) :
    propagate? layer.flat x delta = some (propagate layer x delta) := by
  have hkernel := h.isKernel
  have hrange : propagate layer x delta = (List.range shape.1).map fun i =>
      if Scalar.isPositive (x.getD i Scalar.zero) then Scalar.dot (layer.kernel.getD i []) delta
      else Scalar.zero := by
    refine List.ext_getElem ?_ fun i hi hi' => ?_
    · rw [length_propagate h hx, List.length_map, List.length_range]
    · have hlt : i < shape.1 := by rwa [length_propagate h hx] at hi
      have hxi : i < x.length := by rwa [hx]
      have hrow : i < layer.kernel.length := by rwa [hkernel.length]
      simp [propagate, List.getElem?_eq_getElem hxi, List.getElem?_eq_getElem hrow]
  unfold propagate?
  rw [hrange, h.flat_eq]
  refine mapM_eq_some fun i hi => ?_
  have hlt : i < shape.1 := List.mem_range.1 hi
  have hxi : i < x.length := by rwa [hx]
  have hrow : i < layer.kernel.length := by rwa [hkernel.length]
  dsimp only
  rw [List.getElem?_eq_getElem hxi, show layer.weights = layer.kernel.flatten from rfl,
    Flat.slice?_flatten hkernel hrow, List.getD_eq_getElem?_getD, List.getElem?_eq_getElem hxi,
    List.getD_eq_getElem?_getD, List.getElem?_eq_getElem hrow]
  dsimp only [Option.bind_eq_bind, Option.bind_some, Option.getD_some]
  split
  · rfl
  · rfl

/-- Takes a layer on the way back: adds to its gradient, which is found under its number like its
input, and goes on to what lies before it, if anything does. -/
def back? (count : α) (inputs : List (List α)) (e : FlatLayer α × Nat)
    (state : List (FlatLayer α) × List α) : Option (List (FlatLayer α) × List α) := do
  let input ← inputs[e.2]?
  let gradient ← state.1[e.2]?
  let gradients := state.1.set e.2 (← accumulate? count gradient input state.2)
  if e.2 = 0 then return (gradients, state.2)
  return (gradients, ← propagate? e.1 input state.2)

theorem back?_eq {total : Layer α} (h : layer.HasShape shape) (htotal : total.HasShape shape)
    (count : α) (hx : x.length = shape.1) (hdelta : delta.length = shape.2)
    {inputs : List (List α)} {before after : List (FlatLayer α)}
    (hinput : inputs[before.length]? = some x) :
    back? count inputs (layer.flat, before.length) (before ++ total.flat :: after, delta)
      = some (before ++ (accumulate count total x delta).flat :: after,
        if before.length = 0 then delta else propagate layer x delta) := by
  have hget : (before ++ total.flat :: after)[before.length]? = some total.flat := by simp
  unfold back?
  dsimp only
  rw [hinput, hget]
  dsimp only [Option.bind_eq_bind, Option.bind_some]
  rw [(accumulate?_eq htotal count hx hdelta).1, propagate?_eq h hx]
  dsimp only [Option.bind_some]
  rw [List.set_append_right _ _ (Nat.le_refl _), Nat.sub_self, List.set_cons_zero]
  split
  · rfl
  · rfl

/-- The gradient with respect to the outputs of the first layer. -/
def firstDelta (lossGradient : List α → List α) (network : Network α) (x : List α) : List α :=
  ((backpropagate lossGradient network x).head?.map (·.2)).getD []

theorem length_firstDelta {lossGradient : List α → List α} {size last : Nat}
    (hloss : ∀ logits, logits.length = last → (lossGradient logits).length = last)
    (h : HasShapes (NetworkModel.shapes inputs (sizes ++ [last])) network)
    (hsize : (sizes ++ [last]).head? = some size) (x : List α) :
    (firstDelta lossGradient network x).length = size := by
  cases sizes with
  | nil =>
    cases hsize
    cases h with
    | cons hlayer hrest =>
      cases hrest with
      | nil => exact hloss _ (length_forward hlayer x)
  | cons first sizes =>
    cases hsize
    cases h with
    | @cons _ layer _ rest hlayer hrest =>
      cases rest with
      | nil => cases sizes <;> cases hrest
      | cons next more =>
        have hnext : ∃ outputs, next.HasShape (size, outputs) := by
          cases sizes with
          | nil =>
            cases hrest with
            | cons hnext _ => exact ⟨_, hnext⟩
          | cons second sizes =>
            cases hrest with
            | cons hnext _ => exact ⟨_, hnext⟩
        obtain ⟨outputs, hnext⟩ := hnext
        exact length_propagate hnext ((List.length_map _).trans (length_forward hlayer x))

/-- On the way back every layer adds its part to its gradient. -/
theorem foldrM_back? {lossGradient : List α → List α} {last : Nat} (count : α)
    (hloss : ∀ logits, logits.length = last → (lossGradient logits).length = last)
    (h : HasShapes (NetworkModel.shapes inputs (sizes ++ [last])) network)
    {totals : List (Layer α)}
    (htotals : HasShapes (NetworkModel.shapes inputs (sizes ++ [last])) totals)
    (hx : x.length = inputs) (before : List (List α)) (earlier : List (FlatLayer α))
    (hbefore : before.length = earlier.length) :
    ((network.map Layer.flat).zipIdx earlier.length).foldrM
        (back? count (before ++ activations network x))
        (earlier ++ totals.map Layer.flat, lossGradient (logits network x))
      = some (earlier ++ (List.zipWith (fun g (e : List α × List α) => accumulate count g e.1 e.2)
          totals (backpropagate lossGradient network x)).map Layer.flat,
        if earlier.length = 0 then firstDelta lossGradient network x
        else propagate (network.headD ⟨[], []⟩) x (firstDelta lossGradient network x)) := by
  induction sizes generalizing inputs network totals x before earlier with
  | nil =>
    cases h with
    | @cons _ layer _ rest hlayer hrest =>
      cases hrest
      cases htotals with
      | @cons _ total _ rest htotal hrest =>
        cases hrest
        have hinput : (before ++ activations [layer] x)[earlier.length]? = some x := by
          rw [← hbefore]
          simp [activations]
        show List.foldrM _ _ [(layer.flat, earlier.length)] = _
        rw [List.foldrM_cons]
        exact back?_eq hlayer htotal count hx (hloss _ (length_forward hlayer x)) hinput
  | cons size sizes ih =>
    have hdelta := length_firstDelta hloss h rfl x
    cases h with
    | @cons _ layer _ rest hlayer hrest =>
      cases htotals with
      | @cons _ total _ totals htotal htotals =>
        cases rest with
        | nil => cases sizes <;> cases hrest
        | cons next more =>
          have hinput : (before ++ activations (layer :: next :: more) x)[earlier.length]?
              = some x := by
            rw [← hbefore]
            simp [activations]
          have hactive : ((forward layer x).map Scalar.rectify).length = size :=
            (List.length_map _).trans (length_forward hlayer x)
          have hrestBack := ih hrest htotals hactive (before ++ [x]) (earlier ++ [total.flat])
            (by simp [hbefore])
          rw [List.length_append, List.length_singleton, if_neg (Nat.succ_ne_zero _),
            List.append_assoc, List.append_assoc, List.append_assoc] at hrestBack
          show List.foldrM _ _ ((layer.flat, earlier.length) ::
            ((next :: more).map Layer.flat).zipIdx (earlier.length + 1)) = _
          rw [List.foldrM_cons]
          rw [show before ++ activations (layer :: next :: more) x = before ++ ([x] ++
            activations (next :: more) ((forward layer x).map Scalar.rectify)) from rfl] at hinput ⊢
          refine (congrArg (· >>= _) hrestBack).trans ?_
          exact back?_eq hlayer htotal count hx hdelta hinput

theorem HasShapes.accumulate {lossGradient : List α → List α} {last : Nat} (count : α)
    (hloss : ∀ logits, logits.length = last → (lossGradient logits).length = last)
    (h : HasShapes (NetworkModel.shapes inputs (sizes ++ [last])) network)
    {totals : List (Layer α)}
    (htotals : HasShapes (NetworkModel.shapes inputs (sizes ++ [last])) totals)
    (hx : x.length = inputs) :
    HasShapes (NetworkModel.shapes inputs (sizes ++ [last]))
      (List.zipWith (fun g (e : List α × List α) => Network.accumulate count g e.1 e.2) totals
        (backpropagate lossGradient network x)) := by
  induction sizes generalizing inputs network totals x with
  | nil =>
    cases h with
    | @cons _ layer _ rest hlayer hrest =>
      cases hrest
      cases htotals with
      | cons htotal hrest =>
        cases hrest
        have hdelta := hloss _ (length_forward hlayer x)
        exact .cons (accumulate?_eq htotal count hx hdelta).2 .nil
  | cons size sizes ih =>
    have hdelta := length_firstDelta hloss h rfl x
    cases h with
    | @cons _ layer _ rest hlayer hrest =>
      cases htotals with
      | cons htotal htotals =>
        cases rest with
        | nil => cases sizes <;> cases hrest
        | cons next more =>
          exact .cons (accumulate?_eq htotal count hx hdelta).2 (ih hrest htotals
            ((List.length_map _).trans (length_forward hlayer x)))

/-- The gradient over some rows, if each of them has a gradient of its loss. -/
def gradient? (lossGradient? : List α → α → Option (List α)) (count : α)
    (layers : List (FlatLayer α)) (rows : List (List α × α)) : Option (List (FlatLayer α)) :=
  rows.foldlM (fun total e => do
    let found ← activations? layers e.1
    let logits ← found.getLast?
    let delta ← lossGradient? logits e.2
    let state ← layers.zipIdx.foldrM (back? count found) (total, delta)
    return state.1) (layers.map (·.fill Scalar.zero))

theorem gradient?_eq {lossGradient? : List α → α → Option (List α)}
    {lossGradient : List α → α → List α} {last : Nat}
    (h : HasShapes (NetworkModel.shapes inputs (sizes ++ [last])) network) (count : α)
    {rows : List (List α × α)} (hrows : ∀ e ∈ rows, e.1.length = inputs)
    (hloss : ∀ logits, logits.length = last → ∀ e ∈ rows,
      lossGradient? logits e.2 = some (lossGradient logits e.2) ∧
        (lossGradient logits e.2).length = last) :
    gradient? lossGradient? count (network.map Layer.flat) rows
      = some ((gradient lossGradient count network rows).map Layer.flat) ∧
      HasShapes (NetworkModel.shapes inputs (sizes ++ [last]))
        (gradient lossGradient count network rows) := by
  unfold gradient?
  rw [map_flat_fill]
  refine foldlM_eq_some (f := List.map Layer.flat) (h.fill Scalar.zero) ?_
  intro totals htotals e he
  have hx := hrows e he
  have hdelta := (hloss _ (length_logits h e.1) e he).1
  have hlength (logits : List α) (hlogits : logits.length = last) :=
    (hloss logits hlogits e he).2
  have hback := foldrM_back? count hlength h htotals hx [] [] rfl
  refine ⟨?_, h.accumulate count hlength htotals hx⟩
  rw [activations?_eq h hx]
  dsimp only [Option.bind_eq_bind, Option.bind_some]
  rw [getLast?_activations]
  dsimp only [Option.bind_some]
  rw [hdelta]
  exact congrArg (· >>= _) hback

/-! ## Steps -/

/-- A step of every layer, whose gradients and accumulators are found under its number. -/
def descend? (rate : Float) (layers gradients sums : List (FlatLayer Float)) :
    Option (List (FlatLayer Float) × List (FlatLayer Float)) := do
  let stepped ← layers.zipIdx.mapM fun e => do
    let gradient ← gradients[e.2]?
    let sum ← sums[e.2]?
    e.1.descend? rate gradient sum
  return (stepped.map (·.1), stepped.map (·.2))

variable {shapes : List (Nat × Nat)} {layers gradients sums : List (Layer Float)}

theorem HasShapes.descend_sums (h : HasShapes shapes sums) (rate : Float)
    (hlayers : HasShapes shapes layers) (hgradients : HasShapes shapes gradients) :
    HasShapes shapes (Network.descend rate layers gradients sums).2 := by
  induction h generalizing layers gradients with
  | nil =>
    cases hlayers
    exact .nil
  | cons hsum hsums ih =>
    cases hlayers with
    | cons hlayer hlayers =>
      cases hgradients with
      | cons hgradient hgradients => exact .cons (hsum.descend_sums ..) (ih hlayers hgradients)

theorem mapM_descend? (rate : Float) (h : HasShapes shapes layers)
    (hgradients : HasShapes shapes gradients) (hsums : HasShapes shapes sums)
    (before before' : List (FlatLayer Float)) (hbefore : before'.length = before.length) :
    ((layers.map Layer.flat).zipIdx before.length).mapM (fun e => do
        let gradient ← (before ++ gradients.map Layer.flat)[e.2]?
        let sum ← (before' ++ sums.map Layer.flat)[e.2]?
        e.1.descend? rate gradient sum)
      = some (((Network.descend rate layers gradients sums).1.map Layer.flat).zip
          ((Network.descend rate layers gradients sums).2.map Layer.flat)) := by
  induction h generalizing gradients sums before before' with
  | nil => rfl
  | @cons shape layer shapes layers hlayer hlayers ih =>
    cases hgradients with
    | @cons _ gradient _ gradients hgradient hgradients =>
      cases hsums with
      | @cons _ sum _ sums hsum hsums =>
        have hgradientAt : (before ++ (gradient :: gradients).map Layer.flat)[before.length]?
            = some gradient.flat := by simp
        have hsumAt : (before' ++ (sum :: sums).map Layer.flat)[before.length]?
            = some sum.flat := by
          rw [← hbefore]
          simp
        have hrest := ih hgradients hsums (before ++ [gradient.flat]) (before' ++ [sum.flat])
          (by simp [hbefore])
        rw [List.length_append, List.length_singleton, List.append_assoc, List.append_assoc]
          at hrest
        show List.mapM _ ((layer.flat, before.length) ::
          (layers.map Layer.flat).zipIdx (before.length + 1)) = _
        rw [List.mapM_cons]
        dsimp only
        rw [hgradientAt, hsumAt]
        dsimp only [Option.bind_eq_bind, Option.bind_some]
        rw [hlayer.descend?_eq hgradient hsum]
        exact congrArg (· >>= _) hrest

theorem descend?_eq (rate : Float) (h : HasShapes shapes layers)
    (hgradients : HasShapes shapes gradients) (hsums : HasShapes shapes sums) :
    descend? rate (layers.map Layer.flat) (gradients.map Layer.flat) (sums.map Layer.flat)
      = some ((Network.descend rate layers gradients sums).1.map Layer.flat,
        (Network.descend rate layers gradients sums).2.map Layer.flat) := by
  have hlayers := (h.descend rate gradients sums).length_eq
  have hsums' := (hsums.descend_sums rate h hgradients).length_eq
  have hstepped := mapM_descend? rate h hgradients hsums [] [] rfl
  unfold descend?
  refine (congrArg (· >>= _) hstepped).trans ?_
  show some (_, _) = _
  rw [List.map_fst_zip, List.map_snd_zip]
  · simp [← hlayers, ← hsums']
  · simp [← hlayers, ← hsums']

end Network
end Exemplar
