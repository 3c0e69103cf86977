/-
How many logits there are.

The slots of a row lie within the layout, so each finds its weights, and a model of its shape works
out as many logits as its head works on, whatever the row.
-/
import Exemplar.Proofs.Estimating
import Exemplar.Proofs.Heads

namespace Exemplar

/-! ## Slots -/

namespace Layout

variable {features : SortedMap Column} {l : Layout} {p : InputColumn × Nat}

theorem mem_place {offset : Nat} {columns : List InputColumn} (h : p ∈ place offset columns) :
    p.2 + p.1.width ≤ offset + (columns.map InputColumn.width).foldr (· + ·) 0 := by
  induction columns generalizing offset with
  | nil => cases h
  | cons column rest ih =>
    rw [List.map_cons, List.foldr_cons]
    rcases List.mem_cons.1 h with rfl | hrest
    · show offset + column.width ≤ _
      omega
    · have := ih hrest
      omega

theorem keyIndex_lt {c : KeyedColumn} {key : String} {i : Nat} (h : c.keyIndex key = .ok i) :
    i < c.vocabulary.length := by
  obtain ⟨hlt, -⟩ := List.getElem?_eq_some_iff.1 (KeyedColumn.getElem?_of_keyIndex h)
  exact hlt

/-- A column puts nothing outside its own slice. -/
theorem cellSlot?_within {column : InputColumn} {offset row : Nat} {tensor : Column}
    {e : Nat × Float} (h : cellSlot? column offset tensor row = some e) :
    offset ≤ e.1 ∧ e.1 < offset + column.width := by
  have hkeyed {c : KeyedColumn} (hc : column.width = c.vocabulary.length)
      (h : ((tensor.texts?.getD [])[row]?.bind fun key =>
        (c.keyIndex key).toOption.map (offset + ·, (1.0 : Float))) = some e) :
      offset ≤ e.1 ∧ e.1 < offset + column.width := by
    obtain ⟨key, -, hentry⟩ := Option.bind_eq_some_iff.1 h
    cases hindex : c.keyIndex key with
    | error error =>
      rw [hindex] at hentry
      cases hentry
    | ok i =>
      rw [hindex] at hentry
      cases hentry
      have hlt := keyIndex_lt hindex
      show offset ≤ offset + i ∧ offset + i < _
      omega
  cases column with
  | realValued c =>
    obtain ⟨x, -, rfl⟩ := Option.map_eq_some_iff.1 h
    show offset ≤ offset ∧ offset < offset + 1
    omega
  | keyed c => exact hkeyed rfl h
  | oneHot c => exact hkeyed rfl h

/-- Every slot of a row lies within the layout. -/
theorem slot_lt {row : Nat} {e : Nat × Float} (h : e ∈ l.rowAt features row) : e.1 < l.width := by
  obtain ⟨p, hp, hslot⟩ := List.mem_filterMap.1 h
  obtain ⟨tensor, -, hcell⟩ := Option.bind_eq_some_iff.1 hslot
  have hwidth : l.width = (l.columns.map InputColumn.width).foldr (· + ·) 0 := rfl
  have hlt := (cellSlot?_within hcell).2
  have hplace := mem_place hp
  omega

theorem length_spread (width : Nat) (row : SparseRow) : (spread width row).length = width := by
  have hset (dense : List Float) : (row.foldl (fun dense (e : Nat × Float) =>
      dense.set e.1 e.2) dense).length = dense.length := by
    induction row generalizing dense with
    | nil => rfl
    | cons e row ih => rw [List.foldl_cons, ih, List.length_set]
  exact (hset _).trans List.length_replicate

end Layout

/-! ## Layers -/

variable {α : Type} {shape : Nat × Nat}

theorem Layer.HasShape.length_row {l : Layer α} (h : l.HasShape shape) {row : List α}
    (hrow : row ∈ l.kernel) : row.length = shape.2 := by
  have hmem := List.mem_map_of_mem (f := List.length) hrow
  rw [h.kernel] at hmem
  exact List.eq_of_mem_replicate hmem

variable [Scalar α] {layer : Layer α}

theorem Linear.length_logits (h : layer.HasShape shape) {row : List (Nat × α)}
    (hrow : ∀ e ∈ row, e.1 < shape.1) : (Linear.logits layer row).length = shape.2 := by
  have hfold (out : List α) (hout : out.length = shape.2) :
      (row.foldl (fun out (e : Nat × α) =>
        List.zipWith (fun o w => o + w * e.2) out (layer.kernel.getD e.1 [])) out).length
        = shape.2 := by
    induction row generalizing out with
    | nil => exact hout
    | cons e row ih =>
      have hslot : e.1 < layer.kernel.length := by
        rw [show layer.kernel.length = shape.1 from h.inputs]
        exact hrow e List.mem_cons_self
      have hweights : (layer.kernel.getD e.1 []).length = shape.2 := by
        rw [List.getD_eq_getElem?_getD, List.getElem?_eq_getElem hslot]
        exact h.length_row (List.getElem_mem hslot)
      apply ih (fun e' he' => hrow e' (List.mem_cons_of_mem _ he'))
      rw [List.length_zipWith, hout, hweights, Nat.min_self]
  exact hfold layer.bias h.bias

namespace Network

theorem length_forward (h : layer.HasShape shape) (x : List α) :
    (forward layer x).length = shape.2 := by
  have hfold (entries : List (α × List α)) (hrows : ∀ e ∈ entries, e.2.length = shape.2)
      (out : List α) (hout : out.length = shape.2) :
      (entries.foldl (fun out (e : α × List α) =>
        if Scalar.isZero e.1 then out else Layer.addRow out e.1 e.2) out).length = shape.2 := by
    induction entries generalizing out with
    | nil => exact hout
    | cons e entries ih =>
      apply ih fun e' he' => hrows e' (List.mem_cons_of_mem _ he')
      dsimp only
      split
      · exact hout
      · rw [Layer.addRow, List.length_zipWith, hout, hrows e List.mem_cons_self, Nat.min_self]
  refine hfold _ (fun e he => ?_) _ h.bias
  exact h.length_row (List.of_mem_zip he).2

theorem length_logits {network : Network α} {inputs last : Nat} {sizes : List Nat}
    (h : HasShapes (NetworkModel.shapes inputs (sizes ++ [last])) network) (x : List α) :
    (logits network x).length = last := by
  induction sizes generalizing inputs network x with
  | nil =>
    cases h with
    | cons hlayer hrest =>
      cases hrest with
      | nil => exact length_forward hlayer x
  | cons size sizes ih =>
    cases h with
    | @cons _ layer _ rest hlayer hrest =>
      have hlogits := ih hrest
      cases rest with
      | nil => cases sizes <;> cases hrest
      | cons second more => exact hlogits _

end Network

namespace Model

variable {model : Model} {inputs : TrainingInputs} {rows : List SparseRow}

/-- Every row of the inputs gets as many logits as the head works on. -/
theorem IsShaped.length_logits (h : model.IsShaped) (hrows : model.rows inputs = .ok rows) :
    ∀ row ∈ rows, (model.logits row).length = model.head.logitCount := by
  obtain ⟨batch, -, -, rfl⟩ := rows_eq_ok_iff.1 hrows
  refine List.forall_mem_map.2 fun i _ => ?_
  cases model with
  | linear m => exact Linear.length_logits (LinearModel.IsShaped.layer h) fun e => Layout.slot_lt
  | network m => exact Network.length_logits (NetworkModel.IsShaped.layers h) _

/-- A model of its shape estimates every row. -/
theorem IsShaped.predict_eq_ok (h : model.IsShaped) (hrows : model.rows inputs = .ok rows) :
    ∃ values, model.predict inputs = .ok values ∧ values.length = rows.length ∧
      (model.head.classCount? ≠ some 0 →
        ∀ value ∈ values, Head.Answers model.head.classCount? value) := by
  have hlogits := h.length_logits hrows
  obtain ⟨values, hvalues⟩ := mapM_ok_of_forall fun row hrow =>
    (Head.predict_eq_ok (hlogits row hrow)).imp fun _ h => h.1
  refine ⟨values, predict_eq_ok_iff.2 ⟨rows, hrows, hvalues⟩, length_of_mapM hvalues, ?_⟩
  intro hclasses
  refine forall_of_mapM hvalues fun row hrow value hvalue => ?_
  obtain ⟨found, hfound, hanswers⟩ := Head.predict_eq_ok (hlogits row hrow)
  obtain rfl : found = value := Except.ok.inj (hfound.symm.trans hvalue)
  exact hanswers hclasses

/-- A model of its shape gives every row a probability for each class. -/
theorem IsShaped.probabilities_eq_ok (h : model.IsShaped) (hrows : model.rows inputs = .ok rows)
    {n : Nat} (hclasses : model.head.classCount? = some n) :
    ∃ ps, model.probabilities inputs = .ok ps ∧ ps.length = rows.length ∧
      ∀ p ∈ ps, p.length = n := by
  have hrow (row : SparseRow) (hrow : row ∈ rows) :
      ∃ p, model.distribution row = .ok p ∧ p.length = n := by
    obtain ⟨ps, hps, hlength⟩ := Head.probabilities_eq_ok (h.length_logits hrows row hrow)
    rw [hclasses] at hlength
    obtain ⟨p, rfl, hp⟩ := Option.map_eq_some_iff.1 hlength
    exact ⟨p, by unfold distribution; rw [hps]; rfl, hp⟩
  obtain ⟨ps, hps⟩ := mapM_ok_of_forall fun row h => (hrow row h).imp fun _ h => h.1
  refine ⟨ps, probabilities_eq_ok_iff.2 ⟨by rw [hclasses]; rfl, rows, hrows, hps⟩,
    length_of_mapM hps, ?_⟩
  refine forall_of_mapM hps fun row hmem p hp => ?_
  obtain ⟨found, hfound, hlength⟩ := hrow row hmem
  obtain rfl : found = p := Except.ok.inj (hfound.symm.trans hp)
  exact hlength

end Model
end Exemplar
