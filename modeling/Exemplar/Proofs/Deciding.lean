/-
Which class is predicted, and recorded.

All numbers but `nan` are ordered by their places on a line, so that one scan finds the
first of the largest.  A model predicts in one pass over the rows and gives
probabilities in another; both see the same logits, so that the class that is recorded
of a row is the most probable of the probabilities recorded beside it.
-/
import Exemplar.Proofs.Comparing
import Exemplar.Proofs.Logits
import Exemplar.Proofs.Reloading
import Mathlib.Data.Prod.Lex

namespace Exemplar

/-! ## The order of numbers -/

namespace Binary64

open Float.Model (UnpackedFloat)

/-- Where a number stands among all numbers: with its sign, by its exponent and then by its
significand. -/
def place : UnpackedFloat → ℤ ×ₗ ℤ ×ₗ ℤ
  | .infinity .negative => toLex (-2, toLex (0, 0))
  | .finite .negative significand exponent _ => toLex (-1, toLex (-exponent, -significand))
  | .zero _ | .notANumber => toLex (0, toLex (0, 0))
  | .finite .positive significand exponent _ => toLex (1, toLex (exponent, significand))
  | .infinity .positive => toLex (2, toLex (0, 0))

theorem unpacked_lt_iff {a b : UnpackedFloat} (ha : a.isNaN = false) (hb : b.isNaN = false) :
    a.lt b = true ↔ place a < place b := by
  have hsigns : compare UnpackedFloat.Sign.negative .positive = .lt := rfl
  rw [UnpackedFloat.lt, beq_iff_eq]
  cases a with
  | notANumber => cases ha
  | infinity s | zero s | finite s =>
    cases b with
    | notANumber => cases hb
    | infinity s' | zero s' | finite s' =>
      cases s <;> cases s' <;> dsimp only [UnpackedFloat.compare, place] <;>
      simp [hsigns, Prod.Lex.toLex_lt_toLex, Ordering.then_eq_lt, Ordering.then_eq_gt,
        compare_lt_iff_lt, compare_gt_iff_gt]

variable {x y z : Float}

theorem lt_iff (hx : x.isNaN = false) (hy : y.isNaN = false) :
    x < y ↔ place x.toModel.unpack < place y.toModel.unpack := by
  rw [← unpacked_lt_iff hx hy]
  show decide (x.toModel < y.toModel) = true ↔ _
  rw [decide_eq_true_iff]
  rfl

theorem not_lt_of_lt (hx : x.isNaN = false) (hy : y.isNaN = false) (h : x < y) : ¬ y < x := by
  rw [lt_iff hx hy] at h
  rw [lt_iff hy hx]
  exact lt_asymm h

theorem not_lt_self (hx : x.isNaN = false) : ¬ x < x := fun h => not_lt_of_lt hx hx h h

/-- What is not above a number is below all that the number is below. -/
theorem lt_of_not_lt_of_lt (hx : x.isNaN = false) (hy : y.isNaN = false) (hz : z.isNaN = false)
    (hxy : ¬ y < x) (hyz : y < z) : x < z := by
  rw [lt_iff hy hx, not_lt] at hxy
  rw [lt_iff hy hz] at hyz
  rw [lt_iff hx hz]
  exact hxy.trans_lt hyz

end Binary64

/-! ## The first of the largest -/

/-- The first of the largest of some numbers, and its position. -/
structure IsFirstLargest (xs : List Float) (k : Nat) (top : Float) : Prop where
  found : xs[k]? = some top
  largest : ∀ x ∈ xs, ¬ top < x
  first : ∀ x ∈ xs.take k, x < top

variable {seen xs ps : List Float} {top x : Float} {k : Nat}

theorem IsFirstLargest.lt_length (h : IsFirstLargest xs k top) : k < xs.length :=
  (List.getElem?_eq_some_iff.1 h.found).1

/-- The position is the same as a word with a sign. -/
theorem IsFirstLargest.toInt_ofNat (h : IsFirstLargest xs k top) (hlength : xs.length ≤ twoTo 63) :
    (Int64.ofNat k).toInt = k := by
  have hk := h.lt_length
  have htwoTo : twoTo 63 = 2 ^ 63 := rfl
  exact Int64.toInt_ofNat_of_lt (by omega)

theorem isFirstLargest_singleton (hx : x.isNaN = false) : IsFirstLargest [x] 0 x := by
  refine ⟨rfl, fun y hy => ?_, by simp⟩
  rw [List.mem_singleton.1 hy]
  exact Binary64.not_lt_self hx

/-- Another number takes the place of the first of the largest only if it is larger. -/
theorem IsFirstLargest.append (h : IsFirstLargest seen k top)
    (hnumbers : ∀ y ∈ seen ++ [x], y.isNaN = false) :
    if top < x then IsFirstLargest (seen ++ [x]) seen.length x
    else IsFirstLargest (seen ++ [x]) k top := by
  obtain ⟨hseen, hx⟩ := List.forall_mem_append.1 hnumbers
  replace hx := hx x List.mem_cons_self
  have htop := hseen top (List.mem_of_getElem? h.found)
  split
  · rename_i hlarger
    have hbelow (y : Float) (hy : y ∈ seen) : y < x :=
      Binary64.lt_of_not_lt_of_lt (hseen y hy) htop hx (h.largest y hy) hlarger
    refine ⟨by simp, List.forall_mem_append.2 ⟨fun y hy => ?_, fun y hy => ?_⟩, ?_⟩
    · exact Binary64.not_lt_of_lt (hseen y hy) hx (hbelow y hy)
    · rw [List.mem_singleton.1 hy]
      exact Binary64.not_lt_self hx
    · rw [List.take_left]
      exact hbelow
  · rename_i hnot
    have hk := h.lt_length
    refine ⟨?_, List.forall_mem_append.2 ⟨h.largest, by simpa using hnot⟩, ?_⟩
    · rw [List.getElem?_append_left hk]
      exact h.found
    · rw [List.take_append_of_le_length hk.le]
      exact h.first

/-- A scan that has found the first of the largest so far finds that of all. -/
theorem isFirstLargest_argmax (h : IsFirstLargest seen k top)
    (hnumbers : ∀ y ∈ seen ++ xs, y.isNaN = false) :
    ∃ top', IsFirstLargest (seen ++ xs) (argmax k top seen.length xs) top' := by
  induction xs generalizing seen k top with
  | nil =>
    rw [argmax, List.append_nil]
    exact ⟨top, h⟩
  | cons x rest ih =>
    rw [List.append_cons] at hnumbers ⊢
    have hstep := h.append (List.forall_mem_append.1 hnumbers).1
    have hlength : (seen ++ [x]).length = seen.length + 1 := by simp
    rw [argmax, ← hlength]
    split at hstep
    · rename_i hlarger
      rw [if_pos hlarger]
      exact ih hstep hnumbers
    · rename_i hnot
      rw [if_neg hnot]
      exact ih hstep hnumbers

theorem exists_isFirstLargest (hne : ps ≠ []) (hnumbers : ∀ p ∈ ps, p.isNaN = false) :
    ∃ top, IsFirstLargest ps (argmax 0 (ps.headD 0.0) 0 ps) top := by
  obtain ⟨p, rest, rfl⟩ := List.exists_cons_of_ne_nil hne
  have hp := hnumbers p List.mem_cons_self
  -- The first number is compared with itself, which changes nothing.
  have hfirst : argmax 0 p 0 (p :: rest) = argmax 0 p [p].length rest := by
    rw [argmax, if_neg (Binary64.not_lt_self hp)]
    rfl
  show ∃ top, IsFirstLargest _ (argmax 0 p 0 (p :: rest)) top
  rw [hfirst]
  exact isFirstLargest_argmax (isFirstLargest_singleton hp) hnumbers

/-! ## Predicted classes -/

namespace Head

variable {head : Head} {logits : List Float}

/-- The probabilities of a head that has classes and logits, and the class it predicts by them. -/
theorem exists_predict (hclasses : head.classCount?.isSome = true) (hcount : 0 < head.logitCount)
    (hlength : logits.length = head.logitCount) :
    ∃ ps k, head.probabilities logits = .ok (some ps) ∧ head.classCount? = some ps.length ∧
      head.predict logits = .ok (.int (.ofNat k)) ∧
      ((∀ p ∈ ps, p.isNaN = false) → ∃ top, IsFirstLargest ps k top) := by
  obtain ⟨found, hfound, hsize⟩ := probabilities_eq_ok hlength
  cases found with
  | none =>
    rw [← hsize] at hclasses
    cases hclasses
  | some ps =>
    have hne : ps ≠ [] := by
      intro hnil
      rw [hnil] at hsize
      cases head with
      | regression => cases hsize
      | binary => cases hsize
      | multiClass n =>
        have hzero : 0 = n := Option.some.inj hsize
        exact absurd hcount (hzero ▸ Nat.lt_irrefl 0)
    refine ⟨ps, argmax 0 (ps.headD 0.0) 0 ps, hfound, hsize.symm, ?_, exists_isFirstLargest hne⟩
    unfold predict
    rw [hfound]
    rfl

theorem classCount_le {n : Nat} (h : head.classCount? = some n) : n ≤ max head.logitCount 2 := by
  cases head with
  | regression => cases h
  | binary =>
    cases h
    exact le_max_right _ _
  | multiClass n =>
    cases h
    exact le_max_left _ _

end Head

/-! ## Recorded classes -/

/-- What is recorded of the probabilities beside a prediction. -/
def Fixture.Output.beside : Output → List Float → List Float
  | .pointOnly, _ => []
  | .withProbabilities _, ps => ps

/-- A row of a sheet has as its class the first of the largest of some probabilities. -/
structure PredictionSheet.Decides (row : Value × List Float) (ps : List Float) (k : Nat) :
    Prop where
  value : row.1 = .int (.ofNat k)
  record : PredictionSheet.cells row = Decimal.natText k :: row.2.map Decimal.plain.text
  first : ∃ top, IsFirstLargest ps k top

namespace Model

variable {model : Model} {inputs : TrainingInputs} {spec : Fixture.Spec} {sheet : PredictionSheet}

theorem IsShaped.logitCount_lt (h : model.IsShaped) : model.head.logitCount < twoTo 60 := by
  cases model with
  | linear m => exact (Layer.canBeHeld_iff.1 (LinearModel.IsShaped.held h)).2.1
  | network m => exact NetworkModel.IsShaped.size_lt h (List.mem_append_right _ List.mem_cons_self)

/-- Prediction and probabilities of a row, which are worked out apart from each other. -/
theorem IsShaped.decides (h : model.IsShaped) (hclasses : model.head.classCount?.isSome = true)
    (hcount : 0 < model.head.logitCount) {rows : List SparseRow}
    (hrows : model.rows inputs = .ok rows) {row : SparseRow} (hrow : row ∈ rows) {value : Value}
    {ps : List Float} (hvalue : model.estimate row = .ok value)
    (hps : model.distribution row = .ok ps) (hnumbers : ∀ p ∈ ps, p.isNaN = false)
    (cells : List Float) : ∃ k, PredictionSheet.Decides (value, cells) ps k := by
  obtain ⟨found, k, hfound, hsize, hpredict, hfirst⟩ :=
    Head.exists_predict hclasses hcount (h.length_logits hrows row hrow)
  obtain rfl : value = .int (.ofNat k) := Except.ok.inj (hvalue.symm.trans hpredict)
  obtain rfl : found = ps := by
    unfold distribution at hps
    rw [hfound] at hps
    exact Except.ok.inj hps
  obtain ⟨top, hfirst⟩ := hfirst hnumbers
  have hlength : found.length ≤ twoTo 63 := by
    have hsmall := Head.classCount_le hsize
    have hheld := h.logitCount_lt
    have htwoTo : max (twoTo 60) 2 ≤ twoTo 63 := by decide
    omega
  refine ⟨k, rfl, ?_, top, hfirst⟩
  show Decimal.intText (Int64.ofNat k).toInt :: _ = _
  rw [hfirst.toInt_ofNat hlength, Decimal.intText, Decimal.intDigits, if_neg (by omega)]
  rfl

/-- The rows of a sheet beside the probabilities of the rows that it is about. -/
theorem score_decides (h : model.IsShaped) (hclasses : model.head.classCount?.isSome = true)
    (hcount : 0 < model.head.logitCount) (hscore : Fixture.score model inputs spec = .ok sheet) :
    ∃ probabilities, model.probabilities inputs = .ok probabilities ∧
      List.Forall₂ (fun row ps => row.2 = spec.output.beside ps ∧
        ((∀ p ∈ ps, p.isNaN = false) → ∃ k, PredictionSheet.Decides row ps k))
      sheet.rows probabilities := by
  obtain ⟨targets, htargets, -, hsheet⟩ := Fixture.score_eq_ok_iff.1 hscore
  obtain ⟨rows, hrows, hvalues⟩ := predict_eq_ok_iff.1 htargets
  obtain ⟨n, hn⟩ := Option.isSome_iff_exists.1 hclasses
  obtain ⟨probabilities, hprobabilities, -⟩ := h.probabilities_eq_ok hrows hn
  obtain ⟨-, rows', hrows', hall⟩ := probabilities_eq_ok_iff.1 hprobabilities
  obtain rfl : rows = rows' := Except.ok.inj (hrows.symm.trans hrows')
  refine ⟨probabilities, hprobabilities, ?_⟩
  have hdecides : List.Forall₂ (fun value ps => (∀ p ∈ ps, p.isNaN = false) →
      ∀ cells, ∃ k, PredictionSheet.Decides (value, cells) ps k) targets probabilities := by
    refine (forall₂_of_mapM hvalues hall).imp fun value ps hboth hnumbers cells => ?_
    obtain ⟨row, hrow, hvalue, hps⟩ := hboth
    exact h.decides hclasses hcount hrows hrow hvalue hps hnumbers cells
  rw [Fixture.sheetOf] at hsheet
  cases houtput : spec.output with
  | pointOnly =>
    rw [houtput] at hsheet
    obtain rfl := Except.ok.inj hsheet
    exact List.forall₂_map_left_iff.2 (hdecides.imp fun value ps h => ⟨rfl, fun hp => h hp []⟩)
  | withProbabilities classCount =>
    rw [houtput] at hsheet
    obtain ⟨found, hfound, hsheet⟩ := Attempt.bind_eq_ok hsheet
    obtain rfl : found = probabilities :=
      Except.ok.inj ((Attempt.within_eq_ok hfound).symm.trans hprobabilities)
    obtain ⟨-, -, hzip⟩ := Fixture.withProbabilities_ok (Attempt.ofData_eq_ok hsheet)
    rw [hzip]
    refine (forall₂_zip hdecides).imp fun row ps hboth => ⟨hboth.1, fun hp => ?_⟩
    exact hboth.2 hp row.2

/-- A head that has classes and logits predicts the first of the most probable classes, and this is
what a sheet records of each row of which all probabilities are numbers. -/
theorem most_probable_class_is_recorded :
    (∀ (head : Head) (logits : List Float), head.classCount?.isSome = true → 0 < head.logitCount →
      logits.length = head.logitCount → ∃ ps, head.probabilities logits = .ok (some ps) ∧
        ((∀ p ∈ ps, p.isNaN = false) → ∃ k top, head.predict logits = .ok (.int (.ofNat k)) ∧
          (ps.length ≤ twoTo 63 → (Int64.ofNat k).toInt = k) ∧ IsFirstLargest ps k top)) ∧
    ∀ (model : Model) (inputs : TrainingInputs) (spec : Fixture.Spec) (sheet : PredictionSheet),
      model.Reached → model.head.classCount?.isSome = true → 0 < model.head.logitCount →
      Fixture.score model inputs spec = .ok sheet →
      ∃ probabilities, model.probabilities inputs = .ok probabilities ∧
        List.Forall₂ (fun row ps => row.2 = spec.output.beside ps ∧
          ((∀ p ∈ ps, p.isNaN = false) → ∃ k, PredictionSheet.Decides row ps k))
        sheet.rows probabilities := by
  constructor
  · intro head logits hclasses hcount hlength
    obtain ⟨ps, k, hps, -, hpredict, hfirst⟩ := Head.exists_predict hclasses hcount hlength
    refine ⟨ps, hps, fun hnumbers => ?_⟩
    obtain ⟨top, hfirst⟩ := hfirst hnumbers
    exact ⟨k, top, hpredict, hfirst.toInt_ofNat, hfirst⟩
  · intro model inputs spec sheet hreached hclasses hcount hscore
    exact score_decides hreached.isShaped hclasses hcount hscore

/-- What a sheet records of the sample, and the one logit whose probabilities are the same. -/
theorem most_probable_class_is_recorded_once :
    (Float.exp (-0.0) = 1.0 → ∃ k top, Head.binary.predict [0.0] = .ok (.int (.ofNat k)) ∧
      IsFirstLargest [0.5, 0.5] k top) ∧
    ∃ model sheet probabilities, classifier = .ok model ∧
      Fixture.score model sample ⟨"Sample", 1, .withProbabilities 2⟩ = .ok sheet ∧
      model.probabilities sample = .ok probabilities ∧ probabilities.length = 3 ∧
      List.Forall₂ (fun row ps => row.2 = ps ∧
        ((∀ p ∈ ps, p.isNaN = false) → ∃ k, PredictionSheet.Decides row ps k))
      sheet.rows probabilities := by
  obtain ⟨hpredicts, hrecords⟩ := most_probable_class_is_recorded
  constructor
  · intro hexp
    obtain ⟨ps, hps, hfirst⟩ := hpredicts .binary [0.0] rfl (by decide) rfl
    have hhalf : sigmoid 0.0 = 0.5 := by
      rw [sigmoid, if_pos (by decide +kernel), hexp]
      decide +kernel
    have hboth : ps = [0.5, 0.5] := by
      have hparts : [1.0 - sigmoid 0.0, sigmoid 0.0] = ps := Option.some.inj (Except.ok.inj hps)
      rw [← hparts, hhalf]
      decide +kernel
    subst hboth
    obtain ⟨k, top, hpredict, -, hfirst⟩ := hfirst (by decide +kernel)
    exact ⟨k, top, hpredict, hfirst⟩
  · have hruns : classifier.map (fun model => (model.head.classCount?, model.head.logitCount,
        (Fixture.score model sample ⟨"Sample", 1, .withProbabilities 2⟩).map fun sheet =>
          sheet.rows.length)) = .ok (some 2, 1, .ok 3) := by decide +kernel
    obtain ⟨model, hmodel, hruns⟩ := Attempt.map_eq_ok hruns
    obtain ⟨hclasses, hruns⟩ := Prod.mk.inj hruns
    obtain ⟨hcount, hscore⟩ := Prod.mk.inj hruns
    obtain ⟨sheet, hscore, hrows⟩ := Attempt.map_eq_ok hscore
    have hreached : model.Reached := by
      obtain ⟨encodings, -, h⟩ := Attempt.bind_eq_ok hmodel
      obtain ⟨first, hfirst, hfit⟩ := Attempt.bind_eq_ok h
      exact .trained (.built hfirst) hfit
    obtain ⟨probabilities, hprobabilities, hall⟩ := hrecords model sample
      ⟨"Sample", 1, .withProbabilities 2⟩ sheet hreached (by rw [hclasses]; rfl)
      (by rw [hcount]; decide) hscore
    exact ⟨model, sheet, probabilities, hmodel, hscore, hprobabilities,
      hall.length_eq.symm.trans hrows, hall⟩

end Model
end Exemplar
