/-
What heads make of logits and labels.

A head that gets as many logits as it works on answers with a class below its number of classes, or
with a number.  A class below that number is a target that reaches its logit, as long as classes are
counted exactly.
-/
import Exemplar.Learning.Head
import Exemplar.Proofs.Fallible
import Exemplar.Proofs.Integers

namespace Exemplar

theorem argmax_eq_or (best : Nat) (top : Float) (position : Nat) (xs : List Float) :
    argmax best top position xs = best ∨
      position ≤ argmax best top position xs ∧
        argmax best top position xs < position + xs.length := by
  induction xs generalizing best top position with
  | nil => exact .inl rfl
  | cons x xs ih =>
    rw [argmax, List.length_cons]
    split
    · rcases ih position x (position + 1) with h | h
      · exact .inr (by omega)
      · exact .inr (by omega)
    · rcases ih best top (position + 1) with h | h
      · exact .inl h
      · exact .inr (by omega)

theorem argmax_lt {top : Float} {xs : List Float} (h : xs ≠ []) :
    argmax 0 top 0 xs < xs.length := by
  have hpos := List.length_pos_iff.2 h
  rcases argmax_eq_or 0 top 0 xs with heq | hrange
  · omega
  · omega

theorem length_softmax (logits : List Float) : (softmax logits).length = logits.length := by
  unfold softmax
  simp only [List.length_map]

namespace Head

variable {head : Head} {logits : List Float} {n : Nat}

/-! ## Answers -/

/-- The probabilities of as many classes as the head has. -/
theorem probabilities_eq_ok (h : logits.length = head.logitCount) :
    ∃ ps, head.probabilities logits = .ok ps ∧ ps.map List.length = head.classCount? := by
  cases head with
  | regression => exact ⟨none, rfl, rfl⟩
  | multiClass n =>
    refine ⟨some (softmax logits), rfl, ?_⟩
    rw [Option.map_some, length_softmax, h]
    rfl
  | binary =>
    cases logits with
    | nil => cases h
    | cons z rest => exact ⟨_, rfl, rfl⟩

/-- What a head with a number of classes, or without, may answer. -/
def Answers (classCount? : Option Nat) (value : Value) : Prop :=
  match classCount? with
  | some n => ∃ i < n, value = .int (.ofNat i)
  | none => ∃ x, value = .float x

/-- A prediction, which is one of the classes unless there are none. -/
theorem predict_eq_ok (h : logits.length = head.logitCount) :
    ∃ value, head.predict logits = .ok value ∧
      (head.classCount? ≠ some 0 → Answers head.classCount? value) := by
  obtain ⟨ps, hps, hlength⟩ := probabilities_eq_ok h
  unfold predict
  rw [hps]
  cases ps with
  | none =>
    cases head with
    | regression =>
      cases logits with
      | nil => cases h
      | cons z rest => exact ⟨_, rfl, fun _ => ⟨z, rfl⟩⟩
    | binary => cases hlength
    | multiClass n => cases hlength
  | some ps =>
    refine ⟨_, rfl, fun hclasses => ?_⟩
    rw [Option.map_some] at hlength
    rw [← hlength] at hclasses ⊢
    have hne : ps ≠ [] := fun hnil => hclasses (by rw [hnil]; rfl)
    exact ⟨_, argmax_lt hne, rfl⟩

/-! ## Targets -/

/-- Every label of a column is a target that has a logit. -/
def Learns (head : Head) (label : Column) : Prop :=
  ∃ targets, head.targets label = .ok targets ∧ targets.length = label.length ∧
    ∀ target ∈ targets, head.reaches head.logitCount target = true

theorem learns_floats (cells : List Float) : regression.Learns (.floats cells) :=
  ⟨cells, rfl, rfl, fun _ _ => rfl⟩

/-- The head for a number of classes. -/
theorem ofTask_classification (h : 2 ≤ n) : ∃ head, ofTask (.classification n) = .ok head ∧
    head.classCount? = some n ∧ max head.logitCount 2 = n := by
  unfold ofTask
  dsimp only
  rw [if_neg (by omega)]
  by_cases htwo : n = 2
  · subst htwo
    exact ⟨.binary, rfl, rfl, rfl⟩
  · rw [if_neg htwo]
    exact ⟨.multiClass n, rfl, rfl, max_eq_left h⟩

/-- No task has a head without classes. -/
theorem classCount_ne_zero {task : Task} (h : ofTask task = .ok head) :
    head.classCount? ≠ some 0 := by
  unfold ofTask at h
  cases task with
  | regression =>
    cases h
    decide
  | classification n =>
    dsimp only at h
    split at h
    · cases h
    split at h
    · cases h
      decide
    · cases h
      intro hzero
      have := Option.some.inj hzero
      omega

theorem classTarget_ofNat {count p : Nat} (hp : p < count) (hcount : count ≤ twoTo 53) :
    classTarget (.ofNat count) (.ofNat p) = .ok (Binary64.ofInt p) := by
  rw [Binary64.twoTo_53] at hcount
  have hpositive : (Int64.ofNat p).toInt = p := Int64.toInt_ofNat_of_lt (by omega)
  have htop : (Int64.ofNat count).toInt = count := Int64.toInt_ofNat_of_lt (by omega)
  have hrange : 0 ≤ Int64.ofNat p ∧ Int64.ofNat p < Int64.ofNat count := by
    rw [Int64.le_iff_toInt_le, Int64.lt_iff_toInt_lt, Int64.toInt_zero, hpositive, htop]
    omega
  unfold classTarget
  rw [if_pos hrange, hpositive]

/-- Positions below the number of classes are targets that have a logit. -/
theorem learns_ints {positions : List Nat} (hhead : ofTask (.classification n) = .ok head)
    (hn : 2 ≤ n) (hmost : n ≤ twoTo 53) (hpositions : ∀ p ∈ positions, p < n) :
    head.Learns (.ints (positions.map Int64.ofNat)) := by
  obtain ⟨head', hhead', hclasses, hcount⟩ := ofTask_classification hn
  obtain rfl : head = head' := Except.ok.inj (hhead.symm.trans hhead')
  have htargets : (positions.map Int64.ofNat).mapM (classTarget head.targetCount)
      = .ok (positions.map fun p => Binary64.ofInt (p : Nat)) := by
    rw [mapM_eq_ok_iff, List.forall₂_map_left_iff, List.forall₂_map_right_iff,
      List.forall₂_same]
    intro p hp
    rw [targetCount, hcount]
    exact classTarget_ofNat (hpositions p hp) hmost
  refine ⟨positions.map fun p => Binary64.ofInt (p : Nat), ?_, by simp [Column.length], ?_⟩
  · cases head with
    | regression => cases hclasses
    | binary => exact htargets
    | multiClass m => exact htargets
  · refine List.forall_mem_map.2 fun p hp => ?_
    have hlt := hpositions p hp
    cases head with
    | regression => cases hclasses
    | binary => rfl
    | multiClass m =>
      obtain rfl : m = n := Option.some.inj hclasses
      have hclass : classOf (Binary64.ofInt p) = p :=
        Binary64.toUInt64_ofInt (hlt.trans_le hmost)
      show decide (classOf (Binary64.ofInt p) < m) = true
      rw [hclass, decide_eq_true hlt]

end Head
end Exemplar
