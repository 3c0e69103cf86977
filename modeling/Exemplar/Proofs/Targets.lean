/-
Targets that the loss can be worked out for.

Classes are checked when they become targets, against a bound that is two where a head
has fewer classes.  So a head with one class or none lets targets pass that are none of
its classes, and training on them looks up a logit that is not there.  The same befalls
classes beyond the numbers that are counted exactly.  All other targets are in range.
-/
import Exemplar.Proofs.Histories

namespace Exemplar

namespace Head

variable {head : Head} {label : Column} {targets : List Float} {target : Float}

/-- A target that is one of the head's classes, if it has classes, and for which every row of logits
has a loss and a gradient with one number for each logit. -/
structure IsUsable (head : Head) (target : Float) : Prop where
  below : ∀ n, head.classCount? = some n → classOf target < n
  loss : ∀ logits, logits.length = head.logitCount → ∃ loss gradient,
    head.lossAndGradient logits target = .ok (loss, gradient) ∧ gradient.length = head.logitCount

/-- What is one of the classes has its logit. -/
theorem isUsable_iff :
    head.IsUsable target ↔ ∀ n, head.classCount? = some n → classOf target < n := by
  refine ⟨IsUsable.below, fun h => ⟨h, fun logits hlogits => ?_⟩⟩
  have hreached : head.reaches logits.length target = true := by
    rw [hlogits]
    cases head with
    | binary => rfl
    | regression => rfl
    | multiClass n => exact decide_eq_true (h n rfl)
  refine ⟨head.loss logits target, head.gradient logits target, ?_, length_gradient hlogits target⟩
  rw [lossAndGradient, if_pos hreached]

theorem isUsable_iff_reaches (hbinary : head = .binary → classOf target < 2) :
    head.IsUsable target ↔ head.reaches head.logitCount target = true := by
  rw [isUsable_iff]
  cases head with
  | binary => exact ⟨fun _ => rfl, fun _ n hn => Option.some.inj hn ▸ hbinary rfl⟩
  | regression => exact ⟨fun _ => rfl, fun _ _ hn => nomatch hn⟩
  | multiClass n =>
    exact ⟨fun h => decide_eq_true (h n rfl),
      fun h m hm => Option.some.inj hm ▸ of_decide_eq_true h⟩

/-- Class targets are the numbers of the cells, each below the bound that it is held against. -/
theorem targets_ints {cells : List Int64} (hclasses : head ≠ .regression)
    (h : head.targets (.ints cells) = .ok targets) :
    targets = cells.map (fun c => Binary64.ofInt c.toInt) ∧
      ∀ c ∈ cells, 0 ≤ c.toInt ∧ c.toInt < head.targetCount.toInt := by
  have hcells : cells.mapM (classTarget head.targetCount) = .ok targets := by
    cases head with
    | regression => exact absurd rfl hclasses
    | binary => exact h
    | multiClass n => exact h
  have hall := mapM_eq_ok_iff.1 hcells
  clear h hcells
  induction hall with
  | nil => exact ⟨rfl, by simp⟩
  | @cons c target cells targets hc _ ih =>
    obtain ⟨rfl, hbounds⟩ := ih
    unfold classTarget at hc
    split at hc
    · rename_i hrange
      cases hc
      rw [Int64.le_iff_toInt_le, Int64.lt_iff_toInt_lt, Int64.toInt_zero] at hrange
      exact ⟨rfl, List.forall_mem_cons.2 ⟨hrange, hbounds⟩⟩
    · cases hc

/-- The classes of a head with two. -/
theorem classOf_lt_two {c : Int64} (h : 0 ≤ c.toInt ∧ c.toInt < (targetCount .binary).toInt) :
    classOf (Binary64.ofInt c.toInt) < 2 := by
  obtain ⟨p, hp⟩ := Int.eq_ofNat_of_zero_le h.1
  have htwo : (targetCount .binary).toInt = 2 := by decide
  have hlt : p < 2 := by omega
  rw [hp, classOf]
  exact (Binary64.toUInt64_ofInt (hlt.trans (by decide))).trans_lt hlt

/-- Accepted targets are usable exactly if no class of a head with one logit for each is, as a
number, beyond the classes that there are. -/
theorem forall_isUsable_iff (h : head.targets label = .ok targets) :
    (∀ target ∈ targets, head.IsUsable target) ↔
      ∀ n cells, head = .multiClass n → label = .ints cells →
        ∀ c ∈ cells, classOf (Binary64.ofInt c.toInt) < n := by
  simp only [isUsable_iff]
  cases head with
  | regression => exact ⟨fun _ _ _ hn => (nomatch hn), fun _ _ _ _ hn => nomatch hn⟩
  | binary =>
    refine ⟨fun _ _ _ hn => (nomatch hn), fun _ target htarget n hn => ?_⟩
    cases hn
    cases label with
    | floats cells => cases h
    | texts cells => cases h
    | ints cells =>
      obtain ⟨rfl, hbounds⟩ := targets_ints (by decide) h
      obtain ⟨c, hc, rfl⟩ := List.mem_map.1 htarget
      exact classOf_lt_two (hbounds c hc)
  | multiClass m =>
    cases label with
    | floats cells => cases h
    | texts cells => cases h
    | ints cells =>
      obtain ⟨rfl, -⟩ := targets_ints (by simp) h
      constructor
      · rintro husable n _ ⟨⟩ ⟨⟩ c hc
        exact husable _ (List.mem_map_of_mem hc) _ rfl
      · rintro hbelow target htarget n ⟨⟩
        obtain ⟨c, hc, rfl⟩ := List.mem_map.1 htarget
        exact hbelow m cells rfl rfl c hc

/-- With at least two classes, and no more than can be counted exactly, accepted targets are
usable. -/
theorem IsTrainable.isUsable (hhead : head.IsTrainable) (h : head.targets label = .ok targets) :
    ∀ target ∈ targets, head.IsUsable target := by
  rw [forall_isUsable_iff h]
  rintro m cells rfl rfl c hc
  have htarget : Binary64.ofInt c.toInt ∈ targets := by
    rw [(targets_ints (by simp) h).1]
    exact List.mem_map_of_mem hc
  have hreached : decide (classOf (Binary64.ofInt c.toInt) < m) = true :=
    hhead.reaches h _ htarget
  exact of_decide_eq_true hreached

end Head

namespace Model

variable {model : Model} {inputs : TrainingInputs} {steps : UInt64}

/-- Training on examples crashes exactly if it takes a step and there is no logit for some
target. -/
theorem IsShaped.fit_eq_crash_iff {examples : List (SparseRow × Float)} (h : model.IsShaped)
    (hexamples : model.examples inputs = .ok examples) : model.fit inputs steps = .error .crash ↔
      steps ≠ 0 ∧ ∃ e ∈ examples, model.head.reaches model.head.logitCount e.2 = false := by
  have hunreached : (!examples.all fun e => model.head.reaches model.head.logitCount e.2) = true ↔
      ∃ e ∈ examples, model.head.reaches model.head.logitCount e.2 = false := by
    simp
  rw [← hunreached]
  cases model with
  | linear m =>
    have hlinear : m.examples inputs = .ok examples := hexamples
    show (m.fit inputs steps).map linear = .error .crash ↔ _
    unfold LinearModel.fit
    rw [hlinear, Attempt.ok_bind, (LinearModel.IsShaped.layer h).outputs]
    dsimp only [head]
    split <;> rename_i hcrash
    · exact ⟨fun _ => hcrash, fun _ => rfl⟩
    · exact ⟨fun hok => (nomatch hok), fun hcrash' => absurd hcrash' hcrash⟩
  | network m =>
    have hcount : m.logitCount = m.head.logitCount :=
      Network.logitCount_of_shapes (NetworkModel.IsShaped.layers h)
    have hspread : m.examples inputs
        = .ok (examples.map fun e => (Layout.spread m.layout.width e.1, e.2)) := by
      rw [networkExamples_eq, hexamples]
      rfl
    show (m.fit inputs steps).map network = .error .crash ↔ _
    unfold NetworkModel.fit
    rw [hspread, Attempt.ok_bind, hcount]
    dsimp only [head]
    rw [List.all_map]
    split <;> rename_i hcrash
    · exact ⟨fun _ => hcrash, fun _ => rfl⟩
    · exact ⟨fun hok => (nomatch hok), fun hcrash' => absurd hcrash' hcrash⟩

/-- Training crashes exactly if it takes a step on a target that is not usable. -/
theorem IsShaped.fit_crashes_iff (h : model.IsShaped) : model.fit inputs steps = .error .crash ↔
    steps ≠ 0 ∧ ∃ examples, model.examples inputs = .ok examples ∧
      ∃ e ∈ examples, ¬ model.head.IsUsable e.2 := by
  cases hexamples : model.examples inputs with
  | error failure =>
    rw [fit_eq_error steps hexamples]
    refine ⟨fun hcrash => ?_, fun ⟨_, _, hok, _⟩ => nomatch hok⟩
    cases hcrash
    exact absurd hexamples (examples_ne_crash model inputs)
  | ok examples =>
    have husable (e : SparseRow × Float) (he : e ∈ examples) :
        ¬ model.head.IsUsable e.2 ↔ model.head.reaches model.head.logitCount e.2 = false := by
      rw [Head.isUsable_iff_reaches fun hbinary => ?_, Bool.not_eq_true]
      obtain ⟨batch, rows, targets, -, -, htargets, -, rfl⟩ := examples_eq_ok_iff.1 hexamples
      have hall : model.head.IsTrainable := fun n hn => by rw [hbinary] at hn; cases hn
      have hbelow := (hall.isUsable htargets e.2 (List.of_mem_zip he).2).below
      rw [hbinary] at hbelow
      exact hbelow 2 rfl
    rw [h.fit_eq_crash_iff hexamples]
    constructor
    · rintro ⟨hsteps, e, he, hunreached⟩
      exact ⟨hsteps, examples, rfl, e, he, (husable e he).2 hunreached⟩
    · rintro ⟨hsteps, found, hfound, e, he, hunusable⟩
      cases hfound
      exact ⟨hsteps, e, he, (husable e he).1 hunusable⟩

end Model

namespace Head

/-- Accepted targets can be used in the loss exactly if no class is, as a number, beyond the classes
of a head with a logit for each; for at least two classes that can be counted exactly they always
can.  And training crashes exactly if it takes a step on a target that cannot be used. -/
theorem accepted_targets_usable_iff {head : Head} {label : Column} {targets : List Float}
    (h : head.targets label = .ok targets) :
    ((∀ target ∈ targets, head.IsUsable target) ↔
      ∀ n cells, head = .multiClass n → label = .ints cells →
        ∀ c ∈ cells, classOf (Binary64.ofInt c.toInt) < n) ∧
    (head.IsTrainable → ∀ target ∈ targets, head.IsUsable target) ∧
    ∀ model : Model, model.IsShaped → model.head = head → ∀ inputs steps,
      (model.fit inputs steps = .error .crash ↔
        steps ≠ 0 ∧ ∃ examples, model.examples inputs = .ok examples ∧
          ∃ e ∈ examples, ¬ head.IsUsable e.2) := by
  refine ⟨forall_isUsable_iff h, fun hhead => hhead.isUsable h, ?_⟩
  rintro model hshaped rfl inputs steps
  exact hshaped.fit_crashes_iff

/-- Two of three classes. -/
theorem accepted_targets_usable_once : ∃ targets,
    (multiClass 3).targets (.ints [2, 0]) = .ok targets ∧ targets.length = 2 ∧
      ∀ target ∈ targets, (multiClass 3).IsUsable target := by
  have htargets : (multiClass 3).targets (.ints [2, 0])
      = .ok [Binary64.ofInt 2, Binary64.ofInt 0] := by decide +kernel
  have husable := (accepted_targets_usable_iff htargets).2.1 fun n hn => by cases hn; decide
  exact ⟨_, htargets, rfl, husable⟩

/-- A head with one class accepts the second of two, for which it has no logit, and a model with
such a head crashes when it is trained on it. -/
theorem missing_class_is_accepted :
    (∃ target, (multiClass 1).targets (.ints [1]) = .ok [target] ∧ ¬ classOf target < 1 ∧
      ∀ logits, logits.length = 1 →
        (multiClass 1).lossAndGradient logits target = .error .crash) ∧
    ∃ model inputs examples,
      LinearModel.new (multiClass 1) [.realValued ⟨"x", .float64⟩] = .ok model ∧
      (Model.linear model).examples inputs = .ok examples ∧
      (Model.linear model).fit inputs 1 = .error .crash := by
  have htargets : (multiClass 1).targets (.ints [1]) = .ok [Binary64.ofInt 1] := by decide +kernel
  have hclass : classOf (Binary64.ofInt 1) = 1 :=
    Binary64.toUInt64_ofInt (i := 1) (by decide)
  have hunreached : (multiClass 1).reaches 1 (Binary64.ofInt 1) = false := by
    show decide (classOf (Binary64.ofInt 1) < 1) = false
    rw [hclass]
    rfl
  refine ⟨⟨_, htargets, by rw [hclass]; decide, fun logits hlogits => ?_⟩, ?_⟩
  · rw [lossAndGradient, hlogits, hunreached]
    rfl
  · let layout : Layout := ⟨[.realValued ⟨"x", .float64⟩]⟩
    let model : LinearModel :=
      { head := multiClass 1, layout, layer := .constant layout.width 1 0.0, steps := 0 }
    let inputs : TrainingInputs :=
      ⟨⟨[("x", .floats [0.5]), ("y", .ints [1])]⟩, ["x"], [], "y", .classification 2⟩
    have hnew : LinearModel.new (multiClass 1) layout.columns = .ok model := rfl
    have hbatch : inputs.batch = .ok ⟨SortedMap.ofList [("x", .floats [0.5])], .ints [1]⟩ := rfl
    have hrows : layout.sparseRows (SortedMap.ofList [("x", .floats [0.5])])
        = .ok [[(0, 0.5)]] := rfl
    have hexamples : (Model.linear model).examples inputs
        = .ok [([(0, 0.5)], Binary64.ofInt 1)] :=
      Model.examples_eq_ok_iff.2 ⟨_, _, _, hbatch, hrows, htargets, by simp, rfl⟩
    have hshaped : (Model.linear model).IsShaped := LinearModel.isShaped_new hnew
    exact ⟨model, inputs, _, hnew, hexamples, (hshaped.fit_eq_crash_iff hexamples).2
      ⟨by decide, _, List.mem_singleton_self _, hunreached⟩⟩

end Head
end Exemplar
