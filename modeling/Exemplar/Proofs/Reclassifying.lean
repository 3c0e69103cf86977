/-
Classifying a table that was classified.

A table is its own classification exactly if each column of the roles is its own coercion.  Numbers
stay numbers and texts stay texts, so with a numeric label nothing changes any more.  Classes do not
stay what they are by themselves: they are spelled as numbers, and what is spelled is looked up in
the vocabulary again.  A class stays exactly if the vocabulary has its own number in its place; any
other turns into another class or into none.
-/
import Exemplar.Proofs.Coercing

namespace Exemplar

/-! ## Tables that stay as they are -/

namespace Table

variable {t : Table} {a : Assignment} {roles : Roles} {name : String} {column : Column}
variable {f : String → Column → Except DataError Column} {names : List String}

theorem replaceColumn_self (hformed : t.IsFormed) (h : t.column? name = some column) :
    t.replaceColumn name column = .ok t := by
  have hhas : t.hasColumn name = true := by
    rw [hasColumn_iff, ← column?_isSome_iff, h]
    rfl
  have hentry : ∀ entry ∈ t.columns,
      (if entry.1 = name then (entry.1, column) else (entry.1, entry.2)) = entry := by
    intro entry hentry
    split_ifs with hname
    · have hfound : t.column? entry.1 = some entry.2 :=
        SortedMap.get?_of_mem hformed.names hentry
      rw [hname, h] at hfound
      rw [Option.some.inj hfound]
    · rfl
  have hsame := (List.map_congr_left hentry).trans (List.map_id t.columns)
  unfold replaceColumn
  rw [hhas, if_neg (by simp), if_neg (not_not.2 (hformed.length_of_column? h))]
  exact congrArg (fun columns => Except.ok (Table.mk columns)) hsame

/-- A column that is its own coercion. -/
def Keeps (t : Table) (f : String → Column → Except DataError Column) (name : String) : Prop :=
  ∃ column, t.column? name = some column ∧ f name column = .ok column

theorem coerceColumn_of_keeps (hformed : t.IsFormed) (h : t.Keeps f name) :
    coerceColumn (f name) (t, none) name = (t, none) := by
  obtain ⟨column, hcolumn, hcoerce⟩ := h
  unfold coerceColumn
  dsimp only
  rw [column_eq_ok_iff.2 hcolumn]
  simp only [bind, Except.bind, hcoerce, replaceColumn_self hformed hcolumn]

theorem foldl_of_keeps (hformed : t.IsFormed) (h : ∀ name ∈ names, t.Keeps f name) :
    names.foldl (fun state name => coerceColumn (f name) state name) (t, none) = (t, none) := by
  induction names with
  | nil => rfl
  | cons name rest ih =>
    obtain ⟨hname, hrest⟩ := List.forall_mem_cons.1 h
    rw [List.foldl_cons, coerceColumn_of_keeps hformed hname]
    exact ih hrest

/-- A table stays as it is exactly if each column of the roles does. -/
theorem classify_eq_self_iff (hformed : t.IsFormed) (hpartition : a.IsPartition t) :
    t.classify a = (t, .ok a.roles) ↔
      ∀ name ∈ a.continuous ++ a.categorical ++ [a.label], t.Keeps a.coercion name := by
  constructor
  · intro h name hname
    obtain ⟨old, new, hold, hcoerce, hnew⟩ := (classify_eq_ok h).2.2.coerced name hname
    obtain rfl : old = new := Option.some.inj (hold.symm.trans hnew)
    exact ⟨old, hold, hcoerce⟩
  · intro h
    unfold classify
    rw [Assignment.validate_eq_ok_iff.2 hpartition, coerce_eq_foldl hpartition,
      foldl_of_keeps hformed h]

end Table

/-! ## Columns that stay as they are -/

namespace Column

variable {name : String} {vocabulary : List String} {column new : Column}

theorem toFloats_of_toFloats (h : column.toFloats name = .ok new) :
    new.toFloats name = .ok new := by
  obtain ⟨numbers, rfl⟩ := toFloats_eq_ok h
  rfl

/-- Classes stay what they are exactly if each is the class that its number spells. -/
theorem toClasses_eq_self_iff {classes : List Int64} :
    (ints classes).toClasses name vocabulary = .ok (ints classes) ↔
      ∀ i ∈ classes, (Cell.int i).class? vocabulary = some i := by
  rw [toClasses_eq, map_eq_ok_iff]
  simp only [ints.injEq, ↓existsAndEq, and_true, readCells_eq_ok_iff]
  rw [cells, List.forall₂_map_left_iff, List.forall₂_same]

end Column

/-- A vocabulary that has the number of a class in the place of the class. -/
def Numbers (vocabulary : List String) (i : Int64) : Prop :=
  ∃ p, i = Int64.ofNat p ∧ vocabulary[p]? = some (Decimal.intText i.toInt)

theorem numbers_iff_class? {vocabulary : List String} (h : vocabulary.Nodup) {i : Int64} :
    Numbers vocabulary i ↔ (Cell.int i).class? vocabulary = some i := by
  constructor
  · rintro ⟨p, hi, hp⟩
    obtain ⟨hlt, hvalue⟩ := List.getElem?_eq_some_iff.1 hp
    have hindex : vocabulary.idxOf? (Decimal.intText i.toInt) = some p := by
      refine List.idxOf?_eq_some_iff.2 ⟨hlt, by simp [hvalue], fun earlier hearlier => ?_⟩
      rw [← hvalue, h.getElem_inj_iff]
      exact Nat.ne_of_lt hearlier
    show (vocabulary.idxOf? (Decimal.intText i.toInt)).map Int64.ofNat = some i
    rw [hindex, hi]
    rfl
  · intro hclass
    obtain ⟨p, hp, hi⟩ := Cell.exists_of_class? hclass
    exact ⟨p, hi, hp⟩

/-- Positions that a word can hold are those that the classes name. -/
theorem numbers_ofNat_iff {vocabulary : List String} (hlength : vocabulary.length ≤ twoTo 63)
    {p : Nat} (hp : p < vocabulary.length) : Numbers vocabulary (Int64.ofNat p) ↔
      vocabulary[(Int64.ofNat p).toNatClampNeg]?
        = some (Decimal.intText (Int64.ofNat p).toInt) := by
  have htoInt {q : Nat} (hq : q < vocabulary.length) : (Int64.ofNat q).toInt = q :=
    Int64.toInt_ofNat_of_lt (hq.trans_le hlength)
  have hclamp : (Int64.ofNat p).toNatClampNeg = p := by
    rw [Int64.toNatClampNeg, htoInt hp, Int.toNat_natCast]
  rw [hclamp]
  constructor
  · rintro ⟨q, heq, hq⟩
    have hvalue := congrArg Int64.toInt heq
    rw [htoInt hp, htoInt (List.getElem?_eq_some_iff.1 hq).1] at hvalue
    rwa [← Int.ofNat_inj.1 hvalue] at hq
  · intro hvalue
    exact ⟨p, rfl, hvalue⟩

namespace Table

variable {t t' : Table} {a : Assignment} {roles : Roles} {name : String}

/-- The features stay as they are when a table is classified once more. -/
theorem keeps_of_mem_features (hpartition : a.IsPartition t)
    (hcoerces : Coerces a.coercion (a.continuous ++ a.categorical ++ [a.label]) t t')
    (hname : name ∈ a.continuous ++ a.categorical) : t'.Keeps a.coercion name := by
  obtain ⟨old, new, -, hcoerce, hnew⟩ := hcoerces.coerced name (List.mem_append_left _ hname)
  refine ⟨new, hnew, ?_⟩
  rcases List.mem_append.1 hname with hcontinuous | hcategorical
  · rw [Assignment.coercion_continuous hcontinuous] at hcoerce ⊢
    exact Column.toFloats_of_toFloats hcoerce
  · rw [hpartition.coercion_categorical hcategorical] at hcoerce ⊢
    cases hcoerce
    rfl

/-- Whether a classified table stays as it is when it is classified once more depends on its label
alone. -/
theorem classify_classified_iff (hformed : t.IsFormed) (h : t.classify a = (t', .ok roles)) :
    t'.classify a = (t', .ok roles) ↔ t'.Keeps a.coercion a.label := by
  obtain ⟨rfl, hpartition, hcoerces⟩ := classify_eq_ok h
  have hpartition' : a.IsPartition t' :=
    { hpartition with present := hcoerces.names_eq ▸ hpartition.present }
  rw [classify_eq_self_iff (hcoerces.formed hformed) hpartition', List.forall_mem_append,
    List.forall_mem_singleton]
  exact and_iff_right fun name hname => keeps_of_mem_features hpartition hcoerces hname

/-- A table that was classified is left as it is by the same assignment if its label is numeric.  If
the label is a class, it is left as it is exactly if every class in it stands in the vocabulary
under its own number. -/
theorem classified_again_iff (hformed : t.IsFormed) (h : t.classify a = (t', .ok roles)) :
    (a.labelKind = .numeric → t'.classify a = (t', .ok roles)) ∧
    ∀ vocabulary, a.labelKind = .classes vocabulary → ∃ classes,
      t'.column? a.label = some (.ints classes) ∧
      (t'.classify a = (t', .ok roles) ↔ ∀ i ∈ classes, Numbers vocabulary i) ∧
      (vocabulary.length ≤ twoTo 63 → (t'.classify a = (t', .ok roles) ↔
        ∀ i ∈ classes, vocabulary[i.toNatClampNeg]? = some (Decimal.intText i.toInt))) := by
  obtain ⟨-, hpartition, hcoerces⟩ := classify_eq_ok h
  obtain ⟨old, new, -, hcoerce, hnew⟩ := hcoerces.coerced a.label (by simp)
  rw [hpartition.coercion_label] at hcoerce
  have hagain : t'.classify a = (t', .ok roles) ↔
      coerceLabel a.label a.labelKind new = .ok new := by
    rw [classify_classified_iff hformed h, Keeps, hpartition.coercion_label, hnew]
    simp
  refine ⟨fun hkind => ?_, fun vocabulary hkind => ?_⟩
  · rw [hkind] at hcoerce hagain
    exact hagain.2 (Column.toFloats_of_toFloats hcoerce)
  · rw [hkind] at hcoerce hagain
    obtain ⟨positions, hpositions, rfl⟩ := Column.toClasses_eq_ok hcoerce
    have hnumbers := (hpartition.vocabulary vocabulary hkind).2
    have hgeneral : t'.classify a = (t', .ok roles) ↔
        ∀ i ∈ positions.map Int64.ofNat, Numbers vocabulary i := by
      rw [hagain]
      refine Column.toClasses_eq_self_iff.trans (forall₂_congr fun i _ => ?_)
      exact (numbers_iff_class? hnumbers).symm
    refine ⟨_, hnew, hgeneral, fun hlength => ?_⟩
    rw [hgeneral, List.forall_mem_map, List.forall_mem_map]
    exact forall₂_congr fun p hp => numbers_ofNat_iff hlength (hpositions p hp)

def ratings : Table := ⟨[("x", .ints [5, 6]), ("y", .ints [0, 1])]⟩

def rated (kind : LabelKind) : Assignment := ⟨["x"], [], "y", kind⟩

/-- What the ratings become, with their label. -/
def ratedAs (label : Column) : Table := ⟨[("x", .floats [5.0, 6.0]), ("y", label)]⟩

/-- Numbers stay, and so do classes under their own numbers.  Classes that stand the other way round
change places each time. -/
theorem classified_again_once :
    let numeric := rated .numeric
    let straight := rated (.classes ["0", "1"])
    let crossed := rated (.classes ["1", "0"])
    ratings.IsFormed ∧
    ratings.classify numeric = (ratedAs (.floats [0.0, 1.0]), .ok numeric.roles) ∧
    (ratedAs (.floats [0.0, 1.0])).classify numeric
      = (ratedAs (.floats [0.0, 1.0]), .ok numeric.roles) ∧
    ratings.classify straight = (ratedAs (.ints [0, 1]), .ok straight.roles) ∧
    (ratedAs (.ints [0, 1])).classify straight = (ratedAs (.ints [0, 1]), .ok straight.roles) ∧
    ratings.classify crossed = (ratedAs (.ints [1, 0]), .ok crossed.roles) ∧
    (ratedAs (.ints [1, 0])).classify crossed ≠ (ratedAs (.ints [1, 0]), .ok crossed.roles) := by
  intro numeric straight crossed
  have hformed : ratings.IsFormed := ⟨by decide, by decide⟩
  have hnumeric : ratings.classify numeric = (ratedAs (.floats [0.0, 1.0]), .ok numeric.roles) := by
    decide +kernel
  have hstraight : ratings.classify straight = (ratedAs (.ints [0, 1]), .ok straight.roles) := by
    decide +kernel
  have hcrossed : ratings.classify crossed = (ratedAs (.ints [1, 0]), .ok crossed.roles) := by
    decide +kernel
  have hagain := (classified_again_iff hformed hnumeric).1 rfl
  refine ⟨hformed, hnumeric, hagain, hstraight, ?_, hcrossed, ?_⟩
  · obtain ⟨classes, hlabel, -, hagain⟩ := (classified_again_iff hformed hstraight).2 _ rfl
    obtain rfl := Column.ints.inj (Option.some.inj hlabel)
    refine (hagain (by decide)).2 (List.forall_mem_cons.2 ⟨?_, List.forall_mem_singleton.2 ?_⟩)
    · decide +kernel
    · decide +kernel
  · obtain ⟨classes, hlabel, -, hagain⟩ := (classified_again_iff hformed hcrossed).2 _ rfl
    obtain rfl := Column.ints.inj (Option.some.inj hlabel)
    rw [ne_eq, hagain (by decide)]
    intro hnumbers
    exact absurd (hnumbers 1 List.mem_cons_self) (by decide +kernel)

end Table
end Exemplar
