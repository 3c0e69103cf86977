/-
The tokens of a written document.

A bare word ends where the next character cannot belong to it, a text in quotes
where its closing quote stands, and the blanks between them are nothing.  So the
tokens of a document are those of its parts, whatever follows it.
-/
import Exemplar.Json.Parser
import Exemplar.Json.Pretty
import Exemplar.Proofs.Numerals

namespace Exemplar
namespace Json

open Decimal Binary64

theorem lex_cons {mode next : Mode} {c : Char} {tokens : List Token} {rest : List Char}
    (h : step mode c = some (next, tokens)) :
    lex mode (c :: rest) = (lex next rest).map (tokens ++ ·) := by
  rw [lex, h]

/-- A character that completes no token. -/
theorem lex_within {mode next : Mode} {c : Char} {rest : List Char}
    (h : step mode c = some (next, [])) : lex mode (c :: rest) = lex next rest :=
  (lex_cons h).trans Option.map_id'

/-! ## Bare words -/

/-- What may follow a bare word. -/
def EndsWord (rest : List Char) : Prop := rest.head?.all (!isBare ·) = true

theorem step_bare {c : Char} (h : isBare c = true) (word : List Char) :
    step (.bare word) c = some (.bare (c :: word), []) := if_pos h

theorem lex_bare {word acc rest : List Char} {value : Json} (hword : ∀ c ∈ word, isBare c = true)
    (hread : readBare? (acc.reverse ++ word) = some value) (hrest : EndsWord rest) :
    lex (.bare acc) (word ++ rest) = (lex .between rest).map ([.constant value] ++ ·) := by
  induction word generalizing acc with
  | nil =>
    rw [List.append_nil] at hread
    cases rest with
    | nil =>
      show Option.map _ (readBare? acc.reverse) = _
      rw [hread]
      rfl
    | cons c rest =>
      have hc : isBare c = false := by simpa [EndsWord] using hrest
      have hstep : step (.bare acc) c = some ((start c).1, .constant value :: (start c).2) := by
        unfold step
        dsimp only
        rw [hc, hread]
        rfl
      rw [List.nil_append, lex_cons hstep, @lex_cons .between (start c).1 _ _ _ rfl,
        Option.map_map]
      rfl
  | cons c word ih =>
    rw [List.cons_append, lex_within (step_bare (hword c List.mem_cons_self) acc)]
    refine ih (fun c h => hword c (List.mem_cons_of_mem _ h)) ?_
    rw [List.reverse_cons, List.append_assoc]
    exact hread

theorem start_of_isBare {c : Char} (h : isBare c = true) : start c = (.bare [c], []) := by
  unfold isBare at h
  simp only [Bool.and_eq_true, Bool.not_eq_true', Option.isNone_iff_eq_none, bne_iff_ne] at h
  obtain ⟨⟨hspace, hpunctuation⟩, hquote⟩ := h
  unfold start
  rw [hpunctuation]
  simp [hspace, hquote]

/-- A word is one token. -/
theorem lex_word {word rest : List Char} {value : Json} (hne : word ≠ [])
    (hword : ∀ c ∈ word, isBare c = true) (hread : readBare? word = some value)
    (hrest : EndsWord rest) :
    lex .between (word ++ rest) = (lex .between rest).map ([.constant value] ++ ·) := by
  obtain ⟨c, more, rfl⟩ := List.exists_cons_of_ne_nil hne
  have hstep : step .between c = some (.bare [c], []) :=
    congrArg some (start_of_isBare (hword c List.mem_cons_self))
  rw [List.cons_append, lex_within hstep]
  exact lex_bare (fun c h => hword c (List.mem_cons_of_mem _ h)) hread hrest

/-! ## Numbers -/

/-- The characters of numbers. -/
def isNumeral (c : Char) : Bool := c.isDigit || ['-', '+', '.', 'e'].contains c

theorem isBare_of_isNumeral {c : Char} (h : isNumeral c = true) : isBare c = true := by
  have hne (d : Char) (hd : isNumeral d = false) : c ≠ d := by
    rintro rfl
    rw [h] at hd
    cases hd
  unfold isBare isSpace punctuation?
  rw [if_neg (hne '[' (by decide)), if_neg (hne ']' (by decide)), if_neg (hne '\x7b' (by decide)),
    if_neg (hne '\x7d' (by decide)), if_neg (hne ',' (by decide)), if_neg (hne ':' (by decide))]
  simp [hne ' ' (by decide), hne '\n' (by decide), hne '\t' (by decide), hne '\r' (by decide),
    hne '"' (by decide)]

theorem isNumeral_of_isDigit {c : Char} (h : c.isDigit = true) : isNumeral c = true := by
  rw [isNumeral, h]
  rfl

theorem isNumeral_intDigits {i : Int} {c : Char} (h : c ∈ intDigits i) : isNumeral c = true := by
  unfold intDigits at h
  split at h
  · rcases List.mem_cons.1 h with rfl | h
    · decide
    · exact isNumeral_of_isDigit (isDigit_of_mem_natDigits h)
  · exact isNumeral_of_isDigit (isDigit_of_mem_natDigits h)

/-- A word that starts like a number is none of the constants. -/
theorem readBare?_numeral {c : Char} {word : List Char} (h : isNumeral c = true) :
    readBare? (c :: word) = readNumber? (c :: word) := by
  have hne (d : Char) (rest : List Char) (hd : isNumeral d = false) : c :: word ≠ d :: rest := by
    intro heq
    rw [← (List.cons.inj heq).1, h] at hd
    cases hd
  unfold readBare?
  rw [if_neg (hne 'n' _ (by decide)), if_neg (hne 't' _ (by decide)),
    if_neg (hne 'f' _ (by decide))]

theorem splitMinus_cons {c : Char} {rest : List Char} (h : c.isDigit = true) :
    splitMinus (c :: rest) = (false, c :: rest) := by
  unfold splitMinus
  split
  · rename_i heq
    rw [(List.cons.inj heq).1] at h
    exact absurd h (by decide)
  · rfl

theorem splitMinus_signed {negative : Bool} {c : Char} {rest : List Char} (h : c.isDigit = true) :
    splitMinus ((if negative then ['-'] else []) ++ c :: rest) = (negative, c :: rest) := by
  cases negative with
  | true => rfl
  | false => exact splitMinus_cons h

/-! ## Integers -/

theorem digitChar_ne_zero : ∀ n < 10, n ≠ 0 → [n.digitChar].head? ≠ some '0' := by decide

/-- Only the digits of zero start with a zero. -/
theorem head_natDigits {n : Nat} (h : n ≠ 0) : (natDigits n).head? ≠ some '0' := by
  induction n using Nat.strongRecOn with
  | ind n ih =>
    unfold natDigits
    by_cases hlt : n < 10
    · rw [Nat.toDigits_of_lt_base hlt]
      exact digitChar_ne_zero n hlt h
    · rw [Nat.toDigits_of_base_le (by decide) (by omega), List.head?_append]
      have hne := ih (n / 10) (by omega) (by omega)
      obtain ⟨first, rest, hds⟩ := List.exists_cons_of_ne_nil (natDigits_ne_nil (n / 10))
      unfold natDigits at hne hds
      rw [hds] at hne ⊢
      simpa using hne

theorem isWhole_natDigits (n : Nat) : isWhole (natDigits n) = true := by
  unfold isWhole
  by_cases h : n = 0
  · subst h
    decide
  · have hne := natDigits_ne_nil n
    have hhead := head_natDigits h
    simp [hne, hhead]

/-- The integers that are kept as such. -/
def IsKept (i : Int) : Prop := smallestInteger ≤ i ∧ i ≤ (largestInteger : Int)

theorem readNumber?_digits {negative : Bool} {digits : List Char}
    (hdigits : ∀ c ∈ digits, c.isDigit = true) (hwhole : isWhole digits = true) :
    readNumber? ((if negative then ['-'] else []) ++ digits)
      = some (integerNumber negative (natOfDigits digits)) := by
  obtain ⟨first, rest, rfl⟩ := List.exists_cons_of_ne_nil (l := digits) (by
    rintro rfl
    exact absurd hwhole (by decide))
  have hsplits : Splits (first :: rest) [] := ⟨hdigits, rfl⟩
  have htake := hsplits.takeWhile
  have hdrop := hsplits.dropWhile
  rw [List.append_nil] at htake hdrop
  unfold readNumber?
  rw [splitMinus_signed (hdigits first List.mem_cons_self)]
  dsimp only
  rw [htake, hdrop, hwhole]
  rfl

theorem readBare?_intDigits {i : Int} (h : IsKept i) :
    readBare? (intDigits i) = some (.integer i) := by
  obtain ⟨hleast, hmost⟩ := h
  have hdigits : intDigits i = (if decide (i < 0) then ['-'] else []) ++ natDigits i.natAbs := by
    unfold intDigits
    by_cases hneg : i < 0 <;> simp [hneg]
  have hread := @readNumber?_digits (decide (i < 0)) _
    (fun c hc => isDigit_of_mem_natDigits hc) (isWhole_natDigits i.natAbs)
  rw [← hdigits, natOfDigits_natDigits] at hread
  have hinteger : integerNumber (decide (i < 0)) i.natAbs = .integer i := by
    have hi : (if decide (i < 0) = true then -(i.natAbs : Int) else i.natAbs) = i := by
      by_cases hneg : i < 0
      · rw [if_pos (decide_eq_true hneg)]
        omega
      · rw [if_neg (by simpa using hneg)]
        omega
    unfold integerNumber
    dsimp only
    rw [hi, if_neg]
    simp only [Bool.and_eq_true, decide_eq_true_eq, Bool.or_eq_true]
    omega
  rw [← hread.trans (congrArg some hinteger)]
  obtain ⟨c, rest, hword⟩ := List.exists_cons_of_ne_nil (l := intDigits i) (by
    unfold intDigits
    split
    · simp
    · exact natDigits_ne_nil _)
  have hc : isNumeral c = true := isNumeral_intDigits (i := i) (by simp [hword])
  rw [hword]
  exact readBare?_numeral hc

/-! ## Numbers with a fraction or an exponent -/

/-- A number that is no integer: digits, and something behind them. -/
structure IsReal (whole after : List Char) : Prop where
  splits : Splits whole after
  whole : isWhole whole = true
  point : pointIsUsed after = true
  after : after ≠ []

theorem IsReal.readNumber? {whole after : List Char} {negative : Bool} {digits : Nat}
    {exponent : Int} (h : IsReal whole after)
    (hread : readUnsigned? (whole ++ after) = some (digits, exponent))
    (hword : decimalWord digits exponent < infinityWord) :
    readNumber? ((if negative then ['-'] else []) ++ (whole ++ after))
      = some (.real (withSign negative (decimalWord digits exponent))) := by
  obtain ⟨first, rest, rfl⟩ := List.exists_cons_of_ne_nil (l := whole) (by
    rintro rfl
    exact absurd h.whole (by decide))
  have htake := h.splits.takeWhile
  have hdrop := h.splits.dropWhile
  have hempty : after.isEmpty = false := by simpa using h.after
  unfold Json.readNumber?
  rw [List.cons_append] at htake hdrop hread ⊢
  rw [splitMinus_signed (h.splits.digits first List.mem_cons_self)]
  dsimp only
  rw [htake, hdrop, h.whole, h.point, hempty, hread]
  show some (integerNumber.realNumber negative digits exponent) = _
  unfold integerNumber.realNumber
  dsimp only
  rw [if_neg hword.ne]

theorem isWhole_cons {c : Char} (rest : List Char) (h : c ≠ '0') : isWhole (c :: rest) = true := by
  simp [isWhole, h]

theorem isWhole_single (c : Char) : isWhole [c] = true := by
  by_cases h : c = '0'
  · subst h
    rfl
  · exact isWhole_cons [] h

theorem isReal_positional {first : Char} {rest : List Char}
    (hdigits : ∀ c ∈ first :: rest, c.isDigit = true)
    (hwhole : isWhole (first :: rest) = true) {point : Int}
    (hzero : first :: rest = ['0'] → point ≤ 1) :
    ∃ whole after, positional ['.', '0'] (first :: rest) point = whole ++ after ∧
      IsReal whole after := by
  have hfirst := hdigits first List.mem_cons_self
  have hhead : first :: rest = ['0'] ∨ first ≠ '0' := by
    simpa [isWhole] using hwhole
  have hzeros (n : Nat) : ∀ c ∈ List.replicate n '0', c.isDigit = true := by
    intro c hc
    rw [(List.mem_replicate.1 hc).2]
    rfl
  unfold positional
  split
  · refine ⟨['0'], '.' :: (List.replicate (-point).toNat '0' ++ first :: rest), rfl, ?_⟩
    refine ⟨⟨List.all_eq_true.1 rfl, rfl⟩, rfl, ?_, by simp⟩
    cases (-point).toNat with
    | zero => simpa [pointIsUsed] using hfirst
    | succ n => rfl
  split
  · rename_i hpoint hlength
    refine ⟨_, ['.', '0'], rfl, ⟨?_, rfl⟩, ?_, rfl, by simp⟩
    · intro c hc
      exact (List.mem_append.1 hc).elim (hdigits c) (hzeros _ c)
    · rcases hhead with heq | hne
      · have hone := hzero heq
        rw [heq, show (point.toNat - ['0'].length) = 0 by simp; omega]
        rfl
      · exact isWhole_cons _ hne
  · rename_i hpoint hlength
    obtain ⟨k, hk⟩ : ∃ k, point.toNat = k + 1 := ⟨point.toNat - 1, by omega⟩
    have hne : first ≠ '0' := by
      refine hhead.resolve_left fun heq => hlength ?_
      rw [heq, hk]
      simp
    rw [hk] at hlength ⊢
    refine ⟨(first :: rest).take (k + 1), '.' :: (first :: rest).drop (k + 1), rfl, ⟨?_, rfl⟩,
      isWhole_cons _ hne, ?_, by simp⟩
    · exact fun c hc => hdigits c (List.mem_of_mem_take hc)
    · obtain ⟨c, more, hdrop⟩ := List.exists_cons_of_ne_nil
        (l := (first :: rest).drop (k + 1)) (by simp at hlength ⊢; omega)
      rw [hdrop]
      exact hdigits c (List.mem_of_mem_drop (hdrop ▸ List.mem_cons_self))

theorem isReal_scientific {first : Char} {rest : List Char}
    (hdigits : ∀ c ∈ first :: rest, c.isDigit = true) (plus : List Char) (order : Int) :
    ∃ whole after, scientific plus (first :: rest) order = whole ++ after ∧
      IsReal whole after := by
  have hfirst : ∀ c ∈ [first], c.isDigit = true := by
    simpa using hdigits first List.mem_cons_self
  cases rest with
  | nil => exact ⟨[first], _, rfl, ⟨hfirst, rfl⟩, isWhole_single first, rfl, by simp⟩
  | cons second more =>
    refine ⟨[first], _, rfl, ⟨hfirst, rfl⟩, isWhole_single first, ?_, by simp⟩
    exact hdigits second (by simp)

theorem isReal_magnitude {d : Decimal} (hzero : d.digits = 0 → d.exponent ≤ 0) :
    ∃ whole after, json.magnitude d = whole ++ after ∧ IsReal whole after := by
  have hdigits (c : Char) (h : c ∈ natDigits d.digits) : c.isDigit = true :=
    isDigit_of_mem_natDigits h
  have hwhole := isWhole_natDigits d.digits
  have hvalue := natOfDigits_natDigits d.digits
  obtain ⟨first, rest, hds⟩ := List.exists_cons_of_ne_nil (natDigits_ne_nil d.digits)
  unfold Style.magnitude
  dsimp only
  rw [hds] at hdigits hwhole hvalue ⊢
  split
  · refine isReal_positional hdigits hwhole fun heq => ?_
    rw [heq] at hvalue ⊢
    have := hzero hvalue.symm
    simp
    omega
  · exact isReal_scientific hdigits _ _

theorem isNumeral_positional {digits : List Char} (hdigits : ∀ c ∈ digits, c.isDigit = true)
    (point : Int) {c : Char} (h : c ∈ positional ['.', '0'] digits point) : isNumeral c = true := by
  have hall (c : Char) (hc : c ∈ digits) : isNumeral c = true := isNumeral_of_isDigit (hdigits c hc)
  have hzeros (n : Nat) (c : Char) (hc : c ∈ List.replicate n '0') : isNumeral c = true := by
    rw [(List.mem_replicate.1 hc).2]
    decide
  unfold positional at h
  split at h
  · rcases List.mem_append.1 h with h | h
    · rcases List.mem_cons.1 h with rfl | h
      · decide
      rcases List.mem_cons.1 h with rfl | h
      · decide
      · exact hzeros _ c h
    · exact hall c h
  split at h
  · rcases List.mem_append.1 h with h | h
    · exact (List.mem_append.1 h).elim (hall c) (hzeros _ c)
    · exact List.all_eq_true.1 (rfl : ['.', '0'].all isNumeral = true) c h
  · rcases List.mem_append.1 h with h | h
    · exact hall c (List.mem_of_mem_take h)
    rcases List.mem_cons.1 h with rfl | h
    · decide
    · exact hall c (List.mem_of_mem_drop h)

theorem isNumeral_scientific {digits : List Char} (hdigits : ∀ c ∈ digits, c.isDigit = true)
    (order : Int) {c : Char} (h : c ∈ scientific ['+'] digits order) : isNumeral c = true := by
  have hall (c : Char) (hc : c ∈ digits) : isNumeral c = true := isNumeral_of_isDigit (hdigits c hc)
  unfold scientific at h
  rcases List.mem_append.1 h with h | h
  · rcases List.mem_append.1 h with h | h
    · rcases List.mem_append.1 h with h | h
      · exact hall c (List.mem_of_mem_take h)
      split at h
      · cases h
      rcases List.mem_cons.1 h with rfl | h
      · decide
      · exact hall c (List.mem_of_mem_drop h)
    rcases List.mem_cons.1 h with rfl | h
    · decide
    split at h
    · cases h
    · rw [List.mem_singleton.1 h]
      decide
  · exact isNumeral_intDigits h

theorem isNumeral_magnitude {d : Decimal} {c : Char} (h : c ∈ json.magnitude d) :
    isNumeral c = true := by
  unfold Style.magnitude at h
  dsimp only at h
  split at h
  · exact isNumeral_positional (fun c hc => isDigit_of_mem_natDigits hc) _ h
  · exact isNumeral_scientific (fun c hc => isDigit_of_mem_natDigits hc) _ h

theorem isReadable_json : json.IsReadable := ⟨.inr rfl, .inr rfl⟩

/-- Only zero has the digit zero. -/
theorem shortest_exponent {x : Float} {negative : Bool} {m : Nat} {q : Int} {tie : Tie}
    (h : Parts.ofFloat x = .finite negative m q) (hdigits : (shortest tie m q).digits = 0) :
    (shortest tie m q).exponent ≤ 0 := by
  obtain ⟨-, ⟨-, rfl⟩ | hnumber⟩ := parts_of_finite h
  · exact le_rfl
  · have hpos := (shortest_rounds tie hnumber).pos hnumber
    rw [value, hdigits] at hpos
    simp at hpos

/-- The word for a finite number stands for it. -/
theorem readBare?_text {x : Float} (h : x.isFinite = true) :
    readBare? (json.text x).toList = some (.real x) ∧ (json.text x).toList ≠ [] ∧
      ∀ c ∈ (json.text x).toList, isBare c = true := by
  obtain ⟨negative, m, q, hparts⟩ := parts_of_isFinite h
  obtain ⟨digits, exponent, hread, hword⟩ := read_magnitude isReadable_json hparts
  obtain ⟨whole, after, hbody, hreal⟩ := isReal_magnitude (@shortest_exponent _ _ _ _ .even hparts)
  have hnumeral (c : Char) (hc : c ∈ (if negative then ['-'] else []) ++ (whole ++ after)) :
      isNumeral c = true := by
    rcases List.mem_append.1 hc with hc | hc
    · cases negative with
      | true =>
        rw [List.mem_singleton.1 hc]
        decide
      | false => cases hc
    · rw [← hbody] at hc
      exact isNumeral_magnitude hc
  have hnumber := @IsReal.readNumber? _ _ negative _ _ hreal (hbody ▸ hread)
    (hword ▸ wordOf_lt_infinityWord hparts)
  rw [hword, (parts_of_finite hparts).1] at hnumber
  rw [text_of_finite hparts, show json.tie = .even from rfl, hbody]
  have hne : (if negative then ['-'] else []) ++ (whole ++ after) ≠ [] := by
    simp [hreal.after]
  refine ⟨?_, hne, fun c hc => isBare_of_isNumeral (hnumeral c hc)⟩
  rw [← hnumber]
  obtain ⟨c, rest, heq⟩ := List.exists_cons_of_ne_nil hne
  rw [heq] at hnumeral ⊢
  exact readBare?_numeral (hnumeral c List.mem_cons_self)

/-- What is not finite is written as the constant for nothing. -/
theorem text_of_not_finite {x : Float} (h : x.isFinite = false) : json.text x = "null" := by
  cases hparts : Parts.ofFloat x with
  | nan =>
    unfold Style.text
    rw [hparts]
    rfl
  | infinite negative =>
    unfold Style.text
    rw [hparts]
    exact ite_self _
  | finite negative m q =>
    rw [isFinite_of_parts hparts] at h
    cases h

end Json
end Exemplar
