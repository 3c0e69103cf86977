/-
Documents in one line.

The tokens of a document can also be written with nothing between them.  A word is
then followed by punctuation, or it is the whole text, so that it still ends where it
ends, and the document is read back from this text as from the one in many lines.
-/
import Exemplar.Proofs.Documents

namespace Exemplar
namespace Json

def Token.spelling : Token → List Char
  | .openArray => ['[']
  | .closeArray => [']']
  | .openObject => ['{']
  | .closeObject => ['}']
  | .comma => [',']
  | .colon => [':']
  | .constant value => write 0 value
  | .text text? => quoted (String.ofList (text?.getD []))

/-- Tokens with nothing between them. -/
def spelled (tokens : List Token) : List Char := tokens.flatMap Token.spelling

/-- The text of a document in one line, without blanks. -/
def compact (document : Json) : String := String.ofList (spelled document.tokens)

/-- Tokens that are told apart with nothing between them. -/
def Tight (tokens : List Token) : Prop := Lexes (spelled tokens) tokens

variable {tokens tokens' : List Token} {token : Token} {c : Char} {room : Nat}

theorem Tight.cons (hspelling : token.spelling = [c]) (hc : start c = (.between, [token]))
    (h : Tight tokens) : Tight (token :: tokens) := by
  have hform : spelled (token :: tokens) = c :: spelled tokens := by
    rw [spelled, List.flatMap_cons, hspelling]
    rfl
  rw [Tight, hform]
  exact Lexes.cons hc h

theorem Tight.append (h : Tight tokens) (h' : Tight tokens')
    (hends : ∀ rest, EndsWord rest → EndsWord (spelled tokens' ++ rest)) :
    Tight (tokens ++ tokens') := by
  rw [Tight, spelled, List.flatMap_append]
  exact Lexes.append h h' hends

theorem tight_nil : Tight [] := Lexes.nil

theorem tight_constant {value : Json} (h : Lexes (write 0 value) [.constant value]) :
    Tight [.constant value] := by
  rw [Tight, spelled, List.flatMap_singleton]
  exact h

theorem tight_text (s : String) : Tight [.text (some s.toList)] := by
  rw [Tight, spelled, List.flatMap_singleton]
  show Lexes (quoted (String.ofList s.toList)) _
  rw [String.ofList_toList]
  exact .quoted s

theorem endsWord_spelled_items (items : List Json) {rest : List Char} (h : EndsWord rest) :
    EndsWord (spelled (itemTokens items) ++ rest) := by
  cases items with
  | nil => exact h
  | cons item items => exact .of_start rfl _

theorem endsWord_spelled_members (members : List (String × Json)) {rest : List Char}
    (h : EndsWord rest) : EndsWord (spelled (membersTokens members) ++ rest) := by
  cases members with
  | nil => exact h
  | cons member members => exact .of_start rfl _

theorem tight_items {items : List Json} (h : ∀ item ∈ items, Tight item.tokens) :
    Tight (itemTokens items) := by
  induction items with
  | nil => exact tight_nil
  | cons item rest ih =>
    have hrest := ih fun item h' => h item (List.mem_cons_of_mem _ h')
    rw [itemTokens]
    have hitem := (h item List.mem_cons_self).append hrest fun _ => endsWord_spelled_items rest
    exact hitem.cons rfl rfl

theorem tight_member {member : String × Json} (h : Tight member.2.tokens) :
    Tight (memberTokens member) := by
  obtain ⟨key, value⟩ := member
  have hvalue : Tight (.colon :: value.tokens) := h.cons rfl rfl
  exact (tight_text key).append hvalue fun _ _ => .of_start rfl _

theorem tight_members {members : List (String × Json)}
    (h : ∀ member ∈ members, Tight member.2.tokens) : Tight (membersTokens members) := by
  induction members with
  | nil => exact tight_nil
  | cons member rest ih =>
    have hrest := ih fun member h' => h member (List.mem_cons_of_mem _ h')
    have hmember := tight_member (h member List.mem_cons_self)
    rw [membersTokens]
    exact (hmember.append hrest fun _ => endsWord_spelled_members rest).cons rfl rfl

/-- No two tokens of a document run into each other. -/
theorem tight_tokens {document : Json} (h : Fits room document) : Tight document.tokens := by
  induction h with
  | null => exact tight_constant (lexes_write (.null 0) 0)
  | bool _ b => exact tight_constant (lexes_write (.bool 0 b) 0)
  | integer _ hkept => exact tight_constant (lexes_write (.integer 0 hkept) 0)
  | real _ x =>
    have hlexes := lexes_write (.real 0 x) 0
    unfold tokens at hlexes ⊢
    by_cases hfinite : x.isFinite = true
    · rw [if_pos hfinite] at hlexes ⊢
      exact tight_constant hlexes
    · rw [if_neg hfinite]
      exact tight_constant (lexes_write (.null 0) 0)
  | string _ s => exact tight_text s
  | @array _ items _ ih =>
    cases items with
    | nil => exact (tight_nil.cons rfl rfl).cons rfl rfl
    | cons item rest =>
      have hitem := ih item List.mem_cons_self
      have hrest := tight_items fun item h' => ih item (List.mem_cons_of_mem _ h')
      have hclose : Tight [.closeArray] := tight_nil.cons rfl rfl
      rw [tokens]
      refine Tight.cons rfl rfl (hitem.append (hrest.append hclose ?_) ?_)
      · exact fun _ _ => .of_start rfl _
      · intro after hafter
        rw [spelled, List.flatMap_append, List.append_assoc]
        exact endsWord_spelled_items rest (.of_start rfl _)
  | @object _ members _ ih =>
    cases members with
    | nil => exact (tight_nil.cons rfl rfl).cons rfl rfl
    | cons member rest =>
      have hmember := tight_member (ih member List.mem_cons_self)
      have hrest := tight_members fun member h' => ih member (List.mem_cons_of_mem _ h')
      have hclose : Tight [.closeObject] := tight_nil.cons rfl rfl
      rw [tokens]
      refine Tight.cons rfl rfl (hmember.append (hrest.append hclose ?_) ?_)
      · exact fun _ _ => .of_start rfl _
      · intro after hafter
        rw [spelled, List.flatMap_append, List.append_assoc]
        exact endsWord_spelled_members rest (.of_start rfl _)

theorem parse?_compact {document : Json} (h : Fits deepest document) :
    parse? document.compact = some document.reread := by
  apply parse?_of_lexes h
  rw [compact, String.toList_ofList]
  exact tight_tokens h

end Json
end Exemplar
