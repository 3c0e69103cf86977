/-
Documents are read back from their texts.

The text of a document has the tokens of its parts in order, and these tokens are
parsed to the same document, except that a number that is not finite is written as
the constant for nothing and so is read as that.
-/
import Exemplar.Proofs.Tokens

namespace Exemplar
namespace Json

open Decimal

/-! ## Texts in quotes -/

theorem hexDigit?_hexDigit : ∀ n < 16, hexDigit? (hexDigit n) = some n := by decide

/-- A written character is read as one piece. -/
theorem lex_escape (c : Char) (pieces : List Piece) (rest : List Char) :
    lex (.text pieces) (escape c ++ rest) = lex (.text (.whole c :: pieces)) rest := by
  have hletter (letter : Char) (hu : letter ≠ 'u') (hc : escaped? letter = some c) :
      lex (.text pieces) (['\\', letter] ++ rest) = lex (.text (.whole c :: pieces)) rest := by
    have hstep : step (.escape pieces) letter = some (.text (.whole c :: pieces), []) := by
      show escapeStep pieces letter = _
      unfold escapeStep
      rw [if_neg hu, hc]
      rfl
    exact (@lex_within _ (.escape pieces) _ _ rfl).trans (lex_within hstep)
  unfold escape
  split
  · rename_i h
    exact hletter c (by rcases h with rfl | rfl <;> decide) (by rcases h with rfl | rfl <;> rfl)
  split
  · rename_i h
    exact hletter 'b' (by decide) (h ▸ rfl)
  split
  · rename_i h
    exact hletter 'f' (by decide) (h ▸ rfl)
  split
  · rename_i h
    exact hletter 'n' (by decide) (h ▸ rfl)
  split
  · rename_i h
    exact hletter 'r' (by decide) (h ▸ rfl)
  split
  · rename_i h
    exact hletter 't' (by decide) (h ▸ rfl)
  split
  · rename_i hcontrol
    have hcode : 16 * (16 * (16 * (16 * 0 + 0) + 0) + c.toNat / 16) + c.toNat % 16 = c.toNat := by
      omega
    have hhigh := hexDigit?_hexDigit (c.toNat / 16) (by omega)
    have hlow := hexDigit?_hexDigit (c.toNat % 16) (by omega)
    have hpiece : Piece.ofCode c.toNat = .whole c := by
      unfold Piece.ofCode isHigh isLow
      rw [if_neg (by simp; omega), Char.ofNat_toNat]
    have hstep₄ : step (.code pieces (16 * (16 * 0 + 0) + 0) 2) (hexDigit (c.toNat / 16))
        = some (.code pieces (16 * (16 * (16 * 0 + 0) + 0) + c.toNat / 16) 1, []) := by
      show codeStep _ _ _ _ = _
      unfold codeStep
      rw [hhigh]
      rfl
    have hstep₅ : step (.code pieces (16 * (16 * (16 * 0 + 0) + 0) + c.toNat / 16) 1)
        (hexDigit (c.toNat % 16)) = some (.text (.whole c :: pieces), []) := by
      show codeStep _ _ _ _ = _
      unfold codeStep
      rw [hlow]
      dsimp only [Option.map_some]
      rw [hcode, hpiece]
      rfl
    refine (@lex_within _ (.escape pieces) _ _ rfl).trans ?_
    refine (@lex_within _ (.code pieces 0 4) _ _ rfl).trans ?_
    refine (@lex_within _ (.code pieces (16 * 0 + 0) 3) _ _ rfl).trans ?_
    refine (@lex_within _ (.code pieces (16 * (16 * 0 + 0) + 0) 2) _ _ rfl).trans ?_
    exact (lex_within hstep₄).trans (lex_within hstep₅)
  · rename_i hquote _ _ _ _ _ hcontrol
    refine lex_within ?_
    show textStep pieces c = _
    unfold textStep
    rw [if_neg fun h => hquote (.inl h), if_neg fun h => hquote (.inr h), if_neg hcontrol]

theorem join?_wholes (text : List Char) : join? (text.map .whole) = some text := by
  induction text with
  | nil => rfl
  | cons c rest ih =>
    rw [List.map_cons, join?, ih]
    rfl

theorem lex_quoted_tail (text : List Char) (pieces : List Piece) (rest : List Char) :
    lex (.text pieces) (text.flatMap escape ++ '"' :: rest)
      = (lex .between rest).map ([.text (join? (pieces.reverse ++ text.map .whole))] ++ ·) := by
  induction text generalizing pieces with
  | nil =>
    rw [List.map_nil, List.append_nil]
    exact @lex_cons _ .between _ _ _ rfl
  | cons c text ih =>
    rw [List.flatMap_cons, List.append_assoc, lex_escape, ih, List.reverse_cons, List.append_assoc]
    rfl

/-- A text in quotes is one token. -/
theorem lex_quoted (text : String) (rest : List Char) :
    lex .between (quoted text ++ rest)
      = (lex .between rest).map ([.text (some text.toList)] ++ ·) := by
  have hquoted : quoted text ++ rest = '"' :: (text.toList.flatMap escape ++ '"' :: rest) := by
    simp [quoted]
  rw [hquoted, @lex_within _ (.text []) _ _ rfl, lex_quoted_tail]
  exact congrArg (fun text? => (lex .between rest).map ([Token.text text?] ++ ·)) (join?_wholes _)

/-! ## Tokens -/

mutual

/-- The tokens of a document's text. -/
def tokens : Json → List Token
  | .null | .unreadable => [.constant .null]
  | .bool b => [.constant (.bool b)]
  | .integer i => [.constant (.integer i)]
  | .real x => [.constant (if x.isFinite then .real x else .null)]
  | .string s => [.text (some s.toList)]
  | .array [] => [.openArray, .closeArray]
  | .array (item :: rest) =>
    .openArray :: (item.tokens ++ (itemTokens rest ++ [.closeArray]))
  | .object [] => [.openObject, .closeObject]
  | .object (member :: rest) =>
    .openObject :: (memberTokens member ++ (membersTokens rest ++ [.closeObject]))

/-- Those of items after the first one. -/
def itemTokens : List Json → List Token
  | [] => []
  | item :: rest => .comma :: (item.tokens ++ itemTokens rest)

def memberTokens : String × Json → List Token
  | (key, value) => .text (some key.toList) :: .colon :: value.tokens

/-- Those of members after the first one. -/
def membersTokens : List (String × Json) → List Token
  | [] => []
  | member :: rest => .comma :: (memberTokens member ++ membersTokens rest)

end

/-- A document of which nothing but what is not finite is lost in its text: its integers are kept
as such, and `room` levels of containers are enough for it. -/
inductive Fits : Nat → Json → Prop where
  | null (room : Nat) : Fits room .null
  | bool (room : Nat) (b : Bool) : Fits room (.bool b)
  | integer (room : Nat) {i : Int} : IsKept i → Fits room (.integer i)
  | real (room : Nat) (x : Float) : Fits room (.real x)
  | string (room : Nat) (s : String) : Fits room (.string s)
  | array {room : Nat} {items : List Json} :
    (∀ item ∈ items, Fits room item) → Fits (room + 1) (.array items)
  | object {room : Nat} {members : List (String × Json)} :
    (∀ member ∈ members, Fits room member.2) → Fits (room + 1) (.object members)

/-- A text with the given tokens, if no word goes on behind it. -/
def Lexes (text : List Char) (tokens : List Token) : Prop :=
  ∀ rest, EndsWord rest → lex .between (text ++ rest) = (lex .between rest).map (tokens ++ ·)

section Lexes

variable {text text' : List Char} {tokens tokens' : List Token} {token : Token} {c : Char}

theorem Lexes.nil : Lexes [] [] := fun _ _ => Option.map_id'.symm

theorem Lexes.word {value : Json} (hne : text ≠ []) (hword : ∀ c ∈ text, isBare c = true)
    (hread : readBare? text = some value) : Lexes text [.constant value] :=
  fun _ hrest => lex_word hne hword hread hrest

theorem Lexes.quoted (text : String) : Lexes (quoted text) [.text (some text.toList)] :=
  fun rest _ => lex_quoted text rest

theorem Lexes.cons (hc : start c = (.between, [token])) (h : Lexes text tokens) :
    Lexes (c :: text) (token :: tokens) := by
  intro rest hrest
  rw [List.cons_append, @lex_cons .between _ _ _ _ (congrArg some hc), h rest hrest,
    Option.map_map]
  rfl

theorem Lexes.space (hc : start c = (.between, [])) (h : Lexes text tokens) :
    Lexes (c :: text) tokens := by
  intro rest hrest
  rw [List.cons_append, @lex_within .between _ _ _ (congrArg some hc), h rest hrest]

theorem Lexes.newLine (depth : Nat) (h : Lexes text tokens) :
    Lexes (newLine depth ++ text) tokens := by
  have hblanks (n : Nat) : Lexes (List.replicate n ' ' ++ text) tokens := by
    induction n with
    | zero => exact h
    | succ n ih => exact ih.space rfl
  exact (hblanks _).space rfl

theorem Lexes.append (h : Lexes text tokens) (h' : Lexes text' tokens')
    (hends : ∀ rest, EndsWord rest → EndsWord (text' ++ rest)) :
    Lexes (text ++ text') (tokens ++ tokens') := by
  intro rest hrest
  rw [List.append_assoc, h _ (hends rest hrest), h' rest hrest, Option.map_map]
  congr 1
  funext after
  exact (List.append_assoc _ _ _).symm

theorem EndsWord.of_start (hc : (start c).1 = .between) (rest : List Char) :
    EndsWord (c :: rest) := by
  have hbare : isBare c = false := by
    by_contra h
    rw [start_of_isBare (by simpa using h)] at hc
    cases hc
  show (some c).all _ = true
  simpa using hbare

end Lexes

theorem endsWord_items (depth : Nat) (items : List Json) {rest : List Char} (h : EndsWord rest) :
    EndsWord (writeItems depth items ++ rest) := by
  cases items with
  | nil => exact h
  | cons item items => exact .of_start rfl _

theorem endsWord_members (depth : Nat) (members : List (String × Json)) {rest : List Char}
    (h : EndsWord rest) : EndsWord (writeMembers depth members ++ rest) := by
  cases members with
  | nil => exact h
  | cons member members => exact .of_start rfl _

theorem lexes_items (depth : Nat) {items : List Json}
    (h : ∀ item ∈ items, Lexes (write depth item) item.tokens) :
    Lexes (writeItems depth items) (itemTokens items) := by
  induction items with
  | nil => exact .nil
  | cons item rest ih =>
    have hrest := ih fun item h' => h item (List.mem_cons_of_mem _ h')
    have hitem := (h item List.mem_cons_self).append hrest fun _ => endsWord_items depth rest
    have hform : writeItems depth (item :: rest)
        = ',' :: (newLine depth ++ (write depth item ++ writeItems depth rest)) := by
      simp [writeItems]
    rw [hform]
    exact (hitem.newLine depth).cons rfl

theorem lexes_member (depth : Nat) {member : String × Json}
    (h : Lexes (write depth member.2) member.2.tokens) :
    Lexes (writeMember depth member) (memberTokens member) := by
  unfold writeMember memberTokens
  exact (Lexes.quoted member.1).append ((h.space rfl).cons rfl) fun _ _ => .of_start rfl _

theorem lexes_members (depth : Nat) {members : List (String × Json)}
    (h : ∀ member ∈ members, Lexes (write depth member.2) member.2.tokens) :
    Lexes (writeMembers depth members) (membersTokens members) := by
  induction members with
  | nil => exact .nil
  | cons member rest ih =>
    have hrest := ih fun member h' => h member (List.mem_cons_of_mem _ h')
    have hmember := (lexes_member depth (h member List.mem_cons_self)).append hrest
      fun _ => endsWord_members depth rest
    have hform : writeMembers depth (member :: rest)
        = ',' :: (newLine depth ++ (writeMember depth member ++ writeMembers depth rest)) := by
      simp [writeMembers]
    rw [hform]
    exact (hmember.newLine depth).cons rfl

/-- The end of a container, on a line of its own. -/
theorem lexes_close {c : Char} {token : Token} (hc : start c = (.between, [token])) (depth : Nat) :
    Lexes (newLine depth ++ [c]) [token] := (Lexes.nil.cons hc).newLine depth

theorem endsWord_newLine (depth : Nat) (text : List Char) : EndsWord (newLine depth ++ text) :=
  .of_start rfl _

theorem lexes_write {room : Nat} {document : Json} (h : Fits room document) (depth : Nat) :
    Lexes (write depth document) document.tokens := by
  induction h generalizing depth with
  | null =>
    unfold write tokens
    exact .word (by decide) (List.all_eq_true.1 rfl) rfl
  | bool _ b =>
    unfold tokens
    cases b with
    | true =>
      unfold write
      exact .word (by decide) (List.all_eq_true.1 rfl) rfl
    | false =>
      unfold write
      exact .word (by decide) (List.all_eq_true.1 rfl) rfl
  | @integer _ i hkept =>
    refine .word ?_ ?_ (readBare?_intDigits hkept)
    · unfold write intDigits
      split
      · simp
      · exact natDigits_ne_nil _
    · exact fun c hc => isBare_of_isNumeral (isNumeral_intDigits hc)
  | real _ x =>
    unfold write tokens
    by_cases hfinite : x.isFinite = true
    · obtain ⟨hread, hne, hbare⟩ := readBare?_text hfinite
      rw [if_pos hfinite]
      exact .word hne hbare hread
    · rw [if_neg hfinite, text_of_not_finite (by simpa using hfinite)]
      exact .word (by decide) (List.all_eq_true.1 rfl) rfl
  | string _ s => exact .quoted s
  | @array _ items _ ih =>
    cases items with
    | nil => exact (Lexes.nil.cons rfl).cons rfl
    | cons item rest =>
      have hitem := ih item List.mem_cons_self (depth + 1)
      have hrest := lexes_items (depth + 1) fun item h' =>
        ih item (List.mem_cons_of_mem _ h') (depth + 1)
      have hform : write depth (.array (item :: rest)) = '[' :: (newLine (depth + 1)
          ++ (write (depth + 1) item ++ (writeItems (depth + 1) rest
            ++ (newLine depth ++ [']'])))) := by
        simp [write]
      rw [hform]
      refine (Lexes.newLine _ (hitem.append (hrest.append (lexes_close rfl depth) ?_) ?_)).cons rfl
      · intro after _
        rw [List.append_assoc]
        exact endsWord_newLine depth _
      · intro after hafter
        rw [List.append_assoc]
        refine endsWord_items _ rest ?_
        rw [List.append_assoc]
        exact endsWord_newLine depth _
  | @object _ members _ ih =>
    cases members with
    | nil => exact (Lexes.nil.cons rfl).cons rfl
    | cons member rest =>
      have hmember := lexes_member (depth + 1) (ih member List.mem_cons_self (depth + 1))
      have hrest := lexes_members (depth + 1) fun member h' =>
        ih member (List.mem_cons_of_mem _ h') (depth + 1)
      have hform : write depth (.object (member :: rest)) = '\x7b' :: (newLine (depth + 1)
          ++ (writeMember (depth + 1) member ++ (writeMembers (depth + 1) rest
            ++ (newLine depth ++ ['\x7d'])))) := by
        simp [write]
      rw [hform]
      refine (Lexes.newLine _ (hmember.append (hrest.append (lexes_close rfl depth) ?_) ?_)).cons
        rfl
      · intro after _
        rw [List.append_assoc]
        exact endsWord_newLine depth _
      · intro after hafter
        rw [List.append_assoc]
        refine endsWord_members _ rest ?_
        rw [List.append_assoc]
        exact endsWord_newLine depth _

/-! ## Documents -/

mutual

/-- What a written document is read as. -/
def reread : Json → Json
  | .real x => if x.isFinite then .real x else .null
  | .unreadable => .null
  | .array items => .array (rereadItems items)
  | .object members => .object (rereadMembers members)
  | .null => .null
  | .bool b => .bool b
  | .integer i => .integer i
  | .string s => .string s

def rereadItems : List Json → List Json
  | [] => []
  | item :: rest => item.reread :: rereadItems rest

def rereadMembers : List (String × Json) → List (String × Json)
  | [] => []
  | member :: rest => rereadMember member :: rereadMembers rest

def rereadMember : String × Json → String × Json
  | (key, value) => (key, value.reread)

end

theorem rereadItems_eq (items : List Json) : rereadItems items = items.map reread := by
  induction items with
  | nil => rfl
  | cons item rest ih => rw [rereadItems, ih, List.map_cons]

theorem rereadMembers_eq (members : List (String × Json)) :
    rereadMembers members = members.map fun member => (member.1, member.2.reread) := by
  induction members with
  | nil => rfl
  | cons member rest ih =>
    obtain ⟨key, value⟩ := member
    rw [rereadMembers, rereadMember, ih, List.map_cons]

/-- The tokens of a document, and what they are parsed to wherever a value may stand. -/
def Parses (room : Nat) (tokens : List Token) (value : Json) : Prop :=
  ∀ (stack : List Open) (rest : List Token), stack.length + room ≤ deepest →
    run (.value stack) (tokens ++ rest) = run (put value stack) rest

theorem run_cons {state next : State} {token : Token} {rest : List Token}
    (h : parseStep state token = some next) : run state (token :: rest) = run next rest := by
  rw [run, h]

theorem tokens_head (document : Json) :
    ∃ token rest, document.tokens = token :: rest ∧ token ≠ .closeArray := by
  unfold tokens
  split <;> exact ⟨_, _, rfl, by simp⟩

/-- The first item of an array is parsed like any other value. -/
theorem run_firstItem (document : Json) (stack : List Open) (rest : List Token) :
    run (.firstItem stack) (document.tokens ++ rest)
      = run (.value (.array [] :: stack)) (document.tokens ++ rest) := by
  obtain ⟨token, more, htokens, hclose⟩ := tokens_head document
  have hstep : parseStep (.firstItem stack) token
      = parseStep (.value (.array [] :: stack)) token := by
    cases token <;> first | rfl | exact absurd rfl hclose
  rw [htokens, List.cons_append, run, run, hstep]

theorem run_items {room : Nat} {items : List Json}
    (h : ∀ item ∈ items, Parses room item.tokens item.reread) (before : List Json)
    {stack : List Open} (hstack : stack.length + 1 + room ≤ deepest) (rest : List Token) :
    run (.afterItem before stack) (itemTokens items ++ rest)
      = run (.afterItem ((items.map reread).reverse ++ before) stack) rest := by
  induction items generalizing before with
  | nil => rfl
  | cons item items ih =>
    have hitem := h item List.mem_cons_self (.array before :: stack) (itemTokens items ++ rest)
      hstack
    rw [itemTokens, List.cons_append, run_cons rfl, List.append_assoc, hitem]
    show run (.afterItem (item.reread :: before) stack) _ = _
    rw [ih (fun item h' => h item (List.mem_cons_of_mem _ h')), List.map_cons, List.reverse_cons,
      List.append_assoc]
    rfl

theorem run_member {room : Nat} {member : String × Json}
    (h : Parses room member.2.tokens member.2.reread) (before : List (String × Json))
    {stack : List Open} (hstack : stack.length + 1 + room ≤ deepest) (rest : List Token) :
    run (.key (some before) stack) (memberTokens member ++ rest)
      = run (.afterMember (some ((member.1, member.2.reread) :: before)) stack) rest := by
  obtain ⟨key, value⟩ := member
  have hvalue := h (.object (some before) (some key.toList) :: stack) rest hstack
  rw [memberTokens, List.cons_append, run_cons rfl, List.cons_append, run_cons rfl, hvalue]
  show run (.afterMember (some ((String.ofList key.toList, value.reread) :: before)) stack) rest = _
  rw [String.ofList_toList]

theorem run_members {room : Nat} {members : List (String × Json)}
    (h : ∀ member ∈ members, Parses room member.2.tokens member.2.reread)
    (before : List (String × Json)) {stack : List Open}
    (hstack : stack.length + 1 + room ≤ deepest) (rest : List Token) :
    run (.afterMember (some before) stack) (membersTokens members ++ rest)
      = run (.afterMember (some ((members.map fun member =>
          (member.1, member.2.reread)).reverse ++ before)) stack) rest := by
  induction members generalizing before with
  | nil => rfl
  | cons member members ih =>
    rw [membersTokens, List.cons_append, run_cons rfl, List.append_assoc,
      run_member (h member List.mem_cons_self) before hstack,
      ih (fun member h' => h member (List.mem_cons_of_mem _ h')), List.map_cons, List.reverse_cons,
      List.append_assoc]
    rfl

theorem closed_eq {stack : List Open} (h : stack.length < deepest) (value : Json) :
    closed stack value = put value stack := by
  unfold closed
  rw [if_pos h]

theorem parses_tokens {room : Nat} {document : Json} (h : Fits room document) :
    Parses room document.tokens document.reread := by
  induction h with
  | null | bool | integer => intro _ _ _; rfl
  | real _ x =>
    intro stack rest _
    unfold tokens reread
    rfl
  | string _ s =>
    intro stack rest _
    show run (put (.string (String.ofList s.toList)) stack) rest = _
    rw [String.ofList_toList]
    rfl
  | @array room items _ ih =>
    intro stack rest hstack
    have hclosed (value : Json) : closed stack value = put value stack :=
      closed_eq (by omega) value
    cases items with
    | nil =>
      show run (closed stack (.array [])) rest = _
      rw [hclosed]
      rfl
    | cons item items =>
      have hstack' : stack.length + 1 + room ≤ deepest := by omega
      have hitem := ih item List.mem_cons_self (.array [] :: stack)
        (itemTokens items ++ ([.closeArray] ++ rest)) hstack'
      have hitems := run_items (fun item h' => ih item (List.mem_cons_of_mem _ h'))
        [item.reread] hstack' ([.closeArray] ++ rest)
      rw [tokens, List.cons_append, List.append_assoc, List.append_assoc, run_cons rfl,
        run_firstItem, hitem]
      refine hitems.trans ?_
      show run (closed stack (.array ((items.map reread).reverse ++ [item.reread]).reverse)) rest
        = _
      rw [hclosed, List.reverse_append, List.reverse_reverse, reread, rereadItems, rereadItems_eq]
      rfl
  | @object room members _ ih =>
    intro stack rest hstack
    have hclosed (value : Json) : closed stack value = put value stack :=
      closed_eq (by omega) value
    cases members with
    | nil =>
      show run (closed stack (.object [])) rest = _
      rw [hclosed]
      rfl
    | cons member members =>
      have hstack' : stack.length + 1 + room ≤ deepest := by omega
      have hmember := run_member (ih member List.mem_cons_self) [] hstack'
        (membersTokens members ++ ([.closeObject] ++ rest))
      have hmembers := run_members (fun member h' => ih member (List.mem_cons_of_mem _ h'))
        [(member.1, member.2.reread)] hstack' ([.closeObject] ++ rest)
      -- the first member stands in the same place as one behind a comma
      have hfirst (rest : List Token) : run (.firstKey stack) (memberTokens member ++ rest)
          = run (.key (some []) stack) (memberTokens member ++ rest) := by
        unfold memberTokens
        rfl
      rw [tokens, List.cons_append, List.append_assoc, List.append_assoc, run_cons rfl, hfirst,
        hmember]
      refine hmembers.trans ?_
      show run (closed stack (.object (_ ++ [(member.1, member.2.reread)]).reverse)) rest = _
      rw [hclosed, List.reverse_append, List.reverse_reverse, reread, rereadMembers_eq]
      rfl

/-- A document is read from any text that has its tokens. -/
theorem parse?_of_lexes {document : Json} {text : String} (h : Fits deepest document)
    (hlexes : Lexes text.toList document.tokens) : parse? text = some document.reread := by
  have hlex := hlexes [] rfl
  have hrun := parses_tokens h [] [] (by simp)
  unfold parse?
  rw [List.append_nil] at hlex hrun
  rw [hlex]
  show ofTokens? (document.tokens ++ []) = _
  unfold ofTokens?
  rw [List.append_nil, hrun]
  rfl

/-- A document is read back from its text. -/
theorem parse?_pretty {document : Json} (h : Fits deepest document) :
    parse? document.pretty = some document.reread := by
  apply parse?_of_lexes h
  rw [pretty, String.toList_ofList]
  exact lexes_write h 0

end Json
end Exemplar
