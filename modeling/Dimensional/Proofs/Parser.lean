import Dimensional.Proofs.Grammar
import Dimensional.Proofs.Sentence

/-!
The parser against the grammar. A reader is faithful to a phrase when all it accepts is a phrase
within the limits, with its tree; every phrase within the limits is read in full.
-/

set_option autoImplicit false

namespace Dimensional.Formula

open Parse (additive? multiplicative? power? chainFrom)

def Tier.operator? : Tier → TokenKind → Option Operator
  | .additive => additive?
  | .multiplicative => multiplicative?
  | .power => power?

theorem operator?_eq_some_iff (tier : Tier) (kind : TokenKind) (operator : Operator) :
    tier.operator? kind = some operator ↔ Joins tier kind operator := by
  constructor
  · intro found
    cases tier <;> cases kind <;> cases found <;> constructor
  · intro joins
    cases joins <;> rfl

/-- Reads what the operators of a tier join. `budget` more groups and minus signs may be opened. -/
def Tier.readOperand (budget : Nat) : Tier → List Token → Parsed
  | .additive => Parse.chain multiplicative? (Parse.chain power? (Parse.operand budget))
  | .multiplicative => Parse.chain power? (Parse.operand budget)
  | .power => Parse.operand budget

def Tier.read (budget : Nat) (tier : Tier) : List Token → Parsed :=
  Parse.chain tier.operator? (tier.readOperand budget)

theorem sum_operand (budget : Nat) :
    Parse.sum (Parse.operand budget) = Tier.additive.read budget := rfl

/-- Whatever the reader accepts is a phrase of at most this nesting, its operations low enough. -/
def Faithful (phrase : Phrase) (budget : Nat) (read : List Token → Parsed) : Prop :=
  ∀ tokens tree rest, read tokens = .ok (tree, rest) →
    ∃ front nesting, tokens = front ++ rest ∧ Derives phrase front tree nesting ∧
      nesting ≤ budget ∧ tree.OperationsWithin heightLimit

/-- The loop over a chain carries the height of its tree, and extends the tree by what it reads. -/
theorem chainFrom_faithful {tier : Tier} {budget : Nat} {read : List Token → Parsed}
    (operands : Faithful tier.below budget read) (fuel : Nat) :
    ∀ (left : Expr Float), left.OperationsWithin heightLimit →
      Faithful (.tail tier left) budget (chainFrom tier.operator? read fuel left left.depth) := by
  induction fuel with
  | zero =>
    intro left within tokens tree rest success
    obtain ⟨rfl, rfl⟩ := Prod.mk.inj (Except.ok.inj success)
    exact ⟨[], 0, rfl, .stop tier left, Nat.zero_le _, within⟩
  | succ fuel ih =>
    intro left within tokens tree rest success
    cases tokens with
    | nil =>
      obtain ⟨rfl, rfl⟩ := Prod.mk.inj (Except.ok.inj success)
      exact ⟨[], 0, rfl, .stop tier left, Nat.zero_le _, within⟩
    | cons token tokens =>
      rw [chainFrom] at success
      split at success
      · obtain ⟨rfl, rfl⟩ := Prod.mk.inj (Except.ok.inj success)
        exact ⟨[], 0, rfl, .stop tier left, Nat.zero_le _, within⟩
      · next operator found =>
        have joins := (operator?_eq_some_iff tier token.kind operator).1 found
        split at success
        · cases success
        · next right after reads =>
          dsimp only at success
          split at success
          · cases success
          · next low =>
            obtain ⟨front, inRight, rfl, derived, shallow, withinRight⟩ :=
              operands tokens right after reads
            have height : max left.depth right.depth + 1 =
                (Expr.binary left operator right).depth := Nat.add_comm _ _
            rw [height] at low success
            obtain ⟨back, inRest, rfl, continues, shallowRest, withinTree⟩ :=
              ih (.binary left operator right) ⟨Nat.le_of_not_lt low, within, withinRight⟩
                after tree rest success
            exact ⟨token :: (front ++ back), max inRight inRest, by simp,
              .step tier left right tree token operator front back inRight inRest joins derived
                continues, Nat.max_le.2 ⟨shallow, shallowRest⟩, withinTree⟩

theorem chain_faithful (tier : Tier) {budget : Nat} {read : List Token → Parsed}
    (operands : Faithful tier.below budget read) :
    Faithful (.chain tier) budget (Parse.chain tier.operator? read) := by
  intro tokens tree rest success
  rw [Parse.chain] at success
  split at success
  · cases success
  · next left after reads =>
    obtain ⟨front, inFirst, rfl, starts, shallow, within⟩ := operands tokens left after reads
    obtain ⟨back, inRest, rfl, continues, shallowRest, withinTree⟩ :=
      chainFrom_faithful operands after.length left within after tree rest success
    exact ⟨front ++ back, max inFirst inRest, by simp,
      .chain tier front back left tree inFirst inRest starts continues,
      Nat.max_le.2 ⟨shallow, shallowRest⟩, withinTree⟩

theorem Faithful.powers {budget : Nat} {read : List Token → Parsed}
    (operands : Faithful .operand budget read) :
    Faithful (.chain .power) budget (Parse.chain power? read) :=
  chain_faithful .power operands

theorem Faithful.products {budget : Nat} {read : List Token → Parsed}
    (operands : Faithful .operand budget read) :
    Faithful (.chain .multiplicative) budget
      (Parse.chain multiplicative? (Parse.chain power? read)) :=
  chain_faithful .multiplicative operands.powers

theorem sum_faithful {budget : Nat} {read : List Token → Parsed}
    (operands : Faithful .operand budget read) :
    Faithful (.chain .additive) budget (Parse.sum read) :=
  chain_faithful .additive operands.products

theorem close_ok {inner tree : Expr Float} {tokens rest : List Token}
    (success : Parse.close inner tokens = .ok (tree, rest)) :
    ∃ closing, tokens = closing :: rest ∧ closing.kind = .closeParen ∧ tree = inner := by
  cases tokens with
  | nil => cases success
  | cons token tokens =>
    rw [Parse.close] at success
    split at success
    · next closes =>
      obtain ⟨rfl, rfl⟩ := Prod.mk.inj (Except.ok.inj success)
      exact ⟨token, rfl, closes, rfl⟩
    · split at success <;> cases success

/-- The four ways in which an operand is accepted. -/
inductive Accepts (budget : Nat) (token : Token) (tokens : List Token) :
    Expr Float → List Token → Prop where
  | number (value : Float) (kind : token.kind = .number)
      (reads : Parse.numberValue? token.text.toList = some value) :
      Accepts budget token tokens (.number value) tokens
  | identifier (kind : token.kind = .identifier) :
      Accepts budget token tokens (.identifier token.text) tokens
  | negate (left : Nat) (inner : Expr Float) (rest : List Token) (kind : token.kind = .minus)
      (room : budget = left + 1) (operand : Parse.operand left tokens = .ok (inner, rest)) :
      Accepts budget token tokens (.negate inner) rest
  | group (left : Nat) (inner : Expr Float) (closing : Token) (rest : List Token)
      (kind : token.kind = .openParen) (room : budget = left + 1)
      (body : Parse.sum (Parse.operand left) tokens = .ok (inner, closing :: rest))
      (closes : closing.kind = .closeParen) : Accepts budget token tokens inner rest

theorem operand_ok {budget : Nat} {token : Token} {tokens rest : List Token} {tree : Expr Float}
    (success : Parse.operand budget (token :: tokens) = .ok (tree, rest)) :
    Accepts budget token tokens tree rest := by
  rw [Parse.operand.eq_def] at success
  dsimp only at success
  split at success
  · next kind =>
    split at success
    · next value reads =>
      obtain ⟨rfl, rfl⟩ := Prod.mk.inj (Except.ok.inj success)
      exact .number value kind reads
    · cases success
  · next kind =>
    obtain ⟨rfl, rfl⟩ := Prod.mk.inj (Except.ok.inj success)
    exact .identifier kind
  · next kind =>
    split at success
    · cases success
    · next left =>
      split at success
      · cases success
      · next inner after reads =>
        obtain ⟨rfl, rfl⟩ := Prod.mk.inj (Except.ok.inj success)
        exact .negate left inner after kind rfl reads
  · next kind =>
    split at success
    · cases success
    · next left =>
      split at success
      · cases success
      · next inner after reads =>
        obtain ⟨closing, rfl, closes, rfl⟩ := close_ok success
        exact .group left _ closing rest kind rfl reads closes
  · cases success

/-- The induction is on the budget, of which every group and every minus sign takes one. -/
theorem operand_faithful (budget : Nat) : Faithful .operand budget (Parse.operand budget) := by
  induction budget using Nat.strongRecOn with
  | ind budget ih =>
    intro tokens tree rest success
    cases tokens with
    | nil => rw [Parse.operand] at success; cases success
    | cons token tokens =>
      cases operand_ok success with
      | number value kind reads =>
        exact ⟨[token], 0, rfl, .number token value kind reads, Nat.zero_le _, trivial⟩
      | identifier kind => exact ⟨[token], 0, rfl, .identifier token kind, Nat.zero_le _, trivial⟩
      | negate left inner _ kind room operand =>
        subst room
        obtain ⟨front, nesting, rfl, derived, shallow, within⟩ :=
          ih left (Nat.lt_succ_self left) tokens inner rest operand
        exact ⟨token :: front, nesting + 1, rfl, .negate token front inner nesting kind derived,
          Nat.succ_le_succ shallow, within⟩
      | group left _ closing _ kind room body closes =>
        subst room
        obtain ⟨front, nesting, rfl, derived, shallow, within⟩ :=
          sum_faithful (ih left (Nat.lt_succ_self left)) tokens tree (closing :: rest) body
        exact ⟨token :: (front ++ [closing]), nesting + 1, by simp,
          .group token closing front tree nesting kind closes derived,
          Nat.succ_le_succ shallow, within⟩

theorem operand_number {token : Token} {value : Float} (kind : token.kind = .number)
    (reads : Parse.numberValue? token.text.toList = some value) (budget : Nat)
    (rest : List Token) :
    Parse.operand budget (token :: rest) = .ok (.number value, rest) := by
  rw [Parse.operand.eq_def]
  simp only [kind, reads]

theorem operand_identifier {token : Token} (kind : token.kind = .identifier) (budget : Nat)
    (rest : List Token) :
    Parse.operand budget (token :: rest) = .ok (.identifier token.text, rest) := by
  rw [Parse.operand.eq_def]
  simp only [kind]

theorem operand_negate {sign : Token} {budget : Nat} {tokens rest : List Token}
    {inner : Expr Float} (kind : sign.kind = .minus)
    (operand : Parse.operand budget tokens = .ok (inner, rest)) :
    Parse.operand (budget + 1) (sign :: tokens) = .ok (.negate inner, rest) := by
  rw [Parse.operand.eq_def]
  simp only [kind, operand]

theorem operand_group {opening closing : Token} {budget : Nat} {tokens rest : List Token}
    {inner : Expr Float} (opens : opening.kind = .openParen) (closes : closing.kind = .closeParen)
    (body : Tier.additive.read budget tokens = .ok (inner, closing :: rest)) :
    Parse.operand (budget + 1) (opening :: tokens) = .ok (inner, rest) := by
  rw [Parse.operand.eq_def]
  simp only [opens, sum_operand, body, Parse.close, closes, ↓reduceIte]

/-- What follows a chain is left to others. -/
theorem chainFrom_stop {tier : Tier} {rest : List Token} (ends : (Phrase.chain tier).EndsAt rest)
    (read : List Token → Parsed) (fuel : Nat) (left : Expr Float) (height : Nat) :
    chainFrom tier.operator? read fuel left height rest = .ok (left, rest) := by
  cases fuel with
  | zero => rfl
  | succ fuel =>
    cases rest with
    | nil => rfl
    | cons token tokens =>
      have absent : tier.operator? token.kind = none := by
        cases found : tier.operator? token.kind with
        | none => rfl
        | some operator =>
          have joins := (operator?_eq_some_iff tier token.kind operator).1 found
          exact absurd joins.binds (ends token tokens rfl)
      rw [chainFrom, absent]

theorem chainFrom_step {tier : Tier} {token : Token} {operator : Operator}
    {left right : Expr Float} {tokens after : List Token} {read : List Token → Parsed}
    (joins : Joins tier token.kind operator) (reads : read tokens = .ok (right, after))
    (low : (Expr.binary left operator right).depth ≤ heightLimit) (fuel : Nat) :
    chainFrom tier.operator? read (fuel + 1) left left.depth (token :: tokens) =
      chainFrom tier.operator? read fuel (.binary left operator right)
        (Expr.binary left operator right).depth after := by
  have found := (operator?_eq_some_iff tier token.kind operator).2 joins
  have height : max left.depth right.depth + 1 = (Expr.binary left operator right).depth :=
    Nat.add_comm _ _
  rw [chainFrom, found]
  simp only [reads, height, Nat.not_lt.2 low, ↓reduceIte]

/-- The tree before a tail is part of the tree after it. -/
theorem Derives.left_within {tier : Tier} {left tree : Expr Float} {tokens : List Token}
    {nesting limit : Nat} (continues : Derives (.tail tier left) tokens tree nesting)
    (within : tree.OperationsWithin limit) : left.OperationsWithin limit := by
  generalize shape : Phrase.tail tier left = phrase at continues
  induction continues generalizing left with
  | stop tier' left' =>
    cases shape
    exact within
  | step tier' left' right tree token operator tokens rest inRight inRest joins operand continues
      _ ih =>
    cases shape
    exact (ih within rfl).2.1
  | _ => cases shape

/-- The tokens are read as the tree, and `rest` is left. -/
def Phrase.Reads (budget : Nat) (tokens : List Token) (tree : Expr Float) (rest : List Token) :
    Phrase → Prop
  | .operand => Parse.operand budget (tokens ++ rest) = .ok (tree, rest)
  | .chain tier => tier.read budget (tokens ++ rest) = .ok (tree, rest)
  | .tail tier left => ∀ fuel, tokens.length ≤ fuel →
      chainFrom tier.operator? (tier.readOperand budget) fuel left left.depth (tokens ++ rest) =
        .ok (tree, rest)

theorem Phrase.Reads.readOperand {tier : Tier} {budget : Nat} {tokens rest : List Token}
    {tree : Expr Float} (reads : tier.below.Reads budget tokens tree rest) :
    tier.readOperand budget (tokens ++ rest) = .ok (tree, rest) := by
  cases tier <;> exact reads

/-- A phrase within the limits is read in full. -/
theorem Derives.reads {phrase : Phrase} {tokens : List Token} {tree : Expr Float} {nesting : Nat}
    (derived : Derives phrase tokens tree nesting) :
    ∀ (budget : Nat) (rest : List Token), nesting ≤ budget → tree.OperationsWithin heightLimit →
      phrase.EndsAt rest → phrase.Reads budget tokens tree rest := by
  induction derived with
  | number token value kind reads =>
    intro budget rest _ _ _
    exact operand_number kind reads budget rest
  | identifier token kind =>
    intro budget rest _ _ _
    exact operand_identifier kind budget rest
  | negate sign tokens tree nesting kind operand ih =>
    intro budget rest shallow within _
    obtain ⟨left, rfl⟩ : ∃ left, budget = left + 1 := ⟨budget - 1, by omega⟩
    exact operand_negate kind (ih left rest (Nat.le_of_succ_le_succ shallow) within trivial)
  | group opening closing tokens tree nesting opens closes inner ih =>
    intro budget rest shallow within _
    obtain ⟨left, rfl⟩ : ∃ left, budget = left + 1 := ⟨budget - 1, by omega⟩
    have body : Tier.additive.read left (tokens ++ closing :: rest) = .ok (tree, closing :: rest) :=
      ih left (closing :: rest) (Nat.le_of_succ_le_succ shallow) within
        (endsAt_closing closes .additive rest)
    simpa [Phrase.Reads] using operand_group opens closes body
  | chain tier front back left tree inFront inBack starts continues ihStarts ihContinues =>
    intro budget rest shallow within ends
    have first := ihStarts budget (back ++ rest) (Nat.le_trans (Nat.le_max_left _ _) shallow)
      (continues.left_within within) (continues.endsAt_below ends)
    have loop := ihContinues budget rest (Nat.le_trans (Nat.le_max_right _ _) shallow) within ends
    change Parse.chain _ _ _ = _
    rw [List.append_assoc, Parse.chain, first.readOperand]
    exact loop _ (by simp)
  | stop tier left =>
    intro budget rest _ _ ends fuel _
    exact chainFrom_stop ends _ fuel left left.depth
  | step tier left right tree token operator tokens back inRight inBack joins operand continues
      ihOperand ihContinues =>
    intro budget rest shallow within ends fuel room
    obtain ⟨low, _, withinRight⟩ := continues.left_within within
    have reads := ihOperand budget (back ++ rest) (Nat.le_trans (Nat.le_max_left _ _) shallow)
      withinRight (continues.endsAt_below ends)
    simp only [List.length_cons, List.length_append] at room
    obtain ⟨fuel, rfl⟩ := Nat.exists_eq_add_of_le' (Nat.le_trans (Nat.le_add_left 1 _) room)
    rw [List.cons_append, List.append_assoc, chainFrom_step joins reads.readOperand low fuel]
    exact ihContinues budget rest (Nat.le_trans (Nat.le_max_right _ _) shallow) within ends fuel
      (by omega)

/-- A phrase has no token that is the end of the input, and none that is unknown. -/
theorem Derives.kinds {phrase : Phrase} {tokens : List Token} {tree : Expr Float} {nesting : Nat}
    (derived : Derives phrase tokens tree nesting) :
    ∀ token ∈ tokens, token.kind ≠ .endOfInput ∧ token.kind ≠ .unknown := by
  induction derived with
  | number token value kind reads => simp [kind]
  | identifier token kind => simp [kind]
  | negate sign tokens tree nesting kind operand ih => simpa [kind] using ih
  | group opening closing tokens tree nesting opens closes inner ih =>
    simp only [List.mem_cons, List.mem_append, List.not_mem_nil, or_false]
    rintro token (rfl | inside | rfl)
    · simp [opens]
    · exact ih token inside
    · simp [closes]
  | chain tier front back left tree inFront inBack starts continues ihStarts ihContinues =>
    simp only [List.mem_append]
    rintro token (inside | inside)
    · exact ihStarts token inside
    · exact ihContinues token inside
  | stop tier left => simp
  | step tier left right tree token operator tokens back inRight inBack joins operand continues
      ihOperand ihContinues =>
    simp only [List.mem_cons, List.mem_append]
    rintro other (rfl | inside | inside)
    · cases kind : other.kind <;> rw [kind] at joins <;> cases joins <;> simp
    · exact ihOperand other inside
    · exact ihContinues other inside

theorem Derives.notEnd {phrase : Phrase} {tokens : List Token} {tree : Expr Float} {nesting : Nat}
    (derived : Derives phrase tokens tree nesting) :
    ∀ token ∈ tokens, token.kind ≠ .endOfInput :=
  fun token inside => (derived.kinds token inside).1

theorem endsAt_end {last : Token} (ends : last.kind = .endOfInput) (tier : Tier) :
    (Phrase.chain tier).EndsAt [last] := by
  rintro token tokens shape ⟨other, operator, _, joins⟩
  obtain ⟨rfl, _⟩ := List.cons.inj shape
  rw [ends] at joins
  cases joins

/-- A sentence followed by the end of the input is what the parser was given. -/
theorem sentence_of_front {text : String} {front rest : List Token} {token : Token}
    (shape : Token.scan text = front ++ token :: rest) (ends : token.kind = .endOfInput)
    (before : ∀ token ∈ front, token.kind ≠ .endOfInput) : Token.sentence text = front := by
  have kept : ∀ token ∈ front, (token.kind != .endOfInput) = true := by
    intro token inside
    simpa using before token inside
  rw [Token.sentence, shape, List.takeWhile_append_of_pos kept]
  simp [ends]

theorem derives_of_parse {text : String} {tree : Expr Float}
    (success : Expr.parse text = .ok tree) :
    ∃ nesting, Derives (.chain .additive) (Token.sentence text) tree nesting ∧
      nesting ≤ nestingLimit - 1 ∧ tree.OperationsWithin heightLimit := by
  rw [Expr.parse, Parse.tokens] at success
  split at success
  · cases success
  · next found reads =>
    cases success
    obtain ⟨front, nesting, shape, derived, shallow, within⟩ :=
      sum_faithful (operand_faithful _) _ _ _ reads
    obtain ⟨last, scanned, ends, _⟩ := Token.scan_eq_sentence text
    rw [List.append_nil, scanned] at shape
    exact absurd ends (derived.notEnd last (shape ▸ List.mem_append_right _ List.mem_cons_self))
  · next found token rest reads =>
    split at success
    · next ends =>
      cases success
      obtain ⟨front, nesting, shape, derived, shallow, within⟩ :=
        sum_faithful (operand_faithful _) _ _ _ reads
      rw [sentence_of_front shape ends derived.notEnd]
      exact ⟨nesting, derived, shallow, within⟩
    · cases success

theorem parse_of_derives {text : String} {tree : Expr Float} {nesting : Nat}
    (derived : Derives (.chain .additive) (Token.sentence text) tree nesting)
    (shallow : nesting ≤ nestingLimit - 1) (within : tree.OperationsWithin heightLimit) :
    Expr.parse text = .ok tree := by
  obtain ⟨last, scanned, ends, _⟩ := Token.scan_eq_sentence text
  have reads : Tier.additive.read (nestingLimit - 1) (Token.sentence text ++ [last]) =
      .ok (tree, [last]) :=
    derived.reads _ [last] shallow within (endsAt_end ends .additive)
  rw [Expr.parse, Parse.tokens, scanned, sum_operand, reads]
  simp [ends]

/-- The parser accepts a text exactly when its tokens derive a tree in the grammar, with no token
inside more than 199 groups and minus signs and no operation higher than 1024, and gives that tree;
all other texts are refused. The grammar gives a sentence one tree, and no number in it is without a
value. -/
theorem parse_ok_iff_derives (text : String) :
    (∀ tree, Expr.parse text = .ok tree ↔
      ∃ nesting, Derives (.chain .additive) (Token.sentence text) tree nesting ∧
        nesting ≤ 199 ∧ tree.OperationsWithin 1024) ∧
    (∀ tree other nesting count, Derives (.chain .additive) (Token.sentence text) tree nesting →
      Derives (.chain .additive) (Token.sentence text) other count →
        tree = other ∧ nesting = count) ∧
    ((∃ error, Expr.parse text = .error error) ↔
      ¬ ∃ tree nesting, Derives (.chain .additive) (Token.sentence text) tree nesting ∧
        nesting ≤ 199 ∧ tree.OperationsWithin 1024) ∧
    ∀ token ∈ Token.sentence text, token.kind = .number →
      ∃ value, Parse.numberValue? token.text.toList = some value := by
  have exact_tree : ∀ tree, Expr.parse text = .ok tree ↔
      ∃ nesting, Derives (.chain .additive) (Token.sentence text) tree nesting ∧
        nesting ≤ 199 ∧ tree.OperationsWithin 1024 := fun tree =>
    ⟨derives_of_parse, fun ⟨_, derived, shallow, within⟩ => parse_of_derives derived shallow within⟩
  refine ⟨exact_tree, ?_, ?_, ?_⟩
  · intro tree other nesting count derived again
    have ended : (Phrase.chain .additive).EndsAt [] := by
      intro token tokens shape
      cases shape
    exact (derived.unique again ended ended rfl).2
  · constructor
    · rintro ⟨error, failed⟩ ⟨tree, derivation⟩
      rw [(exact_tree tree).2 derivation] at failed
      cases failed
    · intro none
      cases outcome : Expr.parse text with
      | error error => exact ⟨error, rfl⟩
      | ok tree => exact absurd ⟨tree, (exact_tree tree).1 outcome⟩ none
  · intro token inside kind
    obtain ⟨_, _, _, lexical⟩ := Token.scan_eq_sentence text
    exact Option.isSome_iff_exists.1 (Lexeme.numberValue?_isSome ((lexical token inside).2 kind))

end Dimensional.Formula
