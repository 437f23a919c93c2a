import Dimensional.Proofs.LongestLexeme
import Dimensional.Proofs.Parser
import Dimensional.Proofs.Spelling

/-!
The tokens of a rendered tree. A tree whose numbers, names and operations can all be written is
rendered as one operand of the grammar, with this tree, whatever follows it after a blank or before
a closing parenthesis; each operation is one group deep, and a minus sign one more.
-/

set_option autoImplicit false

namespace Dimensional.Formula

namespace Expr

/-- Numbers are finite and have no sign, names are names, and every node has a meaning. -/
def Writable : Expr Float → Prop
  | number value => value.isFinite = true ∧ Binary64.signBit value = false
  | identifier name => IsName name.toList
  | negate operand => operand.Writable
  | binary left _ right => left.Writable ∧ right.Writable
  | invalid _ => False

/-- Whether a node of the tree stands for no expression. -/
def HasInvalid {α : Type} : Expr α → Prop
  | number _ => False
  | identifier _ => False
  | negate operand => operand.HasInvalid
  | binary left _ right => left.HasInvalid ∨ right.HasInvalid
  | invalid _ => True

/-- How many groups and minus signs the text of a tree nests. -/
def cost {α : Type} : Expr α → Nat
  | number _ => 0
  | identifier _ => 0
  | negate operand => 2 + operand.cost
  | binary left _ right => 1 + max left.cost right.cost
  | invalid _ => 0

end Expr

/-- A text goes on with a blank or a closing parenthesis, if it goes on. -/
def Delimited (rest : List Char) : Prop :=
  ∀ c later, rest = c :: later → c = ' ' ∨ c = ')'

namespace Lexeme

theorem endsBefore_number {rest : List Char} (delimited : Delimited rest) (cs : List Char) :
    EndsBefore .number cs rest := by
  intro first later more shape longer
  have part := longer.isNumber.isDecimalPart first (List.mem_append_right _ List.mem_cons_self)
  rcases delimited first later shape with rfl | rfl <;> exact absurd part (by decide)

theorem endsBefore_identifier {rest : List Char} (delimited : Delimited rest) (cs : List Char) :
    EndsBefore .identifier cs rest := by
  intro first later more shape longer
  have part := isIdentifierPart_of_mem longer.isName first
    (List.mem_append_right _ List.mem_cons_self)
  rcases delimited first later shape with rfl | rfl <;> exact absurd part (by decide)

end Lexeme

namespace Token

theorem scanFrom_skip (place : Place) (cs rest : List Char) :
    scanFrom place cs.length (cs ++ rest) = scanFrom (cs.foldl Place.after place) 0 rest := by
  induction cs generalizing place with
  | nil => rfl
  | cons c cs ih => exact ih (place.after c)

/-- A lexeme at the front of a text is its first token. -/
theorem scanFrom_read {kind : TokenKind} {c : Char} {cs rest : List Char}
    (solid : isBlank c = false) (known : kind ≠ .unknown)
    (reads : Lexeme.read c (cs ++ rest) = (kind, c :: cs)) (place : Place) :
    ∃ token next, scanFrom place 0 (c :: (cs ++ rest)) = token :: scanFrom next 0 rest ∧
      token.kind = kind ∧ token.text = String.ofList (c :: cs) := by
  refine ⟨ofLexeme kind (c :: cs) place, cs.foldl Place.after (place.after c), ?_,
    kind_ofLexeme _ _ _, text_ofLexeme _ _ _ known⟩
  rw [scanFrom_lexeme _ _ _ solid, reads]
  exact congrArg _ (scanFrom_skip (place.after c) cs rest)

theorem scanFrom_append {kind : TokenKind} {cs rest : List Char} (belongs : Lexeme.Belongs kind cs)
    (ends : Lexeme.EndsBefore kind cs rest) (place : Place) :
    ∃ token next, scanFrom place 0 (cs ++ rest) = token :: scanFrom next 0 rest ∧
      token.kind = kind ∧ token.text = String.ofList cs := by
  obtain ⟨c, later, rfl⟩ := List.exists_cons_of_ne_nil belongs.ne_nil
  exact scanFrom_read (belongs.solid c List.mem_cons_self) belongs.known.1
    (Lexeme.read_append belongs ends) place

theorem scanFrom_symbol {kind : TokenKind} {c : Char} (symbol : symbolKind? c = some kind)
    (rest : List Char) (place : Place) :
    ∃ token next, scanFrom place 0 (c :: rest) = token :: scanFrom next 0 rest ∧
      token.kind = kind := by
  obtain ⟨solid, known⟩ := Lexeme.isBlank_of_symbolKind? symbol
  have reads : Lexeme.read c ([] ++ rest) = (kind, [c]) := by simp [Lexeme.read, symbol]
  obtain ⟨token, next, scanned, same, -⟩ := scanFrom_read solid known reads place
  exact ⟨token, next, scanned, same⟩

theorem scanFrom_space (rest : List Char) (place : Place) :
    scanFrom place 0 (' ' :: rest) = scanFrom (place.after ' ') 0 rest :=
  scanFrom_blank place ' ' rest (by decide)

end Token

/-- What a tier joins is a chain of the tier by itself. -/
theorem Derives.single {tier : Tier} {tokens : List Token} {tree : Expr Float} {nesting : Nat}
    (alone : Derives tier.below tokens tree nesting) :
    Derives (.chain tier) tokens tree nesting := by
  simpa using Derives.chain tier tokens [] tree tree nesting 0 alone (.stop tier tree)

theorem Derives.below_of_operand {tokens : List Token} {tree : Expr Float} {nesting : Nat}
    (operand : Derives .operand tokens tree nesting) (tier : Tier) :
    Derives tier.below tokens tree nesting := by
  have power : Derives (.chain .power) tokens tree nesting := single operand
  cases tier with
  | additive => exact single power
  | multiplicative => exact power
  | power => exact operand

/-- A chain of any tier is a sum by itself. -/
theorem Derives.widen {tier : Tier} {tokens : List Token} {tree : Expr Float} {nesting : Nat}
    (chain : Derives (.chain tier) tokens tree nesting) :
    Derives (.chain .additive) tokens tree nesting := by
  cases tier with
  | additive => exact chain
  | multiplicative => exact single chain
  | power =>
    have product : Derives (.chain .multiplicative) tokens tree nesting := single chain
    exact single product

/-- A tail goes on with one more operator and its operand. -/
theorem Derives.extend {tier : Tier} {tokens back : List Token} {token : Token}
    {left tree right : Expr Float} {operator : Operator} {nesting inRight : Nat}
    (continues : Derives (.tail tier left) tokens tree nesting)
    (joins : Joins tier token.kind operator) (operand : Derives tier.below back right inRight) :
    Derives (.tail tier left) (tokens ++ token :: back) (.binary tree operator right)
      (max nesting inRight) := by
  generalize shape : Phrase.tail tier left = phrase at continues
  induction continues generalizing left with
  | stop tier' start =>
    cases shape
    simpa using Derives.step tier start right _ token operator back [] inRight 0 joins operand
      (.stop tier _)
  | step tier' start middle tree first before front rest inMiddle inRest joinsFirst starts
      continues _ ih =>
    cases shape
    simpa [Nat.max_assoc] using
      Derives.step tier start middle _ first before front _ inMiddle _ joinsFirst starts (ih rfl)
  | _ => cases shape

/-- A chain, an operator of its tier and an operand are a chain. -/
theorem Derives.join {tier : Tier} {front back : List Token} {token : Token}
    {left right : Expr Float} {operator : Operator} {inLeft inRight : Nat}
    (chain : Derives (.chain tier) front left inLeft) (joins : Joins tier token.kind operator)
    (operand : Derives tier.below back right inRight) :
    Derives (.chain tier) (front ++ token :: back) (.binary left operator right)
      (max inLeft inRight) := by
  cases chain with
  | chain _ first rest start _ inFirst inRest starts continues =>
    simpa [Nat.max_assoc] using
      Derives.chain tier first _ start _ inFirst _ starts (continues.extend joins operand)

/-- The characters are scanned as tokens that are a phrase with this tree, however the text goes on
after them. -/
def Scans (phrase : Phrase) (cs : List Char) (tree : Expr Float) (nesting : Nat) : Prop :=
  ∀ place rest, Delimited rest → ∃ tokens next,
    Token.scanFrom place 0 (cs ++ rest) = tokens ++ Token.scanFrom next 0 rest ∧
      Derives phrase tokens tree nesting

theorem Scans.imp {phrase other : Phrase} {cs : List Char} {tree : Expr Float} {nesting : Nat}
    (scans : Scans phrase cs tree nesting)
    (wider : ∀ tokens, Derives phrase tokens tree nesting → Derives other tokens tree nesting) :
    Scans other cs tree nesting := by
  intro place rest delimited
  obtain ⟨tokens, next, scanned, derived⟩ := scans place rest delimited
  exact ⟨tokens, next, scanned, wider tokens derived⟩

theorem Scans.sum {cs : List Char} {tree : Expr Float} {nesting : Nat}
    (operand : Scans .operand cs tree nesting) : Scans (.chain .additive) cs tree nesting :=
  operand.imp fun _ derived => (derived.below_of_operand .additive).single

/-- What is scanned at the end of a text is what the text derives. -/
theorem Scans.sentence {phrase : Phrase} {text : String} {tree : Expr Float} {nesting : Nat}
    (scans : Scans phrase text.toList tree nesting) :
    Derives phrase (Token.sentence text) tree nesting := by
  obtain ⟨tokens, next, scanned, derived⟩ := scans Place.start [] (by rintro c later ⟨⟩)
  rw [List.append_nil, Token.scanFrom_nil] at scanned
  rwa [sentence_of_front scanned rfl derived.notEnd]

/-- The text of a number is scanned as one token. -/
theorem scans_literal {cs : List Char} {value : Float} (number : Lexeme.IsNumber cs)
    (reads : Parse.numberValue? cs = some value) : Scans .operand cs (.number value) 0 := by
  intro place rest delimited
  obtain ⟨token, next, scanned, kind, lexeme⟩ :=
    Token.scanFrom_append (.number cs number) (Lexeme.endsBefore_number delimited cs) place
  refine ⟨[token], next, scanned, .number token value kind ?_⟩
  rw [lexeme, String.toList_ofList, reads]

theorem scans_number {value : Float} (finite : value.isFinite = true)
    (positive : Binary64.signBit value = false) :
    Scans .operand (NumberStyle.plain.render value).toList (.number value) 0 := by
  obtain ⟨d, spells, reads⟩ := NumberStyle.spells_render finite positive
  exact scans_literal spells.isDecimal.isNumber (spells.numberValue?.trans (congrArg some reads))

theorem scans_identifier {name : String} (isName : IsName name.toList) :
    Scans .operand name.toList (.identifier name) 0 := by
  intro place rest delimited
  obtain ⟨token, next, scanned, kind, lexeme⟩ := Token.scanFrom_append (.identifier _ isName)
    (Lexeme.endsBefore_identifier delimited name.toList) place
  have text : token.text = name := by rw [lexeme, String.ofList_toList]
  exact ⟨[token], next, scanned, text ▸ .identifier token kind⟩

/-- Parentheses make an operand of a sum. -/
theorem scans_group {cs : List Char} {tree : Expr Float} {nesting : Nat}
    (inner : Scans (.chain .additive) cs tree nesting) :
    Scans .operand ('(' :: (cs ++ [')'])) tree (nesting + 1) := by
  intro place rest _
  obtain ⟨opening, start, opened, opens⟩ :=
    Token.scanFrom_symbol (c := '(') rfl (cs ++ ')' :: rest) place
  obtain ⟨tokens, stop, scanned, derived⟩ := inner start (')' :: rest)
    (by rintro c later ⟨⟩; exact Or.inr rfl)
  obtain ⟨closing, next, closed, closes⟩ := Token.scanFrom_symbol (c := ')') rfl rest stop
  refine ⟨opening :: (tokens ++ [closing]), next, ?_,
    .group opening closing tokens tree nesting opens closes derived⟩
  simp [opened, scanned, closed]

theorem scans_negate {cs : List Char} {tree : Expr Float} {nesting : Nat}
    (operand : Scans .operand cs tree nesting) :
    Scans .operand ('-' :: cs) (.negate tree) (nesting + 1) := by
  intro place rest delimited
  obtain ⟨sign, start, signed, kind⟩ := Token.scanFrom_symbol (c := '-') rfl (cs ++ rest) place
  obtain ⟨tokens, next, scanned, derived⟩ := operand start rest delimited
  refine ⟨sign :: tokens, next, ?_, .negate sign tokens tree nesting kind derived⟩
  simp [signed, scanned]

theorem joins_symbol (operator : Operator) :
    ∃ c kind tier, operator.symbol.toList = [c] ∧ symbolKind? c = some kind ∧
      Joins tier kind operator := by
  cases operator with
  | add => exact ⟨'+', .plus, .additive, rfl, rfl, .plus⟩
  | subtract => exact ⟨'-', .minus, .additive, rfl, rfl, .minus⟩
  | multiply => exact ⟨'*', .multiply, .multiplicative, rfl, rfl, .times⟩
  | divide => exact ⟨'/', .divide, .multiplicative, rfl, rfl, .over⟩
  | power => exact ⟨'^', .caret, .power, rfl, rfl, .caret⟩
  | modulo => exact ⟨'%', .percent, .multiplicative, rfl, rfl, .remainder⟩

/-- The blank after the chain ends its last lexeme. -/
theorem scans_join {tier : Tier} {front back : List Char} {c : Char} {kind : TokenKind}
    {left right : Expr Float} {operator : Operator} {inLeft inRight : Nat}
    (chain : Scans (.chain tier) front left inLeft) (symbol : symbolKind? c = some kind)
    (joins : Joins tier kind operator) (operand : Scans tier.below back right inRight) :
    Scans (.chain tier) (front ++ ' ' :: c :: ' ' :: back) (.binary left operator right)
      (max inLeft inRight) := by
  intro place rest delimited
  obtain ⟨tokens, middle, scanned, derived⟩ :=
    chain place (' ' :: (c :: ' ' :: (back ++ rest))) (by rintro c later ⟨⟩; exact Or.inl rfl)
  obtain ⟨token, start, joined, same⟩ :=
    Token.scanFrom_symbol symbol (' ' :: (back ++ rest)) (middle.after ' ')
  obtain ⟨others, next, scanned', derived'⟩ := operand (start.after ' ') rest delimited
  refine ⟨tokens ++ token :: others, next, ?_, derived.join (same ▸ joins) derived'⟩
  simp [scanned, Token.scanFrom_space, joined, scanned']

theorem scans_pair {front back : List Char} {left right : Expr Float} {inLeft inRight : Nat}
    (first : Scans .operand front left inLeft) (operator : Operator)
    (second : Scans .operand back right inRight) :
    Scans (.chain .additive) (front ++ ' ' :: (operator.symbol.toList ++ ' ' :: back))
      (.binary left operator right) (max inLeft inRight) := by
  obtain ⟨c, kind, tier, text, symbol, joins⟩ := joins_symbol operator
  rw [text]
  have chain := first.imp fun _ derived => (derived.below_of_operand tier).single
  have operand := second.imp fun _ derived => derived.below_of_operand tier
  exact (scans_join chain symbol joins operand).imp fun _ derived => derived.widen

/-- A tree that can be written is rendered as an operand, as deep as its cost. -/
theorem scans_render (tree : Expr Float) (writable : tree.Writable) :
    Scans .operand tree.render.toList tree tree.cost := by
  induction tree with
  | number value => exact scans_number writable.1 writable.2
  | identifier name => exact scans_identifier writable
  | negate operand ih =>
    have group := scans_group (scans_negate (ih writable)).sum
    have depth : (Expr.negate operand).cost = operand.cost + 1 + 1 := by
      simp only [Expr.cost]
      omega
    simpa [Expr.render, depth] using group
  | binary left operator right ihLeft ihRight =>
    have group := scans_group (scans_pair (ihLeft writable.1) operator (ihRight writable.2))
    have depth : (Expr.binary left operator right).cost = max left.cost right.cost + 1 := by
      simp only [Expr.cost]
      omega
    simpa [Expr.render, depth] using group
  | invalid text => exact writable.elim

end Dimensional.Formula
