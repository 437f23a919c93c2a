import Dimensional.Proofs.Parser

/-!
A parser at work. Beside its answer a watched reader gives the nesting counter that it leaves behind
and what was to be seen on the way: every value of the counter, every successful call, every tree
that a loop over a chain has built. It counts up and down as it goes, without a budget, and its
answers are those of the parser.
-/

set_option autoImplicit false

namespace Dimensional.Formula

/-- What is to be seen of a parser. -/
inductive Sight where
  /-- The counter is set to a value. -/
  | counter (value : Int)
  /-- A call that found the counter at one value has given a tree and left it at the other. -/
  | returned (before after : Int)
  /-- A loop over a chain has this tree, and carries this height for it. -/
  | chain (tree : Expr Float) (height : Nat)

/-- An answer, the nesting counter after it, and what was seen on the way. -/
structure Watched (α : Type) where
  answer : Except ParseError α
  counter : Int
  seen : List Sight

/-- A reader of tokens that is told the nesting counter. -/
abbrev WatchedReader := Int → List Token → Watched (Expr Float × List Token)

namespace Watched

variable {α β : Type}

/-- Goes on with the value, if there is one, and with the counter as it is. -/
def andThen (first : Watched α) (next : α → Int → Watched β) : Watched β :=
  match first.answer with
  | .error error => ⟨.error error, first.counter, first.seen⟩
  | .ok value =>
    let second := next value first.counter
    ⟨second.answer, second.counter, first.seen ++ second.seen⟩

/-- Something is seen before all else. -/
def noting (sight : Sight) (watched : Watched α) : Watched α :=
  { watched with seen := sight :: watched.seen }

/-- The end of a call is seen if it has given a value. -/
def returning (before : Int) (watched : Watched α) : Watched α :=
  match watched.answer with
  | .error _ => watched
  | .ok _ => { watched with seen := watched.seen ++ [.returned before watched.counter] }

/-- Counts one more group or minus sign, and fails if there are too many. -/
def enter (counter : Int) : Watched Unit :=
  noting (.counter (counter + 1))
    ⟨if (nestingLimit : Int) < counter + 1 then .error .nestedTooDeeply else .ok (),
      counter + 1, []⟩

def leave (counter : Int) : Watched Unit :=
  noting (.counter (counter - 1)) ⟨.ok (), counter - 1, []⟩

/-- Counts around the body. A body that fails leaves the counter as it is. -/
def nested (counter : Int) (body : Int → Watched α) : Watched α :=
  (enter counter).andThen fun _ counter =>
    (body counter).andThen fun value counter =>
      (leave counter).andThen fun _ counter => ⟨.ok value, counter, []⟩

/-- Goes on with a chain, as the parser does, with the height of its tree so far. -/
def chainFrom (operator? : TokenKind → Option Operator) (operand : WatchedReader) :
    Nat → Expr Float → Nat → WatchedReader
  | 0, left, height, counter, tokens =>
    noting (.chain left height) ⟨.ok (left, tokens), counter, []⟩
  | _ + 1, left, height, counter, [] => noting (.chain left height) ⟨.ok (left, []), counter, []⟩
  | fuel + 1, left, height, counter, token :: tokens =>
    noting (.chain left height) <|
      match operator? token.kind with
      | none => ⟨.ok (left, token :: tokens), counter, []⟩
      | some operator =>
        (operand counter tokens).andThen fun right counter =>
          let height := max height right.1.depth + 1
          if heightLimit < height then ⟨.error .treeTooHigh, counter, []⟩
          else
            chainFrom operator? operand fuel (.binary left operator right.1) height counter right.2

def chain (operator? : TokenKind → Option Operator) (operand : WatchedReader) : WatchedReader :=
  fun counter tokens => returning counter <|
    (operand counter tokens).andThen fun first counter =>
      chainFrom operator? operand first.2.length first.1 first.1.depth counter first.2

def sum (operand : WatchedReader) : WatchedReader :=
  chain Parse.additive? (chain Parse.multiplicative? (chain Parse.power? operand))

/-- An expression counts as one level, the outermost one too. -/
def expression (operand : WatchedReader) : WatchedReader :=
  fun counter tokens =>
    returning counter <| nested counter fun counter => sum operand counter tokens

/-- An operand. Each call inside another takes a token first, so `fuel` tokens allow for `fuel`
calls one inside the other. -/
def operand : Nat → WatchedReader
  | 0, counter, _ => ⟨.error .unexpectedEnd, counter, []⟩
  | _ + 1, counter, [] => ⟨.error .unexpectedEnd, counter, []⟩
  | fuel + 1, counter, token :: rest =>
    returning counter <|
      match token.kind with
      | .number =>
        match Parse.numberValue? token.text.toList with
        | some value => ⟨.ok (.number value, rest), counter, []⟩
        | none => ⟨.error (.invalidNumber token), counter, []⟩
      | .identifier => ⟨.ok (.identifier token.text, rest), counter, []⟩
      | .minus =>
        (nested counter fun counter => operand fuel counter rest).andThen fun inner counter =>
          ⟨.ok (.negate inner.1, inner.2), counter, []⟩
      | .openParen =>
        (expression (operand fuel) counter rest).andThen fun inner counter =>
          ⟨Parse.close inner.1 inner.2, counter, []⟩
      | _ => ⟨.error (Parse.refuse token), counter, []⟩

/-- An expression and nothing after it. -/
def tokens (all : List Token) : Watched (Expr Float) :=
  (expression (operand all.length) 0 all).andThen fun whole counter =>
    match whole.2 with
    | [] => ⟨.ok whole.1, counter, []⟩
    | token :: _ =>
      ⟨if token.kind = .endOfInput then .ok whole.1 else .error (.unexpected token), counter, []⟩

end Watched

/-- The parse of a text, watched. -/
def watch (text : String) : Watched (Expr Float) := Watched.tokens (Token.scan text)

/-- The counter is in its range, or beyond it by one in a parse that fails for this. A successful
call leaves the counter as it was. The height that is carried for a tree is its height. -/
def Sight.Sound {α : Type} (answer : Except ParseError α) : Sight → Prop
  | .counter value => 0 ≤ value ∧ (value ≤ 200 ∨ value = 201 ∧ answer = .error .nestedTooDeeply)
  | .returned before after => after = before
  | .chain tree height => height = tree.depth

/-- What is sound of a parse with a value is sound of whatever the parse is part of. -/
theorem Sight.Sound.of_ok {α β : Type} {sight : Sight} {answer : Except ParseError α} {value : α}
    (sound : sight.Sound answer) (success : answer = .ok value) (other : Except ParseError β) :
    sight.Sound other := by
  cases sight with
  | counter count =>
    refine ⟨sound.1, Or.inl (sound.2.resolve_right ?_)⟩
    rintro ⟨-, failed⟩
    rw [success] at failed
    cases failed
  | returned before after => exact sound
  | chain tree height => exact sound

theorem Sight.Sound.of_error {α β : Type} {sight : Sight} {answer : Except ParseError α}
    {error : ParseError} (sound : sight.Sound answer) (failed : answer = .error error) :
    sight.Sound (.error error : Except ParseError β) := by
  cases sight with
  | counter count =>
    refine ⟨sound.1, sound.2.imp_right ?_⟩
    rintro ⟨beyond, deep⟩
    rw [failed] at deep
    cases deep
    exact ⟨beyond, rfl⟩
  | returned before after => exact sound
  | chain tree height => exact sound

/-- A faithful reader leaves part of its tokens. -/
theorem Faithful.length_le {phrase : Phrase} {budget : Nat} {read : List Token → Parsed}
    (faithful : Faithful phrase budget read) {tokens rest : List Token} {tree : Expr Float}
    (success : read tokens = .ok (tree, rest)) : rest.length ≤ tokens.length := by
  obtain ⟨front, _, rfl, _⟩ := faithful tokens tree rest success
  rw [List.length_append]
  exact Nat.le_add_left _ _

namespace Watched

variable {α β : Type}

/-- The answer is this one, all that was seen on the way is sound of it, and if it has a value, the
counter is now `after`. -/
structure Follows (after : Int) (watched : Watched α) (answer : Except ParseError α) : Prop where
  answers : watched.answer = answer
  counts : ∀ value, answer = .ok value → watched.counter = after
  sound : ∀ sight ∈ watched.seen, sight.Sound answer

theorem follows_idle (counter : Int) (answer : Except ParseError α) :
    Follows counter ⟨answer, counter, []⟩ answer :=
  ⟨rfl, fun _ _ => rfl, List.forall_mem_nil _⟩

theorem Follows.noting {after : Int} {watched : Watched α} {answer : Except ParseError α}
    (follows : watched.Follows after answer) {sight : Sight} (sound : sight.Sound answer) :
    (noting sight watched).Follows after answer :=
  ⟨follows.answers, follows.counts, List.forall_mem_cons.2 ⟨sound, follows.sound⟩⟩

/-- A call may be seen to return that leaves the counter as it was. -/
theorem Follows.returning {counter : Int} {watched : Watched α} {answer : Except ParseError α}
    (follows : watched.Follows counter answer) :
    (returning counter watched).Follows counter answer := by
  unfold Watched.returning
  split
  · exact follows
  · next value success =>
    have back := follows.counts value (follows.answers.symm.trans success)
    refine ⟨follows.answers, follows.counts, fun sight inside => ?_⟩
    rcases List.mem_append.1 inside with before | last
    · exact follows.sound sight before
    · rw [List.mem_singleton.1 last]
      exact back

/-- An error of the first part is the error of the whole; after a value the second part decides. -/
theorem Follows.andThen {middle after : Int} {first : Watched α} {next : α → Int → Watched β}
    {answer : Except ParseError α} {result : Except ParseError β}
    (starts : first.Follows middle answer)
    (fails : ∀ error, answer = .error error → result = .error error)
    (continues : ∀ value, answer = .ok value → (next value middle).Follows after result) :
    (first.andThen next).Follows after result := by
  unfold Watched.andThen
  split
  · next error failed =>
    rw [starts.answers] at failed
    refine ⟨(fails error failed).symm, fun value success => ?_, fun sight inside => ?_⟩
    · rw [fails error failed] at success
      cases success
    · rw [fails error failed]
      exact (starts.sound sight inside).of_error failed
  · next value success =>
    rw [starts.answers] at success
    rw [starts.counts value success]
    have rest := continues value success
    refine ⟨rest.answers, rest.counts, fun sight inside => ?_⟩
    rcases List.mem_append.1 inside with before | after
    · exact (starts.sound sight before).of_ok success result
    · exact rest.sound sight after

theorem Follows.andThen_error {middle after : Int} {first : Watched α} {next : α → Int → Watched β}
    {error : ParseError} (fails : first.Follows middle (.error error)) :
    (first.andThen next).Follows after (.error error) := by
  refine fails.andThen (fun cause same => ?_) fun value success => ?_
  · cases same
    rfl
  · cases success

theorem Follows.andThen_ok {middle after : Int} {first : Watched α} {next : α → Int → Watched β}
    {value : α} {result : Except ParseError β} (starts : first.Follows middle (.ok value))
    (continues : (next value middle).Follows after result) :
    (first.andThen next).Follows after result := by
  refine starts.andThen (fun cause failed => ?_) fun other success => ?_
  · cases failed
  · cases success
    exact continues

theorem follows_enter {counter : Int} (positive : 0 ≤ counter) (room : counter < 200) :
    (enter counter).Follows (counter + 1) (.ok ()) := by
  have low : ¬ ((nestingLimit : Int) < counter + 1) := by
    change ¬ ((200 : Int) < counter + 1)
    omega
  rw [enter, if_neg low]
  exact (follows_idle _ _).noting ⟨by omega, Or.inl (by omega)⟩

theorem follows_enter_full : (enter 200).Follows 201 (.error .nestedTooDeeply) :=
  (follows_idle 201 _).noting ⟨by decide, Or.inr ⟨rfl, rfl⟩⟩

theorem follows_leave {counter : Int} (positive : 0 ≤ counter) (room : counter < 200) :
    (leave (counter + 1)).Follows counter (.ok ()) := by
  rw [leave, Int.add_sub_cancel]
  exact (follows_idle _ _).noting ⟨positive, Or.inl (Int.le_of_lt room)⟩

/-- Around a body that restores the counter, the counter is restored. -/
theorem Follows.nested {counter : Int} {body : Int → Watched α} {answer : Except ParseError α}
    (positive : 0 ≤ counter) (room : counter < 200)
    (follows : (body (counter + 1)).Follows (counter + 1) answer) :
    (nested counter body).Follows counter answer := by
  refine (follows_enter positive room).andThen_ok ?_
  refine follows.andThen (fun _ failed => failed) fun value success => ?_
  refine (follows_leave positive room).andThen_ok ?_
  rw [success]
  exact follows_idle counter _

/-- At the limit there is no body. -/
theorem follows_nested_full (after : Int) (body : Int → Watched α) :
    (nested 200 body).Follows after (.error .nestedTooDeeply) :=
  follows_enter_full.andThen_error

/-- From this value of the counter the watched reader does on up to `most` tokens what the reader
does. -/
def Shadows (most : Nat) (counter : Int) (watched : WatchedReader) (read : List Token → Parsed) :
    Prop :=
  ∀ tokens : List Token, tokens.length ≤ most →
    (watched counter tokens).Follows counter (read tokens)

/-- The loop carries the height of its tree from step to step. -/
theorem chainFrom_shadows {tier : Tier} {budget most : Nat} {counter : Int}
    {watched : WatchedReader} {read : List Token → Parsed}
    (operands : Faithful tier.below budget read) (shadows : Shadows most counter watched read)
    (fuel : Nat) : ∀ left : Expr Float, Shadows most counter
      (chainFrom tier.operator? watched fuel left left.depth)
      (Parse.chainFrom tier.operator? read fuel left left.depth) := by
  induction fuel with
  | zero => exact fun left tokens _ => (follows_idle counter _).noting rfl
  | succ fuel ih =>
    intro left tokens few
    cases tokens with
    | nil => exact (follows_idle counter _).noting rfl
    | cons token tokens =>
      rw [chainFrom, Parse.chainFrom]
      refine Follows.noting ?_ rfl
      have fewer : tokens.length ≤ most := Nat.le_of_succ_le few
      cases tier.operator? token.kind with
      | none => exact follows_idle counter _
      | some operator =>
        refine (shadows tokens fewer).andThen (fun _ failed => by simp only [failed]) ?_
        rintro ⟨right, rest⟩ success
        have height : max left.depth right.depth + 1 =
            (Expr.binary left operator right).depth := Nat.add_comm _ _
        simp only [success, height]
        split
        · exact follows_idle counter _
        · exact ih (.binary left operator right) rest
            (Nat.le_trans (operands.length_le success) fewer)

theorem chain_shadows (tier : Tier) {budget most : Nat} {counter : Int} {watched : WatchedReader}
    {read : List Token → Parsed} (operands : Faithful tier.below budget read)
    (shadows : Shadows most counter watched read) :
    Shadows most counter (chain tier.operator? watched) (Parse.chain tier.operator? read) := by
  intro tokens few
  refine Follows.returning ((shadows tokens few).andThen (fun _ failed => ?_) ?_)
  · simp only [Parse.chain, failed]
  · rintro ⟨first, rest⟩ success
    simp only [Parse.chain, success]
    exact chainFrom_shadows operands shadows rest.length first rest
      (Nat.le_trans (operands.length_le success) few)

theorem sum_shadows {budget most : Nat} {counter : Int} {watched : WatchedReader}
    {read : List Token → Parsed} (operands : Faithful .operand budget read)
    (shadows : Shadows most counter watched read) :
    Shadows most counter (sum watched) (Parse.sum read) := by
  have powers := chain_shadows .power operands shadows
  have products := chain_shadows .multiplicative operands.powers powers
  exact chain_shadows .additive operands.products products

theorem expression_shadows {budget most : Nat} {counter : Int} {watched : WatchedReader}
    {read : List Token → Parsed} (positive : 0 ≤ counter) (room : counter < 200)
    (operands : Faithful .operand budget read) (shadows : Shadows most (counter + 1) watched read) :
    Shadows most counter (expression watched) (Parse.sum read) :=
  fun tokens few =>
    (Follows.nested positive room (sum_shadows operands shadows tokens few)).returning

/-- The counter and the budget of an operand make up the limit. The induction is on the tokens, of
which every operand takes one. -/
theorem operand_shadows (most : Nat) : ∀ (budget : Nat) (counter : Int), 0 ≤ counter →
    counter + budget = 200 → Shadows most counter (operand most) (Parse.operand budget) := by
  induction most with
  | zero =>
    intro budget counter _ _ tokens few
    rw [List.length_eq_zero_iff.1 (Nat.le_zero.1 few), Parse.operand]
    exact follows_idle counter _
  | succ most ih =>
    intro budget counter positive counts tokens few
    cases tokens with
    | nil =>
      rw [Parse.operand]
      exact follows_idle counter _
    | cons token rest =>
      rw [operand, Parse.operand.eq_def]
      refine Follows.returning ?_
      have fewer : rest.length ≤ most := Nat.le_of_succ_le_succ few
      dsimp only
      cases token.kind with
      | number =>
        cases Parse.numberValue? token.text.toList <;> exact follows_idle counter _
      | minus =>
        cases budget with
        | zero =>
          obtain rfl : counter = 200 := by simpa using counts
          exact (follows_nested_full 200 _).andThen_error
        | succ budget =>
          have inner := ih budget (counter + 1) (by omega) (by omega) rest fewer
          refine (inner.nested positive (by omega)).andThen ?_ ?_
          · exact fun _ failed => by simp only [failed]
          · rintro ⟨tree, after⟩ success
            simp only [success]
            exact follows_idle counter _
      | openParen =>
        cases budget with
        | zero =>
          obtain rfl : counter = 200 := by simpa using counts
          exact (follows_nested_full 200 _).returning.andThen_error
        | succ budget =>
          have inner := expression_shadows positive (by omega) (operand_faithful budget)
            (ih budget (counter + 1) (by omega) (by omega)) rest fewer
          refine inner.andThen ?_ ?_
          · exact fun _ failed => by simp only [failed]
          · rintro ⟨tree, after⟩ success
            simp only [success]
            exact follows_idle counter _
      | _ => exact follows_idle counter _

theorem tokens_follows (all : List Token) : (tokens all).Follows 0 (Parse.tokens all) := by
  have whole : (expression (operand all.length) 0 all).Follows 0
      (Parse.sum (Parse.operand (nestingLimit - 1)) all) :=
    expression_shadows (by decide) (by decide) (operand_faithful _)
      (operand_shadows all.length (nestingLimit - 1) 1 (by decide) rfl) all (Nat.le_refl _)
  refine whole.andThen (fun _ failed => by simp only [Parse.tokens, failed]) ?_
  rintro ⟨tree, rest⟩ success
  simp only [Parse.tokens, success]
  cases rest <;> exact follows_idle 0 _

end Watched

theorem watch_follows (text : String) : (watch text).Follows 0 (Expr.parse text) :=
  Watched.tokens_follows (Token.scan text)

/-- The whole is one level, the minus sign and the group are one more each. -/
example : ((watch "-(x)").seen.filterMap fun sight => match sight with
    | .counter value => some value
    | _ => none) = [1, 2, 3, 2, 1, 0] := by rfl

end Dimensional.Formula
