import Mathlib.Data.List.Basic

/-! The tokens of SQL text: words, quoted names and strings, placeholders, operators and
punctuation. Text beyond these, such as comments or prefixed strings, has no tokens. -/
namespace SqlText

/-- What a quoted text stands between. -/
inductive Mark where
  | double | single
deriving Repr, DecidableEq

def Mark.char : Mark → Char
  | double => '"'
  | single => '\''

inductive Token where
  | word (text : String)
  | operator (text : String)
  | placeholder (text : String)
  | quoted (mark : Mark) (text : String)
  | symbol (c : Char)
deriving Repr, DecidableEq

namespace Token

def placeholderText : Token → Option String
  | placeholder text => some text
  | _ => none

/-- Whether a token stands for a name or a value. -/
def supplied : Token → Bool
  | quoted _ _ | placeholder _ => true
  | _ => false

end Token

/-- What has been read of the next token. A quoted text that is closed goes on when its mark
is doubled. -/
inductive Mode where
  | between
  | word (text : List Char)
  | operator (text : List Char)
  | placeholder (text : List Char)
  | quoted (mark : Mark) (text : List Char)
  | closed (mark : Mark) (text : List Char)
deriving Repr, DecidableEq

def isWord (c : Char) : Bool := c.isAlphanum || c == '_'

def isOperator (c : Char) : Bool := c == '<' || c == '>' || c == '=' || c == '!' || c == '*'

/-- The mode after a character that belongs to the token being read. -/
def continued : Mode → Char → Option Mode
  | .between, c =>
    if c == '"' then some (.quoted .double [])
    else if c == '\'' then some (.quoted .single [])
    else if c == '?' || c == '$' then some (.placeholder [c])
    else if isWord c then some (.word [c])
    else if isOperator c then some (.operator [c])
    else none
  | .word text, c => if isWord c then some (.word (text ++ [c])) else none
  | .operator text, c => if isOperator c then some (.operator (text ++ [c])) else none
  | .placeholder text, c => if c.isDigit then some (.placeholder (text ++ [c])) else none
  | .quoted mark text, c =>
    if c = mark.char then some (.closed mark text) else some (.quoted mark (text ++ [c]))
  | .closed mark text, c =>
    if c = mark.char then some (.quoted mark (text ++ [c])) else none

/-- The token that ends here. -/
def pending : Mode → Option (List Token)
  | .between => some []
  | .word text => some [.word (.ofList text)]
  | .operator text => some [.operator (.ofList text)]
  | .placeholder text => if text = ['$'] then none else some [.placeholder (.ofList text)]
  | .quoted _ _ => none
  | .closed mark text => some [.quoted mark (.ofList text)]

/-- What a character between tokens stands for. -/
def separator (c : Char) : Option (List Token) :=
  if c == ' ' then some []
  else if c == ',' || c == '(' || c == ')' then some [.symbol c]
  else none

def step (mode : Mode) (c : Char) : Option (List Token × Mode) :=
  match continued mode c with
  | some next => some ([], next)
  | none => do
    let ended ← pending mode
    let mark ← separator c
    some (ended ++ mark, .between)

def run : Mode → List Char → Option (List Token × Mode)
  | mode, [] => some ([], mode)
  | mode, c :: rest => do
    let (first, mode) ← step mode c
    let (later, mode) ← run mode rest
    some (first ++ later, mode)

/-- The tokens of a text. -/
def lex (text : String) : Option (List Token) := do
  let (tokens, mode) ← run .between text.toList
  let last ← pending mode
  some (tokens ++ last)

example : lex "SELECT \"a\"\"b\" FROM t" =
    some [.word "SELECT", .quoted .double "a\"b", .word "FROM", .word "t"] := by
  decide

/-! ### Texts that follow one another -/

theorem run_append (mode : Mode) (first second : List Char) :
    run mode (first ++ second) = (run mode first).bind fun out =>
      (run out.2 second).map fun next => (out.1 ++ next.1, next.2) := by
  induction first generalizing mode with
  | nil => simp [run]
  | cons c rest ih =>
      rw [List.cons_append, run, run]
      cases step mode c with
      | none => rfl
      | some next =>
          simp only [Option.bind_eq_bind, Option.bind_some, ih]
          cases run next.2 rest with
          | none => rfl
          | some middle =>
              simp only [Option.bind_some]
              cases run middle.2 second <;> simp

theorem run_cons (mode : Mode) (c : Char) (rest : List Char) :
    run mode (c :: rest) = (step mode c).bind fun out =>
      (run out.2 rest).map fun next => (out.1 ++ next.1, next.2) := by
  rw [run]
  cases step mode c with
  | none => rfl
  | some out => cases found : run out.2 rest <;> simp [found]

theorem run_singleton (mode : Mode) (c : Char) : run mode [c] = step mode c := by
  rw [run_cons]
  cases step mode c <;> simp [run]

theorem lex_iff {text : String} {tokens : List Token} :
    lex text = some tokens ↔ ∃ before mode last, run .between text.toList = some (before, mode) ∧
      pending mode = some last ∧ before ++ last = tokens := by
  unfold lex
  simp only [Option.bind_eq_bind, Option.bind_eq_some_iff, Option.some_inj]
  constructor
  · rintro ⟨⟨before, mode⟩, ran, last, ended, same⟩
    exact ⟨before, mode, last, ran, ended, same⟩
  · rintro ⟨before, mode, last, ran, ended, same⟩
    exact ⟨(before, mode), ran, last, ended, same⟩

theorem separator_cases {c : Char} {mark : List Token} (separates : separator c = some mark) :
    c = ' ' ∨ c = ',' ∨ c = '(' ∨ c = ')' := by
  unfold separator at separates
  split at separates
  case isTrue blank => exact .inl (beq_iff_eq.mp blank)
  case isFalse =>
    split at separates
    case isTrue symbol => simpa [or_assoc] using Or.inr symbol
    case isFalse => cases separates

/-- A separator ends every token but a quoted text that is still open. -/
theorem step_separator {mode : Mode} {c : Char} {ended mark : List Token}
    (settled : pending mode = some ended) (separates : separator c = some mark) :
    step mode c = some (ended ++ mark, .between) := by
  have stops : continued mode c = none := by
    cases mode with
    | quoted mark text => cases settled
    | closed mark text =>
        cases mark <;> rcases separator_cases separates with rfl | rfl | rfl | rfl <;> rfl
    | _ => rcases separator_cases separates with rfl | rfl | rfl | rfl <;> rfl
  rw [step, stops]
  simp [settled, separates]

/-- After a separator outside quotes nothing is pending. -/
theorem between_of_step {mode next : Mode} {c : Char} {tokens ended mark : List Token}
    (stepped : step mode c = some (tokens, next)) (separates : separator c = some mark)
    (settled : pending next = some ended) : next = .between := by
  unfold step at stepped
  split at stepped
  case h_1 after went_on =>
    cases stepped
    cases mode with
    | quoted mark text =>
        -- an open text takes the separator in, and stays open
        have other : c ≠ mark.char := by
          cases mark <;> rcases separator_cases separates with rfl | rfl | rfl | rfl <;> decide
        rw [continued, if_neg other] at went_on
        cases went_on
        cases settled
    | closed mark text =>
        cases mark <;> rcases separator_cases separates with rfl | rfl | rfl | rfl <;> cases went_on
    | _ => rcases separator_cases separates with rfl | rfl | rfl | rfl <;> cases went_on
  case h_2 =>
    obtain ⟨_, _, stepped⟩ := Option.bind_eq_some_iff.mp stepped
    obtain ⟨_, _, stepped⟩ := Option.bind_eq_some_iff.mp stepped
    cases stepped
    rfl

/-- Whether a text ends at a separator. -/
def Ends (text : String) : Prop :=
  text = "" ∨ ∃ before c, text.toList = before ++ [c] ∧ (separator c).isSome

/-- Whether a text starts with a separator. -/
def Opens (text : String) : Prop :=
  text = "" ∨ ∃ c rest, text.toList = c :: rest ∧ (separator c).isSome

theorem lex_append {first second : String} {tokens later : List Token}
    (reads : lex first = some tokens) (reads' : lex second = some later)
    (apart : Ends first ∨ Opens second) : lex (first ++ second) = some (tokens ++ later) := by
  obtain ⟨before, mode, last, ran, ended, rfl⟩ := lex_iff.mp reads
  obtain ⟨before', mode', last', ran', ended', rfl⟩ := lex_iff.mp reads'
  rw [lex_iff, String.toList_append, run_append, ran, Option.bind_some]
  rcases apart with (rfl | ⟨front, c, ends, separates⟩) | (rfl | ⟨c, rest, opens, separates⟩)
  · cases ran
    cases ended
    exact ⟨before', mode', last', by simp [ran'], ended', by simp⟩
  · -- the first text leaves nothing pending
    obtain ⟨mark, separates⟩ := Option.isSome_iff_exists.mp separates
    rw [ends, run_append] at ran
    obtain ⟨middle, _, ran⟩ := Option.bind_eq_some_iff.mp ran
    rw [run_singleton] at ran
    obtain ⟨next, stepped, same⟩ := Option.map_eq_some_iff.mp ran
    obtain ⟨rfl, rfl⟩ := Prod.mk.inj same
    have rested : next.2 = .between := between_of_step stepped separates ended
    rw [rested] at ended ⊢
    cases ended
    exact ⟨_, mode', last', by rw [ran']; rfl, ended', by simp⟩
  · cases ran'
    cases ended'
    exact ⟨before, mode, last, by simp [run], ended, by simp⟩
  · -- the second text ends what is pending
    obtain ⟨mark, separates⟩ := Option.isSome_iff_exists.mp separates
    have opened : step .between c = some ([] ++ mark, .between) := step_separator rfl separates
    rw [opens, run_cons, opened, Option.bind_some] at ran'
    obtain ⟨out, after, same⟩ := Option.map_eq_some_iff.mp ran'
    obtain ⟨rfl, rfl⟩ := Prod.mk.inj same
    refine ⟨before ++ (last ++ mark ++ out.1), out.2, last', ?_, ended', by simp⟩
    rw [opens, run_cons, step_separator ended separates, Option.bind_some, after]
    rfl

theorem Opens.append {first second : String} (opens : Opens first) (opens' : Opens second) :
    Opens (first ++ second) := by
  rcases opens with rfl | ⟨c, rest, starts, separates⟩
  · simpa using opens'
  · exact .inr ⟨c, rest ++ second.toList, by rw [String.toList_append, starts]; rfl, separates⟩

theorem Opens.append_of_ne {first second : String} (opens : Opens first) (occupied : first ≠ "") :
    Opens (first ++ second) := by
  rcases opens with rfl | ⟨c, rest, starts, separates⟩
  · exact absurd rfl occupied
  · exact .inr ⟨c, rest ++ second.toList, by rw [String.toList_append, starts]; rfl, separates⟩

theorem Ends.append_of_ne {first second : String} (ends : Ends second) (occupied : second ≠ "") :
    Ends (first ++ second) := by
  rcases ends with rfl | ⟨before, c, stops, separates⟩
  · exact absurd rfl occupied
  · refine .inr ⟨first.toList ++ before, c, ?_, separates⟩
    rw [String.toList_append, stops, List.append_assoc]

/-- Tokens with others between each two lists of them. -/
def joined (between : List Token) : List (List Token) → List Token
  | [] => []
  | [tokens] => tokens
  | tokens :: rest => tokens ++ between ++ joined between rest

theorem mem_joined {between : List Token} {lists : List (List Token)} {token : Token}
    (member : token ∈ joined between lists) :
    token ∈ between ∨ ∃ tokens ∈ lists, token ∈ tokens := by
  induction lists with
  | nil => cases member
  | cons tokens rest ih =>
      cases rest with
      | nil => exact .inr ⟨tokens, List.mem_singleton_self _, member⟩
      | cons next others =>
          rw [joined, List.mem_append, List.mem_append] at member
          rcases member with (here | glued) | later
          · exact .inr ⟨tokens, List.mem_cons_self, here⟩
          · exact .inl glued
          · obtain glued | ⟨found, listed, here⟩ := ih later
            · exact .inl glued
            · exact .inr ⟨found, List.mem_cons_of_mem _ listed, here⟩
          · simp

theorem filter_joined {p : Token → Bool} {between : List Token} (silent : between.filter p = [])
    (lists : List (List Token)) :
    (joined between lists).filter p = lists.flatMap (·.filter p) := by
  induction lists with
  | nil => rfl
  | cons tokens rest ih =>
      cases rest with
      | nil => simp [joined]
      | cons next others =>
          rw [joined, List.filter_append, List.filter_append, silent, List.append_nil, ih,
            List.flatMap_cons]
          · simp
          · exact List.cons_ne_nil next others

theorem lex_intercalate {glue : String} {between : List Token} (reads : lex glue = some between)
    (opens : Opens glue) (ends : Ends glue) (occupied : glue ≠ "") {parts : List String}
    {tokens : List (List Token)}
    (each : List.Forall₂ (fun part tokens => lex part = some tokens) parts tokens) :
    lex (glue.intercalate parts) = some (joined between tokens) := by
  induction each with
  | nil => rfl
  | @cons part first parts rest head tail ih =>
      cases tail with
      | nil => simpa [joined] using head
      | cons next others =>
          rw [String.intercalate_cons_cons, joined, List.append_assoc]
          · have glued := lex_append reads ih (.inl ends)
            have all := lex_append head glued (.inr ?_)
            · rwa [← String.append_assoc] at all
            · exact opens.append_of_ne occupied
          · simp

/-! ### Words and quoted texts -/

theorem run_word {before text : List Char} (letters : ∀ c ∈ text, isWord c = true) :
    run (.word before) text = some ([], .word (before ++ text)) := by
  induction text generalizing before with
  | nil => simp [run]
  | cons c rest ih =>
      obtain ⟨letter, others⟩ := List.forall_mem_cons.mp letters
      have stepped : step (.word before) c = some ([], .word (before ++ [c])) := by
        simp [step, continued, letter]
      rw [run_cons, stepped, Option.bind_some, ih others]
      simp

theorem not_special {c : Char} (letter : isWord c = true) :
    c ≠ '"' ∧ c ≠ '\'' ∧ c ≠ '?' ∧ c ≠ '$' := by
  refine ⟨?_, ?_, ?_, ?_⟩ <;> rintro rfl <;> exact absurd letter (by decide)

/-- Letters and digits are one word. -/
theorem lex_word {text : String} (letters : ∀ c ∈ text.toList, isWord c = true)
    (occupied : text ≠ "") : lex text = some [.word text] := by
  rw [lex_iff]
  cases whole : text.toList with
  | nil => exact absurd (String.toList_eq_nil_iff.mp whole) occupied
  | cons c rest =>
      rw [whole] at letters
      obtain ⟨letter, others⟩ := List.forall_mem_cons.mp letters
      obtain ⟨noDouble, noSingle, noMark, noDollar⟩ := not_special letter
      have stepped : step .between c = some ([], .word [c]) := by
        simp [step, continued, noDouble, noSingle, noMark, noDollar, letter]
      refine ⟨[], .word (c :: rest), [.word text], ?_, ?_, rfl⟩
      · rw [run_cons, stepped, Option.bind_some, run_word others]
        simp
      · rw [pending, ← whole, String.ofList_toList]

theorem run_placeholder {before text : List Char} (digits : ∀ c ∈ text, c.isDigit = true) :
    run (.placeholder before) text = some ([], .placeholder (before ++ text)) := by
  induction text generalizing before with
  | nil => simp [run]
  | cons c rest ih =>
      obtain ⟨digit, others⟩ := List.forall_mem_cons.mp digits
      have stepped : step (.placeholder before) c = some ([], .placeholder (before ++ [c])) := by
        simp [step, continued, digit]
      rw [run_cons, stepped, Option.bind_some, ih others]
      simp

theorem isDigit_of_mem_toString {n : Nat} {c : Char} (member : c ∈ (toString n).toList) :
    c.isDigit = true := by
  rw [Nat.toString_eq_repr, Nat.toList_repr] at member
  exact Nat.isDigit_of_mem_toDigits (by decide) (by decide) member

/-- A number is one word. -/
theorem lex_number (n : Nat) : lex (toString n) = some [.word (toString n)] := by
  apply lex_word
  · intro c member
    have digit := isDigit_of_mem_toString member
    simp [isWord, Char.isAlphanum, digit]
  · exact Nat.repr_ne_empty

theorem lex_placeholder (n : Nat) : lex s!"${n}" = some [.placeholder s!"${n}"] := by
  have opened : step .between '$' = some ([], .placeholder ['$']) := rfl
  have dollar : (s!"${n}" : String).toList = '$' :: (toString n).toList :=
    String.toList_append
  rw [lex_iff]
  refine ⟨[], .placeholder ('$' :: (toString n).toList), _, ?_, ?_, rfl⟩
  · rw [dollar, run_cons, opened, Option.bind_some,
      run_placeholder fun c member => isDigit_of_mem_toString member]
    rfl
  · rw [pending, if_neg, ← dollar, String.ofList_toList]
    simp

/-- A text between marks, with the marks in it doubled. -/
def Mark.quote (mark : Mark) (text : String) : String :=
  .ofList (mark.char ::
    (text.toList.flatMap fun c => if c = mark.char then [c, c] else [c]) ++ [mark.char])

theorem run_quoted (mark : Mark) (before text : List Char) :
    run (.quoted mark before)
      ((text.flatMap fun c => if c = mark.char then [c, c] else [c]) ++ [mark.char]) =
        some ([], .closed mark (before ++ text)) := by
  induction text generalizing before with
  | nil => simp [run, step, continued]
  | cons c rest ih =>
      rw [List.flatMap_cons, List.append_assoc]
      by_cases same : c = mark.char
      · have closed : step (.quoted mark before) c = some ([], .closed mark before) := by
          simp [step, continued, same]
        have reopened : step (.closed mark before) c = some ([], .quoted mark (before ++ [c])) := by
          simp [step, continued, same]
        rw [if_pos same, List.cons_append, List.singleton_append, run_cons, closed,
          Option.bind_some, run_cons, reopened, Option.bind_some, ih]
        simp
      · have taken : step (.quoted mark before) c = some ([], .quoted mark (before ++ [c])) := by
          simp [step, continued, same]
        rw [if_neg same, List.singleton_append, run_cons, taken, Option.bind_some, ih]
        simp

/-- A quoted text is read back as it was. -/
theorem lex_quote (mark : Mark) (text : String) :
    lex (mark.quote text) = some [.quoted mark text] := by
  rw [lex_iff]
  have opened : step .between mark.char = some ([], .quoted mark []) := by
    cases mark <;> rfl
  refine ⟨[], .closed mark text.toList, [.quoted mark text], ?_, ?_, rfl⟩
  · rw [Mark.quote, String.toList_ofList, List.cons_append, run_cons, opened, Option.bind_some,
      run_quoted]
    rfl
  · rw [pending, String.ofList_toList]

end SqlText
