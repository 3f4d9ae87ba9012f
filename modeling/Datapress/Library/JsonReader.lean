import Mathlib.Data.List.TakeDrop

/-! A reader of JSON texts, and what it reads of strings that are written without escapes. -/
namespace JsonReader

inductive Value where
  | null
  | bool (value : Bool)
  /-- The digits times a power of ten. -/
  | number (digits exponent : Int)
  | string (text : List Char)
  | array (items : List Value)
  | object (members : List (List Char × Value))

/-! ### Strings -/

/-- A piece of a string: a character, or the code unit of a `\u` escape. -/
inductive Piece where
  | char (c : Char)
  | unit (u : Nat)

def unescape (c : Char) : Option Char :=
  if c = '"' ∨ c = '\\' ∨ c = '/' then some c
  else if c = 'b' then some (.ofNat 8)
  else if c = 'f' then some (.ofNat 12)
  else if c = 'n' then some '\n'
  else if c = 'r' then some '\r'
  else if c = 't' then some '\t'
  else none

def hexDigit (c : Char) : Option Nat :=
  if c.isDigit then some (c.toNat - '0'.toNat)
  else if 'a' ≤ c ∧ c ≤ 'f' then some (c.toNat - 'a'.toNat + 10)
  else if 'A' ≤ c ∧ c ≤ 'F' then some (c.toNat - 'A'.toNat + 10)
  else none

def codeUnit (a b c d : Char) : Option Nat := do
  some ((← hexDigit a) * 4096 + (← hexDigit b) * 256 + (← hexDigit c) * 16 + (← hexDigit d))

/-- The pieces up to the closing quote, and what comes behind it. -/
def readPieces : List Char → Option (List Piece × List Char)
  | [] => none
  | c :: rest =>
    if c = '"' then some ([], rest)
    else if c = '\\' then
      match rest with
      | [] => none
      | e :: rest =>
        if e = 'u' then
          match rest with
          | a :: b :: c :: d :: rest => do
            let u ← codeUnit a b c d
            let (pieces, rest) ← readPieces rest
            some (.unit u :: pieces, rest)
          | _ => none
        else do
          let c ← unescape e
          let (pieces, rest) ← readPieces rest
          some (.char c :: pieces, rest)
    else if c.toNat < 32 then none
    else do
      let (pieces, rest) ← readPieces rest
      some (.char c :: pieces, rest)

/-- The characters of the pieces: two surrogates make one. -/
def join : List Piece → Option (List Char)
  | [] => some []
  | .char c :: pieces => (c :: ·) <$> join pieces
  | .unit u :: pieces =>
    if 0xD800 ≤ u ∧ u < 0xDC00 then
      match pieces with
      | .unit v :: pieces =>
        if 0xDC00 ≤ v ∧ v < 0xE000 then
          (Char.ofNat (0x10000 + (u - 0xD800) * 0x400 + (v - 0xDC00)) :: ·) <$> join pieces
        else none
      | _ => none
    else if 0xDC00 ≤ u ∧ u < 0xE000 then none
    else (Char.ofNat u :: ·) <$> join pieces

def readString (cs : List Char) : Option (List Char × List Char) := do
  let (pieces, rest) ← readPieces cs
  let text ← join pieces
  some (text, rest)

/-! ### Numbers -/

def readFraction : List Char → Option (List Char × List Char)
  | '.' :: rest =>
    let (digits, rest) := rest.span Char.isDigit
    if digits.isEmpty then none else some (digits, rest)
  | rest => some ([], rest)

def readSign : List Char → Bool × List Char
  | '-' :: rest => (true, rest)
  | rest => (false, rest)

def signed (negative : Bool) (n : Nat) : Int := if negative then -n else n

def readExponent : List Char → Option (Int × List Char)
  | c :: rest =>
    if c = 'e' ∨ c = 'E' then
      let (negative, rest) := match rest with
        | '+' :: rest => (false, rest)
        | rest => readSign rest
      let (digits, rest) := rest.span Char.isDigit
      if digits.isEmpty then none
      else some (signed negative (Nat.ofDigitChars 10 digits 0), rest)
    else some (0, c :: rest)
  | [] => some (0, [])

/-- No number but zero begins with the digit zero. -/
def leadingZero : List Char → Bool
  | '0' :: _ :: _ => true
  | _ => false

def readNumber (cs : List Char) : Option (Value × List Char) :=
  let (negative, rest) := readSign cs
  let (whole, rest) := rest.span Char.isDigit
  if whole.isEmpty || leadingZero whole then none
  else do
    let (fraction, rest) ← readFraction rest
    let (exponent, rest) ← readExponent rest
    let digits := Nat.ofDigitChars 10 (whole ++ fraction) 0
    some (.number (signed negative digits) (exponent - fraction.length), rest)

def readScalar : List Char → Option (Value × List Char)
  | 'n' :: 'u' :: 'l' :: 'l' :: rest => some (.null, rest)
  | 't' :: 'r' :: 'u' :: 'e' :: rest => some (.bool true, rest)
  | 'f' :: 'a' :: 'l' :: 's' :: 'e' :: rest => some (.bool false, rest)
  | cs => readNumber cs

/-! ### Values -/

def isBlank (c : Char) : Bool := c = ' ' || c = '\t' || c = '\n' || c = '\r'

def skip (cs : List Char) : List Char := cs.dropWhile isBlank

mutual

def readValue : Nat → List Char → Option (Value × List Char)
  | 0, _ => none
  | fuel + 1, cs =>
    match skip cs with
    | '"' :: rest => do
      let (text, rest) ← readString rest
      some (.string text, rest)
    | '[' :: rest =>
      match skip rest with
      | ']' :: rest => some (.array [], rest)
      | rest => do
        let (items, rest) ← readElements fuel rest
        some (.array items, rest)
    | '{' :: rest =>
      match skip rest with
      | '}' :: rest => some (.object [], rest)
      | rest => do
        let (members, rest) ← readMembers fuel rest
        some (.object members, rest)
    | rest => readScalar rest

def readElements : Nat → List Char → Option (List Value × List Char)
  | 0, _ => none
  | fuel + 1, cs => do
    let (item, rest) ← readValue fuel cs
    match skip rest with
    | ']' :: rest => some ([item], rest)
    | ',' :: rest => do
      let (items, rest) ← readElements fuel rest
      some (item :: items, rest)
    | _ => none

def readMembers : Nat → List Char → Option (List (List Char × Value) × List Char)
  | 0, _ => none
  | fuel + 1, cs =>
    match skip cs with
    | '"' :: rest => do
      let (key, rest) ← readString rest
      match skip rest with
      | ':' :: rest => do
        let (value, rest) ← readValue fuel rest
        match skip rest with
        | '}' :: rest => some ([(key, value)], rest)
        | ',' :: rest => do
          let (members, rest) ← readMembers fuel rest
          some ((key, value) :: members, rest)
        | _ => none
      | _ => none
    | _ => none

end

/-- One value and nothing behind it. No text nests deeper than it is long. -/
def read (text : List Char) : Option Value := do
  let (value, rest) ← readValue (text.length + 1) text
  if (skip rest).isEmpty then some value else none

/-! ### Strings piece by piece -/

/-- A character that stands for itself in a string. -/
def plain (c : Char) : Bool := c ≠ '"' && c ≠ '\\' && 32 ≤ c.toNat

theorem plain_iff {c : Char} : plain c = true ↔ c ≠ '"' ∧ c ≠ '\\' ∧ ¬ c.toNat < 32 := by
  simp only [plain, Bool.and_eq_true, decide_eq_true_eq, ne_eq, and_assoc, Nat.not_lt]

theorem readPieces_quote (rest : List Char) : readPieces ('"' :: rest) = some ([], rest) := by
  rw [readPieces.eq_def]
  dsimp only
  rw [if_pos rfl]

theorem readPieces_char {c : Char} (isPlain : plain c = true) (cs : List Char) :
    readPieces (c :: cs) =
      (readPieces cs).bind fun (pieces, rest) => some (.char c :: pieces, rest) := by
  obtain ⟨noQuote, noEscape, noControl⟩ := plain_iff.mp isPlain
  rw [readPieces.eq_def]
  dsimp only
  rw [if_neg noQuote, if_neg noEscape, if_neg noControl]
  rfl

theorem readPieces_escape {e c : Char} (known : unescape e = some c) (cs : List Char) :
    readPieces ('\\' :: e :: cs) =
      (readPieces cs).bind fun (pieces, rest) => some (.char c :: pieces, rest) := by
  have noUnit : e ≠ 'u' := by
    rintro rfl
    cases known
  rw [readPieces.eq_def]
  dsimp only
  rw [if_neg (by decide), if_pos rfl]
  simp only [if_neg noUnit, known]
  rfl

theorem readPieces_unit {a b c d : Char} {u : Nat} (known : codeUnit a b c d = some u)
    (cs : List Char) :
    readPieces ('\\' :: 'u' :: a :: b :: c :: d :: cs) =
      (readPieces cs).bind fun (pieces, rest) => some (.unit u :: pieces, rest) := by
  rw [readPieces.eq_def]
  dsimp only
  rw [if_neg (by decide), if_pos rfl]
  simp only [if_true, known]
  rfl

theorem readPieces_plain {text : List Char} (isPlain : text.all plain = true) (rest : List Char) :
    readPieces (text ++ '"' :: rest) = some (text.map .char, rest) := by
  induction text with
  | nil => exact readPieces_quote rest
  | cons c text ih =>
      obtain ⟨head, tail⟩ := Bool.and_eq_true_iff.mp isPlain
      rw [List.cons_append, readPieces_char head, ih tail]
      rfl

theorem join_chars (text : List Char) : join (text.map .char) = some text := by
  induction text with
  | nil => rfl
  | cons c text ih =>
      rw [List.map_cons, join, ih]
      rfl

theorem readString_plain {text : List Char} (isPlain : text.all plain = true) (rest : List Char) :
    readString (text ++ '"' :: rest) = some (text, rest) := by
  rw [readString, readPieces_plain isPlain]
  simp only [Option.bind_eq_bind, Option.bind_some, join_chars]

/-! ### Strings with escapes -/

/-- The character is written so that it is read again, as itself or by its code. -/
def Spells (written : Char → List Char) (c : Char) : Prop :=
  ∃ piece, (piece = .char c ∨ piece = .unit c.toNat ∧ c.toNat < 0xD800) ∧
    ∀ cs, readPieces (written c ++ cs) =
      (readPieces cs).bind fun (pieces, rest) => some (piece :: pieces, rest)

theorem readString_of_spells {written : Char → List Char} (spells : ∀ c, Spells written c)
    (text rest : List Char) :
    readString (text.flatMap written ++ '"' :: rest) = some (text, rest) := by
  obtain ⟨pieces, read, joined⟩ : ∃ pieces,
      readPieces (text.flatMap written ++ '"' :: rest) = some (pieces, rest) ∧
        join pieces = some text := by
    induction text with
    | nil => exact ⟨[], readPieces_quote rest, rfl⟩
    | cons c text ih =>
        obtain ⟨pieces, read, joined⟩ := ih
        obtain ⟨piece, shape, step⟩ := spells c
        refine ⟨piece :: pieces, ?_, ?_⟩
        · rw [List.flatMap_cons, List.append_assoc, step, read]
          rfl
        · rcases shape with rfl | ⟨rfl, low⟩
          · rw [join, joined]
            rfl
          · rw [join.eq_def]
            dsimp only
            rw [if_neg (by omega), if_neg (by omega), joined, Char.ofNat_toNat]
            rfl
  simp only [readString, read, joined, Option.bind_eq_bind, Option.bind_some]

/-! ### A string that is not escaped -/

/-- Nothing before the next quote is an escape. -/
def Clear (cs : List Char) : Prop := ∀ c ∈ cs.takeWhile (· ≠ '"'), c ≠ '\\'

/-- Pieces that are all characters, and none of them a backslash. -/
def Ordinary (pieces : List Piece) : Prop := ∀ piece ∈ pieces, ∃ c, piece = .char c ∧ c ≠ '\\'

theorem ordinary_of_clear {cs : List Char} (clear : Clear cs) {pieces : List Piece}
    {rest : List Char} (read : readPieces cs = some (pieces, rest)) : Ordinary pieces := by
  induction cs generalizing pieces with
  | nil => cases read
  | cons c cs ih =>
      rw [readPieces.eq_def] at read
      dsimp only at read
      by_cases quote : c = '"'
      · rw [if_pos quote] at read
        cases read
        exact List.forall_mem_nil _
      · have stays : (c :: cs).takeWhile (· ≠ '"') = c :: cs.takeWhile (· ≠ '"') :=
          List.takeWhile_cons_of_pos (by simpa using quote)
        rw [Clear, stays, List.forall_mem_cons] at clear
        rw [if_neg quote, if_neg clear.1] at read
        split at read
        case isTrue => cases read
        case isFalse =>
            obtain ⟨⟨found, rest'⟩, read', same⟩ := Option.bind_eq_some_iff.mp read
            cases same
            exact List.forall_mem_cons.mpr ⟨⟨c, rfl, clear.1⟩, ih clear.2 read'⟩

/-- How the reading of a string ends that is taken for one up to its end: inside it or at its
end, with as many pieces as characters only where all are plain; or behind it, where it ends in
a backslash. -/
inductive Ended (text tail : List Char) (pieces : List Piece) (rest : List Char) : Prop where
  | short : pieces.length < text.length → Ended text tail pieces rest
  | whole : text.all plain = true → pieces.length = text.length → Ended text tail pieces rest
  | behind before after : text.getLast? = some '\\' →
      pieces = before ++ .char '"' :: after → readPieces tail = some (after, rest) →
      Ended text tail pieces rest

theorem Ended.cons {text tail : List Char} {pieces : List Piece} {rest : List Char}
    (ended : Ended text tail pieces rest) {c : Char} (isPlain : plain c = true) (piece : Piece) :
    Ended (c :: text) tail (piece :: pieces) rest := by
  cases ended with
  | short fewer => exact .short (Nat.succ_lt_succ fewer)
  | whole all same =>
      exact .whole (Bool.and_eq_true_iff.mpr ⟨isPlain, all⟩) (congrArg (· + 1) same)
  | behind before after last split read =>
      refine .behind (piece :: before) after ?_ (by rw [split]; rfl) read
      rw [List.getLast?_cons, last]
      rfl

/-- An escape takes more characters than it makes pieces. -/
theorem Ended.escape {text tail : List Char} {pieces : List Piece} {rest : List Char}
    (ended : Ended text tail pieces rest) {escaped : List Char} (two : 2 ≤ escaped.length)
    (piece : Piece) : Ended (escaped ++ text) tail (piece :: pieces) rest := by
  cases ended with
  | short fewer =>
      refine .short ?_
      rw [List.length_append, List.length_cons]
      omega
  | whole _ same =>
      refine .short ?_
      rw [List.length_append, List.length_cons]
      omega
  | behind before after last split read =>
      refine .behind (piece :: before) after ?_ (by rw [split]; rfl) read
      rw [List.getLast?_append, last]
      rfl

theorem hexDigit_quote : hexDigit '"' = none := by decide

/-- An escape of a code unit does not reach over the end of the text. -/
theorem exists_of_codeUnit {text tail : List Char} {a b c d : Char} {cs : List Char} {u : Nat}
    (digits : text ++ '"' :: tail = a :: b :: c :: d :: cs) (known : codeUnit a b c d = some u) :
    ∃ text', text = a :: b :: c :: d :: text' ∧ cs = text' ++ '"' :: tail := by
  have each : hexDigit a ≠ none ∧ hexDigit b ≠ none ∧ hexDigit c ≠ none ∧ hexDigit d ≠ none := by
    simp only [codeUnit, Option.bind_eq_bind, Option.bind_eq_some_iff] at known
    obtain ⟨_, a_digit, _, b_digit, _, c_digit, _, d_digit, _⟩ := known
    rw [a_digit, b_digit, c_digit, d_digit]
    exact ⟨Option.some_ne_none _, Option.some_ne_none _, Option.some_ne_none _,
      Option.some_ne_none _⟩
  match text with
  | [] =>
      cases digits
      exact absurd hexDigit_quote each.1
  | [_] =>
      cases digits
      exact absurd hexDigit_quote each.2.1
  | [_, _] =>
      cases digits
      exact absurd hexDigit_quote each.2.2.1
  | [_, _, _] =>
      cases digits
      exact absurd hexDigit_quote each.2.2.2
  | _ :: _ :: _ :: _ :: text' =>
      cases digits
      exact ⟨text', rfl, rfl⟩

theorem readPieces_ended {text tail : List Char} {pieces : List Piece} {rest : List Char}
    (read : readPieces (text ++ '"' :: tail) = some (pieces, rest)) :
    Ended text tail pieces rest := by
  induction length : text.length using Nat.strongRecOn generalizing text pieces with
  | ind n ih =>
    subst length
    cases text with
    | nil =>
        rw [List.nil_append, readPieces_quote] at read
        cases read
        exact .whole rfl rfl
    | cons c text =>
        rw [List.cons_append, readPieces.eq_def] at read
        dsimp only at read
        split at read
        case isTrue =>
            cases read
            exact .short (Nat.succ_pos _)
        case isFalse quote =>
        split at read
        case isFalse escape =>
            split at read
            case isTrue => cases read
            case isFalse control =>
                obtain ⟨⟨found, rest'⟩, read', same⟩ := Option.bind_eq_some_iff.mp read
                cases same
                exact (ih _ (Nat.lt_succ_self _) read' rfl).cons
                  (plain_iff.mpr ⟨quote, escape, control⟩) _
        case isTrue escape =>
            subst escape
            cases text with
            | nil =>
                dsimp only [List.nil_append] at read
                rw [if_neg (by decide)] at read
                obtain ⟨_, known, read'⟩ := Option.bind_eq_some_iff.mp read
                cases known
                obtain ⟨⟨found, rest'⟩, further, same⟩ := Option.bind_eq_some_iff.mp read'
                cases same
                exact .behind [] found rfl rfl further
            | cons e text =>
                dsimp only [List.cons_append] at read
                split at read
                case isTrue isUnit =>
                    split at read
                    case h_2 => cases read
                    case h_1 a b c d cs digits =>
                        obtain ⟨_, known, read'⟩ := Option.bind_eq_some_iff.mp read
                        obtain ⟨⟨found, rest'⟩, further, same⟩ := Option.bind_eq_some_iff.mp read'
                        cases same
                        obtain ⟨text', rfl, rfl⟩ := exists_of_codeUnit digits known
                        have fewer : text'.length <
                            ('\\' :: e :: a :: b :: c :: d :: text').length := by
                          simp only [List.length_cons]
                          omega
                        exact @Ended.escape _ _ _ _ (ih _ fewer further rfl) ['\\', e, a, b, c, d]
                          (Nat.le_add_left 2 4) _
                case isFalse =>
                    obtain ⟨_, _, read'⟩ := Option.bind_eq_some_iff.mp read
                    obtain ⟨⟨found, rest'⟩, further, same⟩ := Option.bind_eq_some_iff.mp read'
                    cases same
                    have fewer : text.length < ('\\' :: e :: text).length := by
                      simp only [List.length_cons]
                      omega
                    exact @Ended.escape _ _ _ _ (ih _ fewer further rfl) ['\\', e]
                      (Nat.le_refl 2) _

/-- What is joined, without the values of the code units. -/
inductive Joined : List Piece → List Char → Prop where
  | nil : Joined [] []
  | char {pieces text} c : Joined pieces text → Joined (.char c :: pieces) (c :: text)
  | unit {pieces text} u c : Joined pieces text → Joined (.unit u :: pieces) (c :: text)
  | pair {pieces text} u v c : Joined pieces text →
      Joined (.unit u :: .unit v :: pieces) (c :: text)

theorem joined_of_join {pieces : List Piece} {text : List Char}
    (joined : join pieces = some text) : Joined pieces text := by
  induction pieces using join.induct generalizing text with
  | case1 =>
      cases joined
      exact .nil
  | case2 c pieces ih =>
      obtain ⟨_, joined', rfl⟩ := Option.map_eq_some_iff.mp joined
      exact .char c (ih joined')
  | case3 u high v pieces low ih =>
      rw [join.eq_def] at joined
      dsimp only at joined
      rw [if_pos high, if_pos low] at joined
      obtain ⟨_, joined', rfl⟩ := Option.map_eq_some_iff.mp joined
      exact .pair u v _ (ih joined')
  | case4 u high v pieces low =>
      rw [join.eq_def] at joined
      dsimp only at joined
      rw [if_pos high, if_neg low] at joined
      cases joined
  | case5 u pieces high none =>
      rw [join.eq_def] at joined
      dsimp only at joined
      rw [if_pos high] at joined
      split at joined
      case h_1 => exact absurd rfl (none _ _)
      case h_2 => cases joined
  | case6 u pieces high low =>
      rw [join.eq_def] at joined
      dsimp only at joined
      rw [if_neg high, if_pos low] at joined
      cases joined
  | case7 u pieces high low ih =>
      rw [join.eq_def] at joined
      dsimp only at joined
      rw [if_neg high, if_neg low] at joined
      obtain ⟨_, joined', rfl⟩ := Option.map_eq_some_iff.mp joined
      exact .unit u _ (ih joined')

theorem Joined.length_le {pieces : List Piece} {text : List Char} (joined : Joined pieces text) :
    text.length ≤ pieces.length := by
  induction joined with
  | nil => exact Nat.le_refl 0
  | char _ _ ih => exact Nat.succ_le_succ ih
  | unit _ _ _ ih => exact Nat.succ_le_succ ih
  | pair _ _ _ _ ih => exact Nat.succ_le_succ (Nat.le_succ_of_le ih)

/-- The last character is the last piece where that is one. -/
theorem Joined.getLast {pieces : List Piece} {text : List Char} (joined : Joined pieces text)
    {c : Char} (last : pieces.getLast? = some (.char c)) : text.getLast? = some c := by
  induction joined with
  | nil => cases last
  | char d joined ih =>
      cases joined with
      | nil =>
          cases last
          rfl
      | char _ _ => exact ih last
      | unit _ _ _ => exact ih last
      | pair _ _ _ _ => exact ih last
  | unit u d joined ih =>
      cases joined with
      | nil => cases last
      | char _ _ => exact ih last
      | unit _ _ _ => exact ih last
      | pair _ _ _ _ => exact ih last
  | pair u v d joined ih =>
      cases joined with
      | nil => cases last
      | char _ _ => exact ih last
      | unit _ _ _ => exact ih last
      | pair _ _ _ _ => exact ih last

/-- A text that is read back as it was written without an escape needs none. -/
theorem plain_of_readString {text tail rest : List Char} (clear : Clear tail)
    (read : readString (text ++ '"' :: tail) = some (text, rest)) : text.all plain = true := by
  obtain ⟨⟨pieces, rest'⟩, pieces_read, joins⟩ := Option.bind_eq_some_iff.mp read
  obtain ⟨text', joins', same⟩ := Option.bind_eq_some_iff.mp joins
  cases same
  have joined := joined_of_join joins'
  cases readPieces_ended pieces_read with
  | short fewer => exact absurd joined.length_le (Nat.not_le.mpr fewer)
  | whole all _ => exact all
  | behind before after last split further =>
      -- the text would end in a character of the tail, which is no backslash
      have ordinary := ordinary_of_clear clear further
      obtain ⟨c, found, other⟩ : ∃ c, (Piece.char '"' :: after).getLast? = some (.char c) ∧
          c ≠ '\\' := by
        rw [List.getLast?_cons]
        cases after_last : after.getLast? with
        | none => exact ⟨'"', rfl, by decide⟩
        | some piece =>
            obtain ⟨c, rfl, other⟩ := ordinary piece (List.mem_of_getLast? after_last)
            exact ⟨c, rfl, other⟩
      have ends := joined.getLast (c := c) (by
        rw [split, List.getLast?_append, found]
        rfl)
      rw [last] at ends
      exact absurd (Option.some.inj ends).symm other

end JsonReader
