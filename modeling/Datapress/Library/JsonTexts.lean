import Datapress.Library.JsonReader

/-! What is read of JSON texts that are written without blanks. -/
namespace JsonReader

/-! ### Numbers without fraction and exponent -/

theorem head_toDigits {n : Nat} (pos : 0 < n) : (Nat.toDigits 10 n).head? ≠ some '0' := by
  induction n using Nat.strongRecOn with
  | ind n ih =>
    rcases Nat.lt_or_ge n 10 with small | large
    · rw [Nat.toDigits_of_lt_base small]
      intro zero
      have := Nat.digitChar_eq_zero.mp (Option.some.inj zero)
      omega
    · rw [Nat.toDigits_of_base_le (by decide) large, List.head?_append,
        Option.or_of_isSome (by simp [Nat.toDigits_ne_nil])]
      exact ih (n / 10) (by omega) (by omega)

theorem leadingZero_toDigits (n : Nat) : leadingZero (Nat.toDigits 10 n) = false := by
  rcases Nat.eq_zero_or_pos n with rfl | pos
  · rfl
  · have head := head_toDigits pos
    unfold leadingZero
    split
    case h_1 digits =>
        rw [digits] at head
        exact absurd rfl head
    case h_2 => rfl

/-- What ends a number: nothing or punctuation. -/
def Delimits (cs : List Char) : Prop := ∀ c, cs.head? = some c → c = ',' ∨ c = '}' ∨ c = ']'

theorem digits_isDigit (n : Nat) : ∀ c ∈ Nat.toDigits 10 n, c.isDigit = true := fun _ member =>
  Nat.isDigit_of_mem_toDigits (by decide) (by decide) member

theorem span_digits (n : Nat) {rest : List Char} (delimits : Delimits rest) :
    (Nat.toDigits 10 n ++ rest).span Char.isDigit = (Nat.toDigits 10 n, rest) := by
  have stops : rest.takeWhile Char.isDigit = [] ∧ rest.dropWhile Char.isDigit = rest := by
    cases rest with
    | nil => exact ⟨rfl, rfl⟩
    | cons c rest =>
        have noDigit : ¬ c.isDigit = true := by
          rcases delimits c rfl with rfl | rfl | rfl <;> decide
        exact ⟨List.takeWhile_cons_of_neg noDigit, List.dropWhile_cons_of_neg noDigit⟩
  rw [List.span_eq_takeWhile_dropWhile, List.takeWhile_append_of_pos (digits_isDigit n),
    List.dropWhile_append_of_pos (digits_isDigit n), stops.1, stops.2, List.append_nil]

theorem readFraction_of_delimits {rest : List Char} (delimits : Delimits rest) :
    readFraction rest = some ([], rest) := by
  unfold readFraction
  split
  case h_1 => rcases delimits _ rfl with impossible | impossible | impossible <;> cases impossible
  case h_2 => rfl

theorem readExponent_of_delimits {rest : List Char} (delimits : Delimits rest) :
    readExponent rest = some (0, rest) := by
  cases rest with
  | nil => rfl
  | cons c rest =>
      apply if_neg
      rcases delimits c rfl with rfl | rfl | rfl <;> decide

theorem readNumber_digits (n : Nat) (negative : Bool) {cs rest : List Char}
    (sign : readSign cs = (negative, Nat.toDigits 10 n ++ rest)) (delimits : Delimits rest) :
    readNumber cs = some (.number (signed negative n) 0, rest) := by
  have some_digit : (Nat.toDigits 10 n).isEmpty = false := by simp [Nat.toDigits_ne_nil]
  simp only [readNumber, sign, span_digits n delimits, some_digit, leadingZero_toDigits,
    readFraction_of_delimits delimits, readExponent_of_delimits delimits, Option.bind_eq_bind,
    Option.bind_some, List.append_nil, Nat.ofDigitChars_ten_toDigits]
  rfl

theorem toList_toString (n : Int) :
    (toString n).toList =
      match n with
      | .ofNat n => Nat.toDigits 10 n
      | .negSucc n => '-' :: Nat.toDigits 10 (n + 1) := by
  cases n with
  | ofNat n => exact Nat.toList_repr
  | negSucc n =>
      change ("-" ++ (n + 1).repr).toList = _
      rw [String.toList_append, Nat.toList_repr]
      rfl

theorem readNumber_toString (n : Int) {rest : List Char} (delimits : Delimits rest) :
    readNumber ((toString n).toList ++ rest) = some (.number n 0, rest) := by
  rw [toList_toString]
  cases n with
  | ofNat n =>
      have sign : readSign (Nat.toDigits 10 n ++ rest) = (false, Nat.toDigits 10 n ++ rest) := by
        unfold readSign
        split
        case h_1 minus =>
            obtain ⟨c, digits, same⟩ := List.exists_cons_of_ne_nil (@Nat.toDigits_ne_nil n 10)
            rw [same] at minus
            cases minus
            have digit := digits_isDigit n '-' (by rw [same]; exact List.mem_cons_self)
            exact absurd digit (by decide)
        case h_2 => rfl
      exact readNumber_digits n false sign delimits
  | negSucc n => exact readNumber_digits (n + 1) true rfl delimits

/-! ### Values -/

theorem skip_cons {c : Char} (dark : isBlank c = false) (cs : List Char) :
    skip (c :: cs) = c :: cs :=
  List.dropWhile_cons_of_neg (by simp [dark])

theorem skip_of_delimits {cs : List Char} (delimits : Delimits cs) : skip cs = cs := by
  cases cs with
  | nil => rfl
  | cons c cs =>
      apply skip_cons
      rcases delimits c rfl with rfl | rfl | rfl <;> decide

/-- With enough fuel the text in front of a delimiter is read as the value. -/
def Reads (depth : Nat) (text : List Char) (value : Value) : Prop :=
  ∀ fuel rest, depth ≤ fuel → Delimits rest → readValue fuel (text ++ rest) = some (value, rest)

theorem reads_string {content text : List Char}
    (reads : ∀ rest, readString (content ++ '"' :: rest) = some (text, rest)) :
    Reads 1 ('"' :: content ++ ['"']) (.string text) := by
  intro fuel rest enough _
  cases fuel with
  | zero => exact absurd enough (by decide)
  | succ fuel =>
      have whole : '"' :: content ++ ['"'] ++ rest = '"' :: (content ++ '"' :: rest) := by simp
      rw [whole, readValue, skip_cons (by decide)]
      simp only [reads, Option.bind_eq_bind, Option.bind_some]

/-- A text that is no string, list or object is read as a scalar. -/
theorem reads_scalar {text : List Char} {value : Value} {c : Char} (first : text.head? = some c)
    (scalar : c ≠ '"' ∧ c ≠ '[' ∧ c ≠ '{' ∧ isBlank c = false)
    (reads : ∀ rest, Delimits rest → readScalar (text ++ rest) = some (value, rest)) :
    Reads 1 text value := by
  intro fuel rest enough delimits
  obtain ⟨noQuote, noList, noObject, dark⟩ := scalar
  cases text with
  | nil => cases first
  | cons d text =>
      obtain rfl : d = c := Option.some.inj first
      cases fuel with
      | zero => exact absurd enough (by decide)
      | succ fuel =>
          have read := reads rest delimits
          rw [List.cons_append] at read ⊢
          rw [readValue, skip_cons dark]
          split
          case h_1 same => exact absurd (List.cons.inj same).1 noQuote
          case h_2 same => exact absurd (List.cons.inj same).1 noList
          case h_3 same => exact absurd (List.cons.inj same).1 noObject
          case h_4 => exact read

theorem reads_null : Reads 1 ['n', 'u', 'l', 'l'] .null :=
  reads_scalar rfl (by decide) fun _ _ => rfl

theorem reads_bool (value : Bool) : Reads 1 (toString value).toList (.bool value) := by
  cases value with
  | true => exact reads_scalar (c := 't') rfl (by decide) fun _ _ => rfl
  | false => exact reads_scalar (c := 'f') rfl (by decide) fun _ _ => rfl

theorem reads_number (n : Int) : Reads 1 (toString n).toList (.number n 0) := by
  obtain ⟨c, first, numeric⟩ : ∃ c, (toString n).toList.head? = some c ∧
      (c = '-' ∨ c.isDigit = true) := by
    rw [toList_toString]
    cases n with
    | ofNat n =>
        obtain ⟨c, digits, same⟩ := List.exists_cons_of_ne_nil (@Nat.toDigits_ne_nil n 10)
        have digit := digits_isDigit n c (by rw [same]; exact List.mem_cons_self)
        exact ⟨c, congrArg List.head? same, .inr digit⟩
    | negSucc n => exact ⟨'-', rfl, .inl rfl⟩
  have other (d : Char) (isOther : d ≠ '-' ∧ d.isDigit = false) : c ≠ d := by
    rintro rfl
    rcases numeric with minus | digit
    · exact isOther.1 minus
    · exact absurd digit (by rw [isOther.2]; exact Bool.false_ne_true)
  have dark : isBlank c = false := by
    simp only [isBlank, Bool.or_eq_false_iff, decide_eq_false_iff_not]
    exact ⟨⟨⟨other ' ' (by decide), other '\t' (by decide)⟩, other '\n' (by decide)⟩,
      other '\r' (by decide)⟩
  refine reads_scalar first ⟨other '"' (by decide), other '[' (by decide), other '{' (by decide),
    dark⟩ fun rest delimits => ?_
  rw [← readNumber_toString n delimits]
  cases text : (toString n).toList with
  | nil =>
      rw [text] at first
      cases first
  | cons d cs =>
      rw [text] at first
      obtain rfl : d = c := Option.some.inj first
      rw [List.cons_append]
      unfold readScalar
      split
      case h_1 same => exact absurd (List.cons.inj same).1 (other 'n' (by decide))
      case h_2 same => exact absurd (List.cons.inj same).1 (other 't' (by decide))
      case h_3 same => exact absurd (List.cons.inj same).1 (other 'f' (by decide))
      case h_4 => rfl

/-! ### Objects and lists -/

/-- The rest of an object whose members have these keys and texts. -/
def memberTexts : List (List Char × List Char) → List Char
  | [] => ['}']
  | [(key, text)] => '"' :: key ++ '"' :: ':' :: text ++ ['}']
  | (key, text) :: rest => '"' :: key ++ '"' :: ':' :: text ++ ',' :: memberTexts rest

/-- The rest of a list whose items have these texts. -/
def itemTexts : List (List Char) → List Char
  | [] => [']']
  | [text] => text ++ [']']
  | text :: rest => text ++ ',' :: itemTexts rest

/-- A key and its text as they stand in an object. -/
def memberText (member : List Char × List Char) : List Char :=
  '"' :: member.1 ++ '"' :: ':' :: member.2

theorem memberTexts_eq (member : List Char × List Char) (members : List (List Char × List Char)) :
    memberTexts (member :: members) =
      memberText member ++ members.flatMap (fun m => ',' :: memberText m) ++ ['}'] := by
  induction members generalizing member with
  | nil => simp [memberTexts, memberText]
  | cons next others ih =>
      rw [memberTexts.eq_3 _ _ _ (List.cons_ne_nil next others), ih next]
      simp [memberText]

theorem itemTexts_eq (item : List Char) (items : List (List Char)) :
    itemTexts (item :: items) = item ++ items.flatMap (',' :: ·) ++ [']'] := by
  induction items generalizing item with
  | nil => simp [itemTexts]
  | cons next others ih =>
      rw [itemTexts.eq_3 _ _ (List.cons_ne_nil next others), ih next]
      simp

theorem length_le_flatMap {α : Type} (f : α → List Char) (xs : List α) :
    xs.length ≤ (xs.flatMap fun x => ',' :: f x).length := by
  induction xs with
  | nil => exact Nat.le_refl 0
  | cons x xs ih =>
      simp only [List.flatMap_cons, List.length_append, List.length_cons]
      omega

theorem length_lt_memberTexts (members : List (List Char × List Char)) :
    members.length < (memberTexts members).length := by
  cases members with
  | nil => exact Nat.zero_lt_one
  | cons member members =>
      have rest := length_le_flatMap memberText members
      rw [memberTexts_eq]
      simp only [memberText, List.length_append, List.length_cons, List.length_nil]
      simp only [memberText] at rest
      omega

theorem length_le_itemTexts (item : List Char) (items : List (List Char)) :
    item.length + items.length < (itemTexts (item :: items)).length := by
  have rest := length_le_flatMap id items
  rw [itemTexts_eq]
  simp only [List.length_append, List.length_cons, List.length_nil]
  simp only [id_eq] at rest
  omega

/-- A member as it is read: its key, its text and the value of the text. -/
abbrev Member := List Char × List Char × Value

namespace Member

def written (m : Member) : List Char × List Char := (m.1, m.2.1)

def value (m : Member) : List Char × Value := (m.1, m.2.2)

end Member

theorem delimits_cons {c : Char} (isDelimiter : c = ',' ∨ c = '}' ∨ c = ']') (cs : List Char) :
    Delimits (c :: cs) := by
  intro d first
  cases first
  exact isDelimiter

theorem memberTexts_cons (m : Member) (ms : List Member) :
    ∃ more, memberTexts ((m :: ms).map Member.written) =
        '"' :: (m.1 ++ '"' :: ':' :: (m.2.1 ++ more)) ∧
      more = if ms = [] then ['}'] else ',' :: memberTexts (ms.map Member.written) := by
  cases ms with
  | nil => exact ⟨['}'], by simp [memberTexts, Member.written], rfl⟩
  | cons n ns =>
      refine ⟨_, ?_, rfl⟩
      rw [if_neg (by simp)]
      simp [memberTexts, Member.written]

/-- The end of an object, or its other members. -/
def membersAfter (fuel : Nat) (member : List Char × Value) :
    List Char → Option (List (List Char × Value) × List Char)
  | '}' :: rest => some ([member], rest)
  | ',' :: rest =>
    (readMembers fuel rest).bind fun (members, rest) => some (member :: members, rest)
  | _ => none

/-- One member is read, and what follows it. -/
theorem readMembers_cons {depth fuel : Nat} (enough : depth ≤ fuel) {m : Member}
    (reads : Reads depth m.2.1 m.2.2) {more : List Char} (delimits : Delimits more)
    {tail : List Char} (key : readString (m.1 ++ '"' :: tail) = some (m.1, tail))
    (split : tail = ':' :: (m.2.1 ++ more)) :
    readMembers (fuel + 1) ('"' :: (m.1 ++ '"' :: tail)) = membersAfter fuel m.value more := by
  subst split
  rw [readMembers, skip_cons (by decide)]
  simp only [key, Option.bind_eq_bind, Option.bind_some, skip_cons (show isBlank ':' = false by decide),
    reads fuel more enough delimits, skip_of_delimits delimits]
  rfl

theorem readMembers_memberTexts {depth fuel : Nat} {ms : List Member} (nonempty : ms ≠ [])
    (enough : depth + ms.length ≤ fuel) (keys : ∀ m ∈ ms, m.1.all plain = true)
    (reads : ∀ m ∈ ms, Reads depth m.2.1 m.2.2) (rest : List Char) :
    readMembers fuel (memberTexts (ms.map Member.written) ++ rest) =
      some (ms.map Member.value, rest) := by
  induction ms generalizing fuel with
  | nil => exact absurd rfl nonempty
  | cons m ms ih =>
      rw [List.forall_mem_cons] at keys reads
      rw [List.length_cons] at enough
      obtain ⟨more, text, found⟩ := memberTexts_cons m ms
      cases fuel with
      | zero => omega
      | succ fuel =>
          have delimits : Delimits (more ++ rest) := by
            rw [found]
            split
            · exact delimits_cons (.inr (.inl rfl)) _
            · exact delimits_cons (.inl rfl) _
          have whole : '"' :: (m.1 ++ '"' :: ':' :: (m.2.1 ++ more)) ++ rest =
              '"' :: (m.1 ++ '"' :: ':' :: (m.2.1 ++ (more ++ rest))) := by simp
          rw [text, whole, readMembers_cons (by omega) reads.1 delimits
            (readString_plain keys.1 _) rfl, found]
          cases ms with
          | nil => rfl
          | cons n ns =>
              rw [if_neg (by simp), List.cons_append]
              rw [membersAfter, ih (by simp) (by omega) keys.2 reads.2]
              rfl

theorem readValue_list {c : Char} (other : c ≠ ']' ∧ isBlank c = false) (fuel : Nat)
    (cs : List Char) :
    readValue (fuel + 1) ('[' :: c :: cs) =
      (readElements fuel (c :: cs)).bind fun (items, rest) => some (.array items, rest) := by
  rw [readValue, skip_cons (by decide)]
  simp only [skip_cons other.2]
  split
  case h_1 same => exact absurd (List.cons.inj same).1 other.1
  case h_2 => rfl

theorem readValue_object {c : Char} (other : c ≠ '}' ∧ isBlank c = false) (fuel : Nat)
    (cs : List Char) :
    readValue (fuel + 1) ('{' :: c :: cs) =
      (readMembers fuel (c :: cs)).bind fun (members, rest) => some (.object members, rest) := by
  rw [readValue, skip_cons (by decide)]
  simp only [skip_cons other.2]
  split
  case h_1 same => exact absurd (List.cons.inj same).1 other.1
  case h_2 => rfl

theorem reads_object {depth : Nat} {ms : List Member} (keys : ∀ m ∈ ms, m.1.all plain = true)
    (reads : ∀ m ∈ ms, Reads depth m.2.1 m.2.2) :
    Reads (depth + ms.length + 1) ('{' :: memberTexts (ms.map Member.written))
      (.object (ms.map Member.value)) := by
  intro fuel rest enough delimits
  cases fuel with
  | zero => omega
  | succ fuel =>
      rw [List.cons_append]
      cases ms with
      | nil =>
          rw [readValue, skip_cons (by decide)]
          simp only [List.map_nil, memberTexts, List.cons_append, List.nil_append,
            skip_cons (show isBlank '}' = false by decide)]
      | cons m ms =>
          have read := readMembers_memberTexts (List.cons_ne_nil m ms)
            (show depth + (m :: ms).length ≤ fuel by omega) keys reads rest
          obtain ⟨more, text, _⟩ := memberTexts_cons m ms
          rw [text, List.cons_append] at read ⊢
          rw [readValue_object (by decide), read]
          rfl

/-- The items of a list of objects: their texts begin with a brace. -/
theorem readElements_itemTexts {depth fuel : Nat} {items : List (List Char × Value)}
    (nonempty : items ≠ []) (enough : depth + items.length ≤ fuel)
    (reads : ∀ item ∈ items, Reads depth item.1 item.2) (rest : List Char) :
    readElements fuel (itemTexts (items.map Prod.fst) ++ rest) =
      some (items.map Prod.snd, rest) := by
  induction items generalizing fuel with
  | nil => exact absurd rfl nonempty
  | cons item items ih =>
      rw [List.forall_mem_cons] at reads
      rw [List.length_cons] at enough
      cases fuel with
      | zero => omega
      | succ fuel =>
          cases items with
          | nil =>
              have text : itemTexts (List.map Prod.fst [item]) ++ rest =
                  item.1 ++ ']' :: rest := by simp [itemTexts]
              rw [text, readElements, reads.1 fuel _ (by omega) (delimits_cons (.inr (.inr rfl)) _)]
              rfl
          | cons next others =>
              have text : itemTexts (List.map Prod.fst (item :: next :: others)) ++ rest =
                  item.1 ++ ',' :: (itemTexts (List.map Prod.fst (next :: others)) ++ rest) := by
                simp [itemTexts]
              rw [text, readElements, reads.1 fuel _ (by omega) (delimits_cons (.inl rfl) _)]
              simp only [Option.bind_eq_bind, Option.bind_some,
                skip_cons (show isBlank ',' = false by decide), ih (List.cons_ne_nil _ _)
                  (show depth + (next :: others).length ≤ fuel by omega) reads.2]
              rfl

/-- The text of a list of objects. -/
theorem read_list {depth : Nat} {items : List (List Char × Value)}
    (enough : depth + items.length ≤ ('[' :: itemTexts (items.map Prod.fst)).length)
    (objects : ∀ item ∈ items, item.1.head? = some '{')
    (reads : ∀ item ∈ items, Reads depth item.1 item.2) :
    read ('[' :: itemTexts (items.map Prod.fst)) = some (.array (items.map Prod.snd)) := by
  cases items with
  | nil => rfl
  | cons item items =>
      have listed := readElements_itemTexts (List.cons_ne_nil item items) enough reads []
      rw [List.append_nil] at listed
      have brace := objects item List.mem_cons_self
      obtain ⟨more, text⟩ : ∃ more, itemTexts ((item :: items).map Prod.fst) = '{' :: more := by
        cases written : item.1 with
        | nil =>
            rw [written] at brace
            cases brace
        | cons c cs =>
            rw [written] at brace
            obtain rfl : c = '{' := Option.some.inj brace
            cases items with
            | nil => exact ⟨_, by simp [itemTexts, written]; rfl⟩
            | cons next others => exact ⟨_, by simp [itemTexts, written]; rfl⟩
      rw [text] at listed ⊢
      rw [read, readValue_list (by decide), listed]
      rfl

/-! ### Keys that are not escaped -/

theorem readMembers_key {fuel : Nat} {cs rest : List Char} {members : List (List Char × Value)}
    (read : readMembers fuel ('"' :: cs) = some (members, rest)) :
    ∃ key rest' value others, readString cs = some (key, rest') ∧
      members = (key, value) :: others := by
  cases fuel with
  | zero => cases read
  | succ fuel =>
      rw [readMembers, skip_cons (by decide)] at read
      obtain ⟨⟨key, rest'⟩, key_read, further⟩ := Option.bind_eq_some_iff.mp read
      dsimp only at further
      split at further
      case h_2 => cases further
      case h_1 =>
          obtain ⟨⟨value, _⟩, _, ends⟩ := Option.bind_eq_some_iff.mp further
          dsimp only at ends
          split at ends
          case h_1 =>
              cases ends
              exact ⟨key, rest', value, [], key_read, rfl⟩
          case h_2 =>
              obtain ⟨⟨others, _⟩, _, same⟩ := Option.bind_eq_some_iff.mp ends
              cases same
              exact ⟨key, rest', value, others, key_read, rfl⟩
          case h_3 => cases ends

/-- A text behind which all is clear that is clear before it. -/
def Shy (text : List Char) : Prop := ∀ more, Clear more → Clear (text ++ more)

theorem clear_cons {c : Char} (other : c ≠ '\\') {cs : List Char} (clear : Clear cs) :
    Clear (c :: cs) := by
  unfold Clear
  by_cases quote : c = '"'
  · rw [List.takeWhile_cons_of_neg (by simpa using quote)]
    exact List.forall_mem_nil _
  · rw [List.takeWhile_cons_of_pos (by simpa using quote)]
    exact List.forall_mem_cons.mpr ⟨other, clear⟩

theorem clear_quote (cs : List Char) : Clear ('"' :: cs) := by
  unfold Clear
  rw [List.takeWhile_cons_of_neg (by decide)]
  exact List.forall_mem_nil _

theorem shy_of_noEscape {text : List Char} (noEscape : ∀ c ∈ text, c ≠ '\\') : Shy text := by
  intro more clear
  induction text with
  | nil => exact clear
  | cons c text ih =>
      rw [List.forall_mem_cons] at noEscape
      exact clear_cons noEscape.1 (ih noEscape.2)

theorem shy_of_all {text : List Char} (noEscape : text.all (· ≠ '\\') = true) : Shy text :=
  shy_of_noEscape fun c member => of_decide_eq_true (List.all_eq_true.mp noEscape c member)

theorem shy_string (content : List Char) : Shy ('"' :: content) := fun _ _ => clear_quote _

theorem shy_number (n : Int) : Shy (toString n).toList := by
  have digits (m : Nat) : ∀ c ∈ Nat.toDigits 10 m, c ≠ '\\' := by
    rintro c member rfl
    exact absurd (digits_isDigit m _ member) (by decide)
  rw [toList_toString]
  apply shy_of_noEscape
  cases n with
  | ofNat m => exact digits m
  | negSucc m => exact List.forall_mem_cons.mpr ⟨by decide, digits (m + 1)⟩

theorem shy_memberTexts (members : List (List Char × List Char)) : Shy (memberTexts members) := by
  intro more clear
  cases members with
  | nil => exact clear_cons (by decide) clear
  | cons member members =>
      rw [memberTexts_eq]
      exact clear_quote _

theorem clear_itemTexts {items : List (List Char)} (shy : ∀ item ∈ items, Shy item) :
    Clear (itemTexts items) := by
  induction items using itemTexts.induct with
  | case1 => exact clear_cons (by decide) (List.forall_mem_nil _)
  | case2 item =>
      exact shy item List.mem_cons_self _ (clear_cons (by decide) (List.forall_mem_nil _))
  | case3 item items nonempty ih =>
      rw [List.forall_mem_cons] at shy
      rw [itemTexts.eq_3 _ _ nonempty]
      exact shy.1 _ (clear_cons (by decide) (ih shy.2))

/-- Where an object is read with the keys it was written with, these are plain. -/
theorem keys_plain {depth fuel : Nat} {ms : List Member} (enough : depth + ms.length ≤ fuel)
    (reads : ∀ m ∈ ms, Reads depth m.2.1 m.2.2) (shy : ∀ m ∈ ms, Shy m.2.1) {rest rest' : List Char}
    (clear : Clear rest) {members : List (List Char × Value)}
    (read : readMembers fuel (memberTexts (ms.map Member.written) ++ rest) =
      some (members, rest')) (same : members.map Prod.fst = ms.map Prod.fst) :
    ∀ m ∈ ms, m.1.all plain = true := by
  induction ms generalizing fuel members with
  | nil => exact List.forall_mem_nil _
  | cons m ms ih =>
      rw [List.forall_mem_cons] at reads shy
      rw [List.length_cons] at enough
      obtain ⟨more, text, found⟩ := memberTexts_cons m ms
      have whole : '"' :: (m.1 ++ '"' :: ':' :: (m.2.1 ++ more)) ++ rest =
          '"' :: (m.1 ++ '"' :: ':' :: (m.2.1 ++ (more ++ rest))) := by simp
      have delimits : Delimits (more ++ rest) := by
        rw [found]
        split
        · exact delimits_cons (.inr (.inl rfl)) _
        · exact delimits_cons (.inl rfl) _
      have clear_more : Clear (more ++ rest) := by
        rw [found]
        cases ms with
        | nil => exact clear_cons (by decide) clear
        | cons n ns =>
            obtain ⟨_, next, _⟩ := memberTexts_cons n ns
            rw [if_neg (by simp), next]
            exact clear_cons (by decide) (clear_quote _)
      rw [text, whole] at read
      obtain ⟨key, _, value, others, key_read, rfl⟩ := readMembers_key read
      have key_same : key = m.1 := (List.cons.inj same).1
      rw [key_same] at key_read
      have isPlain := plain_of_readString
        (clear_cons (show ':' ≠ '\\' by decide) (shy.1 _ clear_more)) key_read
      refine List.forall_mem_cons.mpr ⟨isPlain, ?_⟩
      cases fuel with
      | zero => cases read
      | succ fuel =>
          rw [readMembers_cons (by omega) reads.1 delimits (readString_plain isPlain _) rfl,
            found] at read
          cases ms with
          | nil => exact List.forall_mem_nil _
          | cons n ns =>
              rw [if_neg (by simp), List.cons_append, membersAfter] at read
              obtain ⟨⟨found_members, _⟩, further, same'⟩ := Option.bind_eq_some_iff.mp read
              cases same'
              exact ih (by omega) reads.2 shy.2 further (List.cons.inj same).2

/-- The first object of a list is read from its text. -/
theorem read_first {m : Member} {ms : List Member} {texts : List (List Char)}
    {members : List (List Char × Value)} {values : List Value}
    (listed : read ('[' :: itemTexts (('{' :: memberTexts ((m :: ms).map Member.written)) :: texts)) =
      some (.array (.object members :: values))) :
    ∃ rest', readMembers
        ('[' :: itemTexts (('{' :: memberTexts ((m :: ms).map Member.written)) :: texts)).length.pred.pred
        (memberTexts ((m :: ms).map Member.written) ++
          if texts = [] then [']'] else ',' :: itemTexts texts) = some (members, rest') := by
  obtain ⟨more, text, _⟩ := memberTexts_cons m ms
  have whole : itemTexts (('{' :: memberTexts ((m :: ms).map Member.written)) :: texts) =
      '{' :: (memberTexts ((m :: ms).map Member.written) ++
        if texts = [] then [']'] else ',' :: itemTexts texts) := by
    cases texts <;> simp [itemTexts]
  rw [whole] at listed ⊢
  rw [text] at listed ⊢
  generalize (if texts = [] then [']'] else ',' :: itemTexts texts) = rest at listed ⊢
  generalize m.1 ++ '"' :: ':' :: (m.2.1 ++ more) = cs at listed ⊢
  obtain ⟨⟨value, after⟩, value_read, same⟩ := Option.bind_eq_some_iff.mp listed
  dsimp only at same
  split at same
  case isFalse => cases same
  case isTrue =>
  cases same
  rw [readValue_list (by decide)] at value_read
  obtain ⟨⟨items, _⟩, items_read, same⟩ := Option.bind_eq_some_iff.mp value_read
  cases same
  rw [List.length_cons, readElements] at items_read
  obtain ⟨⟨item, others⟩, item_read, ends⟩ := Option.bind_eq_some_iff.mp items_read
  obtain rfl : item = .object members := by
    dsimp only at ends
    split at ends
    case h_1 =>
        cases ends
        rfl
    case h_2 =>
        obtain ⟨⟨_, _⟩, _, same⟩ := Option.bind_eq_some_iff.mp ends
        cases same
        rfl
    case h_3 => cases ends
  rw [List.length_cons, List.cons_append, readValue_object (by decide)] at item_read
  obtain ⟨⟨found, rest'⟩, members_read, same⟩ := Option.bind_eq_some_iff.mp item_read
  cases same
  exact ⟨_, members_read⟩

end JsonReader
