import Datapress.Library.Lists
import Datapress.Text

/-! The origin guard of the MCP endpoint, and what an origin is. -/
namespace Datapress.Mcp

/-! ### The guard -/

/-- What `HeaderValue::to_str` lets through. -/
def visibleAscii (c : Char) : Bool := c == '\t' || (32 ≤ c.toNat && c.toNat < 127)

structure HeaderText where
  text : String
  visible : ∀ c ∈ text.toList, visibleAscii c

inductive OriginHeader where
  | absent
  | unreadable
  | text (value : HeaderText)

/-- `str::strip_prefix`. -/
def stripped (lead text : String) : Option String :=
  if startsWith lead text then some (String.ofList (text.toList.drop lead.length)) else none

section
variable [ToLowercase]

/-- The `host[:port]` part of an origin. -/
def extractHost (origin : String) : String :=
  let s := ((stripped "https://" origin).or (stripped "http://" origin)).getD origin
  toLowercase (String.ofList (s.toList.takeWhile (· ≠ '/')))

def originAllowed (ownHost : String) (allowedOrigins : List String) : OriginHeader → Bool
  | .absent => true
  | .unreadable => false
  | .text origin =>
    let originHost := extractHost origin.text
    let hostname := String.ofList (originHost.toList.takeWhile (· ≠ ':'))
    if ["localhost", "127.0.0.1", "[::1]"].contains hostname then true
    else if originHost == ownHost then true
    else allowedOrigins.any fun allowed =>
      allowed == origin.text || extractHost allowed == originHost

end

/-! ### Origins -/

/-- A scheme, a host and a port. -/
@[ext] structure Origin where
  scheme : List Char
  host : List Char
  port : Option (List Char)

def schemeChar (c : Char) : Bool := c.isAlphanum || c == '+' || c == '-' || c == '.'

/-- The characters of a registered name or of an IPv4 address. -/
def hostChar (c : Char) : Bool := c.isAlphanum || "-._~!$&'()*+,;=%".toList.contains c

/-- Those of an IPv6 address. -/
def literalChar (c : Char) : Bool := "0123456789abcdefABCDEF:.".toList.contains c

def lower (chars : List Char) : List Char := chars.map Char.toLower

namespace Origin

/-- A name, or an IPv6 literal in brackets. -/
inductive ValidHost : List Char → Prop where
  | name {host} : host ≠ [] → (∀ c ∈ host, hostChar c) → ValidHost host
  | literal {inner} : inner ≠ [] → (∀ c ∈ inner, literalChar c) →
      ValidHost ('[' :: (inner ++ [']']))

structure Valid (o : Origin) : Prop where
  scheme : ∀ c ∈ o.scheme, schemeChar c
  named : o.scheme ≠ []
  host : ValidHost o.host
  port : ∀ port ∈ o.port, ∀ c ∈ port, c.isDigit

/-- The port with its colon. -/
def portText (o : Origin) : List Char := o.port.elim [] (':' :: ·)

def authority (o : Origin) : List Char := o.host ++ o.portText

/-- The text is `scheme://host[:port]`, with nothing behind it but a path. -/
def Reads (o : Origin) (text : String) : Prop :=
  o.Valid ∧ ∃ path, text.toList = o.scheme ++ ("://".toList ++ (o.authority ++ path)) ∧
    ∀ c ∈ path.head?, c = '/'

def Loopback (o : Origin) : Prop :=
  lower o.host ∈ ["localhost".toList, "127.0.0.1".toList, "[::1]".toList]

/-- The origin is one that the guard is for: on this machine, of this server, or configured. -/
def Due (o : Origin) (ownHost : String) (allowedOrigins : List String) : Prop :=
  o.Loopback ∨ lower o.authority = lower ownHost.toList ∨
    ∃ allowed ∈ allowedOrigins, ∃ o' : Origin, o'.Reads allowed ∧
      lower o'.authority = lower o.authority

/-- The scheme is spelled `http` or `https`. -/
def Web (o : Origin) : Prop := o.scheme = "http".toList ∨ o.scheme = "https".toList

end Origin

/-- The host of the text is a due one. -/
def Admitted (origin ownHost : String) (allowedOrigins : List String) : Prop :=
  ∃ o : Origin, o.Reads origin ∧ o.Due ownHost allowedOrigins

/-! ### Reading -/

namespace Origin

/-- A character that ends hosts and ports. -/
structure Delimiter (d : Char) : Prop where
  name : hostChar d = false
  literal : literalChar d = false
  digit : d.isDigit = false
  other : d ≠ '[' ∧ d ≠ ']' ∧ d ≠ ':'

theorem slash_delimiter : Delimiter '/' := by
  constructor <;> decide

theorem ValidHost.not_mem {host : List Char} {d : Char} (valid : ValidHost host)
    (delimiter : Delimiter d) : d ∉ host := by
  intro inside
  cases valid with
  | name _ chars =>
      have kind := chars d inside
      rw [delimiter.name] at kind
      cases kind
  | literal _ chars =>
      simp only [List.mem_cons, List.mem_append, List.not_mem_nil, or_false] at inside
      rcases inside with opened | inner | closed
      · exact delimiter.other.1 opened
      · have kind := chars d inner
        rw [delimiter.literal] at kind
        cases kind
      · exact delimiter.other.2.1 closed

theorem portText_head (o : Origin) : ∀ c ∈ o.portText.head?, c = ':' := by
  intro c first
  cases port : o.port with
  | none =>
      rw [portText, port] at first
      cases first
  | some digits =>
      rw [portText, port] at first
      exact (Option.some.inj first).symm

theorem authority_not_mem {o : Origin} {d : Char} (valid : o.Valid) (delimiter : Delimiter d) :
    d ∉ o.authority := by
  intro inside
  rcases List.mem_append.mp inside with host | port
  · exact valid.host.not_mem delimiter host
  · rw [portText] at port
    cases given : o.port with
    | none =>
        rw [given] at port
        cases port
    | some digits =>
        rw [given] at port
        rcases List.mem_cons.mp port with colon | digit
        · exact delimiter.other.2.2 colon
        · have kind := valid.port digits given d digit
          rw [delimiter.digit] at kind
          cases kind

/-- A host ends at a colon outside its brackets. -/
theorem ValidHost.unique {host host' text text' : List Char} (valid : ValidHost host)
    (valid' : ValidHost host') (port : ∀ c ∈ text.head?, c = ':')
    (port' : ∀ c ∈ text'.head?, c = ':') (same : host ++ text = host' ++ text') :
    host = host' ∧ text = text' := by
  have stops {text : List Char} (port : ∀ c ∈ text.head?, c = ':') :
      ∀ c ∈ text.head?, hostChar c = false := by
    intro c first
    rw [port c first]
    decide
  have mixed {host inner text text' : List Char} (some : host ≠ []) (chars : ∀ c ∈ host, hostChar c)
      (same : host ++ text = '[' :: (inner ++ [']']) ++ text') : False := by
    cases host with
    | nil => exact some rfl
    | cons c rest =>
        obtain ⟨rfl, _⟩ := List.cons.inj same
        exact absurd (chars _ List.mem_cons_self) (by decide)
  cases valid with
  | name some chars =>
      cases valid' with
      | name _ chars' => exact Lists.append_unique chars chars' (stops port) (stops port') same
      | literal => exact (mixed some chars same).elim
  | @literal inner _ chars =>
      cases valid' with
      | name some chars' => exact (mixed some chars' same.symm).elim
      | @literal inner' _ chars' =>
          have closed : inner ++ [']'] ++ text = inner' ++ [']'] ++ text' :=
            (List.cons.inj same).2
          rw [List.append_assoc, List.append_assoc] at closed
          obtain ⟨rfl, rest⟩ := Lists.append_unique chars chars' (by rintro c ⟨⟩; decide)
            (by rintro c ⟨⟩; decide) closed
          exact ⟨rfl, (List.cons.inj rest).2⟩

theorem portText_inj {o o' : Origin} (same : o.portText = o'.portText) : o.port = o'.port := by
  rw [portText, portText] at same
  cases port : o.port with
  | none =>
      cases port' : o'.port with
      | none => rfl
      | some digits' =>
          rw [port, port'] at same
          cases same
  | some digits =>
      cases port' : o'.port with
      | none =>
          rw [port, port'] at same
          cases same
      | some digits' =>
          rw [port, port'] at same
          rw [(List.cons.inj same).2]

/-- A text reads as one origin. -/
theorem Reads.unique {o o' : Origin} {text : String} (reads : o.Reads text)
    (reads' : o'.Reads text) : o = o' := by
  obtain ⟨valid, path, spelled, ends⟩ := reads
  obtain ⟨valid', path', spelled', ends'⟩ := reads'
  obtain ⟨scheme, rest⟩ := Lists.append_unique valid.scheme valid'.scheme
    (by rintro c ⟨⟩; decide) (by rintro c ⟨⟩; decide) (spelled.symm.trans spelled')
  have inside {o : Origin} (valid : o.Valid) : ∀ c ∈ o.authority, (c != '/') = true := by
    intro c member
    rw [bne_iff_ne]
    rintro rfl
    exact authority_not_mem valid slash_delimiter member
  have stops {path : List Char} (ends : ∀ c ∈ path.head?, c = '/') :
      ∀ c ∈ path.head?, (c != '/') = false := by
    intro c first
    rw [ends c first]
    rfl
  obtain ⟨authority, _⟩ := Lists.append_unique (inside valid) (inside valid') (stops ends)
    (stops ends') (List.append_cancel_left rest)
  obtain ⟨host, port⟩ := valid.host.unique valid'.host o.portText_head o'.portText_head authority
  exact Origin.ext scheme host (portText_inj port)

end Origin
/-! ### What the guard sees -/

/-- The text behind a leading `http://` or `https://`, up to the first slash. -/
def Stands (body : List Char) (text : String) : Prop :=
  ∃ lead rest, text.toList = lead ++ (body ++ rest) ∧ '/' ∉ body ∧ (∀ c ∈ rest.head?, c = '/') ∧
    (lead = "https://".toList ∨ lead = "http://".toList ∨
      lead = [] ∧ ¬ "https://".toList <+: text.toList ∧ ¬ "http://".toList <+: text.toList)

theorem takeWhile_body {body rest : List Char} (inside : '/' ∉ body)
    (ends : ∀ c ∈ rest.head?, c = '/') : (body ++ rest).takeWhile (· ≠ '/') = body := by
  have kept : ∀ c ∈ body, decide (c ≠ '/') = true := by
    intro c member
    apply decide_eq_true
    rintro rfl
    exact inside member
  rw [List.takeWhile_append_of_pos kept]
  cases rest with
  | nil => exact List.append_nil _
  | cons c rest =>
      rw [List.takeWhile_cons_of_neg (by rw [ends c rfl]; decide)]
      exact List.append_nil _

section
variable [ToLowercase]

theorem extractHost_of_stands {body : List Char} {text : String} (stands : Stands body text) :
    extractHost text = toLowercase (String.ofList body) := by
  obtain ⟨lead, rest, spelled, inside, ends, shape⟩ := stands
  have starts {lead' : String} : startsWith lead' text ↔ lead'.toList <+: text.toList :=
    List.isPrefixOf_iff_prefix
  have kept {lead' : String} (spelled : text.toList = lead'.toList ++ (body ++ rest)) :
      stripped lead' text = some (String.ofList (body ++ rest)) := by
    rw [stripped, if_pos (starts.mpr ⟨_, spelled.symm⟩), spelled, ← String.length_toList,
      List.drop_left]
  have missing {lead' : String} (other : ¬ lead'.toList <+: text.toList) :
      stripped lead' text = none := if_neg (mt starts.mp other)
  rw [extractHost]
  rcases shape with rfl | rfl | ⟨rfl, secure, plain⟩
  · rw [kept spelled]
    simp only [Option.some_or, Option.getD_some, String.toList_ofList, takeWhile_body inside ends]
  · have other : ¬ "https://".toList <+: text.toList := by
      rw [spelled]
      rintro ⟨tail, same⟩
      cases same
    rw [missing other, kept spelled]
    simp only [Option.none_or, Option.getD_some, String.toList_ofList,
      takeWhile_body inside ends]
  · rw [missing secure, missing plain]
    simp only [Option.none_or, Option.getD_none, spelled, List.nil_append,
      takeWhile_body inside ends]

end

theorem stands_exists (text : String) : ∃ body, Stands body text := by
  have cut (lead chars : List Char) (spelled : text.toList = lead ++ chars)
      (shape : lead = "https://".toList ∨ lead = "http://".toList ∨
        lead = [] ∧ ¬ "https://".toList <+: text.toList ∧ ¬ "http://".toList <+: text.toList) :
      ∃ body, Stands body text := by
    refine ⟨chars.takeWhile (· ≠ '/'), lead, chars.dropWhile (· ≠ '/'), ?_, ?_, ?_, shape⟩
    · rw [List.takeWhile_append_dropWhile, spelled]
    · intro slash
      have kept := List.all_eq_true.mp List.all_takeWhile _ slash
      exact absurd kept (by decide)
    · intro c first
      have stop := List.head?_dropWhile_not (· ≠ '/') chars
      rw [Option.mem_def.mp first] at stop
      simpa using stop
  by_cases secure : "https://".toList <+: text.toList
  · obtain ⟨chars, spelled⟩ := secure
    exact cut _ chars spelled.symm (.inl rfl)
  · by_cases plain : "http://".toList <+: text.toList
    · obtain ⟨chars, spelled⟩ := plain
      exact cut _ chars spelled.symm (.inr (.inl rfl))
    · exact cut [] text.toList rfl (.inr (.inr ⟨rfl, secure, plain⟩))

/-- The text up to its first colon is a local name. -/
def LocalText (body : List Char) : Prop :=
  (lower body).takeWhile (· ≠ ':') ∈ ["localhost".toList, "127.0.0.1".toList]

/-- The origin has a local name for a host, and no IPv6 literal. -/
def Origin.LocalName (o : Origin) : Prop :=
  lower o.host ∈ ["localhost".toList, "127.0.0.1".toList]

section
variable [ToLowercase] {ownHost : String} {allowedOrigins : List String}

/-- The text, in lower case, is the own host as it is spelled or stands in a configured origin. -/
def Named (ownHost : String) (allowedOrigins : List String) (body : List Char) : Prop :=
  toLowercase (String.ofList body) = ownHost ∨
    ∃ allowed ∈ allowedOrigins, ∃ body', Stands body' allowed ∧
      toLowercase (String.ofList body') = toLowercase (String.ofList body)

theorem lower_visible {text : String} {body : List Char} (visible : ∀ c ∈ text.toList, visibleAscii c)
    (inside : body ⊆ text.toList) : (toLowercase (String.ofList body)).toList = lower body := by
  rw [ToLowercase.ascii, toAsciiLowercase, String.toList_ofList, String.toList_ofList]
  · rfl
  · rw [String.toList_ofList]
    intro c member
    have shown := visible c (inside member)
    simp only [visibleAscii, Bool.or_eq_true, beq_iff_eq, Bool.and_eq_true, decide_eq_true_eq]
      at shown
    rw [UInt32.lt_iff_toNat_lt]
    rcases shown with rfl | ⟨_, small⟩
    · decide
    · exact Nat.lt_trans small (by decide)

omit [ToLowercase] in
theorem Stands.subset {body : List Char} {text : String} (stands : Stands body text) :
    body ⊆ text.toList := by
  obtain ⟨lead, rest, spelled, _⟩ := stands
  rw [spelled]
  intro c member
  exact List.mem_append_right _ (List.mem_append_left _ member)

omit [ToLowercase] in
/-- An IPv6 literal is no part of a text before its first colon. -/
theorem localNames_contains_iff {body : List Char} :
    ["localhost", "127.0.0.1", "[::1]"].contains
      (String.ofList ((lower body).takeWhile (· ≠ ':'))) ↔ LocalText body := by
  have kept : ∀ c ∈ (lower body).takeWhile (· ≠ ':'), c ≠ ':' := by
    intro c member
    exact of_decide_eq_true (List.all_eq_true.mp List.all_takeWhile c member)
  have literal : String.ofList ((lower body).takeWhile (· ≠ ':')) ≠ "[::1]" := by
    intro same
    apply kept ':' _ rfl
    rw [← String.toList_ofList (l := (lower body).takeWhile (· ≠ ':')), same]
    decide
  have spelled (name : String) : String.ofList ((lower body).takeWhile (· ≠ ':')) = name ↔
      (lower body).takeWhile (· ≠ ':') = name.toList := by
    rw [← String.toList_inj, String.toList_ofList]
  rw [List.contains_iff_mem, LocalText]
  simp only [List.mem_cons, List.not_mem_nil, or_false, literal, spelled]

/-- What the guard lets in. -/
theorem originAllowed_iff {origin : HeaderText} {body : List Char}
    (stands : Stands body origin.text) :
    originAllowed ownHost allowedOrigins (.text origin) ↔
      LocalText body ∨ Named ownHost allowedOrigins body := by
  have extracted := extractHost_of_stands stands
  have lowered := lower_visible origin.visible stands.subset
  have entry (allowed : String) :
      (allowed == origin.text || extractHost allowed == toLowercase (String.ofList body)) ↔
        ∃ body', Stands body' allowed ∧
          toLowercase (String.ofList body') = toLowercase (String.ofList body) := by
    rw [Bool.or_eq_true, beq_iff_eq, beq_iff_eq]
    constructor
    · rintro (rfl | same)
      · exact ⟨body, stands, rfl⟩
      · obtain ⟨body', there⟩ := stands_exists allowed
        exact ⟨body', there, (extractHost_of_stands there).symm.trans same⟩
    · rintro ⟨body', there, same⟩
      exact .inr ((extractHost_of_stands there).trans same)
  simp only [originAllowed, extracted, lowered]
  split
  case isTrue localName => exact iff_of_true rfl (.inl (localNames_contains_iff.mp localName))
  case isFalse other =>
      rw [or_iff_right (mt localNames_contains_iff.mpr other), Named]
      split
      case isTrue own => exact iff_of_true rfl (.inl (beq_iff_eq.mp own))
      case isFalse foreign =>
          rw [or_iff_right (mt beq_iff_eq.mpr foreign), List.any_eq_true]
          exact exists_congr fun allowed => and_congr_right fun _ => entry allowed

end

/-! ### Origins that are seen as they are -/

theorem Origin.stands {o : Origin} {text : String} (reads : o.Reads text) (web : o.Web) :
    Stands o.authority text := by
  obtain ⟨valid, path, spelled, ends⟩ := reads
  refine ⟨o.scheme ++ "://".toList, path, ?_, authority_not_mem valid slash_delimiter, ends, ?_⟩
  · rw [spelled, List.append_assoc]
  · rcases web with plain | secure
    · rw [plain]
      exact .inr (.inl rfl)
    · rw [secure]
      exact .inl rfl

theorem colon_of_toLower {c : Char} (same : c.toLower = ':') : c = ':' := by
  rcases toLower_spec c with ⟨upper, moved⟩ | ⟨_, kept⟩
  · have value : c.val + 32 = 58 := by
      rw [← moved, same]
      rfl
    grind [UInt32.toNat_add]
  · rw [← kept, same]

/-- The text up to the first colon is the host, unless that is an IPv6 literal. -/
theorem Origin.localText_iff {o : Origin} (valid : o.Valid) :
    LocalText o.authority ↔ o.LocalName := by
  rw [LocalText, LocalName, Origin.authority, lower, List.map_append]
  generalize hosted : o.host = host
  have validHost := hosted ▸ valid.host
  cases validHost with
  | name _ chars =>
      have kept : ∀ c ∈ host.map Char.toLower, decide (c ≠ ':') = true := by
        intro c member
        obtain ⟨d, inside, rfl⟩ := List.mem_map.mp member
        apply decide_eq_true
        intro colon
        rw [colon_of_toLower colon] at inside
        exact absurd (chars _ inside) (by decide)
      have port : (o.portText.map Char.toLower).takeWhile (· ≠ ':') = [] := by
        cases given : o.portText with
        | nil => rfl
        | cons c rest =>
            have colon := o.portText_head c (by rw [given]; rfl)
            rw [colon]
            rfl
      rw [List.takeWhile_append_of_pos kept, port, List.append_nil]
      rfl
  | literal _ _ =>
      refine iff_of_false (fun member => ?_) fun member => ?_
      · rcases List.mem_cons.mp member with same | member
        · cases same
        · cases List.mem_singleton.mp member
      · rcases List.mem_cons.mp member with same | member
        · cases same
        · cases List.mem_singleton.mp member

theorem Origin.scheme_not_mem {o : Origin} {d : Char} (valid : o.Valid)
    (delimiter : schemeChar d = false) : d ∉ o.scheme := by
  intro inside
  have kind := valid.scheme d inside
  rw [delimiter] at kind
  cases kind

/-- Of an origin of another scheme the text up to the first slash is seen. -/
theorem Origin.body_foreign {o : Origin} {text : String} {body : List Char} (reads : o.Reads text)
    (foreign : ¬ o.Web) (stands : Stands body text) : body = o.scheme ++ [':'] := by
  obtain ⟨valid, path, spelled, _⟩ := reads
  obtain ⟨lead, rest, seen, inside, ends, shape⟩ := stands
  have other {scheme tail : List Char} (chars : ∀ c ∈ scheme, schemeChar c)
      (begins : text.toList = scheme ++ ("://".toList ++ tail)) : o.scheme = scheme :=
    (Lists.append_unique valid.scheme chars (by rintro c ⟨⟩; decide) (by rintro c ⟨⟩; decide)
      (spelled.symm.trans begins)).1
  rcases shape with rfl | rfl | ⟨rfl, _⟩
  · exact absurd (.inr (other (List.all_eq_true.mp rfl) seen)) foreign
  · exact absurd (.inl (other (List.all_eq_true.mp rfl) seen)) foreign
  · have kept {chars : List Char} (apart : '/' ∉ chars) : ∀ c ∈ chars, (c != '/') = true := by
      intro c member
      rw [bne_iff_ne]
      rintro rfl
      exact apart member
    have schemeApart : '/' ∉ o.scheme ++ [':'] := by
      rw [List.mem_append, not_or]
      exact ⟨scheme_not_mem valid (by decide), by decide⟩
    have begins : body ++ rest = o.scheme ++ [':'] ++ ("//".toList ++ (o.authority ++ path)) := by
      rw [List.append_assoc]
      exact seen.symm.trans spelled
    refine (Lists.append_unique (kept inside) (kept schemeApart) ?_ (by rintro c ⟨⟩; decide) begins).1
    intro c first
    rw [ends c first]
    rfl

theorem Origin.localText_foreign {o : Origin} (valid : o.Valid) :
    LocalText (o.scheme ++ [':']) ↔
      lower o.scheme ∈ ["localhost".toList, "127.0.0.1".toList] := by
  have kept : ∀ c ∈ lower o.scheme, decide (c ≠ ':') = true := by
    intro c member
    obtain ⟨d, inside, rfl⟩ := List.mem_map.mp member
    apply decide_eq_true
    intro colon
    rw [colon_of_toLower colon] at inside
    exact scheme_not_mem valid (by decide) inside
  have before : (lower (o.scheme ++ [':'])).takeWhile (· ≠ ':') = lower o.scheme := by
    have split : lower (o.scheme ++ [':']) = lower o.scheme ++ [':'] := List.map_append
    rw [split, List.takeWhile_append_of_pos kept]
    exact List.append_nil _
  rw [LocalText, before]

/-! ### What is let in -/

theorem admitted_iff {o : Origin} {origin ownHost : String} {allowedOrigins : List String}
    (reads : o.Reads origin) :
    Admitted origin ownHost allowedOrigins ↔ o.Due ownHost allowedOrigins := by
  constructor
  · rintro ⟨o', reads', due⟩
    rwa [reads.unique reads']
  · intro due
    exact ⟨o, reads, due⟩

section
variable [ToLowercase]

/-- A web origin is let in just when it is due: an IPv6 loopback address, the own host in another
case and an entry of another kind have to be named otherwise, and no entry that is no origin names
it. -/
structure WebRegular (o : Origin) (ownHost : String) (allowedOrigins : List String) : Prop where
  loopback : lower o.host = "[::1]".toList → Named ownHost allowedOrigins o.authority
  own : lower o.authority = lower ownHost.toList →
    o.LocalName ∨ Named ownHost allowedOrigins o.authority
  entry : ∀ allowed ∈ allowedOrigins, ∀ o' : Origin, o'.Reads allowed →
    lower o'.authority = lower o.authority →
    o.LocalName ∨ Named ownHost allowedOrigins o.authority
  named : Named ownHost allowedOrigins o.authority → o.Due ownHost allowedOrigins

/-- Of an origin of another scheme the guard sees `scheme:`, which passes when the scheme is a local
name, or when it is the own host or stands in an entry. -/
structure ForeignRegular (o : Origin) (ownHost : String) (allowedOrigins : List String) : Prop where
  scheme : lower o.scheme ∈ ["localhost".toList, "127.0.0.1".toList] → o.Due ownHost allowedOrigins
  named : Named ownHost allowedOrigins (o.scheme ++ [':']) → o.Due ownHost allowedOrigins
  due : o.Due ownHost allowedOrigins →
    lower o.scheme ∈ ["localhost".toList, "127.0.0.1".toList] ∨
      Named ownHost allowedOrigins (o.scheme ++ [':'])

structure Regular (origin ownHost : String) (allowedOrigins : List String) : Prop where
  web : ∀ o : Origin, o.Reads origin → o.Web → WebRegular o ownHost allowedOrigins
  foreign : ∀ o : Origin, o.Reads origin → ¬ o.Web → ForeignRegular o ownHost allowedOrigins
  /-- The text that stands for the host is no host, or has no scheme. -/
  garbage : (∀ o : Origin, ¬ o.Reads origin) → ∀ body, Stands body origin →
    ¬ LocalText body ∧ ¬ Named ownHost allowedOrigins body

theorem webRegular_iff {o : Origin} {ownHost : String} {allowedOrigins : List String} :
    (o.LocalName ∨ Named ownHost allowedOrigins o.authority ↔ o.Due ownHost allowedOrigins) ↔
      WebRegular o ownHost allowedOrigins := by
  constructor
  · intro same
    refine ⟨fun loopback => ?_, fun own => same.mpr (.inr (.inl own)),
      fun allowed member o' reads equal => same.mpr (.inr (.inr ⟨allowed, member, o', reads, equal⟩)),
      fun named => same.mp (.inr named)⟩
    apply (same.mpr (.inl _)).resolve_left
    · intro localName
      rw [Origin.LocalName, loopback] at localName
      exact absurd localName (by decide)
    · rw [Origin.Loopback, loopback]
      decide
  · intro regular
    constructor
    · rintro (localName | named)
      · refine .inl ?_
        rw [Origin.Loopback]
        rcases List.mem_cons.mp localName with same | member
        · exact List.mem_cons.mpr (.inl same)
        · exact List.mem_cons_of_mem _ (List.mem_cons.mpr (.inl (List.mem_singleton.mp member)))
      · exact regular.named named
    · rintro (loopback | own | ⟨allowed, member, o', reads, equal⟩)
      · rw [Origin.Loopback] at loopback
        simp only [List.mem_cons, List.not_mem_nil, or_false] at loopback
        rcases loopback with same | same | same
        · exact .inl (List.mem_cons.mpr (.inl same))
        · exact .inl (List.mem_cons_of_mem _ (List.mem_singleton.mpr same))
        · exact .inr (regular.loopback same)
      · exact regular.own own
      · exact regular.entry allowed member o' reads equal

/-- The guard lets in just the due origins where it sees them as they are. -/
theorem origin_allowed_iff (origin : HeaderText) (ownHost : String) (allowedOrigins : List String) :
    (originAllowed ownHost allowedOrigins (.text origin) ↔
      Admitted origin.text ownHost allowedOrigins) ↔
    Regular origin.text ownHost allowedOrigins := by
  constructor
  · intro same
    refine ⟨fun o reads web => ?_, fun o reads foreign => ?_, fun nothing body stands => ?_⟩
    · rw [originAllowed_iff (o.stands reads web), admitted_iff reads,
        Origin.localText_iff reads.1] at same
      exact webRegular_iff.mp same
    · obtain ⟨body, stands⟩ := stands_exists origin.text
      rw [originAllowed_iff stands, admitted_iff reads, Origin.body_foreign reads foreign stands,
        Origin.localText_foreign reads.1] at same
      exact ⟨fun localScheme => same.mp (.inl localScheme), fun named => same.mp (.inr named), same.mpr⟩
    · rw [originAllowed_iff stands] at same
      rw [← not_or, same]
      rintro ⟨o, reads, _⟩
      exact nothing o reads
  · intro regular
    obtain ⟨body, stands⟩ := stands_exists origin.text
    by_cases read : ∃ o : Origin, o.Reads origin.text
    · obtain ⟨o, reads⟩ := read
      rw [admitted_iff reads]
      by_cases web : o.Web
      · rw [originAllowed_iff (o.stands reads web), Origin.localText_iff reads.1]
        exact webRegular_iff.mpr (regular.web o reads web)
      · rw [originAllowed_iff stands, Origin.body_foreign reads web stands,
          Origin.localText_foreign reads.1]
        have foreign := regular.foreign o reads web
        exact ⟨fun seen => seen.elim foreign.scheme foreign.named, foreign.due⟩
    · have nothing := not_exists.mp read
      obtain ⟨noName, unnamed⟩ := regular.garbage nothing body stands
      rw [originAllowed_iff stands]
      refine iff_of_false (not_or.mpr ⟨noName, unnamed⟩) ?_
      rintro ⟨o, reads, _⟩
      exact nothing o reads

end

attribute [local instance] asciiToLowercase

/-- The host is what stands behind the user and the password. -/
def userinfo : HeaderText where
  text := "http://localhost:1@evil.example"
  visible := List.all_eq_true.mp rfl

theorem userinfo_unread (o : Origin) : ¬ o.Reads userinfo.text := by
  rintro ⟨valid, path, spelled, ends⟩
  have web : ∀ c ∈ "http".toList, schemeChar c := List.all_eq_true.mp rfl
  have spelled : "http".toList ++ "://localhost:1@evil.example".toList =
      o.scheme ++ ("://".toList ++ (o.authority ++ path)) := spelled
  obtain ⟨_, rest⟩ := Lists.append_unique web valid.scheme (by rintro c ⟨⟩; decide)
    (by rintro c ⟨⟩; decide) spelled
  have behind : "localhost:1@evil.example".toList = o.authority ++ path :=
    @List.append_cancel_left _ "://".toList _ _ rest
  have slashes : '/' ∉ o.authority ++ path := by
    rw [← behind]
    decide
  have user : '@' ∈ o.authority ++ path := by
    rw [← behind]
    decide
  cases path with
  | nil =>
      rw [List.append_nil] at user
      exact Origin.authority_not_mem valid (by constructor <;> decide) user
  | cons c rest =>
      rw [ends c rfl] at slashes
      exact slashes (List.mem_append_right _ List.mem_cons_self)

/-- An origin of another host is let in. -/
theorem origin_admits_userinfo :
    ¬ ∀ (origin : HeaderText) (ownHost : String) (allowedOrigins : List String),
      originAllowed ownHost allowedOrigins (.text origin) ↔
        Admitted origin.text ownHost allowedOrigins := by
  intro guards
  obtain ⟨o, reads, _⟩ := (guards userinfo "example.com:8000" []).mp rfl
  exact userinfo_unread o reads

end Datapress.Mcp
