import Mathlib.Data.List.Infix
import Mathlib.Data.List.TakeDrop
import Mathlib.Data.List.TakeWhile
import Datapress.Library.Fallible
import Datapress.Config.Dataset

/-!
The endpoint of an object store, with the bucket folded into its host. The port is the digits
behind the last colon of the host.
-/
namespace Datapress.Config

/-! ### One separator -/

theorem splitOnce_eq_some_iff {separator : Char} {text before after : String} :
    splitOnce separator text = some (before, after) ↔
      separator ∉ before.toList ∧ text.toList = before.toList ++ separator :: after.toList := by
  rw [splitOnce, List.span_eq_takeWhile_dropWhile]
  have parts := List.takeWhile_append_dropWhile (p := (· ≠ separator)) (l := text.toList)
  have apart : separator ∉ text.toList.takeWhile (· ≠ separator) := fun member => by
    simpa using List.mem_takeWhile_imp member
  constructor
  · intro split
    cases rest : text.toList.dropWhile (· ≠ separator) with
    | nil => simp only [rest, reduceCtorEq] at split
    | cons c tail =>
        have stopped := List.head?_dropWhile_not (· ≠ separator) text.toList
        rw [rest] at stopped parts
        obtain rfl : c = separator := by simpa using stopped
        simp only [rest, Option.some.injEq, Prod.mk.injEq] at split
        obtain ⟨rfl, rfl⟩ := split
        simp only [String.toList_ofList]
        exact ⟨apart, parts.symm⟩
  · rintro ⟨absent, whole⟩
    have passes : ∀ c ∈ before.toList, decide (c ≠ separator) = true := by
      intro c member
      simpa using fun same : c = separator => absent (same ▸ member)
    rw [whole, List.takeWhile_append_of_pos passes, List.dropWhile_append_of_pos passes]
    simp

theorem splitOnce_eq_none_iff {separator : Char} {text : String} :
    splitOnce separator text = none ↔ separator ∉ text.toList := by
  constructor
  · intro split member
    obtain ⟨before, after, whole, absent⟩ := List.eq_append_cons_of_mem member
    have found : splitOnce separator text = some (String.ofList before, String.ofList after) := by
      rw [splitOnce_eq_some_iff]
      simpa using ⟨absent, whole⟩
    cases split.symm.trans found
  · intro absent
    cases split : splitOnce separator text with
    | none => rfl
    | some parts =>
        obtain ⟨-, whole⟩ := splitOnce_eq_some_iff.mp split
        rw [whole] at absent
        exact absurd (List.mem_append_right _ List.mem_cons_self) absent

/-- The bucket of a location ends before the first slash. -/
theorem SourceConfig.s3Bucket_ok {source : SourceConfig} {bucket key : String}
    (parsed : source.s3Bucket = .ok (bucket, key)) :
    '/' ∉ bucket.toList ∧ ∃ rest, source.location.toList =
      "s3://".toList ++ (bucket.toList ++ rest) ∧ ∀ c ∈ rest.head?, c = '/' := by
  rw [s3Bucket, Fallible.refuse_ok_iff] at parsed
  obtain ⟨located, parsed⟩ := parsed
  have starts : startsWith "s3://" source.location = true := by simpa [isS3] using located
  obtain ⟨text, whole⟩ := List.isPrefixOf_iff_prefix.mp starts
  have dropped : source.location.toList.drop 5 = text := by
    rw [← whole]
    rfl
  obtain ⟨-, parsed⟩ := Fallible.refuse_ok_iff.mp parsed
  rw [dropped, Except.ok.injEq] at parsed
  rw [← whole]
  cases split : splitOnce '/' (String.ofList text) with
  | none =>
      rw [split] at parsed
      cases parsed
      refine ⟨splitOnce_eq_none_iff.mp split, [], by simp, nofun⟩
  | some parts =>
      rw [split] at parsed
      obtain rfl : parts = (bucket, key) := parsed
      obtain ⟨absent, whole⟩ := splitOnce_eq_some_iff.mp split
      rw [String.toList_ofList] at whole
      exact ⟨absent, '/' :: key.toList, by rw [whole], fun c first => (Option.some.inj first).symm⟩

/-! ### The endpoint -/

/-- `str::split_once` of a separator of several characters. -/
def cutAt (separator : List Char) : List Char → Option (List Char × List Char)
  | [] => none
  | c :: rest =>
    if separator.isPrefixOf (c :: rest) then some ([], (c :: rest).drop separator.length)
    else (cutAt separator rest).map fun (before, after) => (c :: before, after)

structure EndpointParts where
  scheme : Option String
  host : String
  path : Option String
deriving DecidableEq

def EndpointParts.text (parts : EndpointParts) : String :=
  match parts.scheme, parts.path with
  | some s, some p => s!"{s}://{parts.host}/{p}"
  | some s, none => s!"{s}://{parts.host}"
  | none, some p => s!"{parts.host}/{p}"
  | none, none => parts.host

/-- The host is split from a path behind it. -/
def hostParts (scheme : Option String) (hostAndPath : String) : EndpointParts :=
  match splitOnce '/' hostAndPath with
  | some (h, p) => ⟨scheme, h, some p⟩
  | none => ⟨scheme, hostAndPath, none⟩

def endpointParts (ep : String) : EndpointParts :=
  match cutAt "://".toList ep.toList with
  | some (s, rest) => hostParts (some (String.ofList s)) (String.ofList rest)
  | none => hostParts none ep

namespace S3Config

/-- A custom endpoint; none is the default of AWS. -/
def customEndpoint (s3 : S3Config) : Option String := s3.endpoint.filter fun ep => !ep.isEmpty

def folds (s3 : S3Config) : Bool :=
  match s3.endpointBucketInHost with
  | .false => false
  | .true => true
  | .auto => s3.addressingStyle = .virtual

def effectiveEndpoint (s3 : S3Config) (bucket : String) : Option String := do
  let ep ← s3.customEndpoint
  if !s3.folds then some ep
  else
    let parts := endpointParts ep
    -- guard against double-prefixing
    if parts.host == bucket || startsWith (bucket ++ ".") parts.host then some ep
    else some { parts with host := bucket ++ "." ++ parts.host }.text

end S3Config

/-! ### The parts of an endpoint -/

/-- The parts put together give the text, with the scheme before the first separator and the
host before the first slash. -/
structure EndpointParts.Of (parts : EndpointParts) (ep : String) : Prop where
  whole : parts.text = ep
  scheme : ∀ s, parts.scheme = some s → ¬ "://".toList <:+: s.toList ++ [':', '/']
  schemeless : parts.scheme = none → ¬ "://".toList <:+: ep.toList
  host : '/' ∉ parts.host.toList

/-- The digits behind the last colon. -/
def port (host : String) : Option String :=
  match host.toList.reverse.span Char.isDigit with
  | (digits, ':' :: _) => some (String.ofList digits.reverse)
  | _ => none

theorem toList_mark : "://".toList = [':', '/', '/'] := rfl

/-- The scheme ends at the first separator. -/
theorem cutAt_eq_some_iff {text before after : List Char} :
    cutAt "://".toList text = some (before, after) ↔
      text = before ++ ("://".toList ++ after) ∧ ¬ "://".toList <:+: before ++ [':', '/'] := by
  induction text generalizing before with
  | nil => simp [cutAt]
  | cons c rest ih =>
      rw [cutAt]
      by_cases starts : "://".toList <+: c :: rest
      · obtain ⟨tail, whole⟩ := starts
        rw [if_pos (List.isPrefixOf_iff_prefix.mpr ⟨tail, whole⟩), ← whole]
        constructor
        · intro same
          cases same
          exact ⟨rfl, by decide⟩
        · rintro ⟨split, first⟩
          cases before with
          | nil =>
              obtain rfl := List.append_cancel_left split
              rfl
          | cons c' before =>
              -- the separator at the start would end before the scheme does
              have ended : c' :: before ++ [':', '/'] <+: "://".toList ++ tail :=
                ⟨'/' :: after, by rw [split, toList_mark]; simp⟩
              have within := List.prefix_of_prefix_length_le (List.prefix_append _ tail) ended
                (by rw [toList_mark]; simp)
              exact absurd within.isInfix first
      · rw [if_neg (mt List.isPrefixOf_iff_prefix.mp starts), Option.map_eq_some_iff]
        constructor
        · rintro ⟨⟨front, rest'⟩, cut, same⟩
          cases same
          obtain ⟨rfl, first⟩ := ih.mp cut
          refine ⟨rfl, fun inside => ?_⟩
          rcases List.infix_cons_iff.mp inside with here | later
          · have shorter : c :: (front ++ [':', '/']) <+: c :: (front ++ ("://".toList ++ after)) :=
              ⟨'/' :: after, by rw [toList_mark]; simp⟩
            exact starts (here.trans shorter)
          · exact first later
        · rintro ⟨split, first⟩
          cases before with
          | nil => exact absurd ⟨after, split.symm⟩ starts
          | cons c' before =>
              obtain ⟨rfl, rfl⟩ := List.cons.inj split
              exact ⟨(before, after), ih.mpr ⟨rfl, fun inside =>
                first (List.infix_cons inside)⟩, rfl⟩

theorem cutAt_eq_none_iff {text : List Char} :
    cutAt "://".toList text = none ↔ ¬ "://".toList <:+: text := by
  induction text with
  | nil => exact iff_of_true rfl (by decide)
  | cons c rest ih =>
      rw [cutAt, List.infix_cons_iff]
      by_cases starts : "://".toList <+: c :: rest
      · rw [if_pos (List.isPrefixOf_iff_prefix.mpr starts)]
        exact iff_of_false nofun fun absent => absent (.inl starts)
      · rw [if_neg (mt List.isPrefixOf_iff_prefix.mp starts), Option.map_eq_none_iff, ih]
        exact not_congr (or_iff_right starts).symm

namespace EndpointParts

/-- The host with the path behind it. -/
def hostText (parts : EndpointParts) : String :=
  match parts.path with
  | some p => parts.host ++ "/" ++ p
  | none => parts.host

theorem text_eq (parts : EndpointParts) :
    parts.text = parts.scheme.elim parts.hostText fun s => s ++ ("://" ++ parts.hostText) := by
  obtain ⟨scheme, host, path⟩ := parts
  cases scheme <;> cases path <;> simp only [text, hostText, String.append_assoc] <;> rfl

theorem hostParts_eq_iff {scheme : Option String} {rest : String} {parts : EndpointParts} :
    hostParts scheme rest = parts ↔
      parts.scheme = scheme ∧ parts.hostText = rest ∧ '/' ∉ parts.host.toList := by
  obtain ⟨scheme', host, path⟩ := parts
  rw [hostParts]
  cases split : splitOnce '/' rest with
  | none =>
      have absent := splitOnce_eq_none_iff.mp split
      constructor
      · intro same
        cases same
        exact ⟨rfl, rfl, absent⟩
      · rintro ⟨rfl, rfl, -⟩
        cases path with
        | none => rfl
        | some p => simp [hostText] at absent
  | some found =>
      obtain ⟨before, after⟩ := found
      obtain ⟨apart, whole⟩ := splitOnce_eq_some_iff.mp split
      constructor
      · intro same
        cases same
        refine ⟨rfl, ?_, apart⟩
        rw [← String.toList_inj, whole]
        simp [hostText]
      · rintro ⟨rfl, rfl, absent⟩
        cases path with
        | none => simp_all [hostText]
        | some p =>
            have found : splitOnce '/' (host ++ "/" ++ p) = some (host, p) := by
              rw [splitOnce_eq_some_iff]
              exact ⟨absent, by simp⟩
            cases split.symm.trans found
            rfl

/-- The code's reading of an endpoint. -/
theorem of_iff {parts : EndpointParts} {ep : String} : parts.Of ep ↔ endpointParts ep = parts := by
  rw [endpointParts]
  cases cut : cutAt "://".toList ep.toList with
  | none =>
      have absent := cutAt_eq_none_iff.mp cut
      rw [hostParts_eq_iff]
      constructor
      · rintro ⟨whole, first, -, slashless⟩
        cases scheme : parts.scheme with
        | none =>
            rw [text_eq, scheme, Option.elim_none] at whole
            exact ⟨rfl, whole, slashless⟩
        | some s =>
            rw [text_eq, scheme, Option.elim_some] at whole
            refine absurd ⟨s.toList, parts.hostText.toList, ?_⟩ absent
            rw [← whole, String.toList_append, String.toList_append, List.append_assoc]
      · rintro ⟨scheme, whole, slashless⟩
        exact {
          whole := by rw [text_eq, scheme, Option.elim_none, whole]
          scheme := fun s some => nomatch scheme.symm.trans some
          schemeless := fun _ => absent
          host := slashless }
  | some found =>
      obtain ⟨s, rest⟩ := found
      obtain ⟨split, first⟩ := cutAt_eq_some_iff.mp cut
      rw [hostParts_eq_iff]
      constructor
      · rintro ⟨whole, first', absent, slashless⟩
        cases scheme : parts.scheme with
        | none =>
            refine absurd ⟨s, rest, ?_⟩ (absent scheme)
            rw [split, List.append_assoc]
        | some s' =>
            rw [text_eq, scheme, Option.elim_some] at whole
            have cut' : cutAt "://".toList ep.toList = some (s'.toList, parts.hostText.toList) := by
              rw [cutAt_eq_some_iff, ← whole, String.toList_append, String.toList_append]
              exact ⟨rfl, first' s' scheme⟩
            cases cut.symm.trans cut'
            exact ⟨by rw [String.ofList_toList], by rw [String.ofList_toList], slashless⟩
      · rintro ⟨scheme, whole, slashless⟩
        exact {
          whole := by
            rw [text_eq, scheme, Option.elim_some, whole, ← String.toList_inj, split]
            simp
          scheme := fun s' some => by
            obtain rfl := Option.some.inj (scheme.symm.trans some)
            simp only [String.toList_ofList]
            exact first
          schemeless := fun none => nomatch scheme.symm.trans none
          host := slashless }

theorem of_endpointParts (ep : String) : (endpointParts ep).Of ep := of_iff.mpr rfl

end EndpointParts

/-! ### The fold -/

theorem separator_after_bucket {bucket text : List Char} (slashless : '/' ∉ bucket)
    (absent : ¬ "://".toList <:+: text) : ¬ "://".toList <:+: bucket ++ '.' :: text := by
  induction bucket with
  | nil =>
      intro inside
      rcases List.infix_cons_iff.mp inside with ⟨tail, whole⟩ | later
      · cases whole
      · exact absent later
  | cons c rest ih =>
      have others : '/' ∉ rest := mt (List.mem_cons_of_mem c) slashless
      intro inside
      rcases List.infix_cons_iff.mp inside with ⟨tail, whole⟩ | later
      · -- the slashes would be in the bucket
        rw [toList_mark] at whole
        cases rest with
        | nil => simp at whole
        | cons c' rest =>
            obtain ⟨-, whole⟩ := List.cons.inj whole
            obtain ⟨rfl, -⟩ := List.cons.inj whole
            exact others List.mem_cons_self
      · exact ih others later

/-- The digits at the end are those of the host behind the bucket. -/
theorem port_fold (bucket host : String) : port (bucket ++ "." ++ host) = port host := by
  have turned : (bucket ++ "." ++ host).toList.reverse =
      host.toList.reverse ++ '.' :: bucket.toList.reverse := by simp
  rw [port, port, turned]
  generalize host.toList.reverse = text
  have digits : ∀ c ∈ text.takeWhile Char.isDigit, c.isDigit = true :=
    fun _ => List.mem_takeWhile_imp
  have parts := List.takeWhile_append_dropWhile (p := Char.isDigit) (l := text)
  cases rest : text.dropWhile Char.isDigit with
  | nil =>
      rw [rest, List.append_nil] at parts
      rw [parts] at digits
      rw [List.span_eq_takeWhile_dropWhile, List.span_eq_takeWhile_dropWhile, rest,
        List.dropWhile_append_of_pos digits]
      rfl
  | cons c tail =>
      have stopped := List.head?_dropWhile_not Char.isDigit text
      rw [rest] at parts stopped
      have stopped : ¬ c.isDigit = true := by simpa using stopped
      have split (tail : List Char) : (text.takeWhile Char.isDigit ++ c :: tail).span Char.isDigit =
          (text.takeWhile Char.isDigit, c :: tail) := by
        rw [List.span_eq_takeWhile_dropWhile, List.takeWhile_append_of_pos digits,
          List.dropWhile_append_of_pos digits, List.takeWhile_cons_of_neg stopped,
          List.dropWhile_cons_of_neg stopped, List.append_nil]
      rw [← parts, List.append_assoc, List.cons_append, split, split]
      by_cases colon : c = ':'
      · rw [colon]
        rfl
      · simp [colon]

namespace EndpointParts

def fold (bucket : String) (parts : EndpointParts) : EndpointParts :=
  { parts with host := bucket ++ "." ++ parts.host }

theorem Of.fold {parts : EndpointParts} {ep bucket : String} (parsed : parts.Of ep)
    (slashless : '/' ∉ bucket.toList) : (parts.fold bucket).Of (parts.fold bucket).text where
  whole := rfl
  scheme := parsed.scheme
  schemeless := by
    intro unnamed
    have whole := parsed.whole
    have schemeless : parts.scheme = none := unnamed
    have absent := parsed.schemeless schemeless
    have front : (parts.fold bucket).hostText = bucket ++ "." ++ parts.hostText := by
      rw [hostText, hostText]
      cases path : parts.path with
      | none => simp only [EndpointParts.fold, path]
      | some p => simp only [EndpointParts.fold, path, String.append_assoc]
    rw [text_eq, schemeless, Option.elim_none] at whole
    rw [text_eq, unnamed, Option.elim_none, front]
    rw [← whole] at absent
    have added := separator_after_bucket slashless absent
    simpa using added
  host := by
    rw [EndpointParts.fold, String.toList_append, String.toList_append, List.mem_append,
      List.mem_append]
    rintro ((bucketed | dot) | hosted)
    · exact slashless bucketed
    · exact absurd dot (by decide)
    · exact parsed.host hosted

end EndpointParts

theorem EndpointParts.text_fold_ne (parts : EndpointParts) (bucket : String) :
    (parts.fold bucket).text ≠ "" := by
  intro empty
  rw [text_eq] at empty
  cases scheme : (parts.fold bucket).scheme with
  | none =>
      rw [scheme, Option.elim_none, hostText] at empty
      have path : (parts.fold bucket).path = parts.path := rfl
      rw [path] at empty
      cases given : parts.path <;> simp [given, fold] at empty
  | some s => simp [scheme] at empty

/-- The host is the bucket, or starts with it as a label. -/
def Prefixed (bucket host : String) : Prop :=
  host = bucket ∨ (bucket ++ ".").toList <+: host.toList

theorem prefixed_iff {bucket host : String} :
    (host == bucket || startsWith (bucket ++ ".") host) = true ↔ Prefixed bucket host := by
  rw [Bool.or_eq_true, beq_iff_eq, startsWith, List.isPrefixOf_iff_prefix, Prefixed]

theorem prefixed_fold (bucket host : String) : Prefixed bucket (bucket ++ "." ++ host) :=
  .inr ⟨host.toList, String.toList_append.symm⟩

/-- The endpoint that a prefixed host stands in. -/
theorem effectiveEndpoint_of_prefixed {s3 : S3Config} {ep bucket : String}
    {parts : EndpointParts} (custom : s3.customEndpoint = some ep) (parsed : parts.Of ep)
    (already : Prefixed bucket parts.host) : s3.effectiveEndpoint bucket = some ep := by
  obtain rfl := EndpointParts.of_iff.mp parsed
  rw [S3Config.effectiveEndpoint, custom]
  by_cases off : (!s3.folds) = true
  · simp only [Option.bind_eq_bind, Option.bind_some, if_pos off]
  · simp only [Option.bind_eq_bind, Option.bind_some, if_neg off]
    rw [if_pos (prefixed_iff.mpr already)]

theorem effectiveEndpoint_fold {s3 : S3Config} {ep bucket : String} {parts : EndpointParts}
    (custom : s3.customEndpoint = some ep) (folds : s3.folds = true) (parsed : parts.Of ep)
    (bare : ¬ Prefixed bucket parts.host) :
    s3.effectiveEndpoint bucket = some (parts.fold bucket).text := by
  obtain rfl := EndpointParts.of_iff.mp parsed
  rw [S3Config.effectiveEndpoint, custom]
  simp only [Option.bind_eq_bind, Option.bind_some, folds, Bool.not_true, Bool.false_eq_true,
    if_false]
  rw [if_neg (mt prefixed_iff.mp bare)]
  rfl

theorem effectiveEndpoint_of_off {s3 : S3Config} (off : s3.folds = false) (bucket : String) :
    s3.effectiveEndpoint bucket = s3.customEndpoint := by
  rw [S3Config.effectiveEndpoint]
  cases s3.customEndpoint with
  | none => rfl
  | some ep => simp only [Option.bind_eq_bind, Option.bind_some, off, Bool.not_false, if_true]

/-- What a fold makes of an endpoint: only the host may differ, and it is prefixed. -/
structure Folded (bucket : String) (parts parts' : EndpointParts) : Prop where
  host : Prefixed bucket parts'.host
  scheme : parts'.scheme = parts.scheme
  port : port parts'.host = port parts.host
  path : parts'.path = parts.path

theorem folded_of {s3 : S3Config} {ep bucket : String} {parts : EndpointParts}
    (slashless : '/' ∉ bucket.toList) (custom : s3.customEndpoint = some ep)
    (folds : s3.folds = true) (parsed : parts.Of ep) :
    ∃ out parts', s3.effectiveEndpoint bucket = some out ∧ parts'.Of out ∧
      Folded bucket parts parts' := by
  by_cases already : Prefixed bucket parts.host
  · exact ⟨ep, parts, effectiveEndpoint_of_prefixed custom parsed already, parsed,
      ⟨already, rfl, rfl, rfl⟩⟩
  · exact ⟨_, parts.fold bucket, effectiveEndpoint_fold custom folds parsed already,
      parsed.fold slashless,
      ⟨prefixed_fold bucket parts.host, rfl, port_fold bucket parts.host, rfl⟩⟩

theorem customEndpoint_of_some (s3 : S3Config) {ep : String} (occupied : ep ≠ "") :
    { s3 with endpoint := some ep }.customEndpoint = some ep := by
  simp [S3Config.customEndpoint, Option.filter, occupied]

theorem effectiveEndpoint_idempotent (s3 : S3Config) {bucket : String}
    (slashless : '/' ∉ bucket.toList) :
    { s3 with endpoint := s3.effectiveEndpoint bucket }.effectiveEndpoint bucket =
      s3.effectiveEndpoint bucket := by
  cases custom : s3.customEndpoint with
  | none =>
      have default : s3.effectiveEndpoint bucket = none := by
        rw [S3Config.effectiveEndpoint, custom]
        rfl
      rw [default]
      rfl
  | some ep =>
      have occupied : ep ≠ "" := by
        simpa using (Option.filter_eq_some_iff.mp custom).2
      have parsed := EndpointParts.of_endpointParts ep
      cases folds : s3.folds with
      | false =>
          rw [effectiveEndpoint_of_off folds, custom]
          have off : { s3 with endpoint := some ep }.folds = false := folds
          rw [effectiveEndpoint_of_off off]
          exact customEndpoint_of_some s3 occupied
      | true =>
          by_cases already : Prefixed bucket (endpointParts ep).host
          · rw [effectiveEndpoint_of_prefixed custom parsed already]
            exact effectiveEndpoint_of_prefixed (customEndpoint_of_some s3 occupied) parsed already
          · rw [effectiveEndpoint_fold custom folds parsed already]
            have custom' := customEndpoint_of_some s3
              (EndpointParts.text_fold_ne (endpointParts ep) bucket)
            exact effectiveEndpoint_of_prefixed custom' (parsed.fold slashless)
              (prefixed_fold bucket _)

/-- The fold of a bucket into an endpoint is stable, and it changes the host only. -/
theorem effective_endpoint_stable (s3 : S3Config) {source : SourceConfig} {bucket key : String}
    (located : source.s3Bucket = .ok (bucket, key)) :
    { s3 with endpoint := s3.effectiveEndpoint bucket }.effectiveEndpoint bucket =
      s3.effectiveEndpoint bucket ∧
    ∀ ep parts, s3.customEndpoint = some ep → s3.folds = true → parts.Of ep →
      ∃ out parts', s3.effectiveEndpoint bucket = some out ∧ parts'.Of out ∧
        Folded bucket parts parts' :=
  have slashless := (SourceConfig.s3Bucket_ok located).1
  ⟨effectiveEndpoint_idempotent s3 slashless, fun _ _ => folded_of slashless⟩

/-- A port directly behind the bucket is no label of its own. -/
theorem effective_endpoint_ported :
    let source : SourceConfig := { kind := .parquet, location := "s3://mybucket/logs" }
    let s3 : S3Config := { endpoint := "http://mybucket:9000/base" }
    source.s3Bucket = .ok ("mybucket", "logs") ∧
      s3.effectiveEndpoint "mybucket" = some "http://mybucket.mybucket:9000/base" ∧
      { s3 with endpoint := s3.effectiveEndpoint "mybucket" }.effectiveEndpoint "mybucket" =
        s3.effectiveEndpoint "mybucket" := by
  intro source s3
  have located : source.s3Bucket = .ok ("mybucket", "logs") := by decide +kernel
  exact ⟨located, by decide +kernel, (effective_endpoint_stable s3 located).1⟩

end Datapress.Config
