import Datapress.Config.Endpoint
import Datapress.StatementText
import Datapress.DuckDB.TempNames

/-!
The DuckDB secrets of the S3 datasets: the statement that creates one, and which of them the
engine takes for the location of a dataset.
-/
namespace Datapress.DuckDB
open SqlText
open Config (AddressingStyle S3Config SourceConfig)

/-- Credentials after the environment and the inline ones. -/
structure ResolvedCreds where
  accessKeyId : Option String := none
  secretAccessKey : Option String := none
  sessionToken : Option String := none
deriving Repr, DecidableEq

/-- A variable of the environment that is set to something. -/
def plainEnv (env : String → Option String) (name : String) : Option String :=
  (env name).filter fun value => !value.isEmpty

/-- The start of the variables of a dataset. -/
def envPrefix (d : Config.DatasetConfig) : String :=
  String.ofList (d.name.toList.map fun c => if c.isAlphanum then c.toUpper else '_')

def resolvedCreds (env : String → Option String) (d : Config.DatasetConfig) : ResolvedCreds :=
  let resolved (suffix : String) (inline : S3Config → Option String) :=
    plainEnv env (envPrefix d ++ "_" ++ suffix) <|> d.s3.bind inline <|> plainEnv env suffix
  { accessKeyId := resolved "AWS_ACCESS_KEY_ID" (·.accessKeyId)
    secretAccessKey := resolved "AWS_SECRET_ACCESS_KEY" (·.secretAccessKey)
    sessionToken := resolved "AWS_SESSION_TOKEN" (·.sessionToken) }

def resolvedRegion (env : String → Option String) (d : Config.DatasetConfig) : String :=
  (plainEnv env (envPrefix d ++ "_AWS_REGION") <|> d.s3.bind (·.region) <|>
    plainEnv env "AWS_REGION" <|> plainEnv env "AWS_DEFAULT_REGION").getD "us-east-1"

/-- A dataset with what the environment adds to it. -/
structure S3Dataset where
  cfg : Config.DatasetConfig
  creds : ResolvedCreds
  region : String

def resolve (env : String → Option String) (cfg : Config.DatasetConfig) : S3Dataset where
  cfg := cfg
  creds := resolvedCreds env cfg
  region := resolvedRegion env cfg

/-- A parameter of a secret, by a word or by a string literal. -/
inductive Setting where
  | word (key value : String)
  | text (key value : String)
deriving Repr, DecidableEq

def Setting.sql : Setting → String
  | word key value => s!"{key} {value}"
  | text key value => s!"{key} " ++ ("'" ++ replaceChar '\'' "''" value ++ "'")

/-- A secret, with its scope apart from the other parameters. -/
structure Secret where
  name : String
  params : List Setting
  scope : String
deriving Repr, DecidableEq

namespace Secret

def settings (secret : Secret) : List Setting := secret.params ++ [.text "SCOPE" secret.scope]

/-- The statement before its semicolon. -/
def statement (secret : Secret) : String :=
  let listed := ", ".intercalate (secret.settings.map Setting.sql)
  "CREATE OR REPLACE SECRET " ++ secret.name ++ " (" ++ listed ++ ")"

def sql (secret : Secret) : String := secret.statement ++ ";"

end Secret

/-- The loop of `str::trim_start_matches`: a text has no more matches than characters. -/
def dropMatches (pattern : List Char) : Nat → List Char → List Char
  | 0, text => text
  | more + 1, text =>
    if pattern.isPrefixOf text then dropMatches pattern more (text.drop pattern.length) else text

def trimStartMatches (pattern text : String) : String :=
  String.ofList (dropMatches pattern.toList text.toList.length text.toList)

/-- DuckDB wants an endpoint without its scheme. -/
def bareEndpoint (endpoint : String) : String :=
  trimStartMatches "https://" (trimStartMatches "http://" endpoint)

def duckdbS3UrlStyle : AddressingStyle → String
  | .virtual => "vhost"
  | .path => "path"

namespace S3Dataset

def s3 (d : S3Dataset) : S3Config := d.cfg.s3.getD {}

def endpointSettings (d : S3Dataset) : List Setting :=
  match d.s3.endpoint with
  | some endpoint => if endpoint.isEmpty then [] else [.text "ENDPOINT" (bareEndpoint endpoint)]
  | none => []

def tokenSettings (d : S3Dataset) : List Setting :=
  d.creds.sessionToken.elim [] fun token => [.text "SESSION_TOKEN" token]

def providerSettings (d : S3Dataset) : Except AppError (List Setting) :=
  match d.creds.accessKeyId, d.creds.secretAccessKey with
  | some key, some secret =>
    .ok ([.word "PROVIDER" "config"] ++ d.endpointSettings ++
      [.text "KEY_ID" key, .text "SECRET" secret] ++ d.tokenSettings)
  | none, none =>
    .ok ([.word "PROVIDER" "credential_chain", .text "CHAIN" "env;config"] ++ d.endpointSettings)
  | _, _ => .error (.internal (s!"dataset '{d.cfg.name}': partial S3 credentials — need both " ++
      "access_key_id and secret_access_key"))

def s3SecretScope (d : S3Dataset) : Except AppError String := do
  let (bucket, _) ← d.cfg.source.s3Bucket
  .ok ("s3://" ++ bucket)

def secretName (d : S3Dataset) : String :=
  "ds_" ++ String.ofList (d.cfg.name.toList.map fun c => if c.isAlphanum then c else '_')

def buildS3SecretSql (d : S3Dataset) : Except AppError Secret := do
  let provider ← d.providerSettings
  let scope ← d.s3SecretScope
  .ok {
    name := d.secretName
    params := [.word "TYPE" "s3"] ++ provider ++ [.text "REGION" d.region,
      .text "URL_STYLE" (duckdbS3UrlStyle d.s3.addressingStyle),
      .word "USE_SSL" (if d.s3.allowHttp then "false" else "true")]
    scope }

end S3Dataset

/-! ### The engine -/

/-- `CREATE OR REPLACE SECRET`: the names of secrets are told apart in any case. -/
def createOrReplace (secrets : List Secret) (secret : Secret) : List Secret :=
  secret :: secrets.filter fun other => !eqIgnoreAsciiCase other.name secret.name

/-- The secrets of the datasets, applied in this order. -/
def applyS3Secrets : List S3Dataset → List Secret → Except AppError (List Secret)
  | [], secrets => .ok secrets
  | d :: rest, secrets => do
    let secret ← d.buildS3SecretSql
    applyS3Secrets rest (createOrReplace secrets secret)

/-- The secret has the longest of the scopes that match the path. -/
structure Selected (secrets : List Secret) (path : String) (secret : Secret) : Prop where
  created : secret ∈ secrets
  applies : secret.scope.toList <+: path.toList
  longest : ∀ other ∈ secrets, other.scope.toList <+: path.toList →
    other.scope.toList.length ≤ secret.scope.toList.length

/-- Each location has its secret, and that is the one of its dataset. -/
def Isolated (datasets : List S3Dataset) (secrets : List Secret) : Prop :=
  ∀ d ∈ datasets, (∃ secret, Selected secrets d.cfg.source.location secret) ∧
    ∀ secret, Selected secrets d.cfg.source.location secret →
      ∃ own, d.buildS3SecretSql = .ok own ∧ secret.settings = own.settings

/-! ### The literals -/

def Setting.tokens : Setting → List Token
  | word key value => [.word key, .word value]
  | text key value => [.word key, .quoted .single value]

def Secret.tokens (secret : Secret) : List Token :=
  [.word "CREATE", .word "OR", .word "REPLACE", .word "SECRET", .word secret.name, .symbol '('] ++
    joined [.symbol ','] (secret.settings.map Setting.tokens) ++ [.symbol ')']

def textKeys : List String :=
  ["ENDPOINT", "KEY_ID", "SECRET", "SESSION_TOKEN", "CHAIN", "REGION", "URL_STYLE", "SCOPE"]

def wordSettings : List (String × String) :=
  [("TYPE", "s3"), ("PROVIDER", "config"), ("PROVIDER", "credential_chain"), ("USE_SSL", "false"),
    ("USE_SSL", "true")]

/-- A setting that the builder writes. -/
def Setting.Known : Setting → Prop
  | word key value => (key, value) ∈ wordSettings
  | text key _ => key ∈ textKeys

/-- The tokens of every statement. -/
def fixedTokens : List Token :=
  ["CREATE", "OR", "REPLACE", "SECRET", "TYPE", "s3", "PROVIDER", "config", "credential_chain",
    "USE_SSL", "false", "true"].map Token.word ++ textKeys.map Token.word ++
      [.symbol '(', .symbol ',', .symbol ')']

theorem lex_textKey : ∀ key ∈ textKeys, lex (key ++ " ") = some [.word key] := by
  decide +kernel

theorem lex_wordSetting : ∀ setting ∈ wordSettings,
    lex (Setting.word setting.1 setting.2).sql = some [.word setting.1, .word setting.2] := by
  decide +kernel

theorem Setting.lex_sql {setting : Setting} (known : setting.Known) :
    lex setting.sql = some setting.tokens := by
  cases setting with
  | word key value => exact lex_wordSetting (key, value) known
  | text key value =>
    have blank : Ends (key ++ " ") := ends_blank key
    exact lex_append (lex_textKey key known) (lex_quoteString value) (.inl blank)

theorem secretName_letters (d : S3Dataset) : ∀ c ∈ d.secretName.toList, isWord c = true := by
  have start : ∀ c ∈ "ds_".toList, isWord c = true := List.all_eq_true.mp rfl
  intro c member
  simp only [S3Dataset.secretName, String.toList_append, List.mem_append] at member
  rcases member with fixed | replaced
  · exact start c fixed
  · rw [String.toList_ofList] at replaced
    obtain ⟨letter, -, rfl⟩ := List.mem_map.mp replaced
    by_cases plain : letter.isAlphanum = true
    · rw [if_pos plain, isWord, plain, Bool.true_or]
    · rw [if_neg plain]
      rfl

/-- The strings that the configuration of a dataset puts into its secret. -/
inductive S3Dataset.Configures (d : S3Dataset) : String → String → Prop where
  | endpoint (endpoint : String) (given : d.s3.endpoint = some endpoint) (named : endpoint ≠ "") :
      Configures d "ENDPOINT" (bareEndpoint endpoint)
  | keyId (key secret : String) (given : d.creds.accessKeyId = some key)
      (paired : d.creds.secretAccessKey = some secret) : Configures d "KEY_ID" key
  | secret (key secret : String) (given : d.creds.accessKeyId = some key)
      (paired : d.creds.secretAccessKey = some secret) : Configures d "SECRET" secret
  | token (key secret token : String) (given : d.creds.accessKeyId = some key)
      (paired : d.creds.secretAccessKey = some secret)
      (session : d.creds.sessionToken = some token) : Configures d "SESSION_TOKEN" token
  | chain (keyless : d.creds.accessKeyId = none) : Configures d "CHAIN" "env;config"
  | region : Configures d "REGION" d.region
  | urlStyle : Configures d "URL_STYLE" (duckdbS3UrlStyle d.s3.addressingStyle)
  | scope (scope : String) (located : d.s3SecretScope = .ok scope) : Configures d "SCOPE" scope

/-- The statement reads back as its settings, whose strings are those of the configuration,
each in a literal of its own; every other token is fixed or the name. -/
structure Quoted (d : S3Dataset) (secret : Secret) : Prop where
  reads : lex secret.statement = some secret.tokens
  only : ∀ token ∈ secret.tokens, token = .word secret.name ∨ token ∈ fixedTokens ∨
    ∃ key value, .text key value ∈ secret.settings ∧ token = .quoted .single value
  strings : ∀ key value, .text key value ∈ secret.settings ↔ d.Configures key value

/-! ### The account of a dataset -/

/-- What a secret says apart from its name and its scope. -/
structure Account where
  keys : Option (String × String × Option String)
  endpoint : Option String
  region : String
  addressingStyle : AddressingStyle
  allowHttp : Bool
deriving DecidableEq

def S3Dataset.account (d : S3Dataset) : Account where
  keys :=
    match d.creds.accessKeyId, d.creds.secretAccessKey with
    | some key, some secret => some (key, secret, d.creds.sessionToken)
    | _, _ => none
  endpoint := d.s3.endpoint.bind fun endpoint =>
    if endpoint.isEmpty then none else some (bareEndpoint endpoint)
  region := d.region
  addressingStyle := d.s3.addressingStyle
  allowHttp := d.s3.allowHttp

namespace Account

def located (account : Account) : List Setting :=
  account.endpoint.elim [] fun endpoint => [.text "ENDPOINT" endpoint]

def provider (account : Account) : List Setting :=
  match account.keys with
  | some (key, secret, token) =>
    [.word "PROVIDER" "config"] ++ account.located ++ [.text "KEY_ID" key, .text "SECRET" secret] ++
      token.elim [] fun token => [.text "SESSION_TOKEN" token]
  | none =>
    [.word "PROVIDER" "credential_chain", .text "CHAIN" "env;config"] ++ account.located

def params (account : Account) : List Setting :=
  [.word "TYPE" "s3"] ++ account.provider ++ [.text "REGION" account.region,
    .text "URL_STYLE" (duckdbS3UrlStyle account.addressingStyle),
    .word "USE_SSL" (if account.allowHttp then "false" else "true")]

end Account

theorem S3Dataset.located_account (d : S3Dataset) : d.account.located = d.endpointSettings := by
  rw [Account.located, endpointSettings]
  cases given : d.s3.endpoint with
  | none => simp only [account, given, Option.bind_none, Option.elim_none]
  | some endpoint =>
      by_cases unnamed : endpoint.isEmpty = true
      · simp only [account, given, Option.bind_some, if_pos unnamed, Option.elim_none]
      · simp only [account, given, Option.bind_some, if_neg unnamed, Option.elim_some]

theorem S3Dataset.provider_account {d : S3Dataset} {settings : List Setting}
    (provided : d.providerSettings = .ok settings) : settings = d.account.provider := by
  rw [providerSettings] at provided
  rw [Account.provider, located_account]
  cases key : d.creds.accessKeyId with
  | none =>
      cases secret : d.creds.secretAccessKey with
      | none =>
          simp only [key, secret, Except.ok.injEq] at provided
          simp only [account, key, secret, provided]
      | some _ => simp [key, secret] at provided
  | some _ =>
      cases secret : d.creds.secretAccessKey with
      | none => simp [key, secret] at provided
      | some _ =>
          simp only [key, secret, Except.ok.injEq] at provided
          simp only [account, key, secret, ← provided, tokenSettings]

theorem S3Dataset.built_iff {d : S3Dataset} {secret : Secret} :
    d.buildS3SecretSql = .ok secret ↔ d.providerSettings = .ok d.account.provider ∧
      d.s3SecretScope = .ok secret.scope ∧ secret.name = d.secretName ∧
      secret.params = d.account.params := by
  rw [buildS3SecretSql, Fallible.bind_ok_iff]
  constructor
  · rintro ⟨provider, provided, built⟩
    obtain ⟨scope, bounded, same⟩ := Fallible.bind_ok_iff.mp built
    cases same
    cases provider_account provided
    exact ⟨provided, bounded, rfl, rfl⟩
  · obtain ⟨name, params, scope⟩ := secret
    rintro ⟨provided, bounded, rfl, rfl⟩
    exact ⟨_, provided, Fallible.bind_ok_iff.mpr ⟨scope, bounded, rfl⟩⟩

theorem duckdbS3UrlStyle_inj {style style' : AddressingStyle}
    (same : duckdbS3UrlStyle style = duckdbS3UrlStyle style') : style = style' := by
  cases style <;> cases style' <;> first | rfl | exact absurd same (by decide)

/-- The value of a parameter. -/
def Setting.lookup (name : String) : List Setting → Option String
  | [] => none
  | .word key value :: rest | .text key value :: rest =>
    if key = name then some value else lookup name rest

theorem Account.lookup_params (account : Account) :
    Setting.lookup "KEY_ID" account.params = account.keys.map (·.1) ∧
      Setting.lookup "SECRET" account.params = account.keys.map (·.2.1) ∧
      Setting.lookup "SESSION_TOKEN" account.params = account.keys.bind (·.2.2) ∧
      Setting.lookup "ENDPOINT" account.params = account.endpoint ∧
      Setting.lookup "REGION" account.params = some account.region ∧
      Setting.lookup "URL_STYLE" account.params =
        some (duckdbS3UrlStyle account.addressingStyle) ∧
      Setting.lookup "USE_SSL" account.params =
        some (if account.allowHttp then "false" else "true") := by
  obtain ⟨keys, endpoint, region, style, http⟩ := account
  rcases keys with _ | ⟨key, secret, _ | token⟩ <;> cases endpoint <;>
    simp [params, provider, located, Setting.lookup]

theorem Account.params_inj {account account' : Account} (same : account.params = account'.params) :
    account = account' := by
  obtain ⟨key, secret, token, endpoint, region, style, ssl⟩ := account.lookup_params
  obtain ⟨key', secret', token', endpoint', region', style', ssl'⟩ := account'.lookup_params
  rw [← same] at key' secret' token' endpoint' region' style' ssl'
  have sameStyle := duckdbS3UrlStyle_inj (Option.some.inj (style.symm.trans style'))
  have sameSsl : account.allowHttp = account'.allowHttp := by
    have written := Option.some.inj (ssl.symm.trans ssl')
    revert written
    cases account.allowHttp <;> cases account'.allowHttp <;> decide
  have sameKeys : account.keys = account'.keys := by
    have keyed := key.symm.trans key'
    have secured := secret.symm.trans secret'
    have sessioned := token.symm.trans token'
    cases held : account.keys with
    | none => cases held' : account'.keys <;> simp_all
    | some _ => cases held' : account'.keys <;> simp_all [Prod.ext_iff]
  cases account
  cases account'
  rw [Account.mk.injEq]
  exact ⟨sameKeys, endpoint.symm.trans endpoint', Option.some.inj (region.symm.trans region'),
    sameStyle, sameSsl⟩

/-! ### The statement reads back -/

theorem Account.located_known (account : Account) :
    ∀ setting ∈ account.located, setting.Known := by
  intro setting listed
  cases given : account.endpoint with
  | none => simp [located, given] at listed
  | some endpoint =>
      simp only [located, given, Option.elim_some, List.mem_singleton] at listed
      rw [listed]
      simp [Setting.Known, textKeys]

theorem Account.provider_known (account : Account) :
    ∀ setting ∈ account.provider, setting.Known := by
  intro setting listed
  rw [provider] at listed
  rcases held : account.keys with _ | ⟨key, secret, token⟩
  · simp only [held, List.mem_append, List.mem_cons, List.not_mem_nil, or_false] at listed
    rcases listed with (rfl | rfl) | listed
    · simp [Setting.Known, wordSettings]
    · simp [Setting.Known, textKeys]
    · exact account.located_known setting listed
  · simp only [held, List.mem_append, List.mem_cons, List.not_mem_nil, or_false] at listed
    rcases listed with ((rfl | listed) | rfl | rfl) | listed
    · simp [Setting.Known, wordSettings]
    · exact account.located_known setting listed
    · simp [Setting.Known, textKeys]
    · simp [Setting.Known, textKeys]
    · cases token with
      | none => simp at listed
      | some token =>
          simp only [Option.elim_some, List.mem_singleton] at listed
          rw [listed]
          simp [Setting.Known, textKeys]

theorem S3Dataset.settings_known {d : S3Dataset} {secret : Secret}
    (built : d.buildS3SecretSql = .ok secret) : ∀ setting ∈ secret.settings, setting.Known := by
  obtain ⟨-, -, -, params⟩ := built_iff.mp built
  intro setting listed
  simp only [Secret.settings, params, Account.params, List.mem_append, List.mem_cons,
    List.not_mem_nil, or_false] at listed
  rcases listed with ((rfl | listed) | rfl | rfl | rfl) | rfl
  · simp [Setting.Known, wordSettings]
  · exact d.account.provider_known setting listed
  · simp [Setting.Known, textKeys]
  · simp [Setting.Known, textKeys]
  · cases d.account.allowHttp <;> simp [Setting.Known, wordSettings]
  · simp [Setting.Known, textKeys]

theorem lex_createSecret : lex "CREATE OR REPLACE SECRET " =
    some [.word "CREATE", .word "OR", .word "REPLACE", .word "SECRET"] := by
  decide +kernel

theorem Secret.lex_statement {secret : Secret} (known : ∀ setting ∈ secret.settings, setting.Known)
    (letters : ∀ c ∈ secret.name.toList, isWord c = true) (named : secret.name ≠ "") :
    lex secret.statement = some secret.tokens := by
  have listed := lex_commas
    (forall₂_map fun setting member => Setting.lex_sql (known setting member))
  have called := lex_append lex_createSecret (lex_word letters named)
    (.inl (ends_blank "CREATE OR REPLACE SECRET"))
  have bracket : lex " (" = some [.symbol '('] := rfl
  have opened := lex_append called bracket (.inr (opens_blank "("))
  have body := lex_append opened listed
    (.inl (Ends.append_of_ne (ends_open " ") (by decide)))
  have closed := lex_append body lex_close (.inr opens_close)
  exact closed

theorem Setting.mem_tokens {setting : Setting} (known : setting.Known) {token : Token}
    (member : token ∈ setting.tokens) : token ∈ fixedTokens ∨
      ∃ key value, setting = .text key value ∧ token = .quoted .single value := by
  cases setting with
  | word key value =>
      have fixed : ∀ setting ∈ wordSettings, Token.word setting.1 ∈ fixedTokens ∧
          Token.word setting.2 ∈ fixedTokens := by decide +kernel
      obtain ⟨named, valued⟩ := fixed (key, value) known
      rcases List.mem_cons.mp member with rfl | last
      · exact .inl named
      · cases List.mem_singleton.mp last
        exact .inl valued
  | text key value =>
      have fixed : ∀ key ∈ textKeys, Token.word key ∈ fixedTokens := by decide +kernel
      rcases List.mem_cons.mp member with rfl | last
      · exact .inl (fixed key known)
      · exact .inr ⟨key, value, rfl, List.mem_singleton.mp last⟩

theorem Secret.mem_tokens {secret : Secret} (known : ∀ setting ∈ secret.settings, setting.Known)
    {token : Token} (member : token ∈ secret.tokens) :
    token = .word secret.name ∨ token ∈ fixedTokens ∨
      ∃ key value, .text key value ∈ secret.settings ∧ token = .quoted .single value := by
  have start : ∀ token ∈ [Token.word "CREATE", .word "OR", .word "REPLACE", .word "SECRET",
      .symbol '('], token ∈ fixedTokens := by decide +kernel
  have marks : ∀ token ∈ [Token.symbol ',', .symbol ')'], token ∈ fixedTokens := by decide +kernel
  rw [tokens, List.mem_append, List.mem_append] at member
  rcases member with (opening | listed) | last
  · by_cases name : token = .word secret.name
    · exact .inl name
    · exact .inr (.inl (start token (by simpa [name] using opening)))
  · rcases mem_joined listed with comma | ⟨_, listed, here⟩
    · exact .inr (.inl (marks token (by simp_all)))
    · obtain ⟨setting, member, rfl⟩ := List.mem_map.mp listed
      obtain fixed | ⟨key, value, rfl, same⟩ := Setting.mem_tokens (known setting member) here
      · exact .inr (.inl fixed)
      · exact .inr (.inr ⟨key, value, member, same⟩)
  · exact .inr (.inl (marks token (by simp_all)))

/-- The string literals of the credentials and the endpoint. -/
theorem Account.text_mem_provider {account : Account} {key value : String} :
    .text key value ∈ account.provider ↔
      (key = "ENDPOINT" ∧ account.endpoint = some value) ∨
      (∃ keyId secret token, account.keys = some (keyId, secret, token) ∧
        (key = "KEY_ID" ∧ value = keyId ∨ key = "SECRET" ∧ value = secret ∨
          key = "SESSION_TOKEN" ∧ token = some value)) ∨
      (account.keys = none ∧ key = "CHAIN" ∧ value = "env;config") := by
  have endpoint : .text key value ∈ account.located ↔
      key = "ENDPOINT" ∧ account.endpoint = some value := by
    cases given : account.endpoint with
    | none => simp [located, given]
    | some endpoint => simp [located, given, eq_comm]
  rw [provider, ← endpoint]
  rcases held : account.keys with _ | ⟨keyId, secret, token⟩
  · simp [or_comm]
  · cases token with
    | none => simp
    | some token => simp; grind

theorem Account.text_mem_params {account : Account} {key value : String} :
    .text key value ∈ account.params ↔ .text key value ∈ account.provider ∨
      (key = "REGION" ∧ value = account.region) ∨
      (key = "URL_STYLE" ∧ value = duckdbS3UrlStyle account.addressingStyle) := by
  simp [params]

theorem S3Dataset.endpoint_eq_some {d : S3Dataset} {value : String} :
    d.account.endpoint = some value ↔
      ∃ endpoint, d.s3.endpoint = some endpoint ∧ endpoint ≠ "" ∧
        bareEndpoint endpoint = value := by
  simp [account, Option.bind_eq_some_iff]

theorem S3Dataset.keys_eq_some {d : S3Dataset} {key secret : String} {token : Option String} :
    d.account.keys = some (key, secret, token) ↔ d.creds.accessKeyId = some key ∧
      d.creds.secretAccessKey = some secret ∧ d.creds.sessionToken = token := by
  cases keyed : d.creds.accessKeyId with
  | none => simp [account, keyed]
  | some _ => cases paired : d.creds.secretAccessKey <;> simp [account, keyed, paired]

theorem S3Dataset.keys_eq_none {d : S3Dataset} {settings : List Setting}
    (provided : d.providerSettings = .ok settings) :
    d.account.keys = none ↔ d.creds.accessKeyId = none := by
  cases keyed : d.creds.accessKeyId with
  | none => simp [account, keyed]
  | some _ =>
      cases paired : d.creds.secretAccessKey with
      | none => simp [providerSettings, keyed, paired] at provided
      | some _ => simp [account, keyed, paired]

theorem S3Dataset.configures_iff {d : S3Dataset} {secret : Secret}
    (built : d.buildS3SecretSql = .ok secret) (key value : String) :
    .text key value ∈ secret.settings ↔ d.Configures key value := by
  obtain ⟨provided, bounded, -, params⟩ := built_iff.mp built
  rw [Secret.settings, params, List.mem_append, Account.text_mem_params,
    Account.text_mem_provider, keys_eq_none provided, List.mem_singleton]
  constructor
  · rintro (((located | held | ⟨keyless, rfl, rfl⟩) | (⟨rfl, rfl⟩ | ⟨rfl, rfl⟩)) | last)
    · obtain ⟨rfl, written⟩ := located
      obtain ⟨endpoint, given, named, rfl⟩ := endpoint_eq_some.mp written
      exact .endpoint endpoint given named
    · obtain ⟨keyId, secret, token, keys, here⟩ := held
      obtain ⟨given, paired, session⟩ := keys_eq_some.mp keys
      rcases here with ⟨rfl, rfl⟩ | ⟨rfl, rfl⟩ | ⟨rfl, rfl⟩
      · exact .keyId value secret given paired
      · exact .secret keyId value given paired
      · exact .token keyId secret value given paired session
    · exact .chain keyless
    · exact .region
    · exact .urlStyle
    · cases last
      exact .scope _ bounded
  · intro configured
    cases configured with
    | endpoint endpoint given named =>
        exact .inl (.inl (.inl ⟨rfl, endpoint_eq_some.mpr ⟨endpoint, given, named, rfl⟩⟩))
    | keyId key secret given paired =>
        exact .inl (.inl (.inr (.inl ⟨_, _, _, keys_eq_some.mpr ⟨given, paired, rfl⟩,
          .inl ⟨rfl, rfl⟩⟩)))
    | secret key secret given paired =>
        exact .inl (.inl (.inr (.inl ⟨_, _, _, keys_eq_some.mpr ⟨given, paired, rfl⟩,
          .inr (.inl ⟨rfl, rfl⟩)⟩)))
    | token key secret token given paired session =>
        exact .inl (.inl (.inr (.inl ⟨_, _, _, keys_eq_some.mpr ⟨given, paired, rfl⟩,
          .inr (.inr ⟨rfl, session⟩)⟩)))
    | chain keyless => exact .inl (.inl (.inr (.inr ⟨keyless, rfl, rfl⟩)))
    | region => exact .inl (.inr (.inl ⟨rfl, rfl⟩))
    | urlStyle => exact .inl (.inr (.inr ⟨rfl, rfl⟩))
    | scope scope located =>
        cases bounded.symm.trans located
        exact .inr rfl

theorem S3Dataset.quoted {d : S3Dataset} {secret : Secret}
    (built : d.buildS3SecretSql = .ok secret) : Quoted d secret := by
  have known := settings_known built
  obtain ⟨-, -, name, -⟩ := built_iff.mp built
  have letters : ∀ c ∈ secret.name.toList, isWord c = true := by
    rw [name]
    exact secretName_letters d
  have named : secret.name ≠ "" := by
    intro empty
    have chars := congrArg String.toList (name.symm.trans empty)
    rw [secretName, String.toList_append] at chars
    cases chars
  exact {
    reads := Secret.lex_statement known letters named
    only := fun _ => Secret.mem_tokens known
    strings := configures_iff built }

example : Secret.sql <$> (resolve (fun _ => none) {
      name := "myaws"
      source := { kind := .parquet, location := "s3://proxy-aws-bucket01/path/*.parquet" }
      s3 := some {
        region := "eu-west-3"
        endpoint := "https://s3.eu-west-3.amazonaws.com"
        accessKeyId := "aws access key"
        secretAccessKey := "aws secret key id" } }).buildS3SecretSql =
    .ok ("CREATE OR REPLACE SECRET ds_myaws (TYPE s3, PROVIDER config, " ++
      "ENDPOINT 's3.eu-west-3.amazonaws.com', KEY_ID 'aws access key', " ++
      "SECRET 'aws secret key id', REGION 'eu-west-3', URL_STYLE 'vhost', USE_SSL true, " ++
      "SCOPE 's3://proxy-aws-bucket01');") := by
  decide +kernel

/-! ### The scopes -/

/-- A scope that matches a location is no longer than its bucket. -/
theorem bucket_of_match {bucket other rest : List Char} (apart : '/' ∉ other)
    (slash : ∀ c ∈ rest.head?, c = '/') (applies : other <+: bucket ++ rest) :
    other <+: bucket := by
  rcases List.prefix_or_prefix_of_prefix applies (List.prefix_append bucket rest) with within | past
  · exact within
  · obtain ⟨more, rfl⟩ := past
    have after : more <+: rest := (List.prefix_append_right_inj bucket).mp applies
    cases more with
    | nil => exact ⟨[], by simp⟩
    | cons c tail =>
        obtain ⟨tail', rfl⟩ := after
        cases slash c rfl
        exact absurd (List.mem_append_right bucket List.mem_cons_self) apart

/-- The bucket of the dataset, with what follows it in its location. -/
theorem S3Dataset.scope_spec {d : S3Dataset} {scope : String}
    (bounded : d.s3SecretScope = .ok scope) :
    ∃ bucket rest, scope.toList = "s3://".toList ++ bucket ∧ '/' ∉ bucket ∧
      d.cfg.source.location.toList = "s3://".toList ++ (bucket ++ rest) ∧
      ∀ c ∈ rest.head?, c = '/' := by
  obtain ⟨⟨bucket, key⟩, parsed, same⟩ := Fallible.bind_ok_iff.mp bounded
  cases same
  obtain ⟨apart, rest, located, slash⟩ := SourceConfig.s3Bucket_ok parsed
  exact ⟨bucket.toList, rest, String.toList_append, apart, located, slash⟩

theorem S3Dataset.scope_applies {d : S3Dataset} {scope : String}
    (bounded : d.s3SecretScope = .ok scope) : scope.toList <+: d.cfg.source.location.toList := by
  obtain ⟨bucket, rest, written, -, located, -⟩ := scope_spec bounded
  rw [written, located, ← List.append_assoc]
  exact List.prefix_append _ rest

/-- The own scope is the longest that can match. -/
theorem S3Dataset.within_scope {d e : S3Dataset} {scope other : String}
    (bounded : d.s3SecretScope = .ok scope) (bounded' : e.s3SecretScope = .ok other)
    (applies : other.toList <+: d.cfg.source.location.toList) : other.toList <+: scope.toList := by
  obtain ⟨bucket, rest, written, -, located, slash⟩ := scope_spec bounded
  obtain ⟨bucket', -, written', apart, -⟩ := scope_spec bounded'
  rw [written', located, List.prefix_append_right_inj] at applies
  rw [written, written', List.prefix_append_right_inj]
  exact bucket_of_match apart slash applies

/-! ### The secrets that stay -/

/-- No later dataset of the list has the same name up to punctuation and case. -/
def Survives (datasets : List S3Dataset) (d : S3Dataset) : Prop :=
  ∃ before after, datasets = before ++ d :: after ∧
    ∀ e ∈ after, sanitized d.cfg.name ≠ sanitized e.cfg.name

theorem secretName_ne {d e : S3Dataset} :
    eqIgnoreAsciiCase d.secretName e.secretName = false ↔
      sanitized d.cfg.name ≠ sanitized e.cfg.name := by
  have lower (d : S3Dataset) :
      d.secretName.toList.map Char.toLower = "ds_".toList ++ sanitized d.cfg.name := by
    simp only [S3Dataset.secretName, String.toList_append, String.toList_ofList, List.map_append,
      List.map_map]
    rfl
  rw [← Bool.not_eq_true, eqIgnoreAsciiCase_iff, lower, lower, List.append_right_inj]

theorem survives_cons {d e : S3Dataset} {rest : List S3Dataset} :
    Survives (d :: rest) e ↔
      (e = d ∧ ∀ later ∈ rest, sanitized d.cfg.name ≠ sanitized later.cfg.name) ∨
        Survives rest e := by
  constructor
  · rintro ⟨before, after, whole, apart⟩
    rcases List.cons_eq_append_iff.mp whole with ⟨rfl, here⟩ | ⟨front, rfl, later⟩
    · obtain ⟨rfl, rfl⟩ := List.cons.inj here
      exact .inl ⟨rfl, apart⟩
    · exact .inr ⟨front, after, later, apart⟩
  · rintro (⟨rfl, apart⟩ | ⟨before, after, rfl, apart⟩)
    · exact ⟨[], rest, rfl, apart⟩
    · exact ⟨d :: before, after, rfl, apart⟩

theorem Survives.mem {datasets : List S3Dataset} {d : S3Dataset} (survives : Survives datasets d) :
    d ∈ datasets := by
  obtain ⟨before, after, rfl, -⟩ := survives
  exact List.mem_append_right before List.mem_cons_self

theorem mem_createOrReplace {secrets : List Secret} {secret other : Secret} :
    other ∈ createOrReplace secrets secret ↔ other = secret ∨
      (other ∈ secrets ∧ eqIgnoreAsciiCase other.name secret.name = false) := by
  simp [createOrReplace]

theorem mem_applyS3Secrets {datasets : List S3Dataset} {secrets secrets' : List Secret}
    (applied : applyS3Secrets datasets secrets = .ok secrets') (secret : Secret) :
    secret ∈ secrets' ↔ (∃ d, Survives datasets d ∧ d.buildS3SecretSql = .ok secret) ∨
      (secret ∈ secrets ∧
        ∀ d ∈ datasets, eqIgnoreAsciiCase secret.name d.secretName = false) := by
  induction datasets generalizing secrets with
  | nil =>
      cases applied
      have none : ∀ d, ¬ Survives [] d := fun d survives => List.not_mem_nil survives.mem
      simp [none]
  | cons d rest ih =>
      obtain ⟨built, ran, applied⟩ := Fallible.bind_ok_iff.mp applied
      obtain ⟨-, -, name, -⟩ := S3Dataset.built_iff.mp ran
      rw [ih applied, mem_createOrReplace]
      simp only [survives_cons, List.forall_mem_cons, ← secretName_ne]
      constructor
      · rintro (⟨e, survives, built'⟩ | ⟨rfl | ⟨member, apart⟩, others⟩)
        · exact .inl ⟨e, .inr survives, built'⟩
        · exact .inl ⟨d, .inl ⟨rfl, by rwa [name] at others⟩, ran⟩
        · exact .inr ⟨member, by rwa [name] at apart, others⟩
      · rintro (⟨e, ⟨rfl, apart⟩ | survives, built'⟩ | ⟨member, apart, others⟩)
        · cases ran.symm.trans built'
          exact .inr ⟨.inl rfl, by rwa [name]⟩
        · exact .inl ⟨e, survives, built'⟩
        · exact .inr ⟨.inr ⟨member, by rwa [name]⟩, others⟩

theorem built_of_applied {datasets : List S3Dataset} {secrets secrets' : List Secret}
    (applied : applyS3Secrets datasets secrets = .ok secrets') :
    ∀ d ∈ datasets, ∃ secret, d.buildS3SecretSql = .ok secret := by
  induction datasets generalizing secrets with
  | nil =>
      intro d member
      cases member
  | cons d rest ih =>
      obtain ⟨built, ran, applied⟩ := Fallible.bind_ok_iff.mp applied
      exact List.forall_mem_cons.mpr ⟨⟨built, ran⟩, ih applied⟩

/-- With a secret of its own scope, a location takes the secrets of that scope. -/
theorem selected_iff {datasets : List S3Dataset} {secrets : List Secret}
    (applied : applyS3Secrets datasets [] = .ok secrets) {d : S3Dataset} {scope : String}
    (bounded : d.s3SecretScope = .ok scope) {own : Secret} (created : own ∈ secrets)
    (same : own.scope = scope) (secret : Secret) :
    Selected secrets d.cfg.source.location secret ↔ secret ∈ secrets ∧ secret.scope = scope := by
  have within : ∀ other ∈ secrets, other.scope.toList <+: d.cfg.source.location.toList →
      other.scope.toList <+: scope.toList := by
    intro other member applies
    obtain ⟨e, -, built⟩ | ⟨none, -⟩ := (mem_applyS3Secrets applied other).mp member
    · obtain ⟨-, bounded', -⟩ := S3Dataset.built_iff.mp built
      exact S3Dataset.within_scope bounded bounded' applies
    · cases none
  constructor
  · intro selected
    have shorter := within secret selected.created selected.applies
    have applies := S3Dataset.scope_applies bounded
    rw [← same] at applies
    have longer := selected.longest own created applies
    rw [same] at longer
    exact ⟨selected.created, String.toList_inj.mp (shorter.eq_of_length_le longer)⟩
  · rintro ⟨member, rfl⟩
    exact {
      created := member
      applies := S3Dataset.scope_applies bounded
      longest := fun other listed applies => (within other listed applies).length_le }

/-! ### Isolation -/

/-- The bucket of an `s3://` location. -/
def S3Dataset.bucket (d : S3Dataset) : Option String := d.cfg.source.s3Bucket.toOption.map Prod.fst

theorem S3Dataset.scope_eq_iff {d e : S3Dataset} {scope scope' : String}
    (bounded : d.s3SecretScope = .ok scope) (bounded' : e.s3SecretScope = .ok scope') :
    scope = scope' ↔ d.bucket = e.bucket := by
  obtain ⟨⟨bucket, key⟩, parsed, same⟩ := Fallible.bind_ok_iff.mp bounded
  obtain ⟨⟨bucket', key'⟩, parsed', same'⟩ := Fallible.bind_ok_iff.mp bounded'
  rw [Except.ok.injEq] at same same'
  simp [S3Dataset.bucket, parsed, parsed', ← same, ← same', Except.toOption]

theorem settings_iff {d e : S3Dataset} {secret secret' : Secret}
    (built : d.buildS3SecretSql = .ok secret) (built' : e.buildS3SecretSql = .ok secret') :
    secret.settings = secret'.settings ↔ d.account = e.account ∧ d.bucket = e.bucket := by
  obtain ⟨-, bounded, -, params⟩ := S3Dataset.built_iff.mp built
  obtain ⟨-, bounded', -, params'⟩ := S3Dataset.built_iff.mp built'
  rw [← S3Dataset.scope_eq_iff bounded bounded', Secret.settings, Secret.settings, params, params']
  constructor
  · intro same
    obtain ⟨account, scopes⟩ := List.append_inj' same rfl
    exact ⟨Account.params_inj account, by simpa using scopes⟩
  · rintro ⟨account, scopes⟩
    rw [account, scopes]

/-- Whether the secrets of the list can be told apart: one of the scope of each dataset stays,
and those that stay there say the same as its own. -/
def Apart (datasets : List S3Dataset) : Prop :=
  ∀ d ∈ datasets, (∃ e, Survives datasets e ∧ e.bucket = d.bucket) ∧
    ∀ e, Survives datasets e → e.bucket = d.bucket → e.account = d.account

theorem parted_iff {datasets : List S3Dataset} {secrets : List Secret}
    (applied : applyS3Secrets datasets [] = .ok secrets) :
    Isolated datasets secrets ↔ Apart datasets := by
  have builds := built_of_applied applied
  have origin : ∀ secret ∈ secrets, ∃ e, Survives datasets e ∧ e.buildS3SecretSql = .ok secret := by
    intro secret member
    obtain found | ⟨none, -⟩ := (mem_applyS3Secrets applied secret).mp member
    · exact found
    · cases none
  have stays : ∀ e, Survives datasets e → ∃ secret ∈ secrets, e.buildS3SecretSql = .ok secret := by
    intro e survives
    obtain ⟨secret, built⟩ := builds e survives.mem
    exact ⟨secret, (mem_applyS3Secrets applied secret).mpr (.inl ⟨e, survives, built⟩), built⟩
  constructor
  · intro isolated d member
    obtain ⟨⟨secret, selected⟩, each⟩ := isolated d member
    obtain ⟨own, built, same⟩ := each secret selected
    constructor
    · obtain ⟨e, survives, built'⟩ := origin secret selected.created
      exact ⟨e, survives, ((settings_iff built' built).mp same).2⟩
    · intro e survives buckets
      obtain ⟨other, created, built'⟩ := stays e survives
      obtain ⟨-, bounded, -⟩ := S3Dataset.built_iff.mp built
      obtain ⟨-, bounded', -⟩ := S3Dataset.built_iff.mp built'
      have scopes := (S3Dataset.scope_eq_iff bounded' bounded).mpr buckets
      have selected' := (selected_iff applied bounded created scopes other).mpr ⟨created, scopes⟩
      obtain ⟨own', builtOwn, same'⟩ := each other selected'
      exact ((settings_iff built' builtOwn).mp same').1
  · intro apart d member
    obtain ⟨own, built⟩ := builds d member
    obtain ⟨-, bounded, -⟩ := S3Dataset.built_iff.mp built
    obtain ⟨⟨e, survives, buckets⟩, each⟩ := apart d member
    obtain ⟨secret, created, built'⟩ := stays e survives
    obtain ⟨-, bounded', -⟩ := S3Dataset.built_iff.mp built'
    have scopes := (S3Dataset.scope_eq_iff bounded' bounded).mpr buckets
    have selected := selected_iff applied bounded created scopes
    constructor
    · exact ⟨secret, (selected secret).mpr ⟨created, scopes⟩⟩
    · intro other chosen
      obtain ⟨listed, same⟩ := (selected other).mp chosen
      obtain ⟨e', survives', builtOther⟩ := origin other listed
      obtain ⟨-, boundedOther, -⟩ := S3Dataset.built_iff.mp builtOther
      have shared := (S3Dataset.scope_eq_iff boundedOther bounded).mp same
      exact ⟨own, built, (settings_iff builtOther built).mpr ⟨each e' survives' shared, shared⟩⟩

/-- Every statement quotes what is configured, and each location takes the secret of its own
dataset exactly when the names and the buckets keep the secrets apart. -/
theorem secrets_isolated_iff (env : String → Option String) (datasets : List Config.DatasetConfig)
    {secrets : List Secret}
    (applied : applyS3Secrets (datasets.map (resolve env)) [] = .ok secrets) :
    (∀ d ∈ datasets, ∃ secret, (resolve env d).buildS3SecretSql = .ok secret ∧
      Quoted (resolve env d) secret) ∧
    (Isolated (datasets.map (resolve env)) secrets ↔ Apart (datasets.map (resolve env))) := by
  refine ⟨fun d member => ?_, parted_iff applied⟩
  obtain ⟨secret, built⟩ := built_of_applied applied (resolve env d) (List.mem_map_of_mem member)
  exact ⟨secret, built, S3Dataset.quoted built⟩

/-- A dataset of a bucket of its own, with its own keys. -/
def keyedDataset (name bucket key : String) : Config.DatasetConfig where
  name := name
  source := { kind := .parquet, location := "s3://" ++ bucket ++ "/sales" }
  s3 := some { region := "eu-west-3", accessKeyId := key, secretAccessKey := key ++ "-secret" }

theorem secrets_isolated_keyed :
    Isolated [resolve (fun _ => none) (keyedDataset "eu-1" "alpha" "AKIA-1"),
        resolve (fun _ => none) (keyedDataset "eu_2" "beta" "AKIA-2")]
      [⟨"ds_eu_2", Account.params ⟨some ("AKIA-2", "AKIA-2-secret", none), none, "eu-west-3",
          .virtual, false⟩, "s3://beta"⟩,
        ⟨"ds_eu_1", Account.params ⟨some ("AKIA-1", "AKIA-1-secret", none), none, "eu-west-3",
          .virtual, false⟩, "s3://alpha"⟩] ↔
    Apart [resolve (fun _ => none) (keyedDataset "eu-1" "alpha" "AKIA-1"),
      resolve (fun _ => none) (keyedDataset "eu_2" "beta" "AKIA-2")] :=
  (secrets_isolated_iff (fun _ => none)
    [keyedDataset "eu-1" "alpha" "AKIA-1", keyedDataset "eu_2" "beta" "AKIA-2"]
    (by decide +kernel)).2

/-- Valid names that differ in their punctuation only: the second secret replaces the first,
and the bucket of the first dataset has no secret. -/
theorem secrets_clash :
    let alpha := keyedDataset "eu-1" "alpha" "AKIA-1"
    let beta := keyedDataset "eu.1" "beta" "AKIA-2"
    let datasets := [alpha, beta].map (resolve fun _ => none)
    (Refresh.checkName .internal alpha.name = .ok () ∧
      Refresh.checkName .internal beta.name = .ok ()) ∧
      alpha.name ≠ beta.name ∧
      ∃ secrets, applyS3Secrets datasets [] = .ok secrets ∧ ¬ Isolated datasets secrets := by
  intro alpha beta datasets
  refine ⟨by decide +kernel, by decide +kernel, [⟨"ds_eu_1", Account.params ⟨some ("AKIA-2",
    "AKIA-2-secret", none), none, "eu-west-3", .virtual, false⟩, "s3://beta"⟩],
    by decide +kernel, fun isolated => ?_⟩
  obtain ⟨⟨secret, selected⟩, -⟩ := isolated _ List.mem_cons_self
  cases List.mem_singleton.mp selected.created
  have other : ¬ "s3://beta".toList <+: alpha.source.location.toList := by decide +kernel
  exact other selected.applies

end Datapress.DuckDB
