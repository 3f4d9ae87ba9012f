import Datapress.Library.Interleaving
import Datapress.Tokens

/-!
The cache of the issuer's signing keys: the task that seeds and refreshes it, and what the server
accepts in the meantime.

The issuer answers each request as it likes. The readers of its documents belong to `serde`, so
they are a parameter.
-/
namespace Datapress

open Interleaving

/-- A status code and the text it is displayed as. -/
structure HttpStatus where
  code : Nat
  text : String
deriving Repr, DecidableEq

def HttpStatus.isSuccess (status : HttpStatus) : Bool := 200 ≤ status.code && status.code < 300

/-- A response; its body may break off. -/
structure IssuerResponse where
  status : HttpStatus
  body : Except String String

abbrev IssuerReply := Except String IssuerResponse

inductive IssuerDocument where
  | metadata | keys
deriving Repr, DecidableEq

structure IssuerDocuments (Jwk : Type) where
  /-- The `jwks_uri` of the metadata. -/
  metadata : String → Except String String
  jwkSet : String → Except String (List Jwk)

/-- What the task does: it asks the issuer, and it reads and swaps the two cells of the cache. -/
inductive CacheCall (Jwk : Type) where
  | get (document : IssuerDocument) (url : String)
  | loadJwksUri
  | storeJwksUri (uri : String)
  | storeInner (set : List Jwk)

abbrev CacheCall.Answer {Jwk : Type} : CacheCall Jwk → Type
  | .get _ _ => IssuerReply
  | .loadJwksUri => Option String
  | .storeJwksUri _ | .storeInner _ => Unit

abbrev CacheProg (Jwk ρ : Type) := Prog (@CacheCall.Answer Jwk) ρ

namespace JwksCache

variable {Jwk : Type} (documents : IssuerDocuments Jwk) (issuer : String)

def discoveryUrl : String :=
  trimEndMatches (· == '/') issuer ++ "/.well-known/openid-configuration"

/-- The path of old, for issuers that publish no metadata. -/
def fallbackUrl : String := trimEndMatches (· == '/') issuer ++ "/.well-known/jwks.json"

def readMetadata (reply : IssuerReply) : Except String String := do
  let resp ← reply
  if !resp.status.isSuccess then
    .error s!"discovery {discoveryUrl issuer} → HTTP {resp.status.text}"
  else (resp.body >>= documents.metadata).mapError fun e => s!"discovery {discoveryUrl issuer} body: {e}"

def readKeys (reply : IssuerReply) : Except String (List Jwk) := do
  let resp ← reply
  if !resp.status.isSuccess then .error s!"HTTP {resp.status.text}"
  else resp.body >>= documents.jwkSet

def discoverJwksUri : CacheProg Jwk (Except String String) := do
  let reply ← Prog.perform (CacheCall.get .metadata (discoveryUrl issuer))
  pure (readMetadata documents issuer reply)

def fetchJwks (url : String) : CacheProg Jwk (Except String (List Jwk)) := do
  let reply ← Prog.perform (CacheCall.get .keys url)
  pure (readKeys documents reply)

/-- The fetch behind a discovery; the path of old is not remembered. -/
def fetchDiscovered : Except String String → CacheProg Jwk (Except String (List Jwk))
  | .ok uri => do
    let _ ← Prog.perform (CacheCall.storeJwksUri uri)
    fetchJwks documents uri
  | .error _ => fetchJwks documents (fallbackUrl issuer)

def resolveAndFetch : CacheProg Jwk (Except String (List Jwk)) := do
  match ← Prog.perform CacheCall.loadJwksUri with
  | some uri => fetchJwks documents uri
  | none => do
    let discovery ← discoverJwksUri documents issuer
    fetchDiscovered documents issuer discovery

def refreshQuiet : CacheProg Jwk (Except AppError Unit) := do
  match ← resolveAndFetch documents issuer with
  | .ok set => do
    let _ ← Prog.perform (CacheCall.storeInner set)
    pure (.ok ())
  | .error _ => pure (.ok ())

def boot (startDegraded : Bool) : CacheProg Jwk (Except AppError Unit) := do
  match ← resolveAndFetch documents issuer with
  | .ok set => do
    let _ ← Prog.perform (CacheCall.storeInner set)
    pure (.ok ())
  | .error e =>
    if startDegraded then pure (.ok ())
    else pure (.error (.internal s!"auth: JWKS load failed and start_degraded = false: {e}"))

end JwksCache

/-! ### Runs of the cache -/

/-- A request to the issuer and its reply. -/
structure Exchange where
  document : IssuerDocument
  url : String
  reply : IssuerReply

/-- The cache, and beside it every exchange so far. -/
structure JwksCache (Jwk : Type) where
  inner : Option (List Jwk) := none
  jwksUri : Option String := none
  log : List Exchange := []

structure CacheState (Jwk : Type) where
  cache : JwksCache Jwk
  task : CacheProg Jwk (Except AppError Unit)
  /-- The listener is bound, which happens after a boot that succeeds. -/
  serving : Bool

inductive CacheEvent where
  | answer (reply : IssuerReply)
  /-- The task loads or stores a cell. -/
  | advance
  | serve
  /-- The interval of the background refresher. -/
  | tick

def CacheEvent.isTick : CacheEvent → Bool
  | .tick => true
  | _ => false

namespace CacheState

variable {Jwk : Type} (documents : IssuerDocuments Jwk) (issuer : String)

def start (startDegraded : Bool) : CacheState Jwk where
  cache := {}
  task := JwksCache.boot documents issuer startDegraded
  serving := false

def step : CacheEvent → CacheState Jwk → Option (CacheState Jwk)
  | .answer reply, s =>
    match s.task with
    | .act (.get document url) next =>
      some { s with cache.log := s.cache.log ++ [⟨document, url, reply⟩], task := next reply }
    | _ => none
  | .advance, s =>
    match s.task with
    | .act .loadJwksUri next => some { s with task := next s.cache.jwksUri }
    | .act (.storeJwksUri uri) next => some { s with cache.jwksUri := some uri, task := next () }
    | .act (.storeInner set) next => some { s with cache.inner := some set, task := next () }
    | _ => none
  | .serve, s =>
    match s.task with
    | .done (.ok ()) => if s.serving then none else some { s with serving := true }
    | _ => none
  | .tick, s =>
    match s.task with
    | .done (.ok ()) => some { s with task := JwksCache.refreshQuiet documents issuer }
    | _ => none

/-- All a step can do. -/
inductive Moves (s : CacheState Jwk) : CacheEvent → CacheState Jwk → Prop where
  | answer {document url next} (asked : s.task = .act (.get document url) next) (reply : IssuerReply) :
      Moves s (.answer reply)
        { s with cache.log := s.cache.log ++ [⟨document, url, reply⟩], task := next reply }
  | loadUri {next} (ready : s.task = .act .loadJwksUri next) :
      Moves s .advance { s with task := next s.cache.jwksUri }
  | storeUri {uri next} (ready : s.task = .act (.storeJwksUri uri) next) :
      Moves s .advance { s with cache.jwksUri := some uri, task := next () }
  | storeInner {set next} (ready : s.task = .act (.storeInner set) next) :
      Moves s .advance { s with cache.inner := some set, task := next () }
  | serve (booted : s.task = .done (.ok ())) : Moves s .serve { s with serving := true }
  | tick (rests : s.task = .done (.ok ())) :
      Moves s .tick { s with task := JwksCache.refreshQuiet documents issuer }

variable {documents issuer} {s t : CacheState Jwk}

theorem moves_of_step {e : CacheEvent} (stepped : step documents issuer e s = some t) :
    Moves documents issuer s e t := by
  cases e with
  | answer reply =>
      simp only [step] at stepped
      split at stepped
      case h_1 asked => cases stepped; exact .answer asked reply
      case h_2 => cases stepped
  | advance =>
      simp only [step] at stepped
      split at stepped
      case h_1 ready => cases stepped; exact .loadUri ready
      case h_2 ready => cases stepped; exact .storeUri ready
      case h_3 ready => cases stepped; exact .storeInner ready
      case h_4 => cases stepped
  | serve =>
      simp only [step] at stepped
      split at stepped
      case h_1 booted =>
        split at stepped
        case isTrue => cases stepped
        case isFalse => cases stepped; exact .serve booted
      case h_2 => cases stepped
  | tick =>
      simp only [step] at stepped
      split at stepped
      case h_1 rests => cases stepped; exact .tick rests
      case h_2 => cases stepped

end CacheState

/-! ### What the exchanges amount to -/

namespace JwksCache

variable {Jwk : Type} (documents : IssuerDocuments Jwk) (issuer : String)

/-- The address of the keys that an exchange brought. -/
def discovered (e : Exchange) : Option String :=
  match e.document with
  | .metadata => (readMetadata documents issuer e.reply).toOption
  | .keys => none

/-- The keys that an exchange brought. -/
def fetched (e : Exchange) : Option (List Jwk) :=
  match e.document with
  | .metadata => none
  | .keys => (readKeys documents e.reply).toOption

def firstUri (log : List Exchange) : Option String :=
  (log.filterMap (discovered documents issuer)).head?

def lastKeys (log : List Exchange) : Option (List Jwk) :=
  (log.filterMap (fetched documents)).getLast?

/-- The metadata have just been asked for. -/
def asked (log : List Exchange) : Bool := log.getLast?.any (·.document = .metadata)

/-- The request that is due after these exchanges. Each attempt asks for the metadata first, until
they could be read once, and then for the keys at the address they name, or on the path of old. -/
def due (log : List Exchange) : IssuerDocument × String :=
  match firstUri documents issuer log with
  | some uri => (.keys, uri)
  | none =>
    if asked log then (.keys, fallbackUrl issuer) else (.metadata, discoveryUrl issuer)

/-- Every exchange was due. -/
def Disciplined (log : List Exchange) : Prop :=
  ∀ before e after, log = before ++ e :: after →
    (e.document, e.url) = due documents issuer before

/-- How often the keys have been asked for. -/
def fetches (log : List Exchange) : Nat := log.countP (·.document = .keys)

/-- The cells hold what the exchanges amount to. -/
structure Settled (c : JwksCache Jwk) : Prop where
  keys : c.inner = lastKeys documents c.log
  uri : c.jwksUri = firstUri documents issuer c.log

/-- What each call of the task may assume and has to respect. -/
def rule : (call : CacheCall Jwk) → JwksCache Jwk → (call.Answer → JwksCache Jwk → Prop) → Prop
  | .get document url, c, post =>
    Settled documents issuer c ∧ (document, url) = due documents issuer c.log ∧
      ∀ reply, post reply { c with log := c.log ++ [⟨document, url, reply⟩] }
  | .loadJwksUri, c, post => post c.jwksUri c
  | .storeJwksUri uri, c, post => post () { c with jwksUri := some uri }
  | .storeInner set, c, post =>
    (∃ e ∈ c.log, fetched documents e = some set) ∧ post () { c with inner := some set }

variable {documents issuer}

theorem firstUri_snoc (log : List Exchange) (e : Exchange) :
    firstUri documents issuer (log ++ [e]) =
      (firstUri documents issuer log).or (discovered documents issuer e) := by
  rw [firstUri, List.filterMap_append, List.head?_append, firstUri]
  cases found : discovered documents issuer e <;> simp [found]

theorem lastKeys_snoc (log : List Exchange) (e : Exchange) :
    lastKeys documents (log ++ [e]) = (fetched documents e).or (lastKeys documents log) := by
  rw [lastKeys, List.filterMap_append, List.getLast?_append, lastKeys]
  cases found : fetched documents e <;> simp [found]

theorem exists_of_lastKeys {log : List Exchange} {set : List Jwk}
    (last : lastKeys documents log = some set) : ∃ e ∈ log, fetched documents e = some set :=
  List.mem_filterMap.mp (List.mem_of_getLast? last)

theorem Disciplined.snoc {log : List Exchange} {e : Exchange}
    (disciplined : Disciplined documents issuer log)
    (now : (e.document, e.url) = due documents issuer log) :
    Disciplined documents issuer (log ++ [e]) := by
  intro before other after whole
  rcases List.eq_nil_or_concat after with rfl | ⟨after, last, rfl⟩
  · obtain ⟨rfl, same⟩ := List.append_inj' whole rfl
    cases same
    exact now
  · rw [List.concat_eq_append, ← List.cons_append, ← List.append_assoc] at whole
    exact disciplined _ _ _ (List.append_inj' whole rfl).1

/-! ### What the task keeps -/

/-- Between attempts, after so many of them. -/
structure Idle (attempts : Nat) (log : List Exchange) : Prop where
  closed : asked log = false
  count : fetches log = attempts

theorem idle_snoc {log : List Exchange} {url : String} {reply : IssuerReply} :
    Idle (fetches log + 1) (log ++ [⟨.keys, url, reply⟩]) := by
  constructor
  · rw [asked, List.getLast?_concat]
    rfl
  · rw [fetches, List.countP_append]
    rfl

/-- Where a fetch leaves the cache: new keys are still to be stored. -/
structure Brought (documents : IssuerDocuments Jwk) (issuer : String) (result : Except String (List Jwk))
    (before : Option (List Jwk)) (attempts : Nat) (c : JwksCache Jwk) : Prop where
  uri : c.jwksUri = firstUri documents issuer c.log
  keys : lastKeys documents c.log = result.toOption.or before
  kept : c.inner = before
  idle : Idle attempts c.log

theorem fetchJwks_meets {c : JwksCache Jwk} {url : String} {attempts : Nat}
    (settled : Settled documents issuer c) (now : (.keys, url) = due documents issuer c.log)
    (count : fetches c.log = attempts) :
    (fetchJwks documents url).Meets (rule documents issuer) c
      fun result after => Brought documents issuer result c.inner (attempts + 1) after := by
  refine ⟨settled, now, fun reply => ?_⟩
  refine ⟨?_, ?_, rfl, count ▸ idle_snoc⟩
  · rw [firstUri_snoc, settled.uri]
    exact (Option.or_none ..).symm
  · rw [lastKeys_snoc, settled.keys]
    rfl

theorem resolveAndFetch_meets {c : JwksCache Jwk} {attempts : Nat}
    (settled : Settled documents issuer c) (idle : Idle attempts c.log) :
    (resolveAndFetch documents issuer).Meets (rule documents issuer) c
      fun result after => Brought documents issuer result c.inner (attempts + 1) after := by
  obtain ⟨inner, jwksUri, log⟩ := c
  cases jwksUri with
  | some uri =>
      have known : firstUri documents issuer log = some uri := settled.uri.symm
      refine fetchJwks_meets settled ?_ idle.count
      simp only [due, known]
  | none =>
      have first : firstUri documents issuer log = none := settled.uri.symm
      have opening : (.metadata, discoveryUrl issuer) = due documents issuer log := by
        simp only [due, first, idle.closed, Bool.false_eq_true, if_false]
      refine ⟨settled, opening, fun reply => ?_⟩
      have kept : inner = lastKeys documents (log ++ [⟨.metadata, discoveryUrl issuer, reply⟩]) := by
        rw [lastKeys_snoc]
        exact settled.keys
      have grown : firstUri documents issuer (log ++ [⟨.metadata, discoveryUrl issuer, reply⟩]) =
          (readMetadata documents issuer reply).toOption := by
        rw [firstUri_snoc, first]
        rfl
      have pending : asked (log ++ [⟨.metadata, discoveryUrl issuer, reply⟩]) = true := by
        rw [asked, List.getLast?_concat]
        rfl
      have count : fetches (log ++ [⟨.metadata, discoveryUrl issuer, reply⟩]) = attempts := by
        rw [fetches, List.countP_append]
        exact idle.count
      change (fetchDiscovered documents issuer (readMetadata documents issuer reply)).Meets _ _ _
      cases outcome : readMetadata documents issuer reply with
      | ok uri =>
          rw [outcome] at grown
          -- The address is stored before the keys are asked for.
          refine fetchJwks_meets (c := { inner, jwksUri := some uri, log := _ }) ⟨kept, grown.symm⟩
            ?_ count
          simp only [due, grown, Except.toOption]
      | error e =>
          rw [outcome] at grown
          refine fetchJwks_meets (c := { inner, jwksUri := none, log := _ }) ⟨kept, grown.symm⟩
            ?_ count
          simp only [due, grown, pending, Except.toOption, if_true]

/-- What the task guarantees when it ends: without the leave to start degraded there are keys. -/
structure Ready (documents : IssuerDocuments Jwk) (issuer : String) (startDegraded : Bool)
    (attempts : Nat) (result : Except AppError Unit) (c : JwksCache Jwk) : Prop where
  settled : Settled documents issuer c
  idle : Idle attempts c.log
  seeded : result = .ok () → startDegraded = false → c.inner ≠ none

theorem Brought.store {set : List Jwk} {before : Option (List Jwk)} {attempts : Nat}
    {c : JwksCache Jwk} (brought : Brought documents issuer (.ok set) before attempts c) :
    (∃ e ∈ c.log, fetched documents e = some set) ∧
      Settled documents issuer { c with inner := some set } :=
  ⟨exists_of_lastKeys brought.keys, brought.keys.symm, brought.uri⟩

theorem Brought.settled {e : String} {before : Option (List Jwk)} {attempts : Nat}
    {c : JwksCache Jwk} (brought : Brought documents issuer (.error e) before attempts c) :
    Settled documents issuer c :=
  ⟨brought.kept.trans brought.keys.symm, brought.uri⟩

theorem rule_mono (call : CacheCall Jwk) (c : JwksCache Jwk) (P Q : call.Answer → JwksCache Jwk → Prop)
    (implies : ∀ answer after, P answer after → Q answer after)
    (holds : rule documents issuer call c P) :
    rule documents issuer call c Q := by
  cases call with
  | get => exact ⟨holds.1, holds.2.1, fun reply => implies _ _ (holds.2.2 reply)⟩
  | loadJwksUri => exact implies _ _ holds
  | storeJwksUri => exact implies _ _ holds
  | storeInner => exact ⟨holds.1, implies _ _ holds.2⟩

theorem boot_meets {c : JwksCache Jwk} {startDegraded : Bool} {attempts : Nat}
    (settled : Settled documents issuer c) (idle : Idle attempts c.log) :
    (boot documents issuer startDegraded).Meets (rule documents issuer) c
      (Ready documents issuer startDegraded (attempts + 1)) := by
  refine Prog.meets_bind.mpr
    ((resolveAndFetch_meets settled idle).mono rule_mono fun result after brought => ?_)
  cases result with
  | ok set =>
      obtain ⟨origin, stored⟩ := brought.store
      exact ⟨origin, stored, brought.idle, fun _ _ => Option.some_ne_none set⟩
  | error e =>
      cases startDegraded with
      | true => exact ⟨brought.settled, brought.idle, fun _ strict => Bool.noConfusion strict⟩
      | false => exact ⟨brought.settled, brought.idle, fun failed _ => by cases failed⟩

theorem refreshQuiet_meets {c : JwksCache Jwk} {startDegraded : Bool} {attempts : Nat}
    (ready : Ready documents issuer startDegraded attempts (.ok ()) c) :
    (refreshQuiet documents issuer).Meets (rule documents issuer) c
      (Ready documents issuer startDegraded (attempts + 1)) := by
  refine Prog.meets_bind.mpr
    ((resolveAndFetch_meets ready.settled ready.idle).mono rule_mono fun result after brought => ?_)
  cases result with
  | ok set =>
      obtain ⟨origin, stored⟩ := brought.store
      exact ⟨origin, stored, brought.idle, fun _ _ => Option.some_ne_none set⟩
  | error e =>
      exact ⟨brought.settled, brought.idle, fun _ strict => brought.kept ▸ ready.seeded rfl strict⟩

end JwksCache

/-! ### Runs -/

namespace CacheState

open JwksCache

variable {Jwk : Type} {documents : IssuerDocuments Jwk} {issuer : String} {startDegraded : Bool}
  {s t : CacheState Jwk} {events : List CacheEvent}

/-- The attempts that the server has begun: that of its boot, and one for each interval. -/
def attempts (events : List CacheEvent) : Nat := 1 + events.countP CacheEvent.isTick

structure Sound (documents : IssuerDocuments Jwk) (issuer : String) (startDegraded : Bool)
    (attempts : Nat) (s : CacheState Jwk) : Prop where
  task : s.task.Meets (rule documents issuer) s.cache
    (Ready documents issuer startDegraded attempts)
  disciplined : Disciplined documents issuer s.cache.log
  origin : ∀ set, s.cache.inner = some set → ∃ e ∈ s.cache.log, fetched documents e = some set
  seeded : s.serving = true → startDegraded = false → s.cache.inner ≠ none

theorem sound_start :
    Sound documents issuer startDegraded 1 (start documents issuer startDegraded) where
  task := boot_meets ⟨rfl, rfl⟩ ⟨rfl, rfl⟩
  disciplined before e after whole := by cases before <;> cases whole
  origin set stored := by cases stored
  seeded serving := by cases serving

theorem Sound.step {e : CacheEvent} (sound : Sound documents issuer startDegraded (attempts events) s)
    (stepped : CacheState.step documents issuer e s = some t) :
    Sound documents issuer startDegraded (attempts (events ++ [e])) t := by
  have task := sound.task
  have same (other : [e].countP CacheEvent.isTick = 0) :
      attempts (events ++ [e]) = attempts events := by
    rw [attempts, List.countP_append, other]
    rfl
  cases moves_of_step stepped with
  | @answer document url next asked reply =>
      rw [asked] at task
      rw [same rfl]
      obtain ⟨_, now, rest⟩ := task
      refine ⟨rest reply, sound.disciplined.snoc now, fun set stored => ?_, sound.seeded⟩
      obtain ⟨e, member, brought⟩ := sound.origin set stored
      exact ⟨e, List.mem_append_left _ member, brought⟩
  | @loadUri next ready =>
      rw [ready] at task
      rw [same rfl]
      exact ⟨task, sound.disciplined, sound.origin, sound.seeded⟩
  | @storeUri uri next ready =>
      rw [ready] at task
      rw [same rfl]
      exact ⟨task, sound.disciplined, sound.origin, sound.seeded⟩
  | @storeInner set next ready =>
      rw [ready] at task
      rw [same rfl]
      obtain ⟨brought, rest⟩ := task
      refine ⟨rest, sound.disciplined, fun other stored => ?_, fun _ _ => Option.some_ne_none set⟩
      cases stored
      exact brought
  | serve booted =>
      rw [booted] at task
      rw [same rfl]
      exact ⟨sound.task, sound.disciplined, sound.origin, fun _ => task.seeded rfl⟩
  | tick rests =>
      rw [rests] at task
      have more : attempts (events ++ [.tick]) = attempts events + 1 := by
        rw [attempts, List.countP_append, attempts, Nat.add_assoc]
        rfl
      rw [more]
      exact ⟨refreshQuiet_meets task, sound.disciplined, sound.origin, sound.seeded⟩

theorem sound_of_run
    (run : Machine.Run (CacheState.step documents issuer) Machine.Anything
      (start documents issuer startDegraded) events s) :
    Sound documents issuer startDegraded (attempts events) s := by
  induction run with
  | nil => exact sound_start
  | snoc _ _ stepped ih => exact ih.step stepped

/-- The task is at rest or waits for the issuer. -/
def Awaits (s : CacheState Jwk) : Prop :=
  (∃ result, s.task = .done result) ∨ ∃ document url next, s.task = .act (.get document url) next

theorem Sound.settled (sound : Sound documents issuer startDegraded (attempts events) s)
    (awaits : s.Awaits) :
    Settled documents issuer s.cache := by
  have task := sound.task
  rcases awaits with ⟨result, rests⟩ | ⟨document, url, next, asked⟩
  · rw [rests] at task
    exact task.settled
  · rw [asked] at task
    exact task.1

/-- A refresh that fails takes no keys away, and the cache never holds others than the last that
the issuer sent. Every attempt fetches the keys once, and asks for their address before until the
first answer and never again; a server that may not start degraded has keys from its first request
on. -/
theorem keys_of_run
    (run : Machine.Run (CacheState.step documents issuer) Machine.Anything
      (start documents issuer startDegraded) events s) :
    Disciplined documents issuer s.cache.log ∧
      (∀ result, s.task = .done result → Idle (attempts events) s.cache.log) ∧
      (∀ set, s.cache.inner = some set → ∃ e ∈ s.cache.log, fetched documents e = some set) ∧
      (s.Awaits → s.cache.inner = lastKeys documents s.cache.log ∧
        s.cache.jwksUri = firstUri documents issuer s.cache.log) ∧
      (s.serving = true → startDegraded = false → s.cache.inner ≠ none) := by
  have sound := sound_of_run run
  refine ⟨sound.disciplined, fun result rests => ?_, sound.origin, fun awaits => ?_, sound.seeded⟩
  · have task := sound.task
    rw [rests] at task
    exact task.idle
  · have settled := sound.settled awaits
    exact ⟨settled.keys, settled.uri⟩

/-- An issuer whose documents name its keys and hold none. -/
def emptyIssuer : IssuerDocuments String where
  metadata _ := .ok "https://issuer.test/keys"
  jwkSet _ := .ok []

def okReply (body : String) : IssuerReply := .ok { status := ⟨200, "200 OK"⟩, body := .ok body }

/-- An attempt that succeeds. -/
def attempt : List CacheEvent :=
  [.advance, .answer (okReply "\x7b\"jwks_uri\":\"https://issuer.test/keys\"\x7d"), .advance,
    .answer (okReply "\x7b\"keys\":[]\x7d"), .advance]

/-- A boot that fails, and a refresh that does not. -/
def recovery : List CacheEvent :=
  [.advance, .answer (.error "connection refused"), .answer (.error "connection refused"), .serve,
    .tick] ++ attempt

def reached (startDegraded : Bool) (events : List CacheEvent) : CacheState String :=
  (Machine.exec (CacheState.step emptyIssuer "https://issuer.test") Machine.Anything events
    (start emptyIssuer "https://issuer.test" startDegraded)).getD
      (start emptyIssuer "https://issuer.test" startDegraded)

theorem attempt_run : Machine.Run (CacheState.step emptyIssuer "https://issuer.test") Machine.Anything
    (start emptyIssuer "https://issuer.test" false) attempt (reached false attempt) :=
  Machine.run_of_exec rfl

theorem recovery_run :
    Machine.Run (CacheState.step emptyIssuer AuthState.namedScopes.normalize.issuer) Machine.Anything
      (start emptyIssuer AuthState.namedScopes.normalize.issuer
        AuthState.namedScopes.normalize.startDegraded) recovery (reached true recovery) :=
  Machine.run_of_exec rfl

theorem recovery_rests : (reached true recovery).Awaits := .inl ⟨.ok (), rfl⟩

theorem keys_of_run_attempt :
    let s := reached false attempt
    Disciplined emptyIssuer "https://issuer.test" s.cache.log ∧
      (∀ result, s.task = .done result → Idle (attempts attempt) s.cache.log) ∧
      (∀ set, s.cache.inner = some set → ∃ e ∈ s.cache.log, fetched emptyIssuer e = some set) ∧
      (s.Awaits → s.cache.inner = lastKeys emptyIssuer s.cache.log ∧
        s.cache.jwksUri = firstUri emptyIssuer "https://issuer.test" s.cache.log) ∧
      (s.serving = true → false = false → s.cache.inner ≠ none) :=
  keys_of_run attempt_run

section
variable [JsonText] {Key : Type} (jwt : JwtLibrary Jwk Key) {raw config : AuthConfig}

/-- What a caller may do at any moment depends on the last keys that the issuer sent, and on the
scopes as they were configured, up to the case of their letters. -/
theorem access_of_run (loaded : raw.load = .ok config) (enabled : config.enabled = true)
    (run : Machine.Run (CacheState.step documents config.issuer) Machine.Anything
      (start documents config.issuer config.startDegraded) events s) (awaits : s.Awaits)
    (adminToken : AdminToken) (request : HttpRequest) :
    GuardedBy jwt raw config adminToken s.cache.inner (lastKeys documents s.cache.log) request := by
  have settled := (sound_of_run run).settled awaits
  rw [← settled.keys]
  exact guardedBy_of_load jwt loaded enabled adminToken s.cache.inner request

end

/-- A library that is given no token it could read. -/
def noTokens : JwtLibrary String Unit where
  decodeHeader _ := .error "InvalidToken"
  keyId _ := none
  fromJwk _ := .ok ()
  decode _ _ _ := .error "InvalidToken"

theorem namedScopes_load :
    AuthState.namedScopes.load = .ok AuthState.namedScopes.normalize := rfl

theorem access_of_run_recovery : let _ := unusedJsonText
    GuardedBy noTokens AuthState.namedScopes AuthState.namedScopes.normalize ⟨none, by decide⟩
      (reached true recovery).cache.inner
      (lastKeys emptyIssuer (reached true recovery).cache.log)
      { authorization := some "Bearer abc" } := by
  intro _
  exact access_of_run noTokens namedScopes_load rfl recovery_run recovery_rests _ _

end CacheState
end Datapress
