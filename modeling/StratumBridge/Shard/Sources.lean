import StratumBridge.Data.Latest
import StratumBridge.Http.Client
import StratumBridge.Setup.Wizard
import StratumBridge.Transition.Run
import StratumBridge.Wire.Format

/-!
# Where models come from

`ModelSourceConfig`: the entries of the operator come first and the catalog of the
marketplace after them.  What the catalog says of a model is kept for five minutes; a
lookup that fails is not kept at all, and lookups that overlap each ask the catalog.

The requests, the entries received and the answers are history that nothing reads; each
is kept with the number of entries that had been received before it.
-/

namespace StratumBridge.Shard

open Data Http Rpc Setup Transition Wire
open Data.Field (required)

/-! ## Entries -/

/-- `ModelSource` as JSON. -/
def modelSource : Record String Value ModelSource :=
  (Record.cons (required "gguf_url" string) <|
    .cons (required "tokenizer_url" string) <|
    .single (required "tokenizer_sha256" string)).as
  ⟨fun (ggufUrl, tokenizerUrl, tokenizerSha256) => ⟨ggufUrl, tokenizerUrl, tokenizerSha256⟩,
    fun source => (source.ggufUrl, source.tokenizerUrl, source.tokenizerSha256),
    fun _ => rfl, fun _ => rfl⟩

/-- An entry that is read from a text; there a field that is repeated is an error. -/
def readModelSource : Value → Option ModelSource
  | .object fields =>
      if ((fields.map Prod.fst).filter (· ∈ modelSource.names)).Nodup then
        modelSource.codec.read (.object fields)
      else
        none
  | value => modelSource.codec.read value

/-- `HashMap<String, ModelSource>`: one entry that cannot be read spoils them all. -/
def readSources : Value → Option (PartialMap String ModelSource)
  | .object fields =>
      (fields.mapM fun field => (readModelSource field.2).map (field.1, ·)).map latest
  | _ => none

/-- `MARKETPLACE_CACHE_TTL`, in milliseconds. -/
def marketplaceCacheTtl : Nat :=
  300 * 1000

/-- `MarketplaceClient`: every entry is kept with the time of its receipt. -/
structure MarketplaceClient where
  baseUrl : String
  token : String
  cache : IndexMap String (ModelSource × Nat)

/-- `ModelSourceConfig`. -/
structure ModelSourceConfig where
  sources : PartialMap String ModelSource
  marketplace : Option MarketplaceClient

/-- `ModelSourceConfig::from_env`, given what `serde_json` makes of a text. -/
def ModelSourceConfig.fromEnv (parse : String → Option Value) (env : Environment) :
    ModelSourceConfig where
  sources :=
    let raw := (env "MODEL_SOURCES_JSON").getD ""
    if trim raw = "" then .empty else ((parse raw).bind readSources).getD .empty
  marketplace :=
    ((env "CS_MARKETPLACE_URL").filter fun url => trim url ≠ "").map fun baseUrl =>
      ⟨baseUrl, (env "CS_MARKETPLACE_TOKEN").getD "", .empty⟩

/-- The address of a model in the catalog. -/
def MarketplaceClient.url (client : MarketplaceClient) (modelId : String) : String :=
  String.ofList (trimEnd (· = '/') client.baseUrl.toList) ++ "/api/models/" ++ modelId

/-- What is still fresh. -/
def fresh (now : Nat) (entry : ModelSource × Nat) : Option ModelSource :=
  if now - entry.2 < marketplaceCacheTtl then some entry.1 else none

/-! ## Lookups -/

/-- One call of `resolve`. -/
abbrev LookupTicket := Nat

/-- A request to the catalog. -/
structure CatalogRequest where
  modelId : String
  url : String
  token : String
  sentAt : Nat
  known : Nat

/-- What a call returned. -/
structure LookupAnswer where
  modelId : String
  source : Option ModelSource
  answeredAt : Nat
  known : Nat

/-- The configuration with its calls, a clock and the history. -/
structure Lookups where
  config : ModelSourceConfig
  now : Nat
  waiting : PartialMap LookupTicket String
  received : List (String × (ModelSource × Nat))
  requests : List CatalogRequest
  answers : List LookupAnswer

/-- A call is made, the catalog replies to one, or time passes. -/
inductive LookupEvent
  | resolve (ticket : LookupTicket) (modelId : String)
  | replied (ticket : LookupTicket) (reply : Reply (Option Value))
  | passed (elapsed : Nat)

namespace Lookups

/-- At startup. -/
def new (config : ModelSourceConfig) : Lookups where
  config := config
  now := 0
  waiting := .empty
  received := []
  requests := []
  answers := []

/-- A call returns. -/
def answer (modelId : String) (source : Option ModelSource) (lookups : Lookups) : Lookups :=
  { lookups with
    answers := lookups.answers ++ [⟨modelId, source, lookups.now, lookups.received.length⟩] }

/-- `MarketplaceClient::resolve` up to its request. -/
def ask (ticket : LookupTicket) (modelId : String) (client : MarketplaceClient)
    (lookups : Lookups) : Lookups :=
  match (client.cache.get? modelId).bind (fresh lookups.now) with
  | some source => lookups.answer modelId (some source)
  | none =>
      { lookups with
        waiting := lookups.waiting.insert ticket modelId
        requests := lookups.requests ++
          [⟨modelId, client.url modelId, client.token, lookups.now, lookups.received.length⟩] }

/-- `ModelSourceConfig::resolve` up to the request. -/
def resolve (ticket : LookupTicket) (modelId : String) (lookups : Lookups) : Lookups :=
  match lookups.config.sources modelId with
  | some source => lookups.answer modelId (some source)
  | none =>
      match lookups.config.marketplace with
      | none => lookups.answer modelId none
      | some client => lookups.ask ticket modelId client

/-- The entry in a reply. -/
def entryOf : Reply (Option Value) → Option ModelSource
  | .unreachable _ => none
  | .answered status body => if status.isSuccess then body.bind readModelSource else none

/-- An entry of the catalog is kept. -/
def keep (modelId : String) (source : ModelSource) (lookups : Lookups) : Lookups :=
  { lookups with
    config :=
      { lookups.config with
        marketplace := lookups.config.marketplace.map fun client =>
          { client with cache := client.cache.insert modelId (source, lookups.now) } }
    received := lookups.received ++ [(modelId, (source, lookups.now))] }

/-- `MarketplaceClient::resolve` after its request. -/
def resumeReplied (ticket : LookupTicket) (reply : Reply (Option Value)) (lookups : Lookups) :
    Lookups :=
  match lookups.waiting ticket with
  | none => lookups
  | some modelId =>
      let resumed := { lookups with waiting := lookups.waiting.remove ticket }
      match entryOf reply with
      | none => resumed.answer modelId none
      | some source => (resumed.keep modelId source).answer modelId (some source)

/-- One event. -/
def next (lookups : Lookups) : LookupEvent → Lookups
  | .resolve ticket modelId => lookups.resolve ticket modelId
  | .replied ticket reply => lookups.resumeReplied ticket reply
  | .passed elapsed => { lookups with now := lookups.now + elapsed }

/-- Calls have tickets of their own, and only calls that wait are replied to. -/
def enabled (lookups : Lookups) : LookupEvent → Prop
  | .resolve ticket _ => lookups.waiting ticket = none
  | .replied ticket _ => lookups.waiting ticket ≠ none
  | .passed _ => True

/-- The lookups as a system of events. -/
def system : System Lookups LookupEvent where
  enabled := enabled
  next := next

variable {start : ModelSourceConfig} {lookups finish : Lookups} {events : List LookupEvent}
  {modelId : String} {source : ModelSource} {ticket : LookupTicket}

/-! ## Answers and requests -/

/-- What had been received of a model is too old, or there is nothing. -/
def Stale (received : List (String × (ModelSource × Nat))) (modelId : String) (now : Nat) : Prop :=
  ∀ source receivedAt, latest received modelId = some (source, receivedAt) →
    receivedAt + marketplaceCacheTtl ≤ now

/-- The latest that had been received of a model was received so recently. -/
def Current (received : List (String × (ModelSource × Nat))) (modelId : String) (now : Nat)
    (source : ModelSource) : Prop :=
  ∃ receivedAt, latest received modelId = some (source, receivedAt) ∧ receivedAt ≤ now ∧
    now < receivedAt + marketplaceCacheTtl

/-- The operator's entry is the answer if there is one, and otherwise an answer that is
not missing is the catalog's latest. -/
def AnswersFrom (start : ModelSourceConfig) (received : List (String × (ModelSource × Nat)))
    (answer : LookupAnswer) : Prop :=
  match start.sources answer.modelId with
  | some source => answer.source = some source
  | none =>
      ∀ source, answer.source = some source →
        Current (received.take answer.known) answer.modelId answer.answeredAt source

/-- The marketplace is asked, for a model that the operator has no entry for and of which
nothing fresh was known. -/
def AsksFor (start : ModelSourceConfig) (received : List (String × (ModelSource × Nat)))
    (request : CatalogRequest) : Prop :=
  start.sources request.modelId = none ∧
    (∃ client, start.marketplace = some client ∧ request.url = client.url request.modelId ∧
      request.token = client.token) ∧
    Stale (received.take request.known) request.modelId request.sentAt

/-- The client of the marketplace remembers what was received. -/
structure Serves (start : ModelSourceConfig) (received : List (String × (ModelSource × Nat)))
    (client : MarketplaceClient) : Prop where
  remembers : Remembers client.cache received
  configured : ∃ first, start.marketplace = some first ∧ client.baseUrl = first.baseUrl ∧
    client.token = first.token

/-- The answers and the requests so far are as they should be. -/
structure Sound (start : ModelSourceConfig) (lookups : Lookups) : Prop where
  sources : lookups.config.sources = start.sources
  absent : lookups.config.marketplace = none ↔ start.marketplace = none
  serves : ∀ client, lookups.config.marketplace = some client →
    Serves start lookups.received client
  unlisted : ∀ ticket modelId, lookups.waiting ticket = some modelId →
    start.sources modelId = none
  past : ∀ entry ∈ lookups.received, entry.2.2 ≤ lookups.now
  answered : ∀ answer ∈ lookups.answers, answer.known ≤ lookups.received.length ∧
    AnswersFrom start lookups.received answer
  asked : ∀ request ∈ lookups.requests, request.known ≤ lookups.received.length ∧
    AsksFor start lookups.received request

/-- What was known before stays the same when more is received. -/
theorem take_known {received more : List (String × (ModelSource × Nat))} {known : Nat}
    (before : known ≤ received.length) : (received ++ more).take known = received.take known :=
  List.take_append_of_le_length before

theorem AnswersFrom.append {answer : LookupAnswer}
    {received more : List (String × (ModelSource × Nat))}
    (answers : AnswersFrom start received answer) (before : answer.known ≤ received.length) :
    AnswersFrom start (received ++ more) answer := by
  rw [AnswersFrom, take_known before]
  exact answers

theorem AsksFor.append {request : CatalogRequest}
    {received more : List (String × (ModelSource × Nat))}
    (asks : AsksFor start received request) (before : request.known ≤ received.length) :
    AsksFor start (received ++ more) request := by
  rw [AsksFor, take_known before]
  exact asks

/-- What is fresh was received lately. -/
theorem fresh_eq_some_iff {now : Nat} {entry : ModelSource × Nat} (past : entry.2 ≤ now) :
    fresh now entry = some source ↔
      entry.1 = source ∧ now < entry.2 + marketplaceCacheTtl := by
  have elapsed : now - entry.2 < marketplaceCacheTtl ↔ now < entry.2 + marketplaceCacheTtl := by
    omega
  simp only [fresh, elapsed]
  split_ifs with recent <;> simp [recent]

theorem fresh_eq_none_iff {now : Nat} {entry : ModelSource × Nat} (past : entry.2 ≤ now) :
    fresh now entry = none ↔ entry.2 + marketplaceCacheTtl ≤ now := by
  rw [fresh]
  split_ifs with recent <;> simp <;> omega

theorem sound_new {start : ModelSourceConfig}
    (empty : ∀ client, start.marketplace = some client → client.cache = .empty) :
    (new start).Sound start where
  sources := rfl
  absent := Iff.rfl
  serves client configured :=
    ⟨empty client configured ▸ remembers_empty, client, configured, rfl, rfl⟩
  unlisted _ _ waits := absurd waits (Option.some_ne_none _).symm
  past _ mem := absurd mem List.not_mem_nil
  answered _ mem := absurd mem List.not_mem_nil
  asked _ mem := absurd mem List.not_mem_nil

theorem Sound.answer {answered : Option ModelSource} (sound : lookups.Sound start)
    (answers : AnswersFrom start lookups.received
      ⟨modelId, answered, lookups.now, lookups.received.length⟩) :
    (lookups.answer modelId answered).Sound start where
  sources := sound.sources
  absent := sound.absent
  serves := sound.serves
  unlisted := sound.unlisted
  past := sound.past
  answered each mem := by
    rcases List.mem_append.mp mem with old | new
    · exact sound.answered each old
    · cases List.mem_singleton.mp new
      exact ⟨Nat.le_refl _, answers⟩
  asked := sound.asked

/-- The cache gives what is current, or there is nothing current. -/
theorem Sound.cached {client : MarketplaceClient} (sound : lookups.Sound start)
    (modelId : String) (configured : lookups.config.marketplace = some client) :
    match (client.cache.get? modelId).bind (fresh lookups.now) with
    | some source => Current lookups.received modelId lookups.now source
    | none => Stale lookups.received modelId lookups.now := by
  have remembers := (sound.serves client configured).remembers modelId
  rw [remembers]
  cases known : latest lookups.received modelId with
  | none =>
      intro source receivedAt found
      rw [known] at found
      cases found
  | some entry =>
      have past : entry.2 ≤ lookups.now := sound.past _ (mem_of_latest known)
      rw [Option.bind_some]
      cases found : fresh lookups.now entry with
      | some source =>
          obtain ⟨rfl, recent⟩ := (fresh_eq_some_iff past).mp found
          exact ⟨entry.2, known, past, recent⟩
      | none =>
          intro source receivedAt again
          cases known.symm.trans again
          exact (fresh_eq_none_iff past).mp found

theorem Sound.resolve (sound : lookups.Sound start) :
    (lookups.resolve ticket modelId).Sound start := by
  unfold Lookups.resolve
  rw [sound.sources]
  cases listed : start.sources modelId with
  | some source => exact sound.answer (by simp [AnswersFrom, listed])
  | none =>
      cases configured : lookups.config.marketplace with
      | none => exact sound.answer (by simp [AnswersFrom, listed])
      | some client =>
          have cached := sound.cached modelId configured
          dsimp only [ask]
          cases found : (client.cache.get? modelId).bind (fresh lookups.now) with
          | some source =>
              rw [found] at cached
              refine sound.answer ?_
              simp only [AnswersFrom, listed, List.take_length, Option.some.injEq]
              rintro other rfl
              exact cached
          | none =>
              rw [found] at cached
              refine ⟨sound.sources, sound.absent, sound.serves, ?_, sound.past, sound.answered, ?_⟩
              · intro other waiter waits
                rcases PartialMap.of_insert_eq_some waits with ⟨-, rfl⟩ | ⟨-, waits⟩
                · exact listed
                · exact sound.unlisted other waiter waits
              · intro request mem
                rcases List.mem_append.mp mem with old | new
                · exact sound.asked request old
                · cases List.mem_singleton.mp new
                  obtain ⟨first, was, sameUrl, sameToken⟩ :=
                    (sound.serves client configured).configured
                  refine ⟨Nat.le_refl _, listed, ⟨first, was, ?_, sameToken⟩, ?_⟩
                  · simp only [MarketplaceClient.url, sameUrl]
                  · rw [List.take_length]
                    exact cached

theorem Sound.keep (sound : lookups.Sound start) : (lookups.keep modelId source).Sound start where
  sources := sound.sources
  absent := Option.map_eq_none_iff.trans sound.absent
  serves client configured := by
    obtain ⟨before, was, rfl⟩ := Option.map_eq_some_iff.mp configured
    have serves := sound.serves before was
    exact ⟨serves.remembers.insert (modelId, (source, lookups.now)), serves.configured⟩
  unlisted := sound.unlisted
  past entry mem := by
    rcases List.mem_append.mp mem with old | new
    · exact sound.past entry old
    · cases List.mem_singleton.mp new
      exact Nat.le_refl _
  answered answer mem := by
    obtain ⟨before, answers⟩ := sound.answered answer mem
    refine ⟨?_, answers.append before⟩
    exact before.trans (List.length_append ▸ Nat.le_add_right ..)
  asked request mem := by
    obtain ⟨before, asks⟩ := sound.asked request mem
    refine ⟨?_, asks.append before⟩
    exact before.trans (List.length_append ▸ Nat.le_add_right ..)

theorem Sound.resumeReplied (sound : lookups.Sound start) {reply : Reply (Option Value)} :
    (lookups.resumeReplied ticket reply).Sound start := by
  unfold Lookups.resumeReplied
  cases held : lookups.waiting ticket with
  | none => exact sound
  | some modelId =>
      have listed := sound.unlisted ticket modelId held
      have resumed : Sound start { lookups with waiting := lookups.waiting.remove ticket } :=
        ⟨sound.sources, sound.absent, sound.serves, fun other waiter waits =>
          sound.unlisted other waiter (PartialMap.of_remove_eq_some waits).2,
          sound.past, sound.answered, sound.asked⟩
      dsimp only
      cases entryOf reply with
      | none => exact resumed.answer (by simp [AnswersFrom, listed])
      | some source =>
          refine resumed.keep.answer ?_
          simp only [AnswersFrom, listed, List.take_length, Option.some.injEq]
          rintro other rfl
          have ttl : 0 < marketplaceCacheTtl := by decide
          refine ⟨lookups.now, ?_, Nat.le_refl _, Nat.lt_add_of_pos_right ttl⟩
          exact (latest_snoc ..).trans (if_pos rfl)

theorem Sound.next (sound : lookups.Sound start) (event : LookupEvent) :
    (lookups.next event).Sound start := by
  cases event with
  | resolve ticket modelId => exact sound.resolve
  | replied ticket reply => exact sound.resumeReplied
  | passed elapsed =>
      exact ⟨sound.sources, sound.absent, sound.serves, sound.unlisted,
        fun entry mem => (sound.past entry mem).trans (Nat.le_add_right ..), sound.answered,
        sound.asked⟩

theorem sound_fromEnv (parse : String → Option Value) (env : Environment) :
    (new (.fromEnv parse env)).Sound (.fromEnv parse env) := by
  apply sound_new
  intro client configured
  obtain ⟨baseUrl, -, rfl⟩ := Option.map_eq_some_iff.mp configured
  rfl

/-- What a call for a model is answered with at once: the entry of the operator, or else,
with a marketplace, its latest entry while that is younger than five minutes. -/
def Known (start : ModelSourceConfig) (lookups : Lookups) (modelId : String)
    (source : ModelSource) : Prop :=
  start.sources modelId = some source ∨
    start.sources modelId = none ∧ start.marketplace ≠ none ∧
      Current lookups.received modelId lookups.now source

/-- What becomes of a call for a model when it is made, and when the catalog replies. -/
structure Resolves (start : ModelSourceConfig) (lookups : Lookups) (ticket : LookupTicket)
    (modelId : String) : Prop where
  known : ∀ source, Known start lookups modelId source →
    lookups.resolve ticket modelId = lookups.answer modelId (some source)
  unknown : (∀ source, ¬ Known start lookups modelId source) → start.marketplace = none →
    lookups.resolve ticket modelId = lookups.answer modelId none
  asked : (∀ source, ¬ Known start lookups modelId source) → start.marketplace ≠ none →
    (lookups.resolve ticket modelId).answers = lookups.answers ∧
      (lookups.resolve ticket modelId).waiting ticket = some modelId ∧
      ∃ request, (lookups.resolve ticket modelId).requests = lookups.requests ++ [request] ∧
        request.modelId = modelId
  replied : ∀ reply, lookups.waiting ticket = some modelId →
    (lookups.resumeReplied ticket reply).requests = lookups.requests ∧
      (lookups.resumeReplied ticket reply).received = lookups.received ++
        ((entryOf reply).map fun source => (modelId, (source, lookups.now))).toList ∧
      ∃ answer, (lookups.resumeReplied ticket reply).answers = lookups.answers ++ [answer] ∧
        answer.modelId = modelId ∧ answer.source = entryOf reply

/-- Only one entry is current. -/
theorem Current.unique {received : List (String × (ModelSource × Nat))} {now : Nat}
    {other : ModelSource} (current : Current received modelId now source)
    (also : Current received modelId now other) : source = other := by
  obtain ⟨receivedAt, found, -⟩ := current
  obtain ⟨otherAt, again, -⟩ := also
  cases found.symm.trans again
  rfl

/-- Nothing is current once the latest is too old. -/
theorem Stale.not_current {received : List (String × (ModelSource × Nat))} {now : Nat}
    (stale : Stale received modelId now) : ¬ Current received modelId now source := by
  rintro ⟨receivedAt, found, -, recent⟩
  exact Nat.not_lt_of_le (stale source receivedAt found) recent

/-- A call is answered with what is known. -/
theorem Sound.resolve_known (sound : lookups.Sound start)
    (known : Known start lookups modelId source) :
    lookups.resolve ticket modelId = lookups.answer modelId (some source) := by
  rw [Lookups.resolve, sound.sources]
  rcases known with listed | ⟨unlisted, somewhere, current⟩
  · rw [listed]
  · rw [unlisted]
    cases configured : lookups.config.marketplace with
    | none => exact absurd (sound.absent.mp configured) somewhere
    | some client =>
        have cached := sound.cached modelId configured
        dsimp only [ask]
        cases found : (client.cache.get? modelId).bind (fresh lookups.now) with
        | some other =>
            rw [found] at cached
            rw [current.unique cached]
        | none =>
            rw [found] at cached
            exact absurd current cached.not_current

/-- The catalog is asked for what is not known. -/
theorem Sound.resolve_unknown (sound : lookups.Sound start)
    (unknown : ∀ source, ¬ Known start lookups modelId source) :
    (start.marketplace = none ∧
      lookups.resolve ticket modelId = lookups.answer modelId none) ∨
    ∃ request : CatalogRequest, start.marketplace ≠ none ∧ request.modelId = modelId ∧
      lookups.resolve ticket modelId =
        { lookups with
          waiting := lookups.waiting.insert ticket modelId
          requests := lookups.requests ++ [request] } := by
  have unlisted : start.sources modelId = none := by
    cases listed : start.sources modelId with
    | none => rfl
    | some source => exact absurd (.inl listed) (unknown source)
  rw [Lookups.resolve, sound.sources, unlisted]
  cases configured : lookups.config.marketplace with
  | none => exact .inl ⟨sound.absent.mp configured, rfl⟩
  | some client =>
      have somewhere : start.marketplace ≠ none := by
        intro nowhere
        cases (sound.absent.mpr nowhere).symm.trans configured
      have cached := sound.cached modelId configured
      dsimp only [ask]
      cases found : (client.cache.get? modelId).bind (fresh lookups.now) with
      | some source =>
          rw [found] at cached
          exact absurd (.inr ⟨unlisted, somewhere, cached⟩) (unknown source)
      | none => exact .inr ⟨_, somewhere, rfl, rfl⟩

theorem Sound.resolves (sound : lookups.Sound start) (ticket : LookupTicket) (modelId : String) :
    Resolves start lookups ticket modelId where
  known source known := sound.resolve_known known
  unknown unknown nowhere := by
    rcases sound.resolve_unknown unknown with ⟨-, same⟩ | ⟨_, somewhere, -⟩
    · exact same
    · exact absurd nowhere somewhere
  asked unknown somewhere := by
    rcases sound.resolve_unknown unknown with ⟨nowhere, -⟩ | asked
    · exact absurd nowhere somewhere
    · obtain ⟨request, -, same, resolved⟩ := asked
      rw [resolved]
      exact ⟨rfl, PartialMap.insert_self .., request, rfl, same⟩
  replied reply held := by
    rw [Lookups.resumeReplied, held]
    dsimp only
    cases entryOf reply with
    | none => exact ⟨rfl, (List.append_nil _).symm, _, rfl, rfl, rfl⟩
    | some source => exact ⟨rfl, rfl, _, rfl, rfl, rfl⟩

/-- In every run, a call for a model with an entry of the operator is answered with it; a
call for any other with the latest entry that the catalog sent, while that is younger than
five minutes; and only when there is no such entry the catalog is asked, and the call is
answered with the entry in the reply, or with none.  So are all answers and requests. -/
theorem resolves_of_run {parse : String → Option Value} {env : Environment}
    (run : system.Run (new (.fromEnv parse env)) events finish) :
    (∀ ticket modelId, Resolves (.fromEnv parse env) finish ticket modelId) ∧
      (∀ answer ∈ finish.answers, AnswersFrom (.fromEnv parse env) finish.received answer) ∧
      ∀ request ∈ finish.requests, AsksFor (.fromEnv parse env) finish.received request := by
  have sound : finish.Sound (.fromEnv parse env) :=
    run.invariant (sound_fromEnv parse env) fun _ event before _ _ => before.next event
  exact ⟨sound.resolves, fun answer mem => (sound.answered answer mem).2,
    fun request mem => (sound.asked request mem).2⟩

/-! ## Lookups that do not overlap -/

/-- The condition on a step: no call for the model begins while another one waits. -/
def Alone (modelId : String) (lookups : Lookups) : LookupEvent → Prop
  | .resolve _ other => other = modelId → ∀ ticket, lookups.waiting ticket ≠ some modelId
  | _ => True

/-- The entries of the model are received five minutes apart, and a call for it waits only
when the last one is as old. -/
structure Paced (modelId : String) (lookups : Lookups) : Prop where
  alone : ∀ first second, lookups.waiting first = some modelId →
    lookups.waiting second = some modelId → first = second
  stale : ∀ ticket, lookups.waiting ticket = some modelId →
    ∀ entry ∈ lookups.received, entry.1 = modelId →
      entry.2.2 + marketplaceCacheTtl ≤ lookups.now
  spaced : lookups.received.Pairwise fun early late =>
    early.1 = modelId → late.1 = modelId → early.2.2 + marketplaceCacheTtl ≤ late.2.2

theorem paced_new (config : ModelSourceConfig) : Paced modelId (new config) where
  alone _ _ waits := absurd waits (Option.some_ne_none _).symm
  stale _ waits := absurd waits (Option.some_ne_none _).symm
  spaced := .nil

theorem Paced.answer {other : String} {answered : Option ModelSource}
    (paced : Paced modelId lookups) : Paced modelId (lookups.answer other answered) :=
  ⟨paced.alone, paced.stale, paced.spaced⟩

/-- If the latest entry of the model is too old, so are the others. -/
theorem Paced.stale_of_latest (paced : Paced modelId lookups)
    (stale : Stale lookups.received modelId lookups.now) :
    ∀ entry ∈ lookups.received, entry.1 = modelId →
      entry.2.2 + marketplaceCacheTtl ≤ lookups.now := by
  rintro ⟨_, source, receivedAt⟩ mem rfl
  obtain ⟨⟨other, lastAt⟩, last⟩ := Option.isSome_iff_exists.mp
    (latest_isSome_iff.mpr (List.mem_map_of_mem mem))
  have old := stale other lastAt last
  rcases rel_latest (fun early late => early.2 + marketplaceCacheTtl ≤ late.2)
    paced.spaced last mem with same | earlier
  · cases same
    exact old
  · dsimp only at earlier ⊢
    omega

theorem Paced.resolve {other : String} (paced : Paced modelId lookups)
    (sound : lookups.Sound start)
    (alone : other = modelId → ∀ ticket, lookups.waiting ticket ≠ some modelId) :
    Paced modelId (lookups.resolve ticket other) := by
  unfold Lookups.resolve
  cases lookups.config.sources other with
  | some source => exact paced.answer
  | none =>
      cases configured : lookups.config.marketplace with
      | none => exact paced.answer
      | some client =>
          have cached := sound.cached other configured
          dsimp only [ask]
          cases found : (client.cache.get? other).bind (fresh lookups.now) with
          | some source => exact paced.answer
          | none =>
              rw [found] at cached
              refine ⟨?_, ?_, paced.spaced⟩
              · intro first second waits waitsToo
                rcases PartialMap.of_insert_eq_some waits with ⟨rfl, same⟩ | ⟨-, held⟩ <;>
                  rcases PartialMap.of_insert_eq_some waitsToo with ⟨rfl, again⟩ | ⟨-, heldToo⟩
                · rfl
                · exact absurd heldToo (alone same second)
                · exact absurd held (alone again first)
                · exact paced.alone first second held heldToo
              · intro waiter waits
                rcases PartialMap.of_insert_eq_some waits with ⟨-, rfl⟩ | ⟨-, waits⟩
                · exact paced.stale_of_latest cached
                · exact paced.stale waiter waits

theorem Paced.resumeReplied (paced : Paced modelId lookups) {reply : Reply (Option Value)} :
    Paced modelId (lookups.resumeReplied ticket reply) := by
  unfold Lookups.resumeReplied
  cases held : lookups.waiting ticket with
  | none => exact paced
  | some waiter =>
      have alone : ∀ first second, (lookups.waiting.remove ticket) first = some modelId →
          (lookups.waiting.remove ticket) second = some modelId → first = second := by
        intro first second waits waitsToo
        exact paced.alone first second (PartialMap.of_remove_eq_some waits).2
          (PartialMap.of_remove_eq_some waitsToo).2
      dsimp only
      cases entryOf reply with
      | none =>
          refine Paced.answer ⟨alone, ?_, paced.spaced⟩
          intro other waits
          exact paced.stale other (PartialMap.of_remove_eq_some waits).2
      | some source =>
          refine Paced.answer ⟨alone, ?_, ?_⟩
          · intro other waits entry mem same
            obtain ⟨ne, waits⟩ := PartialMap.of_remove_eq_some waits
            rcases List.mem_append.mp mem with old | new
            · exact paced.stale other waits entry old same
            · cases List.mem_singleton.mp new
              exact absurd (paced.alone other ticket waits (same ▸ held)) ne
          · refine List.pairwise_append.mpr ⟨paced.spaced, List.pairwise_singleton .., ?_⟩
            intro early mem late new isEarly isLate
            cases List.mem_singleton.mp new
            exact paced.stale ticket (isLate ▸ held) early mem isEarly

theorem Paced.next (paced : Paced modelId lookups) (sound : lookups.Sound start)
    {event : LookupEvent} (alone : Alone modelId lookups event) :
    Paced modelId (lookups.next event) := by
  cases event with
  | resolve ticket other => exact paced.resolve sound alone
  | replied ticket reply => exact paced.resumeReplied
  | passed elapsed =>
      refine ⟨paced.alone, ?_, paced.spaced⟩
      intro ticket waits entry mem same
      exact (paced.stale ticket waits entry mem same).trans (Nat.le_add_right ..)

/-- Only the call that is made begins to wait. -/
theorem of_waiting_resolve {other : LookupTicket} {waiter : String}
    (waits : (lookups.resolve ticket modelId).waiting other = some waiter) :
    other = ticket ∨ lookups.waiting other = some waiter := by
  unfold Lookups.resolve ask at waits
  split at waits
  · exact .inr waits
  · split at waits
    · exact .inr waits
    · split at waits
      · exact .inr waits
      · exact (PartialMap.of_insert_eq_some waits).imp And.left And.right

/-- Only the call that is replied to stops waiting. -/
theorem of_waiting_resumeReplied {other : LookupTicket} {waiter : String}
    {reply : Reply (Option Value)}
    (waits : (lookups.resumeReplied ticket reply).waiting other = some waiter) :
    other ≠ ticket ∧ lookups.waiting other = some waiter := by
  unfold Lookups.resumeReplied at waits
  split at waits
  · rename_i absent
    refine ⟨?_, waits⟩
    rintro rfl
    cases absent.symm.trans waits
  · dsimp only at waits
    split at waits <;> exact PartialMap.of_remove_eq_some waits

/-- A marketplace and nothing else. -/
def catalogConfig : ModelSourceConfig :=
  .fromEnv (fun _ => none) (PartialMap.empty.insert "CS_MARKETPLACE_URL" "http://catalog/")

/-- A catalog entry. -/
def catalogReply : Reply (Option Value) :=
  .answered ⟨200, "OK"⟩ (some (modelSource.codec.write ⟨"gguf", "tokenizer", "sha"⟩))

/-- A lookup, one that finds the entry, and another one five minutes later; between these
two lookups of another model overlap, and one of them fails. -/
def fiveLookups : List LookupEvent :=
  [.resolve 0 "m", .replied 0 catalogReply, .resolve 1 "m", .resolve 3 "n", .resolve 4 "n",
    .replied 4 catalogReply, .replied 3 (.unreachable "timeout"), .passed marketplaceCacheTtl,
    .resolve 2 "m", .replied 2 catalogReply]

/-- After the first of them. -/
def lookedUp : Lookups :=
  ((new catalogConfig).resolve 0 "m").resumeReplied 0 catalogReply

theorem waiting_lookedUp (ticket : LookupTicket) : lookedUp.waiting ticket ≠ some "m" := by
  intro waits
  obtain ⟨ne, held⟩ := of_waiting_resumeReplied waits
  rcases of_waiting_resolve held with same | before
  · exact ne same
  · exact absurd before (Option.some_ne_none _).symm

/-- After those of the other model. -/
def failedOnce : Lookups :=
  ((((lookedUp.resolve 1 "m").resolve 3 "n").resolve 4 "n").resumeReplied 4
    catalogReply).resumeReplied 3 (.unreachable "timeout")

theorem waiting_failedOnce (ticket : LookupTicket) : failedOnce.waiting ticket ≠ some "m" := by
  intro waits
  obtain ⟨third, waits⟩ := of_waiting_resumeReplied waits
  obtain ⟨fourth, waits⟩ := of_waiting_resumeReplied waits
  rcases of_waiting_resolve waits with same | waits
  · exact fourth same
  · rcases of_waiting_resolve waits with same | waits
    · exact third same
    · rcases of_waiting_resolve waits with rfl | waits
      · revert waits
        decide +kernel
      · exact waiting_lookedUp ticket waits

theorem admits_fiveLookups : system.Admits (Alone "m") (new catalogConfig) fiveLookups := by
  let third := (lookedUp.resolve 1 "m").resolve 3 "n"
  let fourth := third.resolve 4 "n"
  have asked : ((new catalogConfig).resolve 0 "m").waiting 0 ≠ none := by decide +kernel
  have free : ∀ ticket ∈ [1, 3], (lookedUp.waiting ticket = none ∧
      (lookedUp.resolve 1 "m").waiting ticket = none) := by decide +kernel
  have freeToo : third.waiting 4 = none ∧ failedOnce.waiting 2 = none := by decide +kernel
  have askedToo : fourth.waiting 4 ≠ none ∧
      (fourth.resumeReplied 4 catalogReply).waiting 3 ≠ none ∧
        ((failedOnce.next (.passed marketplaceCacheTtl)).resolve 2 "m").waiting 2 ≠ none := by
    decide +kernel
  have other : "n" ≠ "m" := by decide
  exact ⟨⟨rfl, fun _ _ waits => absurd waits (Option.some_ne_none _).symm⟩, ⟨asked, trivial⟩,
    ⟨(free 1 (by decide)).1, fun _ => waiting_lookedUp⟩,
    ⟨(free 3 (by decide)).2, fun same => absurd same other⟩,
    ⟨freeToo.1, fun same => absurd same other⟩, ⟨askedToo.1, trivial⟩, ⟨askedToo.2.1, trivial⟩,
    ⟨trivial, trivial⟩, ⟨freeToo.2, fun _ => waiting_failedOnce⟩, ⟨askedToo.2.2, trivial⟩, trivial⟩

/-- While the calls for one model do not overlap, the catalog's entries for it are received
at least five minutes apart. -/
theorem spaced_of_alone {parse : String → Option Value} {env : Environment}
    (run : system.RunWith (Alone modelId) (new (.fromEnv parse env)) events finish) :
    finish.received.Pairwise fun early late =>
      early.1 = modelId → late.1 = modelId → early.2.2 + marketplaceCacheTtl ≤ late.2.2 := by
  have both : finish.Sound (.fromEnv parse env) ∧ Paced modelId finish :=
    run.invariant (I := fun lookups => lookups.Sound (.fromEnv parse env) ∧ Paced modelId lookups)
      ⟨sound_fromEnv parse env, paced_new _⟩
      fun _ event before _ alone => ⟨before.1.next event, before.2.next before.1 alone⟩
  exact both.2.spaced

/-- An instance of `spaced_of_alone`: two entries in five minutes. -/
theorem spaced_fiveLookups :
    let finish := system.execute (new catalogConfig) fiveLookups
    (finish.received.Pairwise fun early late =>
      early.1 = "m" → late.1 = "m" → early.2.2 + marketplaceCacheTtl ≤ late.2.2) ∧
      finish.received.map Prod.fst = ["m", "n", "m"] :=
  ⟨spaced_of_alone admits_fiveLookups.runWith, by decide +kernel⟩

/-- An instance of `resolves_of_run`: five answers from three entries. -/
theorem resolves_fiveLookups :
    let finish := system.execute (new catalogConfig) fiveLookups
    (∀ ticket modelId, Resolves catalogConfig finish ticket modelId) ∧
      (∀ answer ∈ finish.answers, AnswersFrom catalogConfig finish.received answer) ∧
      (∀ request ∈ finish.requests, AsksFor catalogConfig finish.received request) ∧
      finish.answers.map (fun answer => (answer.modelId, answer.source.isSome)) =
        [("m", true), ("m", true), ("n", true), ("n", false), ("m", true)] ∧
      finish.requests.length = 4 := by
  intro finish
  obtain ⟨calls, answers, requests⟩ := resolves_of_run admits_fiveLookups.runWith.run
  exact ⟨calls, answers, requests, by decide +kernel, by decide +kernel⟩

end Lookups

end StratumBridge.Shard
