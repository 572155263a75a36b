import StratumBridge.Audit.Convictions
import StratumBridge.Audit.Signatures

/-!
# Tampering with stored receipts

An audit replays what the stored row says and punishes the wallet that it names.  A
change to the row goes unnoticed: the audit does not verify the signature, and the
signature leaves out the prompt and the number of layers.
-/

namespace StratumBridge.Audit

open Data Wire Transition Shard

/-- New values for the fields that an audit reads back. -/
structure Edit where
  requestId : RequestId
  minerWallet : Wallet
  modelId : String
  ggufSha256 : String
  promptHex : String
  generatedTokenIdsHex : String
  totalLayers : Int32

/-- The row after the change. -/
def Edit.apply (edit : Edit) (row : B3LiteReceipt) : B3LiteReceipt :=
  { row with
    requestId := edit.requestId
    minerWallet := edit.minerWallet
    modelId := edit.modelId
    ggufSha256 := edit.ggufSha256
    promptHex := edit.promptHex
    generatedTokenIdsHex := edit.generatedTokenIdsHex
    totalLayers := edit.totalLayers }

/-- Where the models are found. -/
abbrev Sources := String → Option ModelSource

namespace B3LiteReceipt

/-- The fields that the signature of a row should be over. -/
def signedFields (row : B3LiteReceipt) : Option ReceiptFields :=
  (decodeTokenIdsHex row.generatedTokenIdsHex).map fun ids =>
    ⟨row.requestId, row.minerWallet, row.modelId, row.ggufSha256, row.responseHash, ids⟩

/-- The signature verifies over the row. -/
def verifies (mac : Mac) (secret : List UInt8) (row : B3LiteReceipt) : Bool :=
  match row.signedFields with
  | none => false
  | some fields => verifyReceipt mac secret fields row.signatureHex

/-- What an auditor is asked, by a line or by a subprocess. -/
def auditRequest (sources : Sources) (row : B3LiteReceipt) :
    Option (OpoiAuditAssign × AuditRequest) :=
  match prepare row (sources row.modelId) with
  | .error _ => none
  | .ok replay => some (replay.assign, replay.request)

end B3LiteReceipt

/-- The effect punishes a wallet. -/
def Effect.punishes : Effect → Bool
  | consequence _ _ _ _ => true
  | banned _ => true
  | _ => false

/-- A step of the audit of one row: no other is listed, and the source of the model is
the one that is found for it. -/
def AuditsOnly (sources : Sources) (auditor : B3LiteAuditor) (stimulus : Stimulus) : Prop :=
  match stimulus.event with
  | .tickBegin => False
  | .resolved source _ =>
      ∀ row rest, auditor.tick = .resolving row rest → source = sources row.modelId
  | _ => True

/-- However the audit of the row goes, nobody is punished. -/
def NoConsequence (sources : Sources) (row : B3LiteReceipt) : Prop :=
  ∀ auditor events finish, auditor.tick = .resolving row [] →
    B3LiteAuditor.system.RunWith (AuditsOnly sources) auditor events finish →
      finish.log.filter Effect.punishes = auditor.log.filter Effect.punishes

/-- A changed row is caught by its signature and leads to no consequence, or what is
audited is what was served. -/
def TamperEvident (mac : Mac) (secret : List UInt8) (sources : Sources)
    (written changed : B3LiteReceipt) : Prop :=
  (changed.verifies mac secret = false ∧ NoConsequence sources changed) ∨
    changed.auditRequest sources = written.auditRequest sources

/-- The row can be replayed. -/
def Replayable (sources : Sources) (row : B3LiteReceipt) : Prop :=
  (sources row.modelId).isSome = true ∧ (decodePromptHex row.promptHex).isSome = true ∧
    (decodeTokenIdsHex row.generatedTokenIdsHex).isSome = true

/-- The rows ask for the same replay. -/
structure SameReplay (written changed : B3LiteReceipt) : Prop where
  requestId : changed.requestId = written.requestId
  modelId : changed.modelId = written.modelId
  ggufSha256 : changed.ggufSha256 = written.ggufSha256
  prompt : decodePromptHex changed.promptHex = decodePromptHex written.promptHex
  tokens : decodeTokenIdsHex changed.generatedTokenIdsHex =
    decodeTokenIdsHex written.generatedTokenIdsHex
  totalLayers : changed.totalLayers = written.totalLayers

/-- The signed bytes of the rows are the same. -/
def SameSigned (written changed : B3LiteReceipt) : Prop :=
  changed.signedFields.map canonicalBytes = written.signedFields.map canonicalBytes

/-- The condition on a change: a row that can be replayed could be and asks for the
same, and one that cannot be could not be either or is signed over other bytes. -/
def Harmless (sources : Sources) (written changed : B3LiteReceipt) : Prop :=
  (Replayable sources changed → Replayable sources written ∧ SameReplay written changed) ∧
    (¬ Replayable sources changed → ¬ Replayable sources written ∨ ¬ SameSigned written changed)

variable {mac : Mac} {secret : List UInt8} {sources : Sources}
  {row written changed : B3LiteReceipt} {auditor : B3LiteAuditor}

/-! ## The replay of a row -/

theorem replayable_iff : Replayable sources row ↔
    ∃ replay, prepare row (sources row.modelId) = .ok replay := by
  unfold prepare
  constructor
  · rintro ⟨source, prompt, tokens⟩
    obtain ⟨source, found⟩ := Option.isSome_iff_exists.mp source
    obtain ⟨prompt, decoded⟩ := Option.isSome_iff_exists.mp prompt
    obtain ⟨tokens, read⟩ := Option.isSome_iff_exists.mp tokens
    exact ⟨⟨row, source, prompt, tokens⟩, by rw [found, decoded, read]⟩
  · rintro ⟨replay, prepared⟩
    split at prepared
    · cases prepared
    · rename_i source found
      split at prepared
      · cases prepared
      · rename_i prompt decoded
        split at prepared
        · cases prepared
        · rename_i tokens read
          exact ⟨by rw [found]; rfl, by rw [decoded]; rfl, by rw [read]; rfl⟩

theorem auditRequest_eq_none : row.auditRequest sources = none ↔ ¬ Replayable sources row := by
  rw [replayable_iff, B3LiteReceipt.auditRequest]
  cases prepare row (sources row.modelId) with
  | error reason => simp
  | ok replay => simp

theorem auditRequest_of_prepare {replay : Replay}
    (prepared : prepare row (sources row.modelId) = .ok replay) :
    row.auditRequest sources = some (replay.assign, replay.request) := by
  rw [B3LiteReceipt.auditRequest, prepared]

/-- Rows that can be replayed ask for the same exactly if their fields do. -/
theorem auditRequest_eq_iff (replayable : Replayable sources written)
    (changedReplayable : Replayable sources changed) :
    changed.auditRequest sources = written.auditRequest sources ↔ SameReplay written changed := by
  obtain ⟨before, prepared⟩ := replayable_iff.mp replayable
  obtain ⟨after, changedPrepared⟩ := replayable_iff.mp changedReplayable
  rw [auditRequest_of_prepare prepared, auditRequest_of_prepare changedPrepared]
  obtain ⟨rfl, source, prompt, tokens⟩ := of_prepare prepared
  obtain ⟨rfl, changedSource, changedPrompt, changedTokens⟩ := of_prepare changedPrepared
  constructor
  · intro same
    have parts := Prod.mk.inj (Option.some.inj same)
    have requests : after.assign.requestId = before.assign.requestId := by rw [parts.1]
    have models : after.request.modelId = before.request.modelId := by rw [parts.2]
    have files : after.request.ggufSha256 = before.request.ggufSha256 := by rw [parts.2]
    have prompts : after.request.promptText = before.request.promptText := by rw [parts.2]
    have ids : after.request.committedTokenIds = before.request.committedTokenIds := by
      rw [parts.2]
    have layers : after.request.totalLayers = before.request.totalLayers := by rw [parts.2]
    exact ⟨requests, models, files, changedPrompt.trans ((congrArg some prompts).trans prompt.symm),
      changedTokens.trans ((congrArg some ids).trans tokens.symm), layers⟩
  · intro same
    have sourcesAgree : after.source = before.source := by
      apply Option.some.inj
      rw [← changedSource, ← source, same.modelId]
    have promptsAgree : after.promptText = before.promptText := by
      apply Option.some.inj
      rw [← changedPrompt, ← prompt, same.prompt]
    have tokensAgree : after.committedTokenIds = before.committedTokenIds := by
      apply Option.some.inj
      rw [← changedTokens, ← tokens, same.tokens]
    simp only [Replay.assign, Replay.request, same.requestId, same.modelId, same.ggufSha256,
      same.totalLayers, sourcesAgree, promptsAgree, tokensAgree]

/-! ## The consequences of an audit -/

/-- The punishments of so far. -/
def punishments (auditor : B3LiteAuditor) : List Effect :=
  auditor.log.filter Effect.punishes

theorem punishments_append {after : B3LiteAuditor} {effect : Effect}
    (grown : after.log = auditor.log ++ [effect]) (mild : effect.punishes = false) :
    punishments after = punishments auditor := by
  simp [punishments, grown, mild]

theorem punishments_resumeResolved (registry : MinerRegistry) (source : Option ModelSource)
    (isOpen : Bool) :
    punishments (B3LiteAuditor.resumeResolved registry source isOpen auditor) =
      punishments auditor := by
  unfold B3LiteAuditor.resumeResolved
  split
  · split
    · rfl
    · split
      · unfold B3LiteAuditor.dispatchViaStratum
        split
        · exact punishments_append rfl rfl
        · dsimp only
          split
          · exact punishments_append rfl rfl
          · exact punishments_append rfl rfl
      · exact punishments_append rfl rfl
  · rfl

theorem punishments_handleAuditResult (wallet : Wallet) (result : OpoiAuditResult) :
    punishments (B3LiteAuditor.handleAuditResult wallet result auditor) =
      punishments auditor := by
  unfold B3LiteAuditor.handleAuditResult
  split
  · exact punishments_append rfl rfl
  · split
    · split
      · rfl
      · exact punishments_append rfl rfl
    · exact punishments_append rfl rfl

/-- The audit of a row is before its replay or has been given up. -/
def GivenUp (row : B3LiteReceipt) (tick : Tick) : Prop :=
  tick = .resolving row [] ∨ (∃ reason, tick = .closing reason row []) ∨ tick = .idle

/-- It goes no further and punishes nobody. -/
theorem givenUp_next {stimulus : Stimulus} (lost : ¬ Replayable sources row)
    (given : GivenUp row auditor.tick) (enabled : auditor.enabled stimulus)
    (only : AuditsOnly sources auditor stimulus) :
    GivenUp row (auditor.next stimulus).tick ∧
      punishments (auditor.next stimulus) = punishments auditor := by
  rcases stimulus with ⟨registry, event⟩
  cases event with
  | tickBegin => cases only
  | listed receipts =>
      have listing : auditor.tick = .listing := enabled
      rcases given with same | ⟨reason, same⟩ | same <;> cases listing.symm.trans same
  | resolved source isOpen =>
      rcases enabled with ⟨held, rest, resolving⟩
      refine ⟨?_, punishments_resumeResolved registry source isOpen⟩
      rcases given with same | ⟨reason, same⟩ | same
      · cases resolving.symm.trans same
        have found : source = sources row.modelId := only row [] same
        cases prepared : prepare row source with
        | ok replay =>
            rw [found] at prepared
            exact absurd (replayable_iff.mpr ⟨replay, prepared⟩) lost
        | error reason =>
            simp only [B3LiteAuditor.next, B3LiteAuditor.resumeResolved, same, prepared]
            exact .inr (.inl ⟨reason, rfl⟩)
      · cases resolving.symm.trans same
      · cases resolving.symm.trans same
  | woken =>
      rcases enabled with ⟨waiter, replay, rest, waiting⟩
      rcases given with same | ⟨reason, same⟩ | same <;> cases waiting.symm.trans same
  | replayed answer =>
      rcases enabled with ⟨held, rest, replaying⟩
      rcases given with same | ⟨reason, same⟩ | same <;> cases replaying.symm.trans same
  | marked stored =>
      rcases given with same | ⟨reason, same⟩ | same
      · rcases enabled with ⟨held, rest, ⟨reason, closing⟩ | ⟨positions, marking⟩⟩
        · cases closing.symm.trans same
        · cases marking.symm.trans same
      · simp only [B3LiteAuditor.next, B3LiteAuditor.resumeMarked, same]
        exact ⟨.inr (.inr rfl), punishments_append rfl rfl⟩
      · rcases enabled with ⟨held, rest, ⟨reason, closing⟩ | ⟨positions, marking⟩⟩
        · cases closing.symm.trans same
        · cases marking.symm.trans same
  | inserted stored =>
      rcases enabled with ⟨held, rest, withholding | flagging | ⟨count, ejecting⟩⟩
      · rcases given with same | ⟨reason, same⟩ | same <;> cases withholding.symm.trans same
      · rcases given with same | ⟨reason, same⟩ | same <;> cases flagging.symm.trans same
      · rcases given with same | ⟨reason, same⟩ | same <;> cases ejecting.symm.trans same
  | counted count =>
      rcases enabled with ⟨held, rest, counting⟩
      rcases given with same | ⟨reason, same⟩ | same <;> cases counting.symm.trans same
  | auditResult wallet result =>
      have kept : (auditor.next ⟨registry, .auditResult wallet result⟩).tick = auditor.tick :=
        B3LiteAuditor.tick_handleAuditResult wallet result
      exact ⟨by rw [kept]; exact given, punishments_handleAuditResult wallet result⟩
  | disconnect wallet => exact ⟨given, rfl⟩

/-- The audit of a row that can be replayed may withhold the payment of the wallet it
names, whether or not its signature verifies. -/
theorem withholds_of_replayable (replayable : Replayable sources row) :
    ∃ auditor events finish, auditor.tick = .resolving row [] ∧ auditor.log = [] ∧
      B3LiteAuditor.system.RunWith (AuditsOnly sources) auditor events finish ∧
      .consequence row .withholdPay (divergenceReason row) true ∈ finish.log := by
  obtain ⟨replay, prepared⟩ := replayable_iff.mp replayable
  have same : replay.receipt = row := (of_prepare prepared).1
  subst same
  let start : B3LiteAuditor := { B3LiteAuditor.new [] with tick := .resolving replay.receipt [] }
  let asked : B3LiteAuditor := B3LiteAuditor.dispatchViaSubprocess replay [] start
  have resolved : start.next ⟨.new, .resolved (sources replay.receipt.modelId) true⟩ = asked := by
    have nobody : MinerRegistry.new.pickAuditorCapable start.trustedWallets
        replay.receipt.minerWallet = none := rfl
    simp only [B3LiteAuditor.next, B3LiteAuditor.resumeResolved, start, prepared]
    rw [nobody]
  have begun : B3LiteAuditor.system.RunWith (AuditsOnly sources) start
      [⟨.new, .resolved (sources replay.receipt.modelId) true⟩] asked := by
    rw [← resolved]
    refine System.RunWith.nil.snoc ⟨replay.receipt, [], rfl⟩ ?_
    intro row rest resolving
    cases resolving
    rfl
  have diverges : B3LiteAuditor.system.Admits (AuditsOnly sources) asked
      [⟨.new, .replayed (.ok [])⟩, ⟨.new, .marked true⟩, ⟨.new, .inserted true⟩] :=
    ⟨⟨⟨replay.receipt, [], rfl⟩, trivial⟩, ⟨⟨replay.receipt, [], .inr ⟨[], rfl⟩⟩, trivial⟩,
      ⟨⟨replay.receipt, [], .inl rfl⟩, trivial⟩, trivial⟩
  exact ⟨start, _, _, rfl, rfl, begun.append diverges.runWith,
    List.mem_append_right _ (List.mem_singleton_self _)⟩

/-- An audit punishes nobody exactly if the row cannot be replayed. -/
theorem noConsequence_iff : NoConsequence sources row ↔ ¬ Replayable sources row := by
  constructor
  · intro mild replayable
    rcases withholds_of_replayable replayable with
      ⟨auditor, events, finish, resolving, empty, run, withheld⟩
    have same := mild auditor events finish resolving run
    rw [empty] at same
    have punished : .consequence row .withholdPay (divergenceReason row) true ∈
        finish.log.filter Effect.punishes := List.mem_filter.mpr ⟨withheld, rfl⟩
    rw [same] at punished
    cases punished
  · intro lost auditor events finish resolving run
    have all := run.invariant
      (I := fun now => GivenUp row now.tick ∧ punishments now = punishments auditor)
      ⟨.inl resolving, rfl⟩ fun now stimulus ⟨given, same⟩ enabled only => by
        have step := givenUp_next lost given enabled only
        exact ⟨step.1, step.2.trans same⟩
    exact all.2

/-! ## Receipts of finished pipelines -/

/-- The signature of a recorded receipt verifies over a changed row exactly if the
signed bytes are the same. -/
theorem verifies_recorded (injective : Function.Injective (mac secret)) {sampled : String → Bool}
    {requestId : RequestId} {wallet : Wallet} {pipeline : PipelineState} {responseHash : String}
    {id : Nat} (edit : Edit) :
    let written := (recordB3liteReceipt mac ⟨secret, sampled⟩ requestId wallet pipeline
      responseHash).row id
    (edit.apply written).verifies mac secret = true ↔
      SameSigned written (edit.apply written) := by
  intro written
  have fields : written.signedFields =
      some (receiptFields requestId wallet pipeline responseHash) := by
    have tokens : decodeTokenIdsHex written.generatedTokenIdsHex =
        some pipeline.generatedTokenIds := by
      change decodeTokenIdsHex (hexEncode (pipeline.generatedTokenIds.flatMap leBytes)) = _
      rw [decodeTokenIdsHex, hexDecode_hexEncode, Option.bind_some]
      exact wordsOfBytes_flatMap_leBytes _
    rw [B3LiteReceipt.signedFields, tokens]
    rfl
  rw [SameSigned, fields, B3LiteReceipt.verifies]
  cases decoded : (edit.apply written).signedFields with
  | none => simp
  | some changed =>
      have kept : (edit.apply written).signatureHex =
          signReceipt mac secret (receiptFields requestId wallet pipeline responseHash) := rfl
      rw [kept]
      dsimp only
      rw [verifyReceipt_signReceipt injective, Option.map_some, Option.map_some, Option.some.injEq]

/-- A change to a recorded receipt is caught or without effect exactly if it is
harmless. -/
theorem tamperEvident_iff (injective : Function.Injective (mac secret))
    (sampled : String → Bool) (requestId : RequestId) (wallet : Wallet)
    (pipeline : PipelineState) (responseHash : String) (id : Nat) (sources : Sources)
    (edit : Edit) :
    let written := (recordB3liteReceipt mac ⟨secret, sampled⟩ requestId wallet pipeline
      responseHash).row id
    TamperEvident mac secret sources written (edit.apply written) ↔
      Harmless sources written (edit.apply written) := by
  intro written
  have verifies : (edit.apply written).verifies mac secret = true ↔
      SameSigned written (edit.apply written) := verifies_recorded injective edit
  rw [TamperEvident, Harmless, noConsequence_iff]
  by_cases replayable : Replayable sources (edit.apply written)
  · constructor
    · rintro (⟨-, lost⟩ | same)
      · exact absurd replayable lost
      · refine ⟨fun _ => ?_, fun lost => absurd replayable lost⟩
        have before : Replayable sources written := by
          by_contra lost
          rw [auditRequest_eq_none.mpr lost] at same
          exact auditRequest_eq_none.mp same replayable
        exact ⟨before, (auditRequest_eq_iff before replayable).mp same⟩
    · rintro ⟨harmless, -⟩
      obtain ⟨before, same⟩ := harmless replayable
      exact .inr ((auditRequest_eq_iff before replayable).mpr same)
  · have nothing : (edit.apply written).auditRequest sources = none :=
      auditRequest_eq_none.mpr replayable
    rw [nothing]
    constructor
    · intro evident
      refine ⟨fun held => absurd held replayable, fun _ => ?_⟩
      rcases evident with ⟨unverified, -⟩ | same
      · right
        rw [← verifies, unverified]
        exact Bool.false_ne_true
      · exact .inl (auditRequest_eq_none.mp same.symm)
    · rintro ⟨-, harmless⟩
      rcases harmless replayable with before | unsigned
      · exact .inr (auditRequest_eq_none.mpr before).symm
      · left
        rw [← verifies] at unsigned
        exact ⟨Bool.eq_false_iff.mpr unsigned, replayable⟩

/-! ## One receipt and two changes -/

/-- A finished pipeline whose prompt is one letter in hex. -/
def solePipeline (promptHex : String) : PipelineState where
  shards := []
  manifest := ⟨"model", "DENSE", 4, "root", "ACTIVE"⟩
  promptHash := "prompt-hash"
  maxTokens := 1
  pos := 0
  tokenIndex := 0
  currentInput := .prompt promptHex
  originalPromptHex := promptHex
  generatedTokenIds := [5]
  contributions := .empty
  expertGroups := .empty
  moeLayerWalk := none

/-- The message of the examples. -/
def soleMessage : List UInt8 :=
  canonicalBytes (receiptFields "r" "miner" (solePipeline "6A") "response-hash")

/-- HMAC-SHA256 of that message under the key `secret`, and other tags for all other
messages. -/
def soleMac : Mac := fun _ message =>
  if message = soleMessage then
    [202, 216, 89, 170, 124, 44, 250, 212, 151, 129, 127, 171, 203, 225, 100, 66, 120, 119, 142,
      133, 227, 233, 226, 66, 122, 165, 75, 50, 227, 46, 38, 201]
  else
    List.replicate 33 0 ++ message

/-- The key. -/
def soleSecret : List UInt8 :=
  [115, 101, 99, 114, 101, 116]

theorem soleMac_injective : Function.Injective (soleMac soleSecret) := by
  intro first second same
  have longer : ∀ message : List UInt8, 33 ≤ (List.replicate 33 0 ++ message).length := by
    intro message
    rw [List.length_append, List.length_replicate]
    omega
  simp only [soleMac] at same
  split at same
  · rename_i left
    split at same
    · rename_i right
      rw [left, right]
    · have long := longer second
      rw [← same] at long
      exact absurd long (by decide)
  · split at same
    · have long := longer first
      rw [same] at long
      exact absurd long (by decide)
    · exact List.append_cancel_left same

/-- The stored receipt. -/
def soleWritten (promptHex : String) : B3LiteReceipt :=
  (recordB3liteReceipt soleMac ⟨soleSecret, fun _ => true⟩ "r" "miner" (solePipeline promptHex)
    "response-hash").row 7

/-- Its prompt is replaced. -/
def soleEdit (promptHex : String) : Edit where
  requestId := "r"
  minerWallet := "miner"
  modelId := "model"
  ggufSha256 := "root"
  promptHex := promptHex
  generatedTokenIdsHex := "05000000"
  totalLayers := 4

/-- The source of the examples. -/
def soleSources : Sources :=
  fun _ => some ⟨"gguf", "tokenizer", "tokenizer-hash"⟩

/-- An instance of `tamperEvident_iff`: the prompt is spelled in small letters. -/
theorem tamperEvident_sole :
    TamperEvident soleMac soleSecret soleSources (soleWritten "6A")
      ((soleEdit "6a").apply (soleWritten "6A")) := by
  have replayable : Replayable soleSources (soleWritten "6A") := ⟨rfl, by decide, by decide⟩
  have same : SameReplay (soleWritten "6A") ((soleEdit "6a").apply (soleWritten "6A")) :=
    ⟨rfl, rfl, rfl, by decide, by decide, rfl⟩
  have changed : Replayable soleSources ((soleEdit "6a").apply (soleWritten "6A")) :=
    ⟨rfl, by decide, by decide⟩
  exact (tamperEvident_iff soleMac_injective (fun _ => true) "r" "miner" (solePipeline "6A")
    "response-hash" 7 soleSources (soleEdit "6a")).mpr
      ⟨fun _ => ⟨replayable, same⟩, fun lost => absurd changed lost⟩

/-- Another prompt is audited under the old signature. -/
theorem prompt_not_evident :
    ¬ TamperEvident soleMac soleSecret soleSources (soleWritten "61")
      ((soleEdit "62").apply (soleWritten "61")) := by
  have tokens : decodeTokenIdsHex "05000000" = some [5] := by decide
  have written : decodeTokenIdsHex (soleWritten "61").generatedTokenIdsHex = some [5] := by decide
  have signed : SameSigned (soleWritten "61") ((soleEdit "62").apply (soleWritten "61")) := by
    have changed : decodeTokenIdsHex
        ((soleEdit "62").apply (soleWritten "61")).generatedTokenIdsHex = some [5] := tokens
    rw [SameSigned, B3LiteReceipt.signedFields, B3LiteReceipt.signedFields, changed, written]
    rfl
  rintro (⟨unverified, -⟩ | same)
  · have verified := (verifies_recorded soleMac_injective (soleEdit "62")).mpr signed
    exact Bool.false_ne_true (unverified.symm.trans verified)
  · have replayable : Replayable soleSources (soleWritten "61") := ⟨rfl, by decide, by decide⟩
    have changed : Replayable soleSources ((soleEdit "62").apply (soleWritten "61")) :=
      ⟨rfl, by decide, by decide⟩
    have prompts := ((auditRequest_eq_iff replayable changed).mp same).prompt
    exact absurd prompts (by decide)

end StratumBridge.Audit
