import StratumBridge.Proxy.Relay
import StratumBridge.Wire.Format

/-!
# The lines of the bridge's own methods

The notifications that the bridge pushes to a miner and the answers that it reads.  What
is pushed can be told from the line, down to every field, exactly if its counters fit
their types.  What is read is read by its fields alone: their order, fields that the
bridge does not know and optional fields that an older miner leaves out make no
difference.  Whatever is handed to a handler fits its types.
-/

namespace StratumBridge.Proxy

open Data Rpc Transition Wire

/-! ## Counters that fit their types -/

/-- The dimensions of a shape are `usize`. -/
def InShape (shape : List Nat) : Prop :=
  ∀ dim ∈ shape, dim < 2 ^ 64

/-- An optional `u32`. -/
def InStep (step : Option Nat) : Prop :=
  ∀ layer, step = some layer → layer < 2 ^ 32

/-- The dimensions of a tensor fit. -/
def ShardInputWire.InRange : ShardInputWire → Prop
  | .tensor shape _ => InShape shape
  | _ => True

/-- The dimensions of a tensor fit. -/
def ExpertInputWire.InRange : ExpertInputWire → Prop
  | .tensor shape _ => InShape shape

structure OpoiShardAssign.InRange (assign : OpoiShardAssign) : Prop where
  shardIndex : assign.shardIndex < 2 ^ 32
  layerStart : assign.layerStart < 2 ^ 32
  layerEnd : assign.layerEnd < 2 ^ 32
  totalLayers : assign.totalLayers < 2 ^ 32
  tokenIndex : assign.tokenIndex < 2 ^ 32
  input : ShardInputWire.InRange assign.input
  moeLayerStep : InStep assign.moeLayerStep

structure OpoiDraftGenerate.InRange (assign : OpoiDraftGenerate) : Prop where
  totalLayers : assign.totalLayers < 2 ^ 32
  k : assign.k < 2 ^ 32

structure OpoiKvRollback.InRange (rollback : OpoiKvRollback) : Prop where
  shardIndex : rollback.shardIndex < 2 ^ 32
  keepUntilPos : rollback.keepUntilPos < 2 ^ 32

structure OpoiExpertAssign.InRange (assign : OpoiExpertAssign) : Prop where
  layerStart : assign.layerStart < 2 ^ 32
  layerEnd : assign.layerEnd < 2 ^ 32
  layerIdx : assign.layerIdx < 2 ^ 32
  expertId : assign.expertId < 2 ^ 32
  tokenIndex : assign.tokenIndex < 2 ^ 32
  input : ExpertInputWire.InRange assign.input

structure OpoiShardResult.InRange (result : OpoiShardResult) : Prop where
  shardIndex : result.shardIndex < 2 ^ 32
  tokenIndex : result.tokenIndex < 2 ^ 32
  shape : InShape result.output.shape
  selection : ∀ selection, result.routerSelection = some selection →
    ∀ choices ∈ selection, ∀ choice ∈ choices, choice.expertId < 2 ^ 32
  moeLayerStep : InStep result.moeLayerStep

structure OpoiExpertResult.InRange (result : OpoiExpertResult) : Prop where
  layerStart : result.layerStart < 2 ^ 32
  layerEnd : result.layerEnd < 2 ^ 32
  layerIdx : result.layerIdx < 2 ^ 32
  expertId : result.expertId < 2 ^ 32
  tokenIndex : result.tokenIndex < 2 ^ 32
  shape : InShape result.output.shape

/-! ## Notifications -/

/-- What the bridge pushes to a miner. -/
inductive Push
  | assign (assign : OpoiAssign)
  | shardAssign (assign : OpoiShardAssign)
  | draftGenerate (assign : OpoiDraftGenerate)
  | kvRollback (rollback : OpoiKvRollback)
  | auditAssign (assign : OpoiAuditAssign)
  | expertAssign (assign : OpoiExpertAssign)

/-- The envelope of a notification. -/
def notification (method : String) (params : Value) : Value :=
  .object [("jsonrpc", .string "2.0"), ("method", .string method), ("params", .array [params]),
    ("id", .null)]

/-- `build_assign_line`, without the newline, as are the others. -/
def buildAssignLine (assign : OpoiAssign) : Value :=
  notification "opoi.assign" (opoiAssign.codec.write assign)

/-- `build_shard_assign_line`. -/
def buildShardAssignLine (assign : OpoiShardAssign) : Value :=
  notification "opoi.shard_assign" (opoiShardAssign.codec.write assign)

/-- `build_draft_generate_line`. -/
def buildDraftGenerateLine (assign : OpoiDraftGenerate) : Value :=
  notification "opoi.draft_generate" (opoiDraftGenerate.codec.write assign)

/-- `build_kv_rollback_line`. -/
def buildKvRollbackLine (rollback : OpoiKvRollback) : Value :=
  notification "opoi.kv_rollback" (opoiKvRollback.codec.write rollback)

/-- `build_audit_assign_line`. -/
def buildAuditAssignLine (assign : OpoiAuditAssign) : Value :=
  notification "opoi.audit_assign" (opoiAuditAssign.codec.write assign)

/-- `build_expert_assign_line`. -/
def buildExpertAssignLine (assign : OpoiExpertAssign) : Value :=
  notification "opoi.expert_assign" (opoiExpertAssign.codec.write assign)

namespace Push

/-- The line of a notification. -/
def line : Push → Value
  | assign message => buildAssignLine message
  | shardAssign message => buildShardAssignLine message
  | draftGenerate message => buildDraftGenerateLine message
  | kvRollback message => buildKvRollbackLine message
  | auditAssign message => buildAuditAssignLine message
  | expertAssign message => buildExpertAssignLine message

/-- The counters of a notification fit their types. -/
def InRange : Push → Prop
  | shardAssign message => OpoiShardAssign.InRange message
  | draftGenerate message => OpoiDraftGenerate.InRange message
  | kvRollback message => OpoiKvRollback.InRange message
  | expertAssign message => OpoiExpertAssign.InRange message
  | _ => True

/-- What a parameter says, by the method of its line. -/
def ofParam (method : String) (param : Value) : Option Push :=
  match method with
  | "opoi.assign" => (opoiAssign.codec.read param).map assign
  | "opoi.shard_assign" => (opoiShardAssign.codec.read param).map shardAssign
  | "opoi.draft_generate" => (opoiDraftGenerate.codec.read param).map draftGenerate
  | "opoi.kv_rollback" => (opoiKvRollback.codec.read param).map kvRollback
  | "opoi.audit_assign" => (opoiAuditAssign.codec.read param).map auditAssign
  | "opoi.expert_assign" => (opoiExpertAssign.codec.read param).map expertAssign
  | _ => none

/-- What a line is read as, with the types the bridge writes it from. -/
def ofLine (line : Value) : Option Push :=
  (method (some line)).bind fun name => (firstParam line).bind (ofParam name)

theorem ofLine_notification (name : String) (param : Value) :
    ofLine (notification name param) = ofParam name param :=
  rfl

end Push

theorem survives_shardInput (input : ShardInputWire) :
    shardInput.Survives input ↔ ShardInputWire.InRange input := by
  cases input <;> simp [shardInput, ShardInputWire.InRange, InShape]

theorem survives_draftInput (input : DraftInputWire) : draftInput.Survives input := by
  cases input <;> simp [draftInput]

theorem survives_expertInput (input : ExpertInputWire) :
    expertInput.Survives input ↔ ExpertInputWire.InRange input := by
  cases input
  simp [expertInput, ExpertInputWire.InRange, InShape]

theorem survives_opoiAssign (assign : OpoiAssign) : opoiAssign.Survives assign := by
  simp [opoiAssign]

theorem survives_opoiShardAssign (assign : OpoiShardAssign) :
    opoiShardAssign.Survives assign ↔ OpoiShardAssign.InRange assign := by
  simp only [opoiShardAssign, Record.survives_as, Record.survives_cons, Record.survives_done,
    Field.survives_required, survives_string, survives_u32, survives_word, survives_text,
    survives_count, survives_shardInput, true_and, and_true]
  constructor
  · rintro ⟨shardIndex, layerStart, layerEnd, totalLayers, tokenIndex, input, moeLayerStep⟩
    exact ⟨shardIndex, layerStart, layerEnd, totalLayers, tokenIndex, input, moeLayerStep⟩
  · rintro ⟨shardIndex, layerStart, layerEnd, totalLayers, tokenIndex, input, moeLayerStep⟩
    exact ⟨shardIndex, layerStart, layerEnd, totalLayers, tokenIndex, input, moeLayerStep⟩

theorem survives_opoiDraftGenerate (assign : OpoiDraftGenerate) :
    opoiDraftGenerate.Survives assign ↔ OpoiDraftGenerate.InRange assign := by
  simp only [opoiDraftGenerate, Record.survives_as, Record.survives_cons, Record.survives_done,
    Field.survives_required, survives_string, survives_u32, survives_text, survives_draftInput,
    true_and, and_true]
  constructor
  · rintro ⟨totalLayers, k⟩
    exact ⟨totalLayers, k⟩
  · rintro ⟨totalLayers, k⟩
    exact ⟨totalLayers, k⟩

theorem survives_opoiKvRollback (rollback : OpoiKvRollback) :
    opoiKvRollback.Survives rollback ↔ OpoiKvRollback.InRange rollback := by
  simp only [opoiKvRollback, Record.survives_as, Record.survives_cons, Record.survives_done,
    Field.survives_required, survives_string, survives_u32, survives_boolean, true_and, and_true]
  constructor
  · rintro ⟨index, pos⟩
    exact ⟨index, pos⟩
  · rintro ⟨index, pos⟩
    exact ⟨index, pos⟩

theorem survives_opoiAuditAssign (assign : OpoiAuditAssign) :
    opoiAuditAssign.Survives assign := by
  simp [opoiAuditAssign]

theorem survives_opoiExpertAssign (assign : OpoiExpertAssign) :
    opoiExpertAssign.Survives assign ↔ OpoiExpertAssign.InRange assign := by
  simp only [opoiExpertAssign, Record.survives_as, Record.survives_cons, Record.survives_done,
    Field.survives_required, survives_string, survives_u32, survives_expertInput, true_and,
    and_true]
  constructor
  · rintro ⟨layerStart, layerEnd, layerIdx, expertId, tokenIndex, input⟩
    exact ⟨layerStart, layerEnd, layerIdx, expertId, tokenIndex, input⟩
  · rintro ⟨layerStart, layerEnd, layerIdx, expertId, tokenIndex, input⟩
    exact ⟨layerStart, layerEnd, layerIdx, expertId, tokenIndex, input⟩

namespace Push

theorem ofLine_eq_some_iff {α : Type} {name : String} (record : Record String Value α)
    {make : α → Push} {a : α} (built : (make a).line = notification name (record.codec.write a))
    (reads : ∀ param, ofParam name param = (record.codec.read param).map make)
    (apart : ∀ b, make b = make a → b = a) :
    ofLine (make a).line = some (make a) ↔ record.Survives a := by
  rw [built, ofLine_notification, reads, ← Record.survives_codec, Codec.Survives,
    Option.map_eq_some_iff]
  constructor
  · rintro ⟨b, read, same⟩
    rw [read, apart b same]
  · intro read
    exact ⟨a, read, rfl⟩

/-- A line tells exactly the notification it was built from, if and only if the counters
of the notification fit their types. -/
theorem ofLine_line_iff (push : Push) : ofLine push.line = some push ↔ push.InRange := by
  cases push with
  | assign message =>
      refine (ofLine_eq_some_iff opoiAssign rfl (fun _ => rfl) fun _ same =>
        assign.inj same).trans ?_
      exact iff_of_true (survives_opoiAssign message) trivial
  | shardAssign message =>
      refine (ofLine_eq_some_iff opoiShardAssign rfl (fun _ => rfl) fun _ same =>
        shardAssign.inj same).trans ?_
      exact survives_opoiShardAssign message
  | draftGenerate message =>
      refine (ofLine_eq_some_iff opoiDraftGenerate rfl (fun _ => rfl) fun _ same =>
        draftGenerate.inj same).trans ?_
      exact survives_opoiDraftGenerate message
  | kvRollback message =>
      refine (ofLine_eq_some_iff opoiKvRollback rfl (fun _ => rfl) fun _ same =>
        kvRollback.inj same).trans ?_
      exact survives_opoiKvRollback message
  | auditAssign message =>
      refine (ofLine_eq_some_iff opoiAuditAssign rfl (fun _ => rfl) fun _ same =>
        auditAssign.inj same).trans ?_
      exact iff_of_true (survives_opoiAuditAssign message) trivial
  | expertAssign message =>
      refine (ofLine_eq_some_iff opoiExpertAssign rfl (fun _ => rfl) fun _ same =>
        expertAssign.inj same).trans ?_
      exact survives_opoiExpertAssign message

end Push

/-! ## Answers -/

/-- What a handler is called with. -/
inductive Answer
  | submitResult (params : OpoiSubmitResultParams)
  | shardResult (result : OpoiShardResult)
  | auditResult (result : OpoiAuditResult)
  | expertResult (result : OpoiExpertResult)
  | draftResult (result : OpoiDraftResult)
  | kvRollbackAck (ack : OpoiKvRollbackAck)

namespace Answer

/-- The handler that an answer is for. -/
def kind : Answer → Kind
  | submitResult _ => .submitResult
  | shardResult _ => .shardResult
  | auditResult _ => .auditResult
  | expertResult _ => .expertResult
  | draftResult _ => .draftResult
  | kvRollbackAck _ => .kvRollbackAck

/-- What `serde_json::from_value` makes of the parameter of a line. -/
def ofParam (floats : Floats) : Kind → Value → Option Answer
  | .submitResult, param => (opoiSubmitResultParams.codec.read param).map submitResult
  | .shardResult, param => ((opoiShardResult floats).codec.read param).map shardResult
  | .auditResult, param => (opoiAuditResult.codec.read param).map auditResult
  | .expertResult, param => (opoiExpertResult.codec.read param).map expertResult
  | .draftResult, param => (opoiDraftResult.codec.read param).map draftResult
  | .kvRollbackAck, param => (opoiKvRollbackAck.codec.read param).map kvRollbackAck

/-- The fields that the bridge knows of a kind of answer. -/
def names (floats : Floats) : Kind → List String
  | .submitResult => opoiSubmitResultParams.names
  | .shardResult => (opoiShardResult floats).names
  | .auditResult => opoiAuditResult.names
  | .expertResult => opoiExpertResult.names
  | .draftResult => opoiDraftResult.names
  | .kvRollbackAck => opoiKvRollbackAck.names

/-- The fields of an answer as they are written. -/
def fields (floats : Floats) : Answer → List (String × Value)
  | submitResult params => opoiSubmitResultParams.write params
  | shardResult result => (opoiShardResult floats).write result
  | auditResult result => opoiAuditResult.write result
  | expertResult result => opoiExpertResult.write result
  | draftResult result => opoiDraftResult.write result
  | kvRollbackAck ack => opoiKvRollbackAck.write ack

/-- The counters of an answer fit their types. -/
def InRange : Answer → Prop
  | shardResult result => OpoiShardResult.InRange result
  | auditResult result => ∀ position ∈ result.positions, position.step < 2 ^ 64
  | expertResult result => OpoiExpertResult.InRange result
  | kvRollbackAck ack => ack.shardIndex < 2 ^ 32
  | _ => True

/-- The weights of an answer are numbers. -/
def Weighs (floats : Floats) : Answer → Prop
  | shardResult result => ∀ selection, result.routerSelection = some selection →
      ∀ choices ∈ selection, ∀ choice ∈ choices, (float floats).Survives choice.weight
  | _ => True

end Answer

theorem survives_shardOutput (output : ShardOutputWire) :
    shardOutput.Survives output ↔ InShape output.shape := by
  simp [shardOutput, InShape]

theorem survives_expertOutput (output : ExpertOutputWire) :
    expertOutput.Survives output ↔ InShape output.shape := by
  simp [expertOutput, InShape]

theorem survives_routerExpertChoice (floats : Floats) (choice : RouterExpertChoice) :
    (routerExpertChoice floats).Survives choice ↔
      choice.expertId < 2 ^ 32 ∧ (float floats).Survives choice.weight := by
  simp [routerExpertChoice]

theorem survives_auditPosition (position : AuditPositionWire) :
    auditPosition.Survives position ↔ position.step < 2 ^ 64 := by
  simp [auditPosition]

theorem survives_opoiShardResult {floats : Floats} {result : OpoiShardResult}
    (inRange : OpoiShardResult.InRange result)
    (weighs : Answer.Weighs floats (.shardResult result)) :
    (opoiShardResult floats).Survives result := by
  simp only [opoiShardResult, Record.survives_as, Record.survives_cons, Record.survives_done,
    Record.survives_codec, Field.survives_required, survives_string, survives_u32, survives_token,
    survives_items, survives_count, survives_shardOutput, survives_routerExpertChoice,
    survives_word, Codec.survives_list, true_and, and_true]
  refine ⟨inRange.shardIndex, inRange.tokenIndex, inRange.shape, fun _ _ _ _ => trivial, ?_,
    inRange.moeLayerStep⟩
  intro selection made choices listed choice mem
  exact ⟨inRange.selection selection made choices listed choice mem,
    weighs selection made choices listed choice mem⟩

theorem survives_opoiAuditResult (result : OpoiAuditResult) :
    opoiAuditResult.Survives result ↔ ∀ position ∈ result.positions, position.step < 2 ^ 64 := by
  simp [opoiAuditResult, survives_auditPosition]

theorem survives_opoiExpertResult {result : OpoiExpertResult}
    (inRange : OpoiExpertResult.InRange result) : opoiExpertResult.Survives result := by
  simp only [opoiExpertResult, Record.survives_as, Record.survives_cons, Record.survives_done,
    Record.survives_codec, Field.survives_required, survives_string, survives_u32,
    survives_expertOutput, true_and, and_true]
  exact ⟨inRange.layerStart, inRange.layerEnd, inRange.layerIdx, inRange.expertId,
    inRange.tokenIndex, inRange.shape⟩

namespace Answer

variable {floats : Floats} {answer : Answer} {kind : Kind} {param : Value}

/-- An answer is read by its fields: in whatever order they come, and whatever else comes
with them. -/
theorem ofParam_object {entries : List (String × Value)} (inRange : answer.InRange)
    (weighs : answer.Weighs floats)
    (same : ∀ name ∈ names floats answer.kind,
      entries.lookup name = (answer.fields floats).lookup name) :
    ofParam floats answer.kind (.object entries) = some answer := by
  cases answer with
  | submitResult params =>
      have survives : opoiSubmitResultParams.Survives params := by simp [opoiSubmitResultParams]
      exact congrArg (Option.map submitResult) (survives.read_table same)
  | shardResult result =>
      exact congrArg (Option.map shardResult)
        ((survives_opoiShardResult inRange weighs).read_table same)
  | auditResult result =>
      exact congrArg (Option.map auditResult)
        (((survives_opoiAuditResult result).mpr inRange).read_table same)
  | expertResult result =>
      exact congrArg (Option.map expertResult)
        ((survives_opoiExpertResult inRange).read_table same)
  | draftResult result =>
      have survives : opoiDraftResult.Survives result := by simp [opoiDraftResult]
      exact congrArg (Option.map draftResult) (survives.read_table same)
  | kvRollbackAck ack =>
      have small : ack.shardIndex < 2 ^ 32 := inRange
      have survives : opoiKvRollbackAck.Survives ack := by
        simpa [opoiKvRollbackAck] using small
      exact congrArg (Option.map kvRollbackAck) (survives.read_table same)

/-- Floats of which only the one is told. -/
def oneFloats : Floats where
  ofInteger _ := 0x3f800000
  ofText _ := 0x3f800000
  toValue _ := .float "1.0"

/-- The answer of a miner that does not know the later fields. -/
def olderResult : OpoiShardResult where
  requestId := "r1"
  shardIndex := 0
  tokenIndex := 2
  outputHash := "h"
  output := ⟨[1, 4], "00"⟩
  nextTokenId := some 7
  nextTokenIds := none
  routerSelection := some [[⟨3, 0x3f800000⟩]]
  moeLayerStep := none

/-- Its fields, in another order and with one more. -/
def olderFields : List (String × Value) :=
  [("output", .object [("shape", .array [.integer 1, .integer 4]), ("data_hex", .string "00")]),
    ("miner_version", .string "0.9"),
    ("next_token_id", .integer 7),
    ("router_selection", .array [.array [.object
      [("expert_id", .integer 3), ("weight", .float "1.0")]]]),
    ("output_hash", .string "h"),
    ("token_index", .integer 2),
    ("shard_index", .integer 0),
    ("request_id", .string "r1")]

theorem ofParam_olderFields :
    ofParam oneFloats .shardResult (.object olderFields) = some (.shardResult olderResult) := by
  have inRange : (shardResult olderResult).InRange := by
    refine ⟨by decide, by decide, ?_, ?_, ?_⟩
    · intro dim mem
      revert dim
      decide
    · rintro selection ⟨⟩ choices mem choice listed
      cases List.mem_singleton.mp mem
      cases List.mem_singleton.mp listed
      decide
    · intro layer none
      cases none
  have weighs : (shardResult olderResult).Weighs oneFloats := by
    rintro selection ⟨⟩ choices mem choice listed
    cases List.mem_singleton.mp mem
    cases List.mem_singleton.mp listed
    rfl
  have same : List.Forall (fun name => olderFields.lookup name =
      ((shardResult olderResult).fields oneFloats).lookup name) (names oneFloats .shardResult) :=
    ⟨rfl, rfl, rfl, rfl, rfl, rfl, rfl, rfl, rfl⟩
  exact ofParam_object inRange weighs (List.forall_iff_forall_mem.mp same)

end Answer

/-! ## What is read -/

open Data.Field (yields_required yields_optional)

open Record (yields_cons yields_done)

theorem yields_shardOutput : shardOutput.Yields fun output => InShape output.shape :=
  (yields_cons _ (yields_required _ yields_usize.list) <|
    yields_cons _ (yields_required _ (yields_any string)) yields_done).as _
    fun _ both => both.1

theorem yields_expertOutput : expertOutput.Yields fun output => InShape output.shape :=
  (yields_cons _ (yields_required _ yields_usize.list) <|
    yields_cons _ (yields_required _ (yields_any string)) yields_done).as _
    fun _ both => both.1

theorem yields_routerExpertChoice (floats : Floats) :
    (routerExpertChoice floats).Yields fun choice => choice.expertId < 2 ^ 32 :=
  (yields_cons _ (yields_required _ yields_u32) <|
    yields_cons _ (yields_required _ (yields_any (float floats))) yields_done).as _
    fun _ both => both.1

theorem yields_auditPosition : auditPosition.Yields fun position => position.step < 2 ^ 64 :=
  (yields_cons _ (yields_required _ yields_usize) <|
    yields_cons _ (yields_required _ (yields_any word)) <|
    yields_cons _ (yields_required _ (yields_any word)) <|
    yields_cons _ (yields_required _ (yields_any boolean)) yields_done).as _
    fun _ both => both.1

theorem yields_opoiShardResult (floats : Floats) :
    (opoiShardResult floats).Yields OpoiShardResult.InRange :=
  (yields_cons _ (yields_required _ (yields_any string)) <|
    yields_cons _ (yields_required _ yields_u32) <|
    yields_cons _ (yields_required _ yields_u32) <|
    yields_cons _ (yields_required _ (yields_any string)) <|
    yields_cons _ (yields_required _ yields_shardOutput.codec) <|
    yields_cons _ (yields_optional _ (yields_any word)) <|
    yields_cons _ (yields_optional _ (yields_any word.list)) <|
    yields_cons _ (yields_optional _ (yields_routerExpertChoice floats).codec.list.list) <|
    yields_cons _ (yields_optional _ yields_u32) yields_done).as _
    fun _ ⟨_, shardIndex, tokenIndex, _, shape, _, _, selection, moeLayerStep, _⟩ =>
      ⟨shardIndex, tokenIndex, shape, selection, moeLayerStep⟩

theorem yields_opoiAuditResult :
    opoiAuditResult.Yields fun result => ∀ position ∈ result.positions, position.step < 2 ^ 64 :=
  (yields_cons _ (yields_required _ (yields_any string)) <|
    yields_cons _ (yields_required _ yields_auditPosition.codec.list) yields_done).as _
    fun _ both => both.2.1

theorem yields_opoiExpertResult : opoiExpertResult.Yields OpoiExpertResult.InRange :=
  (yields_cons _ (yields_required _ (yields_any string)) <|
    yields_cons _ (yields_required _ yields_u32) <|
    yields_cons _ (yields_required _ yields_u32) <|
    yields_cons _ (yields_required _ yields_u32) <|
    yields_cons _ (yields_required _ yields_u32) <|
    yields_cons _ (yields_required _ yields_u32) <|
    yields_cons _ (yields_required _ (yields_any string)) <|
    yields_cons _ (yields_required _ yields_expertOutput.codec) yields_done).as _
    fun _ ⟨_, layerStart, layerEnd, layerIdx, expertId, tokenIndex, _, shape, _⟩ =>
      ⟨layerStart, layerEnd, layerIdx, expertId, tokenIndex, shape⟩

theorem yields_opoiKvRollbackAck :
    opoiKvRollbackAck.Yields fun ack => ack.shardIndex < 2 ^ 32 :=
  (yields_cons _ (yields_required _ (yields_any string)) <|
    yields_cons _ (yields_required _ yields_u32) <|
    yields_cons _ (yields_required _ (yields_any boolean)) <|
    yields_cons _ (yields_optional _ (yields_any string)) yields_done).as _
    fun _ both => both.2.1

namespace Answer

variable {floats : Floats} {answer : Answer} {kind : Kind} {param : Value}

/-- What is read is an answer of its kind, and fits its types. -/
theorem inRange_of_ofParam (read : ofParam floats kind param = some answer) :
    answer.kind = kind ∧ answer.InRange := by
  cases kind with
  | submitResult =>
      obtain ⟨params, -, rfl⟩ := Option.map_eq_some_iff.mp read
      exact ⟨rfl, trivial⟩
  | shardResult =>
      obtain ⟨result, held, rfl⟩ := Option.map_eq_some_iff.mp read
      exact ⟨rfl, (yields_opoiShardResult floats).codec _ _ held⟩
  | auditResult =>
      obtain ⟨result, held, rfl⟩ := Option.map_eq_some_iff.mp read
      exact ⟨rfl, yields_opoiAuditResult.codec _ _ held⟩
  | expertResult =>
      obtain ⟨result, held, rfl⟩ := Option.map_eq_some_iff.mp read
      exact ⟨rfl, yields_opoiExpertResult.codec _ _ held⟩
  | draftResult =>
      obtain ⟨result, -, rfl⟩ := Option.map_eq_some_iff.mp read
      exact ⟨rfl, trivial⟩
  | kvRollbackAck =>
      obtain ⟨ack, held, rfl⟩ := Option.map_eq_some_iff.mp read
      exact ⟨rfl, yields_opoiKvRollbackAck.codec _ _ held⟩

end Answer

/-! ## Sessions -/

/-- `serde_json` with the types of the messages. -/
def Serde.typed (serde : Serde) (floats : Floats) : Serde :=
  { serde with fromValue := fun kind param => (Answer.ofParam floats kind param).isSome }

/-- The line says this to the handler of its kind. -/
structure Conveys (serde : Serde) (floats : Floats) (line : String) (handling : Handling)
    (answer : Answer) : Prop where
  method : method (serde.fromStr line) = some handling.kind.method
  param : (serde.fromStr line).bind firstParam = some handling.params
  read : Answer.ofParam floats handling.kind handling.params = some answer
  id : idOf (serde.fromStr line) = handling.id

/-- A handler is running: it was called with what the last line of the miner says, and
every counter of that fits its type. -/
def HandlesLast (serde : Serde) (floats : Floats) (events : List Event) (session : Session) :
    Prop :=
  ∀ handling, session.handling = some handling → ∃ line answer,
    (minerLines events).getLast? = some line ∧ Conveys serde floats line handling answer ∧
      answer.kind = handling.kind ∧ answer.InRange

variable {serde : Serde} {floats : Floats} {session : Session} {events : List Event}
  {event : Event} {line : String} {handling : Handling}

theorem conveys_of_intercept {kind : Kind}
    (named : method (serde.fromStr line) = some kind.method) (idle : session.handling = none)
    (handed : (session.intercept (serde.typed floats) kind (serde.fromStr line)).handling =
      some handling) : ∃ answer, Conveys serde floats line handling answer := by
  have refused (error : Value) : (if kind.answered then
      session.sendDown (.reply (buildError (idOf (serde.fromStr line)) error))
    else session).handling ≠ some handling := by
    rw [apply_ite Session.handling]
    simp [Session.sendDown, idle]
  unfold Session.intercept at handed
  dsimp only at handed
  split at handed
  · exact absurd handed (refused _)
  · rename_i params found
    split at handed
    · exact absurd handed (refused _)
    · cases handed
      obtain ⟨first, typed⟩ := Option.filter_eq_some_iff.mp found
      obtain ⟨answer, read⟩ := Option.isSome_iff_exists.mp typed
      exact ⟨answer, named, first, read, rfl⟩

/-- A line that is handed to a handler says what the handler takes. -/
theorem conveys_of_readDown (idle : session.handling = none)
    (handed : (session.readDown (serde.typed floats) line).handling = some handling) :
    ∃ answer, Conveys serde floats line handling answer := by
  have elsewhere {after : Session} (same : after.handling = session.handling) :
      after.handling ≠ some handling := by
    rw [same, idle]
    exact nofun
  unfold Session.readDown at handed
  dsimp only at handed
  split at handed
  · exact conveys_of_intercept ‹_› idle handed
  · exact conveys_of_intercept ‹_› idle handed
  · exact conveys_of_intercept ‹_› idle handed
  · exact conveys_of_intercept ‹_› idle handed
  · exact conveys_of_intercept ‹_› idle handed
  · exact conveys_of_intercept ‹_› idle handed
  · unfold Session.readCapabilities at handed
    split at handed
    · exact absurd handed (elsewhere rfl)
    · exact absurd handed (elsewhere rfl)
  · unfold Session.readAuthorize at handed
    split at handed
    · exact absurd handed (elsewhere rfl)
    · exact absurd handed (elsewhere rfl)
  · exact absurd handed (elsewhere rfl)
  · exact absurd handed (elsewhere rfl)

theorem HandlesLast.of_same {after : Session} (last : HandlesLast serde floats events session)
    (same : after.handling = session.handling)
    (lines : minerLines (events ++ [event]) = minerLines events) :
    HandlesLast serde floats (events ++ [event]) after := by
  intro handling running
  rw [lines]
  exact last handling (same.symm.trans running)

/-- While a handler runs, it works on the last line of the miner, read as the types of the
messages say. -/
theorem handlesLast_of_run {tx : Channel} {registry : MinerRegistry}
    (run : (Session.system (serde.typed floats)).Run (.start tx registry) events session) :
    HandlesLast serde floats events session := by
  induction run with
  | nil => exact fun handling running => absurd running nofun
  | @snoc events session event _ enabled _ ih =>
      cases event with
      | minerLine line =>
          intro handling running
          obtain ⟨answer, conveys⟩ :=
            conveys_of_readDown (Option.isNone_iff_eq_none.mp enabled.2.1) running
          refine ⟨line, answer, ?_, conveys, Answer.inRange_of_ofParam conveys.read⟩
          rw [(minerLines_snoc events line).1, List.getLast?_concat]
      | handlerReturned dbText returned =>
          intro handling running
          refine absurd running ?_
          obtain ⟨awaited, waits⟩ := Option.isSome_iff_exists.mp enabled.2
          simp only [Session.system, Session.next, Session.handlerReturned, waits]
          split
          · split <;> exact nofun
          · exact nofun
      | poolLine line =>
          exact ih.of_same (readUp_cases _ line session).2.1 (poolLines_snoc events line).1
      | _ => exact ih.of_same rfl (lines_of_isQuiet events _ rfl).1

def ackLine : String :=
  "\x7b\"id\":6,\"method\":\"opoi.kv_rollback_ack\",\"params\":[...]\x7d"

/-- An acknowledgement beside the lines of the examples. -/
def ackSerde : Serde where
  fromStr text :=
    if text = ackLine then
      some (.object [("id", .integer 6), ("method", .string "opoi.kv_rollback_ack"),
        ("params", .array [.object
          [("ok", .bool true), ("request_id", .string "r1"), ("shard_index", .integer 0)]])])
    else
      sampleSerde.fromStr text
  fromValue _ _ := false
  toText _ := ""

def ackEvents : List Event :=
  [.minerLine authorizeLine, .poolLine authorizedLine, .minerLine ackLine]

theorem handlesLast_ack : HandlesLast ackSerde Answer.oneFloats ackEvents
    ((Session.system (ackSerde.typed Answer.oneFloats)).execute (.start 0 .new) ackEvents) := by
  have admitted : (Session.system (ackSerde.typed Answer.oneFloats)).Admits (fun _ _ => True)
      (.start 0 .new) ackEvents :=
    ⟨⟨⟨rfl, rfl, by decide⟩, trivial⟩, ⟨⟨rfl, by decide⟩, trivial⟩,
      ⟨⟨rfl, rfl, by decide⟩, trivial⟩, trivial⟩
  exact handlesLast_of_run admitted.runWith

end StratumBridge.Proxy
