import StratumBridge.Data.IndexMap
import StratumBridge.Data.PartialMap
import StratumBridge.Data.Settings
import StratumBridge.Opoi.Engine
import StratumBridge.Rpc.Client
import StratumBridge.Wire.Codec

/-!
# The setup wizard

`setup_wizard.rs` as functions of what it finds: the environment of the process,
the files `.env` and `.env.example`, the lines typed in and the replies of csd.
What it prints is left out.

A file is the list of its lines.  `dotenvy`, which reads `.env`, is a scan of
the lines that is handed in; what it makes of a line may depend on the
environment and on the lines before.
-/

namespace StratumBridge.Setup

open Data Rpc Wire
open Opoi.OpoiEngine (eqIgnoreAsciiCase)

/-- The environment of a process. -/
abbrev Environment := PartialMap String String

/-- `dotenvy`: what it makes of the lines of a file. -/
structure EnvReader where
  State : Type
  start : Environment → State
  scan : State → String → State × Reading String String

namespace EnvReader

/-- The value that a process with some environment reads for a key. -/
def value (reader : EnvReader) (process : Environment) (file : List String) (key : String) :
    Option String :=
  setting reader.scan (reader.start process) file key

/-- `dotenvy::dotenv`: variables that are set stay as they are. -/
def load (reader : EnvReader) (process : Environment) (file : List String) : Environment :=
  fun key => (process key).or (reader.value process file key)

end EnvReader

/-! ## Texts -/

/-- `char::is_whitespace`. -/
def isWhitespace (char : Char) : Bool :=
  (9 ≤ char.toNat && char.toNat ≤ 13) || char.toNat = 0x20 || char.toNat = 0x85 ||
    char.toNat = 0xa0 || char.toNat = 0x1680 || (0x2000 ≤ char.toNat && char.toNat ≤ 0x200a) ||
    char.toNat = 0x2028 || char.toNat = 0x2029 || char.toNat = 0x202f || char.toNat = 0x205f ||
    char.toNat = 0x3000

/-- Drop characters from the end. -/
def trimEnd (drop : Char → Bool) (chars : List Char) : List Char :=
  (chars.reverse.dropWhile drop).reverse

/-- `trim`. -/
def trim (text : String) : String :=
  String.ofList (trimEnd isWhitespace (text.toList.dropWhile isWhitespace))

/-- The text before the first `=`, if there is one. -/
def keyOf (line : String) : Option String :=
  if '=' ∈ line.toList then some (String.ofList (line.toList.takeWhile (· ≠ '='))) else none

/-- The line `KEY=value`. -/
def settingLine (entry : String × String) : String :=
  entry.1 ++ "=" ++ entry.2

/-- `parse::<usize>`. -/
def parseUsize (text : String) : Option Nat :=
  let digits :=
    match text.toList with
    | '+' :: rest => rest
    | chars => chars
  if digits = [] ∨ ¬ digits.all Char.isDigit then
    none
  else
    let number := digits.foldl (fun number digit => 10 * number + (digit.toNat - '0'.toNat)) 0
    if number < 2 ^ 64 then some number else none

/-- `read_line`: nothing at the end of the input. -/
def readLine : List String → String × List String
  | [] => ("", [])
  | line :: rest =>
      (String.ofList (trimEnd (fun char => char = '\n' ∨ char = '\r') line.toList), rest)

/-! ## Variables -/

/-- `RequiredVar`, without its prompt. -/
structure RequiredVar where
  key : String
  suggestedDefault : Option String

def upstreamPoolAddr : RequiredVar := ⟨"UPSTREAM_POOL_ADDR", none⟩
def csdRpcUrl : RequiredVar := ⟨"CSD_RPC_URL", some "http://127.0.0.1:26124"⟩
def csdRpcUser : RequiredVar := ⟨"CSD_RPC_USER", none⟩
def csdRpcPass : RequiredVar := ⟨"CSD_RPC_PASS", none⟩
def opoiAddresses : RequiredVar := ⟨"OPOI_ADDRESSES", none⟩
def opoiRequesterApiKey : RequiredVar := ⟨"OPOI_REQUESTER_API_KEY", none⟩

/-- `REQUIRED_VARS`. -/
def requiredVars : List RequiredVar :=
  [upstreamPoolAddr, csdRpcUrl, csdRpcUser, csdRpcPass, opoiAddresses, opoiRequesterApiKey]

/-- `is_set`. -/
def isSet (env : Environment) (key : String) : Bool :=
  match env key with
  | none => false
  | some value => trim value ≠ ""

/-- `primary_opoi_address`. -/
def primaryOpoiAddress (env : Environment) : String :=
  trim (String.ofList (((env "OPOI_ADDRESSES").getD "").toList.takeWhile (· ≠ ',')))

/-! ## The dialogue -/

/-- The environment, the lines still to be read, and what was collected. -/
structure Session where
  env : Environment
  stdin : List String
  collected : IndexMap String String

/-- `UnspentOutput`, as far as the wizard keeps it. -/
structure UnspentOutput where
  txid : String
  vout : UInt32

/-- What the wizard meets: the bytes for a random key, whether `.env` can be written, and
the replies of csd to the connection tests, the stake query and `listunspent`. -/
structure Surroundings where
  random : List UInt8
  writable : Bool
  heights : List (Except AppError Nat)
  stake : Except AppError (Option OpoiStake)
  unspent : Except AppError (List UnspentOutput)

/-- `set_collected`.  `set_var` panics at a zero character. -/
def setCollected (key value : String) (session : Session) : Option Session :=
  if '\x00' ∈ value.toList then
    none
  else
    some
      { session with
        env := session.env.insert key value
        collected := session.collected.insert key value }

/-- `prompt_value`.  At the end of the input it asks forever, unless there is a default. -/
def promptValue (var : RequiredVar) : List String → Option (String × List String)
  | [] =>
      let value := var.suggestedDefault.getD ""
      if value = "" then none else some (value, [])
  | line :: rest =>
      let input := trim (readLine (line :: rest)).1
      let value := if input = "" then var.suggestedDefault.getD "" else input
      if value = "" then promptValue var rest else some (value, rest)

/-- `prompt_api_key`. -/
def promptApiKey (random : List UInt8) (stdin : List String) : String × List String :=
  let (line, rest) := readLine stdin
  if trim line = "" then (hexEncode random, rest) else (trim line, rest)

/-- Ask for one value. -/
def ask (random : List UInt8) (var : RequiredVar) (session : Session) : Option Session :=
  if var.key = "OPOI_REQUESTER_API_KEY" then
    let (value, rest) := promptApiKey random session.stdin
    setCollected var.key value { session with stdin := rest }
  else do
    let (value, rest) ← promptValue var session.stdin
    setCollected var.key value { session with stdin := rest }

/-- The first loop of `run_automatic`: ask for what is not set. -/
def askMissing (random : List UInt8) : List RequiredVar → Session → Option Session
  | [], session => some session
  | var :: rest, session =>
      if isSet session.env var.key then
        askMissing random rest session
      else
        (ask random var session).bind (askMissing random rest)

/-- Ask again, set or not. -/
def askAgain : List RequiredVar → Session → Option Session
  | [], session => some session
  | var :: rest, session => do
      let (value, stdin) ← promptValue var session.stdin
      let answered ← setCollected var.key value { session with stdin := stdin }
      askAgain rest answered

/-- The connection test: whether csd answered in the end. -/
def testConnection : List (Except AppError Nat) → Session → Option (Bool × Session)
  | [], _ => none
  | .ok _ :: _, session => some (true, session)
  | .error _ :: rest, session =>
      let (line, stdin) := readLine session.stdin
      let told := { session with stdin := stdin }
      if eqIgnoreAsciiCase (trim line) "y" then
        (askAgain [csdRpcUrl, csdRpcUser, csdRpcPass] told).bind (testConnection rest)
      else
        some (false, told)

/-- `offer_stake_utxo_picker`. -/
def offerStakeUtxoPicker (unspent : Except AppError (List UnspentOutput)) (session : Session) :
    Option Session :=
  match unspent with
  | .error _ => some session
  | .ok [] => some session
  | .ok utxos =>
      let (choice, stdin) := readLine session.stdin
      let told := { session with stdin := stdin }
      match parseUsize (trim choice) with
      | none => some told
      | some 0 => some told
      | some (index + 1) =>
          match utxos[index]? with
          | none => some told
          | some picked => do
              let named ← setCollected "OPOI_COLLATERAL_TXID" picked.txid told
              setCollected "OPOI_COLLATERAL_VOUT" (toString picked.vout.toNat) named

/-- `maybe_offer_stake_picker`. -/
def maybeOfferStakePicker (csd : Surroundings) (session : Session) : Option Session :=
  if primaryOpoiAddress session.env = "" then
    some session
  else
    match csd.stake with
    | .ok (some _) => some session
    | .ok none => offerStakeUtxoPicker csd.unspent session
    | .error _ => offerStakeUtxoPicker csd.unspent session

/-- `run_automatic` up to its write. -/
def interview (csd : Surroundings) (env : Environment) (stdin : List String) : Option Session := do
  let asked ← askMissing csd.random requiredVars ⟨env, stdin, IndexMap.empty⟩
  let (connected, tested) ← testConnection csd.heights asked
  if connected then maybeOfferStakePicker csd tested else some tested

/-! ## The files -/

/-- A line with its value replaced, if its key is one of these. -/
def fillIn (collected : IndexMap String String) (line : String) : String :=
  match (keyOf line).bind fun key => (collected.get? key).map fun value => (key, value) with
  | some entry => settingLine entry
  | none => line

/-- `write_env_file`: the contents. -/
def writeEnvFile (envExample : Option (List String)) (collected : IndexMap String String) :
    List String :=
  match envExample with
  | some lines => lines.map (fillIn collected)
  | none => collected.entries.map settingLine

/-- `run_automatic`: how it ends, and what it writes to `.env`. -/
def runAutomatic (csd : Surroundings) (envExample : Option (List String)) (env : Environment)
    (stdin : List String) : Option (Session × List String) :=
  (interview csd env stdin).map fun session => (session, writeEnvFile envExample session.collected)

/-- `patch_env_file`: the contents. -/
def patchEnvFile (existing : List String) (pairs : IndexMap String String) : List String :=
  existing.map (fillIn pairs) ++
    (pairs.entries.filter fun entry => some entry.1 ∉ existing.map keyOf).map settingLine

/-- `ensure_stake_configured`: the environment and the file `.env` it leaves. -/
def ensureStakeConfigured (csd : Surroundings) (env : Environment) (stdin : List String)
    (envFile : Option (List String)) : Option (Environment × Option (List String)) :=
  if isSet env "OPOI_COLLATERAL_TXID" ∨ primaryOpoiAddress env = "" then
    some (env, envFile)
  else
    match csd.stake with
    | .error _ => some (env, envFile)
    | .ok (some _) => some (env, envFile)
    | .ok none =>
        let (line, rest) := readLine stdin
        if eqIgnoreAsciiCase (trim line) "y" then do
          let session ← offerStakeUtxoPicker csd.unspent ⟨env, rest, IndexMap.empty⟩
          if session.collected.entries = [] ∨ ¬ csd.writable then
            some (session.env, envFile)
          else
            some (session.env, envFile.map fun existing => patchEnvFile existing session.collected)
        else
          some (env, envFile)

/-- How `ensure_configured` ends: the process goes on with an environment, or exits. -/
inductive Configured
  | continues (env : Environment) (envFile : Option (List String))
  | exits (envFile : Option (List String))

/-- `run_manual`. -/
def runManual (csd : Surroundings) (envFile envExample : Option (List String)) : Configured :=
  .exits (if csd.writable then envFile.or envExample else envFile)

/-- `ensure_configured`. -/
def ensureConfigured (reader : EnvReader) (csd : Surroundings) (process : Environment)
    (envFile envExample : Option (List String)) (stdin : List String) : Option Configured :=
  let env := reader.load process (envFile.getD [])
  if requiredVars.all fun var => isSet env var.key then
    (ensureStakeConfigured csd env stdin envFile).map fun left => .continues left.1 left.2
  else
    let (choice, rest) := readLine stdin
    if trim choice = "2" then
      (runAutomatic csd envExample env rest).map fun done =>
        .continues done.1.env (if csd.writable then some done.2 else envFile)
    else
      some (runManual csd envFile envExample)

end StratumBridge.Setup
