import BlockSigner.Chain.Answers
import BlockSigner.KeyLoading

/-! # The two ways of launching

The command line fills in 127.0.0.1, 8545 and a blank coinbase address where
nothing is given; a configuration file yields null for a missing key, and null
is refused further on. The two agree where the file leaves nothing of this to a
default, or where the command line fails as well.
-/

namespace BlockSigner

variable {lib : Libraries}

/-! ## The values of a launch -/

/-- The optional settings, of which the trailing ones may be left out. -/
inductive OptionalSettings where
  | leftOut
  | upToIp (ip : Text)
  | upToPort (ip port : Text)
  | upToVerbose (ip port verbose : Text)

namespace OptionalSettings

def args : OptionalSettings → List Text
  | .leftOut => []
  | .upToIp ip => [ip]
  | .upToPort ip port => [ip, port]
  | .upToVerbose ip port verbose => [ip, port, verbose]

def ip? : OptionalSettings → Option Text
  | .leftOut => none
  | .upToIp ip | .upToPort ip _ | .upToVerbose ip _ _ => some ip

def port? : OptionalSettings → Option Text
  | .leftOut | .upToIp _ => none
  | .upToPort _ port | .upToVerbose _ port _ => some port

def verbose? : OptionalSettings → Option Text
  | .leftOut | .upToIp _ | .upToPort _ _ => none
  | .upToVerbose _ _ verbose => some verbose

end OptionalSettings

/-- How a file gives the coinbase address that is to be looked up. -/
inductive CoinbaseEntry where
  | blank
  | leftOut
  deriving DecidableEq

def CoinbaseEntry.value : CoinbaseEntry → Option Text
  | .blank => some []
  | .leftOut => none

structure LaunchValues where
  signingAddressPrivateKey : Text
  identityAddress : Text
  network : Text
  optional : OptionalSettings

namespace LaunchValues

def args (values : LaunchValues) : List Text :=
  [values.signingAddressPrivateKey, values.identityAddress, values.network] ++ values.optional.args

/-- A file that holds exactly the given keys. -/
def properties (values : LaunchValues) (coinbase : CoinbaseEntry) : Properties := fun key =>
  if key = "signingAddressPrivateKey".toList then some values.signingAddressPrivateKey
  else if key = "identityAddress".toList then some values.identityAddress
  else if key = "network".toList then some values.network
  else if key = "ip".toList then values.optional.ip?
  else if key = "port".toList then values.optional.port?
  else if key = "verboseLoggingEnabled".toList then values.optional.verbose?
  else if key = "coinbaseAddress".toList then coinbase.value
  else none

def ip (values : LaunchValues) : Text := values.optional.ip?.getD "127.0.0.1".toList

def port (values : LaunchValues) : Text := values.optional.port?.getD "8545".toList

def logger (values : LaunchValues) : Logger := ⟨parseBoolean values.optional.verbose?⟩

def rpc (values : LaunchValues) : RPC := ⟨⟨values.ip, values.port⟩, values.logger⟩

/-- What the command line resolves to. -/
def commandLine (values : LaunchValues) : Settings where
  signingAddressPrivateKey := values.signingAddressPrivateKey
  identityAddressString := values.identityAddress
  networkName := values.network
  ip := values.ip
  port := values.port
  verboseLoggingEnabled := values.logger.verboseLoggingEnabled
  coinbaseAddress := some []

/-- What the file resolves to. -/
def configured (values : LaunchValues) (coinbase : CoinbaseEntry) : Settings where
  signingAddressPrivateKey := values.signingAddressPrivateKey
  identityAddressString := values.identityAddress
  networkName := values.network
  ip := values.optional.ip?
  port := values.optional.port?
  verboseLoggingEnabled := values.logger.verboseLoggingEnabled
  coinbaseAddress := coinbase.value

end LaunchValues

/-! ## Resolution -/

theorem resolve_args (files : Text → Except JavaException Properties) (values : LaunchValues) :
    resolve files values.args = .ok (some values.commandLine) := by
  obtain ⟨key, identity, network, optional⟩ := values
  cases optional <;> rfl

theorem resolve_config {files : Text → Except JavaException Properties} {path : Text}
    {values : LaunchValues} {coinbase : CoinbaseEntry}
    (holds : files path = .ok (values.properties coinbase)) :
    resolve files ["-config".toList, path] = .ok (some (values.configured coinbase)) := by
  have loaded : Config.load files path = .ok ⟨values.properties coinbase⟩ := by
    simp only [Config.load, holds]
    rfl
  change (Config.load files path >>= fun _ => _) = _
  rw [loaded]
  rfl

/-! ## The coinbase look-up -/

/-- The ways in which looking up the coinbase address fails. -/
inductive LookUpFails (lib : Libraries) (rpc : RPC) (network identity : Text) (answer : CurlRun) :
    Prop where
  | network : stakerRegistryAddress network = .error e →
      LookUpFails lib rpc network identity answer
  | identity : getAddressFromString lib identity = .error e →
      LookUpFails lib rpc network identity answer
  | answer : rpc.bytesAnswer lib answer = .error e → LookUpFails lib rpc network identity answer
  | encoding {value : Option Bytes} : rpc.bytesAnswer lib answer = .ok value →
      lib.decodeOneAddress value = .error e → LookUpFails lib rpc network identity answer
  | null {value : Option Bytes} : rpc.bytesAnswer lib answer = .ok value →
      lib.decodeOneAddress value = .ok none → LookUpFails lib rpc network identity answer

/-- An outcome in which an exception was thrown. -/
def Fails {α : Type} (outcome : Except JavaException α × World) : Prop := ∃ e, outcome.1 = .error e

theorem not_fails_ok {α : Type} (a : α) (w : World) : ¬ Fails (.ok a, w) := by
  intro ⟨e, thrown⟩
  cases thrown

/-- The coinbase address that the answer to the look-up gives. -/
def coinbaseOf (lib : Libraries) (rpc : RPC) (answer : CurlRun) : Except JavaException Address := do
  let returnValue ← rpc.bytesAnswer lib answer
  let decoded ← lib.decodeOneAddress returnValue
  match decoded with
  | none => throw ⟨.nullPointer, none⟩
  | some address => Address.ofBytes address.toByteArray

theorem getCoinbaseAddress_result (rpc : RPC) (logger : Logger) {network identity : Text} (w : World)
    {registry address : Address} (found : stakerRegistryAddress network = .ok registry)
    (converted : getAddressFromString lib identity = .ok address) :
    ((getCoinbaseAddress lib rpc logger (some network) (some identity)).run w).1 =
      coinbaseOf lib rpc (w.node 0) := by
  simp only [getCoinbaseAddress, found, converted, Exec.bind_run, Exec.liftM_run, Logger.log_run,
    RPC.call_run, World.emit_node, coinbaseOf]
  cases rpc.bytesAnswer lib (w.node 0) with
  | error e => rfl
  | ok value =>
      simp only [bind, Except.bind]
      cases lib.decodeOneAddress value with
      | error e => rfl
      | ok decoded =>
          cases decoded with
          | none => rfl
          | some coinbase =>
              simp only [Address.toByteArray, Address.ofBytes_raw]
              rfl

theorem coinbaseOf_fails_iff (rpc : RPC) (answer : CurlRun) :
    (∃ e, coinbaseOf lib rpc answer = .error e) ↔
      (∃ e, rpc.bytesAnswer lib answer = .error e) ∨
      ∃ value, rpc.bytesAnswer lib answer = .ok value ∧
        ((∃ e, lib.decodeOneAddress value = .error e) ∨ lib.decodeOneAddress value = .ok none) := by
  simp only [coinbaseOf, bind, Except.bind]
  cases rpc.bytesAnswer lib answer with
  | error e => simp
  | ok value =>
      cases decoded : lib.decodeOneAddress value with
      | error e => simp [decoded]
      | ok found =>
          cases found with
          | none => simp [decoded, throw, throwThe, MonadExceptOf.throw]
          | some coinbase => simp [decoded, Address.toByteArray]

theorem getCoinbaseAddress_fails_iff (rpc : RPC) (logger : Logger) (network identity : Text)
    (w : World) :
    Fails ((getCoinbaseAddress lib rpc logger (some network) (some identity)).run w) ↔
      LookUpFails lib rpc network identity (w.node 0) := by
  cases found : stakerRegistryAddress network with
  | error e =>
      have thrown : Fails ((getCoinbaseAddress lib rpc logger (some network) (some identity)).run w) := by
        simp only [getCoinbaseAddress, found]
        exact ⟨e, rfl⟩
      exact iff_of_true thrown (.network found)
  | ok registry =>
      cases converted : getAddressFromString lib identity with
      | error e =>
          have thrown :
              Fails ((getCoinbaseAddress lib rpc logger (some network) (some identity)).run w) := by
            simp only [getCoinbaseAddress, found, converted]
            exact ⟨e, rfl⟩
          exact iff_of_true thrown (.identity converted)
      | ok address =>
          rw [Fails, getCoinbaseAddress_result rpc logger w found converted, coinbaseOf_fails_iff]
          constructor
          · intro fails
            rcases fails with ⟨e, thrown⟩ | ⟨value, answered, ⟨e, thrown⟩ | null⟩
            · exact .answer thrown
            · exact .encoding answered thrown
            · exact .null answered null
          · intro fails
            cases fails with
            | network other => rw [found] at other; cases other
            | identity other => rw [converted] at other; cases other
            | answer thrown => exact .inl ⟨_, thrown⟩
            | encoding answered thrown => exact .inr ⟨_, answered, .inl ⟨_, thrown⟩⟩
            | null answered null => exact .inr ⟨_, answered, .inr null⟩

/-! ## Starting -/

theorem start_of_rejected {settings : Settings} {e : JavaException}
    (rejected : getStakerPrivateKey lib settings.signingAddressPrivateKey = .error e) (w : World) :
    Fails ((start lib settings).run w) := by
  simp only [start, rejected]
  exact ⟨e, rfl⟩

theorem accepted_of_start {settings : Settings} {w v : World} {signer : Signer lib}
    (started : (start lib settings).run w = (.ok signer, v)) :
    ∃ key, getStakerPrivateKey lib settings.signingAddressPrivateKey = .ok key := by
  cases accepted : getStakerPrivateKey lib settings.signingAddressPrivateKey with
  | ok key => exact ⟨key, rfl⟩
  | error e =>
      have fails := start_of_rejected accepted w
      rw [started] at fails
      exact absurd fails (not_fails_ok _ _)

/-- Settings with a null among ip, port and coinbase address do not start. -/
theorem start_of_null {settings : Settings}
    (null : settings.ip = none ∨ settings.port = none ∨ settings.coinbaseAddress = none) (w : World) :
    Fails ((start lib settings).run w) := by
  cases accepted : getStakerPrivateKey lib settings.signingAddressPrivateKey with
  | error e => exact start_of_rejected accepted w
  | ok key =>
      obtain ⟨privateKey, identity, network, ip, port, verbose, coinbase⟩ := settings
      simp only at accepted null
      simp only [start, accepted]
      cases ip with
      | none => exact ⟨_, rfl⟩
      | some ip =>
          cases port with
          | none => exact ⟨_, rfl⟩
          | some port =>
              cases coinbase with
              | none => exact ⟨_, rfl⟩
              | some coinbase => simp at null

/-- With an accepted key the command line fails where the look-up does. -/
theorem start_commandLine_fails_iff {values : LaunchValues} {key : PrivateKey lib}
    (accepted : getStakerPrivateKey lib values.signingAddressPrivateKey = .ok key) (w : World) :
    Fails ((start lib values.commandLine).run w) ↔
      LookUpFails lib values.rpc values.network values.identityAddress (w.node 0) := by
  rw [← getCoinbaseAddress_fails_iff values.rpc values.logger]
  simp only [start, LaunchValues.commandLine, accepted]
  change Fails ((getCoinbaseAddress lib values.rpc values.logger (some values.network)
    (some values.identityAddress) >>= fun coinbase => do
      values.logger.log "Producing blocks now..".toList
      pure ⟨key, values.rpc, coinbase, values.logger⟩ : Exec (Signer lib)).run w) ↔ _
  cases looked : (getCoinbaseAddress lib values.rpc values.logger (some values.network)
      (some values.identityAddress)).run w with
  | mk result w' =>
      cases result with
      | error e =>
          rw [Exec.bind_error looked]
          exact iff_of_true ⟨e, rfl⟩ ⟨e, rfl⟩
      | ok coinbase =>
          rw [Exec.bind_ok looked]
          exact iff_of_false (not_fails_ok _ _) (not_fails_ok _ _)

theorem main_ok {files : Text → Except JavaException Properties} {args : List Text}
    {settings : Settings} (resolved : resolve files args = .ok (some settings)) {w w' : World}
    {signer : Signer lib} (started : (start lib settings).run w = (.ok signer, w')) :
    (main lib files args).run w = (.ok (some signer), w') := by
  simp only [main, resolved]
  rw [Exec.bind_ok (Exec.liftM_run _ _)]
  exact Exec.bind_ok started

theorem main_error {files : Text → Except JavaException Properties} {args : List Text}
    {settings : Settings} (resolved : resolve files args = .ok (some settings)) {w w' : World}
    {e : JavaException} (failed : (start lib settings).run w = (.error e, w')) :
    (main lib files args).run w = (.error e, w') := by
  simp only [main, resolved]
  rw [Exec.bind_ok (Exec.liftM_run _ _)]
  exact Exec.bind_error failed

/-- A signer comes from settings that start it. -/
theorem start_of_main {files : Text → Except JavaException Properties} {args : List Text}
    {settings : Settings} (resolved : resolve files args = .ok (some settings)) {w v : World}
    {signer : Signer lib} (launched : (main lib files args).run w = (.ok (some signer), v)) :
    (start lib settings).run w = (.ok signer, v) := by
  cases started : (start lib settings).run w with
  | mk result left =>
      cases result with
      | error e =>
          rw [main_error resolved started] at launched
          cases launched
      | ok other =>
          rw [main_ok resolved started] at launched
          cases launched
          rfl

/-- `main` fails where the settings its arguments resolve to do not start. -/
theorem main_fails_iff {files : Text → Except JavaException Properties} {args : List Text}
    {settings : Settings} (resolved : resolve files args = .ok (some settings)) (w : World) :
    Fails ((main lib files args).run w) ↔ Fails ((start lib settings).run w) := by
  cases started : (start lib settings).run w with
  | mk result w' =>
      cases result with
      | error e =>
          rw [main_error resolved started]
          exact iff_of_true ⟨e, rfl⟩ ⟨e, rfl⟩
      | ok signer =>
          rw [main_ok resolved started]
          exact iff_of_false (not_fails_ok _ _) (not_fails_ok _ _)

/-- With any settings `main` enters the loop or fails. -/
theorem main_reaches_or_fails {files : Text → Except JavaException Properties} {args : List Text}
    {settings : Settings} (resolved : resolve files args = .ok (some settings)) (w : World) :
    (∃ (signer : Signer lib) (w' : World), (main lib files args).run w = (.ok (some signer), w')) ∨
      Fails ((main lib files args).run w) := by
  cases started : (start lib settings).run w with
  | mk result w' =>
      cases result with
      | error e => exact .inr ⟨e, by rw [main_error resolved started]⟩
      | ok signer => exact .inl ⟨signer, w', main_ok resolved started⟩

/-! ## Agreement -/

/-- The file reaches the loop wherever the command line does, with the same
    signer and after the same events, and fails wherever it fails. -/
def LaunchesAgree (commandLine configured : Except JavaException (Option (Signer lib)) × World) :
    Prop :=
  (∀ signer w, commandLine = (.ok (some signer), w) → configured = (.ok (some signer), w)) ∧
    (Fails commandLine → Fails configured)

/-- The file leaves nothing to a default, or the command line fails as well. -/
def Launchable (lib : Libraries) (values : LaunchValues) (coinbase : CoinbaseEntry)
    (answer : CurlRun) : Prop :=
  (values.optional.ip? ≠ none ∧ values.optional.port? ≠ none ∧ coinbase = .blank) ∨
  (∃ e, getStakerPrivateKey lib values.signingAddressPrivateKey = .error e) ∨
  LookUpFails lib values.rpc values.network values.identityAddress answer

/-- A complete file resolves to the settings of the command line. -/
theorem configured_eq_commandLine {values : LaunchValues} {coinbase : CoinbaseEntry}
    (ip : values.optional.ip? ≠ none) (port : values.optional.port? ≠ none)
    (blank : coinbase = .blank) : values.configured coinbase = values.commandLine := by
  subst blank
  obtain ⟨ip', present⟩ := Option.ne_none_iff_exists'.mp ip
  obtain ⟨port', present'⟩ := Option.ne_none_iff_exists'.mp port
  simp only [LaunchValues.configured, LaunchValues.commandLine, LaunchValues.ip, LaunchValues.port,
    present, present', CoinbaseEntry.value, Option.getD_some]

/-- Any other file does not start. -/
theorem configured_fails {values : LaunchValues} {coinbase : CoinbaseEntry}
    (incomplete : ¬ (values.optional.ip? ≠ none ∧ values.optional.port? ≠ none ∧ coinbase = .blank))
    (w : World) : Fails ((start lib (values.configured coinbase)).run w) := by
  apply start_of_null
  simp only [LaunchValues.configured]
  by_cases ip : values.optional.ip? = none
  · exact .inl ip
  · by_cases port : values.optional.port? = none
    · exact .inr (.inl port)
    · cases coinbase with
      | blank => exact absurd ⟨ip, port, rfl⟩ incomplete
      | leftOut => exact .inr (.inr rfl)

theorem commandLine_fails_iff (files : Text → Except JavaException Properties)
    (values : LaunchValues) (w : World) :
    Fails ((main lib files values.args).run w) ↔
      (∃ e, getStakerPrivateKey lib values.signingAddressPrivateKey = .error e) ∨
        LookUpFails lib values.rpc values.network values.identityAddress (w.node 0) := by
  rw [main_fails_iff (resolve_args files values)]
  cases accepted : getStakerPrivateKey lib values.signingAddressPrivateKey with
  | error e => exact iff_of_true (start_of_rejected accepted w) (.inl ⟨e, rfl⟩)
  | ok key => simp [start_commandLine_fails_iff accepted]

/-- The two ways of launching agree exactly for files that name ip and port and
    leave the coinbase address blank, and for values the command line rejects. -/
theorem launchesAgree_iff {files : Text → Except JavaException Properties} {path : Text}
    {values : LaunchValues} {coinbase : CoinbaseEntry}
    (holds : files path = .ok (values.properties coinbase)) (w : World) :
    LaunchesAgree ((main lib files values.args).run w)
        ((main lib files ["-config".toList, path]).run w) ↔
      Launchable lib values coinbase (w.node 0) := by
  by_cases complete :
      values.optional.ip? ≠ none ∧ values.optional.port? ≠ none ∧ coinbase = .blank
  · have same := configured_eq_commandLine complete.1 complete.2.1 complete.2.2
    have equal : (main lib files ["-config".toList, path]).run w =
        (main lib files values.args).run w := by
      simp only [main, resolve_config holds, resolve_args files values, same]
    rw [equal]
    exact iff_of_true ⟨fun _ _ reached => reached, id⟩ (.inl complete)
  · have failed : Fails ((main lib files ["-config".toList, path]).run w) :=
      (main_fails_iff (resolve_config holds) w).mpr (configured_fails complete w)
    constructor
    · intro agrees
      rcases main_reaches_or_fails (resolve_args files values) w with ⟨signer, w', reached⟩ | fails
      · rw [agrees.1 signer w' reached] at failed
        exact absurd failed (not_fails_ok _ _)
      · exact .inr ((commandLine_fails_iff files values w).mp fails)
    · intro launchable
      rcases launchable with complete' | rejected
      · exact absurd complete' complete
      · have fails := (commandLine_fails_iff files values w).mpr rejected
        refine ⟨?_, fun _ => failed⟩
        intro signer w' reached
        rw [reached] at fails
        exact absurd fails (not_fails_ok _ _)

/-! ## A launch that works and one that does not -/

namespace Reference

/-- The values of a staker on the test network. -/
def launch (optional : OptionalSettings) : LaunchValues where
  signingAddressPrivateKey := Hex.encode key.getPrivateKeyBytes
  identityAddress := Hex.encode (List.replicate 32 0xa0)
  network := "amity".toList
  optional := optional

/-- A node that knows the coinbase address. -/
def registryAnswer : CurlRun :=
  resultRun (.str (RpcCall.hexText (0x22 :: List.replicate 32 0xa1)))

theorem launch_looksUp (optional : OptionalSettings) :
    ¬ LookUpFails referenceLibraries (launch optional).rpc (launch optional).network
      (launch optional).identityAddress registryAnswer := by
  intro fails
  cases fails with
  | network unsupported => cases unsupported
  | identity rejected =>
      have data : Hex.Data (launch optional).identityAddress (List.replicate 32 0xa0) :=
        Hex.data_encode _
      rw [getAddressFromString_data hex ⟨_, List.length_replicate⟩ data] at rejected
      cases rejected
  | answer thrown =>
      rw [registryAnswer, resultRun_bytes] at thrown
      cases thrown
  | encoding answered thrown =>
      rw [registryAnswer, resultRun_bytes] at answered
      cases answered
      cases thrown
  | null answered null =>
      rw [registryAnswer, resultRun_bytes] at answered
      cases answered
      cases null

end Reference

/-- A complete file reaches the loop as the command line does. -/
theorem launchesAgree_complete :
    LaunchesAgree
      ((main referenceLibraries (fun _ => .ok ((Reference.launch
          (.upToPort "10.0.0.1".toList "8545".toList)).properties .blank))
        (Reference.launch (.upToPort "10.0.0.1".toList "8545".toList)).args).run
          ⟨fun _ => Reference.registryAnswer, [], none⟩)
      ((main referenceLibraries (fun _ => .ok ((Reference.launch
          (.upToPort "10.0.0.1".toList "8545".toList)).properties .blank))
        ["-config".toList, "config.properties".toList]).run
          ⟨fun _ => Reference.registryAnswer, [], none⟩) :=
  (launchesAgree_iff rfl _).mpr (.inl ⟨Option.some_ne_none _, Option.some_ne_none _, rfl⟩)

/-- Without optional settings the command line reaches the loop, and the file
    with the same keys does not. -/
theorem launch_without_ip_not_agree :
    ∃ (files : Text → Except JavaException Properties) (w : World),
      files "config.properties".toList = .ok ((Reference.launch .leftOut).properties .blank) ∧
      ¬ LaunchesAgree ((main referenceLibraries files (Reference.launch .leftOut).args).run w)
        ((main referenceLibraries files ["-config".toList, "config.properties".toList]).run w) := by
  let files : Text → Except JavaException Properties := fun _ =>
    .ok ((Reference.launch .leftOut).properties .blank)
  have holds : files "config.properties".toList =
      .ok ((Reference.launch .leftOut).properties .blank) := rfl
  refine ⟨files, ⟨fun _ => Reference.registryAnswer, [], none⟩, holds, ?_⟩
  intro agrees
  have started : ¬ Fails ((main referenceLibraries files (Reference.launch .leftOut).args).run
      ⟨fun _ => Reference.registryAnswer, [], none⟩) := by
    rw [commandLine_fails_iff]
    rintro (⟨e, rejected⟩ | fails)
    · have accepted := getStakerPrivateKey_encode Reference.hex Reference.key
      rw [Reference.launch] at rejected
      rw [accepted] at rejected
      cases rejected
    · exact Reference.launch_looksUp .leftOut fails
  have failed : Fails ((main referenceLibraries files
      ["-config".toList, "config.properties".toList]).run
        ⟨fun _ => Reference.registryAnswer, [], none⟩) := by
    rw [main_fails_iff (resolve_config holds)]
    exact configured_fails (fun complete => complete.1 rfl) _
  rcases main_reaches_or_fails (resolve_args files (Reference.launch .leftOut))
    ⟨fun _ => Reference.registryAnswer, [], none⟩ with ⟨signer, w', reached⟩ | fails
  · rw [agrees.1 signer w' reached] at failed
    exact not_fails_ok _ _ failed
  · exact started fails

end BlockSigner
