import BlockSigner.SideBySide
import BlockSigner.KeyLoading
import BlockSigner.Launch
import BlockSigner.Runs

/-! # What the signer reveals of its key

Two launches that differ in the signing key, with one sequence of node
responses. Where the public key, the signatures and the proofs do not tell the
keys apart, neither do the payloads and the log lines, in any iteration and on
any exit of it.
-/

namespace BlockSigner

variable {lib : Libraries} {T : Int → Int → Prop}

/-! ## Two keys -/

/-- Nothing that is computed with the keys differs. -/
structure Alike (key key' : PrivateKey lib) : Prop where
  publicKeys : CryptoUtils.derivePublicKey lib key.getPrivateKeyBytes =
    CryptoUtils.derivePublicKey lib key'.getPrivateKeyBytes
  signatures : ∀ message, lib.signMessageFromKeyBytes key.getPrivateKeyBytes message =
    lib.signMessageFromKeyBytes key'.getPrivateKeyBytes message
  proofs : ∀ message : Bytes, VRF_Ed25519.generateProof lib.sodium message key.getKeyPairBytes =
    VRF_Ed25519.generateProof lib.sodium message key'.getKeyPairBytes

namespace Alike

variable {key key' : PrivateKey lib}

theorem getPublicKeyBytes (alike : Alike key key') :
    key.getPublicKeyBytes = key'.getPublicKeyBytes := by
  have equal : Except.ok key.publicKeyBytes = Except.ok key'.publicKeyBytes :=
    key.derived.symm.trans (alike.publicKeys.trans key'.derived)
  exact Except.ok.inj equal

theorem getNextSeed (alike : Alike key key') (oldSeed : Option Bytes) :
    getNextSeed lib key oldSeed = getNextSeed lib key' oldSeed := by
  cases oldSeed with
  | none => rfl
  | some oldSeed =>
      simp only [BlockSigner.getNextSeed, alike.signatures, alike.proofs]

end Alike

/-! ## The loop -/

namespace Signer

/-- The same signer with another key. -/
def withKey (signer : Signer lib) (key : PrivateKey lib) : Signer lib :=
  { signer with stakerPrivateKey := key }

variable {signer : Signer lib} {key : PrivateKey lib}

theorem submitBlock_same (signs : KeepsSign T) (alike : Alike signer.stakerPrivateKey key)
    (blockHash : Bytes) :
    SideBySide T Eq (signer.submitBlock blockHash) ((signer.withKey key).submitBlock blockHash) := by
  unfold submitBlock
  rw [alike.signatures]
  apply SideBySide.bind_same (.lift _)
  intro signature
  apply SideBySide.bind_same (.submitSignature signs signer.rpc signature blockHash)
  intro answer
  by_cases accepted : parseBoolean answer
  · simp only [accepted, if_true]
    apply SideBySide.bind_same (.log signer.logger _)
    intro _
    apply SideBySide.bind_same (.setLastSubmittedHash blockHash)
    intro _
    exact .pure rfl
  · simp only [accepted]
    exact .pure rfl

theorem body_same (signs : KeepsSign T) (alike : Alike signer.stakerPrivateKey key) :
    SideBySide T Eq signer.body (signer.withKey key).body := by
  unfold body
  apply SideBySide.bind_same (.getSeed signs signer.rpc)
  intro oldSeed
  rw [alike.getNextSeed]
  apply SideBySide.bind_same (.lift _)
  intro nextSeed
  cases nextSeed with
  | none =>
      exact .log_then signer.logger _ rfl
  | some seed =>
      dsimp only
      rw [alike.getPublicKeyBytes]
      apply SideBySide.bind_same (.submitSeed signs signer.rpc seed _ _)
      intro blockHashToSign
      cases blockHashToSign with
      | none =>
          exact .log_then signer.logger _ rfl
      | some blockHash =>
          apply SideBySide.bind_same .getLastSubmittedHash
          intro lastSubmittedHash
          by_cases fresh : lastSubmittedHash ≠ some blockHash
          · simp only [if_pos fresh]
            exact submitBlock_same signs alike blockHash
          · simp only [if_neg fresh]
            exact .log_then signer.logger _ rfl

theorem pass_same (signs : KeepsSign T) (alike : Alike signer.stakerPrivateKey key) :
    SideBySide T Eq signer.pass (signer.withKey key).pass := by
  apply SideBySide.tryCatch (body_same signs alike)
  intro e
  exact .log_then signer.logger _ rfl

end Signer

/-- The same turn, at related clock readings. -/
def SameTurn (T : Int → Int → Prop) (turn turn' : Turn) : Prop := ∀ i, SameRun T (turn i) (turn' i)

/-- The same iteration, but for the times of its calls. -/
structure SameIteration (T : Int → Int → Prop) (iteration iteration' : Iteration) : Prop where
  before : iteration.before = iteration'.before
  after : iteration.after = iteration'.after
  events : List.Forall₂ (SameEvent T) iteration.events iteration'.events
  exit : iteration.exit = iteration'.exit

section

variable {signer : Signer lib} {key : PrivateKey lib}

theorem iterate_same (signs : KeepsSign T) (alike : Alike signer.stakerPrivateKey key)
    (last : Option Bytes) {turn turn' : Turn} (same : SameTurn T turn turn') :
    SameIteration T (iterate signer last turn) (iterate (signer.withKey key) last turn') := by
  have worlds : SameWorld T ⟨turn, [], last⟩ ⟨turn', [], last⟩ := ⟨same, .nil, rfl⟩
  obtain ⟨exit, left⟩ := Signer.pass_same signs alike _ _ worlds
  exact ⟨rfl, left.lastSubmittedHash, left.events, exit.eq⟩

/-- Each iteration starts both signers from the hash that the one before left. -/
theorem runFrom_same (signs : KeepsSign T) (alike : Alike signer.stakerPrivateKey key)
    {turns turns' : List Turn} (same : List.Forall₂ (SameTurn T) turns turns') (last : Option Bytes) :
    List.Forall₂ (SameIteration T) (runFrom signer last turns)
      (runFrom (signer.withKey key) last turns') := by
  induction same generalizing last with
  | nil => exact .nil
  | cons turn turns ih =>
      have first := iterate_same signs alike last turn
      rw [runFrom_cons, runFrom_cons, ← first.after]
      exact .cons first (ih _)

end

/-! ## The launch -/

theorem getCoinbaseAddress_same (signs : KeepsSign T) (rpc : RPC) (logger : Logger)
    (networkName identityAddressString : Option Text) :
    SideBySide T Eq (getCoinbaseAddress lib rpc logger networkName identityAddressString)
      (getCoinbaseAddress lib rpc logger networkName identityAddressString) := by
  cases identityAddressString with
  | none => exact .throw _
  | some identityAddressString =>
      cases networkName with
      | none => exact .throw _
      | some networkName =>
          unfold getCoinbaseAddress
          apply SideBySide.bind_same (.lift _)
          intro registry
          apply SideBySide.bind_same (.log logger _)
          intro _
          apply SideBySide.bind_same (.lift _)
          intro identity
          apply SideBySide.bind_same (.call signs rpc _)
          intro returnValue
          apply SideBySide.bind_same (.lift _)
          intro decoded
          cases decoded with
          | none => exact .throw _
          | some address =>
              apply SideBySide.bind_same (.lift _)
              intro coinbase
              exact .log_then logger _ rfl

/-- Past its key a launch does not look at the key. -/
theorem start_same (signs : KeepsSign T) {settings : Settings} {other : Option Text}
    {key key' : PrivateKey lib}
    (accepted : getStakerPrivateKey lib settings.signingAddressPrivateKey = .ok key)
    (accepted' : getStakerPrivateKey lib other = .ok key') :
    SideBySide T (fun signer signer' => signer.stakerPrivateKey = key ∧ signer' = signer.withKey key')
      (start lib settings) (start lib { settings with signingAddressPrivateKey := other }) := by
  unfold start
  simp only [accepted, accepted']
  apply SideBySide.bind (Q := fun a b => a = key ∧ b = key') (.pure ⟨rfl, rfl⟩)
  rintro _ _ ⟨rfl, rfl⟩
  apply SideBySide.bind_same (.lift _)
  intro rpc
  cases settings.coinbaseAddress with
  | none => exact .throw _
  | some coinbaseAddress =>
      dsimp only
      by_cases given : coinbaseAddress.length > 0
      · simp only [if_pos given]
        apply SideBySide.bind_same (.lift _)
        intro coinbase
        exact .log_then _ _ ⟨rfl, rfl⟩
      · simp only [if_neg given]
        apply SideBySide.bind_same (getCoinbaseAddress_same signs rpc _ _ _)
        intro coinbase
        exact .log_then _ _ ⟨rfl, rfl⟩

/-! ## What an observer sees of a run -/

/-- The payloads and log lines of a launch and of the iterations after it. -/
def transcript (launched : World) (iterations : List Iteration) : List Event :=
  launched.events ++ iterations.flatMap Iteration.events

def payloads (events : List Event) : List Text := (calls events).map Prod.fst

theorem payloads_same {events events' : List Event}
    (same : List.Forall₂ (SameEvent T) events events') : payloads events = payloads events' := by
  induction same with
  | nil => rfl
  | cons event _ ih =>
      simp only [payloads, calls] at ih ⊢
      cases event with
      | log _ => exact ih
      | @curl answer answer' command _ =>
          simp only [List.filterMap_cons, Event.call?]
          cases command[6]? with
          | none => exact ih
          | some payload => exact congrArg (payload :: ·) ih

theorem transcript_same {launched launched' : World} (start : SameWorld T launched launched')
    {iterations iterations' : List Iteration}
    (same : List.Forall₂ (SameIteration T) iterations iterations') :
    List.Forall₂ (SameEvent T) (transcript launched iterations)
      (transcript launched' iterations') := by
  apply List.rel_append start.events
  exact List.rel_flatMap same fun _ _ iteration => iteration.events

/-! ## Noninterference -/

section

variable {files files' : Text → Except JavaException Properties} {args args' : List Text}
  {settings : Settings} {other : Option Text} {w w' v : World} {signer : Signer lib}
  {key : PrivateKey lib}

/-- A launch with the other key succeeds as well, with the same signer but for
    the key. -/
theorem main_same (signs : KeepsSign T) (same : SameWorld T w w')
    (resolved : resolve files args = .ok (some settings))
    (resolved' : resolve files' args' =
      .ok (some { settings with signingAddressPrivateKey := other }))
    (launched : (main lib files args).run w = (.ok (some signer), v))
    (accepted' : getStakerPrivateKey lib other = .ok key) :
    ∃ v', (main lib files' args').run w' = (.ok (some (signer.withKey key)), v') ∧
      SameWorld T v v' := by
  have started := start_of_main resolved launched
  obtain ⟨own, accepted⟩ := accepted_of_start started
  obtain ⟨outcome, left⟩ := start_same signs accepted accepted' w w' same
  change TwoRuns.Outcome _ ((start lib settings).run w).1
    ((start lib { settings with signingAddressPrivateKey := other }).run w').1 at outcome
  change SameWorld T ((start lib settings).run w).2
    ((start lib { settings with signingAddressPrivateKey := other }).run w').2 at left
  cases started' : (start lib { settings with signingAddressPrivateKey := other }).run w' with
  | mk result v' =>
      rw [started, started'] at outcome left
      cases outcome with
      | ok signers =>
          obtain ⟨_, rfl⟩ := signers
          exact ⟨v', main_ok resolved' started', left⟩

theorem run_same (signs : KeepsSign T) {v' : World} (start : SameWorld T v v')
    (alike : Alike signer.stakerPrivateKey key) {turns turns' : List Turn}
    (same : List.Forall₂ (SameTurn T) turns turns') :
    List.Forall₂ (SameEvent T) (transcript v (run signer turns))
      (transcript v' (run (signer.withKey key) turns')) :=
  transcript_same start (runFrom_same signs alike same none)

/-- With one node and one clock, two launches that differ in the key have one
    transcript. With clocks that agree in sign they have the same payloads, and the
    same lines but for the times of calls. -/
theorem launch_noninterference (resolved : resolve files args = .ok (some settings))
    (resolved' : resolve files' args' =
      .ok (some { settings with signingAddressPrivateKey := other }))
    (launched : (main lib files args).run w = (.ok (some signer), v))
    (accepted' : getStakerPrivateKey lib other = .ok key)
    (alike : Alike signer.stakerPrivateKey key) :
    (∃ v', (main lib files' args').run w = (.ok (some (signer.withKey key)), v') ∧
      ∀ turns, transcript v (run signer turns) =
        transcript v' (run (signer.withKey key) turns)) ∧
    ∀ (T : Int → Int → Prop) (w' : World), KeepsSign T → SameWorld T w w' →
      ∃ v', (main lib files' args').run w' = (.ok (some (signer.withKey key)), v') ∧
        ∀ turns turns', List.Forall₂ (SameTurn T) turns turns' →
          payloads (transcript v (run signer turns)) =
            payloads (transcript v' (run (signer.withKey key) turns')) ∧
          List.Forall₂ (SameEvent T) (transcript v (run signer turns))
            (transcript v' (run (signer.withKey key) turns')) := by
  constructor
  · have signs : KeepsSign Eq := fun clock => clock ▸ Iff.rfl
    obtain ⟨v', launched', left⟩ :=
      main_same signs (.refl w) resolved resolved' launched accepted'
    refine ⟨v', launched', ?_⟩
    intro turns
    have node : List.Forall₂ (SameTurn Eq) turns turns :=
      List.forall₂_same.mpr fun turn _ i => .refl (turn i)
    have events := (run_same signs left alike node).imp fun _ _ event => event.eq
    rwa [List.forall₂_eq_eq_eq] at events
  · intro T w' signs same
    obtain ⟨v', launched', left⟩ :=
      main_same signs same resolved resolved' launched accepted'
    refine ⟨v', launched', ?_⟩
    intro turns turns' node
    have events := run_same signs left alike node
    exact ⟨payloads_same events, events⟩

end

/-! ## Two keys that nothing tells apart -/

namespace Blind

/-- The reference libraries with a cryptography that does not look at the seed. -/
def libraries : Libraries :=
  { referenceLibraries with
    eddsaAbyte := fun _ => pure (List.replicate 32 5)
    signMessageFromKeyBytes := fun _ message => pure (Reference.fit 64 message) }

def key {seed : Bytes} (size : seed.length = 32) : PrivateKey libraries where
  privateKeyBytes := seed
  publicKeyBytes := List.replicate 32 5
  size := size
  derived := by
    rw [CryptoUtils.derivePublicKey_eq size]
    rfl

theorem generateProof_key {seed : Bytes} (size : seed.length = 32) (message : Bytes) :
    VRF_Ed25519.generateProof libraries.sodium message (key size).getKeyPairBytes =
      .ok (Reference.fit 80 (List.replicate 32 5 ++ message)) := by
  have pair : (key size).getKeyPairBytes.length = 64 := by
    simp [PrivateKey.getKeyPairBytes, key, size]
  have dropped : (key size).getKeyPairBytes.drop 32 = List.replicate 32 5 := List.drop_left' size
  rw [VRF_Ed25519.generateProof_eq libraries.sodium message pair, ← dropped]
  rfl

theorem alike {seed seed' : Bytes} (size : seed.length = 32) (size' : seed'.length = 32) :
    Alike (key size) (key size') where
  publicKeys := (key size).derived.trans (key size').derived.symm
  signatures _ := rfl
  proofs message := by rw [generateProof_key, generateProof_key]

def coinbase : Address := ⟨List.replicate 32 0xa1, rfl⟩

/-- A file with this key, a coinbase address and verbose logging. -/
def files (seed : Bytes) : Text → Except JavaException Properties := fun _ => .ok fun name =>
  if name = "signingAddressPrivateKey".toList then some (Hex.encode seed)
  else if name = "ip".toList then some "127.0.0.1".toList
  else if name = "port".toList then some "8545".toList
  else if name = "verboseLoggingEnabled".toList then some "true".toList
  else if name = "coinbaseAddress".toList then some (Hex.encode coinbase.raw)
  else none

def settings (seed : Bytes) : Settings where
  signingAddressPrivateKey := Hex.encode seed
  identityAddressString := none
  networkName := none
  ip := "127.0.0.1".toList
  port := "8545".toList
  verboseLoggingEnabled := true
  coinbaseAddress := Hex.encode coinbase.raw

theorem resolve_files (seed : Bytes) :
    resolve (files seed) ["-config".toList, "config.properties".toList] =
      .ok (some (settings seed)) := rfl

theorem hex : HexContract libraries := fun denotes => Reference.hex denotes

def signer {seed : Bytes} (size : seed.length = 32) : Signer libraries :=
  ⟨key size, ⟨⟨"127.0.0.1".toList, "8545".toList⟩, ⟨true⟩⟩, coinbase, ⟨true⟩⟩

/-- The file starts a signer without asking the node. -/
theorem main_files {seed : Bytes} (size : seed.length = 32) (w : World) :
    (main libraries (files seed) ["-config".toList, "config.properties".toList]).run w =
      (.ok (some (signer size)), w.emit (.log "Producing blocks now..".toList)) := by
  apply main_ok (resolve_files seed)
  have accepted : getStakerPrivateKey libraries (some (Hex.encode seed)) = .ok (key size) :=
    getStakerPrivateKey_encode hex (key size)
  have made : RPC.new (some "127.0.0.1".toList) (some "8545".toList) ⟨true⟩ = .ok (signer size).rpc :=
    rfl
  have given : (Hex.encode coinbase.raw).length > 0 := by decide
  unfold start settings
  rw [accepted]
  dsimp only
  rw [Exec.bind_ok (Exec.liftM_run _ _), made, Exec.bind_ok (Exec.liftM_run _ _), if_pos given,
    getAddressFromString_data hex coinbase (Hex.data_encode coinbase.raw)]
  rfl

end Blind

/-- Two seeds under the blind libraries, launched from two files. -/
theorem launch_noninterference_blind :
    ∃ (signer signer' : Signer Blind.libraries) (w v v' : World),
      signer.stakerPrivateKey.getPrivateKeyBytes ≠ signer'.stakerPrivateKey.getPrivateKeyBytes ∧
      (main Blind.libraries (Blind.files (List.replicate 32 7))
        ["-config".toList, "config.properties".toList]).run w = (.ok (some signer), v) ∧
      (main Blind.libraries (Blind.files (List.replicate 32 9))
        ["-config".toList, "config.properties".toList]).run w = (.ok (some signer'), v') ∧
      ∀ turns, transcript v (run signer turns) = transcript v' (run signer' turns) := by
  have size : (List.replicate 32 7 : Bytes).length = 32 := rfl
  have size' : (List.replicate 32 9 : Bytes).length = 32 := rfl
  let w : World := ⟨fun _ => Reference.resultRun .null, [], none⟩
  obtain ⟨v', launched', same⟩ := (launch_noninterference (Blind.resolve_files _)
    (Blind.resolve_files (List.replicate 32 9)) (Blind.main_files size w)
    (getStakerPrivateKey_encode Blind.hex (Blind.key size')) (Blind.alike size size')).1
  refine ⟨_, _, w, _, v', ?_, Blind.main_files size w, launched', same⟩
  intro equal
  have first := congrArg List.head? equal
  cases first

end BlockSigner
