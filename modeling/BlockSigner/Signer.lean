import BlockSigner.Chain.RPC
import BlockSigner.Vrf

/-! # The block signer

`BlockSigner.main`: the resolution of its settings, the look-up of the coinbase
address and the signing loop. One pass through the loop body ends in one of six
branches, the last of which is the catch-all handler; `Thread.sleep` between two
passes has no effect on the world.
-/

namespace BlockSigner

variable (lib : Libraries)

/-! ## Keys, addresses and seeds -/

def getStakerPrivateKey (privateKeyString : Option Text) : Except JavaException (PrivateKey lib) :=
  match privateKeyString with
  | none => throw (exception .illegalArgument "null signing address private key provided")
  | some privateKeyString => do
      let privateKeyBytes ← lib.hexDecode (Text.dropPrefix "0x".toList privateKeyString)
      match privateKeyBytes with
      | none => throw ⟨.nullPointer, none⟩
      | some privateKeyBytes =>
          let privateKeyBytes :=
            if privateKeyBytes.length = 64 then privateKeyBytes.take 32 else privateKeyBytes
          if privateKeyBytes.length ≠ 32 then
            throw (exception .illegalArgument
              "Signing address private key is of unexpected length")
          else PrivateKey.fromBytes lib privateKeyBytes

def getAddressFromString (addressString : Text) : Except JavaException Address := do
  let addressBytes ← lib.hexDecode (Text.dropPrefix "0x".toList addressString)
  Address.ofBytes addressBytes

def seedLength : Nat := 64

def proofLength : Nat := 80

/-- The dispatch on the shape of the old seed; null for any other shape. -/
def getNextSeed (key : PrivateKey lib) (oldSeed : Option Bytes) :
    Except JavaException (Option Bytes) :=
  match oldSeed with
  | none => pure none
  | some oldSeed =>
      if oldSeed.length = seedLength then
        some <$> lib.signMessageFromKeyBytes key.getPrivateKeyBytes oldSeed
      else if oldSeed.length = seedLength + 1 ∧ oldSeed[seedLength]? = some 0 then
        some <$> VRF_Ed25519.generateProof lib.sodium (oldSeed.take seedLength) key.getKeyPairBytes
      else if oldSeed.length = proofLength then do
        let oldSeedHash ← VRF_Ed25519.generateProofHash lib.sodium oldSeed
        some <$> VRF_Ed25519.generateProof lib.sodium oldSeedHash key.getKeyPairBytes
      else pure none

/-! ## Start -/

/-- The static and local state of `main` when it enters the loop. -/
structure Signer where
  stakerPrivateKey : PrivateKey lib
  rpc : RPC
  coinbase : Address
  logger : Logger

def stakerRegistryAmityAddress : Address :=
  ⟨(Hex.decode Hex.value?
    "a056337bb14e818f3f53e13ab0d93b6539aa570cba91ce65c716058241989be9".toList).getD [], by decide⟩

def stakerRegistryMainnetAddress : Address :=
  ⟨(Hex.decode Hex.value?
    "a0733306c2ee0c60224b0e59efeae8eee558c0ca1b39e7e5a14a575124549416".toList).getD [], by decide⟩

def toLowerCase (s : Text) : Text := s.map Char.toLower

def stakerRegistryAddress (networkName : Text) : Except JavaException Address :=
  if toLowerCase networkName = "amity".toList then pure stakerRegistryAmityAddress
  else if toLowerCase networkName = "mainnet".toList then pure stakerRegistryMainnetAddress
  else throw (exception .illegalArgument
    "Unsupported network name provided. Only amity and mainnet are supported.")

def getCoinbaseAddress (rpc : RPC) (logger : Logger) (networkName identityAddressString : Option Text) :
    Exec Address :=
  match identityAddressString with
  | none => throw (exception .illegalArgument "null identity address provided")
  | some identityAddressString =>
      match networkName with
      | none => throw ⟨.nullPointer, none⟩
      | some networkName => do
          let registry ← liftM (stakerRegistryAddress networkName)
          logger.log ("Retrieving the coinbase address from the StakerRegistry at ".toList
            ++ registry.toString ++ "...".toList)
          let identity ← liftM (getAddressFromString lib identityAddressString)
          let returnValue ← rpc.call lib ⟨registry, some (lib.encodeCoinbaseCall identity)⟩
          let decoded ← liftM (lib.decodeOneAddress returnValue)
          match decoded with
          | none => throw ⟨.nullPointer, none⟩
          | some address => do
              let coinbase ← liftM (Address.ofBytes address.toByteArray)
              logger.log ("Using coinbase address ".toList ++ coinbase.toString)
              pure coinbase

/-- The local variables of `main` once the arguments are read. -/
structure Settings where
  signingAddressPrivateKey : Option Text
  identityAddressString : Option Text
  networkName : Option Text
  ip : Option Text
  port : Option Text
  verboseLoggingEnabled : Bool
  coinbaseAddress : Option Text
  deriving DecidableEq

/-- `Boolean.parseBoolean`: null is false. -/
def parseBoolean (s : Option Text) : Bool :=
  match s with
  | none => false
  | some s => toLowerCase s == "true".toList

/-- `java.util.Properties.getProperty`, null for a missing key. -/
abbrev Properties := Text → Option Text

structure Config where
  properties : Properties

def Config.load (files : Text → Except JavaException Properties) (configFilePath : Text) :
    Except JavaException Config :=
  match files configFilePath with
  | .ok properties => pure ⟨properties⟩
  | .error e =>
      if e.cls = .io then
        throw ⟨.runtime, "Failed to read config file ".toList ++ configFilePath⟩
      else throw e

def Config.getConfigValue (config : Config) (key : String) : Option Text :=
  config.properties key.toList

/-- No settings where the help text is printed and the program exits. -/
def resolve (files : Text → Except JavaException Properties) (args : List Text) :
    Except JavaException (Option Settings) :=
  if args.length = 0 ∨ args.length = 1 ∧ args.getD 0 [] = "-h".toList then pure none
  else if args.length = 2 ∧ args.getD 0 [] = "-config".toList then do
    let config ← Config.load files (args.getD 1 [])
    pure (some
      { signingAddressPrivateKey := config.getConfigValue "signingAddressPrivateKey"
        identityAddressString := config.getConfigValue "identityAddress"
        networkName := config.getConfigValue "network"
        ip := config.getConfigValue "ip"
        port := config.getConfigValue "port"
        verboseLoggingEnabled := parseBoolean (config.getConfigValue "verboseLoggingEnabled")
        coinbaseAddress := config.getConfigValue "coinbaseAddress" })
  else if 3 ≤ args.length ∧ args.length ≤ 6 then
    pure (some
      { signingAddressPrivateKey := args.getD 0 []
        identityAddressString := args.getD 1 []
        networkName := args.getD 2 []
        ip := if args.length > 3 then args.getD 3 [] else "127.0.0.1".toList
        port := if args.length > 4 then args.getD 4 [] else "8545".toList
        verboseLoggingEnabled := if args.length = 6 then parseBoolean (args.getD 5 []) else false
        coinbaseAddress := some [] })
  else pure none

def start (settings : Settings) : Exec (Signer lib) := do
  let logger : Logger := ⟨settings.verboseLoggingEnabled⟩
  let stakerPrivateKey ← liftM (getStakerPrivateKey lib settings.signingAddressPrivateKey)
  let rpc ← liftM (RPC.new settings.ip settings.port logger)
  match settings.coinbaseAddress with
  | none => throw ⟨.nullPointer, none⟩
  | some coinbaseAddress => do
      let coinbase ←
        if coinbaseAddress.length > 0 then liftM (getAddressFromString lib coinbaseAddress)
        else getCoinbaseAddress lib rpc logger settings.networkName settings.identityAddressString
      logger.log "Producing blocks now..".toList
      pure ⟨stakerPrivateKey, rpc, coinbase, logger⟩

/-- `main` up to its loop; no signer where it printed the help text and exited. -/
def main (files : Text → Except JavaException Properties) (args : List Text) :
    Exec (Option (Signer lib)) := do
  let settings ← liftM (resolve files args)
  match settings with
  | none => pure none
  | some settings => some <$> start lib settings

/-! ## The signing loop -/

/-- Where a pass through the loop body ended. -/
inductive Branch where
  | noSeed
  | noBlock
  | alreadySubmitted
  | notAccepted
  | submitted
  | caught (e : JavaException)

def submitSeedSleepTimeMillis : Nat := 500

def noSeedLine : Text :=
  "Could not submit POS blocks. A POW block is expected at the current block number. Sleeping for ".toList
    ++ (toString submitSeedSleepTimeMillis).toList ++ " ms".toList

def noBlockLine : Text :=
  "Could not submit the POS block. Waiting for a POW block to be generated. Sleeping for ".toList
    ++ (toString submitSeedSleepTimeMillis).toList ++ " ms".toList

def submittedLine (hash : Bytes) : Text :=
  "Block submitted successfully. BlockMineHash: ".toList ++ Hex.encode hash

def alreadySubmittedLine (hash : Bytes) : Text :=
  "Block already submitted, blockMineHash: ".toList ++ Hex.encode hash

def caughtLine (e : JavaException) : Text :=
  "Block Signer caught exception, ".toList ++ lib.stackTrace e

namespace Signer

variable {lib}

/-- Sign and submit a block that is not the last one submitted. -/
def submitBlock (signer : Signer lib) (blockHashToSign : Bytes) : Exec Branch := do
  let signature ← liftM (lib.signMessageFromKeyBytes signer.stakerPrivateKey.getPrivateKeyBytes
    blockHashToSign)
  let answer ← signer.rpc.submitSignature lib signature blockHashToSign
  if parseBoolean answer then
    signer.logger.log (submittedLine blockHashToSign)
    Exec.setLastSubmittedHash blockHashToSign
    pure .submitted
  else pure .notAccepted

def body (signer : Signer lib) : Exec Branch := do
  let oldSeed ← signer.rpc.getSeed lib
  let nextSeed ← liftM (getNextSeed lib signer.stakerPrivateKey oldSeed)
  match nextSeed with
  | none => do
      signer.logger.log noSeedLine
      pure .noSeed
  | some nextSeed => do
      let blockHashToSign ← signer.rpc.submitSeed lib nextSeed
        signer.stakerPrivateKey.getPublicKeyBytes signer.coinbase.toByteArray
      match blockHashToSign with
      | none => do
          signer.logger.log noBlockLine
          pure .noBlock
      | some blockHashToSign => do
          let lastSubmittedHash ← Exec.getLastSubmittedHash
          if lastSubmittedHash ≠ some blockHashToSign then
            signer.submitBlock blockHashToSign
          else
            signer.logger.log (alreadySubmittedLine blockHashToSign)
            pure .alreadySubmitted

def pass (signer : Signer lib) : Exec Branch :=
  tryCatch signer.body fun e => do
    signer.logger.log (caughtLine lib e)
    pure (.caught e)

end Signer

/-- What the node does during one pass: the run of its first, second, ... curl. -/
abbrev Turn := Nat → CurlRun

/-- The record of one pass: `lastSubmittedHash` at its head and at its end, what
    it did, and how it left the body. -/
structure Iteration where
  before : Option Bytes
  after : Option Bytes
  events : List Event
  exit : Except JavaException Branch

variable {lib}

def iterate (signer : Signer lib) (last : Option Bytes) (turn : Turn) : Iteration :=
  let outcome := signer.pass.run ⟨turn, [], last⟩
  ⟨last, outcome.2.lastSubmittedHash, outcome.2.events, outcome.1⟩

/-- The loop, for as many passes as turns are given. An exception that leaves
    the body would end it. -/
def runFrom (signer : Signer lib) : Option Bytes → List Turn → List Iteration
  | _, [] => []
  | last, turn :: turns =>
      let iteration := iterate signer last turn
      match iteration.exit with
      | .ok _ => iteration :: runFrom signer iteration.after turns
      | .error _ => [iteration]

/-- The loop from its entry, where no block has been submitted. -/
def run (signer : Signer lib) (turns : List Turn) : List Iteration := runFrom signer none turns

def Iteration.calls (iteration : Iteration) : List (Text × CurlRun) :=
  BlockSigner.calls iteration.events

end BlockSigner
