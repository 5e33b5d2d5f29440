import BlockSigner.Runs

/-! # What a run submits

Statements about the bytes handed to curl over whole runs. An iteration pairs a
seed with the answer it was derived from and a signature with the hash and the
public key of its own submitseed; `lastSubmittedHash` is the last acknowledged
hash of the run and nothing else.
-/

namespace BlockSigner

variable {lib : Libraries}

/-! ## Nothing stale on the wire -/

/-- A run of curl whose result text is the hex text of these bytes. -/
def Returned (lib : Libraries) (answer : CurlRun) (bytes : Bytes) : Prop :=
  ∃ text, RPC.CarriesText lib answer text ∧ RPC.decodeHex text = .ok bytes

/-- The seed is the next one after the byte string returned by a getseed among
    the calls, and comes with the staker's public key and coinbase. -/
def SeedFrom (signer : Signer lib) (calls : List (Text × CurlRun))
    (seed publicKey coinbase : Bytes) : Prop :=
  ∃ asked ∈ calls, ∃ oldSeed, RpcCall.decode asked.1 = some .getSeed ∧
    Returned lib asked.2 oldSeed ∧
    getNextSeed lib signer.stakerPrivateKey (some oldSeed) = .ok (some seed) ∧
    publicKey = signer.stakerPrivateKey.getPublicKeyBytes ∧
    coinbase = signer.coinbase.toByteArray

/-- The hash was returned by a submitseed among the calls, and the signature on
    it verifies under the public key of that submitseed. -/
def SignatureFor (lib : Libraries) (verifies : Bytes → Bytes → Bytes → Prop)
    (calls : List (Text × CurlRun)) (signature blockHash : Bytes) : Prop :=
  ∃ offered ∈ calls, ∃ seed publicKey coinbase,
    RpcCall.decode offered.1 = some (.submitSeed seed publicKey coinbase) ∧
    Returned lib offered.2 blockHash ∧ verifies publicKey blockHash signature

/-- The calls of one iteration, read off the wire. -/
structure FollowsProtocol (signer : Signer lib) (verifies : Bytes → Bytes → Bytes → Prop)
    (calls : List (Text × CurlRun)) : Prop where
  methods : calls.map (fun call => (RpcCall.decode call.1).map RpcCall.method) <+:
    [some .getSeed, some .submitSeed, some .submitSignature]
  seed : ∀ call ∈ calls, ∀ seed publicKey coinbase,
    RpcCall.decode call.1 = some (.submitSeed seed publicKey coinbase) →
    SeedFrom signer calls seed publicKey coinbase
  signature : ∀ call ∈ calls, ∀ signature blockHash,
    RpcCall.decode call.1 = some (.submitSignature signature blockHash) →
    SignatureFor lib verifies calls signature blockHash

/-- Every iteration of the run, each within its own calls. -/
def RunFollowsProtocol (signer : Signer lib) (verifies : Bytes → Bytes → Bytes → Prop)
    (iterations : List Iteration) : Prop :=
  ∀ iteration ∈ iterations, FollowsProtocol signer verifies iteration.calls

section Protocol

variable {signer : Signer lib} {verifies : Bytes → Bytes → Bytes → Prop}
  {calls : List (Text × CurlRun)}

theorem SeedFrom.append {seed publicKey coinbase : Bytes}
    (h : SeedFrom signer calls seed publicKey coinbase) (later : List (Text × CurlRun)) :
    SeedFrom signer (calls ++ later) seed publicKey coinbase := by
  obtain ⟨asked, member, found⟩ := h
  exact ⟨asked, List.mem_append_left later member, found⟩

theorem SignatureFor.append {signature blockHash : Bytes}
    (h : SignatureFor lib verifies calls signature blockHash) (later : List (Text × CurlRun)) :
    SignatureFor lib verifies (calls ++ later) signature blockHash := by
  obtain ⟨offered, member, found⟩ := h
  exact ⟨offered, List.mem_append_left later member, found⟩

theorem followsProtocol_nil : FollowsProtocol signer verifies [] where
  methods := List.nil_prefix
  seed _ member := by cases member
  signature _ member := by cases member

/-- One more call, justified by the calls before it. -/
theorem FollowsProtocol.snoc (h : FollowsProtocol signer verifies calls) {call : Text × CurlRun}
    (methods : (calls ++ [call]).map (fun call => (RpcCall.decode call.1).map RpcCall.method) <+:
      [some .getSeed, some .submitSeed, some .submitSignature])
    (seed : ∀ seed publicKey coinbase,
      RpcCall.decode call.1 = some (.submitSeed seed publicKey coinbase) →
      SeedFrom signer calls seed publicKey coinbase)
    (signature : ∀ signature blockHash,
      RpcCall.decode call.1 = some (.submitSignature signature blockHash) →
      SignatureFor lib verifies calls signature blockHash) :
    FollowsProtocol signer verifies (calls ++ [call]) where
  methods := methods
  seed := by
    intro other member _ _ _ decoded
    rcases List.mem_append.mp member with member | member
    · exact (h.seed other member _ _ _ decoded).append _
    · rw [List.mem_singleton.mp member] at decoded
      exact (seed _ _ _ decoded).append _
  signature := by
    intro other member _ _ decoded
    rcases List.mem_append.mp member with member | member
    · exact (h.signature other member _ _ decoded).append _
    · rw [List.mem_singleton.mp member] at decoded
      exact (signature _ _ decoded).append _

theorem followsProtocol_asked (answer : CurlRun) :
    FollowsProtocol signer verifies [(Signer.getSeedPayload, answer)] := by
  apply followsProtocol_nil.snoc
  · simp [RpcCall.method]
  · intro _ _ _ decoded
    rw [decode_getSeedPayload] at decoded
    cases decoded
  · intro _ _ decoded
    rw [decode_getSeedPayload] at decoded
    cases decoded

theorem followsProtocol_offered {seed : Bytes} {answer : CurlRun}
    (derived : signer.derivedSeed answer = .ok (some seed)) (answer' : CurlRun) :
    FollowsProtocol signer verifies
      [(Signer.getSeedPayload, answer), (signer.submitSeedPayload seed, answer')] := by
  apply (followsProtocol_asked answer).snoc
  · simp [RpcCall.method]
  · intro _ _ _ decoded
    rw [decode_submitSeedPayload] at decoded
    cases decoded
    obtain ⟨oldSeed, answered, next⟩ := Signer.derivedSeed_some derived
    exact ⟨_, List.mem_cons_self, oldSeed, decode_getSeedPayload, RPC.bytesAnswer_some answered,
      next, rfl, rfl⟩
  · intro _ _ decoded
    rw [decode_submitSeedPayload] at decoded
    cases decoded

theorem followsProtocol_signed (signatures : SignatureContract lib verifies)
    {seed blockHash signature : Bytes} {answer answer' : CurlRun}
    (derived : signer.derivedSeed answer = .ok (some seed))
    (answered : signer.rpc.bytesAnswer lib answer' = .ok (some blockHash))
    (signed : signer.sign blockHash = .ok signature) (answer'' : CurlRun) :
    FollowsProtocol signer verifies
      [(Signer.getSeedPayload, answer), (signer.submitSeedPayload seed, answer'),
        (Signer.submitSignaturePayload signature blockHash, answer'')] := by
  apply (followsProtocol_offered derived answer').snoc
  · simp [RpcCall.method]
  · intro _ _ _ decoded
    rw [decode_submitSignaturePayload] at decoded
    cases decoded
  · intro _ _ decoded
    rw [decode_submitSignaturePayload] at decoded
    cases decoded
    exact ⟨_, List.mem_cons_of_mem _ List.mem_cons_self, _, _, _, decode_submitSeedPayload signer seed,
      RPC.bytesAnswer_some answered, signatures signer.stakerPrivateKey.derived signed⟩

/-- In every run every iteration sends a prefix of getseed, submitseed and
    submitsignature, each made from the answers of that same iteration. -/
theorem run_followsProtocol (signatures : SignatureContract lib verifies) (signer : Signer lib)
    (turns : List Turn) : RunFollowsProtocol signer verifies (run signer turns) := by
  intro iteration member
  obtain ⟨turn, branch, _, pass⟩ := run_pass member
  rcases pass.shape with asked | ⟨seed, derived, offered⟩ |
    ⟨seed, blockHash, signature, derived, answered, signed, sent⟩
  · rw [asked]
    exact followsProtocol_asked _
  · rw [offered]
    exact followsProtocol_offered derived _
  · rw [sent]
    exact followsProtocol_signed signatures derived answered signed _

end Protocol

/-! ## A concrete run -/

namespace Reference

/-- A staker that talks to a local node. -/
def signer : Signer referenceLibraries where
  stakerPrivateKey := key
  rpc := ⟨⟨"127.0.0.1".toList, "8545".toList⟩, ⟨false⟩⟩
  coinbase := ⟨List.replicate 32 0xa0, rfl⟩
  logger := ⟨false⟩

/-- A node that answers getseed with 64 bytes, submitseed with a hash and
    submitsignature with true. -/
def accepting : Turn
  | 0 => resultRun (.str (RpcCall.hexText (List.replicate 64 1)))
  | 1 => resultRun (.str (RpcCall.hexText (List.replicate 32 2)))
  | _ => resultRun (.bool true)

end Reference

theorem run_followsProtocol_accepting :
    RunFollowsProtocol Reference.signer Reference.verifies
      (run Reference.signer [Reference.accepting, Reference.accepting]) :=
  run_followsProtocol Reference.signatures _ _

/-! ## The last acknowledged hash -/

/-- Some call of the iteration submits a signature. -/
def SubmitsSignature (iteration : Iteration) : Prop :=
  ∃ call ∈ iteration.calls, ∃ signature blockHash,
    RpcCall.decode call.1 = some (.submitSignature signature blockHash)

/-- The hashes acknowledged in a part of a run, in order. -/
def acknowledgements (signer : Signer lib) (iterations : List Iteration) : List Bytes :=
  iterations.flatMap (Iteration.acknowledgements signer)

variable {signer : Signer lib} {last : Option Bytes} {turn : Turn}
  {calls : List (Text × CurlRun)} {branch : Branch} {after : Option Bytes}

theorem Pass.changes (pass : Pass signer last turn calls branch after) :
    (last.toList ++ calls.filterMap (acknowledged signer)).IsChain (· ≠ ·) := by
  rcases pass.acknowledges with ⟨none, _⟩ | ⟨blockHash, one, _, fresh⟩
  · rw [none]
    cases last <;> simp
  · rw [one]
    cases last with
    | none => simp
    | some hash =>
        have differ : hash ≠ blockHash := fun same => fresh (congrArg some same)
        simp [differ]

theorem not_submitsSignature_offered (signer : Signer lib) (seed : Bytes) (answer answer' : CurlRun) :
    ¬ ∃ call ∈ [(Signer.getSeedPayload, answer), (signer.submitSeedPayload seed, answer')],
      ∃ signature blockHash,
        RpcCall.decode call.1 = some (.submitSignature signature blockHash) := by
  simp

/-- Where submitseed returned a hash that can be signed, its signature is
    submitted unless it is the hash found at the head. -/
theorem Pass.submits_iff (pass : Pass signer last turn calls branch after)
    {offered : Text × CurlRun} (member : offered ∈ calls) {seed publicKey coinbase blockHash signature : Bytes}
    (decoded : RpcCall.decode offered.1 = some (.submitSeed seed publicKey coinbase))
    (answered : signer.rpc.bytesAnswer lib offered.2 = .ok (some blockHash))
    (signed : signer.sign blockHash = .ok signature) :
    (∃ call ∈ calls, ∃ signature blockHash,
      RpcCall.decode call.1 = some (.submitSignature signature blockHash)) ↔
      last ≠ some blockHash := by
  have second := pass.offered_answer member decoded
  rw [second] at answered
  cases pass with
  | seedFailed _ =>
      rw [List.mem_singleton.mp member, decode_getSeedPayload] at decoded
      cases decoded
  | noSeed _ =>
      rw [List.mem_singleton.mp member, decode_getSeedPayload] at decoded
      cases decoded
  | submitSeedFailed _ failed =>
      rw [answered] at failed
      cases failed
  | noBlock _ nothing =>
      rw [answered] at nothing
      cases nothing
  | alreadySubmitted _ returned same =>
      rw [answered] at returned
      cases returned
      constructor
      · intro submits
        exact absurd submits (not_submitsSignature_offered signer _ _ _)
      · intro fresh
        exact absurd same fresh
  | signFailed _ returned _ failed =>
      rw [answered] at returned
      cases returned
      rw [signed] at failed
      cases failed
  | submitSignatureFailed _ returned fresh _ _ | notAccepted _ returned fresh _ _ _
  | submitted _ returned fresh _ _ _ =>
      rw [answered] at returned
      cases returned
      constructor
      · intro _
        exact fresh
      · intro _
        exact ⟨_, List.mem_cons_of_mem _ (List.mem_cons_of_mem _ List.mem_cons_self), _, _,
          decode_submitSignaturePayload _ _⟩

/-- At each loop head `lastSubmittedHash` is the last hash acknowledged in the
    run so far; a signature is submitted for every other hash and for no other
    reason, an iteration without an acknowledgement changes nothing, and no hash
    is acknowledged twice in a row. -/
theorem run_lastSubmittedHash (signer : Signer lib) (turns : List Turn) :
    (run signer turns).length = turns.length ∧
    (∀ past iteration future, run signer turns = past ++ iteration :: future →
      iteration.before = (acknowledgements signer past).getLast? ∧
      (iteration.acknowledgements signer = [] → iteration.after = iteration.before) ∧
      (∀ offered ∈ iteration.calls, ∀ seed publicKey coinbase blockHash signature,
        RpcCall.decode offered.1 = some (.submitSeed seed publicKey coinbase) →
        signer.rpc.bytesAnswer lib offered.2 = .ok (some blockHash) →
        signer.sign blockHash = .ok signature →
        (SubmitsSignature iteration ↔
          (acknowledgements signer past).getLast? ≠ some blockHash))) ∧
    (acknowledgements signer (run signer turns)).IsChain (· ≠ ·) := by
  have trace := runFrom_trace signer none turns
  refine ⟨runFrom_length signer none turns, ?_, ?_⟩
  · intro past iteration future split
    have found : iteration.before = (acknowledgements signer past).getLast? := by
      rw [run] at split
      rw [split] at trace
      rw [trace.content_eq, Register.latest_none]
      rfl
    have member : iteration ∈ run signer turns := by
      rw [split]
      exact List.mem_append_right past List.mem_cons_self
    obtain ⟨turn, branch, _, pass⟩ := run_pass member
    refine ⟨found, ?_, ?_⟩
    · intro nothing
      rcases pass.acknowledges with ⟨_, after⟩ | ⟨blockHash, one, _⟩
      · exact after
      · rw [Iteration.acknowledgements, one] at nothing
        cases nothing
    · intro offered inCalls seed publicKey coinbase blockHash signature decoded answered signed
      rw [← found]
      exact pass.submits_iff inCalls decoded answered signed
  · apply trace.isChain
    intro iteration member
    obtain ⟨_, _, _, pass⟩ := run_pass member
    exact pass.changes

end BlockSigner
